import ProxyHeaders.Proofs.Proxy.Transcript

/-!
Where the functions of a struct come from. Each of them is a piece of the class's accessors, of the
instance's, or of a plan; and a member's plan is made with the names in use behind the members before
it. What a plan that writes can look like is said once for every kind of member.
-/
namespace ProxyHeaders.Proxy

open ProxyHeaders.Code ProxyHeaders.Mapping ProxyHeaders.Names ProxyHeaders.Template

/-! Functions and the pieces that they are -/

theorem functions_append (first second : List Note) :
    functions (first ++ second) = functions first ++ functions second := List.filterMap_append

section Sources

variable (scene : Scene)

theorem rendering_pieces {pieces : List Piece} {fragment : Fragment}
    (written : fragment ∈ functions (rendering scene pieces).1) :
    ∃ piece ∈ pieces, piece.fragment = fragment := by
  induction pieces with
  | nil => cases written
  | cons piece rest ih =>
    rw [rendering] at written
    cases rendered : scene.render scene.style piece.fragment with
    | error failure =>
      rw [rendered] at written
      cases written
    | ok code =>
      rw [rendered] at written
      rcases List.mem_cons.mp written with rfl | later
      · exact ⟨piece, List.mem_cons_self, rfl⟩
      · obtain ⟨found, listed, same⟩ := ih later
        exact ⟨found, List.mem_cons_of_mem piece listed, same⟩

theorem Member.notes_planned {member : Member} {claimed : Claimed} {fragment : Fragment}
    (written : fragment ∈ functions (member.notes scene claimed)) :
    ∃ pieces, member.plan claimed = .write pieces ∧ ∃ piece ∈ pieces, piece.fragment = fragment := by
  unfold notes at written
  cases planned : member.plan claimed with
  | skip =>
    rw [planned] at written
    cases written
  | reject message =>
    rw [planned] at written
    cases written
  | write pieces =>
    rw [planned] at written
    refine ⟨pieces, rfl, rendering_pieces scene ?_⟩
    simp only at written
    generalize rendering scene pieces = result at written ⊢
    obtain ⟨notes, failure⟩ := result
    cases failure with
    | none => exact written
    | some failure =>
      -- The remark about the failure is no function.
      rw [functions_append] at written
      rcases List.mem_append.mp written with own | remark
      · exact own
      · cases remark

def claimsBehind (claimed : Claimed) : List Member → Claimed
  | [] => claimed
  | member :: rest => claimsBehind (member.claims scene claimed) rest

theorem notesOf_append (claimed : Claimed) (first second : List Member) :
    notesOf scene claimed (first ++ second) =
      notesOf scene claimed first ++ notesOf scene (claimsBehind scene claimed first) second := by
  induction first generalizing claimed with
  | nil => rfl
  | cons member rest ih =>
    rw [List.cons_append, notesOf, ih, notesOf, List.append_assoc]
    rfl

theorem notesOf_planned {list : List Member} {claimed : Claimed} {fragment : Fragment}
    (written : fragment ∈ functions (notesOf scene claimed list)) :
    ∃ front member back pieces, list = front ++ member :: back ∧
      member.plan (claimsBehind scene claimed front) = .write pieces ∧
      ∃ piece ∈ pieces, piece.fragment = fragment := by
  induction list generalizing claimed with
  | nil => cases written
  | cons member rest ih =>
    rw [notesOf, functions_append] at written
    rcases List.mem_append.mp written with own | later
    · obtain ⟨pieces, planned, piece⟩ := member.notes_planned scene own
      exact ⟨[], member, rest, pieces, rfl, planned, piece⟩
    · obtain ⟨front, found, back, pieces, split, planned, piece⟩ := ih later
      exact ⟨member :: front, found, back, pieces, by rw [split, List.cons_append], planned, piece⟩

theorem struct_functions {image : String} {claimed : Claimed} {fragment : Fragment}
    (written : fragment ∈
      functions (bootstrapNotes scene image ++ laterNotes scene image claimed)) :
    (∃ piece ∈ bootstrapPieces scene image, piece.fragment = fragment) ∨
    (∃ piece ∈ singletonPieces scene claimed, piece.fragment = fragment) ∨
    fragment ∈ functions (notesOf scene
      (claimedBy scene claimed (singletonPieces scene claimed)) (members scene)) := by
  rw [functions_append] at written
  rcases List.mem_append.mp written with bootstrap | later
  · exact .inl (rendering_pieces scene bootstrap)
  · have silent : fragment ∉ functions [] := List.not_mem_nil
    unfold laterNotes at later
    split at later
    · exact absurd later silent
    · have singletons (notes : fragment ∈
          functions (rendering scene (singletonPieces scene claimed)).1) :=
        rendering_pieces scene notes
      simp only [memberNotes] at later
      generalize rendering scene (singletonPieces scene claimed) = result at singletons later
      obtain ⟨notes, failure⟩ := result
      cases failure with
      | some failure => exact .inr (.inl (singletons later))
      | none =>
        rw [functions_append] at later
        rcases List.mem_append.mp later with instanced | named
        · exact .inr (.inl (singletons instanced))
        · exact .inr (.inr named)

end Sources

/-! Plans that write -/

section Plans

variable {scene : Scene} {claimed : Claimed} {pieces : List Piece}

theorem getterPlan_writes {field : Field} (plan : getterPlan scene claimed field = .write pieces) :
    ¬ claimed.contains (scene.map.sanitizer.accessorName "Get" field.name) ∧
    ∃ type lossy, scene.map.mapMember (some scene.owner) field.type = .mapped type lossy ∧
      pieces = [⟨some (scene.map.sanitizer.accessorName "Get" field.name),
        .getter type.render (scene.map.sanitizer.accessorName "Get" field.name)
          (handleName scene.map field.name type.render) field.name field.isStatic⟩] := by
  simp only [getterPlan] at plan
  split at plan
  · cases plan
  · next free =>
    refine ⟨free, ?_⟩
    cases mapped : scene.map.mapMember (some scene.owner) field.type with
    | refused refusal reason lossy => simp [mapped] at plan
    | mapped type lossy =>
      simp only [mapped, Plan.write.injEq] at plan
      exact ⟨type, lossy, rfl, plan.symm⟩

theorem setterPlan_writes {field : Field} (plan : setterPlan scene claimed field = .write pieces) :
    field.isReadonly = false ∧
    ¬ claimed.contains (scene.map.sanitizer.accessorName "Set" field.name) ∧
    ∃ type lossy, scene.map.mapMember (some scene.owner) field.type = .mapped type lossy ∧
      pieces = [⟨some (scene.map.sanitizer.accessorName "Set" field.name),
        .setter type.render (scene.map.sanitizer.accessorName "Set" field.name)
          (handleName scene.map field.name type.render) field.name field.isStatic⟩] := by
  simp only [setterPlan] at plan
  split at plan
  · cases plan
  · next free =>
    rw [Bool.or_eq_true, not_or, Bool.not_eq_true] at free
    refine ⟨free.1, free.2, ?_⟩
    cases mapped : scene.map.mapMember (some scene.owner) field.type with
    | refused refusal reason lossy => simp [mapped] at plan
    | mapped type lossy =>
      simp only [mapped, Plan.write.injEq] at plan
      exact ⟨type, lossy, rfl, plan.symm⟩

/-- The accessor pieces that a property may contribute. -/
theorem propertyPlan_writes {property : Property}
    (plan : propertyPlan scene claimed property = .write pieces) :
    ∃ type lossy, scene.map.mapMember (some scene.owner) property.type = .mapped type lossy ∧
      ∀ piece ∈ pieces,
        piece.fragment = .method type.render
          ("get_" ++ localName scene.map.sanitizer property.name) ("get_" ++ property.name) [] []
          property.isStatic ∨
        piece.fragment = .method "void"
          ("set_" ++ localName scene.map.sanitizer property.name) ("set_" ++ property.name)
          [type.render ++ " value"] ["value"] property.isStatic := by
  simp only [propertyPlan] at plan
  split at plan
  · cases plan
  · cases mapped : scene.map.mapMember (some scene.owner) property.type with
    | refused refusal reason lossy => simp [mapped] at plan
    | mapped type lossy =>
      simp only [mapped, Plan.write.injEq] at plan
      refine ⟨type, lossy, rfl, ?_⟩
      subst plan
      intro piece listed
      rcases List.mem_append.mp listed with getter | setter
      · split at getter
        · rw [List.mem_singleton.mp getter]
          exact .inl rfl
        · cases getter
      · split at setter
        · rw [List.mem_singleton.mp setter]
          exact .inr rfl
        · cases setter

/-- The names that the parameters of a method get: none that a body declares itself, and none in the
types around them. -/
def argumentNames (scene : Scene) (method : Method) (returned : String) (types : List String) :
    List String :=
  scene.map.sanitizer.parameterNames (method.parameters.map (·.name))
    (bodyLocals ++ typeIdentifiers (returned :: types))

theorem methodPlan_writes {method : Method}
    (plan : methodPlan scene claimed method = .write pieces) :
    ∃ returned lossy types,
      scene.map.mapMember (some scene.owner) method.returnType = .mapped returned lossy ∧
      mapParameters scene method 0 method.parameters = .ok types ∧
      pieces = [⟨some (scene.map.sanitizer.identifier method.name),
        .method returned.render (scene.map.sanitizer.identifier method.name) method.name
          ((types.zip (argumentNames scene method returned.render types)).map
            fun (type, name) => type ++ " " ++ name)
          (argumentNames scene method returned.render types) method.isStatic⟩] := by
  simp only [methodPlan] at plan
  split at plan
  · cases plan
  · cases mapped : scene.map.mapMember (some scene.owner) method.returnType with
    | refused refusal reason lossy => simp [mapped] at plan
    | mapped returned lossy =>
      cases spelled : mapParameters scene method 0 method.parameters with
      | error message => simp [mapped, spelled] at plan
      | ok types =>
        simp only [mapped, spelled, Plan.write.injEq] at plan
        exact ⟨returned, lossy, types, rfl, rfl, plan.symm⟩

theorem mapParameters_length {method : Method} {position : Nat} {parameters : List Parameter}
    {types : List String} (mapped : mapParameters scene method position parameters = .ok types) :
    types.length = parameters.length := by
  induction parameters generalizing position types with
  | nil =>
    cases mapped
    rfl
  | cons parameter rest ih =>
    rw [mapParameters] at mapped
    split at mapped
    · cases mapped
    · cases later : mapParameters scene method (position + 1) rest with
      | error message => simp [later, bind, Except.bind] at mapped
      | ok others =>
        simp only [later, bind, Except.bind, pure, Except.pure, Except.ok.injEq] at mapped
        rw [← mapped, List.length_cons, List.length_cons, ih later]

theorem spread_length (taken names : List String) : (spread taken names).length = names.length := by
  induction names generalizing taken with
  | nil => rfl
  | cons name rest ih => rw [spread, List.length_cons, List.length_cons, ih]

theorem argumentNames_length (scene : Scene) (method : Method) (returned : String)
    (types : List String) :
    (argumentNames scene method returned types).length = method.parameters.length := by
  simp [argumentNames, Sanitizer.parameterNames, spread_length]

end Plans

end ProxyHeaders.Proxy
