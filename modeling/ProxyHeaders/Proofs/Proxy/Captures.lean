import ProxyHeaders.Proofs.Proxy.Bodies
import ProxyHeaders.Proofs.Proxy.Failure

/-!
Captured names. The names that are chosen for a function are different from each other, from the locals
of its body and from everything in the types that it spells. What can still be captured: the locals
themselves do not give way to a type or to the macro that is called like them, a handle or a parameter
does not to the macro, and a parameter not to the runtime's names that the body refers to.
-/
namespace ProxyHeaders.Proxy

open ProxyHeaders.Mapping ProxyHeaders.Names ProxyHeaders.Template

/-! The names that are chosen -/

theorem handleName_free (map : TypeMap) (member spelling : String) :
    handleName map member spelling ∉
      bodyLocals ++ implicitMembers ++ map.reservedNames ++ typeIdentifiers [spelling] :=
  firstFree_free (lengthened_injective _)

theorem argumentNames_free (scene : Scene) (method : Method) (returned : String)
    (types : List String) :
    (argumentNames scene method returned types).Nodup ∧
      ∀ name ∈ argumentNames scene method returned types,
        name ∉ bodyLocals ++ typeIdentifiers (returned :: types) := spread_free _ _

/-! What a body refers to -/

/-- A body lays out a function in full: it has the function's lines; of the names in them it declares
those that it uses, it refers to three others from outside, and the rest are keywords, members and what
its types are spelled of. -/
structure LaysOut (style : Style) (kind : Handle) (fragment : Fragment) (body : Body) : Prop where
  bodyOf : BodyOf style fragment body
  lines : body.map lineText = (fragment.lines style).map Line.text
  own : ∀ name ∈ body.used, name ∈ body.declared
  outside : ∀ name, name ∈ body.referred ↔ name ∈ ["GetClass", kind.template, style.macroName]
  plain : ∀ word ∈ typeIdentifiers body.plainCode, word ∈ plainWords

theorem BodyOf.laysOut {style : Style} {kind : Handle} {fragment : Fragment} {body : Body}
    (bodied : BodyOf style fragment body) (own : ∀ name ∈ body.used, name ∈ body.declared)
    (outside : ∀ name, name ∈ body.referred ↔
      name ∈ ["GetClass", kind.template, style.macroName]) : LaysOut style kind fragment body :=
  ⟨bodied, bodied.text, own, outside, bodied.plainCode_words⟩

/-- What is chosen for a body is different from everything but the locals of all bodies. -/
structure Sparing (map : TypeMap) (kind : Handle) (body : Body) : Prop where
  once : body.declared.Nodup
  types : ∀ name ∈ body.declared, name ∉ bodyLocals → name ∉ body.spelled
  runtime : kind = .field → "GetClass" ∉ body.declared ∧
    (map.isReservedName "Field" → "Field" ∉ body.declared)

theorem spelled_within {body : Body} {types : List String} (within : body.types ⊆ types)
    {name : String} (inside : name ∈ body.spelled) : name ∈ typeIdentifiers types := by
  obtain ⟨type, spelled, found⟩ := mem_typeIdentifiers.mp inside
  exact mem_typeIdentifiers.mpr ⟨type, within spelled, found⟩

theorem declared_apart {body : Body} {chosen locals : List String}
    (declares : body.declared.Perm (chosen ++ locals)) (once : chosen.Nodup ∧ locals.Nodup)
    (own : locals ⊆ bodyLocals) (apart : ∀ name ∈ chosen, name ∉ locals)
    (noType : ∀ name ∈ chosen, name ∉ bodyLocals → name ∉ body.spelled) :
    body.declared.Nodup ∧ ∀ name ∈ body.declared, name ∉ bodyLocals → name ∉ body.spelled := by
  constructor
  · rw [declares.nodup_iff, List.nodup_append]
    refine ⟨once.1, once.2, ?_⟩
    rintro name isChosen other isLocal rfl
    exact apart name isChosen isLocal
  · intro name declared foreign
    rcases List.mem_append.mp (declares.mem_iff.mp declared) with isChosen | isLocal
    · exact noType name isChosen foreign
    · exact absurd (own isLocal) foreign

section Accessors

variable (style : Style) (type name handle managed : String) (isStatic : Bool)

theorem getter_laysOut : LaysOut style .field (.getter type name handle managed isStatic)
    (getterBody style type name handle managed isStatic) := by
  apply (BodyOf.getter type name handle managed isStatic).laysOut
  · rw [getterBody_used, getterBody_declared]
    cases isStatic <;> simp
  · intro found
    rw [getterBody_referred]
    cases isStatic <;> simp [Handle.template] <;> tauto

theorem setter_laysOut : LaysOut style .field (.setter type name handle managed isStatic)
    (setterBody style type name handle managed isStatic) := by
  apply (BodyOf.setter type name handle managed isStatic).laysOut
  · rw [setterBody_used, setterBody_declared]
    cases isStatic <;> simp
  · intro found
    rw [setterBody_referred]
    cases isStatic <;> simp [Handle.template] <;> tauto

variable {map : TypeMap} {member : String}

theorem sparing_handle {locals : List String} (once : locals.Nodup) (own : locals ⊆ bodyLocals)
    {body : Body} (declares : body.declared.Perm (handleName map member type :: locals))
    (types : body.types ⊆ [type]) : Sparing map .field body := by
  have free := handleName_free map member type
  simp only [List.mem_append, not_or] at free
  obtain ⟨⟨⟨noLocal, noImplicit⟩, noReserved⟩, noType⟩ := free
  have outside {name : String} (foreign : name ∉ bodyLocals)
      (other : name ≠ handleName map member type) : name ∉ body.declared := by
    intro declared
    rcases List.mem_cons.mp (declares.mem_iff.mp declared) with same | isLocal
    · exact other same
    · exact foreign (own isLocal)
  have apart := declared_apart declares
    ⟨List.nodup_singleton _, once⟩ own
    (List.forall_mem_singleton.mpr fun isLocal => noLocal (own isLocal))
    (List.forall_mem_singleton.mpr fun _ inside => noType (spelled_within types inside))
  constructor
  · exact apart.1
  · exact apart.2
  · -- The runtime's names are no locals, so only the handle could be called like them.
    intro _
    constructor
    · apply outside (by decide)
      intro same
      rw [← same] at noImplicit
      exact noImplicit (by decide)
    · intro reserved
      apply outside (by decide)
      intro same
      rw [← same] at noReserved
      exact noReserved (by simpa [TypeMap.isReservedName] using reserved)

theorem getter_sparing : Sparing map .field
    (getterBody style type name (handleName map member type) managed isStatic) := by
  have declared := getterBody_declared style type name (handleName map member type) managed isStatic
  have types := getterBody_types style type name (handleName map member type) managed isStatic
  cases isStatic with
  | true =>
    exact sparing_handle type List.nodup_nil (by simp) (.of_eq declared) (by simp [types])
  | false =>
    exact sparing_handle type (List.nodup_singleton "bound") (by decide) (.of_eq declared)
      (by simp [types])

theorem setter_sparing : Sparing map .field
    (setterBody style type name (handleName map member type) managed isStatic) := by
  have declared := setterBody_declared style type name (handleName map member type) managed isStatic
  have types := setterBody_types style type name (handleName map member type) managed isStatic
  have handleFirst (rest : List String) : ("value" :: handleName map member type :: rest).Perm
      (handleName map member type :: "value" :: rest) := .swap _ _ rest
  cases isStatic with
  | true =>
    exact sparing_handle type (List.nodup_singleton "value") (by decide)
      ((List.Perm.of_eq declared).trans (handleFirst [])) (by simp [types])
  | false =>
    have once : ["value", "bound"].Nodup := by decide
    exact sparing_handle type once (by decide)
      ((List.Perm.of_eq declared).trans (handleFirst ["bound"])) (by simp [types])

end Accessors

section Methods

variable (style : Style) (returned name managed : String) (isStatic : Bool)
  {types names : List String} (typed : types.length = names.length)

include typed

theorem method_laysOut : LaysOut style .method
    (.method returned name managed ((types.zip names).map fun (type, name) => type ++ " " ++ name)
      names isStatic)
    (methodBody style returned name managed types names isStatic) := by
  apply (BodyOf.method returned name managed isStatic typed).laysOut
  · rw [methodBody_used, methodBody_declared _ _ _ _ _ typed]
    cases isStatic <;> simp +contextual
  · intro found
    rw [methodBody_referred]
    cases isStatic <;> simp [Handle.template] <;> tauto

theorem method_sparing (map : TypeMap) (once : names.Nodup)
    (noLocal : ∀ name ∈ names, name ∉ ["method", "bound"])
    (noType : ∀ name ∈ names, name ∉ bodyLocals → name ∉ typeIdentifiers (returned :: types)) :
    Sparing map .method (methodBody style returned name managed types names isStatic) := by
  have declared := methodBody_declared style returned name managed isStatic typed
  have spelled := methodBody_types style returned name managed isStatic typed
  have within : (methodBody style returned name managed types names isStatic).types ⊆
      returned :: types := by
    rw [spelled]
    cases isStatic <;> simp
  have apart : ∀ locals : List String, locals.Nodup → locals ⊆ ["method", "bound"] →
      (methodBody style returned name managed types names isStatic).declared = names ++ locals →
      Sparing map .method (methodBody style returned name managed types names isStatic) := by
    intro locals different inside declared
    have known : ["method", "bound"] ⊆ bodyLocals := by decide
    have both := declared_apart (.of_eq declared) ⟨once, different⟩ (List.Subset.trans inside known)
      (fun name parameter isLocal => noLocal name parameter (inside isLocal))
      fun name parameter foreign hidden =>
        noType name parameter foreign (spelled_within within hidden)
    exact ⟨both.1, both.2, fun isField => by cases isField⟩
  cases isStatic with
  | true => exact apart ["method"] (by decide) (by decide) declared
  | false => exact apart ["method", "bound"] (by decide) (by decide) declared

end Methods

/-! The functions of a struct -/

section Members

variable {scene : Scene}

/-- Every function that a member's plan writes is laid out by a body that spares all that it can. -/
theorem member_laidOut {member : Member} (listed : member ∈ members scene) {claimed : Claimed}
    {pieces : List Piece} (planned : member.plan claimed = .write pieces) {piece : Piece}
    (written : piece ∈ pieces) :
    ∃ kind body, LaysOut scene.style kind piece.fragment body ∧ Sparing scene.map kind body := by
  simp only [members, List.mem_append, List.mem_map] at listed
  rcases listed with ((⟨field, -, rfl⟩ | ⟨field, -, rfl⟩) | ⟨property, -, rfl⟩) | ⟨method, -, rfl⟩
  · obtain ⟨-, type, -, -, rfl⟩ := getterPlan_writes planned
    rw [List.mem_singleton.mp written]
    exact ⟨.field, _, getter_laysOut .., getter_sparing ..⟩
  · obtain ⟨-, -, type, -, -, rfl⟩ := setterPlan_writes planned
    rw [List.mem_singleton.mp written]
    exact ⟨.field, _, setter_laysOut .., setter_sparing ..⟩
  · obtain ⟨type, -, -, each⟩ := propertyPlan_writes planned
    rcases each piece written with getter | setter
    · rw [getter]
      have typed : ([] : List String).length = ([] : List String).length := rfl
      exact ⟨.method, _, method_laysOut _ _ _ _ _ typed,
        method_sparing _ _ _ _ _ typed _ List.nodup_nil (by simp) (by simp)⟩
    · rw [setter]
      -- The only parameter is called like a local, so nothing keeps it apart from the type.
      have typed : [type.render].length = ["value"].length := rfl
      have spaced : [type.render ++ " value"] =
          (([type.render].zip ["value"]).map fun (type, name) => type ++ " " ++ name) := by
        simp [String.append_assoc]
      rw [spaced]
      exact ⟨.method, _, method_laysOut _ _ _ _ _ typed,
        method_sparing _ _ _ _ _ typed _ (List.nodup_singleton "value") (by decide)
          (by simp [bodyLocals])⟩
  · obtain ⟨returned, -, types, -, spelled, rfl⟩ := methodPlan_writes planned
    rw [List.mem_singleton.mp written]
    have typed : types.length = (argumentNames scene method returned.render types).length := by
      rw [mapParameters_length spelled, argumentNames_length]
    obtain ⟨once, free⟩ := argumentNames_free scene method returned.render types
    simp only [List.mem_append, not_or] at free
    have known : ["method", "bound"] ⊆ bodyLocals := by decide
    exact ⟨.method, _, method_laysOut _ _ _ _ _ typed,
      method_sparing _ _ _ _ _ typed _ once
        (fun name parameter isLocal => (free name parameter).1 (known isLocal))
        fun name parameter _ => (free name parameter).2⟩

/-- What is left to be captured where a body spares all that it can. -/
theorem capturesNothing_iff {kind : Handle} {fragment : Fragment} {body : Body}
    (laidOut : LaysOut scene.style kind fragment body) (sparing : Sparing scene.map kind body) :
    body.CapturesNothing ↔
      (∀ name ∈ body.declared, name ∉ ["GetClass", kind.template, scene.style.macroName]) ∧
      ∀ name ∈ body.declared, name ∈ bodyLocals → name ∉ body.spelled := by
  constructor
  · intro nothing
    constructor
    · intro name declared runtime
      exact nothing.noReference name declared ((laidOut.outside name).mpr runtime)
    · intro name declared _
      exact nothing.noType name declared
  · rintro ⟨noRuntime, noLocal⟩
    constructor
    · exact sparing.once
    · intro name declared referred
      exact noRuntime name declared ((laidOut.outside name).mp referred)
    · intro name declared
      by_cases isLocal : name ∈ bodyLocals
      · exact noLocal name declared isLocal
      · exact sparing.types name declared isLocal

end Members

/-- Every accessor of a field or property and every method is written as the lines of a body whose
names are all different, and of which none but the locals of all bodies is in a type that it spells;
and the handle of a field is not called like the runtime's lookup. So it captures a name exactly if it
declares the name of the lookup, of the runtime's template or of the macro, or if a type that it
spells has the name of such a local in it. -/
theorem captures_named (scene : Scene) (draft : Draft) {fragment : Fragment}
    (written : fragment ∈ functions (notesOf scene draft.claimed (members scene))) :
    (draft.addNamed scene).buffer =
      (notesOf scene draft.claimed (members scene)).foldl Note.write draft.buffer ∧
    ∃ kind body, LaysOut scene.style kind fragment body ∧ Sparing scene.map kind body ∧
      (body.CapturesNothing ↔
        (∀ name ∈ body.declared, name ∉ ["GetClass", kind.template, scene.style.macroName]) ∧
        ∀ name ∈ body.declared, name ∈ bodyLocals → name ∉ body.spelled) := by
  constructor
  · rw [Draft.addNamed_members, Draft.performAll_notes]
  · obtain ⟨front, member, back, pieces, split, planned, piece, listed, rfl⟩ :=
      notesOf_planned scene written
    have present : member ∈ members scene := by rw [split]; simp
    obtain ⟨kind, body, laidOut, sparing⟩ := member_laidOut present planned listed
    exact ⟨kind, body, laidOut, sparing, capturesNothing_iff laidOut sparing⟩

theorem BodyOf.declares_arguments {style : Style} {returned name managed : String}
    {parameters arguments : List String} {isStatic : Bool} {body : Body}
    (bodied : BodyOf style (.method returned name managed parameters arguments isStatic) body) :
    arguments ⊆ body.declared := by
  cases bodied with
  | method _ _ _ _ typed =>
    rw [methodBody_declared _ _ _ _ _ typed]
    exact List.subset_append_left _ _

/-! A method with a parameter that is called like the runtime's lookup. -/

def finding : Method :=
  { name := "Find"
    returnType := { name := "Void", space := some "System" }
    parameters := [{ name := some "GetClass", type := { name := "Int32", space := some "System" } }] }

def finder : TypeDecl := { name := "Player", methods := [finding] }

def finderScene : Scene := sceneOf {} finder

theorem finder_members : members finderScene =
    [⟨"method", "Find", fun claimed => methodPlan finderScene claimed finding⟩] := by
  have fields : emittableFields finderScene.type = [] := List.mergeSort_nil
  have properties : emittableProperties finderScene = [] := List.mergeSort_nil
  have methods : emittableMethods finderScene = [finding] :=
    List.mergeSort_of_pairwise (by decide)
  rw [members, fields, properties, methods]
  rfl

theorem finder_captured : ∃ fragment body,
    fragment ∈ functions (notesOf finderScene (Claimed.forStruct "Player") (members finderScene)) ∧
      BodyOf finderScene.style fragment body ∧ "GetClass" ∈ body.declared ∧
      "GetClass" ∈ body.referred ∧ ¬ body.CapturesNothing := by
  have written : .method "void" "Find" "Find" ["int GetClass"] ["GetClass"] false ∈
      functions (notesOf finderScene (Claimed.forStruct "Player") (members finderScene)) := by
    rw [finder_members]
    decide +kernel
  obtain ⟨-, kind, body, laidOut, -, captures⟩ := captures_named finderScene
    { buffer := {}, claimed := Claimed.forStruct "Player" } written
  have declared : "GetClass" ∈ body.declared :=
    laidOut.bodyOf.declares_arguments (List.mem_singleton_self "GetClass")
  have referred : "GetClass" ∈ body.referred :=
    (laidOut.outside "GetClass").mpr List.mem_cons_self
  refine ⟨_, body, written, laidOut.bodyOf, declared, referred, ?_⟩
  intro nothing
  exact (captures.mp nothing).1 "GetClass" declared List.mem_cons_self

end ProxyHeaders.Proxy
