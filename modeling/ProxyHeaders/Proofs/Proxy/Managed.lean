import ProxyHeaders.Proofs.Proxy.Brackets
import ProxyHeaders.Proofs.Proxy.Planned
import ProxyHeaders.Proofs.Template.Lookups

/-!
What the functions of a struct stand for. Each of them is made for one member of the type and looks
that member up by its managed name, whatever the function itself is called.
-/
namespace ProxyHeaders.Proxy

open ProxyHeaders.Mapping ProxyHeaders.Names ProxyHeaders.Template

/-- The part of a type that a function of its struct stands for: the function is called after it and
looks it up by its managed name. A method's function has one parameter for each of the managed ones,
and passes on their names. -/
inductive StandsFor (scene : Scene) (image : String) : Fragment → Prop where
  | type : StandsFor scene image
      (.bootstrap ((stated scene.type.space).getD "") scene.type.name image)
  | instanceProperty {property : Property} (listed : property ∈ scene.type.properties) :
    StandsFor scene image (.singleton (scene.structName ++ "*") ("get_" ++ property.name)
      ("get_" ++ property.name) false)
  | instanceField {field : Field} (listed : field ∈ scene.type.fields) :
    StandsFor scene image (.singleton (scene.structName ++ "*") "GetInstance" field.name true)
  | fieldGetter {field : Field} (listed : field ∈ scene.type.fields) (type handle : String) :
    StandsFor scene image (.getter type (scene.map.sanitizer.accessorName "Get" field.name) handle
      field.name field.isStatic)
  | fieldSetter {field : Field} (listed : field ∈ scene.type.fields) (type handle : String) :
    StandsFor scene image (.setter type (scene.map.sanitizer.accessorName "Set" field.name) handle
      field.name field.isStatic)
  | propertyGetter {property : Property} (listed : property ∈ scene.type.properties)
    (type : String) : StandsFor scene image
      (.method type ("get_" ++ localName scene.map.sanitizer property.name)
        ("get_" ++ property.name) [] [] property.isStatic)
  | propertySetter {property : Property} (listed : property ∈ scene.type.properties)
    (type : String) : StandsFor scene image
      (.method "void" ("set_" ++ localName scene.map.sanitizer property.name)
        ("set_" ++ property.name) [type ++ " value"] ["value"] property.isStatic)
  | method {method : Method} (listed : method ∈ scene.type.methods) (returned : String)
    {types : List String} (typed : types.length = method.parameters.length)
    (named : (argumentNames scene method returned types).length = method.parameters.length) :
    StandsFor scene image
      (.method returned (scene.map.sanitizer.identifier method.name) method.name
        ((types.zip (argumentNames scene method returned types)).map
          fun (type, name) => type ++ " " ++ name)
        (argumentNames scene method returned types) method.isStatic)

variable {scene : Scene} {image : String} {fragment : Fragment}

theorem StandsFor.isFunction (stands : StandsFor scene image fragment) : fragment.isFunction := by
  cases stands <;> rfl

theorem singleton_standsFor {claimed : Claimed} {piece : Piece}
    (listed : piece ∈ singletonPieces scene claimed) : StandsFor scene image piece.fragment := by
  rcases List.mem_append.mp listed with property | field
  · split at property
    · next wanted =>
      cases List.mem_singleton.mp property
      rw [Bool.and_eq_true, List.any_eq_true] at wanted
      obtain ⟨⟨found, present, same⟩, -⟩ := wanted
      simp only [Bool.and_eq_true, beq_iff_eq] at same
      have stands : StandsFor scene image (.singleton (scene.structName ++ "*")
          ("get_" ++ found.name) ("get_" ++ found.name) false) := .instanceProperty present
      rwa [same.1.1] at stands
    · cases property
  · split at field
    · next wanted =>
      cases List.mem_singleton.mp field
      rw [Bool.and_eq_true, List.any_eq_true] at wanted
      obtain ⟨⟨found, present, same⟩, -⟩ := wanted
      simp only [Bool.and_eq_true, beq_iff_eq] at same
      have stands : StandsFor scene image
          (.singleton (scene.structName ++ "*") "GetInstance" found.name true) :=
        .instanceField present
      rwa [same.1] at stands
    · cases field

theorem member_standsFor {member : Member} (listed : member ∈ members scene) {claimed : Claimed}
    {pieces : List Piece} (planned : member.plan claimed = .write pieces) {piece : Piece}
    (written : piece ∈ pieces) : StandsFor scene image piece.fragment := by
  have field {field : Field} (emittable : field ∈ emittableFields scene.type) :
      field ∈ scene.type.fields := (List.mem_filter.mp (mem_of_sortByName emittable)).1
  simp only [members, List.mem_append, List.mem_map] at listed
  rcases listed with ((⟨source, own, rfl⟩ | ⟨source, own, rfl⟩) | ⟨source, own, rfl⟩) |
      ⟨source, own, rfl⟩
  · obtain ⟨-, type, -, -, rfl⟩ := getterPlan_writes planned
    rw [List.mem_singleton.mp written]
    exact .fieldGetter (field own) _ _
  · obtain ⟨-, -, type, -, -, rfl⟩ := setterPlan_writes planned
    rw [List.mem_singleton.mp written]
    exact .fieldSetter (field own) _ _
  · have present : source ∈ scene.type.properties :=
      (List.mem_filter.mp (mem_of_sortByName own)).1
    obtain ⟨type, -, -, each⟩ := propertyPlan_writes planned
    rcases each piece written with getter | setter
    · rw [getter]
      exact .propertyGetter present _
    · rw [setter]
      exact .propertySetter present _
  · have present : source ∈ scene.type.methods :=
      (List.mem_filter.mp (mem_of_sortByName own)).1
    obtain ⟨returned, -, types, -, spelled, rfl⟩ := methodPlan_writes planned
    rw [List.mem_singleton.mp written]
    exact .method present _ (mapParameters_length spelled) (argumentNames_length _ _ _ _)

theorem struct_standsFor {claimed : Claimed} (written : fragment ∈
    functions (bootstrapNotes scene image ++ laterNotes scene image claimed)) :
    StandsFor scene image fragment := by
  rcases struct_functions scene written with ⟨piece, listed, rfl⟩ | ⟨piece, listed, rfl⟩ | named
  · rw [List.mem_singleton.mp listed]
    exact .type
  · exact singleton_standsFor listed
  · obtain ⟨front, member, back, pieces, split, planned, piece, listed, rfl⟩ :=
      notesOf_planned scene named
    have present : member ∈ members scene := by rw [split]; simp
    exact member_standsFor present planned listed

theorem StandsFor.arguments_word (wordy : scene.map.sanitizer.Wordy)
    {returned name managed : String} {parameters arguments : List String} {isStatic : Bool}
    (stands : StandsFor scene image
      (.method returned name managed parameters arguments isStatic)) :
    ∀ argument ∈ arguments, IsWord argument := by
  cases stands with
  | propertyGetter listed => exact fun _ member => by cases member
  | propertySetter listed => exact List.forall_mem_singleton.mpr (by decide)
  | method listed => exact Sanitizer.parameterNames_word wordy _ _

theorem StandsFor.call_statement (wordy : scene.map.sanitizer.Wordy)
    (stands : StandsFor scene image fragment) {call : String}
    (called : fragment.call? = some call) : IsStatement call := by
  cases fragment with
  | method returnType name managed parameters arguments isStatic =>
    cases called
    have passed : Unbroken (", ".intercalate arguments) :=
      neutral_unbroken (intercalate_neutral (by decide) fun argument listed =>
        word_neutral (stands.arguments_word wordy argument listed))
    refine .closed (unbroken_append ?_ passed) ⟨by decide, by decide⟩
    cases isStatic with
    | true => decide
    | false => decide
  | bootstrap | singleton | getter | setter | enumeration | preamble => cases called

end ProxyHeaders.Proxy
