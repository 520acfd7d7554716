import Mathlib.Data.List.Nodup
import ProxyHeaders.Proofs.Names.Answers
import ProxyHeaders.Proofs.Proxy.Planned
import ProxyHeaders.Proofs.Proxy.Removals

/-!
Getters and setters of one name. Fields whose accessors would have the same name are served in order,
once for the getters and once more for the setters. A field that is only read takes the getter and
leaves the setter to another one; a pair is of one field exactly if the field that got the getter can
be written.
-/
namespace ProxyHeaders.Proxy

open ProxyHeaders.Code ProxyHeaders.Mapping ProxyHeaders.Names ProxyHeaders.Template

/-! Names stay in use -/

section Kept

variable (scene : Scene) {claimed : Claimed} {name : String}

theorem claimedBy_kept (pieces : List Piece) (inUse : claimed.contains name) :
    (claimedBy scene claimed pieces).contains name := by
  induction pieces generalizing claimed with
  | nil => exact inUse
  | cons piece rest ih =>
    have kept : ((piece.claims.map claimed.claim).getD claimed).contains name := by
      cases piece.claims with
      | none => exact inUse
      | some other => exact Claimed.contains_claim.mpr (.inr inUse)
    rw [claimedBy]
    cases scene.render scene.style piece.fragment with
    | ok code => exact ih kept
    | error failure => exact kept

theorem Member.claims_kept (member : Member) (inUse : claimed.contains name) :
    (member.claims scene claimed).contains name := by
  unfold claims
  cases member.plan claimed with
  | skip => exact inUse
  | reject message => exact inUse
  | write pieces => exact claimedBy_kept scene pieces inUse

theorem claimsBehind_kept (list : List Member) (inUse : claimed.contains name) :
    (claimsBehind scene claimed list).contains name := by
  induction list generalizing claimed with
  | nil => exact inUse
  | cons member rest ih => exact ih (member.claims_kept scene inUse)

theorem Member.claims_planned {member : Member} {fragment : Fragment}
    (planned : member.plan claimed = .write [⟨some name, fragment⟩]) :
    (member.claims scene claimed).contains name := by
  have taken : (claimed.claim name).contains name := Claimed.contains_claim.mpr (.inl rfl)
  simp only [claims, planned, claimedBy, Option.map_some, Option.getD_some]
  cases scene.render scene.style fragment with
  | ok code => exact taken
  | error failure => exact taken

end Kept

/-! One pass over the fields -/

/-- A pass over fields: each field that wants a function gets one under its label, unless the label is
in use. -/
structure Pass where
  member : Field → Member
  label : Field → String
  wants : Field → Bool
  sparing : ∀ {field claimed pieces}, (member field).plan claimed = .write pieces → wants field
  taking : ∀ {field claimed}, wants field → ¬ claimed.contains (label field) →
    ∃ fragment, (member field).plan claimed = .write [⟨some (label field), fragment⟩]
  avoiding : ∀ {field claimed pieces}, (member field).plan claimed = .write pieces →
    ¬ claimed.contains (label field)

namespace Pass

variable (pass : Pass) (scene : Scene)

theorem label_inUse {fields : List Field} {claimed : Claimed} {field : Field}
    (listed : field ∈ fields) (wanted : pass.wants field) :
    (claimsBehind scene claimed (fields.map pass.member)).contains (pass.label field) := by
  induction fields generalizing claimed with
  | nil => cases listed
  | cons first rest ih =>
    rcases List.mem_cons.mp listed with rfl | later
    · have own : ((pass.member field).claims scene claimed).contains (pass.label field) := by
        by_cases inUse : claimed.contains (pass.label field)
        · exact Member.claims_kept scene _ inUse
        · obtain ⟨fragment, planned⟩ := pass.taking wanted inUse
          exact Member.claims_planned scene planned
      exact claimsBehind_kept scene (rest.map pass.member) own
    · exact ih later

/-- First come, first served: a function that a pass writes is of the first field that wants one under
its label. -/
theorem first_served {fields : List Field} {claimed : Claimed} {fragment : Fragment}
    (written : fragment ∈ functions (notesOf scene claimed (fields.map pass.member))) :
    ∃ field inUse pieces, (pass.member field).plan inUse = .write pieces ∧
      (∃ piece ∈ pieces, piece.fragment = fragment) ∧
      fields.find? (fun other => pass.wants other && pass.label other == pass.label field) =
        some field := by
  obtain ⟨front, member, back, pieces, split, planned, piece⟩ := notesOf_planned scene written
  obtain ⟨before, after, whole, isFront, isAfter⟩ := List.map_eq_append_iff.mp split
  obtain ⟨field, later, cut, isMember, -⟩ := List.map_eq_cons_iff.mp isAfter
  rw [← isMember, ← isFront] at planned
  refine ⟨field, _, pieces, planned, piece, List.find?_eq_some_iff_append.mpr ⟨?_, ?_⟩⟩
  · simpa using pass.sparing planned
  · refine ⟨before, later, by rw [whole, cut], ?_⟩
    intro other earlier
    -- An earlier field of the label would have it in use by now.
    have free := pass.avoiding planned
    by_contra served
    simp only [Bool.not_eq_true, Bool.not_eq_false', Bool.and_eq_true, beq_iff_eq] at served
    have taken : (claimsBehind scene claimed (before.map pass.member)).contains
        (pass.label other) := pass.label_inUse scene earlier served.1
    rw [served.2] at taken
    exact free taken

end Pass

/-! The passes for getters and for setters -/

section Passes

variable (scene : Scene)

/-- How the type of a field is spelled, if it maps. -/
def spelling? (field : Field) : Option String :=
  match scene.map.mapMember (some scene.owner) field.type with
  | .mapped type _ => some type.render
  | .refused _ _ _ => none

variable {scene} in
theorem spelling_of_mapped {field : Field} {type : CppType} {lossy : Bool}
    (mapped : scene.map.mapMember (some scene.owner) field.type = .mapped type lossy) :
    spelling? scene field = some type.render := by
  rw [spelling?, mapped]

theorem getterPlan_mapped {field : Field} {claimed : Claimed} {type : CppType} {lossy : Bool}
    (free : ¬ claimed.contains (scene.map.sanitizer.accessorName "Get" field.name))
    (mapped : scene.map.mapMember (some scene.owner) field.type = .mapped type lossy) :
    getterPlan scene claimed field =
      .write [⟨some (scene.map.sanitizer.accessorName "Get" field.name),
        .getter type.render (scene.map.sanitizer.accessorName "Get" field.name)
          (handleName scene.map field.name type.render) field.name field.isStatic⟩] := by
  simp only [getterPlan, if_neg free, mapped]

theorem setterPlan_mapped {field : Field} {claimed : Claimed} {type : CppType} {lossy : Bool}
    (writable : field.isReadonly = false)
    (free : ¬ claimed.contains (scene.map.sanitizer.accessorName "Set" field.name))
    (mapped : scene.map.mapMember (some scene.owner) field.type = .mapped type lossy) :
    setterPlan scene claimed field =
      .write [⟨some (scene.map.sanitizer.accessorName "Set" field.name),
        .setter type.render (scene.map.sanitizer.accessorName "Set" field.name)
          (handleName scene.map field.name type.render) field.name field.isStatic⟩] := by
  simp only [setterPlan, writable, Bool.false_or, if_neg free, mapped]

theorem mapped_of_spelling {field : Field} (spelled : (spelling? scene field).isSome) :
    ∃ type lossy,
      scene.map.mapMember (some scene.owner) field.type = .mapped type lossy := by
  unfold spelling? at spelled
  cases mapped : scene.map.mapMember (some scene.owner) field.type with
  | refused refusal reason lossy =>
    rw [mapped] at spelled
    cases spelled
  | mapped type lossy => exact ⟨type, lossy, rfl⟩

def getterPass : Pass where
  member := getterOf scene
  label field := scene.map.sanitizer.accessorName "Get" field.name
  wants field := (spelling? scene field).isSome
  sparing planned := by
    obtain ⟨-, type, lossy, mapped, -⟩ := getterPlan_writes planned
    simp [spelling_of_mapped mapped]
  avoiding planned := (getterPlan_writes planned).1
  taking wanted free := by
    obtain ⟨type, lossy, mapped⟩ := mapped_of_spelling scene wanted
    exact ⟨_, getterPlan_mapped scene free mapped⟩

def setterPass : Pass where
  member := setterOf scene
  label field := scene.map.sanitizer.accessorName "Set" field.name
  wants field := !field.isReadonly && (spelling? scene field).isSome
  sparing planned := by
    obtain ⟨writable, -, type, lossy, mapped, -⟩ := setterPlan_writes planned
    simp [spelling_of_mapped mapped, writable]
  avoiding planned := (setterPlan_writes planned).2.1
  taking wanted free := by
    rw [Bool.and_eq_true, Bool.not_eq_true'] at wanted
    obtain ⟨type, lossy, mapped⟩ := mapped_of_spelling scene wanted.2
    exact ⟨_, setterPlan_mapped scene wanted.1 free mapped⟩

end Passes

/-! Which pass a function comes from -/

section Written

variable {scene : Scene} {claimed : Claimed}

/-- A function of a member is of the pass for getters, of that for setters, or a method. -/
theorem members_written {fragment : Fragment}
    (written : fragment ∈ functions (notesOf scene claimed (members scene))) :
    (fragment ∈ functions (notesOf scene claimed
      ((emittableFields scene.type).map (getterPass scene).member))) ∨
    (∃ inUse, fragment ∈ functions (notesOf scene inUse
      ((emittableFields scene.type).map (setterPass scene).member))) ∨
    ∃ returned name managed parameters arguments isStatic,
      fragment = .method returned name managed parameters arguments isStatic := by
  rw [members, List.append_assoc, List.append_assoc, notesOf_append, functions_append,
    List.mem_append, notesOf_append, functions_append, List.mem_append] at written
  rcases written with getter | setter | later
  · exact .inl getter
  · exact .inr (.inl ⟨_, setter⟩)
  · obtain ⟨front, member, back, pieces, split, planned, piece, listed, rfl⟩ :=
      notesOf_planned scene later
    have own : member ∈ front ++ member :: back := by simp
    rw [← split, List.mem_append, List.mem_map, List.mem_map] at own
    rcases own with ⟨property, -, rfl⟩ | ⟨method, -, rfl⟩
    · obtain ⟨type, lossy, -, each⟩ := propertyPlan_writes planned
      rcases each piece listed with get | set
      · exact .inr (.inr ⟨_, _, _, _, _, _, get⟩)
      · exact .inr (.inr ⟨_, _, _, _, _, _, set⟩)
    · obtain ⟨returned, lossy, types, -, -, rfl⟩ := methodPlan_writes planned
      rw [List.mem_singleton.mp listed]
      exact .inr (.inr ⟨_, _, _, _, _, _, rfl⟩)

theorem accessorName_same (sanitizer : Sanitizer) (start name other : String) :
    (sanitizer.accessorName start name == sanitizer.accessorName start other) =
      (sanitizer.accessorName "" name == sanitizer.accessorName "" other) := by
  rw [Bool.eq_iff_iff, beq_iff_eq, beq_iff_eq]
  simp [Sanitizer.accessorName]

/-- What a field's accessors are called behind `Get` and `Set`. -/
def stem (scene : Scene) (field : Field) : String :=
  scene.map.sanitizer.accessorName "" field.name

theorem accessorName_stem (start : String) (field : Field) :
    scene.map.sanitizer.accessorName start field.name = start ++ stem scene field := by
  simp [stem, Sanitizer.accessorName]

theorem getter_served {type name handle managed : String} {isStatic : Bool}
    (written : .getter type name handle managed isStatic ∈
      functions (notesOf scene claimed (members scene))) :
    ∃ field, (emittableFields scene.type).find? (fun other =>
        (spelling? scene other).isSome && stem scene other == stem scene field) = some field ∧
      name = "Get" ++ stem scene field ∧ managed = field.name ∧
      spelling? scene field = some type := by
  rcases members_written written with getter | ⟨inUse, setter⟩ | ⟨_, _, _, _, _, _, method⟩
  · obtain ⟨field, inUse, pieces, planned, ⟨piece, listed, same⟩, first⟩ :=
      (getterPass scene).first_served scene getter
    obtain ⟨-, found, lossy, mapped, rfl⟩ := getterPlan_writes planned
    rw [List.mem_singleton.mp listed] at same
    cases same
    simp only [getterPass, accessorName_same] at first
    exact ⟨field, first, accessorName_stem _ field, rfl, spelling_of_mapped mapped⟩
  · obtain ⟨field, inUse, pieces, planned, ⟨piece, listed, same⟩, -⟩ :=
      (setterPass scene).first_served scene setter
    obtain ⟨-, -, found, lossy, -, rfl⟩ := setterPlan_writes planned
    rw [List.mem_singleton.mp listed] at same
    cases same
  · cases method

theorem setter_served {type name handle managed : String} {isStatic : Bool}
    (written : .setter type name handle managed isStatic ∈
      functions (notesOf scene claimed (members scene))) :
    ∃ field, (emittableFields scene.type).find? (fun other =>
        (!other.isReadonly && (spelling? scene other).isSome) &&
          stem scene other == stem scene field) = some field ∧
      name = "Set" ++ stem scene field ∧ managed = field.name ∧
      spelling? scene field = some type := by
  rcases members_written written with getter | ⟨inUse, setter⟩ | ⟨_, _, _, _, _, _, method⟩
  · obtain ⟨field, inUse, pieces, planned, ⟨piece, listed, same⟩, -⟩ :=
      (getterPass scene).first_served scene getter
    obtain ⟨-, found, lossy, -, rfl⟩ := getterPlan_writes planned
    rw [List.mem_singleton.mp listed] at same
    cases same
  · obtain ⟨field, inUse, pieces, planned, ⟨piece, listed, same⟩, first⟩ :=
      (setterPass scene).first_served scene setter
    obtain ⟨-, -, found, lossy, mapped, rfl⟩ := setterPlan_writes planned
    rw [List.mem_singleton.mp listed] at same
    cases same
    simp only [setterPass, accessorName_same] at first
    exact ⟨field, first, accessorName_stem _ field, rfl, spelling_of_mapped mapped⟩
  · cases method

end Written

/-- A getter is of the first field of its stem that maps, and a setter of the first that can be
written as well. So the two accessors of a stem are of one field, and of one type, if the field that
got the getter can be written; if it is only read, the setter is of another field. -/
theorem accessor_pairs (scene : Scene) (draft : Draft)
    {shared type handle managed otherType otherHandle otherManaged : String}
    {isStatic otherStatic : Bool}
    (reads : .getter type ("Get" ++ shared) handle managed isStatic ∈
      functions (notesOf scene draft.claimed (members scene)))
    (writes : .setter otherType ("Set" ++ shared) otherHandle otherManaged otherStatic ∈
      functions (notesOf scene draft.claimed (members scene))) :
    (draft.addNamed scene).buffer =
      (notesOf scene draft.claimed (members scene)).foldl Note.write draft.buffer ∧
    ∃ reader ∈ scene.type.fields, ∃ writer ∈ scene.type.fields,
      ((emittableFields scene.type).find? (fun other =>
        (spelling? scene other).isSome && stem scene other == shared) = some reader ∧
        managed = reader.name ∧ spelling? scene reader = some type) ∧
      ((emittableFields scene.type).find? (fun other =>
        (!other.isReadonly && (spelling? scene other).isSome) && stem scene other == shared) =
          some writer ∧
        otherManaged = writer.name ∧ spelling? scene writer = some otherType) ∧
      (¬ reader.isReadonly → otherManaged = managed ∧ otherType = type) ∧
      (reader.isReadonly → (scene.type.fields.map (·.name)).Nodup → otherManaged ≠ managed) := by
  obtain ⟨reader, readFirst, readNamed, rfl, readType⟩ := getter_served reads
  obtain ⟨writer, writeFirst, writeNamed, rfl, writeType⟩ := setter_served writes
  have readStem : stem scene reader = shared := (String.append_right_inj "Get").mp readNamed.symm
  have writeStem : stem scene writer = shared := (String.append_right_inj "Set").mp writeNamed.symm
  rw [readStem] at readFirst
  rw [writeStem] at writeFirst
  have own {field : Field} (listed : field ∈ emittableFields scene.type) :
      field ∈ scene.type.fields := (List.mem_filter.mp (List.mem_mergeSort.mp listed)).1
  have readOwn := own (List.mem_of_find?_eq_some readFirst)
  have writeOwn := own (List.mem_of_find?_eq_some writeFirst)
  refine ⟨?_, reader, readOwn, writer, writeOwn, ⟨readFirst, rfl, readType⟩,
    ⟨writeFirst, rfl, writeType⟩, ?_, ?_⟩
  · rw [Draft.addNamed_members, Draft.performAll_notes]
  · intro writable
    -- No field before the reader maps under the stem, so none before it can be written under it.
    obtain ⟨wanted, front, back, split, passed⟩ := List.find?_eq_some_iff_append.mp readFirst
    have first : (emittableFields scene.type).find? (fun other =>
        (!other.isReadonly && (spelling? scene other).isSome) && stem scene other == shared) =
          some reader := by
      refine List.find?_eq_some_iff_append.mpr ⟨?_, front, back, split, ?_⟩
      · simpa [writable] using wanted
      · intro other earlier
        have unread := passed other earlier
        simp only [Bool.not_eq_true', Bool.and_eq_false_iff] at unread ⊢
        rcases unread with unmapped | elsewhere
        · exact .inl (.inr unmapped)
        · exact .inr elsewhere
    rw [first, Option.some_inj] at writeFirst
    subst writeFirst
    rw [readType, Option.some_inj] at writeType
    exact ⟨rfl, writeType.symm⟩
  · intro onlyRead distinct same
    have writable := List.find?_some writeFirst
    have one : writer = reader := List.inj_on_of_nodup_map distinct writeOwn readOwn same
    simp [one, onlyRead] at writable

/-! A field that is only read, and one whose name differs in the case of its first letter. -/

def shownHealth : Field :=
  { name := "Health", type := { name := "Int32", space := some "System" }, isReadonly := true }

def ownHealth : Field := { name := "health", type := { name := "Single", space := some "System" } }

def patient : TypeDecl := { name := "Player", fields := [shownHealth, ownHealth] }

def patientScene : Scene := sceneOf {} patient

theorem patient_members : members patientScene =
    [getterOf patientScene shownHealth, getterOf patientScene ownHealth,
      setterOf patientScene shownHealth, setterOf patientScene ownHealth] := by
  have fields : emittableFields patientScene.type = [shownHealth, ownHealth] :=
    List.mergeSort_of_pairwise (by decide)
  have properties : emittableProperties patientScene = [] := List.mergeSort_nil
  have methods : emittableMethods patientScene = [] := List.mergeSort_nil
  rw [members, fields, properties, methods]
  rfl

theorem patient_pair_differs :
    ∃ handle otherHandle,
      .getter "int" "GetHealth" handle "Health" false ∈
        functions (notesOf patientScene (Claimed.forStruct "Player") (members patientScene)) ∧
      .setter "float" "SetHealth" otherHandle "health" false ∈
        functions (notesOf patientScene (Claimed.forStruct "Player") (members patientScene)) ∧
      ∃ reader ∈ patient.fields, reader.isReadonly ∧ reader.name = "Health" := by
  have reads : .getter "int" ("Get" ++ "Health") "Health" "Health" false ∈
      functions (notesOf patientScene (Claimed.forStruct "Player") (members patientScene)) := by
    rw [patient_members]
    decide +kernel
  have writes : .setter "float" ("Set" ++ "Health") "health" "health" false ∈
      functions (notesOf patientScene (Claimed.forStruct "Player") (members patientScene)) := by
    rw [patient_members]
    decide +kernel
  obtain ⟨-, reader, listed, writer, -, ⟨-, named, -⟩, -, together, -⟩ := accessor_pairs patientScene
    { buffer := {}, claimed := Claimed.forStruct "Player" } reads writes
  refine ⟨"Health", "health", reads, writes, reader, listed, ?_, named.symm⟩
  by_contra writable
  exact absurd (together writable).1 (by decide)

end ProxyHeaders.Proxy
