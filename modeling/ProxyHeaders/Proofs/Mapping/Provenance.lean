import Mathlib.Data.List.Nodup
import ProxyHeaders.Proofs.Mapping.Declared
import ProxyHeaders.Proofs.Mapping.Spelling

/-!
The rules by which references are mapped, and where the types in a spelling come from. Everything
that is mapped is mapped by one of the rules, so what holds of mapped types is shown rule by rule.
A spelling is made of types that the headers are given, of addresses, arrays and lists, and of types
that the run declares. The last are spelled as the reference to them is, and are never the owner;
they are enums of the run unless the reference calls an enum what the run declares otherwise. So a
spelling can only name such types of the run as a reference to a declared type leads to.
-/
namespace ProxyHeaders.Mapping

/-- A reference maps to a type of the headers; one rule for each kind of reference. -/
inductive Maps (map : TypeMap) (owner : Option String) : TypeRef → CppType → Prop where
  | address {ref element : TypeRef} {shape : CppType} (byref : ref.isByref)
    (found : ref.element = some element) (inner : Maps map owner element shape) :
    Maps map owner ref (.pointer shape)
  | nullable {ref argument : TypeRef} {shape : CppType} (nullable : ref.isNullable)
    (found : ref.arguments = [argument]) (inner : Maps map owner argument shape) :
    Maps map owner ref shape
  | array {ref element : TypeRef} {shape : CppType} (isArray : ref.isArray)
    (found : ref.element = some element) (inner : Maps map owner element shape) :
    Maps map owner ref (.array shape)
  | list {ref argument : TypeRef} {shape : CppType}
    (named : TypeMap.lookupName ref = listTypeName) (found : ref.arguments = [argument])
    (inner : Maps map owner argument shape) : Maps map owner ref (.list shape)
  | hidden {ref : TypeRef} (generic : ref.isGeneric) (other : stated owner ≠ some ref.fullName) :
    Maps map owner ref .hidden
  | enumeration {ref : TypeRef} {type : TypeDecl}
    (declared : map.declared? ref.fullName = some type) (enum : ref.isEnum ∨ type.isEnum)
    (other : stated owner ≠ some ref.fullName) :
    Maps map owner ref (.declared (map.qualifiedStructName ref.space ref.name))
  | number {ref : TypeRef} (undeclared : map.declared? ref.fullName = none)
    (enum : ref.isEnum) (other : stated owner ≠ some ref.fullName) :
    Maps map owner ref (.plain "int")
  | known {ref : TypeRef} {spelling : String}
    (found : knownSpellings.lookup (TypeMap.lookupName ref) = some spelling)
    (other : stated owner ≠ some ref.fullName) : Maps map owner ref (.plain spelling)

namespace TypeMap

variable {map : TypeMap} {owner : Option String} {shape : CppType} {lossy : Bool}

theorem only_argument {ref first : TypeRef} (single : ref.arguments.length = 1)
    (head : ref.arguments.head? = some first) : ref.arguments = [first] := by
  obtain ⟨only, list⟩ := List.length_eq_one_iff.mp single
  rw [list, List.head?_cons, Option.some.injEq] at head
  rw [list, head]

theorem mapEnum_maps {ref : TypeRef} (enum : map.refersToEnum ref)
    (other : stated owner ≠ some ref.fullName) (mapped : map.mapEnum ref = .mapped shape lossy) :
    Maps map owner ref shape := by
  unfold mapEnum isDeclared at mapped
  unfold refersToEnum at enum
  cases found : map.declared? ref.fullName with
  | none =>
    simp only [found, Option.isSome_none, Bool.false_eq_true, if_false] at mapped
    split at mapped
    · cases mapped
    · cases mapped
      exact .number found (by simpa [found] using enum) other
  | some type =>
    simp only [found, Option.isSome_some, if_true] at mapped
    cases mapped
    exact .enumeration found (by simpa [found] using enum) other

theorem mapGeneric_maps {ref : TypeRef} {ofArgument : Option Outcome} (generic : ref.isGeneric)
    (other : stated owner ≠ some ref.fullName)
    (argument : ∀ shape lossy, ofArgument = some (.mapped shape lossy) →
      ∃ first, ref.arguments.head? = some first ∧ Maps map owner first shape)
    (mapped : mapGeneric ref ofArgument = .mapped shape lossy) : Maps map owner ref shape := by
  unfold mapGeneric at mapped
  split at mapped
  · next element inner =>
    split at mapped
    · next list =>
      cases mapped
      obtain ⟨first, head, maps⟩ := argument element inner rfl
      simp only [Bool.and_eq_true, beq_iff_eq] at list
      exact .list list.1 (only_argument list.2 head) maps
    · cases mapped
      exact .hidden generic other
  · cases mapped
    exact .hidden generic other

theorem classify_maps {ref : TypeRef} {ofElement ofArgument : Option Outcome}
    (element : ∀ shape lossy, ofElement = some (.mapped shape lossy) →
      ∃ inner, ref.element = some inner ∧ Maps map owner inner shape)
    (argument : ∀ shape lossy, ofArgument = some (.mapped shape lossy) →
      ∃ first, ref.arguments.head? = some first ∧ Maps map owner first shape)
    (mapped : map.classify owner ref ofElement ofArgument = .mapped shape lossy) :
    Maps map owner ref shape := by
  -- The rules in the order in which they are tried; what is left at the end is a type of its own.
  simp only [classify] at mapped
  split at mapped
  · next outcome behind =>
    obtain ⟨byref, behind⟩ := Option.ite_none_right_eq_some.mp behind
    cases outcome with
    | mapped target wasLossy =>
      cases mapped
      obtain ⟨inner, found, maps⟩ := element target _ behind
      exact .address byref found maps
    | refused refusal reason wasLossy => cases mapped
  split at mapped
  · cases mapped
  split at mapped
  · next outcome inside =>
    obtain ⟨nullable, inside⟩ := Option.ite_none_right_eq_some.mp inside
    obtain ⟨first, head, maps⟩ := argument shape lossy (by rw [inside, mapped])
    have single : ref.arguments.length = 1 := by
      simp only [TypeRef.isNullable, Bool.and_eq_true, beq_iff_eq] at nullable
      exact nullable.2
    exact .nullable nullable (only_argument single head) maps
  split at mapped
  · cases mapped
  next notOwner =>
  split at mapped
  · cases mapped
  split at mapped
  · next isArray =>
    split at mapped
    · cases mapped
    · next target wasLossy known =>
      cases mapped
      obtain ⟨inner, found, maps⟩ := element target wasLossy rfl
      exact .array isArray found maps
    · next refused never => exact absurd mapped (by grind)
  next noArray =>
  have other : stated owner ≠ some ref.fullName := by simpa [noArray] using notOwner
  split at mapped
  · next generic => exact mapGeneric_maps generic other argument mapped
  split at mapped
  · next enum => exact mapEnum_maps enum other mapped
  split at mapped
  · next spelling found =>
    cases mapped
    exact .known found other
  · cases mapped

theorem mapType_maps : ∀ (ref : TypeRef) {shape : CppType} {lossy : Bool},
    map.mapType owner ref = .mapped shape lossy → Maps map owner ref shape
  | ⟨name, space, category, element, isArray, isByref, arguments⟩, shape, lossy, mapped => by
    unfold mapType at mapped
    refine classify_maps ?_ ?_ mapped
    · intro target wasLossy found
      cases element with
      | none => cases found
      | some inner => exact ⟨inner, rfl, mapType_maps inner (Option.some_inj.mp found)⟩
    · intro target wasLossy found
      cases arguments with
      | nil => cases found
      | cons first rest => exact ⟨first, rfl, mapType_maps first (Option.some_inj.mp found)⟩

end TypeMap

/-! Where the types come from -/

/-- A type of the headers that needs no type of the run. -/
def CppType.Provided (leaf : CppType) : Prop :=
  leaf = .plain "int" ∨ leaf = .hidden ∨ ∃ entry ∈ knownSpellings, leaf = .plain entry.2

/-- The rule for enums gave this type of the headers for a reference. -/
structure NamedBy (map : TypeMap) (owner : Option String) (inner : TypeRef) (type : TypeDecl)
    (leaf : CppType) : Prop where
  declared : map.declared? inner.fullName = some type
  enum : inner.isEnum ∨ type.isEnum
  other : stated owner ≠ some type.fullName
  spelled : leaf = .declared (map.qualifiedStructName inner.space inner.name)

variable {map : TypeMap} {owner : Option String} {ref : TypeRef} {shape : CppType}

theorem known_provided {name spelling : String}
    (found : knownSpellings.lookup name = some spelling) : CppType.Provided (.plain spelling) := by
  exact .inr (.inr ⟨(name, spelling), mem_of_lookup found, rfl⟩)

/-- Every type in a spelling is provided, or is declared by the run and named by a reference inside
the mapped one. -/
theorem Maps.provenance (maps : Maps map owner ref shape) :
    ∀ leaf ∈ shape.leaves, leaf.Provided ∨
      ∃ inner type, TypeRef.Inside inner ref ∧ NamedBy map owner inner type leaf := by
  induction maps with
  | address _ found _ ih | array _ found _ ih =>
    intro leaf member
    rcases ih leaf member with provided | ⟨inner, type, inside, named⟩
    · exact .inl provided
    · exact .inr ⟨inner, type, .element found inside, named⟩
  | nullable _ found _ ih | list _ found _ ih =>
    intro leaf member
    rcases ih leaf member with provided | ⟨inner, type, inside, named⟩
    · exact .inl provided
    · exact .inr ⟨inner, type, .argument (by rw [found]; exact List.mem_singleton_self _) inside,
        named⟩
  | hidden =>
    intro leaf member
    exact .inl (.inr (.inl (List.mem_singleton.mp member)))
  | @enumeration ref type declared enum other =>
    intro leaf member
    rw [← fullName_of_declared? declared] at other
    exact .inr ⟨ref, type, .itself ref, declared, enum, other, List.mem_singleton.mp member⟩
  | number =>
    intro leaf member
    exact .inl (.inl (List.mem_singleton.mp member))
  | known found =>
    intro leaf member
    rw [List.mem_singleton.mp member]
    exact .inl (known_provided found)

/-! What a name in a spelling stands for. -/

/-- The qualified name under which the headers write a type of the run. -/
def TypeMap.writtenName (map : TypeMap) (type : TypeDecl) : String :=
  map.qualifiedStructName type.space type.name

/-- No two types of the run are written under one name. -/
def TypeMap.NamesApart (map : TypeMap) : Prop := (map.declared.map map.writtenName).Nodup

/-- A name under which the run has an enum other than the owner, and no other type. -/
structure NamesEnum (map : TypeMap) (owner : Option String) (name : String) : Prop where
  registered : ∃ type ∈ map.declared, map.writtenName type = name
  only : ∀ type ∈ map.declared, map.writtenName type = name →
    type.isEnum ∧ stated owner ≠ some type.fullName

theorem NamedBy.namesEnum_iff {inner : TypeRef} {type : TypeDecl} {leaf : CppType}
    (named : NamedBy map owner inner type leaf) (apart : map.NamesApart)
    (written : map.writtenName type = map.qualifiedStructName inner.space inner.name) :
    NamesEnum map owner leaf.render ↔ type.isEnum := by
  have registered : type ∈ map.declared := List.mem_of_find?_eq_some named.declared
  have spelled : leaf.render = map.writtenName type := by
    rw [named.spelled, written]
    rfl
  rw [spelled]
  constructor
  · intro stands
    exact (stands.only type registered rfl).1
  · intro enum
    refine ⟨⟨type, registered, rfl⟩, ?_⟩
    intro other listed same
    rw [List.inj_on_of_nodup_map apart listed registered same]
    exact ⟨enum, named.other⟩

/-- In whatever is mapped, every type is provided, or is one of the run that is not the owner, named
as a reference inside the mapped one spells it. Where that is the name under which the run writes
this type, and no other, it stands for an enum of the run exactly if the type is one; and it is one
unless the reference alone says so. -/
theorem mapped_types_named {lossy : Bool} (mapped : map.mapType owner ref = .mapped shape lossy) :
    ∀ leaf ∈ shape.leaves, leaf.Provided ∨
      ∃ inner type, TypeRef.Inside inner ref ∧ NamedBy map owner inner type leaf ∧
        (map.NamesApart → map.writtenName type = map.qualifiedStructName inner.space inner.name →
          (NamesEnum map owner leaf.render ↔ type.isEnum)) := by
  intro leaf member
  rcases (TypeMap.mapType_maps ref mapped).provenance leaf member with
      provided | ⟨inner, type, inside, named⟩
  · exact .inl provided
  · exact .inr ⟨inner, type, inside, named, named.namesEnum_iff⟩

/-! Two nested types of one full name, an enum and a class, are one type to the run, which keeps the
first of them. -/

def mode : TypeDecl := { name := "Mode", category := .enumType }
def state : TypeDecl := { name := "State" }

def stateMap : TypeMap := { declared := [mode, state] }

def stateRef : TypeRef := { name := "State", category := .enumType }

theorem state_class_named :
    stateMap.mapType (some "Player") mode.asRef = .mapped (.declared "Mode") false ∧
      NamesEnum stateMap (some "Player") "Mode" ∧
      stateMap.mapType (some "Player") stateRef = .mapped (.declared "State") false ∧
      ¬ NamesEnum stateMap (some "Player") "State" := by
  have apart : stateMap.NamesApart := by
    unfold TypeMap.NamesApart
    decide
  -- Neither reference wraps another, so the name comes from the reference itself.
  have stands (ref : TypeRef) (type : TypeDecl) {name : String}
      (noElement : ref.element = none) (noArgument : ref.arguments = [])
      (found : stateMap.declared? ref.fullName = some type)
      (written : stateMap.writtenName type = stateMap.qualifiedStructName ref.space ref.name)
      (mapped : stateMap.mapType (some "Player") ref = .mapped (.declared name) false) :
      NamesEnum stateMap (some "Player") name ↔ type.isEnum := by
    rcases mapped_types_named mapped (.declared name) (by simp [CppType.leaves]) with
        provided | ⟨inner, other, inside, named, exact⟩
    · simp [CppType.Provided, CppType.hidden] at provided
    · rw [inside.alone noElement noArgument] at named exact
      have same : other = type := Option.some_inj.mp (named.declared.symm.trans found)
      rw [same] at exact
      exact exact apart written
  refine ⟨rfl, ?_, rfl, ?_⟩
  · exact (stands mode.asRef mode rfl rfl rfl rfl rfl).mpr rfl
  · intro namesEnum
    exact absurd ((stands stateRef state rfl rfl rfl rfl rfl).mp namesEnum)
      (by decide)

/-! The declared types that a result names -/

/-- The qualified name by which a reference spells a type that the run declares. -/
def NamesDeclared (map : TypeMap) (name : String) : Prop :=
  ∃ ref : TypeRef, map.isDeclared ref.fullName ∧
    name = map.qualifiedStructName ref.space ref.name

/-- All names of generated types in the spelling are names of declared types. -/
def Outcome.Declares (map : TypeMap) : Outcome → Prop
  | .mapped shape _ => ∀ name, .declared name ∈ shape.leaves → NamesDeclared map name
  | .refused _ _ _ => True

namespace TypeMap

theorem mapType_declares (owner : Option String) (ref : TypeRef) :
    (map.mapType owner ref).Declares map := by
  cases mapped : map.mapType owner ref with
  | refused refusal reason lossy => trivial
  | mapped shape lossy =>
    intro name member
    rcases (mapType_maps ref mapped).provenance (.declared name) member with
        provided | ⟨inner, type, -, named⟩
    · simp [CppType.Provided, CppType.hidden] at provided
    · refine ⟨inner, ?_, CppType.declared.inj named.spelled⟩
      simp [isDeclared, named.declared]

theorem mapMember_declares (owner : Option String) (ref : TypeRef) :
    (map.mapMember owner ref).Declares map := by
  simp only [mapMember]
  split
  · trivial
  · exact mapType_declares owner ref

end TypeMap

end ProxyHeaders.Mapping
