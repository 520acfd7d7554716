import ProxyHeaders.Mapping.TypeMap
import ProxyHeaders.Metadata.Signature

/-!
Mapping wrapped references. Addresses, arrays and nullables are layers around a core: the outcome
for a layered reference is that for its core, carried through the layers from the inside out. So no
layer hides that the core is refused, and an owner is refused behind any of them.
-/
namespace ProxyHeaders.Mapping

open ProxyHeaders.Metadata

namespace Outcome

def asArray : Outcome → Outcome
  | .mapped shape _ => .found (.array shape)
  | outcome => outcome

def asList : Outcome → Outcome
  | .mapped shape _ => .found (.list shape)
  | .refused _ _ _ => .mapped .hidden true

/-- The same outcome, except that a refusal may give another reason. -/
inductive Like : Outcome → Outcome → Prop where
  | mapped (shape : CppType) (lossy : Bool) : Like (.mapped shape lossy) (.mapped shape lossy)
  | refused (refusal : Refusal) (reason other : Reason) (lossy : Bool) :
    Like (.refused refusal reason lossy) (.refused refusal other lossy)

namespace Like

variable {outcome other third : Outcome}

theorem refl : ∀ outcome : Outcome, Like outcome outcome
  | .mapped shape lossy => .mapped shape lossy
  | .refused refusal reason lossy => .refused refusal reason reason lossy

theorem trans (first : Like outcome other) (second : Like other third) : Like outcome third := by
  cases first with
  | mapped shape lossy => exact second
  | refused refusal reason _ lossy =>
    cases second with
    | refused _ _ last _ => exact .refused refusal reason last lossy

theorem asPointer (like : Like outcome other) : Like outcome.asPointer other.asPointer := by
  cases like with
  | mapped shape lossy => exact .mapped (.pointer shape) lossy
  | refused refusal reason other lossy => exact .refused refusal reason other lossy

theorem asArray (like : Like outcome other) : Like outcome.asArray other.asArray := by
  cases like with
  | mapped shape lossy => exact .mapped (.array shape) false
  | refused refusal reason other lossy => exact .refused refusal reason other lossy

theorem isMapped (like : Like outcome other) : outcome.isMapped = other.isMapped := by
  cases like <;> rfl

end Like

theorem isMapped_asPointer (outcome : Outcome) : outcome.asPointer.isMapped = outcome.isMapped := by
  cases outcome <;> rfl

theorem isMapped_asArray (outcome : Outcome) : outcome.asArray.isMapped = outcome.isMapped := by
  cases outcome <;> rfl

end Outcome

/-- A reference to a generic type of the framework; its arity may follow the name. -/
structure Definition (space name : String) where
  ref : TypeRef
  isIn : ref.space = some space
  named : ref.cleanName = name

abbrev NullableType := Definition "System" "Nullable"
abbrev ListType := Definition "System.Collections.Generic" "List"

def Definition.of {space name : String} (definition : Definition space name) (argument : TypeRef) :
    TypeRef :=
  instanceOf definition.ref [argument]

namespace Definition

variable {space name : String} (definition : Definition space name) (argument : TypeRef)

@[simp] theorem of_space : (definition.of argument).space = some space := definition.isIn
@[simp] theorem of_cleanName : (definition.of argument).cleanName = name := definition.named
@[simp] theorem of_element : (definition.of argument).element = none := rfl
@[simp] theorem of_isArray : (definition.of argument).isArray = false := rfl
@[simp] theorem of_isByref : (definition.of argument).isByref = false := rfl
@[simp] theorem of_arguments : (definition.of argument).arguments = [argument] := rfl

theorem of_effectiveSpace (named : space ≠ "") :
    (definition.of argument).effectiveSpace = some space := by
  have same : (definition.of argument).effectiveSpace = stated definition.ref.space := rfl
  rw [same, definition.isIn]
  simp [stated, named]

end Definition

variable (map : TypeMap) (owner : Option String)

namespace TypeMap

theorem mapType_classify (ref : TypeRef) :
    map.mapType owner ref =
      map.classify owner ref (ref.element.map (map.mapType owner))
        (ref.arguments.head?.map (map.mapType owner)) := by
  obtain ⟨name, space, category, element, isArray, isByref, arguments⟩ := ref
  unfold mapType
  cases element with
  | none => cases arguments <;> rfl
  | some element => cases arguments <;> rfl

theorem mapType_byrefTo (ref : TypeRef) :
    map.mapType owner (byrefTo ref) = (map.mapType owner ref).asPointer := by
  rw [mapType_classify]
  rfl

/-! What lies outside the allowed namespaces is refused before it is looked at. -/

/-- Whether the rule for namespaces refuses a reference. -/
def excludes (ref : TypeRef) : Bool :=
  ref.effectiveSpace.isSome && !map.allows ref.effectiveSpace

variable {map owner} {ref : TypeRef} {ofElement ofArgument : Option Outcome} {outcome : Outcome}

theorem classify_excluded (direct : (if ref.isByref then ofElement else none) = none)
    (excluded : map.excludes ref) :
    map.classify owner ref ofElement ofArgument = .removed (.external ref.fullName) := by
  unfold excludes at excluded
  simp only [classify, direct, excluded, if_true]

theorem mapType_excluded (owner : Option String) : ∀ {ref : TypeRef}, map.excludes ref →
    ∃ reason, map.mapType owner ref = .removed reason
  | ⟨_, _, _, _, _, false, _⟩, excluded =>
    ⟨_, (mapType_classify map owner _).trans (classify_excluded rfl excluded)⟩
  | ⟨_, _, _, none, _, true, _⟩, excluded =>
    ⟨_, (mapType_classify map owner _).trans (classify_excluded rfl excluded)⟩
  | ⟨name, space, category, some element, isArray, true, arguments⟩, excluded => by
    -- An address is in the namespace of what it leads to.
    have same : TypeRef.effectiveSpace ⟨name, space, category, some element, isArray, true,
        arguments⟩ = element.effectiveSpace := by simp [TypeRef.effectiveSpace]
    have inner : map.excludes element := by
      rwa [excludes, same] at excluded
    obtain ⟨reason, refused⟩ := mapType_excluded owner inner
    refine ⟨reason, ?_⟩
    rw [mapType_classify]
    simp [classify, refused, Outcome.asPointer, Outcome.removed]

/-! Arrays. -/

theorem classify_array (array : ref.isArray) (direct : ref.isByref = false)
    (notNullable : ref.isNullable = false) (allowed : map.excludes ref = false) :
    map.classify owner ref (some outcome) ofArgument = outcome.asArray := by
  have value : ref.isReferenceClass = false := by simp [TypeRef.isReferenceClass, array]
  unfold excludes at allowed
  simp only [classify, direct, allowed, notNullable, array, value, Bool.false_eq_true, if_false,
    if_true, Bool.not_true, Bool.false_and]
  cases outcome with
  | mapped shape lossy => rfl
  | refused refusal reason lossy => rfl

theorem excludes_arrayOf (rank : Nat) : map.excludes (arrayOf ref rank) = map.excludes ref := by
  have space : (arrayOf ref rank).effectiveSpace = ref.effectiveSpace := by
    simp [arrayOf, TypeRef.effectiveSpace]
  rw [excludes, excludes, space]

/-- An array is mapped as its element is; where both are outside the allowed namespaces, only the
names in their refusals differ. -/
theorem mapType_arrayOf (ref : TypeRef) (rank : Nat) :
    (map.mapType owner (arrayOf ref rank)).Like (map.mapType owner ref).asArray := by
  -- An array is in the namespace of its element, so the rule for namespaces is the same for both.
  cases excluded : map.excludes ref with
  | true =>
    obtain ⟨reason, refused⟩ := mapType_excluded owner excluded
    rw [← excludes_arrayOf rank] at excluded
    obtain ⟨other, arrayRefused⟩ := mapType_excluded owner excluded
    rw [refused, arrayRefused]
    exact .refused .removed other reason false
  | false =>
    rw [← excludes_arrayOf rank] at excluded
    have same : map.mapType owner (arrayOf ref rank) = (map.mapType owner ref).asArray :=
      (mapType_classify map owner _).trans
        (classify_array rfl rfl (by simp [TypeRef.isNullable, arrayOf]) excluded)
    rw [same]
    exact .refl _

/-! Nullables and lists. -/

theorem allows_inside {outer inner : String} (named : outer ≠ "") (nonempty : inner ≠ "")
    (inside : Text.startsWith inner (outer ++ ".")) (allowed : map.allows (some outer)) :
    map.allows (some inner) := by
  simp only [allows, stated, Option.filter, bne_iff_ne, ne_eq, named, nonempty, not_false_eq_true,
    if_true, List.any_eq_true, Bool.or_eq_true, beq_iff_eq] at allowed ⊢
  obtain ⟨space, listed, same | starts⟩ := allowed
  · rw [same] at inside
    exact ⟨space, listed, .inr inside⟩
  · -- The outer namespace starts with the one on the list, and the inner with the outer.
    refine ⟨space, listed, .inr ?_⟩
    simp only [Text.startsWith, List.isPrefixOf_iff_prefix, String.toList_append] at inside starts ⊢
    exact starts.trans ((List.prefix_append _ _).trans inside)

theorem mapType_nullable (nullable : NullableType) (ref : TypeRef)
    (system : map.allows (some "System")) :
    map.mapType owner (nullable.of ref) = map.mapType owner ref := by
  have space := nullable.of_effectiveSpace ref (by decide)
  have isNullable : (nullable.of ref).isNullable := by simp [TypeRef.isNullable]
  rw [mapType_classify]
  simp [classify, space, system, isNullable]

theorem mapGeneric_list (list : ListType) (ref : TypeRef) (outcome : Outcome) :
    mapGeneric (list.of ref) (some outcome) = outcome.asList := by
  have named : lookupName (list.of ref) = listTypeName := by
    rw [lookupName, list.of_space, list.of_cleanName]
    decide
  cases outcome with
  | mapped shape lossy => simp [mapGeneric, named, Outcome.asList]
  | refused refusal reason lossy => rfl

theorem mapType_list (list : ListType) (ref : TypeRef) (system : map.allows (some "System"))
    (other : stated owner ≠ some (list.of ref).fullName) :
    map.mapType owner (list.of ref) = (map.mapType owner ref).asList := by
  have space := list.of_effectiveSpace ref (by decide)
  have allowed : map.allows (some "System.Collections.Generic") :=
    allows_inside (by decide) (by decide) (by decide) system
  have notNullable : (list.of ref).isNullable = false := by simp [TypeRef.isNullable]
  have generic : (list.of ref).isGeneric := by simp [TypeRef.isGeneric]
  rw [mapType_classify]
  simp [classify, space, allowed, notNullable, generic, other, mapGeneric_list]

end TypeMap

/-! Nests of layers around a core. -/

/-- What a signature wraps around a type, except for lists. -/
inductive Layer where
  | address
  | array (rank : Nat)
  | nullable (definition : NullableType)

namespace Layer

def around : Layer → TypeRef → TypeRef
  | .address, ref => byrefTo ref
  | .array rank, ref => arrayOf ref rank
  | .nullable definition, ref => definition.of ref

/-- What a layer makes of the outcome for what it is around. -/
def carry : Layer → Outcome → Outcome
  | .address, outcome => outcome.asPointer
  | .array _, outcome => outcome.asArray
  | .nullable _, outcome => outcome

def wrap (layers : List Layer) (core : TypeRef) : TypeRef := layers.foldr around core

def carryAll (layers : List Layer) (outcome : Outcome) : Outcome := layers.foldr carry outcome

variable {map owner}

theorem carry_like (layer : Layer) {outcome other : Outcome} (like : outcome.Like other) :
    (layer.carry outcome).Like (layer.carry other) := by
  cases layer with
  | address => exact like.asPointer
  | array => exact like.asArray
  | nullable => exact like

theorem mapType_around (layer : Layer) (ref : TypeRef) (system : map.allows (some "System")) :
    (map.mapType owner (layer.around ref)).Like (layer.carry (map.mapType owner ref)) := by
  cases layer with
  | address =>
    rw [around, TypeMap.mapType_byrefTo]
    exact .refl _
  | array rank => exact TypeMap.mapType_arrayOf ref rank
  | nullable definition =>
    rw [around, TypeMap.mapType_nullable definition ref system]
    exact .refl _

theorem mapType_wrap (layers : List Layer) (core : TypeRef) (system : map.allows (some "System")) :
    (map.mapType owner (wrap layers core)).Like (carryAll layers (map.mapType owner core)) := by
  induction layers with
  | nil => exact .refl _
  | cons layer layers ih => exact (mapType_around layer _ system).trans (layer.carry_like ih)

/-- No layer maps what is refused, whatever is allowed: a nullable that is not allowed is refused
itself. -/
theorem around_refused (layer : Layer) {ref : TypeRef}
    (refused : (map.mapType owner ref).isMapped = false) :
    (map.mapType owner (layer.around ref)).isMapped = false := by
  cases layer with
  | address => rw [around, TypeMap.mapType_byrefTo, Outcome.isMapped_asPointer, refused]
  | array rank => rw [around, (TypeMap.mapType_arrayOf ref rank).isMapped, Outcome.isMapped_asArray,
      refused]
  | nullable definition =>
    rw [around]
    cases system : map.allows (some "System") with
    | true => rw [TypeMap.mapType_nullable definition ref system, refused]
    | false =>
      have excluded : map.excludes (definition.of ref) := by
        rw [TypeMap.excludes, definition.of_effectiveSpace ref (by decide), system]
        rfl
      obtain ⟨reason, same⟩ := TypeMap.mapType_excluded owner excluded
      rw [same]
      rfl

theorem wrap_refused (layers : List Layer) {core : TypeRef}
    (refused : (map.mapType owner core).isMapped = false) :
    (map.mapType owner (wrap layers core)).isMapped = false := by
  induction layers with
  | nil => exact refused
  | cons layer layers ih => exact layer.around_refused ih

end Layer

/-- A reference with no layer around it. -/
structure Bare (ref : TypeRef) : Prop where
  notNullable : ref.isNullable = false
  notAround : ref.isArray ∨ ref.isByref → ref.element = none

theorem Bare.owner_refused {map : TypeMap} {owner : Option String} {ref : TypeRef} (bare : Bare ref)
    (itself : stated owner = some ref.fullName) : (map.mapType owner ref).isMapped = false := by
  have direct : (if ref.isByref then ref.element.map (map.mapType owner) else none) = none := by
    cases address : ref.isByref with
    | false => rfl
    | true => simp [bare.notAround (.inr address)]
  rw [TypeMap.mapType_classify]
  cases excluded : map.excludes ref with
  | true =>
    rw [TypeMap.classify_excluded direct excluded]
    rfl
  | false =>
    unfold TypeMap.excludes at excluded
    cases array : ref.isArray with
    | false => simp [TypeMap.classify, direct, excluded, bare.notNullable, array, itself,
        Outcome.isMapped]
    | true =>
      -- The rule for owners does not ask about arrays, but an array has an element.
      have noElement := bare.notAround (.inl array)
      have value : ref.isReferenceClass = false := by simp [TypeRef.isReferenceClass, array]
      simp [TypeMap.classify, excluded, bare.notNullable, array, value, noElement,
        Outcome.removed, Outcome.isMapped]

/-- Mapping is compositional over layers, lists included; no nest of layers maps what is refused, or
the owner. -/
theorem mapping_compositional (ref : TypeRef) :
    map.mapType owner (byrefTo ref) = (map.mapType owner ref).asPointer ∧
    (∀ rank, (map.mapType owner (arrayOf ref rank)).Like (map.mapType owner ref).asArray) ∧
    (map.allows (some "System") →
      (∀ nullable : NullableType, map.mapType owner (nullable.of ref) = map.mapType owner ref) ∧
      (∀ list : ListType, stated owner ≠ some (list.of ref).fullName →
        map.mapType owner (list.of ref) = (map.mapType owner ref).asList) ∧
      ∀ layers, (map.mapType owner (Layer.wrap layers ref)).Like
        (Layer.carryAll layers (map.mapType owner ref))) ∧
    ∀ layers, (map.mapType owner ref).isMapped = false ∨
        Bare ref ∧ stated owner = some ref.fullName →
      (map.mapType owner (Layer.wrap layers ref)).isMapped = false := by
  refine ⟨TypeMap.mapType_byrefTo map owner ref, TypeMap.mapType_arrayOf ref, ?_, ?_⟩
  · intro system
    refine ⟨?_, ?_, ?_⟩
    · intro nullable
      exact TypeMap.mapType_nullable nullable ref system
    · intro list other
      exact TypeMap.mapType_list list ref system other
    · intro layers
      exact Layer.mapType_wrap layers ref system
  · rintro layers (refused | ⟨bare, itself⟩)
    · exact Layer.wrap_refused layers refused
    · exact Layer.wrap_refused layers (bare.owner_refused itself)

/-! The address of an array of nullables around an enum, in another type and in the enum itself. -/

def optional : NullableType where
  ref := { name := "Nullable`1", space := some "System", category := .structType }
  isIn := rfl
  named := by decide

def optionalArray : List Layer := [.address, .array 1, .nullable optional]

def season : TypeDecl := { name := "Season", category := .enumType }

def seasonMap : TypeMap := { declared := [season] }

theorem optional_array_mapped :
    (seasonMap.mapType (some "Player") (Layer.wrap optionalArray season.asRef)).Like
        (.mapped (.pointer (.array (.declared "Season"))) false) ∧
      (seasonMap.mapType (some "Season")
        (Layer.wrap optionalArray season.asRef)).isMapped = false := by
  have system : seasonMap.allows (some "System") := by decide
  constructor
  · exact ((mapping_compositional seasonMap (some "Player") season.asRef).2.2.1 system).2.2
      optionalArray
  · apply (mapping_compositional seasonMap (some "Season") season.asRef).2.2.2
    exact .inr ⟨⟨rfl, by rintro (array | address) <;> contradiction⟩, rfl⟩

end ProxyHeaders.Mapping
