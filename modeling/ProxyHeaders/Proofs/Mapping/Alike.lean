import ProxyHeaders.Mapping.Base
import ProxyHeaders.Proofs.Names.Memory

/-!
Two maps that give the same answers. A map reads of a declared type only what a reference to it
says, and of a sanitizer only its answers; where these agree, so does everything that is mapped.
-/
namespace ProxyHeaders.Mapping

open ProxyHeaders.Names

namespace TypeMap

/-- Two maps of the same rules and identifiers that declare the same references. -/
structure Alike (first second : TypeMap) : Prop where
  allowed : first.allowed = second.allowed
  reservedNames : first.reservedNames = second.reservedNames
  sanitizer : first.sanitizer.Alike second.sanitizer
  declared : ∀ name,
    (first.declared? name).map (·.asRef) = (second.declared? name).map (·.asRef)

namespace Alike

variable {first second : TypeMap} (alike : first.Alike second)

include alike

theorem declared_both (name : String) :
    first.declared? name = none ∧ second.declared? name = none ∨
    ∃ one other, first.declared? name = some one ∧ second.declared? name = some other ∧
      one.name = other.name ∧ one.space = other.space ∧ one.category = other.category := by
  have same := alike.declared name
  cases found : first.declared? name with
  | none =>
    cases known : second.declared? name with
    | none => exact .inl ⟨rfl, rfl⟩
    | some other => simp [found, known] at same
  | some one =>
    cases known : second.declared? name with
    | none => simp [found, known] at same
    | some other =>
      simp only [found, known, Option.map_some, Option.some_inj, TypeDecl.asRef] at same
      injection same with name space category
      exact .inr ⟨one, other, rfl, rfl, name, space, category⟩

theorem isDeclared (name : String) : first.isDeclared name = second.isDeclared name := by
  unfold TypeMap.isDeclared
  rcases alike.declared_both name with ⟨one, other⟩ | ⟨one, other, found, known, -⟩
  · rw [one, other]
  · rw [found, known]
    rfl

theorem isReservedName (name : String) :
    first.isReservedName name = second.isReservedName name := by
  simp only [TypeMap.isReservedName, alike.reservedNames]

theorem allows (space : Option String) : first.allows space = second.allows space := by
  simp only [TypeMap.allows, alike.allowed]

theorem structName (name : String) : first.structName name = second.structName name :=
  alike.sanitizer.identifier (cleanName name)

theorem qualifiedStructName (space : Option String) (name : String) :
    first.qualifiedStructName space name = second.qualifiedStructName space name := by
  simp only [TypeMap.qualifiedStructName, alike.structName]

theorem refersToEnum (ref : TypeRef) : first.refersToEnum ref = second.refersToEnum ref := by
  unfold TypeMap.refersToEnum
  rcases alike.declared_both ref.fullName with
      ⟨one, other⟩ | ⟨one, other, found, known, -, -, category⟩
  · rw [one, other]
  · rw [found, known]
    simp only [Option.map_some, Option.getD_some, TypeDecl.isEnum, category]

theorem mapEnum (ref : TypeRef) : first.mapEnum ref = second.mapEnum ref := by
  simp only [TypeMap.mapEnum, alike.isDeclared, alike.qualifiedStructName]

theorem classify (owner : Option String) (ref : TypeRef) (ofElement ofArgument : Option Outcome) :
    first.classify owner ref ofElement ofArgument =
      second.classify owner ref ofElement ofArgument := by
  simp only [TypeMap.classify, alike.allows, alike.refersToEnum, alike.mapEnum]

/-- The induction is over the reference: its element and its first argument are mapped before it. -/
theorem mapType (owner : Option String) :
    ∀ ref : TypeRef, first.mapType owner ref = second.mapType owner ref
  | ⟨name, space, category, element, isArray, isByref, arguments⟩ => by
    unfold TypeMap.mapType
    rw [alike.classify]
    cases element with
    | none =>
      cases arguments with
      | nil => rfl
      | cons argument rest => simp only [mapType owner argument]
    | some element =>
      cases arguments with
      | nil => simp only [mapType owner element]
      | cons argument rest => simp only [mapType owner element, mapType owner argument]

theorem mapMember (owner : Option String) (ref : TypeRef) :
    first.mapMember owner ref = second.mapMember owner ref := by
  simp only [TypeMap.mapMember, alike.isReservedName, alike.mapType]

theorem resolveBase (type : TypeDecl) : first.resolveBase type = second.resolveBase type := by
  unfold TypeMap.resolveBase
  cases type.base with
  | none => rfl
  | some base =>
    rcases alike.declared_both base.fullName with
        ⟨one, other⟩ | ⟨one, other, found, known, name, space, category⟩
    · simp only [one, other]
    · -- A base that is declared is asked for its names and whether it is a class, and no more.
      have fullName : one.fullName = other.fullName := by
        simp only [TypeDecl.fullName, name, space]
      simp only [found, known, TypeDecl.isClass, alike.qualifiedStructName, name, space, category,
        fullName]
      rfl

end Alike

/-! Which declaration a map of declared types finds: the first of its full name. -/

theorem declare_finds (map : TypeMap) (type : TypeDecl) (name : String) :
    (map.declare type).declared? name =
      (map.declared? name).or (if type.fullName == name then some type else none) := by
  unfold declare declared?
  by_cases known : map.declared.any (·.fullName == type.fullName)
  · rw [if_pos known]
    by_cases same : type.fullName = name
    · -- The name is known already, so nothing is looked up behind the declarations.
      have found : (map.declared.find? (·.fullName == name)).isSome := by
        rw [List.find?_isSome]
        simpa [same] using known
      obtain ⟨earlier, found⟩ := Option.isSome_iff_exists.mp found
      simp [found]
    · simp [same]
  · rw [if_neg known, List.find?_append, List.find?_singleton]

theorem declareAll_finds (map : TypeMap) (types : List TypeDecl) (name : String) :
    (map.declareAll types).declared? name =
      (map.declared? name).or (types.find? (·.fullName == name)) := by
  unfold declareAll
  induction types generalizing map with
  | nil => simp
  | cons type rest ih =>
    rw [List.foldl_cons, ih, declare_finds, Option.or_assoc, List.find?_cons]
    congr 1
    by_cases same : type.fullName == name
    · simp [same]
    · simp [same]

end TypeMap

end ProxyHeaders.Mapping
