import ProxyHeaders.Mapping.Known
import ProxyHeaders.Mapping.Outcome
import ProxyHeaders.Names.Sanitizer
import ProxyHeaders.TypeDecl

/-!
Mapping managed types to types of the header language. A map knows the namespaces that may be
mentioned, the names that may not, and the types that this run declares. References are mapped however
deep they are; that calls nested too deeply fail counts where they are read, in signatures and from the
runtime.
-/
namespace ProxyHeaders.Mapping

open ProxyHeaders.Names

structure TypeMap where
  allowed : List String := defaultAllowed
  reservedNames : List String := runtimeTypeNames
  sanitizer : Sanitizer := Sanitizer.forHeaders
  declared : List TypeDecl := []
  deriving Inhabited

/-- The scope that a namespace opens in the headers: `A.B` is `A::B`. -/
def scopeOf (space : Option String) : String :=
  match stated space with
  | some space => "::".intercalate (Text.splitAtChar '.' space)
  | none => ""

namespace TypeMap

/-- The map with one more declared type; the first declaration of a full name stays. -/
def declare (map : TypeMap) (type : TypeDecl) : TypeMap :=
  if map.declared.any (·.fullName == type.fullName) then map
  else { map with declared := map.declared ++ [type] }

def declareAll (map : TypeMap) (types : List TypeDecl) : TypeMap := types.foldl declare map

def declared? (map : TypeMap) (fullName : String) : Option TypeDecl :=
  map.declared.find? (·.fullName == fullName)

def isDeclared (map : TypeMap) (fullName : String) : Bool := (map.declared? fullName).isSome

/-- Whether a namespace is an allowed one or lies inside one. -/
def allows (map : TypeMap) (space : Option String) : Bool :=
  match stated space with
  | none => false
  | some space => map.allowed.any fun outer =>
      space == outer || Text.startsWith space (outer ++ ".")

def isReservedName (map : TypeMap) (name : String) : Bool := map.reservedNames.contains name

def structName (map : TypeMap) (name : String) : String :=
  map.sanitizer.identifier (cleanName name)

def qualifiedStructName (map : TypeMap) (space : Option String) (name : String) : String :=
  let scope := scopeOf space
  if scope.isEmpty then map.structName name else scope ++ "::" ++ map.structName name

/-- Whether a reference is to an enum, by its own word or by what this run declares. -/
def refersToEnum (map : TypeMap) (ref : TypeRef) : Bool :=
  ref.isEnum || ((map.declared? ref.fullName).map (·.isEnum)).getD false

def mapEnum (map : TypeMap) (ref : TypeRef) : Outcome :=
  if map.isDeclared ref.fullName then
    .found (.declared (map.qualifiedStructName ref.space ref.name))
  else if (stated ref.space).isNone then .removed (.undefinedEnum ref.cleanName)
  else .found (.plain "int")

/-- The full name by which a reference is looked up among the known types. -/
def lookupName (ref : TypeRef) : String := qualifiedName ref.space ref.cleanName

/-- A generic list keeps its element type if that maps; any other generic type is hidden. -/
def mapGeneric (ref : TypeRef) (ofArgument : Option Outcome) : Outcome :=
  match ofArgument with
  | some (.mapped element _) =>
    if lookupName ref == listTypeName && ref.arguments.length == 1 then .found (.list element)
    else .mapped .hidden true
  | _ => .mapped .hidden true

/-- The outcome for one reference, given the outcomes for its element and its first argument.
The first rule that applies decides. -/
def classify (map : TypeMap) (owner : Option String) (ref : TypeRef)
    (ofElement ofArgument : Option Outcome) : Outcome :=
  let space := ref.effectiveSpace
  match (if ref.isByref then ofElement else none) with
  | some outcome => outcome.asPointer
  | none =>
    if space.isSome && !map.allows space then .removed (.external ref.fullName)
    else match (if ref.isNullable then ofArgument else none) with
    | some outcome => outcome
    | none =>
      if !ref.isArray && (stated owner == some ref.fullName) then
        .refused .selfReferential (.selfReference ref.cleanName) false
      else if ref.isReferenceClass && !ref.isString && !map.allows space then
        .removed (.crossReference ref.fullName)
      else if ref.isArray then
        match ofElement with
        | none => .removed (.arrayOfNothing ref.name)
        | some (.mapped element _) => .found (.array element)
        | some refused => refused
      else if ref.isGeneric then mapGeneric ref ofArgument
      else if map.refersToEnum ref then map.mapEnum ref
      else match knownSpellings.lookup (lookupName ref) with
      | some spelling => .found (.plain spelling)
      | none =>
        .removed (.unsupported (if ref.cleanName.isEmpty then ref.name else ref.cleanName))

def mapType (map : TypeMap) (owner : Option String) : TypeRef → Outcome
  | ⟨name, space, category, element, isArray, isByref, arguments⟩ =>
    let ofElement := match element with
      | some element => some (mapType map owner element)
      | none => none
    let ofArgument := match arguments with
      | argument :: _ => some (mapType map owner argument)
      | [] => none
    map.classify owner ⟨name, space, category, element, isArray, isByref, arguments⟩
      ofElement ofArgument

/-- The reference whose name a member's signature shows: behind an address and a nullable. -/
def shownRef (ref : TypeRef) : TypeRef :=
  let target := if ref.isByref then ref.element.getD ref else ref
  target.unwrapNullable

/-- Maps the type of a member, which may not show a reserved name. -/
def mapMember (map : TypeMap) (owner : Option String) (ref : TypeRef) : Outcome :=
  let shown := (shownRef ref).cleanName
  if map.isReservedName shown then .removed (.reserved shown) else map.mapType owner ref

end TypeMap

end ProxyHeaders.Mapping
