import ProxyHeaders.Metadata.Constant
import ProxyHeaders.Metadata.Resolve
import ProxyHeaders.TypeDecl

/-!
The types that an assembly declares. A type that cannot be read is left out; the others are not
affected.
-/
namespace ProxyHeaders.Metadata

def enumValueField : String := "value__"

def moduleType : String := "<Module>"

def constructorNames : List String := [".ctor", ".cctor"]

structure Joins where
  constants : List (Int × Int)
  getters : List Int
  setters : List Int
  deriving DecidableEq, Repr, Inhabited

namespace Tables

def constantOf (tables : Tables) (row : ConstantRow) : Except Fault (List (Int × Int)) := do
  match ← tables.follow row.parent, row.parent with
  | some (.field _), some link =>
    match constantValue row.element row.value with
    | .ok (some value) => return [(link.index, value)]
    | .ok none => return []
    | .error fault => .error (.signature fault)
  | _, _ => return []

def accessorOf (tables : Tables) (row : SemanticsRow) : Except Fault (List (Int × SemanticsRow)) := do
  match ← tables.follow row.association, row.association with
  | some (.property _), some link => return [(link.index, row)]
  | _, _ => return []

def joins (tables : Tables) : Except Fault Joins := do
  let constants ← (tables.constants.getD []).mapM tables.constantOf
  let accessors ← (tables.semantics.getD []).mapM tables.accessorOf
  return {
    constants := constants.flatten
    getters := (accessors.flatten.filter (·.2.isGetter)).map (·.1)
    setters := (accessors.flatten.filter (·.2.isSetter)).map (·.1) }

def propertiesOf (tables : Tables) (index : Int) : List Int :=
  ((tables.propertyMaps.getD []).filter (·.parent == index)).flatMap (·.properties)

end Tables

namespace Book

def readField (book : Book) (owner : String) (index : Int) : Lookup Field := do
  let row ← lift (Tables.row book.tables.fields "Field" index)
  let type ← fieldSignature book.resolver book.levels row.signature
  return { name := row.name, type, isStatic := row.isStatic, isReadonly := row.isReadonly
           isLiteral := row.isLiteral, declaringType := some owner }

def parameterNames (book : Book) (row : MethodRow) : Except Fault (List (Int × Option String)) := do
  let rows ← row.params.mapM (Tables.row book.tables.params "Param")
  return (rows.filter (·.sequence != 0)).map fun row => (row.sequence, stated (some row.name))

def readMethod (book : Book) (owner : String) (index : Int) : Lookup Method := do
  let row ← lift (Tables.row book.tables.methods "MethodDef" index)
  let signature ← methodSignature book.resolver book.levels row.signature
  let names ← lift (book.parameterNames row)
  return {
    name := row.name, returnType := signature.returnType
    parameters := signature.parameters.zipIdx.map fun (type, place) =>
      { name := (Tables.lastValue names (place + 1)).getD none, type }
    isStatic := row.isStatic, isSpecialName := row.isSpecialName
    isConstructor := constructorNames.contains row.name
    genericArity := signature.genericCount, declaringType := some owner }

def readProperty (book : Book) (joins : Joins) (owner : String) (index : Int) :
    Lookup Property := do
  let row ← lift (Tables.row book.tables.properties "Property" index)
  let signature ← propertySignature book.resolver book.levels row.signature
  return {
    name := row.name, type := signature.type, isStatic := !signature.hasThis
    hasGetter := joins.getters.contains index, hasSetter := joins.setters.contains index
    indexParameterCount := signature.parameters.length, declaringType := some owner }

def readHead (book : Book) (index : Int) (row : TypeDefRow) : Lookup TypeDecl := do
  let space ← lift (book.tables.spaceOf index)
  let category ← book.category index
  let base ← book.baseOf row
  let head : TypeDecl :=
    { name := row.name, space := some space, category, base
      isNested := (book.tables.enclosing? index).isSome, source := book.source }
  match head.normalize with
  | .ok type => return type
  | .error _ => raise .badArity

/-- An enum's own value tells the type it is stored as. -/
def isEnumStorage (field : Field) : Bool := field.name == enumValueField && !field.isStatic

/-- Fields belong to a type as they are, but to an enum as its members and its storage. -/
def withFields (joins : Joins) (type : TypeDecl) (fields : List (Int × Field)) : TypeDecl :=
  if type.isEnum then
    { type with
      enumUnderlying :=
        ((fields.filter (isEnumStorage ·.2)).getLast?).map (·.2.type.name)
      enumMembers := (fields.filter fun (_, field) => field.isLiteral && !isEnumStorage field).map
        fun (index, field) =>
          { name := field.name, value := (Tables.lastValue joins.constants index).getD 0 } }
  else { type with fields := fields.map (·.2) }

def readType (book : Book) (joins : Joins) (index : Int) (row : TypeDefRow) : Lookup TypeDecl := do
  let head ← book.readHead index row
  let owner := head.fullName
  let fields ← row.fields.mapM fun index => do return (index, ← book.readField owner index)
  let methods ← row.methods.mapM (book.readMethod owner)
  let properties ← (book.tables.propertiesOf index).mapM (book.readProperty joins owner)
  return { withFields joins head fields with methods, properties }

/-- Reads a type, or records why not; only a fault that is not the type's own goes further. -/
def attempt (book : Book) (joins : Joins) (index : Int) (row : TypeDefRow) :
    Lookup (Option TypeDecl) :=
  fun memory =>
    match book.readType joins index row memory with
    | .ok type memory => .ok (some type) memory
    | .error fault memory =>
      if fault.isLocal then
        .ok none { memory with skipped := memory.skipped ++ [(row.name, fault)] }
      else .error fault memory

def numbered (book : Book) : List (Int × TypeDefRow) :=
  (book.tables.typeDefs.getD []).zipIdx.map fun (row, place) => ((place : Int) + 1, row)

def readTypes (book : Book) : Lookup (List TypeDecl) := do
  let joins ← lift book.tables.joins
  let types ← (book.numbered.filter (·.2.name != moduleType)).mapM fun (index, row) =>
    book.attempt joins index row
  return types.filterMap id

def enumNames (book : Book) : Except Fault (List String) := do
  let names ← book.numbered.mapM fun (index, row) => do
    if (← book.tables.baseName row) == some enumBaseName then
      return [qualifiedName (some (← book.tables.spaceOf index)) row.name]
    else return []
  return names.flatten

end Book

end ProxyHeaders.Metadata
