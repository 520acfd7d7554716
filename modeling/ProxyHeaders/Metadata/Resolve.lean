import ProxyHeaders.Metadata.Signature
import ProxyHeaders.Metadata.Tables

/-!
The types that signatures mention by number. What a reader has found out about the categories of
its own types it remembers; whether a type of another assembly is an enum it has to ask. A reader
keeps a record of its questions, and of the types that it could not read.
-/
namespace ProxyHeaders.Metadata

/-- Framework enums that may be mentioned without their assembly at hand. -/
def frameworkEnums : List String := [
  "System.DateTimeKind", "System.DayOfWeek", "System.StringComparison", "System.TypeCode",
  "System.Globalization.NumberStyles", "System.IO.FileAccess", "System.IO.FileMode",
  "System.Reflection.BindingFlags", "UnityEngine.AnimatorCullingMode",
  "UnityEngine.CollisionDetectionMode", "UnityEngine.CursorLockMode", "UnityEngine.FilterMode",
  "UnityEngine.FontStyle", "UnityEngine.ForceMode", "UnityEngine.ForceMode2D",
  "UnityEngine.HideFlags", "UnityEngine.KeyCode", "UnityEngine.LogType",
  "UnityEngine.RigidbodyConstraints", "UnityEngine.RigidbodyInterpolation",
  "UnityEngine.RigidbodyType2D", "UnityEngine.RuntimePlatform", "UnityEngine.SendMessageOptions",
  "UnityEngine.Space", "UnityEngine.TextAnchor", "UnityEngine.TextureFormat",
  "UnityEngine.TextureWrapMode", "UnityEngine.TouchPhase",
  "UnityEngine.Rendering.ShadowCastingMode"]

def enumBaseName : String := "System.Enum"
def valueBaseName : String := "System.ValueType"

/-- The tables of an assembly, which types of other assemblies are enums, and how many types a
signature may have open inside one another. -/
structure Book where
  tables : Tables
  isEnumElsewhere : Option String → String → Except Fault Bool := fun _ _ => .ok false
  source : String := "dnfile"
  levels : Nat := 980

structure Memory where
  categories : List (Int × Category) := []
  /-- The questions about other assemblies so far: the assembly, if known, and the type. -/
  asked : List (Option String × String) := []
  /-- The types that were left out so far, and why. -/
  skipped : List (String × Fault) := []
  deriving DecidableEq, Repr, Inhabited

abbrev Lookup := EStateM Fault Memory

def raise {α : Type} (fault : Fault) : Lookup α := throw fault

def lift {α : Type} : Except Fault α → Lookup α
  | .ok value => pure value
  | .error fault => raise fault

namespace Book

/-- The category of a type by what it derives from; the base of all enums is itself a class. -/
def categoryOfRow (book : Book) (row : TypeDefRow) : Except Fault Category := do
  let base ← book.tables.baseName row
  if row.isInterface then return .interfaceType
  else if base == some enumBaseName then return .enumType
  else if base == some valueBaseName &&
      qualifiedName (some row.space) row.name != enumBaseName then return .structType
  else return .classType

def category (book : Book) (index : Int) : Lookup Category := do
  let memory ← get
  match memory.categories.lookup index with
  | some category => return category
  | none =>
    let category ← lift (book.tables.typeDef index >>= book.categoryOfRow)
    modify fun memory => { memory with categories := (index, category) :: memory.categories }
    return category

def isEnumIn (book : Book) (assembly : Option String) (fullName : String) : Lookup Bool := do
  modify fun memory => { memory with asked := memory.asked ++ [(assembly, fullName)] }
  lift (book.isEnumElsewhere assembly fullName)

/-- A value type of another assembly may be an enum; signatures do not tell. -/
def refCategory (book : Book) (row : TypeRefRow) (hint : Category) : Lookup Category := do
  if hint != .structType then return hint
  else
    let fullName := qualifiedName (some row.space) row.name
    if frameworkEnums.contains fullName then return .enumType
    else
      let assembly ← lift (book.tables.scopeAssembly row)
      if ← book.isEnumIn assembly fullName then return .enumType else return hint

def typeDefRef (book : Book) (index : Int) : Lookup TypeRef := do
  let row ← lift (book.tables.typeDef index)
  let space ← lift (book.tables.spaceOf index)
  return { name := row.name, space := stated (some space), category := ← book.category index }

def typeRefRef (book : Book) (index : Int) (hint : Category) : Lookup TypeRef := do
  let row ← lift (Tables.row book.tables.typeRefs "TypeRef" index)
  return { name := row.name, space := stated (some row.space),
           category := ← book.refCategory row hint }

/-- How much deeper than its mention the inside of a mentioned type lies. -/
def mentionDepth : Nat := 3

/-- Resolves numbers; a number of the table of constructed types leads to another signature. -/
def resolveWithin (book : Book) : Nat → Resolver Memory
  | 0, _, _, _, _ => raise .tooDeep
  | hops + 1, levels, table, index, hint =>
    match table with
    | .typeDef => book.typeDefRef index
    | .typeRef => book.typeRefRef index hint
    | .typeSpec => do
      let blob ← lift (Tables.row book.tables.typeSpecs "TypeSpec" index)
      typeSignature (resolveWithin book hops) (levels - mentionDepth) blob

/-- Each further signature lies deeper, so this never ends for want of hops. -/
def resolver (book : Book) : Resolver Memory := book.resolveWithin (book.levels + 1)

def resolve (book : Book) (table : TokenTable) (index : Int) (hint : Category) : Lookup TypeRef :=
  book.resolver book.levels table index hint

def resolveTag (book : Book) (tag index : Int) (hint : Category) : Lookup TypeRef :=
  match TokenTable.ofTag tag with
  | some table => book.resolve table index hint
  | none => raise (.signature (.unknownTag tag))

def baseOf (book : Book) (row : TypeDefRow) : Lookup (Option TypeRef) := do
  match ← lift (book.tables.follow row.base), row.base with
  | none, _ => return none
  | some (.typeDef _), some link => return some (← book.resolve .typeDef link.index .classType)
  | some .typeSpec, some link => return some (← book.resolve .typeSpec link.index .classType)
  | some (.typeRef base), _ => return some { name := base.name, space := stated (some base.space) }
  | some _, _ => raise .notAType

end Book

end ProxyHeaders.Metadata
