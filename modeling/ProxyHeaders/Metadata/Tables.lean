import ProxyHeaders.Metadata.Fault
import ProxyHeaders.TypeRef

/-!
The tables of an assembly that tell its types, as a parser of executables hands them over. Rows are
numbered from 1; where a number leads that no row has is up to the parser.
-/
namespace ProxyHeaders.Metadata

/-- The table that a row is in; of most tables only the rows' names matter. -/
inductive TableId where
  | typeDef
  | typeRef
  | typeSpec
  | field
  | property
  | other (name : String)
  deriving DecidableEq, Repr, Inhabited

structure Link where
  table : TableId
  index : Int
  deriving DecidableEq, Repr, Inhabited

structure TypeDefRow where
  name : String
  space : String := ""
  isInterface : Bool := false
  base : Option Link := none
  fields : List Int := []
  methods : List Int := []
  deriving DecidableEq, Repr, Inhabited

structure TypeRefRow where
  name : String
  space : String := ""
  scope : Option Link := none
  deriving DecidableEq, Repr, Inhabited

structure FieldRow where
  name : String
  signature : List UInt8
  isStatic : Bool := false
  isReadonly : Bool := false
  isLiteral : Bool := false
  deriving DecidableEq, Repr, Inhabited

structure MethodRow where
  name : String
  signature : List UInt8
  isStatic : Bool := false
  isSpecialName : Bool := false
  params : List Int := []
  deriving DecidableEq, Repr, Inhabited

/-- A parameter's name and place; place 0 is the return value. -/
structure ParamRow where
  sequence : Nat
  name : String
  deriving DecidableEq, Repr, Inhabited

structure PropertyRow where
  name : String
  signature : List UInt8
  deriving DecidableEq, Repr, Inhabited

structure PropertyMapRow where
  parent : Int
  properties : List Int := []
  deriving DecidableEq, Repr, Inhabited

structure SemanticsRow where
  association : Option Link := none
  isGetter : Bool := false
  isSetter : Bool := false
  deriving DecidableEq, Repr, Inhabited

structure ConstantRow where
  parent : Option Link := none
  element : Nat
  value : List UInt8 := []
  deriving DecidableEq, Repr, Inhabited

structure NestedRow where
  nested : Int
  enclosing : Int
  deriving DecidableEq, Repr, Inhabited

/-- What comes of following a number that no row of a table has. -/
inductive Stray where
  | refused
  | nothing
  | row (place : Nat)
  deriving DecidableEq, Repr, Inhabited

/-- Numbers below 1 count backwards from the last of so many rows; others are refused. -/
def Stray.backwards (count : Nat) (index : Int) : Stray :=
  let place := index - 1 + count
  if index < 1 && place ≥ 0 then .row place.toNat else .refused

/-- A table that is absent has no rows, and nothing can refer to it. -/
structure Tables where
  typeDefs : Option (List TypeDefRow) := none
  typeRefs : Option (List TypeRefRow) := none
  typeSpecs : Option (List (List UInt8)) := none
  fields : Option (List FieldRow) := none
  methods : Option (List MethodRow) := none
  params : Option (List ParamRow) := none
  properties : Option (List PropertyRow) := none
  propertyMaps : Option (List PropertyMapRow) := none
  semantics : Option (List SemanticsRow) := none
  constants : Option (List ConstantRow) := none
  nested : Option (List NestedRow) := none
  /-- The names of the rows of all other tables, where they have any. -/
  others : List (String × List (Option String)) := []
  /-- Where a number leads that none of so many rows has. -/
  beyond : Nat → Int → Stray := Stray.backwards
  deriving Inhabited

inductive Target where
  | typeDef (row : TypeDefRow)
  | typeRef (row : TypeRefRow)
  | typeSpec
  | field (name : String)
  | property (name : String)
  | other (name : Option String)
  deriving DecidableEq, Repr, Inhabited

def Target.name? : Target → Option String
  | .field name => some name
  | .property name => some name
  | .other name => name
  | _ => none

namespace Tables

def rowNear {α : Type} (beyond : Nat → Int → Stray) (rows : List α) (index : Int) :
    Except Fault (Option α) :=
  if 1 ≤ index && index ≤ rows.length then .ok rows[(index - 1).toNat]?
  else match beyond rows.length index with
  | .refused => .error .dangling
  | .nothing => .ok none
  | .row place => .ok rows[place]?

def pick {α : Type} (beyond : Nat → Int → Stray) (rows : Option (List α)) (index : Int)
    (target : α → Target) : Except Fault (Option Target) :=
  match rows with
  | none => .ok none
  | some rows => do return (← rowNear beyond rows index).map target

def followLink (tables : Tables) (link : Link) : Except Fault (Option Target) :=
  match link.table with
  | .typeDef => pick tables.beyond tables.typeDefs link.index .typeDef
  | .typeRef => pick tables.beyond tables.typeRefs link.index .typeRef
  | .typeSpec => pick tables.beyond tables.typeSpecs link.index fun _ => .typeSpec
  | .field => pick tables.beyond tables.fields link.index fun row => .field row.name
  | .property => pick tables.beyond tables.properties link.index fun row => .property row.name
  | .other name => pick tables.beyond (tables.others.lookup name) link.index .other

def follow (tables : Tables) : Option Link → Except Fault (Option Target)
  | none => .ok none
  | some link => tables.followLink link

/-- A row by its number, for numbers that have to be in range. -/
def row {α : Type} (rows : Option (List α)) (table : String) (index : Int) : Except Fault α :=
  let missing := Except.error (.signature (.noSuchRow table index))
  if index < 1 then missing
  else match (rows.getD [])[(index - 1).toNat]? with
  | some row => .ok row
  | none => missing

def typeDef (tables : Tables) (index : Int) : Except Fault TypeDefRow :=
  row tables.typeDefs "TypeDef" index

def enclosing? (tables : Tables) (index : Int) : Option Int :=
  ((tables.nested.getD []).reverse.find? (·.nested == index)).map (·.enclosing)

/-- The way outwards from a type, up to a type that is not nested or was met before. -/
def outermostFrom (tables : Tables) : Nat → List Int → Int → Int
  | 0, _, index => index
  | steps + 1, met, index =>
    if met.contains index then index
    else match tables.enclosing? index with
    | some outer => outermostFrom tables steps (index :: met) outer
    | none => index

def outermost (tables : Tables) (index : Int) : Int :=
  tables.outermostFrom ((tables.nested.getD []).length + 1) [] index

/-- Nested types have no namespace of their own; theirs is that of the outermost type. -/
def spaceOf (tables : Tables) (index : Int) : Except Fault String := do
  return (← tables.typeDef (tables.outermost index)).space

def baseName (tables : Tables) (row : TypeDefRow) : Except Fault (Option String) := do
  match ← tables.follow row.base with
  | some (.typeDef base) => return some (qualifiedName (some base.space) base.name)
  | some (.typeRef base) => return some (qualifiedName (some base.space) base.name)
  | _ => return none

def scopeFrom (tables : Tables) : Nat → Option Link → Except Fault (Option String)
  | steps, scope => do
    match ← tables.follow scope with
    | some (.typeRef outer) =>
      match steps with
      | 0 => return none
      | steps + 1 => scopeFrom tables steps outer.scope
    | some target => return stated target.name?
    | none => return none

def scopeAssembly (tables : Tables) (row : TypeRefRow) : Except Fault (Option String) :=
  tables.scopeFrom (tables.typeRefs.getD []).length row.scope

/-- Every entry of a list that keeps the last of several values for a key. -/
def lastValue {α : Type} (entries : List (Int × α)) (key : Int) : Option α :=
  entries.reverse.lookup key

end Tables

end ProxyHeaders.Metadata
