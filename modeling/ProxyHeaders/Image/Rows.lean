import ProxyHeaders.Files.Disk
import ProxyHeaders.Image.Executable
import ProxyHeaders.Image.Form
import ProxyHeaders.Image.Streams
import ProxyHeaders.Metadata.Tables

/-!
From the stored rows of an image to its tables. A list that belongs to a row starts where the row
says and goes on to the start of the next row's list.
-/
namespace ProxyHeaders.Image

open ProxyHeaders.Files ProxyHeaders.Metadata

abbrev Row := List Nat

def cell (row : Row) (column : Nat) : Nat := row.getD column 0

def rowAt (bytes : ByteArray) (sizes : Sizes) : List Column → Nat → Option Row
  | [], _ => some []
  | column :: rest, offset => do
    let width := sizes.width column
    return (← number? bytes offset width) :: (← rowAt bytes sizes rest (offset + width))

def rowsAt (bytes : ByteArray) (sizes : Sizes) (form : Form) (count offset : Nat) :
    Option (List Row) :=
  (List.range count).mapM fun index =>
    rowAt bytes sizes form.columns (offset + index * sizes.rowWidth form)

/-- The rows of the tables listed, one table behind the other. -/
def tablesAt (bytes : ByteArray) (sizes : Sizes) :
    List (Nat × Nat) → Nat → Option (List (Nat × List Row))
  | [], _ => some []
  | (table, count) :: rest, offset =>
    match forms[table]? with
    | none => some []
    | some form => do
      let rows ← rowsAt bytes sizes form count offset
      return (table, rows) :: (← tablesAt bytes sizes rest (offset + count * sizes.rowWidth form))

/-- The row counts of the tables present, and the offset behind them. -/
def rowCountsAt (bytes : ByteArray) : List Nat → Nat → Option (List (Nat × Nat) × Nat)
  | [], offset => some ([], offset)
  | table :: rest, offset => do
    let count ← number? bytes offset 4
    let (counts, behind) ← rowCountsAt bytes rest (offset + 4)
    return ((table, count) :: counts, behind)

/-- What is stored: the rows by table and the heaps that they point into. -/
structure Store where
  bytes : ByteArray
  texts : Stream
  blobs : Stream
  rows : List (Nat × List Row)

def tableStreams : List String := ["#~", "#-"]

def store? (bytes : ByteArray) (root : Nat) : Option Store := do
  let streams ← streams? bytes root
  let tables ← tableStreams.findSome? fun name => List.lookup name streams
  let heapFlags ← number? bytes (tables.offset + 6) 1
  let present ← number? bytes (tables.offset + 8) 8
  let numbers := (List.range 64).filter fun table => present.testBit table
  let (rowCounts, behind) ← rowCountsAt bytes numbers (tables.offset + 24)
  let rows ← tablesAt bytes { heapFlags, rowCounts } rowCounts behind
  return {
    bytes, rows
    texts := (List.lookup "#Strings" streams).getD ⟨0, 0⟩
    blobs := (List.lookup "#Blob" streams).getD ⟨0, 0⟩ }

namespace Store

def table? (store : Store) (table : Nat) : Option (List Row) := store.rows.lookup table

def text (store : Store) (index : Nat) : String := textAt store.bytes store.texts index

def blob (store : Store) (index : Nat) : List UInt8 := blobAt store.bytes store.blobs index

end Store

def tableIdOf : Nat → TableId
  | 0x01 => .typeRef
  | 0x02 => .typeDef
  | 0x04 => .field
  | 0x17 => .property
  | 0x1b => .typeSpec
  | table => .other ((forms[table]?.map (·.name)).getD "")

/-- The row that a coded number stands for. -/
def linkOf (column : Column) (number : Nat) : Option Link :=
  match column with
  | .coded bits tables =>
    (tables[number % Nat.pow 2 bits]?).map fun table =>
      { table := tableIdOf table, index := (number / Nat.pow 2 bits : Nat) }
  | _ => none

def hasBits (number mask : Nat) : Bool := number &&& mask != 0

def numbersBetween (first last : Nat) : List Int :=
  (List.range (last - first)).map fun step => ((first + step : Nat) : Int)

/-- The list of every row by where the lists start, in a table with so many rows. -/
def runs (count : Nat) : List Nat → List (List Int)
  | [] => []
  | [first] => [numbersBetween first (count + 1)]
  | first :: next :: rest => numbersBetween first (min next (count + 1)) :: runs count (next :: rest)

namespace Store

/-- The lists of another table's rows that start in a column of a table, row by row. -/
def runsOf (store : Store) (table column target : Nat) : List (List Int) :=
  let rows := (store.table? table).getD []
  match store.table? target with
  | none => rows.map fun _ => []
  | some targets => runs targets.length (rows.map (cell · column))

def typeDefRow (store : Store) (row : Row) (fields methods : List Int) : TypeDefRow :=
  { name := store.text (cell row 1), space := store.text (cell row 2)
    isInterface := hasBits (cell row 0) 0x20, base := linkOf .typeDefOrRef (cell row 3)
    fields, methods }

def typeRefRow (store : Store) (row : Row) : TypeRefRow :=
  { name := store.text (cell row 1), space := store.text (cell row 2)
    scope := linkOf .resolutionScope (cell row 0) }

def fieldRow (store : Store) (row : Row) : FieldRow :=
  let flags := cell row 0
  { name := store.text (cell row 1), signature := store.blob (cell row 2)
    isStatic := hasBits flags 0x10, isReadonly := hasBits flags 0x20
    isLiteral := hasBits flags 0x40 }

def methodRow (store : Store) (row : Row) (params : List Int) : MethodRow :=
  let flags := cell row 2
  { name := store.text (cell row 3), signature := store.blob (cell row 4)
    isStatic := hasBits flags 0x10, isSpecialName := hasBits flags 0x1800, params }

def paramRow (store : Store) (row : Row) : ParamRow :=
  { sequence := cell row 1, name := store.text (cell row 2) }

def propertyRow (store : Store) (row : Row) : PropertyRow :=
  { name := store.text (cell row 1), signature := store.blob (cell row 2) }

def semanticsRow (row : Row) : SemanticsRow :=
  { association := linkOf .hasSemantics (cell row 2)
    isGetter := hasBits (cell row 0) 2, isSetter := hasBits (cell row 0) 1 }

def constantRow (store : Store) (row : Row) : ConstantRow :=
  { parent := linkOf .hasConstant (cell row 2), element := cell row 0
    value := store.blob (cell row 3) }

/-- Where the name is in the rows of tables that a type's scope may lead to. -/
def nameColumns : List (Nat × Nat) := [(0x00, 1), (0x1a, 0), (0x23, 6)]

def rowNames (store : Store) (table : Nat) (rows : List Row) : List (Option String) :=
  rows.map fun row => (nameColumns.lookup table).map fun column => store.text (cell row column)

def all {α : Type} (store : Store) (table : Nat) (form : Row → α) : Option (List α) :=
  (store.table? table).map (·.map form)

/-- The same for rows with a list of rows of another table each. -/
def allWith {α : Type} (store : Store) (table column target : Nat) (form : Row → List Int → α) :
    Option (List α) :=
  (store.table? table).map fun rows => List.zipWith form rows (store.runsOf table column target)

def tables (store : Store) : Tables :=
  { typeDefs := (store.table? 0x02).map fun rows =>
      (rows.zip ((store.runsOf 0x02 4 0x04).zip (store.runsOf 0x02 5 0x06))).map
        fun (row, fields, methods) => store.typeDefRow row fields methods
    typeRefs := store.all 0x01 store.typeRefRow
    typeSpecs := store.all 0x1b fun row => store.blob (cell row 0)
    fields := store.all 0x04 store.fieldRow
    methods := store.allWith 0x06 5 0x08 store.methodRow
    params := store.all 0x08 store.paramRow
    properties := store.all 0x17 store.propertyRow
    propertyMaps := store.allWith 0x15 1 0x17 fun row properties =>
      { parent := (cell row 0 : Nat), properties }
    semantics := store.all 0x18 semanticsRow
    constants := store.all 0x0b store.constantRow
    nested := store.all 0x29 fun row => { nested := (cell row 0 : Nat), enclosing := (cell row 1 : Nat) }
    others := store.rows.filterMap fun (table, rows) =>
      (forms[table]?).map fun form => (form.name, store.rowNames table rows) }

end Store

def tablesIn (bytes : ByteArray) : Except Fault (Option Tables) := do
  let headers ← headersAt bytes
  return do
    let root ← metadataOffset? bytes headers
    return (← store? bytes root).tables

/-- A parser of executables for programs that have no other. -/
def parse (disk : Disk) (path : Path) : Except String (Option Tables) :=
  match disk.read path with
  | .error failure =>
    if failure.trouble == .isDirectory then
      .error ("Unable to access file '" ++ failure.path.display ++ "': " ++ failure.message)
    else .error failure.message
  | .ok content =>
    match tablesIn content.toBytes with
    | .error fault => .error fault.message
    | .ok tables => .ok tables

end ProxyHeaders.Image
