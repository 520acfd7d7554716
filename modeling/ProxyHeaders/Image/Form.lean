/-!
The form of metadata tables: the columns of every table there can be, and how wide they are.
-/
namespace ProxyHeaders.Image

/-- What a column holds: a number, an index into a heap, or a row of a table. -/
inductive Column where
  | number (width : Nat)
  | text
  | guid
  | blob
  /-- A row of one table. -/
  | row (table : Nat)
  /-- A row of one of several tables; the lowest bits tell which. -/
  | coded (bits : Nat) (tables : List Nat)
  deriving DecidableEq, Repr, Inhabited

namespace Column

def typeDefOrRef : Column := .coded 2 [0x02, 0x01, 0x1b]
def hasConstant : Column := .coded 2 [0x04, 0x08, 0x17]
def hasAttribute : Column := .coded 5 [
  0x06, 0x04, 0x01, 0x02, 0x08, 0x09, 0x0a, 0x00, 0x0e, 0x17, 0x14, 0x11, 0x1a, 0x1b, 0x20, 0x23,
  0x26, 0x27, 0x28, 0x2a, 0x2c, 0x2b]
def hasMarshal : Column := .coded 1 [0x04, 0x08]
def hasSecurity : Column := .coded 2 [0x02, 0x06, 0x20]
def memberParent : Column := .coded 3 [0x02, 0x01, 0x1a, 0x06, 0x1b]
def hasSemantics : Column := .coded 1 [0x14, 0x17]
def methodDefOrRef : Column := .coded 1 [0x06, 0x0a]
def memberForwarded : Column := .coded 1 [0x04, 0x06]
def implementation : Column := .coded 2 [0x26, 0x23, 0x27]
def attributeType : Column := .coded 3 [0x06, 0x0a]
def resolutionScope : Column := .coded 2 [0x00, 0x1a, 0x23, 0x01]
def typeOrMethod : Column := .coded 1 [0x02, 0x06]

end Column

structure Form where
  name : String
  columns : List Column
  deriving DecidableEq, Repr, Inhabited

open Column in
/-- The tables in the order of their numbers. -/
def forms : List Form := [
  ⟨"Module", [number 2, text, guid, guid, guid]⟩,
  ⟨"TypeRef", [resolutionScope, text, text]⟩,
  ⟨"TypeDef", [number 4, text, text, typeDefOrRef, row 0x04, row 0x06]⟩,
  ⟨"FieldPtr", [row 0x04]⟩,
  ⟨"Field", [number 2, text, blob]⟩,
  ⟨"MethodPtr", [row 0x06]⟩,
  ⟨"MethodDef", [number 4, number 2, number 2, text, blob, row 0x08]⟩,
  ⟨"ParamPtr", [row 0x08]⟩,
  ⟨"Param", [number 2, number 2, text]⟩,
  ⟨"InterfaceImpl", [row 0x02, typeDefOrRef]⟩,
  ⟨"MemberRef", [memberParent, text, blob]⟩,
  ⟨"Constant", [number 1, number 1, hasConstant, blob]⟩,
  ⟨"CustomAttribute", [hasAttribute, attributeType, blob]⟩,
  ⟨"FieldMarshal", [hasMarshal, blob]⟩,
  ⟨"DeclSecurity", [number 2, hasSecurity, blob]⟩,
  ⟨"ClassLayout", [number 2, number 4, row 0x02]⟩,
  ⟨"FieldLayout", [number 4, row 0x04]⟩,
  ⟨"StandAloneSig", [blob]⟩,
  ⟨"EventMap", [row 0x02, row 0x14]⟩,
  ⟨"EventPtr", [row 0x14]⟩,
  ⟨"Event", [number 2, text, typeDefOrRef]⟩,
  ⟨"PropertyMap", [row 0x02, row 0x17]⟩,
  ⟨"PropertyPtr", [row 0x17]⟩,
  ⟨"Property", [number 2, text, blob]⟩,
  ⟨"MethodSemantics", [number 2, row 0x06, hasSemantics]⟩,
  ⟨"MethodImpl", [row 0x02, methodDefOrRef, methodDefOrRef]⟩,
  ⟨"ModuleRef", [text]⟩,
  ⟨"TypeSpec", [blob]⟩,
  ⟨"ImplMap", [number 2, memberForwarded, text, row 0x1a]⟩,
  ⟨"FieldRVA", [number 4, row 0x04]⟩,
  ⟨"EncLog", [number 4, number 4]⟩,
  ⟨"EncMap", [number 4]⟩,
  ⟨"Assembly",
    [number 4, number 2, number 2, number 2, number 2, number 4, blob, text, text]⟩,
  ⟨"AssemblyProcessor", [number 4]⟩,
  ⟨"AssemblyOS", [number 4, number 4, number 4]⟩,
  ⟨"AssemblyRef",
    [number 2, number 2, number 2, number 2, number 4, blob, text, text, blob]⟩,
  ⟨"AssemblyRefProcessor", [number 4, row 0x23]⟩,
  ⟨"AssemblyRefOS", [number 4, number 4, number 4, row 0x23]⟩,
  ⟨"File", [number 4, text, blob]⟩,
  ⟨"ExportedType", [number 4, number 4, text, text, implementation]⟩,
  ⟨"ManifestResource", [number 4, number 4, text, implementation]⟩,
  ⟨"NestedClass", [row 0x02, row 0x02]⟩,
  ⟨"GenericParam", [number 2, number 2, typeOrMethod, text]⟩,
  ⟨"MethodSpec", [methodDefOrRef, blob]⟩,
  ⟨"GenericParamConstraint", [row 0x2a, typeDefOrRef]⟩]

/-- What the widths of columns hang on: which heaps are large, and how many rows tables have. -/
structure Sizes where
  heapFlags : Nat
  /-- The row counts of the tables that are present, by number. -/
  rowCounts : List (Nat × Nat)
  deriving DecidableEq, Repr, Inhabited

namespace Sizes

def rowCount (sizes : Sizes) (table : Nat) : Nat := (sizes.rowCounts.lookup table).getD 0

/-- A number takes two bytes if all that it can be fits into them. -/
def indexWidth (limit : Nat) : Nat := if limit < 0x10000 then 2 else 4

def heapWidth (sizes : Sizes) (flag : Nat) : Nat :=
  if sizes.heapFlags / flag % 2 == 1 then 4 else 2

def width (sizes : Sizes) : Column → Nat
  | .number width => width
  | .text => sizes.heapWidth 1
  | .guid => sizes.heapWidth 2
  | .blob => sizes.heapWidth 4
  | .row table => indexWidth (sizes.rowCount table)
  | .coded bits tables => indexWidth ((tables.map sizes.rowCount).foldl max 0 * Nat.pow 2 bits)

def rowWidth (sizes : Sizes) (form : Form) : Nat :=
  form.columns.foldl (fun total column => total + sizes.width column) 0

end Sizes

end ProxyHeaders.Image
