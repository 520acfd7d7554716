import ProxyHeaders.Data.Access
import ProxyHeaders.Metadata.Tables
import ProxyHeaders.Text.Utf8

/-!
The tables of an assembly as data. Blobs are in hexadecimal digits; texts are plain, given as
bytes, or items of a heap that may have no value.
-/
namespace ProxyHeaders.Metadata

def hexDigit (c : Char) : Nat := if c.isDigit then c.toNat - 48 else c.toLower.toNat - 87

def bytesOfDigits : List Char → List UInt8
  | high :: low :: rest => (hexDigit high * 16 + hexDigit low).toUInt8 :: bytesOfDigits rest
  | _ => []

def bytesOfHex (digits : String) : List UInt8 := bytesOfDigits digits.toList

def textOfData (value : Value) : String :=
  match value with
  | .record _ =>
    if value.has "bytes" then Text.decodeUtf8Lossy (bytesOfHex (value.field "bytes").asText)
    else (value.field "heap").display
  | value => value.asText

def blobOfData (value : Value) : List UInt8 :=
  match value with
  | .record _ => bytesOfHex (value.field "heap").asText
  | value => bytesOfHex value.asText

def TableId.ofName : String → TableId
  | "TypeDef" => .typeDef
  | "TypeRef" => .typeRef
  | "TypeSpec" => .typeSpec
  | "Field" => .field
  | "Property" => .property
  | name => .other name

def Link.ofData? : Value → Option Link
  | .list items =>
    some { table := .ofName (Value.item (.list items) 0).asText
           index := (Value.item (.list items) 1).asInt }
  | _ => none

def indicesOfData (value : Value) : List Int := value.items.map Value.asInt

def hasFlag (row : Value) (flag : String) : Bool := (row.field "flags").asTexts.contains flag

def rowsOfData {α : Type} (tables : Value) (name : String) (row : Value → α) : Option (List α) :=
  match tables.field name with
  | .list rows => some (rows.map row)
  | _ => none

def namesOfData (rows : Value) : List (Option String) :=
  rows.items.map fun row => if row.has "name" then some (textOfData (row.field "name")) else none

def Tables.ofData (tables : Value) : Tables :=
  let name (row : Value) := textOfData (row.field "name")
  let space (row : Value) := textOfData (row.field "namespace")
  let signature (row : Value) := blobOfData (row.field "sig")
  { typeDefs := rowsOfData tables "TypeDef" fun row =>
      { name := name row, space := space row, isInterface := hasFlag row "tdInterface"
        base := Link.ofData? (row.field "extends"), fields := indicesOfData (row.field "fields")
        methods := indicesOfData (row.field "methods") }
    typeRefs := rowsOfData tables "TypeRef" fun row =>
      { name := name row, space := space row, scope := Link.ofData? (row.field "scope") }
    typeSpecs := rowsOfData tables "TypeSpec" signature
    fields := rowsOfData tables "Field" fun row =>
      { name := name row, signature := signature row, isStatic := hasFlag row "fdStatic"
        isReadonly := hasFlag row "fdInitOnly", isLiteral := hasFlag row "fdLiteral" }
    methods := rowsOfData tables "MethodDef" fun row =>
      { name := name row, signature := signature row, isStatic := hasFlag row "mdStatic"
        isSpecialName := hasFlag row "mdSpecialName" || hasFlag row "mdRTSpecialName"
        params := indicesOfData (row.field "params") }
    params := rowsOfData tables "Param" fun row =>
      { sequence := (row.field "sequence").asNat, name := name row }
    properties := rowsOfData tables "Property" fun row =>
      { name := name row, signature := signature row }
    propertyMaps := rowsOfData tables "PropertyMap" fun row =>
      { parent := (row.field "parent").asInt
        properties := indicesOfData (row.field "properties") }
    semantics := rowsOfData tables "MethodSemantics" fun row =>
      { association := Link.ofData? (row.field "association"), isGetter := hasFlag row "msGetter"
        isSetter := hasFlag row "msSetter" }
    constants := rowsOfData tables "Constant" fun row =>
      { parent := Link.ofData? (row.field "parent"), element := (row.field "type").asNat
        value := blobOfData (row.field "value") }
    nested := rowsOfData tables "NestedClass" fun row =>
      { nested := (row.field "nested").asInt, enclosing := (row.field "enclosing").asInt }
    others := tables.entries.map fun (table, rows) => (table.display, namesOfData rows) }

end ProxyHeaders.Metadata
