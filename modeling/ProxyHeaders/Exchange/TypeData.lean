import ProxyHeaders.Data.Access
import ProxyHeaders.TypeDecl

/-!
Types as data, so that they can be handed over without an assembly. What a description leaves out
has its usual value.
-/
namespace ProxyHeaders

def Category.words : List (String × Category) := [
  ("class", .classType), ("struct", .structType), ("enum", .enumType),
  ("interface", .interfaceType), ("generic_parameter", .genericParameter),
  ("pointer", .pointerType), ("unknown", .unknown)]

def Category.word : Category → String
  | .classType => "class"
  | .structType => "struct"
  | .enumType => "enum"
  | .interfaceType => "interface"
  | .genericParameter => "generic_parameter"
  | .pointerType => "pointer"
  | .unknown => "unknown"

def Category.ofData (value : Value) : Category := value.wordOr Category.words .classType

namespace TypeRef

mutual

def toData : TypeRef → Value
  | ⟨name, space, category, element, isArray, isByref, arguments⟩ =>
    let element := match element with
      | some element => element.toData
      | none => .none
    .record [("name", .text name), ("namespace", .ofText? space), ("category", .text category.word),
      ("element_type", element), ("is_array", .bool isArray), ("is_byref", .bool isByref),
      ("generic_arguments", .list (toDataAll arguments))]

def toDataAll : List TypeRef → List Value
  | [] => []
  | first :: rest => first.toData :: toDataAll rest

end

mutual

def ofData : Value → TypeRef
  | .record entries => ofEntries entries { name := "" }
  | _ => { name := "" }

def ofEntries : List (Key × Value) → TypeRef → TypeRef
  | [], ref => ref
  | (key, value) :: rest, ref =>
    let ref := match key.display with
      | "name" => { ref with name := value.asText }
      | "namespace" => { ref with space := value.text? }
      | "category" => { ref with category := .ofData value }
      | "element_type" =>
        { ref with element := if value matches .none then none else some (ofData value) }
      | "is_array" => { ref with isArray := value.boolOr false }
      | "is_byref" => { ref with isByref := value.boolOr false }
      | "generic_arguments" => { ref with arguments := ofDataAll value }
      | _ => ref
    ofEntries rest ref

def ofDataAll : Value → List TypeRef
  | .list items => ofItems items
  | _ => []

def ofItems : List Value → List TypeRef
  | [] => []
  | item :: rest => ofData item :: ofItems rest

end

def ofData? : Value → Option TypeRef
  | .none => none
  | value => some (ofData value)

end TypeRef

open Value (ofText?)

def Field.toData (field : Field) : Value :=
  .record [("name", .text field.name), ("type", field.type.toData),
    ("is_static", .bool field.isStatic), ("is_readonly", .bool field.isReadonly),
    ("is_literal", .bool field.isLiteral), ("declaring_type", ofText? field.declaringType)]

def Field.ofData (value : Value) : Field :=
  { name := (value.field "name").asText, type := .ofData (value.field "type")
    isStatic := (value.field "is_static").boolOr false
    isReadonly := (value.field "is_readonly").boolOr false
    isLiteral := (value.field "is_literal").boolOr false
    declaringType := (value.field "declaring_type").text? }

def Property.toData (property : Property) : Value :=
  .record [("name", .text property.name), ("type", property.type.toData),
    ("is_static", .bool property.isStatic), ("has_getter", .bool property.hasGetter),
    ("has_setter", .bool property.hasSetter),
    ("index_parameter_count", .ofNat property.indexParameterCount),
    ("declaring_type", ofText? property.declaringType)]

def Property.ofData (value : Value) : Property :=
  { name := (value.field "name").asText, type := .ofData (value.field "type")
    isStatic := (value.field "is_static").boolOr false
    hasGetter := (value.field "has_getter").boolOr true
    hasSetter := (value.field "has_setter").boolOr false
    indexParameterCount := (value.field "index_parameter_count").asNat
    declaringType := (value.field "declaring_type").text? }

def Method.toData (method : Method) : Value :=
  .record [("name", .text method.name), ("return_type", method.returnType.toData),
    ("parameters", .list (method.parameters.map fun parameter =>
      .list [ofText? parameter.name, parameter.type.toData])),
    ("is_static", .bool method.isStatic), ("is_special_name", .bool method.isSpecialName),
    ("is_constructor", .bool method.isConstructor), ("generic_arity", .ofNat method.genericArity),
    ("declaring_type", ofText? method.declaringType)]

def Method.ofData (value : Value) : Method :=
  { name := (value.field "name").asText, returnType := .ofData (value.field "return_type")
    parameters := (value.field "parameters").items.map fun parameter =>
      { name := (parameter.item 0).text?, type := .ofData (parameter.item 1) }
    isStatic := (value.field "is_static").boolOr false
    isSpecialName := (value.field "is_special_name").boolOr false
    isConstructor := (value.field "is_constructor").boolOr false
    genericArity := (value.field "generic_arity").asNat
    declaringType := (value.field "declaring_type").text? }

def EnumMember.toData (member : EnumMember) : Value :=
  .list [.text member.name, .text (toString member.value)]

def EnumMember.ofData (value : Value) : EnumMember :=
  { name := (value.item 0).asText, value := (value.item 1).asInt }

namespace TypeDecl

def toData (type : TypeDecl) : Value :=
  .record [("name", .text type.name), ("namespace", ofText? type.space),
    ("category", .text type.category.word),
    ("base_type", (type.base.map TypeRef.toData).getD .none),
    ("fields", .list (type.fields.map Field.toData)),
    ("properties", .list (type.properties.map Property.toData)),
    ("methods", .list (type.methods.map Method.toData)),
    ("enum_underlying_type", ofText? type.enumUnderlying),
    ("enum_values", .list (type.enumMembers.map EnumMember.toData)),
    ("generic_arity", .ofNat type.genericArity), ("is_nested", .bool type.isNested),
    ("source", .text type.source)]

/-- A type as described; there is none if its name states an unreadable arity. -/
def ofData (value : Value) : Except Unit TypeDecl :=
  normalize
    { name := (value.field "name").asText, space := (value.field "namespace").text?
      category := .ofData (value.field "category")
      base := TypeRef.ofData? (value.field "base_type")
      fields := (value.field "fields").items.map Field.ofData
      properties := (value.field "properties").items.map Property.ofData
      methods := (value.field "methods").items.map Method.ofData
      enumUnderlying := (value.field "enum_underlying_type").text?
      enumMembers := (value.field "enum_values").items.map EnumMember.ofData
      genericArity := (value.field "generic_arity").asNat
      isNested := (value.field "is_nested").boolOr false
      source := (value.field "source").asText }

def allOfData (value : Value) : Except Unit (List TypeDecl) := value.items.mapM ofData

end TypeDecl

end ProxyHeaders
