import ProxyHeaders.Data.Access
import ProxyHeaders.Reflection.Runtime

/-!
The runtime's types as data, for use without a runtime.
-/
namespace ProxyHeaders.Reflection

namespace RuntimeRef

mutual

def ofData : Value → RuntimeRef
  | .record entries => ofEntries entries {}
  | _ => {}

def ofEntries : List (Key × Value) → RuntimeRef → RuntimeRef
  | [], ref => ref
  | (key, value) :: rest, ref =>
    let truth := value.boolOr false
    let ref := match key.display with
      | "Name" => { ref with name := value.text? }
      | "Namespace" => { ref with space := value.text? }
      | "IsByRef" => { ref with isByref := truth }
      | "IsArray" => { ref with isArray := truth }
      | "IsPointer" => { ref with isPointer := truth }
      | "IsGenericParameter" => { ref with isGenericParameter := truth }
      | "IsGenericType" => { ref with isGeneric := truth }
      | "IsGenericTypeDefinition" => { ref with isGenericDefinition := truth }
      | "IsEnum" => { ref with isEnum := truth }
      | "IsInterface" => { ref with isInterface := truth }
      | "IsValueType" => { ref with isValueType := truth }
      | "ElementType" =>
        { ref with element := if value matches .none then none else some (ofData value) }
      | "GenericArguments" => { ref with arguments := ofDataAll value }
      | "throws" => { ref with unanswered := value.asTexts }
      | _ => ref
    ofEntries rest ref

def ofDataAll : Value → List (Option RuntimeRef)
  | .list items => ofItems items
  | _ => []

def ofItems : List Value → List (Option RuntimeRef)
  | [] => []
  | item :: rest =>
    (if item matches .none then none else some (ofData item)) :: ofItems rest

end

def ofData? (value : Value) : Option RuntimeRef :=
  if value matches .none then none else some (ofData value)

end RuntimeRef

def RuntimeField.ofData (value : Value) : RuntimeField :=
  { name := (value.field "Name").text?, type := RuntimeRef.ofData? (value.field "FieldType")
    isStatic := (value.field "IsStatic").boolOr false
    isReadonly := (value.field "IsInitOnly").boolOr false
    isLiteral := (value.field "IsLiteral").boolOr false }

def accessorOfData : Value → Option Bool
  | .none => none
  | accessor => some ((accessor.field "IsStatic").boolOr false)

def RuntimeProperty.ofData (value : Value) : RuntimeProperty :=
  { name := (value.field "Name").text?, type := RuntimeRef.ofData? (value.field "PropertyType")
    canRead := (value.field "CanRead").boolOr false
    canWrite := (value.field "CanWrite").boolOr false
    getterIsStatic := accessorOfData (value.field "Getter")
    setterIsStatic := accessorOfData (value.field "Setter")
    indexParameters := (value.field "IndexParameters").items.length }

def RuntimeMethod.ofData (value : Value) : RuntimeMethod :=
  { name := (value.field "Name").text?, returnType := RuntimeRef.ofData? (value.field "ReturnType")
    parameters := (value.field "Parameters").items.map fun parameter =>
      { name := (parameter.field "Name").text?
        type := RuntimeRef.ofData? (parameter.field "ParameterType") }
    isStatic := (value.field "IsStatic").boolOr false
    isSpecialName := (value.field "IsSpecialName").boolOr false
    isGenericDefinition := (value.field "IsGenericMethodDefinition").boolOr false
    genericArguments := (value.field "GenericArguments").items.length }

def RuntimeType.ofData (value : Value) : RuntimeType :=
  { mention := RuntimeRef.ofData value, fullName := (value.field "FullName").text?
    isNested := (value.field "IsNested").boolOr false
    base := RuntimeRef.ofData? (value.field "BaseType")
    fields := (value.field "Fields").items.map RuntimeField.ofData
    properties := (value.field "Properties").items.map RuntimeProperty.ofData
    methods := (value.field "Methods").items.map RuntimeMethod.ofData
    underlying := if value.has "Underlying" then (value.field "Underlying").text? else some "False"
    enumNames := (value.field "EnumNames").items.map Value.text?
    enumValues := (value.field "EnumValues").items.map Value.asInt }

def Availability.ofData : Value → Availability
  | .bool false => .notInstalled
  | .text reason => .broken reason
  | _ => .ready

def Offer.ofData (value : Value) : Offer :=
  { loadError := (value.field "load_error").text?
    incomplete := !(value.field "loader_exceptions" matches .none)
    types := (value.field "types").items.map fun type =>
      if type matches .none then none else some (.ofData type) }

end ProxyHeaders.Reflection
