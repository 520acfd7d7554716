import ProxyHeaders.Proxy.Draft
import ProxyHeaders.Proxy.Locals

/-!
What the members of a class contribute to its struct: which of them can be proxied, in what order,
and the plan for each.
-/
namespace ProxyHeaders.Proxy

open ProxyHeaders.Mapping ProxyHeaders.Names ProxyHeaders.Template

/-- Members in the order of their names; members of one name keep their order. -/
def sortByName {α : Type} (name : α → String) (items : List α) : List α :=
  items.mergeSort fun a b => !(name b < name a)

def removal (kind name : String) (reason : Reason) : String :=
  "REMOVED: " ++ kind ++ " '" ++ name ++ "' uses " ++ reason.message

/-! Every struct starts with the accessors of its class. -/

def bootstrapPieces (scene : Scene) (image : String) : List Piece :=
  [⟨none, .bootstrap ((stated scene.type.space).getD "") scene.type.name image⟩]

/-! A static property `Instance` and a static field `_instance` are the usual ways to reach a
type's only instance. -/

def instanceProperty : String := "Instance"
def instanceField : String := "_instance"

def singletonPieces (scene : Scene) (claimed : Claimed) : List Piece :=
  let pointer := scene.structName ++ "*"
  let getter := "get_" ++ instanceProperty
  let viaProperty := scene.type.properties.any fun property =>
    property.name == instanceProperty && property.isStatic && property.hasGetter
  let viaField := scene.type.fields.any fun field =>
    field.name == instanceField && field.isStatic
  (if viaProperty && !claimed.contains getter then
    [⟨some getter, .singleton pointer getter getter false⟩] else []) ++
  (if viaField && !claimed.contains "GetInstance" then
    [⟨some "GetInstance", .singleton pointer "GetInstance" instanceField true⟩] else [])

/-! Fields -/

/-- Fields that are neither constants nor made by the compiler. -/
def emittableFields (type : TypeDecl) : List Field :=
  sortByName (·.name)
    (type.fields.filter fun field => !field.isLiteral && !Text.contains field.name "<")

def getterPlan (scene : Scene) (claimed : Claimed) (field : Field) : Plan :=
  let name := scene.map.sanitizer.accessorName "Get" field.name
  if claimed.contains name then .skip
  else match scene.map.mapMember (some scene.owner) field.type with
  | .refused _ reason _ => .reject (removal "Field" field.name reason)
  | .mapped type _ =>
    .write [⟨some name, .getter type.render name (handleName scene.map field.name type.render)
      field.name field.isStatic⟩]

/-- A field that cannot be mapped was reported by its getter. -/
def setterPlan (scene : Scene) (claimed : Claimed) (field : Field) : Plan :=
  let name := scene.map.sanitizer.accessorName "Set" field.name
  if field.isReadonly || claimed.contains name then .skip
  else match scene.map.mapMember (some scene.owner) field.type with
  | .refused _ _ _ => .skip
  | .mapped type _ =>
    .write [⟨some name, .setter type.render name (handleName scene.map field.name type.render)
      field.name field.isStatic⟩]

/-! Properties -/

/-- Properties without parameters whose names are the programmer's own and not reserved. -/
def emittableProperties (scene : Scene) : List Property :=
  sortByName (·.name) (scene.type.properties.filter fun property =>
    !Text.contains property.name "<" && !Text.contains property.name "." &&
      property.indexParameterCount == 0 &&
      !scene.map.isReservedName (scene.map.sanitizer.identifier property.name))

/-- The property's identifier without the marks that escape it. -/
def localName (sanitizer : Sanitizer) (name : String) : String :=
  String.ofList ((sanitizer.identifier name).toList.dropWhile fun c =>
    sanitizer.escape.toList.contains c)

def propertyPlan (scene : Scene) (claimed : Claimed) (property : Property) : Plan :=
  let shown := localName scene.map.sanitizer property.name
  let getter := "get_" ++ shown
  let setter := "set_" ++ shown
  let wantsGetter := property.hasGetter && !claimed.contains getter
  let wantsSetter := property.hasSetter && !claimed.contains setter
  if !wantsGetter && !wantsSetter then .skip
  else match scene.map.mapMember (some scene.owner) property.type with
  | .refused _ reason _ => .reject (removal "Property" property.name reason)
  | .mapped type _ =>
    .write
      ((if wantsGetter then
        [⟨some getter, .method type.render getter ("get_" ++ property.name) [] []
          property.isStatic⟩] else []) ++
      (if wantsSetter then
        [⟨some setter, .method "void" setter ("set_" ++ property.name) [type.render ++ " value"]
          ["value"] property.isStatic⟩] else []))

/-! Methods -/

/-- Ordinary named methods; overloads keep their order. -/
def emittableMethods (scene : Scene) : List Method :=
  sortByName (·.name) (scene.type.methods.filter fun method =>
    !method.isSpecialName && !method.isConstructor &&
      !Text.contains method.name "." && !Text.contains method.name "<" &&
      !scene.map.isReservedName (cleanName method.name))

def parameterLabel (parameter : Parameter) (position : Nat) : String :=
  match stated parameter.name with
  | some name => name
  | none => "#" ++ toString position

def mapParameters (scene : Scene) (method : Method) :
    Nat → List Parameter → Except String (List String)
  | _, [] => .ok []
  | position, parameter :: rest =>
    match scene.map.mapMember (some scene.owner) parameter.type with
    | .refused _ reason _ =>
      .error ("REMOVED: Method '" ++ method.name ++ "' parameter '" ++
        parameterLabel parameter position ++ "' uses " ++ reason.message)
    | .mapped type _ => do return type.render :: (← mapParameters scene method (position + 1) rest)

/-- The first overload in metadata order whose signature maps takes the name. -/
def methodPlan (scene : Scene) (claimed : Claimed) (method : Method) : Plan :=
  let name := scene.map.sanitizer.identifier method.name
  if claimed.contains name then .skip
  else match scene.map.mapMember (some scene.owner) method.returnType with
  | .refused _ reason _ => .reject (removal "Method" method.name reason)
  | .mapped returned _ =>
    match mapParameters scene method 0 method.parameters with
    | .error message => .reject message
    | .ok types =>
      let taken := bodyLocals ++ typeIdentifiers (returned.render :: types)
      let names := scene.map.sanitizer.parameterNames (method.parameters.map (·.name)) taken
      .write [⟨some name, .method returned.render name method.name
        ((types.zip names).map fun (type, name) => type ++ " " ++ name) names method.isStatic⟩]

/-! All members, in the order in which every struct lists them. -/

namespace Draft

def addGetter (scene : Scene) (draft : Draft) (field : Field) : Draft × Written :=
  draft.perform scene "getter" field.name (getterPlan scene draft.claimed field)

def addSetter (scene : Scene) (draft : Draft) (field : Field) : Draft × Written :=
  draft.perform scene "setter" field.name (setterPlan scene draft.claimed field)

def addProperty (scene : Scene) (draft : Draft) (property : Property) : Draft × Written :=
  draft.perform scene "property accessors" property.name (propertyPlan scene draft.claimed property)

def addMethod (scene : Scene) (draft : Draft) (method : Method) : Draft × Written :=
  draft.perform scene "method" method.name (methodPlan scene draft.claimed method)

def addBootstrap (scene : Scene) (image : String) (draft : Draft) :
    Draft × Option RenderFailure :=
  draft.write scene (bootstrapPieces scene image)

def addSingletons (scene : Scene) (draft : Draft) : Draft × Option RenderFailure :=
  draft.write scene (singletonPieces scene draft.claimed)

/-- Fields twice, for their getters and then for their setters; then properties and methods. -/
def addNamed (scene : Scene) (draft : Draft) : Draft :=
  let fields := emittableFields scene.type
  let draft := fields.foldl (fun draft field => (draft.addGetter scene field).1) draft
  let draft := fields.foldl (fun draft field => (draft.addSetter scene field).1) draft
  let draft := (emittableProperties scene).foldl
    (fun draft property => (draft.addProperty scene property).1) draft
  (emittableMethods scene).foldl (fun draft method => (draft.addMethod scene method).1) draft

/-- Everything in a struct; fails where the accessors of the class or the instance do. -/
def addMembers (scene : Scene) (image : String) (draft : Draft) : Draft × Option RenderFailure :=
  match draft.addBootstrap scene image with
  | (draft, some failure) => (draft, some failure)
  | (draft, none) =>
    match draft.addSingletons scene with
    | (draft, some failure) => (draft, some failure)
    | (draft, none) => (draft.addNamed scene, none)

end Draft

end ProxyHeaders.Proxy
