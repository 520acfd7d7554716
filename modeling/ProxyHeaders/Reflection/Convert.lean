import ProxyHeaders.Reflection.Runtime
import ProxyHeaders.TypeDecl

/-!
From the runtime's description of types to declarations. A type that the runtime cannot describe
in full is left out, and so is one that mentions types inside one another more deeply than calls are
left to convert them.
-/
namespace ProxyHeaders.Reflection

inductive Fault where
  /-- A question that the runtime does not answer. -/
  | unanswered
  /-- A type where there is none. -/
  | missing
  | badArity
  /-- More types inside one another than calls are left. -/
  | tooDeep
  deriving DecidableEq, Repr, Inhabited

def RuntimeRef.ask {α : Type} (type : RuntimeRef) (question : String) (answer : α) :
    Except Fault α :=
  if type.unanswered.contains question then .error .unanswered else .ok answer

/-- A name in writing, also where there is none. -/
def written (name : Option String) : String := name.getD "None"

def categoryOf (type : RuntimeRef) : Except Fault Category := do
  if ← type.ask "IsEnum" type.isEnum then return .enumType
  else if ← type.ask "IsInterface" type.isInterface then return .interfaceType
  else if ← type.ask "IsValueType" type.isValueType then return .structType
  else return .classType

def spaceOf (type : RuntimeRef) : Except Fault (Option String) :=
  type.ask "Namespace" (stated type.space)

def nameOf (type : RuntimeRef) : Except Fault String := type.ask "Name" (written type.name)

/-- The arguments of a generic type count unless it is a definition. -/
def hasArguments (type : RuntimeRef) : Except Fault Bool := do
  if ← type.ask "IsGenericType" type.isGeneric then
    return !(← type.ask "IsGenericTypeDefinition" type.isGenericDefinition)
  else return false

/-- The reference for a type, given those for its element and its arguments. -/
def convertWith (type : RuntimeRef) (element : Except Fault TypeRef)
    (arguments : Except Fault (List TypeRef)) : Except Fault TypeRef := do
  if ← type.ask "IsByRef" type.isByref then
    let inner ← type.ask "GetElementType" () >>= fun _ => element
    return { name := inner.name ++ "&", space := inner.space, category := inner.category
             element := some inner, isByref := true }
  else if ← type.ask "IsArray" type.isArray then
    let inner ← type.ask "GetElementType" () >>= fun _ => element
    return { name := ← nameOf type, space := inner.space, element := some inner, isArray := true }
  else if ← type.ask "IsPointer" type.isPointer then
    let inner ← type.ask "GetElementType" () >>= fun _ => element
    return { name := inner.name ++ "*", space := inner.space, category := .pointerType
             element := some inner }
  else if ← type.ask "IsGenericParameter" type.isGenericParameter then
    return { name := ← nameOf type, category := .genericParameter }
  else
    let arguments ← if ← hasArguments type then
        type.ask "GetGenericArguments" () >>= fun _ => arguments
      else pure []
    let name ← nameOf type
    let space ← spaceOf type
    return { name, space, category := ← categoryOf type, arguments }

mutual

def convert : Nat → RuntimeRef → Except Fault TypeRef
  | 0, _ => .error .tooDeep
  | levels + 1, ⟨name, space, isByref, isArray, isPointer, isParameter, isGeneric, isDefinition,
      isEnum, isInterface, isValueType, element, arguments, unanswered⟩ =>
    let inner := match element with
      | some element => convert levels element
      | none => .error .missing
    convertWith ⟨name, space, isByref, isArray, isPointer, isParameter, isGeneric, isDefinition,
      isEnum, isInterface, isValueType, element, arguments, unanswered⟩ inner
      (convertAll levels arguments)

def convertAll : Nat → List (Option RuntimeRef) → Except Fault (List TypeRef)
  | _, [] => .ok []
  | _, none :: _ => .error .missing
  | levels, some first :: rest => do
    let converted ← convert levels first
    return converted :: (← convertAll levels rest)

end

variable (levels : Nat)

def convert? (type : Option RuntimeRef) : Except Fault TypeRef :=
  match type with
  | some type => convert levels type
  | none => .error .missing

def convertField (owner : String) (field : RuntimeField) : Except Fault Field := do
  return { name := written field.name, type := ← convert? levels field.type
           isStatic := field.isStatic, isReadonly := field.isReadonly
           isLiteral := field.isLiteral, declaringType := some owner }

def convertProperty (owner : String) (property : RuntimeProperty) : Except Fault Property := do
  return { name := written property.name, type := ← convert? levels property.type
           isStatic := (property.getterIsStatic.or property.setterIsStatic).getD false
           hasGetter := property.canRead, hasSetter := property.canWrite
           indexParameterCount := property.indexParameters, declaringType := some owner }

def convertParameter (parameter : RuntimeParameter) : Except Fault Parameter := do
  return { name := stated parameter.name, type := ← convert? levels parameter.type }

def convertMethod (owner : String) (method : RuntimeMethod) : Except Fault Method := do
  return { name := written method.name, returnType := ← convert? levels method.returnType
           parameters := ← method.parameters.mapM (convertParameter levels)
           isStatic := method.isStatic, isSpecialName := method.isSpecialName
           genericArity := if method.isGenericDefinition then method.genericArguments else 0
           declaringType := some owner }

def convertHead (type : RuntimeType) : Except Fault TypeDecl := do
  let mention := type.mention
  let name ← nameOf mention
  let space ← spaceOf mention
  let category ← categoryOf mention
  let base ← (← mention.ask "BaseType" type.base).mapM (convert levels)
  let isNested ← mention.ask "IsNested" type.isNested
  match TypeDecl.normalize { name, space, category, base, isNested, source := "reflection" } with
  | .ok head => return head
  | .error _ => .error .badArity

def convertMembers (type : RuntimeType) (head : TypeDecl) : Except Fault TypeDecl := do
  let owner := head.fullName
  let fields ← type.mention.ask "GetFields" type.fields >>= List.mapM (convertField levels owner)
  let properties ←
    type.mention.ask "GetProperties" type.properties >>= List.mapM (convertProperty levels owner)
  let methods ← type.mention.ask "GetMethods" type.methods >>= List.mapM (convertMethod levels owner)
  return { head with fields, properties, methods }

def convertEnum (type : RuntimeType) (head : TypeDecl) : Except Fault TypeDecl := do
  let names ← type.mention.ask "GetEnumNames" type.enumNames
  let values ← type.mention.ask "GetEnumValues" type.enumValues
  return { head with
    enumUnderlying := some (written type.underlying)
    enumMembers := (names.zip values).map fun (name, value) => { name := written name, value } }

def convertType (type : RuntimeType) : Except Fault TypeDecl := do
  let head ← convertHead levels type
  if head.isEnum then convertEnum type head else convertMembers levels type head

/-- The types that were left out, with the names that they are known by. -/
abbrev Skipped := List (Option String × Fault)

/-- All types that convert. One that does not is named in the record; a type that is not there,
or whose name is not to be had, ends it. -/
def convertTypes : List (Option RuntimeType) → EStateM Fault Skipped (List TypeDecl)
  | [] => return []
  | none :: _ => throw .missing
  | some type :: rest => do
    match convertType levels type with
    | .ok decl => return decl :: (← convertTypes rest)
    | .error fault =>
      match type.mention.ask "FullName" type.fullName with
      | .error failure => throw failure
      | .ok name =>
        modify (· ++ [(name, fault)])
        convertTypes rest

inductive LoadFault where
  | notInstalled
  | broken (reason : String)
  | notLoaded (path reason : String)
  deriving DecidableEq, Repr

def LoadFault.message : LoadFault → String
  | .notInstalled =>
    "pythonnet is required for the reflection backend. Install with: pip install pythonnet"
  | .broken reason => "Could not start a .NET runtime: " ++ reason
  | .notLoaded path reason => "Reflection could not load " ++ path ++ ": " ++ reason

def Availability.isReady (runtime : Availability) : Bool := runtime == .ready

/-- The types to convert: in an incomplete offer, those that are there. -/
def offered (runtime : Availability) (path : String) (offer : Offer) :
    Except LoadFault (List (Option RuntimeType)) :=
  match runtime with
  | .notInstalled => .error .notInstalled
  | .broken reason => .error (.broken reason)
  | .ready =>
    match offer.loadError with
    | some reason => .error (.notLoaded path reason)
    | none => .ok (if offer.incomplete then offer.types.filter Option.isSome else offer.types)

end ProxyHeaders.Reflection
