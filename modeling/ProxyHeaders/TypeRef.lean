import ProxyHeaders.Text.Lines

/-!
References to managed types, as they stand in the signatures of members. What is asked of a reference
is answered however many types lie inside one another: no call that is nested too deeply counts here.
-/
namespace ProxyHeaders

inductive Category where
  | classType | structType | enumType | interfaceType | genericParameter | pointerType | unknown
  deriving DecidableEq, Repr, Inhabited

/-- A managed type in a signature. Arrays and references by address wrap their `element`; a
generic instance keeps its definition's name and lists its `arguments`. -/
structure TypeRef where
  name : String
  space : Option String := none
  category : Category := .classType
  element : Option TypeRef := none
  isArray : Bool := false
  isByref : Bool := false
  arguments : List TypeRef := []
  deriving BEq, Repr, Inhabited

/-- A text that says something: the empty one counts as none. -/
def stated (text : Option String) : Option String := text.filter (· != "")

/-- The name with its namespace in front, if it has one. -/
def qualifiedName (space : Option String) (name : String) : String :=
  match stated space with
  | some space => space ++ "." ++ name
  | none => name

/-- What stands between a generic type's name and its arity. -/
def arityMark : Char := '\x60'

/-- The name without the marker of generic arity and what follows it. -/
def cleanName (name : String) : String := (Text.cutAt arityMark name).1

namespace TypeRef

def cleanName (ref : TypeRef) : String := ProxyHeaders.cleanName ref.name

/-- The namespace that decides whether a type is allowed; arrays and references by address
answer with their element's. -/
def effectiveSpace : TypeRef → Option String
  | ⟨_, space, _, some element, isArray, isByref, _⟩ =>
    if isArray || isByref then element.effectiveSpace else stated space
  | ⟨_, space, _, none, _, _, _⟩ => stated space

def fullName : TypeRef → String
  | ⟨name, space, _, some element, isArray, isByref, _⟩ =>
    if isArray then element.fullName ++ "[]"
    else if isByref then element.fullName ++ "&"
    else qualifiedName space name
  | ⟨name, space, _, none, _, _, _⟩ => qualifiedName space name

def isGeneric (ref : TypeRef) : Bool := !ref.arguments.isEmpty

def isNullable (ref : TypeRef) : Bool :=
  ref.space == some "System" && ref.cleanName == "Nullable" && ref.arguments.length == 1

def isString (ref : TypeRef) : Bool := ref.space == some "System" && ref.name == "String"

def isEnum (ref : TypeRef) : Bool := ref.category == .enumType

/-- Whether values of the type are references to objects; wrappers are not asked. -/
def isReferenceClass (ref : TypeRef) : Bool :=
  !(ref.isArray || ref.isByref) &&
    (ref.category == .classType || ref.category == .interfaceType)

/-- The value type inside a nullable one; any other type is its own. -/
def unwrapNullable (ref : TypeRef) : TypeRef :=
  if ref.isNullable then ref.arguments.headD ref else ref

mutual

def display : TypeRef → String
  | ⟨name, space, category, element, isArray, isByref, []⟩ =>
    fullName ⟨name, space, category, element, isArray, isByref, []⟩
  | ⟨name, space, _, _, _, _, first :: rest⟩ =>
    qualifiedName space (ProxyHeaders.cleanName name) ++ "<" ++
      ", ".intercalate (first.display :: displayAll rest) ++ ">"

def displayAll : List TypeRef → List String
  | [] => []
  | first :: rest => first.display :: displayAll rest

end

end TypeRef

end ProxyHeaders
