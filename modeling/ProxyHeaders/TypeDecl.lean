import ProxyHeaders.Text.Digit
import ProxyHeaders.TypeRef

/-!
Declared types: what every backend reads from an assembly, and all that header generation sees.
A type's identity is its full name.
-/
namespace ProxyHeaders

structure Field where
  name : String
  type : TypeRef
  isStatic : Bool := false
  isReadonly : Bool := false
  isLiteral : Bool := false
  declaringType : Option String := none
  deriving BEq, Repr, Inhabited

structure Property where
  name : String
  type : TypeRef
  isStatic : Bool := false
  hasGetter : Bool := true
  hasSetter : Bool := false
  indexParameterCount : Nat := 0
  declaringType : Option String := none
  deriving BEq, Repr, Inhabited

structure Parameter where
  name : Option String
  type : TypeRef
  deriving BEq, Repr, Inhabited

structure Method where
  name : String
  returnType : TypeRef
  parameters : List Parameter := []
  isStatic : Bool := false
  isSpecialName : Bool := false
  isConstructor : Bool := false
  genericArity : Nat := 0
  declaringType : Option String := none
  deriving BEq, Repr, Inhabited

structure EnumMember where
  name : String
  value : Int
  deriving BEq, Repr, Inhabited

structure TypeDecl where
  name : String
  space : Option String := none
  category : Category := .classType
  base : Option TypeRef := none
  fields : List Field := []
  properties : List Property := []
  methods : List Method := []
  enumUnderlying : Option String := none
  enumMembers : List EnumMember := []
  genericArity : Nat := 0
  isNested : Bool := false
  source : String := ""
  deriving BEq, Repr, Inhabited

def globalGroup : String := "Global"

/-- The longest number of digits that is read as a generic arity. -/
def maxArityDigits : Nat := 4300

/-- The arity that a name states after its marker: none if what follows is not all digits, and
an error if it is digits that make no number of bearable length. -/
def statedArity (name : String) : Except Unit Nat :=
  match (Text.cutAt arityMark name).2 with
  | none => .ok 0
  | some suffix =>
    if suffix.isEmpty || !suffix.toList.all Text.isDigit then .ok 0
    else if suffix.length > maxArityDigits then .error ()
    else match Text.decimalValue? suffix.toList with
      | some arity => .ok arity
      | none => .error ()

namespace TypeDecl

/-- A declaration as it is kept: no empty namespace, and the arity that the name states where
none was given. -/
def normalize (type : TypeDecl) : Except Unit TypeDecl := do
  let arity ← if type.genericArity = 0 then statedArity type.name else .ok type.genericArity
  return { type with space := stated type.space, genericArity := arity }

def fullName (type : TypeDecl) : String := qualifiedName type.space type.name
def cleanName (type : TypeDecl) : String := ProxyHeaders.cleanName type.name

/-- The key of the namespace group that the type is laid out in. -/
def groupKey (type : TypeDecl) : String := (stated type.space).getD globalGroup

def isEnum (type : TypeDecl) : Bool := type.category == .enumType
def isClass (type : TypeDecl) : Bool := type.category == .classType
def isGeneric (type : TypeDecl) : Bool := type.genericArity > 0

def asRef (type : TypeDecl) : TypeRef :=
  { name := type.name, space := type.space, category := type.category }

end TypeDecl

end ProxyHeaders
