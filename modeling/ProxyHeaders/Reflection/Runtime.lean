/-!
Types as the managed runtime describes them. A question about a type may be one that the runtime
cannot answer, because the answer involves an assembly that it cannot load.
-/
namespace ProxyHeaders.Reflection

/-- A type where it is mentioned; `unanswered` lists the questions that fail. -/
structure RuntimeRef where
  name : Option String := none
  space : Option String := none
  isByref : Bool := false
  isArray : Bool := false
  isPointer : Bool := false
  isGenericParameter : Bool := false
  isGeneric : Bool := false
  isGenericDefinition : Bool := false
  isEnum : Bool := false
  isInterface : Bool := false
  isValueType : Bool := false
  element : Option RuntimeRef := none
  arguments : List (Option RuntimeRef) := []
  unanswered : List String := []
  deriving Inhabited

structure RuntimeField where
  name : Option String := none
  type : Option RuntimeRef := none
  isStatic : Bool := false
  isReadonly : Bool := false
  isLiteral : Bool := false
  deriving Inhabited

/-- A property; an accessor that exists tells whether it is static. -/
structure RuntimeProperty where
  name : Option String := none
  type : Option RuntimeRef := none
  canRead : Bool := false
  canWrite : Bool := false
  getterIsStatic : Option Bool := none
  setterIsStatic : Option Bool := none
  indexParameters : Nat := 0
  deriving Inhabited

structure RuntimeParameter where
  name : Option String := none
  type : Option RuntimeRef := none
  deriving Inhabited

structure RuntimeMethod where
  name : Option String := none
  returnType : Option RuntimeRef := none
  parameters : List RuntimeParameter := []
  isStatic : Bool := false
  isSpecialName : Bool := false
  isGenericDefinition : Bool := false
  genericArguments : Nat := 0
  deriving Inhabited

structure RuntimeType where
  mention : RuntimeRef := {}
  fullName : Option String := none
  isNested : Bool := false
  base : Option RuntimeRef := none
  fields : List RuntimeField := []
  properties : List RuntimeProperty := []
  methods : List RuntimeMethod := []
  underlying : Option String := none
  enumNames : List (Option String) := []
  enumValues : List Int := []
  deriving Inhabited

inductive Availability where
  | ready
  | notInstalled
  /-- There is one, but it does not start. -/
  | broken (reason : String)
  deriving DecidableEq, Repr, Inhabited

/-- What the runtime says about an assembly; if it could load only some of the types, the others
are blanks in the list. -/
structure Offer where
  loadError : Option String := none
  incomplete : Bool := false
  types : List (Option RuntimeType) := []
  deriving Inhabited

end ProxyHeaders.Reflection
