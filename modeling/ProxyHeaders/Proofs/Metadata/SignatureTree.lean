import Mathlib.Data.Finset.Lattice.Fold
import Mathlib.Data.Fintype.Basic
import Mathlib.Order.Lattice.Nat
import ProxyHeaders.Proofs.Metadata.Reading

/-!
The grammar of signatures as trees: how a tree is spelled in bytes, which types it asks for, what
it denotes once these are answered, and how deep it is nested.
-/
namespace ProxyHeaders.Metadata

variable {σ : Type}

/-- The number of a type in one of the tables. -/
structure Token where
  table : TokenTable
  row : Fin 0x8000000

namespace Token

def encode (token : Token) : List UInt8 := encodeNumber (token.row * 4 + token.table.tag)

def call (token : Token) (hint : Category) : Call := ⟨token.table, token.row.val, hint⟩

end Token

/-- What may stand before any type, as often as one likes. -/
inductive Modifier where
  | required (token : Token)
  | optional (token : Token)
  | pinned

namespace Modifier

def encode : Modifier → List UInt8
  | .required token => 0x1f :: token.encode
  | .optional token => 0x20 :: token.encode
  | .pinned => [0x45]

def calls : Modifier → List Call
  | .required token | .optional token => [token.call .classType]
  | .pinned => []

/-- A modifier is asked for like any type, and its answer is not used. -/
def ask (answer : Call → StateM σ TypeRef) : Modifier → StateM σ Unit
  | .required token | .optional token => do let _ ← answer (token.call .classType)
  | .pinned => pure ()

def askAll (answer : Call → StateM σ TypeRef) : List Modifier → StateM σ Unit
  | [] => pure ()
  | modifier :: rest => do
    modifier.ask answer
    askAll answer rest

end Modifier

/-- A type that has no types inside. -/
inductive Leaf where
  | primitive (code : UInt8) (primitive : Primitive)
    (listed : primitives.lookup code.toNat = some primitive)
  | valueType (token : Token)
  | classType (token : Token)
  | typeParameter (number : Number)
  | methodParameter (number : Number)

namespace Leaf

def encode : Leaf → List UInt8
  | .primitive code _ _ => [code]
  | .valueType token => 0x11 :: token.encode
  | .classType token => 0x12 :: token.encode
  | .typeParameter number => 0x13 :: encodeNumber number
  | .methodParameter number => 0x1e :: encodeNumber number

def calls : Leaf → List Call
  | .valueType token => [token.call .structType]
  | .classType token => [token.call .classType]
  | _ => []

def denote (answer : Call → StateM σ TypeRef) : Leaf → StateM σ TypeRef
  | .primitive _ named _ => return named.ref
  | .valueType token => answer (token.call .structType)
  | .classType token => answer (token.call .classType)
  | .typeParameter number => return parameterNamed "!" number
  | .methodParameter number => return parameterNamed "!!" number

end Leaf

/-- A type made of one other. -/
inductive Wrapper where
  | byref
  | pointer
  | vector
  | array (rank sizeCount boundCount : Number) (sizes : Fin sizeCount → Number)
    (bounds : Fin boundCount → SignedNumber)

namespace Wrapper

def code : Wrapper → UInt8
  | .byref => 0x10
  | .pointer => 0x0f
  | .vector => 0x1d
  | .array .. => 0x14

def encodeShape : Wrapper → List UInt8
  | .array rank sizeCount boundCount sizes bounds =>
    encodeNumber rank ++
      (encodeNumber sizeCount ++ joined fun index => encodeNumber (sizes index)) ++
      (encodeNumber boundCount ++ joined fun index => encodeSigned (bounds index).value)
  | _ => []

def apply : Wrapper → TypeRef → TypeRef
  | .byref, target => byrefTo target
  | .pointer, target => pointerTo target
  | .vector, element => arrayOf element 1
  | .array rank _ _ _ _, element => arrayOf element rank

end Wrapper

/-- The beginning of a method's signature: its flags, one of which says whether a number of type
parameters follows. -/
structure MethodHead where
  flags : UInt8
  typeParameters : Number

namespace MethodHead

def isGeneric (head : MethodHead) : Bool := head.flags.toNat / 0x10 % 2 == 1

def encode (head : MethodHead) : List UInt8 :=
  head.flags :: if head.isGeneric then encodeNumber head.typeParameters else []

def genericCount (head : MethodHead) : Nat := if head.isGeneric then head.typeParameters else 0

end MethodHead

inductive TypeTree where
  | leaf (modifiers : List Modifier) (type : Leaf)
  | wrapped (modifiers : List Modifier) (wrapper : Wrapper) (inner : TypeTree)
  | generic (modifiers : List Modifier) (kind : UInt8) (definition : Token) (count : Number)
    (arguments : Fin count → TypeTree)
  /-- A function, by the signature of a method; sentinels may stand before its parameters. -/
  | function (modifiers : List Modifier) (head : MethodHead) (returned : TypeTree) (count : Number)
    (sentinels : Fin count → Nat) (parameters : Fin count → TypeTree)

/-- What the byte before a generic type's definition makes likely. -/
def kindHint (kind : UInt8) : Category :=
  if kind.toNat == valueTypeByte then .structType else .classType

def encodeSentinels (count : Nat) : List UInt8 := List.replicate count sentinel

namespace TypeTree

def encode : TypeTree → List UInt8
  | .leaf modifiers type => modifiers.flatMap Modifier.encode ++ type.encode
  | .wrapped modifiers wrapper inner =>
    modifiers.flatMap Modifier.encode ++ wrapper.code :: (inner.encode ++ wrapper.encodeShape)
  | .generic modifiers kind definition count arguments =>
    modifiers.flatMap Modifier.encode ++ 0x15 :: kind ::
      (definition.encode ++ (encodeNumber count ++ joined fun index => (arguments index).encode))
  | .function modifiers head returned count sentinels parameters =>
    modifiers.flatMap Modifier.encode ++ 0x1b :: (head.encode ++ (encodeNumber count ++
      (returned.encode ++
        joined fun index => encodeSentinels (sentinels index) ++ (parameters index).encode)))

def calls : TypeTree → List Call
  | .leaf modifiers type => modifiers.flatMap Modifier.calls ++ type.calls
  | .wrapped modifiers _ inner => modifiers.flatMap Modifier.calls ++ inner.calls
  | .generic modifiers kind definition _ arguments =>
    modifiers.flatMap Modifier.calls ++ definition.call (kindHint kind) ::
      joined fun index => (arguments index).calls
  | .function modifiers _ returned _ _ parameters =>
    modifiers.flatMap Modifier.calls ++ (returned.calls ++
      joined fun index => (parameters index).calls)

def denote (answer : Call → StateM σ TypeRef) : TypeTree → StateM σ TypeRef
  | .leaf modifiers type => do
    Modifier.askAll answer modifiers
    type.denote answer
  | .wrapped modifiers wrapper inner => do
    Modifier.askAll answer modifiers
    return wrapper.apply (← inner.denote answer)
  | .generic modifiers kind definition _ arguments => do
    Modifier.askAll answer modifiers
    let definition ← answer (definition.call (kindHint kind))
    return instanceOf definition (← inOrder fun index => (arguments index).denote answer)
  | .function modifiers _ returned _ _ parameters => do
    Modifier.askAll answer modifiers
    let _ ← returned.denote answer
    let _ ← inOrder fun index => (parameters index).denote answer
    return addressType

/-- How many types stand inside one another. -/
def nesting : TypeTree → Nat
  | .leaf _ _ => 1
  | .wrapped _ _ inner => inner.nesting + 1
  | .generic _ _ _ _ arguments => (Finset.univ.sup fun index => (arguments index).nesting) + 1
  | .function _ _ returned _ _ parameters =>
    max returned.nesting (Finset.univ.sup fun index => (parameters index).nesting) + 1

end TypeTree

structure MethodTree where
  head : MethodHead
  returned : TypeTree
  count : Number
  sentinels : Fin count → Nat
  parameters : Fin count → TypeTree

namespace MethodTree

def encode (method : MethodTree) : List UInt8 :=
  method.head.encode ++ (encodeNumber method.count ++ (method.returned.encode ++
    joined fun index =>
      encodeSentinels (method.sentinels index) ++ (method.parameters index).encode))

def calls (method : MethodTree) : List Call :=
  method.returned.calls ++ joined fun index => (method.parameters index).calls

def denote (answer : Call → StateM σ TypeRef) (method : MethodTree) :
    StateM σ MethodSignature := do
  let returnType ← method.returned.denote answer
  let parameters ← inOrder fun index => (method.parameters index).denote answer
  return {
    hasThis := method.head.flags.toNat / 0x20 % 2 == 1
    returnType, parameters
    genericCount := method.head.genericCount }

def FitsIn (method : MethodTree) (levels : Nat) : Prop :=
  method.returned.nesting ≤ levels ∧ ∀ index, (method.parameters index).nesting ≤ levels

end MethodTree

/-- The signature of a field: a byte whose lower half is 6, and the type. -/
structure FieldTree where
  head : UInt8
  isField : head.toNat % 0x10 = 0x06
  type : TypeTree

def FieldTree.encode (field : FieldTree) : List UInt8 := field.head :: field.type.encode

/-- The signature of a property: a byte whose lower half is 8, its type and its parameters. -/
structure PropertyTree where
  head : UInt8
  isProperty : head.toNat % 0x10 = 0x08
  type : TypeTree
  count : Number
  parameters : Fin count → TypeTree

namespace PropertyTree

def encode (property : PropertyTree) : List UInt8 :=
  property.head :: (encodeNumber property.count ++ (property.type.encode ++
    joined fun index => (property.parameters index).encode))

def calls (property : PropertyTree) : List Call :=
  property.type.calls ++ joined fun index => (property.parameters index).calls

def denote (answer : Call → StateM σ TypeRef) (property : PropertyTree) :
    StateM σ PropertySignature := do
  let type ← property.type.denote answer
  let parameters ← inOrder fun index => (property.parameters index).denote answer
  return { hasThis := property.head.toNat / 0x20 % 2 == 1, type, parameters }

def FitsIn (property : PropertyTree) (levels : Nat) : Prop :=
  property.type.nesting ≤ levels ∧ ∀ index, (property.parameters index).nesting ≤ levels

end PropertyTree

end ProxyHeaders.Metadata
