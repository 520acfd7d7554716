import ProxyHeaders.TypeRef

/-!
The bytes that types begin with in signatures.
-/
namespace ProxyHeaders.Metadata

structure Primitive where
  name : String
  category : Category
  deriving DecidableEq, Repr, Inhabited

def Primitive.ref (primitive : Primitive) : TypeRef :=
  { name := primitive.name, space := some "System", category := primitive.category }

def primitives : List (Nat × Primitive) := [
  (0x01, ⟨"Void", .structType⟩), (0x02, ⟨"Boolean", .structType⟩), (0x03, ⟨"Char", .structType⟩),
  (0x04, ⟨"SByte", .structType⟩), (0x05, ⟨"Byte", .structType⟩), (0x06, ⟨"Int16", .structType⟩),
  (0x07, ⟨"UInt16", .structType⟩), (0x08, ⟨"Int32", .structType⟩),
  (0x09, ⟨"UInt32", .structType⟩), (0x0a, ⟨"Int64", .structType⟩),
  (0x0b, ⟨"UInt64", .structType⟩), (0x0c, ⟨"Single", .structType⟩),
  (0x0d, ⟨"Double", .structType⟩), (0x0e, ⟨"String", .classType⟩),
  (0x16, ⟨"TypedReference", .structType⟩), (0x18, ⟨"IntPtr", .structType⟩),
  (0x19, ⟨"UIntPtr", .structType⟩), (0x1c, ⟨"Object", .classType⟩)]

inductive Element where
  | primitive (primitive : Primitive)
  | pointer
  | byref
  | valueType
  | classType
  /-- A parameter of the generic type, or of the generic method. -/
  | typeParameter
  | methodParameter
  /-- An array with its shape, or with one dimension from zero. -/
  | array
  | vector
  | instance_
  | function
  deriving DecidableEq, Repr, Inhabited

def elementOf (byte : Nat) : Option Element :=
  match primitives.lookup byte with
  | some primitive => some (.primitive primitive)
  | none =>
    match byte with
    | 0x0f => some .pointer
    | 0x10 => some .byref
    | 0x11 => some .valueType
    | 0x12 => some .classType
    | 0x13 => some .typeParameter
    | 0x14 => some .array
    | 0x15 => some .instance_
    | 0x1b => some .function
    | 0x1d => some .vector
    | 0x1e => some .methodParameter
    | _ => none

/-! Bytes that stand before a type, or between parameters. -/

def valueTypeByte : Nat := 0x11
def requiredModifier : Nat := 0x1f
def optionalModifier : Nat := 0x20
def sentinel : UInt8 := 0x41
def pinned : Nat := 0x45

def otherElements : List Nat :=
  [0x00, 0x0f, 0x10, 0x11, 0x12, 0x13, 0x14, 0x15, 0x1b, 0x1d, 0x1e, 0x1f, 0x20, 0x21, 0x41, 0x45]

inductive PrimitiveFault where
  | noElement
  | notPrimitive
  deriving DecidableEq, Repr

def primitiveRef (code : Int) : Except PrimitiveFault TypeRef :=
  if code < 0 then .error .noElement
  else match primitives.lookup code.toNat with
  | some primitive => .ok primitive.ref
  | none => .error (if otherElements.contains code.toNat then .notPrimitive else .noElement)

end ProxyHeaders.Metadata
