import ProxyHeaders.Metadata.Fault

/-!
Values of constants: little-endian integers at the beginning of a blob.
-/
namespace ProxyHeaders.Metadata

inductive ConstantForm where
  | truth
  | unsigned (bytes : Nat)
  | signed (bytes : Nat)
  deriving DecidableEq, Repr, Inhabited

def ConstantForm.size : ConstantForm → Nat
  | .truth => 1
  | .unsigned bytes => bytes
  | .signed bytes => bytes

def constantForms : List (Nat × ConstantForm) := [
  (0x02, .truth), (0x03, .unsigned 2), (0x04, .signed 1), (0x05, .unsigned 1),
  (0x06, .signed 2), (0x07, .unsigned 2), (0x08, .signed 4), (0x09, .unsigned 4),
  (0x0a, .signed 8), (0x0b, .unsigned 8)]

def littleEndian : List UInt8 → Nat
  | [] => 0
  | byte :: rest => byte.toNat + 0x100 * littleEndian rest

def ConstantForm.read (form : ConstantForm) (bytes : List UInt8) : Int :=
  let value := littleEndian bytes
  match form with
  | .truth => if value = 0 then 0 else 1
  | .unsigned _ => value
  | .signed size => (value : Int).bmod (Nat.pow 2 (8 * size))

def constantValue (element : Nat) (blob : List UInt8) : Except SignatureFault (Option Int) :=
  match constantForms.lookup element with
  | none => .ok none
  | some form =>
    if blob.length < form.size then .error (.shortConstant element)
    else .ok (some (form.read (blob.take form.size)))

end ProxyHeaders.Metadata
