import ProxyHeaders.Text.Utf8

/-!
Numbers, texts and slices at offsets of an image. Where the bytes run out there is nothing.
-/
namespace ProxyHeaders.Image

def number? (bytes : ByteArray) (offset : Nat) : Nat → Option Nat
  | 0 => some 0
  | width + 1 => do
    let low ← bytes[offset]?
    let high ← number? bytes (offset + 1) width
    return low.toNat + 256 * high

/-- The bytes from an offset on, up to one that satisfies a test or so many of them. -/
def takeUntil (bytes : ByteArray) (stop : UInt8 → Bool) (offset : Nat) : Nat → List UInt8
  | 0 => []
  | limit + 1 =>
    match bytes[offset]? with
    | none => []
    | some byte => if stop byte then [] else byte :: takeUntil bytes stop (offset + 1) limit

def slice (bytes : ByteArray) (offset size : Nat) : List UInt8 :=
  takeUntil bytes (fun _ => false) offset size

def upToZero (bytes : ByteArray) (offset limit : Nat) : List UInt8 :=
  takeUntil bytes (· == 0) offset limit

end ProxyHeaders.Image
