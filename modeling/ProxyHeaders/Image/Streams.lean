import ProxyHeaders.Image.Bytes

/-!
The streams of the metadata: tables, and the heaps of texts and blobs that their rows point into.
-/
namespace ProxyHeaders.Image

structure Stream where
  offset : Nat
  size : Nat
  deriving DecidableEq, Repr, Inhabited

/-- Names are followed by zeros up to a multiple of four bytes. -/
def paddedSize (size : Nat) : Nat := (size / 4 + 1) * 4

def streamsFrom (bytes : ByteArray) (root : Nat) : Nat → Nat → Option (List (String × Stream))
  | 0, _ => some []
  | count + 1, offset => do
    let start ← number? bytes offset 4
    let size ← number? bytes (offset + 4) 4
    let name := upToZero bytes (offset + 8) 32
    let rest ← streamsFrom bytes root count (offset + 8 + paddedSize name.length)
    return (Text.decodeUtf8Lossy name, ⟨root + start, size⟩) :: rest

def streams? (bytes : ByteArray) (root : Nat) : Option (List (String × Stream)) := do
  let versionSize ← number? bytes (root + 12) 4
  let list := root + 16 + versionSize
  let count ← number? bytes (list + 2) 2
  streamsFrom bytes root count (list + 4)

/-- What stands for a text that is not well formed. -/
def illegible : String := "None"

/-- The text at an index of its heap; an index beyond the heap has none. -/
def textAt (bytes : ByteArray) (heap : Stream) (index : Nat) : String :=
  if index ≥ heap.size then ""
  else (Text.decodeUtf8? (upToZero bytes (heap.offset + index) (heap.size - index))).getD illegible

/-- The size of a blob and where it starts, by the one, two or four bytes in front of it. -/
def blobStart? (bytes : ByteArray) (offset : Nat) : Option (Nat × Nat) := do
  let first ← number? bytes offset 1
  if first < 0x80 then return (first, offset + 1)
  let second ← number? bytes (offset + 1) 1
  if first < 0xc0 then return ((first - 0x80) * 0x100 + second, offset + 2)
  let third ← number? bytes (offset + 2) 1
  let fourth ← number? bytes (offset + 3) 1
  return ((((first - 0xc0) * 0x100 + second) * 0x100 + third) * 0x100 + fourth, offset + 4)

def blobAt (bytes : ByteArray) (heap : Stream) (index : Nat) : List UInt8 :=
  if index ≥ heap.size then []
  else match blobStart? bytes (heap.offset + index) with
  | some (size, start) => slice bytes start (min size (heap.offset + heap.size - start))
  | none => []

end ProxyHeaders.Image
