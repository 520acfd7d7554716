/-!
Bytes from base64, six bits to a character. Padding and whatever else is no digit is passed over.
-/
namespace ProxyHeaders.Data.Base64

def digit? (c : Char) : Option Nat :=
  if 'A' ≤ c && c ≤ 'Z' then some (c.toNat - 'A'.toNat)
  else if 'a' ≤ c && c ≤ 'z' then some (c.toNat - 'a'.toNat + 26)
  else if c.isDigit then some (c.toNat - '0'.toNat + 52)
  else if c == '+' then some 62
  else if c == '/' then some 63
  else none

/-- The bytes read so far, and the bits that do not make a byte yet. -/
structure Decoding where
  bytes : ByteArray := .empty
  bits : Nat := 0
  count : Nat := 0

def Decoding.add (decoding : Decoding) (digit : Nat) : Decoding :=
  let bits := decoding.bits * 64 + digit
  let count := decoding.count + 6
  if count < 8 then { decoding with bits, count }
  else
    let owed := count - 8
    let unit := Nat.pow 2 owed
    { bytes := decoding.bytes.push (bits / unit).toUInt8, bits := bits % unit, count := owed }

def decode (text : String) : ByteArray :=
  ((text.toList.filterMap digit?).foldl Decoding.add {}).bytes

end ProxyHeaders.Data.Base64
