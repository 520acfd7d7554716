/-!
Decoding UTF-8. Malformed input is either refused or read with one replacement character for
every longest part that could have begun a character.
-/
namespace ProxyHeaders.Text

/-- What a lead byte announces: how many bytes follow, the bounds of the first of them, and the
bits that the lead byte itself gives. -/
structure Lead where
  following : Nat
  low : Nat
  high : Nat
  bits : Nat

def lead? (byte : Nat) : Option Lead :=
  if byte < 0x80 then some ⟨0, 0x80, 0xbf, byte⟩
  else if 0xc2 ≤ byte && byte ≤ 0xdf then some ⟨1, 0x80, 0xbf, byte % 0x20⟩
  else if byte == 0xe0 then some ⟨2, 0xa0, 0xbf, 0⟩
  else if byte == 0xed then some ⟨2, 0x80, 0x9f, 0xd⟩
  else if 0xe1 ≤ byte && byte ≤ 0xef then some ⟨2, 0x80, 0xbf, byte % 0x10⟩
  else if byte == 0xf0 then some ⟨3, 0x90, 0xbf, 0⟩
  else if byte == 0xf4 then some ⟨3, 0x80, 0x8f, 4⟩
  else if 0xf1 ≤ byte && byte ≤ 0xf3 then some ⟨3, 0x80, 0xbf, byte % 8⟩
  else none

/-- Where a decoder stands: between characters, or inside one with the bits so far, the number
of bytes still owed and the bounds of the next. -/
inductive Utf8State where
  | between
  | inside (bits owed low high : Nat)

/-- Characters with `none` for every malformed part. -/
def decodeParts : Utf8State → List UInt8 → List (Option Char)
  | .between, [] => []
  | .inside _ _ _ _, [] => [none]
  | state, byte :: rest =>
    let begin : List (Option Char) → List (Option Char) × Utf8State := fun before =>
      match lead? byte.toNat with
      | none => (before ++ [none], .between)
      | some ⟨0, _, _, bits⟩ => (before ++ [some (Char.ofNat bits)], .between)
      | some ⟨following, low, high, bits⟩ => (before, .inside bits following low high)
    let (out, next) :=
      match state with
      | .between => begin []
      | .inside bits owed low high =>
        if low ≤ byte.toNat && byte.toNat ≤ high then
          let bits := bits * 0x40 + byte.toNat % 0x40
          if owed == 1 then ([some (Char.ofNat bits)], .between)
          else ([], .inside bits (owed - 1) 0x80 0xbf)
        else begin [none]
    out ++ decodeParts next rest

def decodeUtf8? (bytes : List UInt8) : Option String :=
  let parts := decodeParts .between bytes
  if parts.all Option.isSome then some (String.ofList (parts.filterMap id)) else none

/-- The text with U+FFFD for every malformed part. -/
def decodeUtf8Lossy (bytes : List UInt8) : String :=
  String.ofList ((decodeParts .between bytes).map fun part => part.getD (Char.ofNat 0xfffd))

end ProxyHeaders.Text
