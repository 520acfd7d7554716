import ProxyHeaders.Text.InvisibleTable
import ProxyHeaders.Text.Ranges

/-!
Texts in quotation marks. Apostrophes are the marks unless the text holds an apostrophe and no
quotation mark; the mark in use, the backslash and invisible characters are escaped.
-/
namespace ProxyHeaders.Text

def hexDigits (width value : Nat) : List Char :=
  let digits := Nat.toDigits 16 value
  List.replicate (width - digits.length) '0' ++ digits

def isInvisible (c : Char) : Bool :=
  if isAscii c then c.toNat < 0x20 || c.toNat == 0x7f else inRanges invisibleRanges c

def escapeQuoted (mark c : Char) : List Char :=
  if c == mark || c == '\\' then ['\\', c]
  else if c == '\t' then ['\\', 't']
  else if c == '\n' then ['\\', 'n']
  else if c == '\r' then ['\\', 'r']
  else if !isInvisible c then [c]
  else if c.toNat < 0x100 then ['\\', 'x'] ++ hexDigits 2 c.toNat
  else if c.toNat < 0x10000 then ['\\', 'u'] ++ hexDigits 4 c.toNat
  else ['\\', 'U'] ++ hexDigits 8 c.toNat

def quoteMark (chars : List Char) : Char :=
  if chars.contains '\'' && !chars.contains '"' then '"' else '\''

def quoted (text : String) : String :=
  let mark := quoteMark text.toList
  String.ofList ([mark] ++ text.toList.flatMap (escapeQuoted mark) ++ [mark])

end ProxyHeaders.Text
