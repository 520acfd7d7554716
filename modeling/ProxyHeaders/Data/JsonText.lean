import ProxyHeaders.Data.Value

/-!
Writing data as JSON on one line, in ASCII.
-/
namespace ProxyHeaders.Data.Json

/-- The units of 16 bits that a character takes: one, or the two halves of a pair. -/
def unitsOf (c : Char) : List Nat :=
  if c.toNat < 0x10000 then [c.toNat]
  else
    let above := c.toNat - 0x10000
    [0xd800 + above / 0x400, 0xdc00 + above % 0x400]

def escapeChar (c : Char) : List Char :=
  if c == '"' || c == '\\' then ['\\', c]
  else if 0x20 ≤ c.toNat && c.toNat < 0x7f then [c]
  else (unitsOf c).flatMap fun unit => ['\\', 'u'] ++ Text.hexDigits 4 unit

def writeText (text : String) : String :=
  "\"" ++ String.ofList (text.toList.flatMap escapeChar) ++ "\""

/-- Half a surrogate pair is one unit by itself. -/
def writeCodes (codes : List Nat) : String :=
  "\"" ++ String.ofList (codes.flatMap fun code =>
    if isHalf code then ['\\', 'u'] ++ Text.hexDigits 4 code else escapeChar (Char.ofNat code)) ++
    "\""

def writeReal : Binary64 → String
  | .nan => "NaN"
  | .infinite negative => if negative then "-Infinity" else "Infinity"
  | number => number.display

/-- A key is written as a text, whatever it is. -/
def writeKey : Key → String
  | .text written => writeText written
  | .torn codes => writeCodes codes
  | .none => writeText "null"
  | .bool truth => writeText (if truth then "true" else "false")
  | .int number => writeText (toString number)
  | .real number => writeText (writeReal number)

mutual

def write : Value → String
  | .none => "null"
  | .bool truth => if truth then "true" else "false"
  | .int number => toString number
  | .real number => writeReal number
  | .text written => writeText written
  | .torn codes => writeCodes codes
  | .list items => "[" ++ ",".intercalate (writeItems items) ++ "]"
  | .record entries => "\x7b" ++ ",".intercalate (writeEntries entries) ++ "\x7d"

def writeItems : List Value → List String
  | [] => []
  | item :: rest => write item :: writeItems rest

def writeEntries : List (Key × Value) → List String
  | [] => []
  | (key, value) :: rest => (writeKey key ++ ":" ++ write value) :: writeEntries rest

end

end ProxyHeaders.Data.Json
