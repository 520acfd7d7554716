import ProxyHeaders.Data.Value
import ProxyHeaders.Text.Ranges

/-!
Reading JSON. One pass over the characters feeds the lexemes to a machine that keeps the open
lists and records; both stop at the first fault, so the first fault in the text is the one
reported. `NaN` and the infinities are numbers; a repeated key keeps its last value. How many lists
and records may be open at once depends on the calls that are left to the reader.
-/
namespace ProxyHeaders.Data.Json

inductive Fault where
  /-- The text is not JSON. -/
  | malformed
  /-- Lists and records are nested too deeply to be read. -/
  | tooDeep
  | tooLong
  deriving DecidableEq, Repr

def digitLimit : Nat := 4300

inductive Lexeme where
  | mark (c : Char)
  | text (codes : List Nat)
  | word (chars : List Char)

/-- An open list or record, with what it holds so far; a record may wait for a key's value. -/
inductive Frame where
  | list (items : List Value)
  | record (entries : List (Key × Value)) (key : Option Key)

inductive Expectation where
  | value
  | valueOrClose
  | keyOrClose
  | key
  | colon
  | separator
  | nothing
  deriving DecidableEq

structure Machine where
  frames : List Frame
  expected : Expectation
  result : Option Value

def Machine.start : Machine := ⟨[], .value, none⟩

def digitsThen (chars : List Char) : List Char × List Char :=
  (chars.takeWhile Char.isDigit, chars.dropWhile Char.isDigit)

def natOf (digits : List Char) : Nat :=
  digits.foldl (fun value c => value * 10 + (c.toNat - '0'.toNat)) 0

/-- The whole number in front of some characters: digits without a needless zero in front. -/
def wholeThen (chars : List Char) : List Char × List Char :=
  match chars with
  | '0' :: rest => (['0'], rest)
  | _ => digitsThen chars

/-- The fraction in front of some characters: a point and digits. Without digits there is none. -/
def fractionThen (chars : List Char) : List Char × List Char :=
  match chars with
  | '.' :: behind =>
    let (digits, rest) := digitsThen behind
    if digits.isEmpty then ([], chars) else (digits, rest)
  | _ => ([], chars)

/-- The exponent in front of some characters: `e`, perhaps a sign, and digits. Without digits there is
none. -/
def exponentThen (chars : List Char) : Option Int × List Char :=
  match chars with
  | e :: behind =>
    if e != 'e' && e != 'E' then (none, chars)
    else
      let (negative, behind) := match behind with
        | '-' :: behind => (true, behind)
        | '+' :: behind => (false, behind)
        | behind => (false, behind)
      let (digits, rest) := digitsThen behind
      if digits.isEmpty then (none, chars)
      else (some (if negative then -(natOf digits : Int) else natOf digits), rest)
  | [] => (none, [])

def numberThen (negative : Bool) (chars : List Char) : Except Fault (Value × List Char) :=
  let (whole, rest) := wholeThen chars
  if whole.isEmpty then .error .malformed
  else
    let (fraction, rest) := fractionThen rest
    match exponentThen rest with
    | (some exponent, rest) =>
      .ok (.real (.ofDecimal negative (natOf (whole ++ fraction)) (exponent - fraction.length)), rest)
    | (none, rest) =>
      if !fraction.isEmpty then
        .ok (.real (.ofDecimal negative (natOf (whole ++ fraction)) (-fraction.length)), rest)
      else if whole.length > digitLimit then .error .tooLong
      else .ok (.int (if negative then -(natOf whole : Int) else natOf whole), rest)

/-- A number with nothing behind it. It is made before what is behind it is looked at. -/
def numberOf (negative : Bool) (chars : List Char) : Except Fault Value :=
  match numberThen negative chars with
  | .error fault => .error fault
  | .ok (value, []) => .ok value
  | .ok (_, _ :: _) => .error .malformed

def wordValue (chars : List Char) : Except Fault Value :=
  match String.ofList chars with
  | "null" => .ok .none
  | "true" => .ok (.bool true)
  | "false" => .ok (.bool false)
  | "NaN" => .ok (.real .nan)
  | "Infinity" => .ok (.real (.infinite false))
  | "-Infinity" => .ok (.real (.infinite true))
  | _ =>
    match chars with
    | '-' :: rest => numberOf true rest
    | _ => numberOf false chars

/-- Puts a finished value where it belongs: into the innermost open frame, or as the result. -/
def Machine.accept (machine : Machine) (value : Value) : Machine :=
  match machine.frames with
  | [] => { machine with expected := .nothing, result := some value }
  | .list items :: outer =>
    { machine with frames := .list (value :: items) :: outer, expected := .separator }
  | .record entries key :: outer =>
    { machine with
      frames := .record (Value.put entries (key.getD (.text "")) value) none :: outer
      expected := .separator }

def Machine.open (levels : Nat) (machine : Machine) (frame : Frame) (expected : Expectation) :
    Except Fault Machine :=
  if machine.frames.length ≥ levels then .error .tooDeep
  else .ok { machine with frames := frame :: machine.frames, expected }

def Machine.close (machine : Machine) : Except Fault Machine :=
  match machine.frames with
  | [] => .error .malformed
  | .list items :: outer => .ok ({ machine with frames := outer }.accept (.list items.reverse))
  | .record entries _ :: outer => .ok ({ machine with frames := outer }.accept (.record entries))

def Machine.inList (machine : Machine) : Bool :=
  match machine.frames with
  | .list _ :: _ => true
  | _ => false

def Machine.step (levels : Nat) (machine : Machine) (lexeme : Lexeme) : Except Fault Machine :=
  let forValue := machine.expected == .value || machine.expected == .valueOrClose
  match lexeme with
  | .text codes =>
    if forValue then .ok (machine.accept (.ofCodes codes))
    else if machine.expected == .key || machine.expected == .keyOrClose then
      match machine.frames with
      | .record entries _ :: outer =>
        .ok { machine with frames := .record entries (some (.ofCodes codes)) :: outer, expected := .colon }
      | _ => .error .malformed
    else .error .malformed
  | .word chars =>
    if forValue then (wordValue chars).map machine.accept else .error .malformed
  | .mark c =>
    if c == '[' && forValue then machine.open levels (.list []) .valueOrClose
    else if c.toNat == 0x7b && forValue then machine.open levels (.record [] none) .keyOrClose
    else if c == ']' && machine.inList &&
        (machine.expected == .valueOrClose || machine.expected == .separator) then machine.close
    else if c.toNat == 0x7d && !machine.inList &&
        (machine.expected == .keyOrClose || machine.expected == .separator) then machine.close
    else if c == ':' && machine.expected == .colon then .ok { machine with expected := .value }
    else if c == ',' && machine.expected == .separator then
      .ok { machine with expected := if machine.inList then .value else .key }
    else .error .malformed

/-- Where the lexer stands: between lexemes, in a word, or in a text with an escape begun. The
characters or code points read so far are kept latest first. -/
inductive Mode where
  | between
  | word (read : List Char)
  | text (read : List Nat)
  | escape (read : List Nat)
  | code (read : List Nat) (digits value : Nat)

structure Reading where
  mode : Mode
  machine : Machine
  /-- The first half of a surrogate pair whose second half has not come yet. -/
  high : Option Nat

def isWhite (c : Char) : Bool := c == ' ' || c == '\t' || c == '\n' || c == '\r'

def isMark (c : Char) : Bool :=
  c == '[' || c == ']' || c == ',' || c == ':' || c.toNat == 0x7b || c.toNat == 0x7d

def isWordPart (c : Char) : Bool := c.isAlphanum || c == '-' || c == '+' || c == '.'

def hexValue? (c : Char) : Option Nat :=
  if c.isDigit then some (c.toNat - '0'.toNat)
  else if 'a' ≤ c && c ≤ 'f' then some (c.toNat - 'a'.toNat + 10)
  else if 'A' ≤ c && c ≤ 'F' then some (c.toNat - 'A'.toNat + 10)
  else none

/-- A text's code points with a half pair in front of them settled: it stays alone. -/
def settle (high : Option Nat) (read : List Nat) : List Nat := high.toList ++ read

def escaped? (c : Char) : Option Char :=
  match c with
  | '"' => some '"'
  | '\\' => some '\\'
  | '/' => some '/'
  | 'b' => some (Char.ofNat 8)
  | 'f' => some (Char.ofNat 12)
  | 'n' => some '\n'
  | 'r' => some '\r'
  | 't' => some '\t'
  | _ => none

def withCode (high : Option Nat) (read : List Nat) (code : Nat) : Option Nat × List Nat :=
  if 0xd800 ≤ code && code < 0xdc00 then (some code, settle high read)
  else
    match high with
    | some half =>
      if 0xdc00 ≤ code && code < 0xe000 then
        (none, (0x10000 + (half - 0xd800) * 0x400 + (code - 0xdc00)) :: read)
      else (none, code :: settle high read)
    | none => (none, code :: read)

variable (levels : Nat)

def Reading.between (machine : Machine) (c : Char) : Except Fault Reading :=
  if isWhite c then .ok ⟨.between, machine, none⟩
  else if c == '"' then .ok ⟨.text [], machine, none⟩
  else if isMark c then do return ⟨.between, ← machine.step levels (.mark c), none⟩
  else if isWordPart c then .ok ⟨.word [c], machine, none⟩
  else .error .malformed

def Reading.step (reading : Reading) (c : Char) : Except Fault Reading :=
  match reading.mode with
  | .between => Reading.between levels reading.machine c
  | .word read =>
    if isWordPart c then .ok { reading with mode := .word (c :: read) }
    else do Reading.between levels (← reading.machine.step levels (.word read.reverse)) c
  | .text read =>
    if c == '"' then do
      let codes := (settle reading.high read).reverse
      return ⟨.between, ← reading.machine.step levels (.text codes), none⟩
    else if c == '\\' then .ok { reading with mode := .escape read }
    else if c.toNat < 0x20 then .error .malformed
    else .ok ⟨.text (c.toNat :: settle reading.high read), reading.machine, none⟩
  | .escape read =>
    if c == 'u' then .ok { reading with mode := .code read 0 0 }
    else match escaped? c with
      | some c => .ok ⟨.text (c.toNat :: settle reading.high read), reading.machine, none⟩
      | none => .error .malformed
  | .code read digits value =>
    match hexValue? c with
    | none => .error .malformed
    | some digit =>
      let value := value * 16 + digit
      if digits < 3 then .ok { reading with mode := .code read (digits + 1) value }
      else
        let (high, read) := withCode reading.high read value
        .ok ⟨.text read, reading.machine, high⟩

def Reading.finish (reading : Reading) : Except Fault Value := do
  let machine ← match reading.mode with
    | .between => .ok reading.machine
    | .word read => reading.machine.step levels (.word read.reverse)
    | _ => .error .malformed
  match machine.result with
  | some value => if machine.expected == .nothing then .ok value else .error .malformed
  | none => .error .malformed

def read (text : String) : Except Fault Value := do
  let reading ← text.toList.foldlM (Reading.step levels) ⟨.between, .start, none⟩
  reading.finish levels

end ProxyHeaders.Data.Json
