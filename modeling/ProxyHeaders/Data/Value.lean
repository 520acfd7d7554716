import ProxyHeaders.Data.Binary64
import ProxyHeaders.Text.Quoted

/-!
Data without a fixed shape: what a settings file may hold and what templates are filled with.
-/
namespace ProxyHeaders

/-- What an entry of a record is found by: a text, or in a record that is made of pairs any other value
that holds none. -/
inductive Key where
  | text (written : String)
  /-- The code points of a text with half a surrogate pair, which no string holds. -/
  | torn (codes : List Nat)
  | none
  | bool (truth : Bool)
  | int (number : Int)
  | real (number : Data.Binary64)
  deriving DecidableEq, Repr, Inhabited

instance : Coe String Key := ⟨.text⟩

inductive Value where
  | none
  | bool (truth : Bool)
  | int (number : Int)
  | real (number : Data.Binary64)
  | text (text : String)
  | torn (codes : List Nat)
  | list (items : List Value)
  | record (entries : List (Key × Value))
  deriving Repr, Inhabited

/-- Half of a surrogate pair, which stands for no character by itself. -/
def isHalf (code : Nat) : Bool := 0xd800 ≤ code && code < 0xe000

def stringOf (codes : List Nat) : String := String.ofList (codes.map Char.ofNat)

/-- What is shown of code points; half a pair as U+FFFD. -/
def shownCodes (codes : List Nat) : String :=
  stringOf (codes.map fun code => if isHalf code then 0xfffd else code)

namespace Key

@[simp] theorem text_beq (first second : String) :
    (Key.text first == Key.text second) = (first == second) := by
  rw [Bool.eq_iff_iff, beq_iff_eq, beq_iff_eq, Key.text.injEq]

def isText : Key → Bool
  | .text _ | .torn _ => true
  | _ => false

def ofCodes (codes : List Nat) : Key :=
  if codes.any isHalf then .torn codes else .text (stringOf codes)

def toValue : Key → Value
  | .text written => .text written
  | .torn codes => .torn codes
  | .none => .none
  | .bool truth => .bool truth
  | .int number => .int number
  | .real number => .real number

/-- What a key counts as beside others: a condition as one or zero, a number by its value alone. -/
def identity : Key → Key
  | .bool truth => .int (if truth then 1 else 0)
  | .real number => (number.integer?.map Key.int).getD (.real number)
  | key => key

/-- A text in quotation marks; half a pair is escaped like what cannot be seen. -/
def quotedCodes (codes : List Nat) : String :=
  let shown := codes.map fun code => if isHalf code then 'x' else Char.ofNat code
  let mark := Text.quoteMark shown
  String.ofList ([mark] ++ codes.flatMap (fun code =>
    if isHalf code then ['\\', 'u'] ++ Text.hexDigits 4 code
    else Text.escapeQuoted mark (Char.ofNat code)) ++ [mark])

def literal : Key → String
  | .text written => Text.quoted written
  | .torn codes => quotedCodes codes
  | .none => "None"
  | .bool truth => if truth then "True" else "False"
  | .int number => toString number
  | .real number => number.display

end Key

namespace Value

def ofTexts (texts : List String) : Value := .list (texts.map .text)

def ofCodes (codes : List Nat) : Value := (Key.ofCodes codes).toValue

def key? : Value → Option Key
  | .list _ | .record _ => Option.none
  | .text written => some (.text written)
  | .torn codes => some (.torn codes)
  | .none => some .none
  | .bool truth => some (.bool truth)
  | .int number => some (.int number)
  | .real number => some (.real number)

/-- A record has one entry for each key; a later entry replaces the value and keeps the place and the
key. -/
def put (entries : List (Key × Value)) (key : Key) (value : Value) : List (Key × Value) :=
  match entries with
  | [] => [(key, value)]
  | (other, old) :: rest =>
    if other.identity == key.identity then (other, value) :: rest
    else (other, old) :: put rest key value

/-- Whether a condition holds of the value: it is not none, false, zero or empty. -/
def isTrue : Value → Bool
  | .none => false
  | .bool truth => truth
  | .int number => number != 0
  | .real number => !number.isZero
  | .text written => !written.isEmpty
  | .torn codes => !codes.isEmpty
  | .list items => !items.isEmpty
  | .record entries => !entries.isEmpty

mutual

def literal : Value → String
  | .none => Key.literal .none
  | .bool truth => Key.literal (.bool truth)
  | .int number => Key.literal (.int number)
  | .real number => Key.literal (.real number)
  | .text written => Key.literal (.text written)
  | .torn codes => Key.literal (.torn codes)
  | .list items => "[" ++ ", ".intercalate (literals items) ++ "]"
  | .record entries => "\x7b" ++ ", ".intercalate (entryLiterals entries) ++ "\x7d"

def literals : List Value → List String
  | [] => []
  | item :: rest => item.literal :: literals rest

def entryLiterals : List (Key × Value) → List String
  | [] => []
  | (key, value) :: rest => (key.literal ++ ": " ++ value.literal) :: entryLiterals rest

end

/-- The value as it is printed: a text as it stands, all else as its literal. -/
def display : Value → String
  | .text written => written
  | .torn codes => shownCodes codes
  | value => value.literal

end Value

def Key.display (key : Key) : String := key.toValue.display

end ProxyHeaders
