import ProxyHeaders.Data.Value

/-!
Looking into data of unknown shape. What is not there, or is of another kind, reads as a default.
-/
namespace ProxyHeaders.Value

def entries : Value → List (Key × Value)
  | .record entries => entries
  | _ => []

def items : Value → List Value
  | .list items => items
  | _ => []

def has (value : Value) (key : String) : Bool := (value.entries.lookup (.text key)).isSome

def field (value : Value) (key : String) : Value := (value.entries.lookup (.text key)).getD .none

def item (value : Value) (index : Nat) : Value := (value.items[index]?).getD .none

/-- A text as a string; half a surrogate pair in it reads as U+FFFD. -/
def text? : Value → Option String
  | .text written => some written
  | .torn codes => some (shownCodes codes)
  | _ => Option.none

def textOr (absent : String) (value : Value) : String := value.text?.getD absent

def asText (value : Value) : String := value.textOr ""

def boolOr (absent : Bool) : Value → Bool
  | .bool truth => truth
  | _ => absent

/-- A number, also one in writing. -/
def intOr (absent : Int) : Value → Int
  | .int number => number
  | .bool truth => if truth then 1 else 0
  | .text written => written.toInt?.getD absent
  | _ => absent

def asInt (value : Value) : Int := value.intOr 0

def asNat (value : Value) : Nat := value.asInt.toNat

def asTexts (value : Value) : List String := value.items.filterMap text?

def textsOr (absent : List String) : Value → List String
  | .list items => items.filterMap text?
  | _ => absent

def wordOr {α : Type} (words : List (String × α)) (absent : α) (value : Value) : α :=
  (words.lookup value.asText).getD absent

def ofText? (text : Option String) : Value := (text.map Value.text).getD .none

def ofNat (number : Nat) : Value := .int number

def ofPairs (pairs : List (String × String)) : Value :=
  .list (pairs.map fun (first, second) => .list [.text first, .text second])

end ProxyHeaders.Value
