import ProxyHeaders.Proxy.Enumeration

/-!
Integer constants of the header language: decimal literals, negation, difference and brackets. A
constant has a type; an operation on signed numbers whose result the type does not hold makes no
constant, and unsigned numbers wrap.
-/
namespace ProxyHeaders.Proxy

namespace Width

def Holds (width : Width) (value : Int) : Prop :=
  if width.signed then
    -(Nat.pow 2 (width.bits - 1) : Nat) ≤ value ∧ value < (Nat.pow 2 (width.bits - 1) : Nat)
  else 0 ≤ value ∧ value < (Nat.pow 2 width.bits : Nat)

instance (width : Width) (value : Int) : Decidable (width.Holds value) :=
  inferInstanceAs (Decidable (ite _ _ _))

/-- The wider of two types, or the unsigned one of two that are as wide. -/
def common (first second : Width) : Width :=
  if first.bits = second.bits then ⟨first.bits, first.signed && second.signed⟩
  else if first.bits < second.bits then second else first

end Width

/-- A number with its type. -/
structure Constant where
  type : Width
  value : Int
  deriving DecidableEq, Repr

namespace Constant

def of (type : Width) (value : Int) : Option Constant :=
  if type.signed then if type.Holds value then some ⟨type, value⟩ else none
  else some ⟨type, value % (Nat.pow 2 type.bits : Nat)⟩

def negated (operand : Constant) : Option Constant := of operand.type (-operand.value)

def difference (first second : Constant) : Option Constant :=
  of (first.type.common second.type) (first.value - second.value)

/-! Literals -/

def literalTypes : List Char → List Width
  | [] => [⟨32, true⟩, ⟨64, true⟩]
  | ['u'] => [⟨32, false⟩, ⟨64, false⟩]
  | ['l', 'l'] => [⟨64, true⟩]
  | ['u', 'l', 'l'] => [⟨64, false⟩]
  | _ => []

/-- A literal from its digits and its suffix. -/
def literal? (word : List Char) : Option Constant :=
  let digits := word.takeWhile Char.isDigit
  let value := Nat.ofDigitChars 10 digits 0
  -- With zeros in front the digits would be octal.
  if Nat.toDigits 10 value = digits then
    ((literalTypes (word.dropWhile Char.isDigit)).find? fun type => type.Holds value).map
      (⟨·, value⟩)
  else none

inductive Symbol where
  | minus
  | opening
  | closing
  | literal (number : Constant)

/-- What a word of letters and digits stands for, where there is one. -/
def wordSymbols (word : List Char) : Option (List Symbol) :=
  if word.isEmpty then some [] else (literal? word).map ([.literal ·])

def markSymbols : Char → Option (List Symbol)
  | ' ' => some []
  | '-' => some [.minus]
  | '(' => some [.opening]
  | ')' => some [.closing]
  | _ => none

/-- The symbols of a text, of which a word has been read. -/
def symbolsFrom (word : List Char) : List Char → Option (List Symbol)
  | [] => wordSymbols word
  -- Two minus signs in a row are one symbol, which no constant has.
  | '-' :: '-' :: _ => none
  | c :: rest =>
    if c.isAlphanum then symbolsFrom (word ++ [c]) rest
    else do
      let before ← wordSymbols word
      let mark ← markSymbols c
      return before ++ mark ++ (← symbolsFrom [] rest)

/-! Expressions -/

/-- What waits for an operand. -/
inductive Waiting where
  | negation
  | minuend (first : Constant)
  | bracket

/-- The operations that end with an operand, up to a bracket. -/
def settle : List Waiting → Constant → Option (List Waiting × Constant)
  | .negation :: waiting, operand => do settle waiting (← operand.negated)
  | .minuend first :: waiting, operand => do settle waiting (← first.difference operand)
  | waiting, operand => some (waiting, operand)

/-- The value of the symbols that are left, behind an operand or where there has to be one. -/
def evaluate (waiting : List Waiting) : Option Constant → List Symbol → Option Constant
  | none, .minus :: rest => evaluate (.negation :: waiting) none rest
  | none, .opening :: rest => evaluate (.bracket :: waiting) none rest
  | none, .literal number :: rest => do
    let (waiting, operand) ← settle waiting number
    evaluate waiting (some operand) rest
  | some first, .minus :: rest => evaluate (.minuend first :: waiting) none rest
  | some inner, .closing :: rest =>
    match waiting with
    | .bracket :: outer => do
      let (waiting, operand) ← settle outer inner
      evaluate waiting (some operand) rest
    | _ => none
  | some result, [] => if waiting.isEmpty then some result else none
  | _, _ => none

/-- The number that a text denotes as a constant. -/
def denoted? (text : String) : Option Int := do
  let symbols ← symbolsFrom [] text.toList
  let constant ← evaluate [] none symbols
  return constant.value

/-! What literals denote -/

section Literals

variable {suffix : List Char} {type : Width} {wider : List Width}
  (letters : suffix.all Char.isAlphanum) (undigited : suffix.takeWhile Char.isDigit = [])
  (typed : literalTypes suffix = type :: wider)

theorem symbolsFrom_word (word : List Char) {more : List Char}
    (letters : ∀ c ∈ more, c.isAlphanum) (rest : List Char) :
    symbolsFrom word (more ++ rest) = symbolsFrom (word ++ more) rest := by
  induction more generalizing word with
  | nil => simp
  | cons c more ih =>
    have letter := letters c List.mem_cons_self
    have noMinus : c ≠ '-' := by
      rintro rfl
      exact absurd letter (by decide)
    rw [List.cons_append, symbolsFrom.eq_3 _ _ _ (fun _ minus => absurd minus noMinus), if_pos letter,
      ih _ fun c member => letters c (List.mem_cons_of_mem _ member)]
    simp

theorem digits_all (number : Nat) : ∀ c ∈ Nat.toDigits 10 number, c.isDigit := by
  intro c member
  exact Nat.isDigit_of_mem_toDigits (by decide) (by decide) member

include undigited typed in
theorem literal?_digits {number : Nat} (holds : type.Holds number) :
    literal? (Nat.toDigits 10 number ++ suffix) = some ⟨type, number⟩ := by
  have digits := digits_all number
  have taken : (Nat.toDigits 10 number ++ suffix).takeWhile Char.isDigit =
      Nat.toDigits 10 number := by
    rw [List.takeWhile_append_of_pos digits, undigited, List.append_nil]
  have left : (Nat.toDigits 10 number ++ suffix).dropWhile Char.isDigit = suffix := by
    have whole := List.takeWhile_append_dropWhile (p := Char.isDigit) (l := suffix)
    rw [List.dropWhile_append_of_pos digits]
    rwa [undigited, List.nil_append] at whole
  simp [literal?, taken, left, typed, holds]

include letters undigited typed in
theorem symbolsFrom_literal {number : Nat} (holds : type.Holds number) :
    symbolsFrom [] (Nat.toDigits 10 number ++ suffix) = some [.literal ⟨type, number⟩] := by
  have word : ∀ c ∈ Nat.toDigits 10 number ++ suffix, c.isAlphanum := by
    intro c member
    rcases List.mem_append.mp member with digit | letter
    · simp [Char.isAlphanum, digits_all number c digit]
    · exact List.all_eq_true.mp letters c letter
  have read := symbolsFrom_word [] word []
  rw [List.append_nil, List.nil_append] at read
  rw [read, symbolsFrom, wordSymbols, literal?_digits undigited typed holds]
  simp

theorem symbolsFrom_minus {rest : List Char} (single : rest.head? ≠ some '-') :
    symbolsFrom [] ('-' :: rest) = (symbolsFrom [] rest).map (.minus :: ·) := by
  have lone : ∀ after, '-' = '-' → rest = '-' :: after → False := by
    rintro after - rfl
    exact single rfl
  rw [symbolsFrom.eq_3 _ _ _ lone, if_neg (by decide)]
  cases symbolsFrom [] rest <;> rfl

theorem digits_single (number : Nat) (rest : List Char) :
    (Nat.toDigits 10 number ++ rest).head? ≠ some '-' := by
  have digits := digits_all number
  cases spelled : Nat.toDigits 10 number with
  | nil => simp at spelled
  | cons first more =>
    rw [spelled] at digits
    rintro same
    obtain rfl : first = '-' := by simpa using same
    exact absurd (digits '-' List.mem_cons_self) (by decide)

theorem evaluate_negated {operand result : Constant} (opposite : operand.negated = some result) :
    evaluate [] none [.minus, .literal operand] = some result := by
  simp [evaluate, settle, opposite]

include letters undigited typed in
/-- A number that its literal's type holds is what its digits denote; a negative number has to be held
as well. -/
theorem denoted?_number {value : Int} (holds : type.Holds value.natAbs)
    (below : value < 0 → type.signed ∧ type.Holds value) :
    denoted? (toString value ++ String.ofList suffix) = some value := by
  have read := symbolsFrom_literal letters undigited typed holds
  cases value with
  | ofNat number =>
    have spelled : (toString (Int.ofNat number) ++ String.ofList suffix).toList =
        Nat.toDigits 10 number ++ suffix := by
      simp [ToString.toString, Int.repr]
    change symbolsFrom [] (Nat.toDigits 10 number ++ suffix) = _ at read
    rw [denoted?, spelled, read]
    rfl
  | negSucc number =>
    obtain ⟨signed, held⟩ := below (Int.negSucc_lt_zero number)
    have spelled : (toString (Int.negSucc number) ++ String.ofList suffix).toList =
        '-' :: (Nat.toDigits 10 (number + 1) ++ suffix) := by
      simp [ToString.toString, Int.repr]
    change symbolsFrom [] (Nat.toDigits 10 (number + 1) ++ suffix) = _ at read
    have minus := symbolsFrom_minus (digits_single (number + 1) suffix)
    rw [read] at minus
    have opposite : (negated ⟨type, (number + 1 : Nat)⟩) = some ⟨type, Int.negSucc number⟩ := by
      have value : -((number + 1 : Nat) : Int) = Int.negSucc number := rfl
      rw [negated, of, value, if_pos signed, if_pos held]
    rw [denoted?, spelled, minus]
    exact congrArg (fun result : Option Constant => do return (← result).value)
      (evaluate_negated opposite)

include letters undigited in
theorem denoted?_unsigned {bits : Nat} (typed : literalTypes suffix = ⟨bits, false⟩ :: wider)
    {value : Int} (lower : 0 ≤ value) (upper : value < (Nat.pow 2 bits : Nat)) :
    denoted? (toString value ++ String.ofList suffix) = some value := by
  have held : (⟨bits, false⟩ : Width).Holds value := ⟨lower, upper⟩
  rw [Int.eq_natAbs_of_nonneg lower] at held
  exact denoted?_number letters undigited typed held fun below => absurd lower (by omega)

include letters undigited in
theorem denoted?_signed {bits : Nat} (typed : literalTypes suffix = ⟨bits, true⟩ :: wider)
    {value : Int} (lower : -(Nat.pow 2 (bits - 1) : Nat) < value)
    (upper : value < (Nat.pow 2 (bits - 1) : Nat)) :
    denoted? (toString value ++ String.ofList suffix) = some value := by
  have size : -(Nat.pow 2 (bits - 1) : Nat) ≤ (value.natAbs : Int) ∧
      (value.natAbs : Int) < (Nat.pow 2 (bits - 1) : Nat) := by omega
  exact denoted?_number letters undigited typed size fun _ => ⟨rfl, Int.le_of_lt lower, upper⟩

example : denoted? "(7 - -3) - 4u" = some 6 ∧ denoted? "1u - 2" = some 0xffffffff ∧
    denoted? "-9223372036854775808" = none ∧ denoted? "010" = none := by decide +kernel

end Literals

end Constant

end ProxyHeaders.Proxy
