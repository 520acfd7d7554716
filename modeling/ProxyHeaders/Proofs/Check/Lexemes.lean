import Mathlib.Data.List.Induction
import Mathlib.Data.List.Infix
import ProxyHeaders.Proofs.Check.Nesting

/-!
A header as a row of lexemes: comments, literals, and single characters of code. The scanner goes
from one to the next, and every text can be read so, however its comments and literals end. Each
character of a lexeme is marked with what the scanner leaves of it.
-/
namespace ProxyHeaders.Check

/-- What stands between the quotation marks of a literal: no mark and no line break, but any
character behind a backslash. -/
inductive Quoted (quote : Char) : List Char → Prop where
  | nothing : Quoted quote []
  | plain {c : Char} {rest : List Char} (other : c ≠ quote) (direct : c ≠ '\\')
    (unbroken : c ≠ '\n') (later : Quoted quote rest) : Quoted quote (c :: rest)
  | escaped (c : Char) {rest : List Char} (later : Quoted quote rest) :
    Quoted quote ('\\' :: c :: rest)

/-- What a literal ends with, in front of what: its mark, the break of its line, or nothing at the
end of the text, where a backslash may have no character to escape. -/
inductive Ends (quote : Char) : List Char → List Char → Prop where
  | marked (rest : List Char) : Ends quote [quote] rest
  | broken (rest : List Char) : Ends quote ['\n'] rest
  | cut : Ends quote [] []
  | escaping : Ends quote ['\\'] []

inductive Lexeme where
  | plain (c : Char)
  | lineComment (text : List Char)
  | blockComment (text ending : List Char)
  | literal (quote : Char) (text ending : List Char)

/-- A character of a header, and what the check sees in its place. -/
abbrev Mark := Char × Option Char

namespace Mark

def whole (marks : List Mark) : List Char := marks.map (·.1)

def left (marks : List Mark) : List Char := marks.filterMap (·.2)

/-- The number of line breaks of which nothing is left. -/
def lostBreaks (marks : List Mark) : Nat := marks.count ('\n', none)

def kept (c : Char) : Mark := (c, some c)
def dropped (c : Char) : Mark := (c, none)

theorem whole_append (before after : List Mark) :
    whole (before ++ after) = whole before ++ whole after := List.map_append

theorem left_append (before after : List Mark) :
    left (before ++ after) = left before ++ left after := List.filterMap_append

end Mark

namespace Lexeme

open Mark

def source : Lexeme → List Char
  | .plain c => [c]
  | .lineComment text => '/' :: '/' :: text
  | .blockComment text ending => '/' :: '*' :: (text ++ ending)
  | .literal quote text ending => quote :: (text ++ ending)

/-- Of a literal one blank is left, of a comment its line breaks. -/
def marks : Lexeme → List Mark
  | .plain c => [kept c]
  | .lineComment text => ('/' :: '/' :: text).map dropped
  | .blockComment text ending =>
    ('/' :: '*' :: (text ++ ending)).map fun c => if c = '\n' then kept c else dropped c
  | .literal quote text ending => (quote, some ' ') :: (text ++ ending).map dropped

/-- A lexeme as it has to be in front of the rest of the text. -/
inductive Fits : Lexeme → List Char → Prop where
  | plain {c : Char} {rest : List Char} (unquoted : isQuote c = false)
    (code : c = '/' → rest.head? ≠ some '/' ∧ rest.head? ≠ some '*') : Fits (.plain c) rest
  | lineComment {text rest : List Char} (unbroken : '\n' ∉ text)
    (ends : rest = [] ∨ rest.head? = some '\n') : Fits (.lineComment text) rest
  | blockComment {text rest : List Char} (unclosed : ¬ ['*', '/'] <:+: text) :
    Fits (.blockComment text ['*', '/']) rest
  | openComment {text : List Char} (unclosed : ¬ ['*', '/'] <:+: text) :
    Fits (.blockComment text []) []
  | literal {quote : Char} {text ending rest : List Char} (quotes : isQuote quote = true)
    (quoted : Quoted quote text) (ends : Ends quote ending rest) :
    Fits (.literal quote text ending) rest

/-- A literal with a line break in it or at its end. -/
def IsTorn : Lexeme → Prop
  | .literal _ text ending => '\n' ∈ text ++ ending
  | _ => False

end Lexeme

inductive Lexed : List Char → List Lexeme → Prop where
  | done : Lexed [] []
  | next {lexeme : Lexeme} {rest : List Char} {lexemes : List Lexeme} (fits : lexeme.Fits rest)
    (later : Lexed rest lexemes) : Lexed (lexeme.source ++ rest) (lexeme :: lexemes)

open Mark

/-! The scanner goes from lexeme to lexeme -/

theorem strip_plain {c : Char} {rest : List Char} (unquoted : isQuote c = false)
    (code : c = '/' → rest.head? ≠ some '/' ∧ rest.head? ≠ some '*') :
    stripFrom .code (c :: rest) = c :: stripFrom .code rest := by
  rw [stripFrom, unquoted, if_neg Bool.false_ne_true]
  · rintro behind rfl rfl
    exact (code rfl).1 rfl
  · rintro behind rfl rfl
    exact (code rfl).2 rfl

theorem strip_lineComment_end {text : List Char} (unbroken : '\n' ∉ text) :
    stripFrom .lineComment text = [] := by
  induction text with
  | nil => rfl
  | cons c rest ih =>
    rw [List.mem_cons, not_or] at unbroken
    simp [stripFrom, Ne.symm unbroken.1, ih unbroken.2]

theorem strip_blockComment {text : List Char} (unclosed : ¬ ['*', '/'] <:+: text)
    (after : List Char) (apart : after.head? ≠ some '/') :
    stripFrom .blockComment (text ++ after) =
      text.filter (· == '\n') ++ stripFrom .blockComment after := by
  induction text with
  | nil => rfl
  | cons c text ih =>
    have later := ih fun inside => unclosed (inside.trans (List.suffix_cons c text).isInfix)
    rw [List.cons_append, stripFrom, later, List.filter_cons]
    · split
      · rfl
      · rfl
    · -- The comment is not closed here: not within the text, and not by what comes behind it.
      rintro behind rfl next
      cases text with
      | nil => exact apart (by rw [List.nil_append] at next; rw [next]; rfl)
      | cons d text =>
        rw [List.cons_append, List.cons.injEq] at next
        rw [next.1] at unclosed
        exact unclosed (List.prefix_append ['*', '/'] text).isInfix

theorem strip_quoted {quote : Char} {text : List Char} (quoted : Quoted quote text)
    (after : List Char) :
    stripFrom (.literal quote) (text ++ after) = stripFrom (.literal quote) after := by
  induction quoted with
  | nothing => rfl
  | plain other direct unbroken _ ih =>
    simp [stripFrom, other, direct, unbroken, ih]
  | escaped c _ ih =>
    simp [stripFrom, ih]

theorem strip_ends {quote : Char} (quotes : isQuote quote = true) {ending rest : List Char}
    (ends : Ends quote ending rest) :
    stripFrom (.literal quote) (ending ++ rest) = stripFrom .code rest := by
  have direct : quote ≠ '\\' := by
    rintro rfl
    cases quotes
  cases ends with
  | marked => simp [stripFrom, direct]
  | broken => simp [stripFrom]
  | cut => rfl
  | escaping => simp [stripFrom]

theorem whole_dropped (text : List Char) : whole (text.map dropped) = text := by
  simp [whole, dropped, Function.comp_def]

theorem left_dropped (text : List Char) : left (text.map dropped) = [] := by
  simp [left, dropped]

theorem whole_breaks (text : List Char) :
    whole (text.map fun c => if c = '\n' then kept c else dropped c) = text := by
  induction text with
  | nil => rfl
  | cons c text ih =>
    by_cases newline : c = '\n'
    · simpa [whole, kept, newline] using ih
    · simpa [whole, dropped, newline] using ih

theorem left_breaks (text : List Char) :
    left (text.map fun c => if c = '\n' then kept c else dropped c) =
      text.filter (· == '\n') := by
  induction text with
  | nil => rfl
  | cons c text ih =>
    by_cases newline : c = '\n'
    · simpa [left, kept, newline] using ih
    · simpa [left, dropped, newline] using ih

theorem whole_marks (lexeme : Lexeme) : whole lexeme.marks = lexeme.source := by
  cases lexeme with
  | plain c => rfl
  | lineComment text => exact whole_dropped ('/' :: '/' :: text)
  | blockComment text ending => exact whole_breaks ('/' :: '*' :: (text ++ ending))
  | literal quote text ending => exact congrArg (quote :: ·) (whole_dropped (text ++ ending))

theorem strip_lexeme {lexeme : Lexeme} {rest : List Char} (fits : lexeme.Fits rest) :
    stripFrom .code (lexeme.source ++ rest) = left lexeme.marks ++ stripFrom .code rest := by
  cases fits with
  | plain unquoted code => exact strip_plain unquoted code
  | @lineComment text _ unbroken ends =>
    rw [Lexeme.source, Lexeme.marks, left_dropped]
    rcases ends with rfl | next
    · rw [List.append_nil, stripFrom]
      exact strip_lineComment_end unbroken
    · -- The break behind the comment is no part of it and is left as code.
      obtain ⟨behind, rfl⟩ := List.head?_eq_some_iff.mp next
      have newline : stripFrom .code ('\n' :: behind) = '\n' :: stripFrom .code behind :=
        strip_plain rfl fun slash => absurd slash (by decide)
      rw [List.cons_append, List.cons_append, stripFrom, strip_lineComment text behind unbroken,
        newline]
      rfl
  | @blockComment text _ unclosed =>
    have inside := strip_blockComment unclosed ('*' :: '/' :: rest) (by simp)
    rw [Lexeme.source, Lexeme.marks, left_breaks]
    simp [stripFrom, inside]
  | openComment unclosed =>
    have inside := strip_blockComment unclosed [] (by simp)
    rw [Lexeme.source, Lexeme.marks, left_breaks]
    simp [stripFrom] at inside ⊢
    exact inside
  | @literal quote text ending _ quotes quoted ends =>
    have inside := (strip_quoted quoted (ending ++ rest)).trans (strip_ends quotes ends)
    -- The quote opens the literal and becomes a blank; all up to its end is dropped.
    have opening : stripFrom .code (quote :: (text ++ (ending ++ rest))) =
        ' ' :: stripFrom (.literal quote) (text ++ (ending ++ rest)) := by
      rw [stripFrom, if_pos quotes]
      · rintro behind rfl
        cases quotes
      · rintro behind rfl
        cases quotes
    have shown : left (Lexeme.literal quote text ending).marks = [' '] :=
      congrArg (' ' :: ·) (left_dropped (text ++ ending))
    rw [Lexeme.source, shown, List.cons_append, List.append_assoc, opening, inside]
    rfl

theorem Lexed.stripped {text : List Char} {lexemes : List Lexeme} (lexed : Lexed text lexemes) :
    whole (lexemes.flatMap Lexeme.marks) = text ∧
      left (lexemes.flatMap Lexeme.marks) = stripFrom .code text := by
  induction lexed with
  | done => exact ⟨rfl, rfl⟩
  | next fits _ ih =>
    rw [List.flatMap_cons, whole_append, left_append, whole_marks, ih.1, ih.2, strip_lexeme fits]
    exact ⟨rfl, rfl⟩

/-! Every text has lexemes -/

/-- A text that goes on, behind an opening mark, with a literal and its end. -/
def EndsLiteral (quote : Char) (text : List Char) : Prop :=
  ∃ quoted ending rest, text = quoted ++ (ending ++ rest) ∧ Quoted quote quoted ∧
    Ends quote ending rest

theorem EndsLiteral.cons {quote c : Char} {text : List Char} (direct : c ≠ '\\')
    (later : EndsLiteral quote text) : EndsLiteral quote (c :: text) := by
  by_cases marked : c = quote
  · rw [marked]
    exact ⟨[], [quote], text, rfl, .nothing, .marked text⟩
  · by_cases broken : c = '\n'
    · rw [broken]
      exact ⟨[], ['\n'], text, rfl, .nothing, .broken text⟩
    · obtain ⟨quoted, ending, rest, rfl, within, ends⟩ := later
      exact ⟨c :: quoted, ending, rest, rfl, .plain marked direct broken within, ends⟩

theorem endsLiteral (quote : Char) (text : List Char) : EndsLiteral quote text := by
  have none : EndsLiteral quote [] := ⟨[], [], [], rfl, .nothing, .cut⟩
  -- A backslash takes the next character along, so two of them are read at once.
  induction text using List.twoStepInduction with
  | nil => exact none
  | singleton c =>
    by_cases escape : c = '\\'
    · rw [escape]
      exact ⟨[], ['\\'], [], rfl, .nothing, .escaping⟩
    · exact none.cons escape
  | cons_cons c escaped text ih next =>
    by_cases escape : c = '\\'
    · obtain ⟨quoted, ending, rest, rfl, within, ends⟩ := ih
      rw [escape]
      exact ⟨'\\' :: escaped :: quoted, ending, rest, rfl, .escaped escaped within, ends⟩
    · exact (next escaped).cons escape

theorem exists_blockComment (text : List Char) : ∃ comment ending rest,
    text = comment ++ (ending ++ rest) ∧ ¬ ['*', '/'] <:+: comment ∧
      (ending = ['*', '/'] ∨ ending = [] ∧ rest = []) := by
  induction text with
  | nil => exact ⟨[], [], [], rfl, by simp, .inr ⟨rfl, rfl⟩⟩
  | cons c text ih =>
    by_cases closing : c = '*' ∧ text.head? = some '/'
    · obtain ⟨rfl, next⟩ := closing
      obtain ⟨rest, rfl⟩ := List.head?_eq_some_iff.mp next
      exact ⟨[], ['*', '/'], rest, rfl, by simp, .inl rfl⟩
    · obtain ⟨comment, ending, rest, rfl, unclosed, ends⟩ := ih
      refine ⟨c :: comment, ending, rest, rfl, ?_, ends⟩
      rw [List.infix_cons_iff, not_or]
      refine ⟨?_, unclosed⟩
      intro first
      obtain ⟨star, slash⟩ := List.cons_prefix_cons.mp first
      apply closing
      rw [star]
      obtain ⟨others, rfl⟩ := slash
      exact ⟨rfl, rfl⟩

theorem exists_lineComment (text : List Char) : ∃ comment rest,
    text = comment ++ rest ∧ '\n' ∉ comment ∧ (rest = [] ∨ rest.head? = some '\n') := by
  induction text with
  | nil => exact ⟨[], [], rfl, List.not_mem_nil, .inl rfl⟩
  | cons c text ih =>
    by_cases broken : c = '\n'
    · rw [broken]
      exact ⟨[], '\n' :: text, rfl, List.not_mem_nil, .inr rfl⟩
    · obtain ⟨comment, rest, rfl, unbroken, ends⟩ := ih
      refine ⟨c :: comment, rest, rfl, ?_, ends⟩
      rw [List.mem_cons, not_or]
      exact ⟨Ne.symm broken, unbroken⟩

theorem exists_lexeme (c : Char) (behind : List Char) : ∃ (lexeme : Lexeme) (rest : List Char),
    c :: behind = lexeme.source ++ rest ∧ lexeme.Fits rest ∧ rest.length ≤ behind.length := by
  by_cases quotes : isQuote c = true
  · obtain ⟨text, ending, rest, rfl, quoted, ends⟩ := endsLiteral c behind
    refine ⟨.literal c text ending, rest, ?_, .literal quotes quoted ends, ?_⟩
    · rw [Lexeme.source, List.cons_append, List.append_assoc]
    · simp only [List.length_append]
      omega
  · by_cases line : c = '/' ∧ behind.head? = some '/'
    · obtain ⟨rfl, next⟩ := line
      obtain ⟨text, rfl⟩ := List.head?_eq_some_iff.mp next
      obtain ⟨comment, rest, rfl, unbroken, ends⟩ := exists_lineComment text
      refine ⟨.lineComment comment, rest, rfl, .lineComment unbroken ends, ?_⟩
      simp only [List.length_cons, List.length_append]
      omega
    · by_cases block : c = '/' ∧ behind.head? = some '*'
      · obtain ⟨rfl, next⟩ := block
        obtain ⟨text, rfl⟩ := List.head?_eq_some_iff.mp next
        obtain ⟨comment, ending, rest, rfl, unclosed, ends⟩ := exists_blockComment text
        refine ⟨.blockComment comment ending, rest, ?_, ?_, ?_⟩
        · rw [Lexeme.source, List.cons_append, List.cons_append, List.append_assoc]
        · rcases ends with rfl | ⟨rfl, rfl⟩
          · exact .blockComment unclosed
          · exact .openComment unclosed
        · simp only [List.length_cons, List.length_append]
          omega
      · refine ⟨.plain c, behind, rfl, .plain (by simpa using quotes) ?_, Nat.le_refl _⟩
        exact fun slash => ⟨fun next => line ⟨slash, next⟩, fun next => block ⟨slash, next⟩⟩

theorem exists_lexed (text : List Char) : ∃ lexemes, Lexed text lexemes := by
  -- A lexeme may take any number of characters, so the induction is on the length of the text.
  induction size : text.length using Nat.strong_induction_on generalizing text with
  | _ size ih =>
    cases text with
    | nil => exact ⟨[], .done⟩
    | cons c behind =>
      obtain ⟨lexeme, rest, same, fits, shorter⟩ := exists_lexeme c behind
      obtain ⟨lexemes, later⟩ := ih rest.length (size ▸ Nat.lt_succ_of_le shorter) rest rfl
      exact ⟨lexeme :: lexemes, same ▸ .next fits later⟩

end ProxyHeaders.Check
