import ProxyHeaders.Check.Balance
import ProxyHeaders.Template.Literal

/-!
What reading a text does to the brackets that are open, and when the balance check is silent.
Brackets are judged on a header without its comments and literals, so the readings of pieces are
put together behind the scanner that removes those.
-/
namespace ProxyHeaders.Check

/-- The brackets open after a text; none if a closing one does not fit. -/
def nest : List Char → List Char → Option (List Char)
  | opened, [] => some opened
  | opened, c :: rest =>
    if isOpener c then nest (c :: opened) rest
    else match openerOf c, opened with
      | none, opened => nest opened rest
      | some _, [] => none
      | some opener, top :: below => if top == opener then nest below rest else none

-- The three readers, opened by their equations from the character that is next.
attribute [local simp] nest balanceFrom leftOpen stripFrom

theorem nest_append (opened first second : List Char) :
    nest opened (first ++ second) = (nest opened first).bind fun after => nest after second := by
  induction first generalizing opened with
  | nil => rfl
  | cons c rest inner =>
    by_cases opening : isOpener c
    · simp [opening, inner]
    · cases closing : openerOf c with
      | none => simp [opening, closing, inner]
      | some opener =>
        cases opened with
        | nil => simp [opening, closing]
        | cons top below =>
          by_cases fits : top == opener
          · simp [opening, closing, fits, inner]
          · simp [opening, closing, fits]

theorem nest_under (opened after text outer : List Char) (read : nest opened text = some after) :
    nest (opened ++ outer) text = some (after ++ outer) := by
  induction text generalizing opened with
  | nil =>
    have same : opened = after := by simpa using read
    rw [same, nest]
  | cons c rest inner =>
    by_cases opening : isOpener c
    · simp only [nest, opening, if_true] at read ⊢
      exact inner (c :: opened) read
    · cases closing : openerOf c with
      | none =>
        simp only [nest, opening, closing] at read ⊢
        exact inner opened read
      | some opener =>
        cases opened with
        | nil => simp [opening, closing] at read
        | cons top below =>
          by_cases fits : top == opener
          · simp only [nest, opening, closing, fits, if_true, List.cons_append] at read ⊢
            exact inner below read
          · simp [opening, closing, fits] at read

/-- The check has nothing to say exactly when every bracket finds its partner. -/
theorem balanceFrom_empty (line : Nat) (stack : List Open) (text : List Char) :
    balanceFrom line stack text = [] ↔ nest (stack.map (·.1)) text = some [] := by
  -- The line numbers only serve the messages, so the induction is for every one of them.
  induction text generalizing line stack with
  | nil => simp
  | cons c rest inner =>
    by_cases newline : c = '\n'
    · subst newline
      have plain : nest (stack.map (·.1)) ('\n' :: rest) = nest (stack.map (·.1)) rest := rfl
      rw [plain, ← inner (line + 1) stack]
      simp
    · by_cases opening : isOpener c
      · simp [newline, opening, inner]
      · cases closing : openerOf c with
        | none => simp [newline, opening, closing, inner]
        | some opener =>
          cases stack with
          | nil => simp [newline, opening, closing]
          | cons top below =>
            obtain ⟨bracket, opened⟩ := top
            by_cases fits : bracket == opener
            · simp [newline, opening, closing, fits, inner]
            · simp [newline, opening, closing, fits]

/-! Reading a piece of code -/

/-- Reading `text` as code leaves the scanner in code and takes the open brackets from `before` to
`after`. -/
def Passes (before : List Char) (text : String) (after : List Char) : Prop :=
  '\n' ∉ text.toList ∧
  ∃ kept, (∀ rest, stripFrom .code (text.toList ++ rest) = kept ++ stripFrom .code rest) ∧
    nest before kept = some after

namespace Passes

theorem append {before middle after : List Char} {first second : String}
    (start : Passes before first middle) (finish : Passes middle second after) :
    Passes before (first ++ second) after := by
  obtain ⟨firstUnbroken, firstKept, firstRead, firstNest⟩ := start
  obtain ⟨secondUnbroken, secondKept, secondRead, secondNest⟩ := finish
  refine ⟨by simp [firstUnbroken, secondUnbroken], firstKept ++ secondKept, ?_, ?_⟩
  · intro rest
    rw [String.toList_append, List.append_assoc, firstRead, secondRead, List.append_assoc]
  · rw [nest_append, firstNest]
    exact secondNest

theorem under {before after : List Char} {text : String} (outer : List Char)
    (passes : Passes before text after) : Passes (before ++ outer) text (after ++ outer) := by
  obtain ⟨unbroken, kept, read, nested⟩ := passes
  exact ⟨unbroken, kept, read, nest_under before after kept outer nested⟩

end Passes

/-- A character that the scanner copies when it is in code, whatever follows. -/
def isCopied (c : Char) : Bool := c != '/' && !isQuote c && c != '\n'

theorem strip_copied (text rest : List Char) (copied : ∀ c ∈ text, isCopied c) :
    stripFrom .code (text ++ rest) = text ++ stripFrom .code rest := by
  induction text with
  | nil => rfl
  | cons c text inner =>
    have first : isCopied c := copied c (by simp)
    simp only [isCopied, Bool.and_eq_true, bne_iff_ne, ne_eq, Bool.not_eq_true'] at first
    obtain ⟨⟨notSlash, notQuote⟩, -⟩ := first
    have later := inner fun other member => copied other (by simp [member])
    simp [notSlash, notQuote, later]

theorem passes_copied {before after : List Char} {text : String}
    (copied : ∀ c ∈ text.toList, isCopied c) (nested : nest before text.toList = some after) :
    Passes before text after := by
  refine ⟨?_, text.toList, ?_, nested⟩
  · intro member
    have := copied _ member
    simp [isCopied] at this
  · intro rest
    exact strip_copied text.toList rest copied

/-- A text that may stand anywhere between brackets. -/
def Balanced (text : String) : Prop := ∀ opened, Passes opened text opened

theorem balanced_of_empty {text : String} (passes : Passes [] text []) : Balanced text :=
  fun opened => by simpa using passes.under opened

/-- A character that means nothing to the scanner and is no bracket. -/
def isNeutral (c : Char) : Bool := isCopied c && !isOpener c && (openerOf c).isNone

/-- A text that is code without any bracket, comment or literal. -/
def Neutral (text : String) : Prop := ∀ c ∈ text.toList, isNeutral c

instance (text : String) : Decidable (Neutral text) :=
  decidable_of_iff (text.toList.all isNeutral) (by simp [Neutral])

theorem nest_neutral (opened text : List Char) (neutral : ∀ c ∈ text, isNeutral c) :
    nest opened text = some opened := by
  induction text with
  | nil => rfl
  | cons c text inner =>
    have first : isNeutral c := neutral c (by simp)
    simp only [isNeutral, Bool.and_eq_true, Bool.not_eq_true', Option.isNone_iff_eq_none] at first
    obtain ⟨⟨-, notOpening⟩, notClosing⟩ := first
    have later := inner fun other member => neutral other (by simp [member])
    simp [notOpening, notClosing, later]

namespace Neutral

theorem balanced {text : String} (neutral : Neutral text) : Balanced text := by
  intro opened
  refine passes_copied ?_ (nest_neutral opened text.toList neutral)
  intro c member
  have := neutral c member
  simp only [isNeutral, Bool.and_eq_true] at this
  exact this.1.1

theorem append {first second : String} (start : Neutral first) (finish : Neutral second) :
    Neutral (first ++ second) := by
  intro c member
  rcases List.mem_append.mp (by simpa using member) with early | late
  · exact start c early
  · exact finish c late

theorem empty : Neutral "" := by simp [Neutral]

end Neutral

/-! Literals and comments -/

/-- A text that a literal in quotation marks may hold as it stands. -/
def Enclosed (text : List Char) : Prop :=
  ∀ rest, stripFrom (.literal '"') (text ++ rest) = stripFrom (.literal '"') rest

theorem enclosed_append {first second : List Char} (start : Enclosed first)
    (finish : Enclosed second) : Enclosed (first ++ second) := by
  intro rest
  rw [List.append_assoc, start, finish]

theorem enclosed_plain (text : List Char)
    (plain : ∀ c ∈ text, c ≠ '"' ∧ c ≠ '\\' ∧ c ≠ '\n') : Enclosed text := by
  induction text with
  | nil => exact fun _ => rfl
  | cons c text inner =>
    intro rest
    obtain ⟨notQuote, notBackslash, notNewline⟩ := plain c (by simp)
    have later := inner (fun other member => plain other (by simp [member])) rest
    simp [notQuote, notBackslash, notNewline, later]

theorem enclosed_escapeChar (c : Char) : Enclosed (Template.escapeChar c) := by
  intro rest
  by_cases backslash : c = '\\'
  · subst backslash
    simp [Template.escapeChar]
  · by_cases quote : c = '"'
    · subst quote
      simp [Template.escapeChar]
    · by_cases newline : c = '\n'
      · subst newline
        simp [Template.escapeChar]
      · have alone : Template.escapeChar c = [c] := by
          simp [Template.escapeChar, backslash, quote, newline]
        rw [alone]
        exact enclosed_plain [c] (by simp [backslash, quote, newline]) rest

theorem enclosed_escaped (text : List Char) : Enclosed (text.flatMap Template.escapeChar) := by
  induction text with
  | nil => exact fun _ => rfl
  | cons c text inner => exact enclosed_append (enclosed_escapeChar c) inner

theorem escaped_unbroken (text : List Char) : '\n' ∉ text.flatMap Template.escapeChar := by
  intro member
  obtain ⟨c, -, found⟩ := List.mem_flatMap.mp member
  by_cases newline : c = '\n'
  · subst newline
    simp [Template.escapeChar] at found
  · grind [Template.escapeChar]

theorem balanced_literal {text : String} (unbroken : '\n' ∉ text.toList)
    (enclosed : Enclosed text.toList) : Balanced ("\"" ++ text ++ "\"") := by
  intro opened
  -- The scanner leaves one blank of a literal.
  refine ⟨by simp [unbroken], [' '], ?_, rfl⟩
  intro rest
  have inside := enclosed ('"' :: rest)
  simp [isQuote, inside]

theorem balanced_quoted (name : String) :
    Balanced ("\"" ++ Template.escapeLiteral name ++ "\"") := by
  refine balanced_literal ?_ ?_
  · simpa [Template.escapeLiteral] using escaped_unbroken name.toList
  · simpa [Template.escapeLiteral] using enclosed_escaped name.toList

theorem strip_lineComment (text rest : List Char) (unbroken : '\n' ∉ text) :
    stripFrom .lineComment (text ++ '\n' :: rest) = '\n' :: stripFrom .code rest := by
  induction text with
  | nil => simp
  | cons c text inner =>
    have notNewline : c ≠ '\n' := fun same => unbroken (by simp [same])
    have later := inner fun member => unbroken (by simp [member])
    simp [notNewline, later]

end ProxyHeaders.Check
