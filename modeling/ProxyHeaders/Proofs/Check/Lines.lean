import ProxyHeaders.Proofs.Check.Nesting
import ProxyHeaders.Proofs.Text.Lines

/-!
Reading headers line by line. A line is judged by what trimming leaves of it, since the normal form
trims every line, and empty lines do not count.
-/
namespace ProxyHeaders.Check

open ProxyHeaders.Text

/-- A line that, trimmed and with a break behind it, takes the open brackets from `before` to
`after` and leaves no comment or literal open. -/
def Turns (before : List Char) (line : String) (after : List Char) : Prop :=
  '\n' ∉ line.toList ∧
  ∃ kept,
    (∀ rest, stripFrom .code ((trimEnd line).toList ++ '\n' :: rest) =
      kept ++ '\n' :: stripFrom .code rest) ∧
    nest before kept = some after

/-- Lines that one after the other take the open brackets from the first list to the second. -/
inductive Spans : List Char → List String → List Char → Prop where
  | done (opened : List Char) : Spans opened [] opened
  | next {before middle after : List Char} {line : String} {rest : List String}
    (turn : Turns before line middle) (later : Spans middle rest after) :
    Spans before (line :: rest) after

theorem turns_empty (opened : List Char) : Turns opened "" opened :=
  ⟨by simp, [], fun rest => by simp [trimEnd_empty, stripFrom, isQuote], rfl⟩

theorem turns_code {before after : List Char} {line : String} {c : Char}
    (passes : Passes before line after) (last : line.toList.getLast? = some c)
    (solid : isBlank c = false) : Turns before line after := by
  obtain ⟨unbroken, kept, read, nested⟩ := passes
  refine ⟨unbroken, kept, ?_, nested⟩
  intro rest
  rw [trimEnd_solid last solid, read]
  simp [stripFrom, isQuote]

theorem turns_comment (opened : List Char) {text : String} (unbroken : '\n' ∉ text.toList) :
    Turns opened ("// " ++ text) opened := by
  -- Trimming may reach the blank behind the slashes but not the slashes.
  have slashes : dropEnd isBlank ("// " ++ text).toList =
      '/' :: '/' :: dropEnd isBlank (' ' :: text.toList) := by
    have cut : ("// " ++ text).toList = ['/', '/'] ++ ' ' :: text.toList := by simp
    rw [cut, dropEnd_append]
    by_cases gone : dropEnd isBlank (' ' :: text.toList) = []
    · rw [if_pos gone, gone]
      rfl
    · rw [if_neg gone]
      rfl
  have tailUnbroken : '\n' ∉ dropEnd isBlank (' ' :: text.toList) := by
    intro member
    simpa [unbroken] using mem_of_dropEnd member
  refine ⟨by simp [unbroken], [], ?_, rfl⟩
  intro rest
  rw [trimEnd, String.toList_ofList, slashes]
  exact strip_lineComment _ rest tailUnbroken

namespace Turns

theorem under {before after : List Char} {line : String} (outer : List Char)
    (turn : Turns before line after) : Turns (before ++ outer) line (after ++ outer) := by
  obtain ⟨unbroken, kept, read, nested⟩ := turn
  exact ⟨unbroken, kept, read, nest_under before after kept outer nested⟩

theorem trimmed {before after : List Char} {line : String} (turn : Turns before line after) :
    Turns before (trimEnd line) after := by
  obtain ⟨unbroken, kept, read, nested⟩ := turn
  refine ⟨trimEnd_unbroken unbroken, kept, ?_, nested⟩
  rw [trimEnd_twice]
  exact read

theorem same_of_empty {before after : List Char} {line : String} (turn : Turns before line after)
    (empty : trimEnd line = "") : before = after := by
  obtain ⟨-, kept, read, nested⟩ := turn
  have alone : ['\n'] = kept ++ ['\n'] := by simpa [empty, stripFrom, isQuote] using read []
  have nothing : kept = [] := by simpa using congrArg List.length alone
  simpa [nothing, nest] using nested

theorem behind {before after : List Char} {line margin : String} (turn : Turns before line after)
    (spaces : ∀ c ∈ margin.toList, c = ' ') : Turns before (margin ++ line) after := by
  have blank : ∀ c ∈ margin.toList, isBlank c := fun c member => by
    rw [spaces c member]
    decide
  have copied : ∀ c ∈ margin.toList, isCopied c := fun c member => by
    rw [spaces c member]
    decide
  have neutral : ∀ c ∈ margin.toList, isNeutral c := fun c member => by
    rw [spaces c member]
    decide
  have marginUnbroken : '\n' ∉ margin.toList := fun member => by
    simpa using spaces _ member
  -- Trimming takes the margin away together with a line that it empties.
  by_cases empty : trimEnd line = ""
  · have same := turn.same_of_empty empty
    refine ⟨by simp [marginUnbroken, turn.1], [], ?_, by rw [same, nest]⟩
    intro rest
    rw [trimEnd_margin blank, if_pos empty]
    simp [stripFrom, isQuote]
  · obtain ⟨unbroken, kept, read, nested⟩ := turn
    refine ⟨by simp [marginUnbroken, unbroken], margin.toList ++ kept, ?_, ?_⟩
    · intro rest
      rw [trimEnd_margin blank, if_neg empty, String.toList_append, List.append_assoc,
        strip_copied _ _ copied, read, List.append_assoc]
    · rw [nest_append, nest_neutral before _ neutral]
      exact nested

end Turns

namespace Spans

theorem one {before after : List Char} {line : String} (turn : Turns before line after) :
    Spans before [line] after := .next turn (.done after)

theorem append {before middle after : List Char} {first second : List String}
    (start : Spans before first middle) (finish : Spans middle second after) :
    Spans before (first ++ second) after := by
  induction start with
  | done => exact finish
  | next turn _ inner => exact .next turn (inner finish)

theorem under {before after : List Char} {lines : List String} (outer : List Char)
    (spans : Spans before lines after) : Spans (before ++ outer) lines (after ++ outer) := by
  induction spans with
  | done => exact .done _
  | next turn _ inner => exact .next (turn.under outer) inner

theorem trimmed {before after : List Char} {lines : List String}
    (spans : Spans before lines after) : Spans before (lines.map trimEnd) after := by
  induction spans with
  | done => exact .done _
  | next turn _ inner => exact .next turn.trimmed inner

theorem unbroken {before after : List Char} {lines : List String}
    (spans : Spans before lines after) : ∀ line ∈ lines, '\n' ∉ line.toList := by
  induction spans with
  | done => simp
  | next turn _ inner =>
    intro line member
    rcases List.mem_cons.mp member with rfl | member
    · exact turn.1
    · exact inner line member

theorem solid {before after : List Char} {lines : List String} :
    Spans before (solidOf lines) after ↔ Spans before lines after := by
  induction lines generalizing before with
  | nil => exact Iff.rfl
  | cons line rest inner =>
    by_cases empty : line.isEmpty
    · have gone : solidOf (line :: rest) = solidOf rest := by simp [solidOf, empty]
      have nothing : line = "" := by simpa using empty
      rw [gone, inner]
      constructor
      · intro later
        rw [nothing]
        exact .next (turns_empty before) later
      · intro spans
        cases spans with
        | next turn later =>
          have same := turn.same_of_empty (by rw [nothing, trimEnd_empty])
          rw [same]
          exact later
    · have kept : solidOf (line :: rest) = line :: solidOf rest := by simp [solidOf, empty]
      rw [kept]
      constructor
      · intro spans
        cases spans with
        | next turn later => exact .next turn (inner.mp later)
      · intro spans
        cases spans with
        | next turn later => exact .next turn (inner.mpr later)

theorem read {before after : List Char} {lines : List String} (spans : Spans before lines after)
    (neat : ∀ line ∈ lines, trimEnd line = line) :
    ∃ kept, stripFrom .code (lines.flatMap fun line => line.toList ++ ['\n']) = kept ∧
      nest before kept = some after := by
  induction spans with
  | done opened => exact ⟨[], by simp [stripFrom], rfl⟩
  | @next before middle after line rest turn _ inner =>
    obtain ⟨laterKept, laterRead, laterNested⟩ :=
      inner fun other member => neat other (by simp [member])
    obtain ⟨-, kept, read, nested⟩ := turn
    refine ⟨_, rfl, ?_⟩
    have first := read (rest.flatMap fun line => line.toList ++ ['\n'])
    rw [neat line (by simp), laterRead] at first
    rw [List.flatMap_cons, List.append_assoc, List.singleton_append, first, nest_append, nested]
    exact laterNested

end Spans

/-- Code whose lines open and close brackets in pairs has nothing unbalanced in its normal form. -/
theorem balance_format {code : String} (spans : Spans [] (splitLines code) []) :
    balance (Code.format code) = [] := by
  -- The normal form keeps the solid lines only, which is all that the brackets depend on.
  obtain ⟨body, written, solid⟩ := format_solid code
  have bodySpans : Spans [] (splitLines body) [] := by
    rw [← Spans.solid, ← solidLines, solid, Spans.solid]
    exact spans.trimmed
  have neat : ∀ line ∈ splitLines body, trimEnd line = line := by
    intro line member
    by_cases empty : line = ""
    · rw [empty, trimEnd_empty]
    · have kept : line ∈ solidLines body := by
        simp [solidLines, solidOf, member, empty]
      rw [solid] at kept
      obtain ⟨source, -, rfl⟩ := List.mem_map.mp (List.mem_filter.mp kept).1
      exact trimEnd_twice source
  obtain ⟨kept, read, nested⟩ := bodySpans.read neat
  rw [splitLines_written] at read
  rw [balance, strip, balanceFrom_empty, written]
  simpa [read] using nested

end ProxyHeaders.Check
