import ProxyHeaders.Proofs.Check.Lexemes
import ProxyHeaders.Proofs.Check.WellNested

/-!
The lines of a header and of what is left of it. All line breaks are left but those that a literal
holds or ends with. So the lines that the check tells are those of the header up to the first such
literal, and behind it they are too small by the number of these breaks.
-/
namespace ProxyHeaders.Check

open Mark

/-- What is shown is the character itself, or a blank for a quotation mark. -/
def Mark.IsFair (mark : Mark) : Prop :=
  ∀ shown, mark.2 = some shown → shown = mark.1 ∨ isQuote mark.1 = true ∧ shown = ' '

theorem kept_fair (c : Char) : (kept c).IsFair := by
  intro shown same
  exact .inl (Option.some_inj.mp same).symm

theorem dropped_fair (c : Char) : (dropped c).IsFair := by
  intro shown same
  cases same

theorem marks_fair {lexeme : Lexeme} {rest : List Char} (fits : lexeme.Fits rest) :
    ∀ mark ∈ lexeme.marks, mark.IsFair := by
  intro mark member
  cases lexeme with
  | plain c =>
    rw [List.mem_singleton.mp member]
    exact kept_fair c
  | lineComment text =>
    obtain ⟨c, -, rfl⟩ := List.mem_map.mp member
    exact dropped_fair c
  | blockComment text ending =>
    obtain ⟨c, -, rfl⟩ := List.mem_map.mp member
    split
    · exact kept_fair c
    · exact dropped_fair c
  | literal quote text ending =>
    rcases List.mem_cons.mp member with rfl | member
    · cases fits with
      | literal quotes => exact fun shown same => .inr ⟨quotes, (Option.some_inj.mp same).symm⟩
    · obtain ⟨c, -, rfl⟩ := List.mem_map.mp member
      exact dropped_fair c

theorem lost_iff {lexeme : Lexeme} {rest : List Char} (fits : lexeme.Fits rest) :
    ('\n', none) ∈ lexeme.marks ↔ lexeme.IsTorn := by
  cases lexeme with
  | plain c => simp [Lexeme.marks, Lexeme.IsTorn, kept]
  | lineComment text =>
    cases fits with
    | lineComment unbroken => simp [Lexeme.marks, Lexeme.IsTorn, dropped, unbroken]
  | blockComment text ending =>
    simp only [Lexeme.marks, Lexeme.IsTorn, iff_false, List.mem_map, not_exists, not_and]
    intro c _
    split
    · simp [kept]
    · next other => simp [dropped, other]
  | literal quote text ending => simp [Lexeme.marks, Lexeme.IsTorn, dropped]

theorem Lexed.fits {text : List Char} {lexemes : List Lexeme} (lexed : Lexed text lexemes) :
    ∀ lexeme ∈ lexemes, ∃ rest, lexeme.Fits rest := by
  induction lexed with
  | done => exact List.forall_mem_nil _
  | next fits _ ih => exact List.forall_mem_cons.mpr ⟨⟨_, fits⟩, ih⟩

theorem Lexed.fair {text : List Char} {lexemes : List Lexeme} (lexed : Lexed text lexemes) :
    ∀ mark ∈ lexemes.flatMap Lexeme.marks, mark.IsFair := by
  intro mark member
  obtain ⟨lexeme, listed, inside⟩ := List.mem_flatMap.mp member
  obtain ⟨rest, fits⟩ := lexed.fits lexeme listed
  exact marks_fair fits mark inside

theorem Lexed.lost_iff {text : List Char} {lexemes : List Lexeme} (lexed : Lexed text lexemes) :
    lostBreaks (lexemes.flatMap Lexeme.marks) = 0 ↔ ∀ lexeme ∈ lexemes, ¬ lexeme.IsTorn := by
  rw [lostBreaks, List.count_eq_zero, List.mem_flatMap, not_exists]
  apply forall_congr'
  intro lexeme
  rw [not_and]
  apply forall_congr'
  intro listed
  obtain ⟨rest, fits⟩ := lexed.fits lexeme listed
  rw [Check.lost_iff fits]

theorem breaks_left {marks : List Mark} (fair : ∀ mark ∈ marks, mark.IsFair) :
    (whole marks).count '\n' = (left marks).count '\n' + lostBreaks marks := by
  induction marks with
  | nil => rfl
  | cons mark marks ih =>
    obtain ⟨first, others⟩ := List.forall_mem_cons.mp fair
    have later := ih others
    obtain ⟨c, shown⟩ := mark
    cases shown with
    | none =>
      change (c :: whole marks).count '\n' =
        (left marks).count '\n' + lostBreaks (dropped c :: marks)
      rw [lostBreaks, List.count_cons, List.count_cons, later, lostBreaks]
      simp [dropped, Nat.add_assoc]
    | some shown =>
      have same : (shown == '\n') = (c == '\n') := by
        rcases first shown rfl with rfl | ⟨quotes, rfl⟩
        · rfl
        · have other : c ≠ '\n' := by
            rintro rfl
            cases quotes
          exact (beq_false_of_ne other).symm
      have counted : lostBreaks ((c, some shown) :: marks) = lostBreaks marks := by
        simp [lostBreaks]
      change (c :: whole marks).count '\n' = (shown :: left marks).count '\n' + _
      rw [List.count_cons, List.count_cons, same, later, counted, Nat.add_right_comm]

/-- So a place in the header is as many lines below the place of what is left as breaks are lost in
front of it. -/
theorem lineAt_left {before : List Mark} (fair : ∀ mark ∈ before, mark.IsFair) (after : List Mark) :
    lineAt (whole (before ++ after)) before.length =
      lineAt (left (before ++ after)) (left before).length + lostBreaks before := by
  have size : (whole before).length = before.length := List.length_map _
  rw [whole_append, left_append, ← size, lineAt_front, lineAt_front, breaks_left fair,
    Nat.add_right_comm]

theorem left_split {marks : List Mark} {front behind : List Char} {shown : Char}
    (split : left marks = front ++ shown :: behind) :
    ∃ before c after, marks = before ++ (c, some shown) :: after ∧ left before = front := by
  obtain ⟨first, second, rfl, rfl, rest⟩ := List.filterMap_eq_append_iff.mp split
  obtain ⟨hidden, ⟨c, _⟩, after, rfl, gone, rfl, -⟩ := List.filterMap_eq_cons_iff.mp rest
  refine ⟨first ++ hidden, c, after, by rw [List.append_assoc], ?_⟩
  rw [left_append, left, left, List.filterMap_eq_nil_iff.mpr gone, List.append_nil]

/-- What the check makes of a header, mark by mark. -/
structure Marked (header : String) (marks : List Mark) : Prop where
  whole : whole marks = header.toList
  left : left marks = (strip header).toList
  fair : ∀ mark ∈ marks, mark.IsFair

namespace Marked

variable {header : String} {marks : List Mark}

theorem breaks (marked : Marked header marks) :
    header.toList.count '\n' = (strip header).toList.count '\n' + lostBreaks marks := by
  rw [← marked.whole, ← marked.left]
  exact breaks_left marked.fair

theorem line (marked : Marked header marks) {before after : List Mark}
    (split : marks = before ++ after) :
    lineAt header.toList before.length =
      lineAt (strip header).toList (Mark.left before).length + lostBreaks before := by
  rw [← marked.whole, ← marked.left, split]
  apply lineAt_left
  intro mark member
  apply marked.fair
  rw [split]
  exact List.mem_append_left after member

/-- Problems are about brackets that the header has, and their lines are short of the breaks that
are lost in front of them. -/
theorem problem (marked : Marked header marks) {problem : Unbalanced}
    (told : problem ∈ balance header) :
    ∃ before after, marks = before ++ kept problem.bracket :: after ∧
      lineAt header.toList before.length = problem.line + lostBreaks before := by
  obtain ⟨places, placed⟩ := balance_placed header
  obtain ⟨place, -, here, said, fitting⟩ := forall₂_source placed.tells.flip problem told
  obtain ⟨inside, found⟩ := List.getElem?_eq_some_iff.mp here
  have cut : Mark.left marks = (strip header).toList.take place ++
      problem.bracket :: (strip header).toList.drop (place + 1) := by
    rw [marked.left, ← found, List.getElem_cons_drop, List.take_append_drop]
  obtain ⟨before, c, after, split, front⟩ := left_split cut
  have size : (Mark.left before).length = place := by
    rw [front, List.length_take, Nat.min_eq_left (Nat.le_of_lt inside)]
  have same : problem.bracket = c := by
    have member : (c, some problem.bracket) ∈ marks := by
      rw [split]
      exact List.mem_append_right before List.mem_cons_self
    -- A bracket is not the blank that a literal leaves, so it is a character of the header.
    rcases marked.fair _ member _ rfl with same | ⟨-, blank⟩
    · exact same
    · exact absurd blank (fitting.ne rfl)
  refine ⟨before, after, ?_, ?_⟩
  · rw [split, kept, ← same]
  · rw [marked.line split, size, said]

end Marked

/-- Every line that is counted in what is left of a header is short of the breaks that are lost in
front, for the whole of it, at every place and for every problem. -/
structure Accounted (header : String) (marks : List Mark) : Prop extends Marked header marks where
  breaks : header.toList.count '\n' = (strip header).toList.count '\n' + lostBreaks marks
  lines : ∀ before after, marks = before ++ after → lineAt header.toList before.length =
    lineAt (strip header).toList (Mark.left before).length + lostBreaks before
  problems : ∀ problem ∈ balance header, ∃ before after,
    marks = before ++ kept problem.bracket :: after ∧
      lineAt header.toList before.length = problem.line + lostBreaks before

namespace Lexed

variable {header : String} {lexemes : List Lexeme}

theorem accounted (lexed : Lexed header.toList lexemes) :
    Accounted header (lexemes.flatMap Lexeme.marks) := by
  obtain ⟨all, shown⟩ := lexed.stripped
  have marked : Marked header (lexemes.flatMap Lexeme.marks) :=
    ⟨all, by rw [shown, strip, String.toList_ofList], lexed.fair⟩
  exact ⟨marked, marked.breaks, fun _ _ split => marked.line split,
    fun _ told => marked.problem told⟩

theorem nothing_lost (lexed : Lexed header.toList lexemes)
    (intact : ∀ lexeme ∈ lexemes, ¬ lexeme.IsTorn) {before after : List Mark}
    (split : lexemes.flatMap Lexeme.marks = before ++ after) : lostBreaks before = 0 := by
  have all := lexed.lost_iff.mpr intact
  rw [split, lostBreaks, List.count_append] at all
  exact Nat.eq_zero_of_add_eq_zero_right all

theorem same_line (lexed : Lexed header.toList lexemes)
    (intact : ∀ lexeme ∈ lexemes, ¬ lexeme.IsTorn) {before after : List Mark}
    (split : lexemes.flatMap Lexeme.marks = before ++ after) :
    lineAt (strip header).toList (Mark.left before).length =
      lineAt header.toList before.length := by
  rw [lexed.accounted.lines before after split, lexed.nothing_lost intact split, Nat.add_zero]

theorem tells (lexed : Lexed header.toList lexemes) (intact : ∀ lexeme ∈ lexemes, ¬ lexeme.IsTorn)
    {problem : Unbalanced} (told : problem ∈ balance header) :
    ∃ place, Tells header.toList problem place := by
  obtain ⟨before, after, split, line⟩ := lexed.accounted.problems problem told
  obtain ⟨places, placed⟩ := balance_placed header
  obtain ⟨_, -, there⟩ := forall₂_source placed.tells.flip problem told
  refine ⟨before.length, ?_, ?_, there.fitting⟩
  · rw [← lexed.accounted.whole, split]
    simp [Mark.whole, kept]
  · rw [line, lexed.nothing_lost intact split, Nat.add_zero]

end Lexed

/-- A header can be read as lexemes in front of each other. Stripping loses the line breaks of its
torn literals and no others, and all that is left is as many lines too high as were lost in front.
So the number of lines stays exactly if no literal is torn, and then every place stays in its line
and the check tells the lines of the header. -/
theorem stripped_lines (header : String) :
    (∃ lexemes, Lexed header.toList lexemes) ∧
    ∀ lexemes, Lexed header.toList lexemes →
      Accounted header (lexemes.flatMap Lexeme.marks) ∧
      ((strip header).toList.count '\n' = header.toList.count '\n' ↔
        ∀ lexeme ∈ lexemes, ¬ lexeme.IsTorn) ∧
      ((∀ lexeme ∈ lexemes, ¬ lexeme.IsTorn) →
        (∀ before after, lexemes.flatMap Lexeme.marks = before ++ after →
          lineAt (strip header).toList (left before).length = lineAt header.toList before.length) ∧
        ∀ problem ∈ balance header, ∃ place, Tells header.toList problem place) := by
  refine ⟨exists_lexed header.toList, ?_⟩
  intro lexemes lexed
  refine ⟨lexed.accounted, ?_, ?_⟩
  · rw [← lexed.lost_iff, lexed.accounted.breaks]
    exact Nat.left_eq_add
  · intro intact
    exact ⟨fun _ _ split => lexed.same_line intact split, fun _ told => lexed.tells intact told⟩

/-- An apostrophe without a partner takes the end of its line along. -/
theorem apostrophe_takes_break :
    Lexed "'\n\x7d".toList [.literal '\'' [] ['\n'], .plain '\x7d'] ∧
    balance "'\n\x7d" = [.unmatched '\x7d' 1] ∧ lineAt "'\n\x7d".toList 2 = 2 ∧
    (strip "'\n\x7d").toList.count '\n' ≠ "'\n\x7d".toList.count '\n' := by
  have lexed : Lexed "'\n\x7d".toList [.literal '\'' [] ['\n'], .plain '\x7d'] :=
    .next (.literal rfl .nothing (.broken ['\x7d']))
      (.next (.plain rfl fun slash => absurd slash (by decide)) .done)
  refine ⟨lexed, by decide, by decide, ?_⟩
  intro same
  exact ((stripped_lines "'\n\x7d").2 _ lexed).2.1.mp same _ List.mem_cons_self
    (List.mem_singleton_self '\n')

end ProxyHeaders.Check
