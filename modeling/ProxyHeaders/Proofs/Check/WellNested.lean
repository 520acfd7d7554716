import Mathlib.Data.List.Forall2
import Mathlib.Data.List.Nodup
import ProxyHeaders.Proofs.Check.Nesting
import ProxyHeaders.Proofs.Entries
import ProxyHeaders.Proofs.Text.Lines

/-!
The balance check against the grammar of well nested brackets. It is silent exactly on texts whose
brackets are such a word; otherwise every problem that it finds is about a bracket at a place of its
own, with the line of that place.
-/
namespace ProxyHeaders.Check

open ProxyHeaders.Text

/-! The grammar -/

/-- The brackets that belong together, the opening one first. -/
def bracketPairs : List (Char × Char) := [('\x7b', '\x7d'), ('(', ')'), ('[', ']')]

def isBracket (c : Char) : Bool := bracketPairs.any fun pair => c == pair.1 || c == pair.2

/-- Nothing, one word behind another, or a word between two brackets that belong together. -/
inductive WellNested : List Char → Prop where
  | nothing : WellNested []
  | behind {first second : List Char} (start : WellNested first) (finish : WellNested second) :
    WellNested (first ++ second)
  | between {opener closer : Char} {word : List Char} (pair : (opener, closer) ∈ bracketPairs)
    (inside : WellNested word) : WellNested (opener :: word ++ [closer])

/-- Words that close the given brackets, the innermost first, and open none that they do not
close. -/
inductive Closes : List Char → List Char → Prop where
  | last {word : List Char} (nested : WellNested word) : Closes [] word
  | next {opener closer : Char} {opened word rest : List Char} (nested : WellNested word)
    (pair : (opener, closer) ∈ bracketPairs) (later : Closes opened rest) :
    Closes (opener :: opened) (word ++ closer :: rest)

theorem pair_iff {opener closer : Char} :
    (opener, closer) ∈ bracketPairs ↔ openerOf closer = some opener := by
  constructor
  · intro pair
    simp only [bracketPairs, List.mem_cons, Prod.mk.injEq, List.not_mem_nil, or_false] at pair
    rcases pair with ⟨rfl, rfl⟩ | ⟨rfl, rfl⟩ | ⟨rfl, rfl⟩
    · rfl
    · rfl
    · rfl
  · intro closing
    unfold openerOf at closing
    split at closing
    · cases closing
      decide
    · cases closing
      decide
    · cases closing
      decide
    · cases closing

theorem pair_opens {opener closer : Char} (pair : (opener, closer) ∈ bracketPairs) :
    isOpener opener = true ∧ isOpener closer = false := by
  have all : ∀ pair ∈ bracketPairs, isOpener pair.1 = true ∧ isOpener pair.2 = false := by decide
  exact all (opener, closer) pair

theorem isBracket_eq (c : Char) : isBracket c = (isOpener c || (openerOf c).isSome) := by
  unfold openerOf
  split
  · rfl
  · rfl
  · rfl
  · next notBrace notRound notSquare =>
    simp [isBracket, bracketPairs, isOpener, beq_false_of_ne notBrace, beq_false_of_ne notRound,
      beq_false_of_ne notSquare, Bool.or_assoc]

theorem nest_brackets (opened text : List Char) :
    nest opened (text.filter isBracket) = nest opened text := by
  induction text generalizing opened with
  | nil => rfl
  | cons c rest ih =>
    rw [List.filter_cons, isBracket_eq]
    by_cases opening : isOpener c = true
    · simp only [opening, Bool.true_or, if_true, nest, ih]
    · cases closing : openerOf c with
      | none => simp [nest, opening, closing, ih]
      | some opener =>
        cases opened with
        | nil => simp [nest, opening, closing]
        | cons top below => simp [nest, opening, closing, ih]

namespace WellNested

theorem nests {word : List Char} (nested : WellNested word) : nest [] word = some [] := by
  induction nested with
  | nothing => rfl
  | behind _ _ first second =>
    rw [nest_append, first]
    exact second
  | @between opener closer word pair _ inside =>
    obtain ⟨opens, closes⟩ := pair_opens pair
    have within : nest [opener] word = some [opener] := nest_under [] [] word [opener] inside
    simp [nest, opens, closes, pair_iff.mp pair, nest_append, within]

end WellNested

namespace Closes

theorem behind {opened first second : List Char} (start : WellNested first)
    (finish : Closes opened second) : Closes opened (first ++ second) := by
  cases finish with
  | last nested => exact .last (start.behind nested)
  | next nested pair later =>
    rw [← List.append_assoc]
    exact .next (start.behind nested) pair later

theorem opening {opener : Char} {opened word : List Char}
    (closes : Closes (opener :: opened) word) : Closes opened (opener :: word) := by
  cases closes with
  | @next _ closer _ inside rest nested pair later =>
    have whole := behind (.between pair nested) later
    rwa [List.cons_append, List.cons_append, List.append_assoc, List.singleton_append] at whole

end Closes

theorem closes_of_nest {opened word : List Char} (brackets : ∀ c ∈ word, isBracket c)
    (read : nest opened word = some []) : Closes opened word := by
  induction word generalizing opened with
  | nil =>
    rw [nest, Option.some_inj] at read
    rw [read]
    exact .last .nothing
  | cons c rest ih =>
    have later {opened : List Char} := @ih opened fun other member =>
      brackets other (List.mem_cons_of_mem c member)
    by_cases opens : isOpener c = true
    · -- Its partner comes in what closes it behind, so the two enclose a word there.
      simp only [nest, opens, if_true] at read
      exact (later read).opening
    · have closing : (openerOf c).isSome := by
        have bracket := brackets c List.mem_cons_self
        simpa [isBracket_eq, opens] using bracket
      obtain ⟨opener, closing⟩ := Option.isSome_iff_exists.mp closing
      cases opened with
      | nil => simp [nest, opens, closing] at read
      | cons top below =>
        by_cases fits : top = opener
        · simp only [nest, opens, closing, fits, beq_self_eq_true, if_true] at read
          rw [fits]
          exact .next .nothing (pair_iff.mpr closing) (later read)
        · simp [nest, opens, closing, fits] at read

theorem nest_iff (text : List Char) :
    nest [] text = some [] ↔ WellNested (text.filter isBracket) := by
  rw [← nest_brackets]
  constructor
  · intro read
    have closes := closes_of_nest (fun c member => (List.mem_filter.mp member).2) read
    cases closes with
    | last nested => exact nested
  · exact WellNested.nests

/-! Problems and the places that they are about -/

/-- The line of a place in a text, counted from 1. -/
def lineAt (text : List Char) (place : Nat) : Nat := (text.take place).count '\n' + 1

/-- A closing bracket for one that is unmatched, an opening one for one that is unclosed. -/
def Unbalanced.IsFitting : Unbalanced → Prop
  | .unmatched bracket _ => ∃ opener, (opener, bracket) ∈ bracketPairs
  | .unclosed bracket _ => ∃ closer, (bracket, closer) ∈ bracketPairs

/-- A problem is about a bracket of its kind at the place, and says the place's line. -/
structure Tells (text : List Char) (problem : Unbalanced) (place : Nat) : Prop where
  bracket : text[place]? = some problem.bracket
  line : problem.line = lineAt text place
  fitting : problem.IsFitting

/-- Problems that are about so many different places. -/
structure Placed (text : List Char) (problems : List Unbalanced) (places : List Nat) : Prop where
  tells : List.Forall₂ (Tells text) problems places
  distinct : places.Nodup

theorem lineAt_front (front rest : List Char) :
    lineAt (front ++ rest) front.length = front.count '\n' + 1 := by
  rw [lineAt, List.take_left]

theorem Placed.cons {text : List Char} {problem : Unbalanced} {problems : List Unbalanced}
    {place : Nat} {places : List Nat} (tells : Tells text problem place) (new : place ∉ places)
    (placed : Placed text problems places) :
    Placed text (problem :: problems) (place :: places) :=
  ⟨.cons tells placed.tells, List.nodup_cons.mpr ⟨new, placed.distinct⟩⟩

theorem opener_pair {c : Char} (opens : isOpener c = true) :
    ∃ closer, (c, closer) ∈ bracketPairs := by
  simp only [isOpener, Bool.or_eq_true, beq_iff_eq] at opens
  rcases opens with (rfl | rfl) | rfl
  · exact ⟨'\x7d', by decide⟩
  · exact ⟨')', by decide⟩
  · exact ⟨']', by decide⟩

/-- What the check tells of a character at once, and the brackets that are open behind it. -/
inductive Judges (line : Nat) (stack : List Open) (c : Char) :
    List Unbalanced → List Open → Prop where
  | passed : Judges line stack c [] stack
  | opened (opens : isOpener c = true) : Judges line stack c [] ((c, line) :: stack)
  | closed {bracket : Open} {below : List Open} (top : stack = bracket :: below) :
    Judges line stack c [] below
  | unmatched {opener : Char} (pair : (opener, c) ∈ bracketPairs) :
    Judges line stack c [.unmatched c line] stack

theorem balanceFrom_cons (line : Nat) (stack : List Open) (c : Char) (rest : List Char) :
    ∃ now after, Judges line stack c now after ∧
      balanceFrom line stack (c :: rest) =
        now ++ balanceFrom (line + [c].count '\n') after rest := by
  by_cases newline : c = '\n'
  · exact ⟨[], stack, .passed, by simp [balanceFrom, newline]⟩
  · by_cases opens : isOpener c = true
    · exact ⟨[], _, .opened opens, by simp [balanceFrom, newline, opens]⟩
    · cases closing : openerOf c with
      | none => exact ⟨[], stack, .passed, by simp [balanceFrom, newline, opens, closing]⟩
      | some opener =>
        have unmatched : Judges line stack c [.unmatched c line] stack :=
          .unmatched (pair_iff.mpr closing)
        cases stack with
        | nil => exact ⟨_, _, unmatched, by simp [balanceFrom, newline, opens, closing]⟩
        | cons top below =>
          by_cases fits : top.1 = opener
          · exact ⟨[], below, .closed rfl, by simp [balanceFrom, newline, opens, closing, fits]⟩
          · exact ⟨_, _, unmatched, by simp [balanceFrom, newline, opens, closing, fits]⟩

def unclosed (stack : List Open) : List Unbalanced :=
  stack.map fun bracket => .unclosed bracket.1 bracket.2

theorem Judges.placed {whole : List Char} {line place : Nat} {c : Char} {stack after : List Open}
    {now : List Unbalanced} (judges : Judges line stack c now after)
    (here : whole[place]? = some c) (said : line = lineAt whole place) {places : List Nat}
    (opened : Placed whole (unclosed stack) places) (new : place ∉ places) :
    ∃ told remaining, Placed whole now told ∧ Placed whole (unclosed after) remaining ∧
      (∀ other ∈ told, other = place ∧ place ∉ remaining) ∧
      ∀ other ∈ remaining, other = place ∨ other ∈ places := by
  have nothing : Placed whole [] [] := ⟨.nil, List.nodup_nil⟩
  cases judges with
  | passed =>
    exact ⟨[], places, nothing, opened, List.forall_mem_nil _, fun other member => .inr member⟩
  | opened opens =>
    have tells : Tells whole (.unclosed c line) place := ⟨here, said, opener_pair opens⟩
    exact ⟨[], place :: places, nothing, .cons tells new opened, List.forall_mem_nil _,
      fun other member => List.mem_cons.mp member⟩
  | closed top =>
    subst top
    -- The innermost bracket has its partner, so nothing will be told of it.
    cases places with
    | nil => cases opened.tells
    | cons inner outer =>
      have remaining : Placed whole (unclosed after) outer :=
        ⟨(List.forall₂_cons.mp opened.tells).2, (List.nodup_cons.mp opened.distinct).2⟩
      exact ⟨[], outer, nothing, remaining, List.forall_mem_nil _,
        fun other member => .inr (List.mem_cons_of_mem inner member)⟩
  | unmatched pair =>
    have tells : Tells whole (.unmatched c line) place := ⟨here, said, _, pair⟩
    exact ⟨[place], places, .cons tells List.not_mem_nil nothing, opened,
      fun other member => ⟨List.mem_singleton.mp member, new⟩, fun other member => .inr member⟩

/-- What is left to tell behind the part that was read is about brackets that are open or still to
be read. -/
theorem balanceFrom_placed {whole before text : List Char} (read : whole = before ++ text)
    {stack : List Open} {places : List Nat} (opened : Placed whole (unclosed stack) places)
    (earlier : ∀ place ∈ places, place < before.length) :
    ∃ told, Placed whole (balanceFrom (before.count '\n' + 1) stack text) told ∧
      ∀ place ∈ told, place ∈ places ∨ before.length ≤ place := by
  induction text generalizing before stack places with
  | nil =>
    refine ⟨places.reverse, ⟨?_, List.nodup_reverse.mpr opened.distinct⟩, ?_⟩
    · rw [balanceFrom, leftOpen, List.map_reverse]
      exact List.rel_reverse opened.tells
    · intro place member
      exact .inl (List.mem_reverse.mp member)
  | cons c rest ih =>
    have here : whole[before.length]? = some c := by rw [read]; simp
    have line : before.count '\n' + 1 = lineAt whole before.length := by rw [read, lineAt_front]
    have new : before.length ∉ places := fun member => Nat.lt_irrefl _ (earlier _ member)
    have moved : whole = (before ++ [c]) ++ rest := by simpa using read
    have longer : (before ++ [c]).length = before.length + 1 := List.length_append
    obtain ⟨now, after, judges, all⟩ := balanceFrom_cons (before.count '\n' + 1) stack c rest
    obtain ⟨told, remaining, tells, still, apart, origin⟩ := judges.placed here line opened new
    have sooner : ∀ place ∈ remaining, place < (before ++ [c]).length := by
      intro place member
      rw [longer]
      rcases origin place member with rfl | listed
      · exact Nat.lt_succ_self _
      · exact Nat.lt_succ_of_lt (earlier place listed)
    obtain ⟨later, placed, source⟩ := ih moved still sooner
    rw [all, Nat.add_right_comm, ← List.count_append]
    refine ⟨told ++ later, ⟨List.rel_append tells.tells placed.tells, ?_⟩, ?_⟩
    · apply List.nodup_append.mpr
      refine ⟨tells.distinct, placed.distinct, ?_⟩
      -- What is told later is still open, and then not told now, or behind this character.
      rintro place first _ second rfl
      obtain ⟨rfl, free⟩ := apart place first
      rcases source _ second with listed | behind
      · exact free listed
      · rw [longer] at behind
        exact Nat.not_succ_le_self _ behind
    · intro place member
      rcases List.mem_append.mp member with first | second
      · rw [(apart place first).1]
        exact .inr (Nat.le_refl _)
      · rcases source place second with listed | behind
        · rcases origin place listed with rfl | listed
          · exact .inr (Nat.le_refl _)
          · exact .inl listed
        · rw [longer] at behind
          exact .inr (Nat.le_of_succ_le behind)

theorem balance_placed (source : String) :
    ∃ places, Placed (strip source).toList (balance source) places := by
  have nothing : Placed (strip source).toList (unclosed []) [] := ⟨.nil, List.nodup_nil⟩
  obtain ⟨places, placed, -⟩ :=
    balanceFrom_placed (List.nil_append (strip source).toList).symm nothing (List.forall_mem_nil _)
  exact ⟨places, placed⟩

/-! The lines of a text -/

theorem line_holds {text : List Char} {place : Nat} {c : Char} (here : text[place]? = some c)
    (unbroken : c ≠ '\n') :
    ∃ line, (text.splitOn '\n')[(text.take place).count '\n']? = some line ∧ c ∈ line := by
  induction text generalizing place with
  | nil => cases here
  | cons first rest ih =>
    rw [List.splitOn_cons_eq_if_modifyHead]
    cases place with
    | zero =>
      have same : first = c := by simpa using here
      rw [same, if_neg (by simpa using unbroken)]
      cases pieces : rest.splitOn '\n' with
      | nil => exact absurd pieces (List.splitOn_ne_nil '\n' rest)
      | cons head tail => exact ⟨c :: head, rfl, List.mem_cons_self⟩
    | succ place =>
      have later : rest[place]? = some c := here
      obtain ⟨line, found, inside⟩ := ih later
      by_cases cut : first = '\n'
      · refine ⟨line, ?_, inside⟩
        simpa [cut] using found
      · rw [if_neg (by simpa using cut), List.take_succ_cons, List.count_cons_of_ne cut]
        -- The first character only makes the first line longer.
        cases pieces : rest.splitOn '\n' with
        | nil => exact absurd pieces (List.splitOn_ne_nil '\n' rest)
        | cons head tail =>
          rw [pieces] at found
          cases breaks : (rest.take place).count '\n' with
          | zero =>
            rw [breaks, List.getElem?_cons_zero, Option.some_inj] at found
            exact ⟨first :: head, rfl, List.mem_cons_of_mem first (found ▸ inside)⟩
          | succ breaks =>
            rw [breaks] at found
            exact ⟨line, found, inside⟩

theorem Unbalanced.IsFitting.ne {problem : Unbalanced} (fitting : problem.IsFitting) {c : Char}
    (other : isBracket c = false) : problem.bracket ≠ c := by
  have all : ∀ pair ∈ bracketPairs, isBracket pair.1 = true ∧ isBracket pair.2 = true := by decide
  rintro rfl
  cases problem with
  | unmatched bracket _ =>
    obtain ⟨opener, pair⟩ := fitting
    exact Bool.noConfusion ((all _ pair).2.symm.trans other)
  | unclosed bracket _ =>
    obtain ⟨closer, pair⟩ := fitting
    exact Bool.noConfusion ((all _ pair).1.symm.trans other)

/-- The check is silent exactly if the brackets that are left of a header are well nested. Otherwise
the problems are about brackets at different places of what is left: closing ones that are unmatched
and opening ones that are unclosed, each in the line that the problem says. -/
theorem balance_exact (source : String) :
    (balance source = [] ↔ WellNested ((strip source).toList.filter isBracket)) ∧
    (∃ places, Placed (strip source).toList (balance source) places) ∧
    ∀ problem ∈ balance source, problem.IsFitting ∧ 0 < problem.line ∧
      ∃ line, (splitLines (strip source))[problem.line - 1]? = some line ∧
        problem.bracket ∈ line.toList := by
  obtain ⟨places, placed⟩ := balance_placed source
  refine ⟨?_, ⟨places, placed⟩, ?_⟩
  · rw [balance, balanceFrom_empty]
    exact nest_iff _
  · intro problem member
    obtain ⟨place, -, bracket, said, fitting⟩ := forall₂_source placed.tells.flip problem member
    obtain ⟨line, found, inside⟩ := line_holds bracket (fitting.ne rfl)
    rw [said, lineAt, Nat.add_sub_cancel]
    refine ⟨fitting, Nat.succ_pos _, String.ofList line, ?_, ?_⟩
    · simp [splitLines, splitAtChar, found]
    · rwa [String.toList_ofList]

end ProxyHeaders.Check
