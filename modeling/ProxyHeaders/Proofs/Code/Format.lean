import Mathlib.Data.List.Chain
import ProxyHeaders.Proofs.Text.Lines

/-!
Formatting is a normal form: the texts that it leaves alone are told by their lines, every text is
formatted to one of them, and what stands on its lines and which of them are set apart is kept.
-/
namespace ProxyHeaders.Code

open Text

def linesOf (text : String) : List String := (splitLines text).dropLast

def filled (lines : List String) : List String := lines.filter (!isAllBlank ·)

/-- How many blank lines stand right in front of each filled one, after `count` of them. -/
def gapsFrom (count : Nat) : List String → List Nat
  | [] => []
  | line :: rest =>
    if isAllBlank line then gapsFrom (count + 1) rest else count :: gapsFrom 0 rest

/-- How many blank lines stand between each filled line and the next. -/
def gaps (lines : List String) : List Nat := (gapsFrom 0 lines).tail

def Apart (line next : String) : Prop := ¬ (isAllBlank line ∧ isAllBlank next)

structure Tidy (lines : List String) : Prop where
  trimmed : ∀ line ∈ lines, ∀ c, line.toList.getLast? = some c → isBlank c = false
  apart : lines.IsChain Apart

structure NormalForm (text : String) : Prop where
  ends : ∃ body, text = body ++ "\n" ∧ body.toList.getLast? ≠ some '\n'
  starts : text = "\n" ∨ ∀ line, (linesOf text).head? = some line → isAllBlank line = false
  tidy : Tidy (linesOf text)

/-! Blank and trimmed lines -/

theorem trimEnd_isEmpty (line : String) : (trimEnd line).isEmpty = isAllBlank line := by
  rw [Bool.eq_iff_iff, String.isEmpty_iff, ← String.toList_inj, trimEnd, String.toList_ofList,
    dropEnd_eq_rdropWhile]
  simp [isAllBlank]

theorem isAllBlank_trimEnd (line : String) : isAllBlank (trimEnd line) = isAllBlank line := by
  rw [← trimEnd_isEmpty, ← trimEnd_isEmpty, trimEnd_twice]

theorem isAllBlank_empty : isAllBlank "" = true := rfl

theorem trimEnd_eq_self {line : String} :
    trimEnd line = line ↔ ∀ c, line.toList.getLast? = some c → isBlank c = false := by
  constructor
  · intro same c last
    rw [← same, trimEnd, String.toList_ofList, dropEnd_eq_rdropWhile] at last
    have some : line.toList.rdropWhile isBlank ≠ [] := by
      rintro none
      simp [none] at last
    rw [List.getLast?_eq_some_getLast some, Option.some_inj] at last
    simpa [last] using List.rdropWhile_last_not isBlank line.toList some
  · intro solid
    rcases none : line.toList.getLast? with _ | c
    · rw [List.getLast?_eq_none_iff, String.toList_eq_nil_iff] at none
      rw [none, trimEnd_empty]
    · exact trimEnd_solid none (solid c none)

/-! What collapsing does, line by line -/

theorem collapse_blank {line : String} (blank : isAllBlank line = true) (afterBlank : Bool)
    (rest : List String) :
    collapse afterBlank (line :: rest) =
      if afterBlank then collapse true rest else "" :: collapse true rest := by
  simp [collapse, trimEnd_isEmpty, blank]

theorem collapse_filled {line : String} (solid : isAllBlank line = false) (afterBlank : Bool)
    (rest : List String) :
    collapse afterBlank (line :: rest) = trimEnd line :: collapse false rest := by
  simp [collapse, trimEnd_isEmpty, solid]

theorem filled_collapse (afterBlank : Bool) (lines : List String) :
    filled (collapse afterBlank lines) = (filled lines).map trimEnd := by
  induction lines generalizing afterBlank with
  | nil => rfl
  | cons line rest inner =>
    cases blank : isAllBlank line with
    | true =>
      rw [collapse_blank blank]
      cases afterBlank with
      | false => simpa [filled, blank, isAllBlank_empty] using inner true
      | true => simpa [filled, blank] using inner true
    | false =>
      rw [collapse_filled blank]
      simpa [filled, blank, isAllBlank_trimEnd] using inner false

theorem gapsFrom_collapse (count : Nat) (lines : List String) :
    gapsFrom (min 1 count) (collapse (decide (0 < count)) lines) =
      (gapsFrom count lines).map (min 1) := by
  induction lines generalizing count with
  | nil => rfl
  | cons line rest inner =>
    cases blank : isAllBlank line with
    | true =>
      rw [collapse_blank blank, gapsFrom, if_pos blank, ← inner]
      cases count with
      | zero => simp [gapsFrom, isAllBlank_empty]
      | succ count => simp
    | false =>
      rw [collapse_filled blank]
      simpa [gapsFrom, blank, isAllBlank_trimEnd] using inner 0

theorem gaps_collapse (lines : List String) :
    gaps (collapse false lines) = (gaps lines).map (min 1) := by
  rw [gaps, gaps, List.map_tail, ← gapsFrom_collapse]
  rfl

theorem collapse_apart (lines : List String) :
    ("" :: collapse true lines).IsChain Apart ∧
      ∀ line, isAllBlank line = false → (line :: collapse false lines).IsChain Apart := by
  induction lines with
  | nil => exact ⟨.singleton _, fun line _ => .singleton line⟩
  | cons first rest inner =>
    cases blank : isAllBlank first with
    | true =>
      simp only [collapse_blank blank, if_true, Bool.false_eq_true, if_false]
      refine ⟨inner.1, fun line solid => .cons_cons ?_ inner.1⟩
      simp [Apart, solid]
    | false =>
      simp only [collapse_filled blank]
      have next : isAllBlank (trimEnd first) = false := by rw [isAllBlank_trimEnd, blank]
      refine ⟨.cons_cons ?_ (inner.2 _ next), fun line _ => .cons_cons ?_ (inner.2 _ next)⟩
      · simp [Apart, next]
      · simp [Apart, next]

theorem collapse_tidy (lines : List String) : Tidy (collapse false lines) where
  trimmed line member := by
    rw [← trimEnd_eq_self]
    rcases List.mem_cons.mp (collapse_trimmed member) with rfl | trimmed
    · exact trimEnd_empty
    · obtain ⟨source, -, rfl⟩ := List.mem_map.mp trimmed
      exact trimEnd_twice source
  apart := ((collapse_apart lines).2 "x" rfl).tail

theorem collapse_fixed {lines : List String} (tidy : Tidy lines) {afterBlank : Bool}
    (fits : ∀ line, lines.head? = some line → isAllBlank line = true → afterBlank = false) :
    collapse afterBlank lines = lines := by
  induction lines generalizing afterBlank with
  | nil => rfl
  | cons line rest inner =>
    have same : trimEnd line = line := trimEnd_eq_self.mpr (tidy.trimmed line (by simp))
    have later : Tidy rest :=
      ⟨fun other member => tidy.trimmed other (List.mem_cons_of_mem _ member), tidy.apart.tail⟩
    cases blank : isAllBlank line with
    | true =>
      have next : ∀ other, rest.head? = some other → isAllBlank other = true → true = false := by
        intro other head twice
        obtain ⟨tail, rfl⟩ := List.head?_eq_some_iff.mp head
        exact absurd ⟨blank, twice⟩ tidy.apart.rel
      have empty : line = "" := by
        rw [← same, ← String.isEmpty_iff, trimEnd_isEmpty, blank]
      rw [collapse_blank blank, fits line rfl blank, inner later next, empty]
      rfl
    | false =>
      rw [collapse_filled blank, same, inner later fun _ _ _ => rfl]

theorem collapse_last (afterBlank : Bool) (lines : List String) :
    collapse afterBlank (lines ++ [""]) = collapse afterBlank lines ∨
      collapse afterBlank (lines ++ [""]) = collapse afterBlank lines ++ [""] := by
  induction lines generalizing afterBlank with
  | nil =>
    cases afterBlank with
    | false => exact .inr rfl
    | true => exact .inl rfl
  | cons line rest inner =>
    rw [List.cons_append]
    cases blank : isAllBlank line with
    | true =>
      rw [collapse_blank blank, collapse_blank blank]
      rcases inner true with same | longer
      · exact .inl (by rw [same])
      · exact .inr (by cases afterBlank <;> simp [longer])
    | false =>
      rw [collapse_filled blank, collapse_filled blank]
      rcases inner false with same | longer
      · exact .inl (by rw [same])
      · exact .inr (by rw [longer]; rfl)

/-! Empty lines around the others -/

theorem filled_around (before after : Nat) (lines : List String) :
    filled (List.replicate before "" ++ lines ++ List.replicate after "") = filled lines := by
  simp [filled, isAllBlank_empty]

theorem gapsFrom_before (count before : Nat) (lines : List String) :
    gapsFrom count (List.replicate before "" ++ lines) = gapsFrom (count + before) lines := by
  induction before generalizing count with
  | zero => rfl
  | succ before inner =>
    rw [List.replicate_succ, List.cons_append, gapsFrom, if_pos isAllBlank_empty, inner]
    congr 1
    omega

theorem gapsFrom_after (count after : Nat) (lines : List String) :
    gapsFrom count (lines ++ List.replicate after "") = gapsFrom count lines := by
  induction lines generalizing count with
  | nil =>
    have none := gapsFrom_before count after []
    rwa [List.append_nil] at none
  | cons line rest inner =>
    rw [List.cons_append, gapsFrom, gapsFrom, inner, inner]

theorem gapsFrom_tail (count : Nat) (lines : List String) :
    (gapsFrom count lines).tail = gaps lines := by
  induction lines generalizing count with
  | nil => rfl
  | cons line rest inner =>
    rw [gaps, gapsFrom, gapsFrom]
    cases isAllBlank line with
    | true => exact (inner (count + 1)).trans (inner (0 + 1)).symm
    | false => rfl

theorem gaps_around (before after : Nat) (lines : List String) :
    gaps (List.replicate before "" ++ lines ++ List.replicate after "") = gaps lines := by
  rw [gaps, gapsFrom_after, gapsFrom_before, gapsFrom_tail]

/-! Breaks around a text -/

theorem splitLines_closed (text : String) : splitLines (text ++ "\n") = splitLines text ++ [""] := by
  have cut := splitLines_break text.toList []
  rwa [String.ofList_append, String.ofList_toList] at cut

theorem linesOf_closed (text : String) : linesOf (text ++ "\n") = splitLines text := by
  rw [linesOf, splitLines_closed, List.dropLast_concat]

theorem joinLines_splitLines (text : String) : joinLines (splitLines text) = text := by
  rw [← String.toList_inj]
  simp [joinLines, splitLines, splitAtChar, Function.comp_def]

theorem splitLines_dropStart (chars : List Char) :
    ∃ before, splitLines (String.ofList chars) =
      List.replicate before "" ++ splitLines (String.ofList (chars.dropWhile (· == '\n'))) := by
  induction chars with
  | nil => exact ⟨0, rfl⟩
  | cons c chars inner =>
    by_cases newline : c = '\n'
    · obtain ⟨before, lines⟩ := inner
      have cut := splitLines_break [] chars
      refine ⟨before + 1, ?_⟩
      rw [newline, List.dropWhile_cons_of_pos (by simp), List.replicate_succ, List.cons_append,
        ← lines]
      exact cut
    · exact ⟨0, by rw [List.dropWhile_cons_of_neg (by simp [newline])]; rfl⟩

theorem splitLines_dropEnd (chars : List Char) :
    ∃ after, splitLines (String.ofList chars) =
      splitLines (String.ofList (dropEnd (· == '\n') chars)) ++ List.replicate after "" := by
  induction chars using List.reverseRecOn with
  | nil => exact ⟨0, rfl⟩
  | append_singleton chars c inner =>
    rw [dropEnd_eq_rdropWhile]
    by_cases newline : c = '\n'
    · obtain ⟨after, lines⟩ := inner
      have cut := splitLines_break chars []
      refine ⟨after + 1, ?_⟩
      rw [newline, List.rdropWhile_concat_pos _ _ _ (by simp), List.replicate_succ', cut, lines,
        List.append_assoc]
      rfl
    · exact ⟨0, by rw [List.rdropWhile_concat_neg _ _ _ (by simp [newline]), List.replicate_zero,
        List.append_nil]⟩

/-- Each break that is dropped was the end of an empty line, or stood in front of one. -/
theorem splitLines_dropOuterBreaks (text : String) :
    ∃ before after, splitLines text =
      List.replicate before "" ++ splitLines (dropOuterBreaks text) ++ List.replicate after "" := by
  obtain ⟨before, first⟩ := splitLines_dropStart text.toList
  obtain ⟨after, second⟩ := splitLines_dropEnd (text.toList.dropWhile (· == '\n'))
  rw [String.ofList_toList, second] at first
  refine ⟨before, after, ?_⟩
  rw [first, dropOuterBreaks, dropEndBreaks, String.toList_ofList, List.append_assoc]

theorem dropOuterBreaks_bare (text : String) :
    (dropOuterBreaks text).toList.head? ≠ some '\n' ∧
      (dropOuterBreaks text).toList.getLast? ≠ some '\n' := by
  rw [dropOuterBreaks, dropEndBreaks, String.toList_ofList, String.toList_ofList,
    dropEnd_eq_rdropWhile]
  constructor
  · intro head
    obtain ⟨rest, shape⟩ := List.head?_eq_some_iff.mp head
    have start := List.rdropWhile_prefix (· == '\n') (l := text.toList.dropWhile (· == '\n'))
    rw [shape] at start
    obtain ⟨tail, whole⟩ := start
    have kept := List.head?_dropWhile_not (· == '\n') text.toList
    rw [← whole] at kept
    simp at kept
  · intro last
    have some : (text.toList.dropWhile (· == '\n')).rdropWhile (· == '\n') ≠ [] := by
      intro none
      simp [none] at last
    rw [List.getLast?_eq_some_getLast some, Option.some_inj] at last
    have kept := List.rdropWhile_last_not (· == '\n') _ some
    simp [last] at kept

theorem dropOuterBreaks_closed (text : String) :
    dropOuterBreaks (text ++ "\n") = dropOuterBreaks text := by
  have gone : dropEnd (· == '\n') ['\n'] = [] := rfl
  rw [dropOuterBreaks, dropOuterBreaks, dropEndBreaks, dropEndBreaks, String.toList_append,
    List.dropWhile_append]
  by_cases none : (text.toList.dropWhile (· == '\n')) = []
  · simp [none]
  · simp [none, dropEnd_append, gone]

theorem dropOuterBreaks_fixed {text : String} (start : text.toList.head? ≠ some '\n')
    (ending : text.toList.getLast? ≠ some '\n') : dropOuterBreaks text = text := by
  have front : text.toList.dropWhile (· == '\n') = text.toList := by
    rw [List.dropWhile_eq_self_iff]
    intro some newline
    exact start (by rw [List.head?_eq_getElem?, List.getElem?_eq_getElem some]; simpa using newline)
  have back : text.toList.rdropWhile (· == '\n') = text.toList := by
    rw [List.rdropWhile_eq_self_iff]
    intro some newline
    exact ending (by rw [List.getLast?_eq_some_getLast some]; simpa using newline)
  rw [dropOuterBreaks, front, dropEndBreaks, String.toList_ofList, dropEnd_eq_rdropWhile, back,
    String.ofList_toList]

/-! The normal form -/

theorem Tidy.within {lines part : List String} (tidy : Tidy lines) (inside : part <:+: lines) :
    Tidy part := by
  refine ⟨fun line member => tidy.trimmed line (inside.subset member), ?_⟩
  obtain ⟨before, after, rfl⟩ := inside
  exact tidy.apart.left_of_append.right_of_append

/-- The lines that formatting leaves are the collapsed ones without the empty ones around them. -/
theorem lines_format (code : String) :
    ∃ body before after, format code = body ++ "\n" ∧
      body.toList.head? ≠ some '\n' ∧ body.toList.getLast? ≠ some '\n' ∧
      collapse false (splitLines code) =
        List.replicate before "" ++ splitLines body ++ List.replicate after "" := by
  have some : collapse false (splitLines code) ≠ [] := by
    cases lines : splitLines code with
    | nil => simp [splitLines, splitAtChar] at lines
    | cons line rest =>
      cases blank : isAllBlank line with
      | true => simp [collapse_blank blank]
      | false => simp [collapse_filled blank]
  have again := splitLines_joinLines some (collapse_unbroken fun _ => splitLines_unbroken)
  obtain ⟨before, after, lines⟩ :=
    splitLines_dropOuterBreaks (joinLines (collapse false (splitLines code)))
  exact ⟨_, before, after, rfl, (dropOuterBreaks_bare _).1, (dropOuterBreaks_bare _).2,
    again.symm.trans lines⟩

theorem splitLines_first (text : String) :
    (splitLines text).head? = some "" ↔ text = "" ∨ text.toList.head? = some '\n' := by
  rw [← String.toList_eq_nil_iff, splitLines, splitAtChar]
  cases text.toList with
  | nil => simp
  | cons c rest =>
    rw [List.splitOn_cons_eq_if_modifyHead]
    by_cases newline : c = '\n'
    · simp [newline]
    · cases pieces : rest.splitOn '\n' with
      | nil => exact absurd pieces (List.splitOn_ne_nil '\n' rest)
      | cons piece others => simp [newline, ← String.toList_inj]

theorem format_normalForm (code : String) : NormalForm (format code) := by
  obtain ⟨body, before, after, text, start, ending, lines⟩ := lines_format code
  have tidy : Tidy (splitLines body) :=
    (collapse_tidy (splitLines code)).within ⟨_, _, lines.symm⟩
  rw [text]
  refine ⟨⟨body, rfl, ending⟩, ?_, by rwa [linesOf_closed]⟩
  by_cases some : body = ""
  · exact .inl (by rw [some]; rfl)
  · refine .inr fun line first => ?_
    rw [linesOf_closed] at first
    by_contra blank
    have same : trimEnd line = line :=
      trimEnd_eq_self.mpr (tidy.trimmed line (List.mem_of_head? first))
    have empty : line = "" := by
      rw [← same, ← String.isEmpty_iff, trimEnd_isEmpty, ← Bool.not_eq_false]
      exact blank
    rcases (splitLines_first body).mp (empty ▸ first) with none | newline
    · exact some none
    · exact start newline

theorem format_fixed {text : String} (normal : NormalForm text) : format text = text := by
  obtain ⟨body, rfl, ending⟩ := normal.ends
  have start : body.toList.head? ≠ some '\n' := by
    intro newline
    rcases normal.starts with short | first
    · have none : body.toList = [] := by
        have chars := congrArg String.toList short
        rwa [String.toList_append, List.append_left_eq_self] at chars
      simp [none] at newline
    · have empty := (splitLines_first body).mpr (.inr newline)
      rw [← linesOf_closed] at empty
      exact absurd (first "" empty) (by decide)
  have fixed : collapse false (splitLines body) = splitLines body :=
    collapse_fixed (linesOf_closed body ▸ normal.tidy) fun _ _ _ => rfl
  have bare : dropOuterBreaks body = body := dropOuterBreaks_fixed start ending
  rw [format, splitLines_closed]
  rcases collapse_last false (splitLines body) with same | longer
  · rw [same, fixed, joinLines_splitLines, bare]
  · rw [longer, fixed, ← splitLines_closed, joinLines_splitLines, dropOuterBreaks_closed, bare]

theorem format_eq_self {text : String} : format text = text ↔ NormalForm text :=
  ⟨fun same => same ▸ format_normalForm text, format_fixed⟩

/-- Every text is formatted to a text in the normal form, which formatting leaves alone. The filled
lines stay in their order, and a blank line is between two of them where there was one. -/
theorem format_settles (code : String) :
    NormalForm (format code) ∧ format (format code) = format code ∧
      filled (linesOf (format code)) = (filled (splitLines code)).map trimEnd ∧
      gaps (linesOf (format code)) = (gaps (splitLines code)).map (min 1) := by
  refine ⟨format_normalForm code, format_fixed (format_normalForm code), ?_⟩
  obtain ⟨body, before, after, text, -, -, lines⟩ := lines_format code
  rw [text, linesOf_closed]
  constructor
  · rw [← filled_collapse false, lines, filled_around]
  · rw [← gaps_collapse, lines, gaps_around]

end ProxyHeaders.Code
