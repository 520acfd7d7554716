import Mathlib.Data.List.DropRight
import ProxyHeaders.Code.Format

/-!
The lines of a text, and what trimming and joining do to them. Most operations on headers only add
or drop empty lines, so texts are compared by their other, solid lines.
-/
namespace ProxyHeaders.Text

theorem dropEnd_eq_rdropWhile {α : Type} (drop : α → Bool) (items : List α) :
    dropEnd drop items = items.rdropWhile drop := rfl

theorem dropEnd_append {α : Type} (drop : α → Bool) (first second : List α) :
    dropEnd drop (first ++ second) =
      if dropEnd drop second = [] then dropEnd drop first else first ++ dropEnd drop second := by
  unfold dropEnd
  rw [List.reverse_append, List.dropWhile_append]
  by_cases gone : second.reverse.dropWhile drop = []
  · simp [gone]
  · simp [gone]

theorem mem_of_dropEnd {α : Type} {drop : α → Bool} {items : List α} {item : α}
    (member : item ∈ dropEnd drop items) : item ∈ items :=
  (List.rdropWhile_prefix drop (l := items)).subset member

theorem trimEnd_twice (text : String) : trimEnd (trimEnd text) = trimEnd text := by
  simp [trimEnd, dropEnd_eq_rdropWhile, List.rdropWhile_idempotent]

theorem trimEnd_empty : trimEnd "" = "" := rfl

theorem trimEnd_unbroken {text : String} (unbroken : '\n' ∉ text.toList) :
    '\n' ∉ (trimEnd text).toList := by
  intro member
  rw [trimEnd, String.toList_ofList] at member
  exact unbroken (mem_of_dropEnd member)

theorem trimEnd_solid {text : String} {c : Char} (last : text.toList.getLast? = some c)
    (solid : isBlank c = false) : trimEnd text = text := by
  have same : text.toList.rdropWhile isBlank = text.toList := by
    rw [List.rdropWhile_eq_self_iff]
    intro some
    rw [List.getLast?_eq_some_getLast some, Option.some_inj] at last
    simp [last, solid]
  rw [trimEnd, dropEnd_eq_rdropWhile, same, String.ofList_toList]

theorem trimEnd_margin {margin text : String} (blank : ∀ c ∈ margin.toList, isBlank c) :
    trimEnd (margin ++ text) =
      if trimEnd text = "" then "" else margin ++ trimEnd text := by
  have gone : dropEnd isBlank margin.toList = [] :=
    List.rdropWhile_eq_nil_iff.mpr blank
  have none : trimEnd text = "" ↔ dropEnd isBlank text.toList = [] := by
    rw [trimEnd, ← String.toList_inj]
    simp
  by_cases empty : trimEnd text = ""
  · rw [if_pos empty, trimEnd, String.toList_append, dropEnd_append, if_pos (none.mp empty), gone]
  · rw [if_neg empty, trimEnd, String.toList_append, dropEnd_append,
      if_neg (fun nil => empty (none.mpr nil)), String.ofList_append, String.ofList_toList]
    rfl

/-! Splitting and joining -/

theorem mem_splitOn {α : Type} [BEq α] [LawfulBEq α] {separator : α} {items piece : List α}
    (member : piece ∈ items.splitOn separator) :
    ∀ item ∈ piece, item ∈ items ∧ item ≠ separator := by
  induction items generalizing piece with
  | nil => simp_all [List.splitOn_nil]
  | cons first items inner =>
    have later {piece : List α} (member : piece ∈ items.splitOn separator) :
        ∀ item ∈ piece, item ∈ first :: items ∧ item ≠ separator := fun item inside =>
      ⟨List.mem_cons_of_mem first (inner member item inside).1, (inner member item inside).2⟩
    rw [List.splitOn_cons_eq_if_modifyHead] at member
    by_cases cut : first == separator
    · rw [if_pos cut] at member
      rcases List.mem_cons.mp member with rfl | member
      · simp
      · exact later member
    · rw [if_neg cut] at member
      cases pieces : items.splitOn separator with
      | nil => simp [pieces] at member
      | cons head tail =>
        rw [pieces, List.modifyHead_cons] at member
        rcases List.mem_cons.mp member with rfl | member
        · intro item inside
          rcases List.mem_cons.mp inside with rfl | inside
          · exact ⟨by simp, fun same => cut (by simp [same])⟩
          · exact later (by simp [pieces]) item inside
        · exact later (by simp [pieces, member])

theorem separator_or_piece {α : Type} [BEq α] [LawfulBEq α] (separator : α) {item : α}
    {items : List α} (member : item ∈ items) :
    item = separator ∨ ∃ piece ∈ items.splitOn separator, item ∈ piece := by
  induction items with
  | nil => simp at member
  | cons first items inner =>
    rw [List.splitOn_cons_eq_if_modifyHead]
    by_cases cut : first == separator
    · rw [if_pos cut]
      rcases List.mem_cons.mp member with rfl | member
      · exact .inl (by simpa using cut)
      · rcases inner member with same | ⟨piece, found, inside⟩
        · exact .inl same
        · exact .inr ⟨piece, List.mem_cons_of_mem _ found, inside⟩
    · rw [if_neg cut]
      cases pieces : items.splitOn separator with
      | nil => exact absurd pieces (List.splitOn_ne_nil separator items)
      | cons head tail =>
        rw [pieces] at inner
        rw [List.modifyHead_cons]
        rcases List.mem_cons.mp member with rfl | member
        · exact .inr ⟨item :: head, by simp, by simp⟩
        · rcases inner member with same | ⟨piece, found, inside⟩
          · exact .inl same
          · rcases List.mem_cons.mp found with rfl | found
            · exact .inr ⟨first :: piece, by simp, by simp [inside]⟩
            · exact .inr ⟨piece, by simp [found], inside⟩

theorem mem_splitAtChar {separator : Char} {text piece : String}
    (member : piece ∈ splitAtChar separator text) :
    ∀ c ∈ piece.toList, c ∈ text.toList ∧ c ≠ separator := by
  obtain ⟨chars, found, rfl⟩ := List.mem_map.mp member
  rw [String.toList_ofList]
  exact mem_splitOn found

theorem separator_inside {separator : Char} {text : String}
    (solid : "" ∉ splitAtChar separator text) :
    text ≠ "" ∧ text.toList.head? ≠ some separator ∧ text.toList.getLast? ≠ some separator := by
  refine ⟨?_, ?_, ?_⟩
  · rintro rfl
    exact solid (by simp [splitAtChar])
  · intro start
    obtain ⟨rest, chars⟩ := List.head?_eq_some_iff.mp start
    exact solid (by simp [splitAtChar, chars, List.splitOn_cons_eq_if_modifyHead])
  · intro ending
    obtain ⟨front, chars⟩ := List.getLast?_eq_some_iff.mp ending
    exact solid (by simp [splitAtChar, chars, List.splitOn_append_cons_self])

theorem splitLines_unbroken {text line : String} (member : line ∈ splitLines text) :
    '\n' ∉ line.toList := by
  exact fun inside => (mem_splitAtChar member '\n' inside).2 rfl

theorem splitLines_break (first second : List Char) :
    splitLines (String.ofList (first ++ '\n' :: second)) =
      splitLines (String.ofList first) ++ splitLines (String.ofList second) := by
  simp [splitLines, splitAtChar, List.splitOn_append_cons_self]

theorem splitLines_alone {line : String} (unbroken : '\n' ∉ line.toList) :
    splitLines line = [line] := by
  simp [splitLines, splitAtChar, List.splitOn_eq_singleton unbroken]

theorem splitLines_joinLines {lines : List String} (some : lines ≠ [])
    (unbroken : ∀ line ∈ lines, '\n' ∉ line.toList) : splitLines (joinLines lines) = lines := by
  induction lines with
  | nil => exact absurd rfl some
  | cons line rest inner =>
    have first : splitLines line = [line] := splitLines_alone (unbroken line (by simp))
    by_cases last : rest = []
    · simpa [last, joinLines] using first
    · have later := inner last fun other member => unbroken other (by simp [member])
      have shape : joinLines (line :: rest) =
          String.ofList (line.toList ++ '\n' :: (joinLines rest).toList) := by
        rw [← String.toList_inj, joinLines, String.intercalate_cons_of_ne_nil last]
        simp [joinLines]
      rw [shape, splitLines_break, String.ofList_toList, String.ofList_toList, first, later]
      rfl

/-- The lines of a text with their breaks are the text with one break behind it. -/
theorem splitLines_written (text : String) :
    (splitLines text).flatMap (fun line => line.toList ++ ['\n']) = text.toList ++ ['\n'] := by
  have closed (pieces : List (List Char)) (some : pieces ≠ []) :
      pieces.flatMap (· ++ ['\n']) = ['\n'].intercalate pieces ++ ['\n'] := by
    induction pieces with
    | nil => exact absurd rfl some
    | cons piece rest inner =>
      by_cases last : rest = []
      · simp [last]
      · rw [List.flatMap_cons, inner last, List.intercalate_cons_of_ne_nil last]
        simp
  rw [splitLines, splitAtChar, List.flatMap_map]
  simpa using closed _ (List.splitOn_ne_nil '\n' text.toList)

def solidOf (lines : List String) : List String := lines.filter (!·.isEmpty)

def solidLines (text : String) : List String := solidOf (splitLines text)

theorem solidOf_append (first second : List String) :
    solidOf (first ++ second) = solidOf first ++ solidOf second := List.filter_append ..

theorem solidLines_break (first second : List Char) :
    solidLines (String.ofList (first ++ '\n' :: second)) =
      solidLines (String.ofList first) ++ solidLines (String.ofList second) := by
  rw [solidLines, splitLines_break, solidOf_append]
  rfl

theorem solidLines_empty : solidLines (String.ofList []) = [] := rfl

theorem solidLines_joinLines {lines : List String}
    (unbroken : ∀ line ∈ lines, '\n' ∉ line.toList) :
    solidLines (joinLines lines) = solidOf lines := by
  by_cases some : lines = []
  · subst some
    rfl
  · rw [solidLines, splitLines_joinLines some unbroken]

theorem solidLines_dropEndBreaks (text : String) :
    solidLines (dropEndBreaks text) = solidLines text := by
  have shortened (chars : List Char) :
      solidLines (String.ofList (dropEnd (· == '\n') chars)) =
        solidLines (String.ofList chars) := by
    -- Breaks go from the end, so the induction is from the end as well.
    induction chars using List.reverseRecOn with
    | nil => rfl
    | append_singleton chars c inner =>
      rw [dropEnd_eq_rdropWhile]
      by_cases newline : c = '\n'
      · rw [List.rdropWhile_concat_pos _ _ _ (by simp [newline]), newline, solidLines_break,
          solidLines_empty, List.append_nil]
        exact inner
      · rw [List.rdropWhile_concat_neg _ _ _ (by simp [newline])]
  rw [dropEndBreaks, shortened, String.ofList_toList]

theorem solidLines_dropStartBreaks (chars : List Char) :
    solidLines (String.ofList (chars.dropWhile (· == '\n'))) =
      solidLines (String.ofList chars) := by
  induction chars with
  | nil => rfl
  | cons c chars inner =>
    by_cases newline : c = '\n'
    · have cut := solidLines_break [] chars
      rw [solidLines_empty, List.nil_append] at cut
      rw [newline, List.dropWhile_cons_of_pos (by simp), inner]
      exact cut.symm
    · rw [List.dropWhile_cons_of_neg (by simp [newline])]

def unlines (lines : List String) : String := String.join (lines.map (· ++ "\n"))

theorem unlines_cons (line : String) (rest : List String) :
    unlines (line :: rest) = String.ofList (line.toList ++ '\n' :: (unlines rest).toList) := by
  rw [← String.toList_inj]
  simp [unlines, String.join_cons]

theorem unlines_joinLines {lines : List String} (some : lines ≠ []) :
    joinLines lines ++ "\n" = unlines lines := by
  induction lines with
  | nil => exact absurd rfl some
  | cons line rest inner =>
    by_cases last : rest = []
    · subst last
      simp [joinLines, unlines]
    · rw [unlines_cons, ← inner last, joinLines, String.intercalate_cons_of_ne_nil last,
        ← String.toList_inj]
      simp [joinLines]

theorem solidLines_unlines {lines : List String}
    (unbroken : ∀ line ∈ lines, '\n' ∉ line.toList) :
    solidLines (unlines lines) = solidOf lines := by
  induction lines with
  | nil => rfl
  | cons line rest inner =>
    have later := inner fun other member => unbroken other (by simp [member])
    have first : solidLines line = solidOf [line] := by
      rw [solidLines, splitLines_alone (unbroken line (by simp))]
    rw [unlines_cons, solidLines_break, String.ofList_toList, String.ofList_toList, later, first,
      ← solidOf_append]
    rfl

/-! Looking for one text inside another -/

theorem occursIn_iff (pattern text : List Char) : occursIn pattern text ↔ pattern <:+: text := by
  induction text with
  | nil => simp [occursIn]
  | cons c text inner =>
    rw [List.infix_cons_iff, ← inner]
    simp [occursIn]

theorem contains_line {text line : String} (member : line ∈ splitLines text) :
    contains (text ++ "\n") line := by
  obtain ⟨before, after, whole⟩ := List.append_of_mem member
  have written := splitLines_written text
  rw [whole] at written
  have inside : line.toList <:+: (text ++ "\n").toList := by
    refine ⟨before.flatMap (·.toList ++ ['\n']), '\n' :: after.flatMap (·.toList ++ ['\n']), ?_⟩
    simpa using written
  exact (occursIn_iff _ _).mpr inside

/-! The normal form -/

theorem collapse_solid (afterBlank : Bool) (lines : List String) :
    solidOf (Code.collapse afterBlank lines) = solidOf (lines.map trimEnd) := by
  induction lines generalizing afterBlank with
  | nil => rfl
  | cons line rest inner =>
    by_cases blank : (trimEnd line).isEmpty
    · cases afterBlank with
      | false => simpa [Code.collapse, solidOf, blank] using inner true
      | true => simpa [Code.collapse, solidOf, blank] using inner true
    · simpa [Code.collapse, solidOf, blank] using inner false

theorem collapse_trimmed {afterBlank : Bool} {lines : List String} {line : String}
    (member : line ∈ Code.collapse afterBlank lines) : line ∈ "" :: lines.map trimEnd := by
  induction lines generalizing afterBlank with
  | nil => simp [Code.collapse] at member
  | cons first rest inner =>
    have later {afterBlank : Bool} (member : line ∈ Code.collapse afterBlank rest) :
        line ∈ "" :: (first :: rest).map trimEnd := by
      rcases List.mem_cons.mp (inner member) with empty | trimmed
      · exact List.mem_cons.mpr (.inl empty)
      · exact List.mem_cons_of_mem _ (List.mem_cons_of_mem _ trimmed)
    by_cases blank : (trimEnd first).isEmpty
    · cases afterBlank with
      | false =>
        simp only [Code.collapse, blank, if_true, Bool.false_eq_true, if_false] at member
        rcases List.mem_cons.mp member with same | member
        · simp only [List.mem_cons, same, true_or]
        · exact later member
      | true =>
        simp only [Code.collapse, blank, if_true] at member
        exact later member
    · simp only [Code.collapse, blank, Bool.false_eq_true, if_false] at member
      rcases List.mem_cons.mp member with same | member
      · simp only [List.map_cons, List.mem_cons, same, true_or, or_true]
      · exact later member

theorem collapse_unbroken {afterBlank : Bool} {lines : List String}
    (unbroken : ∀ line ∈ lines, '\n' ∉ line.toList) :
    ∀ line ∈ Code.collapse afterBlank lines, '\n' ∉ line.toList := by
  intro line member
  rcases List.mem_cons.mp (collapse_trimmed member) with rfl | trimmed
  · simp
  · obtain ⟨source, found, rfl⟩ := List.mem_map.mp trimmed
    exact trimEnd_unbroken (unbroken source found)

theorem format_solid (code : String) :
    ∃ body, Code.format code = body ++ "\n" ∧
      solidLines body = solidOf ((splitLines code).map trimEnd) := by
  refine ⟨_, rfl, ?_⟩
  have unbroken : ∀ line ∈ Code.collapse false (splitLines code), '\n' ∉ line.toList :=
    collapse_unbroken fun _ => splitLines_unbroken
  rw [Code.dropOuterBreaks, solidLines_dropEndBreaks, solidLines_dropStartBreaks,
    String.ofList_toList, solidLines_joinLines unbroken, collapse_solid]

end ProxyHeaders.Text
