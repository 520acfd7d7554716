import ProxyHeaders.Proofs.Code.Buffer

/-!
What a buffer behind margins of spaces shows: each operation adds what the text that it is given
shows, line by line behind the margin. Only a comment is no such block: where its text is broken, the
margin and the comment mark stand in front of the first piece alone, and what stands behind the break
are lines of their own.
-/
namespace ProxyHeaders.Code

open ProxyHeaders.Text

/-! Lines -/

theorem solidOf_trimmed (lines : List String) :
    solidOf (lines.map trimEnd) = solidOf ((solidOf lines).map trimEnd) := by
  induction lines with
  | nil => rfl
  | cons line rest ih =>
    by_cases empty : line = ""
    · simpa [empty, solidOf, trimEnd_empty] using ih
    · by_cases blank : trimEnd line = ""
      · simpa [empty, blank, solidOf] using ih
      · simpa [empty, blank, solidOf] using ih

theorem shown_solid (text : String) : shown text = solidOf ((solidLines text).map trimEnd) :=
  solidOf_trimmed (splitLines text)

theorem shown_dropEndBreaks (text : String) : shown (dropEndBreaks text) = shown text := by
  rw [shown_solid, shown_solid, solidLines_dropEndBreaks]

theorem shown_alone {line : String} (unbroken : '\n' ∉ line.toList) :
    shown line = solidOf [trimEnd line] := by
  rw [shown, splitLines_alone unbroken]
  rfl

theorem shown_whole {line : String} (unbroken : '\n' ∉ line.toList) {last : Char}
    (ends : line.toList.getLast? = some last) (solid : isBlank last = false) :
    shown line = [line] := by
  have some : line ≠ "" := by
    rintro rfl
    cases ends
  rw [shown_alone unbroken, trimEnd_solid ends solid]
  simp [solidOf, some]

theorem splitLines_end (front : String) {tail : String} (unbroken : '\n' ∉ tail.toList) :
    ∃ earlier start, splitLines (front ++ tail) = earlier ++ [start ++ tail] := by
  have split (chars : List Char) : ∃ earlier start,
      (chars ++ tail.toList).splitOn '\n' = earlier ++ [start ++ tail.toList] := by
    induction chars with
    | nil => exact ⟨[], [], List.splitOn_eq_singleton unbroken⟩
    | cons c rest ih =>
      obtain ⟨earlier, start, later⟩ := ih
      rw [List.cons_append, List.splitOn_cons_eq_if_modifyHead, later]
      by_cases cut : c == '\n'
      · exact ⟨[] :: earlier, start, by rw [if_pos cut, List.cons_append]⟩
      · rw [if_neg cut]
        cases earlier with
        | nil => exact ⟨[], c :: start, rfl⟩
        | cons first earlier => exact ⟨(c :: first) :: earlier, start, rfl⟩
  obtain ⟨earlier, start, pieces⟩ := split front.toList
  refine ⟨earlier.map String.ofList, String.ofList start, ?_⟩
  rw [splitLines, splitAtChar, String.toList_append, pieces]
  simp [String.ofList_append]

/-- What a text ends in is shown at the end of a line, if it is unbroken and its own end is solid. -/
theorem shown_end (front : String) {tail : String} (unbroken : '\n' ∉ tail.toList) {last : Char}
    (ends : tail.toList.getLast? = some last) (solid : isBlank last = false) :
    ∃ start, start ++ tail ∈ shown (front ++ tail) := by
  obtain ⟨earlier, start, lines⟩ := splitLines_end front unbroken
  have lastOf : (start ++ tail).toList.getLast? = some last := by
    rw [String.toList_append, List.getLast?_append, ends, Option.some_or]
  have kept : trimEnd (start ++ tail) = start ++ tail := trimEnd_solid lastOf solid
  have some : start ++ tail ≠ "" := by
    intro empty
    rw [empty] at lastOf
    cases lastOf
  refine ⟨start, List.mem_filter.mpr ⟨?_, by simpa using some⟩⟩
  rw [lines, List.map_append, List.map_singleton, kept]
  exact List.mem_append_right _ (List.mem_singleton_self _)

/-! Margins -/

/-- A text of blanks that stands in one line, for a compiler too, which ends one at a carriage
return. -/
structure IsMargin (text : String) : Prop where
  blank : ∀ c ∈ text.toList, isBlank c
  unbroken : '\n' ∉ text.toList
  unreturned : '\r' ∉ text.toList

namespace IsMargin

theorem empty : IsMargin "" := ⟨by simp, by simp, by simp⟩

theorem spaces {text : String} (spaces : ∀ c ∈ text.toList, c = ' ') : IsMargin text := by
  constructor
  · intro c member
    rw [spaces c member]
    decide
  · intro member
    exact absurd (spaces _ member) (by decide)
  · intro member
    exact absurd (spaces _ member) (by decide)

theorem append {first second : String} (start : IsMargin first) (finish : IsMargin second) :
    IsMargin (first ++ second) := by
  constructor
  · intro c member
    rcases List.mem_append.mp (by simpa using member) with early | late
    · exact start.blank c early
    · exact finish.blank c late
  · simp [start.unbroken, finish.unbroken]
  · simp [start.unreturned, finish.unreturned]

variable {margin : String} (valid : IsMargin margin)

include valid

theorem shown_self : shown margin = [] := by
  have gone : trimEnd (margin ++ "") = "" := trimEnd_margin valid.blank
  rw [String.append_empty] at gone
  rw [shown_alone valid.unbroken, gone]
  rfl

theorem shown_trimmed {line : String} (unbroken : '\n' ∉ line.toList) :
    shown (margin ++ trimEnd line) = (solidOf [trimEnd line]).map (margin ++ ·) := by
  have whole : '\n' ∉ (margin ++ trimEnd line).toList := by
    simp [valid.unbroken, trimEnd_unbroken unbroken]
  rw [shown_alone whole, trimEnd_margin valid.blank, trimEnd_twice]
  by_cases empty : trimEnd line = ""
  · simp [empty, solidOf]
  · simp [empty, solidOf]

end IsMargin

/-! Buffers -/

namespace Buffer

def shows (buffer : Buffer) : List String := buffer.lines.toList.flatMap shown

/-- A buffer whose text is indented by spaces. -/
def Spaced (buffer : Buffer) : Prop := ∀ c ∈ buffer.unit.toList, c = ' '

theorem shown_text (buffer : Buffer) : shown buffer.text = buffer.shows := by
  rw [text_unlines, shown_unlines]
  rfl

theorem shows_push (buffer : Buffer) (written : String) :
    ({ buffer with lines := buffer.lines.push written } : Buffer).shows =
      buffer.shows ++ shown written := by
  simp [shows]

theorem shows_blank (buffer : Buffer) : buffer.blank.shows = buffer.shows := by
  have nothing : shown "" = [] := IsMargin.empty.shown_self
  rw [blank, line, shows_push]
  exact (congrArg _ nothing).trans (List.append_nil _)

variable {buffer : Buffer} (spaced : buffer.Spaced)

include spaced

theorem Spaced.margin : IsMargin buffer.margin := .spaces (buffer.margin_spaces spaced)

theorem Spaced.shows_line (text : String) :
    (buffer.line text).shows = buffer.shows ++ shown (buffer.margin ++ text) := by
  rw [line, shows_push]
  by_cases empty : text = ""
  · rw [empty, String.append_empty, spaced.margin.shown_self]
    exact congrArg _ IsMargin.empty.shown_self
  · rw [if_neg (by simpa using empty)]

theorem Spaced.shows_comment (text : String) :
    (buffer.comment text).shows = buffer.shows ++ shown (buffer.margin ++ ("// " ++ text)) :=
  spaced.shows_line ("// " ++ text)

theorem Spaced.shows_block (text : String) :
    (buffer.block text).shows = buffer.shows ++ (shown text).map (buffer.margin ++ ·) := by
  have lines (pieces : List String) (unbroken : ∀ line ∈ pieces, '\n' ∉ line.toList)
      (buffer : Buffer) (spaced : buffer.Spaced) :
      (pieces.foldl (fun buffer written => buffer.line (trimEnd written)) buffer).shows =
        buffer.shows ++ (solidOf (pieces.map trimEnd)).map (buffer.margin ++ ·) := by
    induction pieces generalizing buffer with
    | nil => simp [solidOf]
    | cons piece rest ih =>
      rw [List.forall_mem_cons] at unbroken
      have same : (buffer.line (trimEnd piece)).margin = buffer.margin := rfl
      rw [List.foldl_cons, ih unbroken.2 (buffer.line (trimEnd piece)) spaced, same,
        spaced.shows_line, spaced.margin.shown_trimmed unbroken.1, List.append_assoc,
        ← List.map_append, ← solidOf_append]
      rfl
  rw [← shown_dropEndBreaks, block, lines _ (fun _ => splitLines_unbroken) buffer spaced]
  rfl

end Buffer

/-! Comment lines and how they are read. A comment is a line if its text is one. -/

/-- The text of a line that is a comment: what follows the comment mark and one space. -/
def commentText? (line : String) : Option String :=
  match line.toList.dropWhile isBlank with
  | '/' :: '/' :: ' ' :: text => some (String.ofList text)
  | '/' :: '/' :: text => some (String.ofList text)
  | _ => none

def comments (lines : List String) : List String := lines.filterMap commentText?

theorem comments_append (first second : List String) :
    comments (first ++ second) = comments first ++ comments second := List.filterMap_append

theorem comments_flatMap {α : Type} (items : List α) (lines : α → List String) :
    comments (items.flatMap lines) = items.flatMap fun item => comments (lines item) := by
  induction items with
  | nil => rfl
  | cons item rest ih => rw [List.flatMap_cons, comments_append, ih, List.flatMap_cons]

/-- The piece of a text in front of its first line break. -/
def firstLine (text : String) : String := (splitLines text).headD ""

def laterLines (text : String) : List String := solidOf ((splitLines text).tail.map trimEnd)

theorem firstLine_unbroken {text : String} (unbroken : '\n' ∉ text.toList) :
    firstLine text = text := by
  rw [firstLine, splitLines_alone unbroken]
  rfl

theorem laterLines_unbroken {text : String} (unbroken : '\n' ∉ text.toList) :
    laterLines text = [] := by
  rw [laterLines, splitLines_alone unbroken]
  rfl

theorem splitLines_behind {start : String} (unbroken : '\n' ∉ start.toList) (text : String) :
    splitLines (start ++ text) = (start ++ firstLine text) :: (splitLines text).tail := by
  have behind (chars : List Char) (free : '\n' ∉ chars) (pieces : List (List Char)) (head : List Char)
      (rest : List Char) (split : rest.splitOn '\n' = head :: pieces) :
      (chars ++ rest).splitOn '\n' = (chars ++ head) :: pieces := by
    induction chars with
    | nil => exact split
    | cons c chars ih =>
      rw [List.mem_cons, not_or] at free
      have other : (c == '\n') = false := by simpa using Ne.symm free.1
      rw [List.cons_append, List.splitOn_cons_eq_if_modifyHead, other, ih free.2]
      rfl
  unfold firstLine splitLines splitAtChar
  cases split : text.toList.splitOn '\n' with
  | nil => exact absurd split (List.splitOn_ne_nil _ _)
  | cons head pieces =>
    rw [String.toList_append, behind start.toList unbroken pieces head text.toList split]
    simp [String.ofList_append]

theorem trimEnd_mark (text : String) :
    trimEnd ("// " ++ text) = if trimEnd text = "" then "//" else "// " ++ trimEnd text := by
  have none : trimEnd text = "" ↔ dropEnd isBlank text.toList = [] := by
    rw [trimEnd, ← String.toList_inj]
    simp
  have mark : dropEnd isBlank "// ".toList = "//".toList := by decide
  by_cases empty : trimEnd text = ""
  · rw [if_pos empty, trimEnd, String.toList_append, dropEnd_append, if_pos (none.mp empty), mark,
      String.ofList_toList]
  · rw [if_neg empty, trimEnd, String.toList_append, dropEnd_append,
      if_neg (fun nil => empty (none.mpr nil)), String.ofList_append, String.ofList_toList]
    rfl

theorem commentText_margin {margin : String} (valid : IsMargin margin) (line : String) :
    commentText? (margin ++ line) = commentText? line := by
  unfold commentText?
  rw [String.toList_append, List.dropWhile_append_of_pos valid.blank]

theorem commentText_mark (text : String) :
    commentText? (trimEnd ("// " ++ text)) = some (trimEnd text) := by
  rw [trimEnd_mark]
  by_cases empty : trimEnd text = ""
  · rw [if_pos empty, empty]
    rfl
  · have slash : isBlank '/' = false := by decide
    rw [if_neg empty, commentText?, String.toList_append]
    simp [slash]

/-- Of a comment line only the text can hold a carriage return. -/
theorem comment_returns {margin : String} (valid : IsMargin margin) (text : String) :
    '\r' ∈ (margin ++ trimEnd ("// " ++ text)).toList ↔ '\r' ∈ (trimEnd text).toList := by
  rw [trimEnd_mark]
  by_cases empty : trimEnd text = ""
  · rw [if_pos empty, empty]
    simp [valid.unreturned]
  · rw [if_neg empty]
    simp [valid.unreturned]

theorem comments_margin {margin : String} (valid : IsMargin margin) (lines : List String) :
    comments (lines.map (margin ++ ·)) = comments lines := by
  unfold comments
  rw [List.filterMap_map]
  exact List.filterMap_congr fun line _ => commentText_margin valid line

/-- A comment shows a line of its own for every piece of its text; only the first is a comment. -/
theorem shown_comment {margin : String} (valid : IsMargin margin) (text : String) :
    shown (margin ++ ("// " ++ text)) =
      (margin ++ trimEnd ("// " ++ firstLine text)) :: laterLines text := by
  have start : '\n' ∉ (margin ++ "// ").toList := by simp [valid.unbroken]
  have solid : trimEnd ("// " ++ firstLine text) ≠ "" := by
    rw [trimEnd_mark]
    split
    · decide
    · simp
  rw [← String.append_assoc, shown, splitLines_behind start, List.map_cons, String.append_assoc,
    trimEnd_margin valid.blank, if_neg solid, laterLines]
  simp [solidOf, solid]

end ProxyHeaders.Code
