import ProxyHeaders.Code.Buffer
import ProxyHeaders.Proofs.Check.Lines

/-!
What writing to a buffer does. It only appends, and what is appended depends on nothing that the
buffer holds; of the brackets that its lines leave open, it keeps account. What a header shows of a
buffer in the end are its lines that are not blank, without blanks at their ends.
-/
namespace ProxyHeaders.Code

open ProxyHeaders.Check ProxyHeaders.Text

/-- A buffer behind margins of spaces whose lines leave the brackets `opened` open; the lines
`marks` are among them. -/
structure Sound (marks : List String) (opened : List Char) (buffer : Buffer) : Prop where
  spaces : ∀ c ∈ buffer.unit.toList, c = ' '
  spans : Spans [] buffer.lines.toList opened
  marked : ∀ mark ∈ marks, mark ∈ buffer.lines.toList

theorem Buffer.margin_spaces (buffer : Buffer) (spaces : ∀ c ∈ buffer.unit.toList, c = ' ') :
    ∀ c ∈ buffer.margin.toList, c = ' ' := by
  intro c member
  simp only [Buffer.margin, String.toList_join, List.mem_flatMap] at member
  obtain ⟨unit, copy, inside⟩ := member
  rw [List.eq_of_mem_replicate copy] at inside
  exact spaces c inside

theorem Buffer.text_unlines (buffer : Buffer) : buffer.text = unlines buffer.lines.toList := by
  unfold Buffer.text
  by_cases empty : buffer.lines = #[]
  · simp [empty, unlines]
  · rw [if_neg (by simpa using empty), unlines_joinLines (by simpa using empty)]

theorem Buffer.block_outermost {buffer : Buffer} (outermost : buffer.level = 0) (code : String) :
    (buffer.block code).lines.toList =
      buffer.lines.toList ++ (splitLines (dropEndBreaks code)).map trimEnd := by
  unfold Buffer.block
  generalize splitLines (dropEndBreaks code) = lines
  induction lines generalizing buffer with
  | nil => simp
  | cons line rest inner =>
    have level : (buffer.line (trimEnd line)).level = 0 := outermost
    have margin : buffer.margin = "" := by simp [Buffer.margin, outermost]
    have written : (if (trimEnd line).isEmpty then "" else buffer.margin ++ trimEnd line) =
        trimEnd line := by
      by_cases empty : trimEnd line = ""
      · simp [empty]
      · simp [empty, margin]
    rw [List.foldl_cons, inner level]
    simpa [Buffer.line] using written

theorem Buffer.mem_block (buffer : Buffer) (outermost : buffer.level = 0)
    {code line : String} (solid : line ∈ solidLines code) (trimmed : trimEnd line = line) :
    line ∈ (buffer.block code).lines.toList := by
  rw [← solidLines_dropEndBreaks] at solid
  rw [Buffer.block_outermost outermost]
  exact List.mem_append_right _
    (List.mem_map.mpr ⟨line, (List.mem_filter.mp solid).1, trimmed⟩)

namespace Sound

variable {marks : List String} {opened after : List Char} {buffer : Buffer}

theorem start {unit : String} (spaces : ∀ c ∈ unit.toList, c = ' ') :
    Sound [] [] ({ unit } : Buffer) :=
  ⟨spaces, .done [], by simp⟩

theorem line (sound : Sound marks opened buffer) {text : String}
    (turn : Turns opened text after) : Sound marks after (buffer.line text) := by
  refine ⟨sound.spaces, ?_, ?_⟩
  · simp only [Buffer.line, Array.toList_push]
    refine sound.spans.append (.one ?_)
    by_cases empty : text.isEmpty
    · have nothing : text = "" := by simpa using empty
      simpa [nothing] using turn
    · simpa [empty] using turn.behind (buffer.margin_spaces sound.spaces)
  · intro mark member
    simp [Buffer.line, sound.marked mark member]

theorem blank (sound : Sound marks opened buffer) : Sound marks opened buffer.blank :=
  sound.line (turns_empty opened)

theorem comment (sound : Sound marks opened buffer) {text : String}
    (unbroken : '\n' ∉ text.toList) : Sound marks opened (buffer.comment text) :=
  sound.line (turns_comment opened unbroken)

theorem indent (sound : Sound marks opened buffer) (levels : Int) :
    Sound marks opened (buffer.indent levels) :=
  ⟨sound.spaces, sound.spans, sound.marked⟩

theorem dedent (sound : Sound marks opened buffer) (levels : Int) :
    Sound marks opened (buffer.dedent levels) :=
  sound.indent (-levels)

theorem block (sound : Sound marks opened buffer) {code : String}
    (spans : Spans opened (splitLines code) after) : Sound marks after (buffer.block code) := by
  -- A block loses the breaks at its end before it is split, which drops empty lines only.
  have body : Spans opened (splitLines (dropEndBreaks code)) after := by
    rw [← Spans.solid, ← solidLines, solidLines_dropEndBreaks, solidLines, Spans.solid]
    exact spans
  unfold Buffer.block
  generalize splitLines (dropEndBreaks code) = lines at body
  clear spans
  induction body generalizing buffer with
  | done => exact sound
  | next turn _ inner => exact inner (sound.line turn.trimmed)

theorem spans_text (sound : Sound marks [] buffer) (outer : List Char) :
    Spans outer (splitLines buffer.text) outer := by
  have solid : solidLines buffer.text = solidOf buffer.lines.toList := by
    rw [Buffer.text_unlines, solidLines_unlines sound.spans.unbroken]
  rw [← Spans.solid, ← solidLines, solid, Spans.solid]
  simpa using sound.spans.under outer

end Sound

/-! Writing appends, and what is shown of the lines -/

namespace Buffer

theorem block_level (buffer : Buffer) (code : String) : (buffer.block code).level = buffer.level := by
  unfold block
  generalize splitLines (dropEndBreaks code) = lines
  induction lines generalizing buffer with
  | nil => rfl
  | cons line rest ih => exact ih (buffer.line (trimEnd line))

def emptied (buffer : Buffer) : Buffer := { buffer with lines := #[] }

/-- Writing appends what it would write to an empty buffer, and leaves the unit as it is. -/
structure Appends (write : Buffer → Buffer) : Prop where
  unit : ∀ buffer, (write buffer).unit = buffer.unit
  level : ∀ buffer, (write buffer).level = (write buffer.emptied).level
  lines : ∀ buffer, (write buffer).lines.toList =
    buffer.lines.toList ++ (write buffer.emptied).lines.toList

namespace Appends

theorem same : Appends id := by
  constructor
  · intro buffer
    rfl
  · intro buffer
    rfl
  · intro buffer
    simp [emptied]

theorem then_ {first second : Buffer → Buffer} (before : Appends first) (after : Appends second) :
    Appends fun buffer => second (first buffer) := by
  -- An empty buffer is known by its unit and its level, which the first step leaves alike.
  have middle (buffer : Buffer) : (first buffer).emptied = (first buffer.emptied).emptied := by
    have unit : (first buffer).unit = (first buffer.emptied).unit := by
      rw [before.unit, before.unit]
      rfl
    simp only [emptied, unit, before.level buffer]
  constructor
  · intro buffer
    rw [after.unit, before.unit]
  · intro buffer
    rw [after.level, middle, ← after.level]
  · intro buffer
    rw [after.lines, before.lines, middle, after.lines (first buffer.emptied), List.append_assoc]

theorem each {α : Type} {write : Buffer → α → Buffer} (step : ∀ item, Appends (write · item))
    (items : List α) : Appends fun buffer => items.foldl write buffer := by
  induction items with
  | nil => exact same
  | cons item rest ih => exact (step item).then_ ih

theorem line (text : String) : Appends (·.line text) := by
  constructor
  · intro buffer
    rfl
  · intro buffer
    rfl
  · intro buffer
    simp only [Buffer.line, emptied, Array.toList_push, List.nil_append]
    rfl

theorem blank : Appends blank := line ""

theorem comment (text : String) : Appends (·.comment text) := line ("// " ++ text)

theorem indent (levels : Int) : Appends (·.indent levels) := by
  constructor
  · intro buffer
    rfl
  · intro buffer
    rfl
  · intro buffer
    simp [Buffer.indent, emptied]

theorem block (code : String) : Appends (·.block code) :=
  each (fun written => line (trimEnd written)) (splitLines (dropEndBreaks code))

end Appends

end Buffer

/-- What the normal form leaves of a text: its lines that are not blank, trimmed at their ends. -/
def shown (text : String) : List String := solidOf ((splitLines text).map trimEnd)

theorem shown_unlines (lines : List String) : shown (unlines lines) = lines.flatMap shown := by
  induction lines with
  | nil => rfl
  | cons line rest ih =>
    rw [unlines_cons, shown, splitLines_break, String.ofList_toList, String.ofList_toList,
      List.map_append, solidOf_append, List.flatMap_cons, ← ih]
    rfl

/-- The lines of a header that are not empty are what it shows of each line written to it. -/
theorem solidLines_format (lines : List String) :
    solidLines (format (unlines lines)) = lines.flatMap shown := by
  obtain ⟨body, written, solid⟩ := format_solid (unlines lines)
  have ending : solidLines (body ++ "\n") = solidLines body := by
    have whole : body ++ "\n" = String.ofList (body.toList ++ '\n' :: []) := by
      rw [← String.toList_inj]
      simp
    rw [whole, solidLines_break, solidLines_empty, List.append_nil, String.ofList_toList]
  rw [written, ending, solid]
  exact shown_unlines lines

end ProxyHeaders.Code
