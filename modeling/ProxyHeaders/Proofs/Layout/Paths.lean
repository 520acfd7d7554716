import ProxyHeaders.Layout.UnitPath
import ProxyHeaders.Proofs.Text.Lines

/-!
Walking along a path. The include from one header to another leads from the directory of the first
to the file of the second.
-/
namespace ProxyHeaders.Layout

open ProxyHeaders.Mapping

/-- Where one segment of a path leads: nowhere else, one back, or further. -/
def enter (segments : List String) (segment : String) : List String :=
  if segment.isEmpty || segment == "." then segments
  else if segment == ".." then segments.dropLast
  else segments ++ [segment]

def walk (start : List String) (path : String) : List String :=
  (Text.splitAtChar '/' path).foldl enter start

theorem normalSegments_walk (path : String) : normalSegments path = walk [] path := rfl

/-- A segment that leads further, and is one of a path. -/
def IsSegment (segment : String) : Prop :=
  segment ≠ "" ∧ segment ≠ "." ∧ segment ≠ ".." ∧ '/' ∉ segment.toList

theorem enter_members {segments : List String} {segment : String} {P : String → Prop}
    (kept : ∀ other ∈ segments, P other)
    (new : segment ≠ "" → segment ≠ "." → segment ≠ ".." → P segment) :
    ∀ other ∈ enter segments segment, P other := by
  unfold enter
  by_cases still : (segment.isEmpty || segment == ".") = true
  · rw [if_pos still]
    exact kept
  · rw [if_neg still]
    simp only [Bool.or_eq_true, String.isEmpty_iff, beq_iff_eq, not_or] at still
    by_cases back : (segment == "..") = true
    · rw [if_pos back]
      exact fun other member => kept other (List.dropLast_subset _ member)
    · rw [if_neg back, List.forall_mem_append, List.forall_mem_singleton]
      exact ⟨kept, new still.1 still.2 (by simpa using back)⟩

theorem walk_members {start : List String} {path : String} {P : String → Prop}
    (kept : ∀ segment ∈ start, P segment)
    (pieces : ∀ piece ∈ Text.splitAtChar '/' path,
      piece ≠ "" → piece ≠ "." → piece ≠ ".." → P piece) :
    ∀ segment ∈ walk start path, P segment := by
  unfold walk
  generalize Text.splitAtChar '/' path = todo at pieces
  induction todo generalizing start with
  | nil => exact kept
  | cons piece rest ih =>
    have reached := enter_members kept (pieces piece List.mem_cons_self)
    exact ih reached fun other member => pieces other (List.mem_cons_of_mem piece member)

theorem split_behind (first second : String) :
    Text.splitAtChar '/' (first ++ "/" ++ second) =
      Text.splitAtChar '/' first ++ Text.splitAtChar '/' second := by
  simp [Text.splitAtChar, List.splitOn_append_cons_self]

theorem walk_append (start : List String) (first second : String) :
    walk start (first ++ "/" ++ second) = walk (walk start first) second := by
  rw [walk, split_behind, List.foldl_append]
  rfl

theorem split_intercalate {segments : List String} (some : segments ≠ [])
    (valid : ∀ segment ∈ segments, '/' ∉ segment.toList) :
    Text.splitAtChar '/' ("/".intercalate segments) = segments := by
  have apart : ∀ chars ∈ segments.map String.toList, '/' ∉ chars := by
    intro chars member
    obtain ⟨segment, listed, rfl⟩ := List.mem_map.mp member
    exact valid segment listed
  have separator : "/".toList = ['/'] := rfl
  rw [Text.splitAtChar, String.toList_intercalate, separator,
    List.splitOn_intercalate '/' apart (by simpa using some), List.map_map]
  simp [Function.comp_def]

theorem dropCommon_common (first second : List String) :
    ∃ common, first = common ++ (dropCommon first second).1 ∧
      second = common ++ (dropCommon first second).2 := by
  induction first generalizing second with
  | nil => exact ⟨[], rfl, rfl⟩
  | cons a as ih =>
    cases second with
    | nil => exact ⟨[], rfl, rfl⟩
    | cons b bs =>
      unfold dropCommon
      by_cases same : a = b
      · obtain ⟨common, left, right⟩ := ih bs
        refine ⟨a :: common, ?_, ?_⟩
        · simpa [same] using left
        · simpa [same] using right
      · exact ⟨[], by simp [same], by simp [same]⟩

theorem relativePath_pieces (fromDir : List String) {toFile : List String}
    (target : ∀ segment ∈ toFile, IsSegment segment) :
    ∃ common up down, fromDir = common ++ up ∧ toFile = common ++ down ∧
      Text.splitAtChar '/' (relativePath fromDir toFile) =
        if List.replicate up.length ".." ++ down = [] then ["."]
        else List.replicate up.length ".." ++ down := by
  obtain ⟨common, left, right⟩ := dropCommon_common fromDir toFile
  refine ⟨common, _, _, left, right, ?_⟩
  simp only [relativePath]
  generalize (dropCommon fromDir toFile).1 = up at left
  generalize (dropCommon fromDir toFile).2 = down at right
  subst left right
  rw [List.map_const']
  by_cases still : List.replicate up.length ".." ++ down = []
  · rw [if_pos still, if_pos (by rw [still]; rfl)]
    rfl
  · rw [if_neg still, if_neg (by simpa using still), split_intercalate still]
    intro segment member
    rcases List.mem_append.mp member with back | forth
    · rw [List.eq_of_mem_replicate back]
      decide
    · exact (target segment (List.mem_append_right common forth)).2.2.2

theorem relativePath_solid (fromDir : List String) {toFile : List String}
    (target : ∀ segment ∈ toFile, IsSegment segment) :
    "" ∉ Text.splitAtChar '/' (relativePath fromDir toFile) := by
  obtain ⟨common, up, down, -, rfl, pieces⟩ := relativePath_pieces fromDir target
  rw [pieces]
  split
  · decide
  · rw [List.mem_append, List.mem_replicate]
    rintro (⟨-, back⟩ | forth)
    · exact absurd back (by decide)
    · exact (target "" (List.mem_append_right common forth)).1 rfl

/-- A step along the segments of a path: `.` stays, a segment leads further, and `..` takes a segment
back. -/
structure PathStep (step : List String → String → List String) : Prop where
  stays : ∀ segments, step segments "." = segments
  further : ∀ segments segment, IsSegment segment → step segments segment = segments ++ [segment]
  back : ∀ segments segment, IsSegment segment → step (segments ++ [segment]) ".." = segments

theorem enter_pathStep : PathStep enter := by
  constructor
  · exact fun segments => rfl
  · rintro segments segment ⟨some, notDot, notBack, -⟩
    simp [enter, some, notDot, notBack]
  · intro segments segment _
    simp [enter]

namespace PathStep

variable {step : List String → String → List String} (steps : PathStep step)

include steps

theorem segments {segments : List String} (valid : ∀ segment ∈ segments, IsSegment segment)
    (start : List String) : segments.foldl step start = start ++ segments := by
  induction segments generalizing start with
  | nil => simp
  | cons segment rest ih =>
    rw [List.foldl_cons, steps.further start segment (valid segment List.mem_cons_self),
      ih fun other member => valid other (List.mem_cons_of_mem segment member)]
    simp

theorem upwards {segments : List String} (valid : ∀ segment ∈ segments, IsSegment segment)
    (start : List String) :
    (List.replicate segments.length "..").foldl step (start ++ segments) = start := by
  induction segments using List.reverseRecOn with
  | nil => simp
  | append_singleton before last ih =>
    rw [List.forall_mem_append, List.forall_mem_singleton] at valid
    rw [List.length_append, List.length_singleton, List.replicate_succ, List.foldl_cons,
      ← List.append_assoc, steps.back _ last valid.2, ih valid.1]

theorem relativePath {fromDir toFile : List String}
    (source : ∀ segment ∈ fromDir, IsSegment segment)
    (target : ∀ segment ∈ toFile, IsSegment segment) :
    (Text.splitAtChar '/' (Layout.relativePath fromDir toFile)).foldl step fromDir = toFile := by
  obtain ⟨common, up, down, rfl, rfl, pieces⟩ := relativePath_pieces fromDir target
  rw [List.forall_mem_append] at source target
  rw [pieces]
  by_cases still : List.replicate up.length ".." ++ down = []
  · obtain ⟨noUp, rfl⟩ := List.append_eq_nil_iff.mp still
    have none : up = [] := by simpa using noUp
    rw [if_pos still, none]
    exact steps.stays _
  · rw [if_neg still, List.foldl_append, steps.upwards source.2, steps.segments target.2]

end PathStep

/-! The include of a header leads to the header of the type's base. -/

/-- The class whose header is included in the header of a type. -/
def includedBase (map : TypeMap) (type : TypeDecl) : Option TypeDecl :=
  if type.isEnum then none else (map.resolveBase type).target?.bind map.declared?

theorem baseInclude_included (map : TypeMap) (type : TypeDecl) :
    baseInclude map type = (includedBase map type).map fun base =>
      relativePath (normalSegments (unitPath map type)).dropLast
        (normalSegments (unitPath map base)) := by
  unfold baseInclude includedBase
  by_cases enum : type.isEnum
  · simp [enum]
  · simp only [enum, Bool.false_eq_true, if_false]
    cases (map.resolveBase type).target?.bind map.declared? with
    | none => rfl
    | some base => rfl

end ProxyHeaders.Layout
