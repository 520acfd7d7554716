import ProxyHeaders.Layout.Arrange
import ProxyHeaders.Proofs.Layout.Paths
import ProxyHeaders.Proofs.Proxy.Definition

/-!
The brackets of a whole header, in either layout: every namespace and every definition closes what
it opens, and the lines of the preamble stay where they are.
-/
namespace ProxyHeaders.Layout

open ProxyHeaders.Check ProxyHeaders.Code ProxyHeaders.Mapping ProxyHeaders.Names
  ProxyHeaders.Proxy ProxyHeaders.Template

variable {job : Job} {marks : List String} {opened : List Char}

namespace Sheet

/-- A sheet whose lines leave the brackets `opened` open, with the lines `marks` among them. -/
def Sound (marks : List String) (opened : List Char) (sheet : Sheet) : Prop :=
  Code.Sound marks opened sheet.buffer

theorem blank_sound {sheet : Sheet} (sound : sheet.Sound marks opened) :
    sheet.blank.Sound marks opened := Code.Sound.blank sound

theorem comment_sound {sheet : Sheet} (sound : sheet.Sound marks opened) {text : String}
    (unbroken : Unbroken text) : (sheet.comment text).Sound marks opened :=
  Code.Sound.comment sound unbroken

theorem forwardDeclaration_turns (valid : job.Sound) (type : TypeDecl) (opened : List Char) :
    Turns opened (forwardDeclaration job.map type) opened := by
  have name := word_balanced (TypeMap.structName_word valid.wordy type.name)
  simp only [forwardDeclaration]
  split
  · have line : Line.followAll opened [[.code "enum class ", .hole (job.map.structName type.name),
        .code " : ", .hole (underlyingSpelling type.enumUnderlying), .code ";"]] =
        some opened := rfl
    have turn := turns_line line
      (by simp [Part.Sound, name, (underlyingSpelling_neutral type.enumUnderlying).balanced])
    simpa [Line.text, Part.text, String.append_assoc] using turn
  · have line : Line.followAll opened [[.code "struct ", .hole (job.map.structName type.name),
        .code ";"]] = some opened := rfl
    have turn := turns_line line (by simp [Part.Sound, name])
    simpa [Line.text, Part.text, String.append_assoc] using turn

theorem declare_sound (valid : job.Sound) {sheet : Sheet} (sound : sheet.Sound marks opened)
    (type : TypeDecl) : (sheet.declare job type).Sound marks opened := by
  unfold declare
  split
  · exact sound
  · exact Code.Sound.line sound (forwardDeclaration_turns valid type opened)

theorem define_sound (valid : job.Sound) {sheet : Sheet} (sound : sheet.Sound marks opened)
    {type : TypeDecl} (plain : type.Plain) : (sheet.define job type).Sound marks opened := by
  obtain ⟨code, messages, complete, written, closed⟩ := define_closed valid plain
  simp only [Sheet.define]
  split
  · exact sound
  · rw [written]
    simp only [Sound, Definition.appendTo]
    exact Code.Sound.block sound (closed opened)

theorem declareAll_sound (valid : job.Sound) {sheet : Sheet} (sound : sheet.Sound marks opened)
    (types : List TypeDecl) : (sheet.declareAll job types).Sound marks opened := by
  unfold declareAll
  induction types generalizing sheet with
  | nil => exact sound
  | cons type rest inner => exact inner (declare_sound valid sound type)

theorem defineAll_sound (valid : job.Sound) {sheet : Sheet} (sound : sheet.Sound marks opened)
    {types : List TypeDecl} (plain : ∀ type ∈ types, type.Plain) :
    (sheet.defineAll job types).Sound marks opened := by
  unfold defineAll
  induction types generalizing sheet with
  | nil => exact sound
  | cons type rest inner =>
    exact inner (define_sound valid sound (plain type (by simp))) fun other member =>
      plain other (List.mem_cons_of_mem type member)

theorem opening_turns {space : String} (dotted : Dotted (some space)) (opened : List Char) :
    Turns opened (opening space) ('\x7b' :: opened) := by
  have line : Line.followAll opened [[.code "namespace ", .hole (scopeOf (some space)),
      .code " \x7b"]] = some ('\x7b' :: opened) := rfl
  have turn := turns_line line (by simp [Part.Sound, (scopeOf_neutral dotted).balanced])
  simpa [Line.text, Part.text, opening, String.append_assoc] using turn

theorem inside_sound {sheet : Sheet} (sound : sheet.Sound marks opened) {space : String}
    (dotted : Dotted (some space)) {write : Sheet → Sheet}
    (writes : ∀ inner : Sheet, inner.Sound marks ('\x7b' :: opened) →
      (write inner).Sound marks ('\x7b' :: opened)) :
    (sheet.inside space write).Sound marks opened := by
  have start := (Code.Sound.line sound (opening_turns dotted opened)).indent 1
  have body := writes { sheet.line (opening space) with
    buffer := (sheet.buffer.line (opening space)).indent } start
  have closing : Turns ('\x7b' :: opened) "\x7d" opened := by
    have line : Line.followAll ('\x7b' :: opened) [[.code "\x7d"]] = some opened := rfl
    simpa [Line.text, Part.text] using turns_line line (by simp [Part.Sound])
  exact (body.dedent 1).line closing

end Sheet

/-- A group of plain types whose namespace is dotted. -/
structure Group.Sound (group : Group) : Prop where
  space : Dotted group.space
  plain : ∀ type ∈ group.types, type.Plain

namespace Sheet

theorem declareGroup_sound (valid : job.Sound) {sheet : Sheet} (sound : sheet.Sound marks opened)
    {group : Group} (grouped : group.Sound) :
    (sheet.declareGroup job group).Sound marks opened := by
  have dotted := grouped.space
  unfold declareGroup
  split
  · exact blank_sound (declareAll_sound valid (comment_sound sound (by decide)) group.types)
  · next space found =>
    refine blank_sound (inside_sound sound (by rwa [found] at dotted) ?_)
    intro inner innerSound
    exact declareAll_sound valid innerSound group.types

theorem defineGroup_sound (valid : job.Sound) {sheet : Sheet} (sound : sheet.Sound marks opened)
    {group : Group} (grouped : group.Sound) :
    (sheet.defineGroup job group).Sound marks opened := by
  have dotted := grouped.space
  unfold defineGroup
  split
  · exact blank_sound (defineAll_sound valid sound grouped.plain)
  · next space found =>
    refine blank_sound (inside_sound sound (by rwa [found] at dotted) ?_)
    intro inner innerSound
    exact defineAll_sound valid innerSound grouped.plain

theorem foldl_sound {write : Sheet → Group → Sheet} {groups : List Group} {sheet : Sheet}
    (sound : sheet.Sound marks opened)
    (step : ∀ group ∈ groups, ∀ sheet : Sheet, sheet.Sound marks opened →
      (write sheet group).Sound marks opened) :
    (groups.foldl write sheet).Sound marks opened := by
  induction groups generalizing sheet with
  | nil => exact sound
  | cons group rest inner =>
    exact inner (step group (by simp) sheet sound) fun other member =>
      step other (List.mem_cons_of_mem group member)

theorem combined_sound (valid : job.Sound) {sheet : Sheet} (sound : sheet.Sound marks opened)
    {groups : List Group} (grouped : ∀ group ∈ groups, group.Sound) :
    (sheet.combined job groups).Sound marks opened := by
  refine foldl_sound (foldl_sound (comment_sound sound (by decide)) ?_) ?_
  · intro group member sheet sound
    exact declareGroup_sound valid sound (grouped group member)
  · intro group member sheet sound
    exact defineGroup_sound valid sound (grouped group member)

theorem declareOthers_sound (valid : job.Sound) {sheet : Sheet} (sound : sheet.Sound marks opened)
    (others : List TypeDecl) : (sheet.declareOthers job others).Sound marks opened := by
  unfold declareOthers
  split
  · exact sound
  · exact blank_sound (declareAll_sound valid (comment_sound sound (by decide)) others)

theorem single_sound (valid : job.Sound) {sheet : Sheet} (sound : sheet.Sound marks opened)
    {group : Group} (grouped : group.Sound) {type : TypeDecl} (plain : type.Plain) :
    (sheet.single job group type).Sound marks opened := by
  have dotted := grouped.space
  simp only [single]
  split
  · exact define_sound valid (declareOthers_sound valid sound _) plain
  · next space found =>
    refine inside_sound sound (by rwa [found] at dotted) ?_
    intro inner innerSound
    exact define_sound valid (declareOthers_sound valid (blank_sound innerSound) _) plain

end Sheet

/-! Paths that a header includes -/

/-- A text of words, slashes and dots. -/
def IsPath (text : String) : Prop := ∀ c ∈ text.toList, isWordChar c || c == '/' || c == '.'

instance (text : String) : Decidable (IsPath text) :=
  decidable_of_iff (text.toList.all fun c => isWordChar c || c == '/' || c == '.')
    (by simp [IsPath])

namespace IsPath

theorem word {text : String} (word : IsWord text) : IsPath text := by
  intro c member
  simp [word c member]

theorem append {first second : String} (start : IsPath first) (finish : IsPath second) :
    IsPath (first ++ second) := by
  intro c member
  rcases List.mem_append.mp (by simpa using member) with early | late
  · exact start c early
  · exact finish c late

theorem intercalate {separator : String} {texts : List String} (between : IsPath separator)
    (paths : ∀ text ∈ texts, IsPath text) : IsPath (separator.intercalate texts) := by
  induction texts with
  | nil => simp [IsPath]
  | cons text rest inner =>
    have first := paths text (by simp)
    have later := inner fun other member => paths other (by simp [member])
    by_cases last : rest = []
    · simpa [last] using first
    · rw [String.intercalate_cons_of_ne_nil last]
      exact (first.append between).append later

theorem enclosed {text : String} (path : IsPath text) :
    '\n' ∉ text.toList ∧ Enclosed text.toList := by
  have plain : ∀ c ∈ text.toList, c ≠ '"' ∧ c ≠ '\\' ∧ c ≠ '\n' := by
    intro c member
    have kind := path c member
    refine ⟨?_, ?_, ?_⟩ <;> (rintro rfl; revert kind; decide)
  exact ⟨fun member => (plain '\n' member).2.2 rfl, enclosed_plain _ plain⟩

end IsPath

theorem unitPath_path {map : TypeMap} (wordy : map.sanitizer.Wordy) {type : TypeDecl}
    (dotted : Dotted type.space) : IsPath (unitPath map type) := by
  have directory : IsPath (directoryOf (stated type.space)) := by
    unfold directoryOf
    split
    · decide
    · next space found =>
      exact .intercalate (by decide) fun part member => .word (dotted space found part member)
  have name := IsPath.word (TypeMap.structName_word wordy type.name)
  exact ((directory.append (by decide)).append name).append (by decide)

theorem normalSegments_path {path : String} (valid : IsPath path) :
    ∀ segment ∈ normalSegments path, IsPath segment := by
  rw [normalSegments_walk]
  apply walk_members
  · simp
  · intro piece member _ _ _ c inside
    exact valid c (Text.mem_splitAtChar member c inside).1

theorem dropCommon_mem {first second : List String} {segment : String}
    (member : segment ∈ (dropCommon first second).2) : segment ∈ second := by
  induction first generalizing second with
  | nil => simpa [dropCommon] using member
  | cons a as inner =>
    cases second with
    | nil => simp [dropCommon] at member
    | cons b bs =>
      unfold dropCommon at member
      split at member
      · exact List.mem_cons_of_mem b (inner member)
      · exact member

theorem relativePath_path {fromDir toFile : List String}
    (paths : ∀ segment ∈ toFile, IsPath segment) : IsPath (relativePath fromDir toFile) := by
  simp only [relativePath]
  split
  · decide
  · refine .intercalate (by decide) ?_
    intro segment member
    rcases List.mem_append.mp member with up | down
    · obtain ⟨_, -, rfl⟩ := List.mem_map.mp up
      decide
    · exact paths segment (dropCommon_mem down)

theorem baseInclude_path (valid : job.Sound) {type : TypeDecl} {path : String}
    (found : baseInclude job.map type = some path) : IsPath path := by
  unfold baseInclude at found
  split at found
  · simp at found
  · split at found
    · next target known =>
      obtain ⟨name, -, search⟩ := Option.bind_eq_some_iff.mp known
      have declared := valid.declared target (List.mem_of_find?_eq_some search)
      rw [← Option.some_inj.mp found]
      exact relativePath_path (normalSegments_path (unitPath_path valid.wordy declared))
    · simp at found

end ProxyHeaders.Layout
