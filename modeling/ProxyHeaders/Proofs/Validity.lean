import ProxyHeaders.Check.Report
import ProxyHeaders.Generate
import ProxyHeaders.Proofs.Layout.Brackets
import ProxyHeaders.Proofs.Layout.Groups
import ProxyHeaders.Proofs.Mapping.Declared

/-!
Every generated header passes the check: it has the pragma and the include of the resolve header,
and all its brackets are in balance, whatever the types and their members are called.
-/
namespace ProxyHeaders

open ProxyHeaders.Check ProxyHeaders.Code ProxyHeaders.Layout ProxyHeaders.Mapping
  ProxyHeaders.Names ProxyHeaders.Proxy ProxyHeaders.Template ProxyHeaders.Text

/-- The lines that the check looks for in every header. -/
def requiredLines (settings : Settings) : List String :=
  ["#pragma once", "#include \"" ++ settings.resolveHeader ++ "\""]

/-- A job whose preamble is plain code. -/
structure Proxy.Job.Opens (job : Job) : Prop extends job.Sound where
  spaces : ∀ space ∈ job.settings.usingSpaces, Neutral space
  resolveHeader : IsPath job.settings.resolveHeader

namespace Layout

variable {job : Job}

theorem startSheet_sound (valid : job.Opens) (includes : List String)
    (paths : ∀ path ∈ includes, IsPath path) :
    ∃ opening, preamble job includes = .ok opening ∧
      Code.Sound (requiredLines job.settings) [] (startSheet job opening) := by
  have spaces := indent_spaces job.settings
  have fragment : (Fragment.preamble job.settings.usingSpaces job.settings.resolveHeader
      includes).Sound job.style := by
    refine Fragment.preamble_sound valid.macroName.balanced
      (fun space listed => (valid.spaces space listed).balanced) ?_
    intro path listed
    rcases List.mem_cons.mp listed with rfl | listed
    · exact valid.resolveHeader.enclosed
    · exact (paths path listed).enclosed
  have sound := ((Code.Sound.start spaces).block (Fragment.spans_written fragment [])).blank
  refine ⟨_, by rw [preamble, valid.render, rendered], sound.spaces, sound.spans, ?_⟩
  -- Both lines are lines of the preamble, which is written at the outermost level.
  intro mark member
  have listed : ∃ line ∈ (Fragment.preamble job.settings.usingSpaces job.settings.resolveHeader
      includes).lines job.style, line.text = mark ∧ line.endsSolid := by
    simp only [requiredLines, List.mem_cons, List.not_mem_nil, or_false] at member
    rcases member with rfl | rfl
    · exact ⟨[.code "#pragma once"], by simp [Fragment.lines], by decide, by decide⟩
    · have text : Line.text [.code "#include ", .path job.settings.resolveHeader] =
          "#include \"" ++ job.settings.resolveHeader ++ "\"" := by
        simp [Line.text, Part.text, ← String.toList_inj]
      exact ⟨_, by simp [Fragment.lines], text, rfl⟩
  obtain ⟨line, listed, rfl, solid⟩ := listed
  obtain ⟨c, last, notBlank⟩ := endsSolid_last solid
  have spans := followAll_spans (Fragment.followed job.style _) fragment
  have kept : line.text ∈ solidLines (written ((Fragment.preamble job.settings.usingSpaces
      job.settings.resolveHeader includes).lines job.style)) := by
    rw [written, solidLines_unlines spans.unbroken]
    refine List.mem_filter.mpr ⟨List.mem_map.mpr ⟨line, listed, rfl⟩, ?_⟩
    have some : line.text ≠ "" := by
      intro empty
      simp [empty] at last
    simp [some]
  have block := Buffer.mem_block { unit := job.settings.indent } rfl kept
    (trimEnd_solid last notBlank)
  simp only [startSheet, Buffer.blank, Buffer.line, Array.toList_push]
  exact List.mem_append_left _ block

def Header.Sound (settings : Settings) (header : Header) : Prop :=
  ∃ buffer, Code.Sound (requiredLines settings) [] buffer ∧ header.content = buffer.text

theorem combine_sound (valid : job.Opens) {groups : List Group}
    (grouped : ∀ group ∈ groups, group.Sound) :
    ∃ arranged, combine job groups = .ok arranged ∧
      ∀ header ∈ arranged.headers, header.Sound job.settings := by
  obtain ⟨opening, opened, start⟩ := startSheet_sound valid [] (by simp)
  have begun : Sheet.Sound (requiredLines job.settings) []
      { buffer := startSheet job opening } := start
  refine ⟨_, by rw [combine, opened]; rfl, ?_⟩
  simp only [List.forall_mem_singleton]
  exact ⟨_, Sheet.combined_sound valid.toSound begun grouped, rfl⟩

theorem addHeader_sound (valid : job.Opens) {arranged : Arranged}
    (sound : ∀ header ∈ arranged.headers, header.Sound job.settings) {group : Group}
    (grouped : group.Sound) {type : TypeDecl} (plain : type.Plain) :
    ∃ after, addHeader job arranged group type = .ok after ∧
      ∀ header ∈ after.headers, header.Sound job.settings := by
  have paths : ∀ path ∈ (baseInclude job.map type).toList, IsPath path := fun path listed =>
    baseInclude_path valid.toSound (Option.mem_toList.mp listed)
  obtain ⟨opening, opened, start⟩ := startSheet_sound valid _ paths
  have begun : Sheet.Sound (requiredLines job.settings) []
      { arranged.sheet with buffer := startSheet job opening, declared := [] } := start
  refine ⟨_, by rw [addHeader, opened]; rfl, ?_⟩
  simp only [List.forall_mem_append, List.forall_mem_singleton]
  exact ⟨sound, _, Sheet.single_sound valid.toSound begun grouped plain, rfl⟩

theorem split_sound (valid : job.Opens) {groups : List Group}
    (grouped : ∀ group ∈ groups, group.Sound) :
    ∃ arranged, split job groups = .ok arranged ∧
      ∀ header ∈ arranged.headers, header.Sound job.settings := by
  have pairs : ∀ pair ∈ groups.flatMap fun group => group.types.map fun type => (group, type),
      pair.1.Sound ∧ pair.2.Plain := by
    intro pair listed
    obtain ⟨group, member, inside⟩ := List.mem_flatMap.mp listed
    obtain ⟨type, own, rfl⟩ := List.mem_map.mp inside
    exact ⟨grouped group member, (grouped group member).plain type own⟩
  unfold split
  generalize (groups.flatMap fun group => group.types.map fun type => (group, type)) = todo at pairs
  suffices walk : ∀ arranged : Arranged,
      (∀ header ∈ arranged.headers, header.Sound job.settings) →
      ∃ after, todo.foldlM
        (fun arranged pair => addHeader job arranged pair.1 pair.2) arranged = .ok after ∧
        ∀ header ∈ after.headers, header.Sound job.settings from walk {} (by simp)
  induction todo with
  | nil => exact fun arranged sound => ⟨arranged, rfl, sound⟩
  | cons pair rest inner =>
    intro arranged sound
    obtain ⟨group, type⟩ := pair
    obtain ⟨grouped, plain⟩ : group.Sound ∧ type.Plain := pairs (group, type) (by simp)
    obtain ⟨next, added, nextSound⟩ := addHeader_sound valid sound grouped plain
    obtain ⟨after, finished, afterSound⟩ :=
      inner (fun other listed => pairs other (by simp [listed])) next nextSound
    refine ⟨after, ?_, afterSound⟩
    simp only [List.foldlM_cons, added]
    exact finished

theorem groups_sound (map : TypeMap) {types : List TypeDecl}
    (plain : ∀ type ∈ types, type.Plain) : ∀ group ∈ groups map types, group.Sound := by
  intro group member
  obtain ⟨key, keyListed, rfl⟩ := List.mem_map.mp member
  obtain ⟨some, inRun, own⟩ := mem_groupKeys.mp keyListed
  obtain ⟨leader, leads, -, space⟩ := groupOf_leader inRun own
  have kept := (survivors_sublist map types).subset
  refine ⟨?_, ?_⟩
  · rw [space]
    exact (plain leader (kept leads)).space
  · intro type listed
    exact plain type (kept (mem_of_groupOf listed).1)

theorem arrange_sound (valid : job.Opens) {types : List TypeDecl}
    (plain : ∀ type ∈ types, type.Plain) :
    ∃ arranged, arrange job types = .ok arranged ∧
      ∀ header ∈ arranged.headers, header.Sound job.settings := by
  have grouped := groups_sound job.map plain
  simp only [arrange]
  split
  · exact combine_sound valid grouped
  · exact split_sound valid grouped

end Layout

namespace Check

theorem requiredLines_solid {settings : Settings} {line : String}
    (required : line ∈ requiredLines settings) : line ≠ "" ∧ trimEnd line = line := by
  simp only [requiredLines, List.mem_cons, List.not_mem_nil, or_false] at required
  rcases required with rfl | rfl
  · decide
  · have last : ("#include \"" ++ settings.resolveHeader ++ "\"").toList.getLast? = some '"' := by
      simp [List.getLast?_cons]
    exact ⟨by simp [← String.toList_inj], trimEnd_solid last (by decide)⟩

theorem checkHeader_sound {settings : Settings} {header : Header}
    (sound : header.Sound settings) (path : String) :
    checkHeader settings.resolveHeader path (Code.format header.content) = [] := by
  obtain ⟨buffer, buffered, content⟩ := sound
  have spans : Spans [] (splitLines header.content) [] := by
    rw [content]
    exact buffered.spans_text []
  obtain ⟨body, written, solid⟩ := format_solid header.content
  have present : ∀ line ∈ requiredLines settings,
      contains (Code.format header.content) line := by
    intro line required
    obtain ⟨some, trimmed⟩ := requiredLines_solid required
    have listed : line ∈ solidLines header.content := by
      rw [content, Buffer.text_unlines, solidLines_unlines buffered.spans.unbroken]
      exact List.mem_filter.mpr ⟨buffered.marked line required, by simpa using some⟩
    have kept : line ∈ solidLines body := by
      rw [solid]
      refine List.mem_filter.mpr ⟨List.mem_map.mpr ⟨line, ?_, trimmed⟩, by simpa using some⟩
      exact (List.mem_filter.mp listed).1
    rw [written]
    exact contains_line (List.mem_filter.mp kept).1
  have pragma := present "#pragma once" (by simp [requiredLines])
  have included :=
    present ("#include \"" ++ settings.resolveHeader ++ "\"") (by simp [requiredLines])
  have filled : isAllBlank (Code.format header.content) = false := by
    have mark : '#' ∈ (Code.format header.content).toList :=
      ((occursIn_iff _ _).mp pragma).subset (by decide)
    rw [isAllBlank, List.all_eq_false]
    exact ⟨'#', mark, by decide⟩
  simp [checkHeader, filled, pragma, included, balance_format spans]

end Check

/-- The settings that say nothing but the image, the indentation and the layout. -/
def plainSettings (imageName : Option String) (indentSize : Int) (singleFile : Bool) : Settings :=
  { imageName, indentSize, singleFile }

theorem jobFor_opens (imageName : Option String) (indentSize : Int) (singleFile : Bool)
    {sanitizer : Sanitizer} (wordy : sanitizer.Wordy) {types : List TypeDecl}
    (plain : ∀ type ∈ types, type.Plain) :
    (jobFor (plainSettings imageName indentSize singleFile) sanitizer renderer types).Opens := by
  refine { render := rfl, renderFor := fun _ => rfl, macroName := ?_, placeholder := ?_
           wordy := ?_, declared := ?_, spaces := ?_, resolveHeader := ?_ }
  · show Neutral "O"
    decide
  · show Neutral "Behaviour"
    decide
  · simp only [jobFor, (TypeMap.declareAll_rest _ types).1]
    exact wordy
  · intro type member
    rcases TypeMap.declareAll_declared _ types type member with none | own
    · simp at none
    · exact (plain type own).space
  · show ∀ space ∈ ["BNM", "BNM::IL2CPP", "BNM::Structures", "BNM::Structures::Unity",
      "BNM::UnityEngine"], Neutral space
    decide
  · show IsPath "BNMResolve.hpp"
    decide

namespace Generator

def used (generator : Generator) (earlier : List (List TypeDecl)) : Generator :=
  earlier.foldl (fun generator types => (generator.run types).2) generator

/-- A generator with these settings and the shelf's templates that keeps nothing but words. -/
structure Ready (settings : Settings) (generator : Generator) : Prop where
  settings : generator.settings = settings
  render : generator.render = renderer
  wordy : generator.sanitizer.Wordy

theorem run_ready {settings : Settings} {generator : Generator} (ready : generator.Ready settings)
    (types : List TypeDecl) : (generator.run types).2.Ready settings :=
  ⟨ready.settings, ready.render, Sanitizer.keepAll_wordy ready.wordy (types.flatMap namesIn)⟩

theorem used_ready {settings : Settings} {generator : Generator} (ready : generator.Ready settings)
    (earlier : List (List TypeDecl)) : (generator.used earlier).Ready settings := by
  unfold used
  induction earlier generalizing generator with
  | nil => exact ready
  | cons types rest inner => exact inner (run_ready ready types)

end Generator

/-- Whatever a generator was used for before, all headers that it generates for types without line
breaks in their members' names and with dotted namespaces pass the check. -/
theorem generated_headers_valid (imageName : Option String) (indentSize : Int) (singleFile : Bool)
    (earlier : List (List TypeDecl)) (types : List TypeDecl)
    (plain : ∀ type ∈ types, type.Plain) :
    let settings := plainSettings imageName indentSize singleFile
    ∃ generation, ((({ settings } : Generator).used earlier).run types).1 = .ok generation ∧
      ∀ header ∈ generation.headers,
        checkHeader settings.resolveHeader header.path header.content = [] := by
  intro settings
  have fresh : Generator.Ready settings { settings } := ⟨rfl, rfl, Sanitizer.wordy_forHeaders⟩
  have ready := Generator.used_ready fresh earlier
  have opens := jobFor_opens imageName indentSize singleFile ready.wordy plain
  obtain ⟨arranged, arranging, sound⟩ := arrange_sound opens plain
  simp only [Generator.run, generateWith, generateOn, ready.settings, ready.render]
  change arrange (jobFor settings _ renderer types) types = .ok arranged at arranging
  rw [arranging]
  refine ⟨_, rfl, ?_⟩
  simp only [List.forall_mem_map]
  exact fun header member => checkHeader_sound (sound header member) header.path

/-- A class whose names would close brackets, literals and comments if they were written as they
stand. -/
def oddlyNamed : TypeDecl :=
  { name := "Odd\"(\x7b\\", space := some "Game.UI"
    fields := [
      { name := "a*/]\x7d\""
        type := { name := "Int32", space := some "System", category := .structType } },
      { name := "b//'["
        type := { name := "Other(", space := some "Game", category := .classType } }] }

theorem oddlyNamed_valid :
    (∀ type ∈ [oddlyNamed], type.Plain) ∧
    ∃ generation,
      ((({ settings := plainSettings none 4 false } : Generator).used [[oddlyNamed]]).run
        [oddlyNamed]).1 = .ok generation ∧
      ∀ header ∈ generation.headers,
        checkHeader "BNMResolve.hpp" header.path header.content = [] := by
  have plain : ∀ type ∈ [oddlyNamed], type.Plain := by
    simp only [List.forall_mem_singleton]
    have fields : ∀ field ∈ oddlyNamed.fields,
        Unbroken field.name ∧ Unbroken field.type.name ∧ Dotted field.type.space ∧
          field.type.element = none ∧ field.type.arguments = [] := by
      simp only [oddlyNamed, List.forall_mem_cons]
      decide
    refine ⟨by decide, by simp [oddlyNamed], ?_, by simp [oddlyNamed], by simp [oddlyNamed],
      by simp [oddlyNamed]⟩
    intro field member
    obtain ⟨name, typeName, space, element, arguments⟩ := fields field member
    exact ⟨name, .alone element arguments typeName space⟩
  exact ⟨plain, generated_headers_valid none 4 false [[oddlyNamed]] [oddlyNamed] plain⟩

end ProxyHeaders
