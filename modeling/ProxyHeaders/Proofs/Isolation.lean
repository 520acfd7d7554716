import ProxyHeaders.Proofs.Layout.Emitted
import ProxyHeaders.Proofs.Layout.Inheritance
import ProxyHeaders.Proofs.Proxy.Alike

/-!
A type that fails does not disturb the others. Two runs whose templates differ only while one type is
written give the same but for what this type contributes, between the same lines of one header and
between the same warnings: its complete block and its warnings, or a comment and one warning.
-/
namespace ProxyHeaders

open ProxyHeaders.Code ProxyHeaders.Layout ProxyHeaders.Mapping ProxyHeaders.Names
  ProxyHeaders.Proxy ProxyHeaders.Template ProxyHeaders.Text

def jobEach (settings : Settings) (sanitizer : Sanitizer) (opening : Renderer)
    (types : List TypeDecl) (render : TypeDecl → Renderer) : Job :=
  { jobFor settings sanitizer opening types with renderFor := render }

/-- What a type contributes where it is defined. If one of the fragments fails that no member's guard
covers, it is the comment about the failure, an empty line and one warning; if none of them does, it
is the complete block of the type with its warnings. -/
def Contributes (job : Job) (scopes : List String) (type : TypeDecl)
    (lines warnings : List String) : Prop :=
  let buffer : Buffer := { unit := job.settings.indent, level := scopes.length }
  match firstFailure (job.renderFor type) job.style (unguarded job type) with
  | some failure =>
    lines = [buffer.margin ++ ("// " ++ failureMessage type failure), ""] ∧
      warnings = [type.fullName ++ ": " ++ failureMessage type failure]
  | none => ∃ code messages complete,
      Proxy.define job type = .written code messages complete ∧ WholeBlock job type code ∧
        lines = (buffer.block code).lines.toList ∧ warnings = messages.warnings

theorem defines_contributes (job : Job) (scopes : List String) (type : TypeDecl) :
    Contributes job scopes type ((Entry.defines type).lines job scopes) (warningsOf job type) := by
  have outcome := define_outcome job type
  unfold Contributes Entry.lines Entry.write warningsOf
  cases failed : firstFailure (job.renderFor type) job.style (unguarded job type) with
  | some failure =>
    rw [failed] at outcome
    simp only at outcome
    simp only [outcome, Definition.appendTo, Definition.messages, Buffer.comment, Buffer.blank,
      Buffer.line]
    simp
  | none =>
    rw [failed] at outcome
    obtain ⟨code, messages, complete, written, whole⟩ := outcome
    simp only [written, Definition.appendTo, Definition.messages]
    exact ⟨code, messages, complete, rfl, whole, rfl, rfl⟩

/-- Two results that are the same but for some lines of one header, between the same lines, and some
warnings, between the same warnings. -/
def SameBeside (lines warnings otherLines otherWarnings : List String)
    (one other : Generation) : Prop :=
  ∃ (left right : List Header) (path : String) (front back before after : List String),
    one.headers = left ++ ⟨path, Code.format (unlines (front ++ lines ++ back))⟩ :: right ∧
    other.headers = left ++ ⟨path, Code.format (unlines (front ++ otherLines ++ back))⟩ :: right ∧
    one.warnings = before ++ warnings ++ after ∧
    other.warnings = before ++ otherWarnings ++ after

theorem ne_of_beside {α : Type} {items before after : List α} {item : α} (once : items.Nodup)
    (split : items = before ++ item :: after) {other : α} (member : other ∈ before ++ after) :
    other ∈ items ∧ other ≠ item := by
  subst split
  constructor
  · rcases List.mem_append.mp member with earlier | later
    · exact List.mem_append_left _ earlier
    · exact List.mem_append_right _ (List.mem_cons_of_mem item later)
  · rintro rfl
    rw [List.nodup_append, List.nodup_cons] at once
    rcases List.mem_append.mp member with earlier | later
    · exact once.2.2 other earlier other List.mem_cons_self rfl
    · exact once.2.1.1 later

/-- What a run gives whose preambles are known: its pages behind them, and the warnings of the types
that it emits. -/
structure Gives (job : Job) (preambles : List String → String) (types : List TypeDecl)
    (generation : Generation) : Prop where
  headers : generation.headers =
    (keptPages [] (pages job types)).map (Page.headerBehind job preambles)
  warnings : generation.warnings = (emitted job.map types).flatMap (warningsOf job)

theorem Gives.beside {job : Job} {preambles : List String → String} {types : List TypeDecl}
    {generation : Generation} (given : Gives job preambles types generation)
    {left right : List Page} {page : Page} {front back : List Entry}
    {earlier later : List TypeDecl} {type : TypeDecl}
    (written : keptPages [] (pages job types) = left ++ page :: right)
    (entries : page.entries = front ++ .defines type :: back)
    (all : emitted job.map types = earlier ++ type :: later) :
    let scopes := front.foldl Entry.scopes []
    generation.headers = left.map (Page.headerBehind job preambles) ++
      ⟨page.path, Code.format (unlines
        (((startSheet job (preambles page.includes)).lines.toList ++
            (segments job [] front).flatMap (·.2)) ++
          (Entry.defines type).lines job scopes ++
          (segments job scopes back).flatMap (·.2)))⟩ ::
        right.map (Page.headerBehind job preambles) ∧
    generation.warnings = earlier.flatMap (warningsOf job) ++ warningsOf job type ++
      later.flatMap (warningsOf job) := by
  constructor
  · rw [given.headers, written, List.map_append, List.map_cons, Page.headerBehind,
      lines_beside job entries]
  · rw [given.warnings, all, List.flatMap_append, List.flatMap_cons, List.append_assoc]

section Runs

variable {settings : Settings} {sanitizer : Sanitizer} {opening : Renderer} {types : List TypeDecl}
  {troubled : TypeDecl} {first second : TypeDecl → Renderer}

theorem define_each {type : TypeDecl} (agree : first type = second type) :
    Proxy.define (jobEach settings sanitizer opening types first) type =
      Proxy.define (jobEach settings sanitizer opening types second) type := by
  have alike : (jobEach settings sanitizer opening types first).Alike
      (jobEach settings sanitizer opening types second) :=
    ⟨rfl, ⟨rfl, rfl, .refl _, fun _ => rfl⟩, rfl⟩
  exact alike.define (.refl type) agree

theorem segments_each {entries : List Entry}
    (agree : ∀ type ∈ definedTypes entries, first type = second type) (scopes : List String) :
    segments (jobEach settings sanitizer opening types first) scopes entries =
      segments (jobEach settings sanitizer opening types second) scopes entries := by
  apply segments_congr
  · rfl
  · rfl
  · intro type member
    exact define_each (agree type member)

theorem headersBehind_each {preambles : List String → String} {pages : List Page}
    (agree : ∀ type ∈ pages.flatMap (fun page => definedTypes page.entries),
      first type = second type) :
    pages.map (Page.headerBehind (jobEach settings sanitizer opening types first) preambles) =
      pages.map (Page.headerBehind (jobEach settings sanitizer opening types second) preambles) := by
  apply List.map_congr_left
  intro page listed
  have own : ∀ type ∈ definedTypes page.entries, first type = second type :=
    fun type member => agree type (List.mem_flatMap.mpr ⟨page, listed, member⟩)
  simp only [Page.headerBehind, Page.lines, segments_each own]
  rfl

theorem warnings_each {list : List TypeDecl} (agree : ∀ type ∈ list, first type = second type) :
    list.flatMap (warningsOf (jobEach settings sanitizer opening types first)) =
      list.flatMap (warningsOf (jobEach settings sanitizer opening types second)) := by
  rw [List.flatMap_def, List.flatMap_def]
  congr 1
  apply List.map_congr_left
  intro type member
  rw [warningsOf, define_each (agree type member)]
  rfl

/-- If no preamble fails, every run succeeds, and all of them have the same preambles. -/
theorem generateEach_gives (settings : Settings) (sanitizer : Sanitizer) (types : List TypeDecl)
    (opens : ∀ style spaces resolveHeader includes, ∃ text,
      opening style (.preamble spaces resolveHeader includes) = .ok text) :
    ∃ preambles, ∀ render, ∃ generation,
      generateEach settings sanitizer opening render types = .ok generation ∧
      Gives (jobEach settings sanitizer opening types render) preambles types generation := by
  have opened (includes : List String) :
      ∃ text, preamble (jobFor settings sanitizer opening types) includes = .ok text :=
    opens _ _ _ _
  choose preambles preamblesOpened using opened
  refine ⟨preambles, ?_⟩
  intro render
  have known (includes : List String) :
      preamble (jobEach settings sanitizer opening types render) includes =
        .ok (preambles includes) := preamblesOpened includes
  obtain ⟨generation, generated, shown, warnings, -⟩ :=
    generateOn_kept (fun includes => ⟨_, known includes⟩) types
  exact ⟨generation, generated, shown_headers known shown, warnings⟩

section Pair

variable {preambles : List String → String} {one other : Generation}
  (given : Gives (jobEach settings sanitizer opening types first) preambles types one)
  (otherGiven : Gives (jobEach settings sanitizer opening types second) preambles types other)
  (agree : ∀ type ∈ types, type ≠ troubled → first type = second type)

include given otherGiven agree

theorem same_of_absent
    (absent : troubled ∉ emitted (jobFor settings sanitizer opening types).map types) :
    one.headers = other.headers ∧ one.warnings = other.warnings := by
  let job := jobEach settings sanitizer opening types
  have untroubled : ∀ type ∈ emitted (job first).map types, first type = second type := by
    intro type member
    apply agree type (mem_of_emitted member)
    rintro rfl
    exact absent member
  constructor
  · rw [given.headers, otherGiven.headers]
    rw [← keptPages_emitted] at untroubled
    exact headersBehind_each untroubled
  · rw [given.warnings, otherGiven.warnings]
    exact warnings_each untroubled

theorem same_beside
    (present : troubled ∈ emitted (jobFor settings sanitizer opening types).map types) :
    let job := jobEach settings sanitizer opening types
    ∃ scopes, (scopes, troubled) ∈ emittedIn (job first).map types ∧
      SameBeside ((Entry.defines troubled).lines (job first) scopes)
        (warningsOf (job first) troubled) ((Entry.defines troubled).lines (job second) scopes)
        (warningsOf (job second) troubled) one other := by
  intro job
  obtain ⟨left, page, right, front, back, earlier, later, written, entries, situated, all,
    inFront, behind⟩ := emitted_beside present
  have once : (emitted (job first).map types).Nodup := (emitted_distinct _ _).of_map _
  -- Every other type that is emitted is rendered alike, and so is all that stands beside this one.
  have untroubled : ∀ type ∈ earlier ++ later, first type = second type := by
    intro type member
    obtain ⟨inRun, different⟩ := ne_of_beside once all member
    exact agree type (mem_of_emitted inRun) different
  rw [List.forall_mem_append] at untroubled
  obtain ⟨before, after⟩ := untroubled
  have earlierSame : earlier.flatMap (warningsOf (job first)) =
      earlier.flatMap (warningsOf (job second)) := warnings_each before
  have laterSame : later.flatMap (warningsOf (job first)) =
      later.flatMap (warningsOf (job second)) := warnings_each after
  rw [inFront, List.forall_mem_append] at before
  rw [behind, List.forall_mem_append] at after
  have leftSame : left.map (Page.headerBehind (job first) preambles) =
      left.map (Page.headerBehind (job second) preambles) := headersBehind_each before.1
  have frontSame : segments (job first) [] front = segments (job second) [] front :=
    segments_each before.2 []
  have backSame (scopes : List String) :
      segments (job first) scopes back = segments (job second) scopes back :=
    segments_each after.1 scopes
  have rightSame : right.map (Page.headerBehind (job first) preambles) =
      right.map (Page.headerBehind (job second) preambles) := headersBehind_each after.2
  have sheetSame (text : String) : startSheet (job second) text = startSheet (job first) text := rfl
  obtain ⟨headers, warnings⟩ := given.beside written entries all
  obtain ⟨otherHeaders, otherWarnings⟩ := otherGiven.beside written entries all
  rw [← leftSame, ← frontSame, ← backSame, ← rightSame, sheetSame] at otherHeaders
  rw [← earlierSame, ← laterSame] at otherWarnings
  exact ⟨_, situated, _, _, _, _, _, _, _, headers, otherHeaders, warnings, otherWarnings⟩

end Pair

/-- A type that fails does not disturb the others. If no preamble fails and two runs render all types
but one alike, both of them succeed and define every other type by the same text with the same
messages. They are the same but for what this type contributes, which is its complete block with its
warnings or, where a failure is not caught within it, a comment, an empty line and one warning. -/
theorem failing_type_contained
    (opens : ∀ style spaces resolveHeader includes, ∃ text,
      opening style (.preamble spaces resolveHeader includes) = .ok text)
    (agree : ∀ type ∈ types, type ≠ troubled → first type = second type) :
    let job := jobEach settings sanitizer opening types
    ∃ one other,
      generateEach settings sanitizer opening first types = .ok one ∧
      generateEach settings sanitizer opening second types = .ok other ∧
      (∀ type ∈ types, type ≠ troubled →
        Proxy.define (job first) type = Proxy.define (job second) type) ∧
      (troubled ∉ emitted (job first).map types →
        one.headers = other.headers ∧ one.warnings = other.warnings) ∧
      (troubled ∈ emitted (job first).map types →
        ∃ scopes lines warnings otherLines otherWarnings,
          (scopes, troubled) ∈ emittedIn (job first).map types ∧
          Contributes (job first) scopes troubled lines warnings ∧
          Contributes (job second) scopes troubled otherLines otherWarnings ∧
          SameBeside lines warnings otherLines otherWarnings one other) := by
  intro job
  obtain ⟨preambles, gives⟩ := generateEach_gives settings sanitizer types opens
  obtain ⟨one, generated, given⟩ := gives first
  obtain ⟨other, otherGenerated, otherGiven⟩ := gives second
  refine ⟨one, other, generated, otherGenerated, ?_, ?_, ?_⟩
  · exact fun type member different => define_each (agree type member different)
  · exact same_of_absent given otherGiven agree
  · intro present
    obtain ⟨scopes, situated, same⟩ := same_beside given otherGiven agree present
    exact ⟨scopes, _, _, _, _, situated, defines_contributes (job first) scopes troubled,
      defines_contributes (job second) scopes troubled, same⟩

end Runs

/-! An animal and a cat whose struct has no accessor, since it fails to render. -/

def catless (type : TypeDecl) : Renderer :=
  if type.name == "Cat" then fun _ _ => .error (.other "no cats") else renderer

theorem catless_contained :
    (∀ style spaces resolveHeader includes, ∃ text,
      renderer style (.preamble spaces resolveHeader includes) = .ok text) ∧
    (∀ type ∈ [animal, cat], type ≠ cat → renderer = catless type) ∧
    ∀ singleFile : Bool, ∃ one other lines warnings,
      generateEach { singleFile } Sanitizer.forHeaders renderer (fun _ => renderer) [animal, cat] =
        .ok one ∧
      generateEach { singleFile } Sanitizer.forHeaders renderer catless [animal, cat] = .ok other ∧
      SameBeside lines warnings ["    // Error generating class Cat: no cats", ""]
        ["Zoo.Cat: Error generating class Cat: no cats"] one other := by
  have opens : ∀ style spaces resolveHeader includes, ∃ text,
      renderer style (.preamble spaces resolveHeader includes) = .ok text :=
    fun style spaces resolveHeader includes => ⟨_, rendered style _⟩
  have agree : ∀ type ∈ [animal, cat], type ≠ cat → renderer = catless type := by
    simp [catless, animal]
  refine ⟨opens, agree, ?_⟩
  intro singleFile
  have distinct : ([animal, cat].map (·.fullName)).Nodup := by decide
  have stay : survivors (jobEach { singleFile } Sanitizer.forHeaders renderer [animal, cat]
      fun _ => renderer).map [animal, cat] = [animal, cat] := by
    cases singleFile <;> rfl
  -- The failing type is among those that are emitted, so the run beside it says something.
  have present : cat ∈ emitted (jobEach { singleFile } Sanitizer.forHeaders renderer [animal, cat]
      fun _ => renderer).map [animal, cat] := by
    rw [mem_emitted distinct, stay]
    exact List.mem_cons_of_mem animal List.mem_cons_self
  obtain ⟨one, other, generated, otherGenerated, -, -, beside⟩ :=
    failing_type_contained opens agree
  obtain ⟨scopes, lines, warnings, otherLines, otherWarnings, situated, -, broken, same⟩ :=
    beside present
  rw [emittedIn_eq distinct, mem_groupedTypes distinct, stay] at situated
  obtain ⟨-, rfl⟩ := situated
  obtain ⟨rfl, rfl⟩ := broken
  exact ⟨one, other, lines, warnings, generated, otherGenerated, same⟩

end ProxyHeaders
