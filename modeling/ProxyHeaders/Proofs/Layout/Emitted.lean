import ProxyHeaders.Proofs.Layout.Segments
import ProxyHeaders.Proofs.Selection

/-!
What a run emits, whatever its types are called: of the types that its groups list the first of each
full name, each of them on one of its pages. If no preamble fails the run gives its pages in segments
and the messages of these types.
-/
namespace ProxyHeaders.Layout

open ProxyHeaders.Code ProxyHeaders.Mapping ProxyHeaders.Names ProxyHeaders.Proxy
  ProxyHeaders.Selection ProxyHeaders.Template

/-! Among the types that are defined, those that are kept are the first of each full name. -/

theorem situated_kept (declared defined scopes : List String) (entries : List Entry) :
    situated Entry.defined? scopes (kept declared defined entries) =
      firstsFrom (·.2.fullName) defined (situated Entry.defined? scopes entries) := by
  induction entries generalizing declared defined scopes with
  | nil => rfl
  | cons entry rest ih =>
    cases entry with
    | comment text => exact ih declared defined scopes
    | blank => exact ih declared defined scopes
    | opens space => exact ih declared defined _
    | closes => exact ih declared defined _
    | declares type =>
      by_cases known : declared.contains type.fullName
      · simp only [kept, known, if_true]
        exact ih declared defined scopes
      · simp only [kept, known, Bool.false_eq_true, if_false]
        exact ih _ defined scopes
    | defines type =>
      have cons (entries : List Entry) :
          situated Entry.defined? scopes (.defines type :: entries) =
            (scopes, type) :: situated Entry.defined? scopes entries := rfl
      rw [cons, firstsFrom]
      by_cases known : defined.contains type.fullName
      · simp only [kept, known, if_true]
        exact ih declared defined scopes
      · simp only [kept, known, Bool.false_eq_true, if_false]
        rw [cons, ih]

theorem nested_kept {scopes : List String} {entries : List Entry} (nested : Nested scopes entries)
    (declared defined : List String) : Nested scopes (kept declared defined entries) := by
  induction entries generalizing declared defined scopes with
  | nil => trivial
  | cons entry rest ih =>
    obtain ⟨fits, nestedRest⟩ := nested
    cases entry with
    | comment text => exact ⟨fits, ih nestedRest declared defined⟩
    | blank => exact ⟨fits, ih nestedRest declared defined⟩
    | opens space => exact ⟨fits, ih nestedRest declared defined⟩
    | closes => exact ⟨fits, ih nestedRest declared defined⟩
    | declares type =>
      by_cases known : declared.contains type.fullName
      · simp only [kept, known, if_true]
        exact ih nestedRest declared defined
      · simp only [kept, known, Bool.false_eq_true, if_false]
        exact ⟨fits, ih nestedRest _ defined⟩
    | defines type =>
      by_cases known : defined.contains type.fullName
      · simp only [kept, known, if_true]
        exact ih nestedRest declared defined
      · simp only [kept, known, Bool.false_eq_true, if_false]
        exact ⟨fits, ih nestedRest declared _⟩

theorem definedTypes_situated (scopes : List String) (entries : List Entry) :
    (situated Entry.defined? scopes entries).map (·.2) = definedTypes entries := by
  induction entries generalizing scopes with
  | nil => rfl
  | cons entry rest ih =>
    rw [situated, List.map_append, ih, definedTypes_cons]
    cases entry <;> rfl

/-- The types that a run defines: of those that its groups list, the first of each full name. -/
def emitted (map : TypeMap) (types : List TypeDecl) : List TypeDecl :=
  firsts (·.fullName) ((groups map types).flatMap (·.types))

def emittedIn (map : TypeMap) (types : List TypeDecl) : List (List String × TypeDecl) :=
  firsts (·.2.fullName) (groupedTypes (groups map types))

theorem situated_keptPages (defined : List String) (pages : List Page) :
    ((keptPages defined pages).flatMap fun page => situated Entry.defined? [] page.entries) =
      firstsFrom (·.2.fullName) defined
        (pages.flatMap fun page => situated Entry.defined? [] page.entries) := by
  induction pages generalizing defined with
  | nil => rfl
  | cons page rest ih =>
    have own := situated_kept [] defined [] page.entries
    have behind : withNames defined (definedTypes (page.kept defined).entries) =
        ((firstsFrom (·.2.fullName) defined (situated Entry.defined? [] page.entries)).map
          (·.2.fullName)).reverse ++ defined := by
      rw [← own, withNames, ← definedTypes_situated [], List.map_map]
      rfl
    rw [keptPages, List.flatMap_cons, List.flatMap_cons, ih, behind, firstsFrom_append, ← own]
    rfl

theorem keptPages_defined (job : Job) (types : List TypeDecl) :
    ((keptPages [] (pages job types)).flatMap fun page =>
      situated Entry.defined? [] page.entries) = emittedIn job.map types := by
  rw [situated_keptPages, situated_pages]
  rfl

theorem groupedTypes_types (groups : List Group) :
    (groupedTypes groups).map (·.2) = groups.flatMap (·.types) := by
  simp [groupedTypes, List.map_flatMap, Function.comp_def]

theorem emittedIn_types (map : TypeMap) (types : List TypeDecl) :
    (emittedIn map types).map (·.2) = emitted map types := by
  rw [emitted, ← groupedTypes_types, firsts, firstsFrom_map]
  rfl

theorem keptPages_emitted (job : Job) (types : List TypeDecl) :
    ((keptPages [] (pages job types)).flatMap fun page => definedTypes page.entries) =
      emitted job.map types := by
  rw [← emittedIn_types, ← keptPages_defined, List.map_flatMap]
  simp only [definedTypes_situated]

theorem mem_of_emitted {map : TypeMap} {types : List TypeDecl} {type : TypeDecl}
    (member : type ∈ emitted map types) : type ∈ types := by
  have listed := (firstsFrom_sublist _ [] _).subset member
  obtain ⟨group, inGroups, inside⟩ := List.mem_flatMap.mp listed
  obtain ⟨key, -, rfl⟩ := List.mem_map.mp inGroups
  exact (survivors_sublist map types).subset (mem_of_groupOf inside).1

theorem emitted_distinct (map : TypeMap) (types : List TypeDecl) :
    ((emitted map types).map (·.fullName)).Nodup := (firstsFrom_distinct _ [] _).1

/-- If no full name is given twice, a run defines every type that stays, in its group. -/
theorem emittedIn_eq {types : List TypeDecl} (distinct : (types.map (·.fullName)).Nodup)
    (map : TypeMap) : emittedIn map types = groupedTypes (groups map types) := by
  have once : (((groupedTypes (groups map types)).map (·.2)).map (·.fullName)).Nodup := by
    rw [groupedTypes_types]
    exact groups_distinct distinct map
  rw [List.map_map] at once
  exact firstsFrom_eq once fun _ _ => List.not_mem_nil

theorem mem_emitted {types : List TypeDecl} (distinct : (types.map (·.fullName)).Nodup)
    {map : TypeMap} {type : TypeDecl} :
    type ∈ emitted map types ↔ type ∈ survivors map types := by
  rw [← emittedIn_types, emittedIn_eq distinct, groupedTypes_types,
    (groups_partition distinct map).mem_iff]

/-! The pages of a run in segments. -/

def Page.lines (job : Job) (page : Page) (opening : String) : List String :=
  (startSheet job opening).lines.toList ++ (segments job [] page.entries).flatMap (·.2)

def Page.Shown (job : Job) (page : Page) (header : Header) : Prop :=
  ∃ opening, preamble job page.includes = .ok opening ∧
    header = ⟨page.path, Code.format (Text.unlines (page.lines job opening))⟩

/-- The header that a page is shown as behind a preamble that depends on what it includes. -/
def Page.headerBehind (job : Job) (preambles : List String → String) (page : Page) : Header :=
  ⟨page.path, Code.format (Text.unlines (page.lines job (preambles page.includes)))⟩

theorem shown_headers {job : Job} {preambles : List String → String}
    (opened : ∀ includes, preamble job includes = .ok (preambles includes)) {pages : List Page}
    {headers : List Header} (shown : List.Forall₂ (Page.Shown job) pages headers) :
    headers = pages.map (Page.headerBehind job preambles) := by
  induction shown with
  | nil => rfl
  | cons first _ ih =>
    obtain ⟨opening, found, rfl⟩ := first
    rw [opened] at found
    cases found
    rw [List.map_cons, ← ih, Page.headerBehind]

/-- A type that is emitted is defined on one page, in the scopes of its group, with some types
before it and some behind it. -/
theorem emitted_beside {job : Job} {types : List TypeDecl} {type : TypeDecl}
    (present : type ∈ emitted job.map types) :
    ∃ left page right front back earlier later,
      keptPages [] (pages job types) = left ++ page :: right ∧
      page.entries = front ++ .defines type :: back ∧
      (front.foldl Entry.scopes [], type) ∈ emittedIn job.map types ∧
      emitted job.map types = earlier ++ type :: later ∧
      earlier = (left.flatMap fun page => definedTypes page.entries) ++ definedTypes front ∧
      later = definedTypes back ++ right.flatMap fun page => definedTypes page.entries := by
  have defined := keptPages_emitted job types
  rw [← defined] at present
  obtain ⟨page, listed, own⟩ := List.mem_flatMap.mp present
  obtain ⟨left, right, pages⟩ := List.append_of_mem listed
  obtain ⟨entry, inPage, isDefined⟩ := List.mem_filterMap.mp own
  obtain ⟨front, back, entries⟩ := List.append_of_mem inPage
  have defines : entry = .defines type := by
    cases entry with
    | defines other => rw [Option.some_inj.mp isDefined]
    | _ => cases isDefined
  rw [defines] at entries
  refine ⟨left, page, right, front, back, _, _, pages, entries, ?_, ?_, rfl, rfl⟩
  · rw [← keptPages_defined, List.mem_flatMap]
    refine ⟨page, listed, ?_⟩
    rw [entries, situated_append]
    exact List.mem_append_right _ List.mem_cons_self
  · rw [← defined, pages, List.flatMap_append, List.flatMap_cons, entries]
    simp [Entry.defined?]

theorem lines_beside (job : Job) {page : Page} {front back : List Entry} {type : TypeDecl}
    (entries : page.entries = front ++ .defines type :: back) (opening : String) :
    page.lines job opening =
      ((startSheet job opening).lines.toList ++ (segments job [] front).flatMap (·.2)) ++
        (Entry.defines type).lines job (front.foldl Entry.scopes []) ++
          (segments job (front.foldl Entry.scopes []) back).flatMap (·.2) := by
  rw [Page.lines, entries, segments_append, segments, List.flatMap_append, List.flatMap_cons]
  simp only [List.append_assoc]
  rfl

theorem nested_keptPages {pages : List Page} (nested : ∀ page ∈ pages, Nested [] page.entries)
    (defined : List String) : ∀ page ∈ keptPages defined pages, Nested [] page.entries := by
  induction pages generalizing defined with
  | nil => exact fun _ member => by cases member
  | cons page rest ih =>
    rw [List.forall_mem_cons] at nested
    rw [keptPages, List.forall_mem_cons]
    exact ⟨nested_kept nested.1 [] defined, ih nested.2 _⟩

theorem Page.Laid.shown {job : Job} {page : Page} {header : Header} (laid : page.Laid job header)
    (nested : Nested [] page.entries) :
    page.Shown job { header with content := Code.format header.content } := by
  obtain ⟨opening, opened, rfl⟩ := laid
  -- The sheet starts at the outermost level, behind the lines of the preamble.
  have unit : (startSheet job opening).unit = job.settings.indent := by
    simp only [startSheet, Buffer.blank, Buffer.line, (Buffer.Appends.block opening).unit]
  have level : (startSheet job opening).level = ([] : List String).length := by
    simp only [startSheet, Buffer.blank, Buffer.line, Buffer.block_level]
    rfl
  refine ⟨opening, opened, ?_⟩
  simp only [Buffer.text_unlines, write_segments nested unit level, Page.lines]

theorem shown_of_laid {job : Job} {pages : List Page} {headers : List Header}
    (laid : List.Forall₂ (Page.Laid job) pages headers)
    (nested : ∀ page ∈ pages, Nested [] page.entries) :
    List.Forall₂ (Page.Shown job) pages
      (headers.map fun header => { header with content := Code.format header.content }) := by
  induction laid with
  | nil => exact .nil
  | cons first _ ih =>
    rw [List.forall_mem_cons] at nested
    exact .cons (first.shown nested.1) (ih nested.2)

/-- If no preamble fails, a run gives its pages, and the messages and the number of bodies of the
types that they define. -/
theorem generateOn_kept {job : Job}
    (opens : ∀ includes, ∃ opening, preamble job includes = .ok opening) (types : List TypeDecl) :
    ∃ generation, generateOn job types = .ok generation ∧
      List.Forall₂ (Page.Shown job) (keptPages [] (pages job types)) generation.headers ∧
      generation.warnings = (emitted job.map types).flatMap (warningsOf job) ∧
      generation.emittedCount = completed job (emitted job.map types) := by
  obtain ⟨arranged, arranging, laid, records⟩ := arrange_kept opens types
  rw [keptPages_emitted] at records
  have shown := shown_of_laid laid (nested_keptPages (nested_pages job types) [])
  have bodies : arranged.sheet.bodies = completed job (emitted job.map types) :=
    records.bodies.trans (Nat.zero_add _)
  have warnings : arranged.sheet.diagnostics.lines =
      (emitted job.map types).flatMap (warningsOf job) := by
    simp [Diagnostics.lines, records.errors, records.warnings]
  have generated : generateOn job types = .ok
      { headers := arranged.headers.map fun header =>
          { header with content := Code.format header.content }
        warnings := arranged.sheet.diagnostics.lines, typeCount := types.length
        emittedCount := arranged.sheet.bodies, singleFile := job.settings.singleFile
        imageName := job.image } := by
    rw [generateOn, arranging]
    rfl
  exact ⟨_, generated, shown, warnings, bodies⟩

end ProxyHeaders.Layout
