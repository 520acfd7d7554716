import ProxyHeaders.Generate
import ProxyHeaders.Proofs.Layout.Kept
import ProxyHeaders.Proofs.Layout.Partition
import ProxyHeaders.Proofs.Template.Lines

/-!
The headers of a run as pages: where each of them is, what it includes, and the entries below its
preamble. If no preamble fails, every page is written as it is listed, but for the entries that repeat
a full name; types of distinct full names repeat none.
-/
namespace ProxyHeaders.Layout

open ProxyHeaders.Code ProxyHeaders.Mapping ProxyHeaders.Names ProxyHeaders.Proxy
  ProxyHeaders.Template

structure Page where
  path : String
  includes : List String
  entries : List Entry

def combinedPage (job : Job) (groups : List Group) : Page :=
  ⟨job.settings.combinedFileName, [], combinedEntries groups⟩

def singlePage (job : Job) (group : Group) (type : TypeDecl) : Page :=
  ⟨unitPath job.map type, (baseInclude job.map type).toList, singleEntries group type⟩

def Group.members (groups : List Group) : List (Group × TypeDecl) :=
  groups.flatMap fun group => group.types.map fun type => (group, type)

def pages (job : Job) (types : List TypeDecl) : List Page :=
  let groups := groups job.map types
  if job.settings.singleFile then [combinedPage job groups]
  else (Group.members groups).map fun (group, type) => singlePage job group type

def Page.header (job : Job) (page : Page) : Header :=
  let opening := written ((Fragment.preamble job.settings.usingSpaces job.settings.resolveHeader
    page.includes).lines job.style)
  ⟨page.path, (page.entries.foldl (Entry.write job) (startSheet job opening)).text⟩

/-- A header as it is laid out: the preamble of its page, and behind it what the entries write. -/
def Page.Laid (job : Job) (page : Page) (header : Header) : Prop :=
  ∃ opening, preamble job page.includes = .ok opening ∧
    header = ⟨page.path, (page.entries.foldl (Entry.write job) (startSheet job opening)).text⟩

def Page.kept (defined : List String) (page : Page) : Page :=
  { page with entries := Layout.kept [] defined page.entries }

/-- Pages one after the other: each header declares anew, what is defined stays so. -/
def keptPages (defined : List String) : List Page → List Page
  | [] => []
  | page :: rest =>
    page.kept defined :: keptPages (withNames defined (definedTypes (page.kept defined).entries)) rest

/-! What the entries of a layout declare and define. -/

section Types

attribute [local simp] Entry.declared? Entry.defined?

@[simp]
theorem declaredTypes_nil : declaredTypes [] = [] := rfl

@[simp]
theorem definedTypes_nil : definedTypes [] = [] := rfl

@[simp]
theorem declaredTypes_cons (entry : Entry) (rest : List Entry) :
    declaredTypes (entry :: rest) = entry.declared?.toList ++ declaredTypes rest := by
  cases entry <;> rfl

@[simp]
theorem definedTypes_cons (entry : Entry) (rest : List Entry) :
    definedTypes (entry :: rest) = entry.defined?.toList ++ definedTypes rest := by
  cases entry <;> rfl

@[simp]
theorem declaredTypes_append (first second : List Entry) :
    declaredTypes (first ++ second) = declaredTypes first ++ declaredTypes second :=
  List.filterMap_append

@[simp]
theorem definedTypes_append (first second : List Entry) :
    definedTypes (first ++ second) = definedTypes first ++ definedTypes second :=
  List.filterMap_append

variable (types : List TypeDecl)

@[simp]
theorem declaredTypes_declares : declaredTypes (types.map .declares) = types := by
  rw [declaredTypes, List.filterMap_map]
  exact List.filterMap_some

@[simp]
theorem declaredTypes_defines : declaredTypes (types.map .defines) = [] := by
  simp [declaredTypes, Entry.declared?]

@[simp]
theorem definedTypes_declares : definedTypes (types.map .declares) = [] := by
  simp [definedTypes, Entry.defined?]

@[simp]
theorem definedTypes_defines : definedTypes (types.map .defines) = types := by
  rw [definedTypes, List.filterMap_map]
  exact List.filterMap_some

theorem neighbourEntries_types :
    declaredTypes (neighbourEntries types) = types ∧
      definedTypes (neighbourEntries types) = [] := by
  unfold neighbourEntries
  by_cases alone : types.isEmpty
  · rw [if_pos alone, List.isEmpty_iff.mp alone]
    exact ⟨rfl, rfl⟩
  · rw [if_neg alone]
    constructor
    · simp
    · simp

namespace Group

theorem declarations_types (group : Group) :
    declaredTypes group.declarations = group.types ∧ definedTypes group.declarations = [] := by
  unfold declarations
  constructor
  · cases group.space <;> simp
  · cases group.space <;> simp

theorem definitions_types (group : Group) :
    declaredTypes group.definitions = [] ∧ definedTypes group.definitions = group.types := by
  unfold definitions
  constructor
  · cases group.space <;> simp
  · cases group.space <;> simp

end Group

theorem allDeclarations_types (groups : List Group) :
    declaredTypes (groups.flatMap Group.declarations) = groups.flatMap (·.types) ∧
      definedTypes (groups.flatMap Group.declarations) = [] := by
  induction groups with
  | nil => exact ⟨rfl, rfl⟩
  | cons group rest ih =>
    have first := group.declarations_types
    simp [first, ih]

theorem allDefinitions_types (groups : List Group) :
    declaredTypes (groups.flatMap Group.definitions) = [] ∧
      definedTypes (groups.flatMap Group.definitions) = groups.flatMap (·.types) := by
  induction groups with
  | nil => exact ⟨rfl, rfl⟩
  | cons group rest ih =>
    have first := group.definitions_types
    simp [first, ih]

theorem combinedEntries_types (groups : List Group) :
    declaredTypes (combinedEntries groups) = groups.flatMap (·.types) ∧
      definedTypes (combinedEntries groups) = groups.flatMap (·.types) := by
  have declarations := allDeclarations_types groups
  have definitions := allDefinitions_types groups
  simp [combinedEntries, declarations, definitions]

theorem singleEntries_types (group : Group) (type : TypeDecl) :
    declaredTypes (singleEntries group type) =
        group.types.filter (·.fullName != type.fullName) ∧
      definedTypes (singleEntries group type) = [type] := by
  have neighbours := neighbourEntries_types (group.types.filter (·.fullName != type.fullName))
  cases space : group.space with
  | none => simp [singleEntries, space, neighbours]
  | some name => simp [singleEntries, space, neighbours]

end Types

theorem members_types (groups : List Group) :
    (Group.members groups).map (·.2) = groups.flatMap (·.types) := by
  simp [Group.members, List.map_flatMap, Function.comp_def]

/-- The pages of a run together define the types of its groups, in their order. -/
theorem pages_types (job : Job) (types : List TypeDecl) :
    ((pages job types).flatMap fun page => definedTypes page.entries) =
      (groups job.map types).flatMap (·.types) := by
  unfold pages
  by_cases single : job.settings.singleFile
  · simp [single, combinedPage, combinedEntries_types]
  · simp only [single, Bool.false_eq_true, if_false, List.flatMap_map, singlePage,
      singleEntries_types]
    rw [← members_types, List.map_eq_flatMap]

theorem pages_declareOnce {types : List TypeDecl} (distinct : (types.map (·.fullName)).Nodup)
    (job : Job) :
    ∀ page ∈ pages job types, ((declaredTypes page.entries).map (·.fullName)).Nodup := by
  have once := groups_distinct distinct job.map
  unfold pages
  by_cases single : job.settings.singleFile
  · simpa [single, combinedPage, combinedEntries_types] using once
  · simp only [single, Bool.false_eq_true, if_false, List.forall_mem_map]
    rintro ⟨group, type⟩ listed
    obtain ⟨other, member, inside⟩ := List.mem_flatMap.mp listed
    obtain ⟨own, -, same⟩ := List.mem_map.mp inside
    cases same
    have whole : group.types.Sublist ((groups job.map types).flatMap (·.types)) := by
      rw [List.flatMap_def]
      exact List.sublist_flatten_of_mem (List.mem_map.mpr ⟨group, member, rfl⟩)
    rw [singlePage, (singleEntries_types group type).1]
    exact once.sublist ((List.filter_sublist.trans whole).map _)

theorem keptPages_fresh {defined : List String} {pages : List Page}
    (declaredOnce : ∀ page ∈ pages, ((declaredTypes page.entries).map (·.fullName)).Nodup)
    (definedOnce :
      ((pages.flatMap fun page => definedTypes page.entries).map (·.fullName)).Nodup)
    (undefined : ∀ type ∈ pages.flatMap fun page => definedTypes page.entries,
      type.fullName ∉ defined) : keptPages defined pages = pages := by
  induction pages generalizing defined with
  | nil => rfl
  | cons page rest ih =>
    rw [List.flatMap_cons, List.map_append, List.nodup_append] at definedOnce
    rw [List.flatMap_cons, List.forall_mem_append] at undefined
    obtain ⟨own, others, apart⟩ := definedOnce
    have fresh : Sheet.Fresh { defined } page.entries :=
      ⟨declaredOnce page List.mem_cons_self, own, fun _ _ => List.not_mem_nil, undefined.1⟩
    have whole : page.kept defined = page := congrArg (Page.mk page.path page.includes) fresh.kept
    rw [keptPages, whole, ih (fun other later => declaredOnce other (List.mem_cons_of_mem page later))
      others]
    intro type later known
    rw [withNames, List.mem_append, List.mem_reverse] at known
    rcases known with inPage | before
    · exact apart _ inPage _ (List.mem_map_of_mem later) rfl
    · exact undefined.2 type later before

theorem keptPages_distinct {types : List TypeDecl} (distinct : (types.map (·.fullName)).Nodup)
    (job : Job) : keptPages [] (pages job types) = pages job types := by
  have definedOnce :
      (((pages job types).flatMap fun page => definedTypes page.entries).map (·.fullName)).Nodup := by
    rw [pages_types]
    exact groups_distinct distinct job.map
  exact keptPages_fresh (pages_declareOnce distinct job) definedOnce fun _ _ => List.not_mem_nil

/-! A run lays out its pages, one behind the other. -/

def writePage (job : Job) (arranged : Arranged) (page : Page) : Except RenderFailure Arranged := do
  let opening ← preamble job page.includes
  let start := { arranged.sheet with buffer := startSheet job opening, declared := [] }
  let sheet := page.entries.foldl (Sheet.follow job) start
  return { headers := arranged.headers ++ [⟨page.path, sheet.buffer.text⟩], sheet }

theorem arrange_writes (job : Job) (types : List TypeDecl) :
    arrange job types = (pages job types).foldlM (writePage job) {} := by
  unfold arrange pages
  by_cases single : job.settings.singleFile
  · simp only [single, if_true, List.foldlM_cons, List.foldlM_nil, bind_pure]
    simp only [combine, writePage, combinedPage, Sheet.combined_follows, List.nil_append]
  · simp only [single, Bool.false_eq_true, if_false, split, List.foldlM_map]
    simp only [addHeader, writePage, singlePage, Sheet.single_follows]
    rfl

section Written

variable {job : Job}

section Opened

variable (opens : ∀ includes, ∃ opening, preamble job includes = .ok opening)

include opens

theorem writePage_kept (arranged : Arranged) (page : Page) :
    ∃ after header, writePage job arranged page = .ok after ∧
      after.headers = arranged.headers ++ [header] ∧
      (page.kept arranged.sheet.defined).Laid job header ∧
      arranged.sheet.Records job after.sheet
        (definedTypes (page.kept arranged.sheet.defined).entries) := by
  obtain ⟨opening, opened⟩ := opens page.includes
  let start := { arranged.sheet with buffer := startSheet job opening, declared := [] }
  let sheet := page.entries.foldl (Sheet.follow job) start
  have followed : start.Followed job sheet (page.kept arranged.sheet.defined).entries :=
    start.follow_kept page.entries
  have written : writePage job arranged page =
      .ok { headers := arranged.headers ++ [⟨page.path, sheet.buffer.text⟩], sheet } := by
    rw [writePage, opened]
    rfl
  refine ⟨_, _, written, rfl, ⟨opening, opened, ?_⟩, followed.records.of_written rfl rfl rfl⟩
  rw [followed.buffer]
  rfl

theorem writePages_kept (pages : List Page) (arranged : Arranged) :
    ∃ after headers, pages.foldlM (writePage job) arranged = .ok after ∧
      after.headers = arranged.headers ++ headers ∧
      List.Forall₂ (Page.Laid job) (keptPages arranged.sheet.defined pages) headers ∧
      arranged.sheet.Records job after.sheet
        ((keptPages arranged.sheet.defined pages).flatMap fun page => definedTypes page.entries) := by
  induction pages generalizing arranged with
  | nil => exact ⟨arranged, [], rfl, by simp, .nil, .none _⟩
  | cons page rest ih =>
    obtain ⟨next, header, written, added, laid, records⟩ := writePage_kept opens arranged page
    obtain ⟨after, headers, finished, all, laidAll, recordsAll⟩ := ih next
    -- What the first page has defined is known to the others.
    rw [records.defined] at laidAll recordsAll
    refine ⟨after, header :: headers, ?_, ?_, .cons laid laidAll, ?_⟩
    · simp only [List.foldlM_cons, written]
      exact finished
    · rw [all, added, List.append_assoc]
      rfl
    · exact records.append recordsAll

/-- If no preamble fails, a run lays out its pages without the entries that repeat a name, and
records the types that they define. -/
theorem arrange_kept (types : List TypeDecl) :
    ∃ arranged, arrange job types = .ok arranged ∧
      List.Forall₂ (Page.Laid job) (keptPages [] (pages job types)) arranged.headers ∧
      Sheet.Records job {} arranged.sheet
        ((keptPages [] (pages job types)).flatMap fun page => definedTypes page.entries) := by
  obtain ⟨arranged, headers, arranging, all, laid, records⟩ :=
    writePages_kept opens (pages job types) {}
  rw [← arrange_writes] at arranging
  rw [List.nil_append] at all
  exact ⟨arranged, arranging, all ▸ laid, records⟩

end Opened

section Shelf

variable (render : job.render = renderer)

include render

theorem preamble_written (includes : List String) :
    preamble job includes = .ok (written ((Fragment.preamble job.settings.usingSpaces
      job.settings.resolveHeader includes).lines job.style)) := by
  rw [preamble, render, rendered]

theorem laid_headers {pages : List Page} {headers : List Header}
    (laid : List.Forall₂ (Page.Laid job) pages headers) :
    headers = pages.map (Page.header job) := by
  induction laid with
  | nil => rfl
  | cons first _ ih =>
    obtain ⟨opening, opened, rfl⟩ := first
    rw [preamble_written render] at opened
    cases opened
    rw [List.map_cons, ← ih]
    rfl

theorem arrange_pages {types : List TypeDecl} (distinct : (types.map (·.fullName)).Nodup) :
    ∃ arranged, arrange job types = .ok arranged ∧
      arranged.headers = (pages job types).map (Page.header job) ∧
      arranged.sheet.bodies = completed job ((groups job.map types).flatMap (·.types)) := by
  obtain ⟨arranged, arranging, laid, records⟩ :=
    arrange_kept (fun includes => ⟨_, preamble_written render includes⟩) types
  rw [keptPages_distinct distinct] at laid records
  rw [pages_types] at records
  exact ⟨arranged, arranging, laid_headers render laid, records.bodies.trans (Nat.zero_add _)⟩

end Shelf

end Written

def Page.formatted (job : Job) (page : Page) : Header :=
  { page.header job with content := Code.format (page.header job).content }

theorem generateWith_arranged (settings : Settings) (sanitizer : Sanitizer) {types : List TypeDecl}
    (distinct : (types.map (·.fullName)).Nodup) :
    let job := jobFor settings sanitizer renderer types
    ∃ generation, generateWith settings sanitizer renderer types = .ok generation ∧
      generation.headers = (pages job types).map (Page.formatted job) ∧
      generation.emittedCount = completed job ((groups job.map types).flatMap (·.types)) := by
  intro job
  have render : job.render = renderer := rfl
  obtain ⟨arranged, arranging, headers, bodies⟩ := arrange_pages render distinct
  refine ⟨_, by rw [generateWith, generateOn, arranging]; rfl, ?_, bodies⟩
  rw [headers, List.map_map]
  rfl

/-- A run over types of distinct full names never fails, and its headers are its pages. -/
theorem generateWith_pages (settings : Settings) (sanitizer : Sanitizer) {types : List TypeDecl}
    (distinct : (types.map (·.fullName)).Nodup) :
    ∃ generation, generateWith settings sanitizer renderer types = .ok generation ∧
      generation.headers = (pages (jobFor settings sanitizer renderer types) types).map
        (Page.formatted (jobFor settings sanitizer renderer types)) := by
  obtain ⟨generation, generated, headers, -⟩ := generateWith_arranged settings sanitizer distinct
  exact ⟨generation, generated, headers⟩

end ProxyHeaders.Layout
