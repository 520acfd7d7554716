import ProxyHeaders.Proofs.Layout.Emitted

/-!
The two layouts agree. One header for everything and one header for each type define the same types
in the same order, each by the same lines behind the same indentation, and give the same messages;
they differ in their preambles, in the namespaces around the definitions and in what they declare.
-/
namespace ProxyHeaders

open ProxyHeaders.Code ProxyHeaders.Layout ProxyHeaders.Mapping ProxyHeaders.Names
  ProxyHeaders.Proxy ProxyHeaders.Template ProxyHeaders.Text

def Proxy.Job.inLayout (job : Job) (singleFile : Bool) : Job :=
  { job with settings := { job.settings with singleFile } }

namespace Layout

/-- A header shows a page: of all lines of its preamble and its segments those that are not blank,
and nothing else but empty lines. -/
def Page.Reads (job : Job) (page : Page) (header : Header) : Prop :=
  header.path = page.path ∧ ∃ opening, preamble job page.includes = .ok opening ∧
    solidLines header.content =
      (startSheet job opening).lines.toList.flatMap shown ++
        (segments job [] page.entries).flatMap fun segment => segment.2.flatMap shown

theorem Page.Shown.reads {job : Job} {page : Page} {header : Header}
    (shown : page.Shown job header) : page.Reads job header := by
  obtain ⟨opening, opened, rfl⟩ := shown
  refine ⟨rfl, opening, opened, ?_⟩
  rw [solidLines_format, Page.lines, List.flatMap_append, List.flatMap_assoc]

/-! The layout is not asked about while a type is written. -/

theorem define_inLayout (job : Job) (singleFile : Bool) (type : TypeDecl) :
    Proxy.define (job.inLayout singleFile) type = Proxy.define job type := by
  unfold Proxy.define defineEnum defineClass
  rfl

theorem definition_inLayout (job : Job) (singleFile : Bool) (scopes : List String)
    (type : TypeDecl) :
    (Entry.defines type).lines (job.inLayout singleFile) scopes =
      (Entry.defines type).lines job scopes := by
  simp only [Entry.lines, Entry.write, define_inLayout]
  rfl

theorem warningsOf_inLayout (job : Job) (singleFile : Bool) :
    warningsOf (job.inLayout singleFile) = warningsOf job := by
  unfold warningsOf
  simp only [define_inLayout]

theorem completed_inLayout (job : Job) (singleFile : Bool) :
    completed (job.inLayout singleFile) = completed job := by
  unfold completed
  simp only [define_inLayout]

end Layout

/-- The types that some pages define, each with the lines of its definition. -/
def Layout.definedOn (job : Job) (pages : List Page) : List (TypeDecl × List String) :=
  pages.flatMap fun page => definitions (segments job [] page.entries)

theorem Layout.definedOn_inLayout (job : Job) (singleFile : Bool) (types : List TypeDecl) :
    definedOn (job.inLayout singleFile) (keptPages [] (pages (job.inLayout singleFile) types)) =
      (emittedIn job.map types).map fun (scopes, type) =>
        (type, (Entry.defines type).lines job scopes) := by
  have each := keptPages_defined (job.inLayout singleFile) types
  simp only [definedOn, definitions_segments, definition_inLayout]
  rw [← List.map_flatMap, each]
  rfl

/-- For every list of types and all settings both layouts give headers, with the same warnings and
the same number of bodies. All lines of a header that are not blank are those of its preamble and of
what its page lists; and the pages of both layouts define the same types, in the same order, each of
them by the same lines. -/
theorem layouts_agree (settings : Settings) (sanitizer : Sanitizer) (types : List TypeDecl) :
    let job (singleFile : Bool) := jobFor { settings with singleFile } sanitizer renderer types
    let written (singleFile : Bool) := keptPages [] (pages (job singleFile) types)
    ∃ combined split : Generation,
      generateWith { settings with singleFile := true } sanitizer renderer types = .ok combined ∧
      generateWith { settings with singleFile := false } sanitizer renderer types = .ok split ∧
      split.warnings = combined.warnings ∧ split.emittedCount = combined.emittedCount ∧
      List.Forall₂ (Page.Reads (job true)) (written true) combined.headers ∧
      List.Forall₂ (Page.Reads (job false)) (written false) split.headers ∧
      definedOn (job false) (written false) = definedOn (job true) (written true) ∧
      (definedOn (job true) (written true)).map (·.1) = emitted (job true).map types := by
  intro job written
  let base := jobFor settings sanitizer renderer types
  have opens (singleFile : Bool) (includes : List String) :
      ∃ opening, preamble (base.inLayout singleFile) includes = .ok opening :=
    ⟨_, preamble_written rfl includes⟩
  obtain ⟨combined, combining, combinedShown, combinedWarnings, combinedBodies⟩ :=
    generateOn_kept (opens true) types
  obtain ⟨split, splitting, splitShown, splitWarnings, splitBodies⟩ :=
    generateOn_kept (opens false) types
  -- Neither the types that are emitted nor their scopes depend on the layout.
  have inScopes (singleFile : Bool) := definedOn_inLayout base singleFile types
  refine ⟨combined, split, combining, splitting, ?_, ?_, ?_, ?_, ?_, ?_⟩
  · rw [splitWarnings, combinedWarnings, warningsOf_inLayout, warningsOf_inLayout]
    rfl
  · rw [splitBodies, combinedBodies, completed_inLayout, completed_inLayout]
    rfl
  · exact combinedShown.imp fun _ _ => Page.Shown.reads
  · exact splitShown.imp fun _ _ => Page.Shown.reads
  · exact (inScopes false).trans (inScopes true).symm
  · rw [← emittedIn_types]
    refine (congrArg (List.map (·.1)) (inScopes true)).trans ?_
    rw [List.map_map]
    rfl

end ProxyHeaders
