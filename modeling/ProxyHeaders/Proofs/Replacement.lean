import ProxyHeaders.Proofs.Files.Reports
import ProxyHeaders.Proofs.Layout.Emitted
import ProxyHeaders.Proofs.Layout.UnitPaths

/-!
A run that writes headers of their own replaces what the run before it left, and touches nothing
else; where the output directory is protected it takes no file away.
-/
namespace ProxyHeaders

open ProxyHeaders.Files ProxyHeaders.Layout ProxyHeaders.Names ProxyHeaders.Template

namespace Files

theorem Disk.Receives.holds {before after : Disk} {texts : List (Place × String)}
    (receives : before.Receives texts after) (distinct : (texts.map (·.1)).Nodup) {place : Place}
    {text : String} (member : (place, text) ∈ texts) :
    after.fileAt? place = some (.text text) := by
  have reversed : (texts.reverse.map (·.1)).Nodup := by
    rw [List.map_reverse, List.nodup_reverse]
    exact distinct
  rw [receives.fileAt?, (lookup_iff_mem reversed).mpr (List.mem_reverse.mpr member)]
  rfl

end Files

namespace Settings

variable (settings : Settings)

theorem warningsFile_listed : settings.warningsFile ∈ settings.artifacts := by
  simp [artifacts]

theorem validationReportFile_listed : settings.validationReportFile ∈ settings.artifacts := by
  simp [artifacts]

theorem errorFile_listed : settings.errorFile ∈ settings.artifacts := by
  simp [artifacts]

end Settings

namespace Run

theorem plan_ok {settings : Settings} {render : Renderer} {loaders : List Load.Loader}
    {disk : Disk} {input : String} {found : Plan}
    (planned : plan settings render loaders disk input = .ok found) :
    found.assembly = Path.ofText input ∧ found.types = Selection.select found.loaded.types ∧
      generate (settings.forAssembly found.assembly) render found.types = .ok found.generation := by
  unfold plan findAssembly at planned
  by_cases isFile : disk.isFile (Path.ofText input) = true
  · rw [if_pos isFile] at planned
    simp only [bind, Except.bind] at planned
    cases gathered : Load.gather (Load.answers disk (Path.ofText input) loaders) with
    | error failure => cases failure <;> simp [gathered] at planned
    | ok loaded =>
      simp only [gathered, pure, Except.pure] at planned
      by_cases empty : (Selection.select loaded.types).isEmpty = true
      · simp [empty, throw, throwThe, MonadExceptOf.throw] at planned
      · simp only [empty, Bool.false_eq_true, if_false] at planned
        cases generated : generate (settings.forAssembly (Path.ofText input)) render
          (Selection.select loaded.types) with
        | error failure => simp [generated] at planned
        | ok generation =>
          simp only [generated, Except.ok.injEq] at planned
          subst planned
          exact ⟨rfl, rfl, generated⟩
  · simp [isFile, bind, Except.bind] at planned

/-- What a run leaves that replaces the output of another: of headers its own and no others, its
reports and no report on a fault, and every other file, the assembly too, as it was. -/
structure Replaces (settings : Settings) (plan : Plan) (before after : Disk) : Prop where
  headers : ∀ place content, Disk.isBelow (before.resolve settings.outputPath) place →
    Text.endsWith (place.getLastD "") headerSuffix →
    (after.fileAt? place = some content ↔ ∃ header ∈ plan.generation.headers,
      place = before.resolve settings.outputPath ++ (Path.ofText header.path).parts ∧
        content = .text header.content)
  warnings : after.fileAt? (before.resolve settings.outputPath ++ [settings.warningsFile]) =
    if plan.generation.warnings.isEmpty then none
    else some (.text (String.join (plan.generation.warnings.map (· ++ "\n"))))
  validation :
    after.fileAt? (before.resolve settings.outputPath ++ [settings.validationReportFile]) =
      if settings.validateOutput then some (.text (String.join
        ((Check.checkHeaders settings.resolveHeader plan.generation.headers).lines.map (· ++ "\n"))))
      else none
  noFault : after.fileAt? (before.resolve settings.outputPath ++ [settings.errorFile]) = none
  others : ∀ place,
    ¬ Disk.isStale (before.resolve settings.outputPath) settings.artifacts place →
      after.fileAt? place = before.fileAt? place
  assembly : after.fileAt? (before.resolve plan.assembly) =
    before.fileAt? (before.resolve plan.assembly)

section Split

variable {settings : Settings} {render : Renderer} {loaders : List Load.Loader} {disk : Disk}
  {input : String} {found : Plan} (split : settings.singleFile = false)
  (planned : plan settings render loaders disk input = .ok found)

include split planned

/-- The headers of a plan have the paths of some types, each its own. -/
theorem plan_paths :
    ∃ (map : Mapping.TypeMap) (order : List TypeDecl), map.sanitizer.Wordy ∧
      (∀ type ∈ order, type ∈ found.types) ∧
      found.generation.headers.map (·.path) = order.map (unitPath map) ∧
      ((∀ type ∈ found.types, Segmented type.space) → ∀ (disk : Disk) (directory : Path),
        ((order.map (unitPath map)).map fun path => disk.resolve (directory.join path)).Nodup) := by
  obtain ⟨-, -, generated⟩ := plan_ok planned
  have wordy := jobFor_wordy (settings.forAssembly found.assembly) render found.types
  refine ⟨_, _, wordy, ?_, (generateOn_paths generated).trans (split_paths split found.types), ?_⟩
  · exact fun type member => mem_of_writtenOrder member
  · exact fun segmented => unitPlaces_distinct wordy segmented

theorem header_place (segmented : ∀ type ∈ found.types, Segmented type.space) {header : Header}
    (listed : header ∈ found.generation.headers) :
    let place := disk.resolve settings.outputPath ++ (Path.ofText header.path).parts
    disk.resolve (settings.outputPath.join header.path) = place ∧
      Disk.isBelow (disk.resolve settings.outputPath) place ∧
      Text.endsWith (place.getLastD "") headerSuffix := by
  obtain ⟨map, order, wordy, known, paths, -⟩ := plan_paths split planned
  have member : header.path ∈ order.map (unitPath map) := paths ▸ List.mem_map_of_mem listed
  obtain ⟨type, inOrder, path⟩ := List.mem_map.mp member
  have parts := unitPath_parts wordy type
  rw [← path]
  refine ⟨resolve_unitPath wordy (segmented type (known type inOrder)) disk settings.outputPath,
    Disk.isBelow_append (by simp [parts]) _, ?_⟩
  rw [parts, ← List.append_assoc, List.getLastD_concat, fileName, Text.endsWith,
    String.toList_append, List.isSuffixOf_iff_suffix]
  exact List.suffix_append _ _

theorem headerPlaces_distinct (segmented : ∀ type ∈ found.types, Segmented type.space) :
    ((headerTexts disk settings.outputPath found.generation.headers).map (·.1)).Nodup := by
  obtain ⟨map, order, -, -, paths, distinct⟩ := plan_paths split planned
  have apart := distinct segmented disk settings.outputPath
  rw [← paths, List.map_map] at apart
  rwa [headerTexts, List.map_map]

end Split

/-! The reports -/

/-- The reports have the names that they have where nothing else is said. -/
def UsualReports (settings : Settings) : Prop := settings.artifacts = ({} : Settings).artifacts

namespace UsualReports

variable {settings : Settings} (usual : UsualReports settings)

include usual

theorem names : settings.warningsFile = "GenerationWarnings.txt" ∧
    settings.validationReportFile = "ValidationReport.txt" ∧
    settings.errorFile = "GeneratorError.txt" := by
  simpa [UsualReports, Settings.artifacts] using usual

theorem valid : ∀ name ∈ settings.artifacts,
    Disk.IsFileName name ∧ Text.endsWith name headerSuffix = false := by
  rw [show settings.artifacts = _ from usual]
  decide

theorem report_place (disk : Disk) {name : String} (listed : name ∈ settings.artifacts)
    (lines : List String) :
    reportText settings disk name lines =
      (disk.resolve settings.outputPath ++ [name], String.join (lines.map (· ++ "\n"))) := by
  rw [reportText, (usual.valid name listed).1.resolve]

theorem warnings_place (disk : Disk) (warnings : List String) :
    warningTexts settings disk warnings =
      if warnings.isEmpty then []
      else [(disk.resolve settings.outputPath ++ [settings.warningsFile],
        String.join (warnings.map (· ++ "\n")))] := by
  rw [warningTexts, usual.report_place disk settings.warningsFile_listed]

theorem validation_place (disk : Disk) (headers : List Header) :
    validationTexts settings disk headers =
      if settings.validateOutput then
        [(disk.resolve settings.outputPath ++ [settings.validationReportFile],
          String.join ((Check.checkHeaders settings.resolveHeader headers).lines.map (· ++ "\n")))]
      else [] := by
  rw [validationTexts, usual.report_place disk settings.validationReportFile_listed]

theorem report_places {disk : Disk} {warnings : List String} {headers : List Header}
    {text : Place × String}
    (member : text ∈ warningTexts settings disk warnings ++ validationTexts settings disk headers) :
    ∃ name ∈ settings.artifacts, text.1 = disk.resolve settings.outputPath ++ [name] := by
  rcases List.mem_append.mp member with warned | validated
  · rw [usual.warnings_place] at warned
    split at warned
    · cases warned
    · exact ⟨_, settings.warningsFile_listed, congrArg (·.1) (List.mem_singleton.mp warned)⟩
  · rw [usual.validation_place] at validated
    split at validated
    · exact ⟨_, settings.validationReportFile_listed,
        congrArg (·.1) (List.mem_singleton.mp validated)⟩
    · cases validated

end UsualReports

/-- The output directory is cleaned, and the texts of a plan are put after that. -/
def Rewritten (settings : Settings) (plan : Plan) (before after : Disk) : Prop :=
  ∃ middle, before.Cleaned (before.resolve settings.outputPath) settings.artifacts middle ∧
    middle.Receives (texts settings before plan) after

/-! What is put where -/

section Texts

variable {settings : Settings} {render : Renderer} {loaders : List Load.Loader} {disk : Disk}
  {input : String} {found : Plan} (split : settings.singleFile = false)
  (planned : plan settings render loaders disk input = .ok found)
  (segmented : ∀ type ∈ found.types, Segmented type.space) (usual : UsualReports settings)

include split planned segmented usual

theorem mem_texts {place : Place} {text : String} :
    (place, text) ∈ texts settings disk found ↔
      (∃ header ∈ found.generation.headers,
        place = disk.resolve settings.outputPath ++ (Path.ofText header.path).parts ∧
          text = header.content) ∨
      (found.generation.warnings.isEmpty = false ∧
        place = disk.resolve settings.outputPath ++ [settings.warningsFile] ∧
          text = String.join (found.generation.warnings.map (· ++ "\n"))) ∨
      (settings.validateOutput = true ∧
        place = disk.resolve settings.outputPath ++ [settings.validationReportFile] ∧
          text = String.join ((Check.checkHeaders settings.resolveHeader
            found.generation.headers).lines.map (· ++ "\n"))) := by
  have headers : (place, text) ∈ headerTexts disk settings.outputPath found.generation.headers ↔
      ∃ header ∈ found.generation.headers,
        place = disk.resolve settings.outputPath ++ (Path.ofText header.path).parts ∧
          text = header.content := by
    rw [headerTexts, List.mem_map]
    constructor
    · rintro ⟨header, listed, same⟩
      rw [Prod.mk.injEq, (header_place split planned segmented listed).1] at same
      exact ⟨header, listed, same.1.symm, same.2.symm⟩
    · rintro ⟨header, listed, rfl, rfl⟩
      exact ⟨header, listed, by rw [(header_place split planned segmented listed).1]⟩
  rw [texts, List.mem_append, List.mem_append, headers, usual.warnings_place,
    usual.validation_place]
  cases found.generation.warnings.isEmpty <;> cases settings.validateOutput <;> simp

theorem texts_distinct : ((texts settings disk found).map (·.1)).Nodup := by
  have different : settings.warningsFile ≠ settings.validationReportFile := by
    rw [usual.names.1, usual.names.2.1]
    decide
  rw [texts, List.map_append, List.nodup_append]
  refine ⟨headerPlaces_distinct split planned segmented, ?_, ?_⟩
  · rw [usual.warnings_place, usual.validation_place]
    cases found.generation.warnings.isEmpty <;> cases settings.validateOutput <;> simp [different]
  · -- Headers and reports end differently.
    rintro place inHeaders other inReports rfl
    obtain ⟨text, isHeader, rfl⟩ := List.mem_map.mp inHeaders
    obtain ⟨header, listed, rfl⟩ := List.mem_map.mp isHeader
    obtain ⟨resolved, -, suffix⟩ := header_place split planned segmented listed
    obtain ⟨report, isReport, same⟩ := List.mem_map.mp inReports
    obtain ⟨name, artifact, place⟩ := usual.report_places isReport
    have named : disk.resolve settings.outputPath ++ [name] =
        disk.resolve settings.outputPath ++ (Path.ofText header.path).parts :=
      place.symm.trans (same.trans resolved)
    rw [← named, List.getLastD_concat, (usual.valid name artifact).2] at suffix
    cases suffix

theorem mem_texts_report {name text : String} (listed : name ∈ settings.artifacts)
    (member : (disk.resolve settings.outputPath ++ [name], text) ∈ texts settings disk found) :
    found.generation.warnings.isEmpty = false ∧ name = settings.warningsFile ∨
      settings.validateOutput = true ∧ name = settings.validationReportFile := by
  rcases (mem_texts split planned segmented usual).mp member with
    ⟨header, inHeaders, same, -⟩ | ⟨warned, same, -⟩ | ⟨validated, same, -⟩
  · have suffix := (header_place split planned segmented inHeaders).2.2
    rw [← same, List.getLastD_concat, (usual.valid name listed).2] at suffix
    cases suffix
  · exact .inl ⟨warned, by simpa using same⟩
  · exact .inr ⟨validated, by simpa using same⟩

theorem texts_stale {place : Place} {text : String}
    (member : (place, text) ∈ texts settings disk found) :
    Disk.isStale (disk.resolve settings.outputPath) settings.artifacts place := by
  rcases (mem_texts split planned segmented usual).mp member with
    ⟨header, inHeaders, rfl, -⟩ | ⟨-, rfl, -⟩ | ⟨-, rfl, -⟩
  · obtain ⟨-, below, suffix⟩ := header_place split planned segmented inHeaders
    rw [Disk.isStale, below, suffix]
    rfl
  · exact Disk.isStale_artifact _ settings.warningsFile_listed
  · exact Disk.isStale_artifact _ settings.validationReportFile_listed

section Rewritten

variable {after : Disk} (rewritten : Rewritten settings found disk after)

include rewritten

theorem text_there {place : Place} {text : String}
    (member : (place, text) ∈ texts settings disk found) :
    after.fileAt? place = some (.text text) := by
  obtain ⟨middle, -, receives⟩ := rewritten
  exact receives.holds (texts_distinct split planned segmented usual) member

omit split planned segmented usual in
theorem without_text {place : Place} (nothing : ∀ text, (place, text) ∉ texts settings disk found) :
    after.fileAt? place =
      if Disk.isStale (disk.resolve settings.outputPath) settings.artifacts place then none
      else disk.fileAt? place := by
  obtain ⟨middle, cleaned, receives⟩ := rewritten
  rw [receives.elsewhere, cleaned.fileAt?]
  rintro ⟨other, text⟩ member rfl
  exact nothing text member

theorem others_kept {place : Place}
    (fresh : ¬ Disk.isStale (disk.resolve settings.outputPath) settings.artifacts place) :
    after.fileAt? place = disk.fileAt? place := by
  rw [without_text rewritten fun text member =>
    fresh (texts_stale split planned segmented usual member), if_neg fresh]

theorem report_gone {name : String} (listed : name ∈ settings.artifacts)
    (noWarnings : found.generation.warnings.isEmpty = false → name ≠ settings.warningsFile)
    (noValidation : settings.validateOutput = true → name ≠ settings.validationReportFile) :
    after.fileAt? (disk.resolve settings.outputPath ++ [name]) = none := by
  rw [without_text rewritten, if_pos (Disk.isStale_artifact _ listed)]
  intro text member
  rcases mem_texts_report split planned segmented usual listed member with
    ⟨warned, same⟩ | ⟨validated, same⟩
  · exact noWarnings warned same
  · exact noValidation validated same

theorem headers_replaced {place : Place} (content : Content)
    (below : Disk.isBelow (disk.resolve settings.outputPath) place)
    (suffix : Text.endsWith (place.getLastD "") headerSuffix) :
    after.fileAt? place = some content ↔ ∃ header ∈ found.generation.headers,
      place = disk.resolve settings.outputPath ++ (Path.ofText header.path).parts ∧
        content = .text header.content := by
  constructor
  · intro holds
    by_cases put : ∃ text, (place, text) ∈ texts settings disk found
    · obtain ⟨text, member⟩ := put
      rw [text_there split planned segmented usual rewritten member, Option.some_inj] at holds
      rcases (mem_texts split planned segmented usual).mp member with
        ⟨header, inHeaders, same, written⟩ | ⟨-, same, -⟩ | ⟨-, same, -⟩
      · exact ⟨header, inHeaders, same, by rw [← holds, written]⟩
      · rw [same, List.getLastD_concat, usual.names.1] at suffix
        cases suffix
      · rw [same, List.getLastD_concat, usual.names.2.1] at suffix
        cases suffix
    · have stale : Disk.isStale (disk.resolve settings.outputPath) settings.artifacts place := by
        rw [Disk.isStale, below, suffix]
        rfl
      rw [without_text rewritten (not_exists.mp put), if_pos stale] at holds
      cases holds
  · rintro ⟨header, inHeaders, same, rfl⟩
    apply text_there split planned segmented usual rewritten
    exact (mem_texts split planned segmented usual).mpr (.inl ⟨header, inHeaders, same, rfl⟩)

theorem replaces_of_rewritten
    (unprotected : disk.isProtected settings.outputPath [found.assembly] = false) :
    Replaces settings found disk after := by
  have different : settings.warningsFile ≠ settings.validationReportFile ∧
      settings.errorFile ≠ settings.warningsFile ∧
      settings.errorFile ≠ settings.validationReportFile := by
    rw [usual.names.1, usual.names.2.1, usual.names.2.2]
    decide
  obtain ⟨reportsDiffer, noWarnings, noValidation⟩ := different
  refine { headers := ?_, warnings := ?_, validation := ?_, noFault := ?_, others := ?_, assembly := ?_ }
  · exact fun place content below suffix =>
      headers_replaced split planned segmented usual rewritten content below suffix
  · by_cases quiet : found.generation.warnings.isEmpty = true
    · rw [if_pos quiet]
      exact report_gone split planned segmented usual rewritten settings.warningsFile_listed
        (fun warned => by simp [quiet] at warned) fun _ => reportsDiffer
    · rw [if_neg quiet]
      apply text_there split planned segmented usual rewritten
      exact (mem_texts split planned segmented usual).mpr
        (.inr (.inl ⟨by simpa using quiet, rfl, rfl⟩))
  · by_cases validated : settings.validateOutput = true
    · rw [if_pos validated]
      apply text_there split planned segmented usual rewritten
      exact (mem_texts split planned segmented usual).mpr (.inr (.inr ⟨validated, rfl, rfl⟩))
    · rw [if_neg validated]
      exact report_gone split planned segmented usual rewritten
        settings.validationReportFile_listed
        (fun _ => Ne.symm reportsDiffer) fun asked => absurd asked validated
  · exact report_gone split planned segmented usual rewritten settings.errorFile_listed
      (fun _ => noWarnings) fun _ => noValidation
  · exact fun place fresh => others_kept split planned segmented usual rewritten fresh
  · apply others_kept split planned segmented usual rewritten
    -- An assembly inside the output directory would protect it.
    intro stale
    have inside := List.isPrefixOf_iff_prefix.mpr (Disk.isStale_inside stale)
    simp [Disk.isProtected, inside] at unprotected

end Rewritten

end Texts

/-! Whole runs -/

section Whole

variable {settings : Settings} {render : Renderer} {loaders : List Load.Loader} {disk : Disk}
  {input : String}

theorem run_planned {found : Plan} (planned : plan settings render loaders disk input = .ok found) :
    run settings render loaders input disk = write settings found disk := by
  rw [run, planned]

/-- The output directory is where its path leads, or there is nothing at its place. -/
def Reaches (settings : Settings) (disk : Disk) : Prop :=
  disk.isPresent settings.outputPath = true ∨
    disk.find? (disk.resolve settings.outputPath) = none

theorem prepare_rewrites (tree : disk.IsTree) (usual : UsualReports settings)
    {survivors : List Path} (unprotected : disk.isProtected settings.outputPath survivors = false)
    (reaches : Reaches settings disk) :
    Ends (fun _ => True)
      (fun _ => disk.Cleaned (disk.resolve settings.outputPath) settings.artifacts)
      (prepareOutput settings.outputPath true survivors settings.artifacts disk) := by
  refine Ends.blame ?_ _
  by_cases present : disk.isPresent settings.outputPath = true
  · exact Action.prepare_cleans tree (fun name listed => (usual.valid name listed).1) present
      unprotected
  · have absent : disk.isPresent settings.outputPath = false := by simpa using present
    refine (Action.prepare_keeps (.inr (.inl absent))).imp (fun _ _ => trivial) ?_
    rintro _ after ⟨gains, -⟩
    refine ⟨gains.here, ?_⟩
    intro place
    rw [gains.fileAt?]
    -- There is nothing where nothing was cleaned.
    by_cases stale : Disk.isStale (disk.resolve settings.outputPath) settings.artifacts place = true
    · obtain ⟨names, rfl⟩ := Disk.isStale_inside stale
      have nothing := tree.nothing_below (reaches.resolve_left present) names
      rw [if_pos stale, Disk.fileAt?, nothing]
    · rw [if_neg stale]

theorem run_rewrites {found : Plan} (tree : disk.IsTree) (split : settings.singleFile = false)
    (usual : UsualReports settings)
    (planned : plan settings render loaders disk input = .ok found)
    (unprotected : disk.isProtected settings.outputPath [found.assembly] = false)
    (reaches : Reaches settings disk) {summary : Summary} {after : Disk}
    (ran : run settings render loaders input disk = .ok summary after) :
    Rewritten settings found disk after := by
  rw [run_planned planned] at ran
  have prepares := prepare_rewrites tree usual unprotected reaches
  have clean : (!settings.singleFile) = true := by rw [split]; rfl
  rw [← clean] at prepares
  obtain ⟨middle, cleaned, receives⟩ := (write_ends prepares).of_ok ran
  rw [texts_of_here cleaned.here] at receives
  exact ⟨middle, cleaned, receives⟩

/-- A run that cleans nothing, whether or not it fails, only puts texts. -/
theorem run_keeps (kept : settings.singleFile = true ∨
      disk.isPresent settings.outputPath = false ∨
      disk.isProtected settings.outputPath [Path.ofText input] = true) :
    disk.ReceivesSome (leftDisk (run settings render loaders input disk)) := by
  cases planned : plan settings render loaders disk input with
  | error fault =>
    rw [run, planned]
    exact ⟨[], .none (.refl disk)⟩
  | ok found =>
    rw [run_planned planned]
    have assembly := (plan_ok planned).1
    have prepares : Ends disk.GainsDirectories (fun _ => disk.GainsDirectories)
        (prepareOutput settings.outputPath (!settings.singleFile) [found.assembly]
          settings.artifacts disk) := by
      refine Ends.blame ?_ _
      refine (Action.prepare_keeps ?_).imp (fun _ => id) fun _ _ gains => gains.1
      rwa [assembly, Bool.not_eq_false']
    have ends : Ends disk.ReceivesSome (fun _ => disk.ReceivesSome)
        (write settings found disk) := by
      refine (write_ends prepares).imp ?_ ?_
      · rintro left (gains | ⟨middle, gains, received⟩)
        · exact ⟨[], .none gains⟩
        · exact (Disk.Receives.none gains).someMore received
      · rintro _ after ⟨middle, gains, receives⟩
        exact (Disk.Receives.none gains).someMore receives.receivesSome
    exact ends.left

/-- A finished run that writes headers of their own to a directory that is not protected, and that its
path leads to if it is there, replaces what was left in it and touches nothing else. A run to a
protected directory, or to one that its path does not lead to before the directories on the way are
made, takes no file away. -/
theorem split_run_replaces (settings : Settings) (render : Renderer) (loaders : List Load.Loader)
    (input : String) (disk : Disk) :
    (∀ (found : Plan) (summary : Summary) (after : Disk),
      disk.IsTree → settings.singleFile = false → UsualReports settings →
      plan settings render loaders disk input = .ok found →
      (∀ type ∈ found.types, Segmented type.space) →
      disk.isProtected settings.outputPath [found.assembly] = false → Reaches settings disk →
      run settings render loaders input disk = .ok summary after →
      Replaces settings found disk after) ∧
    (disk.isProtected settings.outputPath [Path.ofText input] = true ∨
        disk.isPresent settings.outputPath = false →
      ∀ place, (disk.fileAt? place).isSome →
        ((leftDisk (run settings render loaders input disk)).fileAt? place).isSome) := by
  constructor
  · intro found summary after tree split usual planned segmented unprotected reaches ran
    have rewritten := run_rewrites tree split usual planned unprotected reaches ran
    exact replaces_of_rewritten split planned segmented usual rewritten unprotected
  · intro kept place there
    refine (run_keeps ?_).keeps there
    exact .inr kept.symm

end Whole

/-! A run over what another has left, and one whose output path goes through what is not there. -/

def shop : Disk :=
  { entries := [(["Game.dll"], .file (.text "x")), (["Output"], .directory),
      (["Output", "Old.hpp"], .file (.text "stale")), (["Output", "keep.txt"], .file (.text "k"))] }

def player : TypeDecl := { name := "Player", space := some "Game" }

def stub : Load.Loader := { name := "stub", isAvailable := true, load := fun _ _ => .ok [player] }

theorem shop_isTree : shop.IsTree := by
  refine ⟨by decide, by decide, ?_⟩
  simp only [shop, List.forall_mem_cons]
  exact ⟨rfl, rfl, rfl, rfl, fun _ none => by cases none⟩

def shopJob : Proxy.Job :=
  jobFor (({} : Settings).forAssembly (.ofText "Game.dll")) Sanitizer.forHeaders renderer [player]

theorem shop_planned : ∃ generation content,
    plan {} renderer [stub] shop "Game.dll" = .ok
      { assembly := .ofText "Game.dll", loaded := ⟨[player], ["stub"]⟩, types := [player]
        generation } ∧
    generation.headers = [⟨"Game/Player.hpp", content⟩] := by
  obtain ⟨generation, generated, -⟩ :=
    @generateOn_kept shopJob (fun includes => ⟨_, preamble_written rfl includes⟩) [player]
  have paths := (generateOn_paths generated).trans (split_paths rfl [player])
  have path : unitPath shopJob.map player = "Game/Player.hpp" := rfl
  have distinct : ([player].map (·.fullName)).Nodup := List.nodup_singleton _
  have order : writtenOrder shopJob.map [player] = [player] :=
    List.perm_singleton.mp (groups_partition distinct shopJob.map)
  rw [order, List.map_singleton, path, List.map_eq_singleton_iff] at paths
  obtain ⟨header, only, named⟩ := paths
  refine ⟨generation, header.content, ?_, by rw [only, ← named]⟩
  have generating : generate (({} : Settings).forAssembly (.ofText "Game.dll")) renderer [player] =
    .ok generation := generated
  have found : findAssembly shop "Game.dll" = .ok (.ofText "Game.dll") := rfl
  have loaded : Load.gather (Load.answers shop (.ofText "Game.dll") [stub]) =
    .ok ⟨[player], ["stub"]⟩ := rfl
  have selected : Selection.select [player] = [player] := rfl
  simp only [plan, found, loaded, bind, Except.bind, pure, Except.pure, selected, generating]
  rfl

def rewrittenShop (content : String) (reports : List (Place × Files.Entry)) : Disk :=
  { entries := [(["Game.dll"], .file (.text "x")), (["Output"], .directory),
      (["Output", "keep.txt"], .file (.text "k")), (["Output", "Game"], .directory),
      (["Output", "Game", "Player.hpp"], .file (.text content))] ++ reports }

def sweptShop : Disk :=
  { entries := [(["Game.dll"], .file (.text "x")), (["Output"], .directory),
      (["Output", "keep.txt"], .file (.text "k"))] }

theorem shop_swept :
    Action.removeGenerated ({} : Settings).outputPath ({} : Settings).artifacts shop =
      .ok 1 sweptShop := by
  have begun : (get : Action Disk) shop = .ok shop shop := rfl
  have root : shop.resolve ({} : Settings).outputPath = ["Output"] := rfl
  have there : shop.isDirectory ({} : Settings).outputPath = true := rfl
  have headers : (shop.headersBelow ["Output"]).map (shop.beneath ({} : Settings).outputPath) =
    [⟨"", ["Output", "Old.hpp"]⟩] := rfl
  have named : (({} : Settings).artifacts.map ({} : Settings).outputPath.join).filter shop.isFile =
    [] := rfl
  have unlinked : Action.unlinkAll [⟨"", ["Output", "Old.hpp"]⟩] shop = .ok () sweptShop := rfl
  have again : (get : Action Disk) sweptShop = .ok sweptShop sweptShop := rfl
  have still : sweptShop.isDirectory ({} : Settings).outputPath = true := rfl
  -- Sorting does not compute, so that there is nothing to sort is said by a lemma.
  have inside : sweptShop.directoriesBelow ["Output"] = [] := List.mergeSort_nil
  rw [Action.removeGenerated, bind_ok begun]
  simp only [root, there, headers, named, if_true, List.append_nil]
  rw [bind_ok unlinked, bind_ok again]
  simp only [still, if_true, inside, List.map_nil]
  rfl

theorem shop_prepared :
    prepareOutput ({} : Settings).outputPath true [.ofText "Game.dll"] ({} : Settings).artifacts
      shop = .ok () sweptShop := by
  have begun : (get : Action Disk) shop = .ok shop shop := rfl
  have cleans : (true && shop.isPresent ({} : Settings).outputPath &&
    !shop.isProtected ({} : Settings).outputPath [.ofText "Game.dll"]) = true := rfl
  have prepared : Action.prepare ({} : Settings).outputPath true [.ofText "Game.dll"]
      ({} : Settings).artifacts shop = .ok () sweptShop := by
    rw [Action.prepare, bind_ok begun]
    simp only [cleans, if_true]
    rw [bind_ok shop_swept]
    rfl
  rw [prepareOutput, Action.blame, prepared]

theorem shop_header (content : String) : ∃ clean paths,
    prepareOutput ({} : Settings).outputPath true [.ofText "Game.dll"] ({} : Settings).artifacts
      shop = .ok () clean ∧
    writeHeaders ({} : Settings).outputPath [⟨"Game/Player.hpp", content⟩] clean =
      .ok paths (rewrittenShop content []) := by
  refine ⟨_, [(Path.ofText "Output").join "Game/Player.hpp"], shop_prepared, ?_⟩
  simp only [writeHeaders]
  rfl

theorem shop_warned (content : String) (warnings : List String) : ∃ path text,
    writeReport {} ({} : Settings).warningsFile warnings (rewrittenShop content []) =
      .ok path (rewrittenShop content [(["Output", "GenerationWarnings.txt"], .file (.text text))]) :=
  ⟨_, _, rfl⟩

theorem shop_validated (content : String) (lines : List String)
    {reports : List (Place × Files.Entry)}
    (before : reports = [] ∨
      ∃ text, reports = [(["Output", "GenerationWarnings.txt"], .file (.text text))]) :
    ∃ path after, writeReport {} ({} : Settings).validationReportFile lines
      (rewrittenShop content reports) = .ok path after := by
  rcases before with rfl | ⟨text, rfl⟩
  · exact ⟨_, _, rfl⟩
  · exact ⟨_, _, rfl⟩

theorem shop_run : ∃ summary after, run {} renderer [stub] "Game.dll" shop = .ok summary after := by
  obtain ⟨generation, content, planned, headers⟩ := shop_planned
  obtain ⟨clean, paths, prepared, written⟩ := shop_header content
  let report := Check.checkHeaders ({} : Settings).resolveHeader [⟨"Game/Player.hpp", content⟩]
  have cleans : (!({} : Settings).singleFile) = true := rfl
  rw [run_planned planned, write]
  simp only [bind, EStateM.bind, headers, cleans, prepared, written, if_true]
  by_cases quiet : generation.warnings.isEmpty = true
  · obtain ⟨path, after, validated⟩ := shop_validated content report.lines (.inl rfl)
    rw [if_pos quiet]
    simp only [EStateM.bind, pure, EStateM.pure, Functor.map, EStateM.map, report] at validated ⊢
    rw [validated]
    exact ⟨_, _, rfl⟩
  · obtain ⟨warningsPath, text, warned⟩ := shop_warned content generation.warnings
    obtain ⟨path, after, validated⟩ := shop_validated content report.lines (.inr ⟨text, rfl⟩)
    rw [if_neg quiet]
    simp only [EStateM.bind, Functor.map, EStateM.map, report] at validated warned ⊢
    rw [warned]
    simp only [validated]
    exact ⟨_, _, rfl⟩

theorem shop_replaced :
    (∃ summary after, run {} renderer [stub] "Game.dll" shop = .ok summary after ∧
      after.fileAt? ["Output", "Old.hpp"] = none ∧
      (after.fileAt? ["Output", "Game", "Player.hpp"]).isSome ∧
      after.fileAt? ["Output", "keep.txt"] = some (.text "k")) ∧
    ((leftDisk (run { outputDir := "new/../Output" } renderer [stub] "Game.dll" shop)).fileAt?
      ["Output", "Old.hpp"]).isSome := by
  constructor
  · obtain ⟨summary, after, ran⟩ := shop_run
    obtain ⟨generation, content, planned, headers⟩ := shop_planned
    have replaces := (split_run_replaces {} renderer [stub] "Game.dll" shop).1 _ summary after
      shop_isTree rfl rfl planned (by simp [player]; decide) rfl (.inl rfl) ran
    have isHeader := replaces.headers
    simp only [headers, List.mem_singleton, exists_eq_left] at isHeader
    refine ⟨summary, after, ran, ?_, ?_, ?_⟩
    · apply Option.eq_none_iff_forall_ne_some.mpr
      intro old there
      have same := ((isHeader ["Output", "Old.hpp"] old rfl rfl).mp there).1
      exact absurd same (by decide)
    · have there := (isHeader ["Output", "Game", "Player.hpp"] (.text content) rfl rfl).mpr ⟨rfl, rfl⟩
      rw [there]
      rfl
    · exact replaces.others _ (by decide)
  · exact (split_run_replaces { outputDir := "new/../Output" } renderer [stub] "Game.dll" shop).2
      (.inr rfl) _ rfl

end Run

end ProxyHeaders
