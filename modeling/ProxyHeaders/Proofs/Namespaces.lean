import ProxyHeaders.Proofs.Commented
import ProxyHeaders.Proofs.Layout.Visibility
import ProxyHeaders.Proofs.Lookups
import ProxyHeaders.Proofs.Mapping.ScopeNames

/-!
Namespaces as headers spell them. Types and members get identifiers from the sanitizer, but the scope
of a namespace is made of the parts of its name as they are: where it is opened, in front of a base
and in front of an enum in a signature. So its segments are identifiers that are no reserved words
exactly if those of the namespace's own parts are.
-/
namespace ProxyHeaders

open ProxyHeaders.Code ProxyHeaders.Layout ProxyHeaders.Mapping ProxyHeaders.Names
  ProxyHeaders.Proxy ProxyHeaders.Template ProxyHeaders.Text

namespace Layout

/-- A text is a line of a header, behind a margin. -/
def Header.HasLine (header : Header) (text : String) : Prop :=
  ∃ margin, IsMargin margin ∧ margin ++ text ∈ solidLines header.content

/-- A header spells the namespaces on a page as they are: it opens them by a line of their own, names
a base in the line that opens a struct, and names enums of the run in the types of its members. Each
of these scopes is safe exactly if the namespace is. -/
structure Page.SpellsScopes (job : Job) (page : Page) (header : Header) : Prop where
  reads : page.Reads job header
  opened : ∀ space, .opens space ∈ page.entries →
    (Unbroken space → header.HasLine ("namespace " ++ scopeOf (some space) ++ " \x7b")) ∧
    (SafeScope job.map.sanitizer (scopeOf (some space)) ↔
      ∀ part ∈ splitAtChar '.' space, SafeScope job.map.sanitizer part)
  inherited : ∀ type, .defines type ∈ page.entries → ¬ type.isEnum → ∀ spelling source target,
    job.map.resolveBase type = .generated spelling source target →
      ∃ base, job.map.declared? target = some base ∧
        ((∀ text, stated base.space = some text → Unbroken text) → header.HasLine
          ("struct " ++ job.map.structName type.name ++ " : " ++ spelling ++ " \x7b")) ∧
        (SafeScope job.map.sanitizer spelling ↔ SafeSpace job.map.sanitizer base.space)
  mentioned : ∀ type, .defines type ∈ page.entries → ∀ shape, Spells job type shape → ∀ name,
    .declared name ∈ shape.leaves → ∃ ref : TypeRef, job.map.isDeclared ref.fullName ∧
      name = job.map.qualifiedStructName ref.space ref.name ∧
      (SafeScope job.map.sanitizer name ↔ SafeSpace job.map.sanitizer ref.space)

theorem shown_block {front : String} (oneLine : Unbroken front) :
    shown (front ++ " \x7b") = [front ++ " \x7b"] := by
  have ends : (front ++ " \x7b").toList.getLast? = some '\x7b' := by simp
  exact shown_whole (unbroken_append oneLine (by decide)) ends (by decide)

section Read

variable {job : Job} {page : Page} {header : Header} (reads : page.Reads job header)

include reads

theorem namespace_line {space : String} (listed : .opens space ∈ page.entries)
    (oneLine : Unbroken space) :
    header.HasLine ("namespace " ++ scopeOf (some space) ++ " \x7b") := by
  obtain ⟨front, back, split⟩ := List.append_of_mem listed
  have shows := Page.Reads.entry reads split
  generalize front.foldl Entry.scopes [] = scopes at shows
  have margin := marginIn_isMargin job scopes
  have scope : Unbroken (scopeOf (some space)) := by
    apply scopeOf_oneLine
    intro text found
    rwa [← Option.some_inj.mp (of_stated found)]
  have whole : Unbroken (marginIn job scopes ++ ("namespace " ++ scopeOf (some space))) :=
    unbroken_append margin.unbroken (unbroken_append (by decide) scope)
  have written : (Entry.opens space).lines job scopes =
      [marginIn job scopes ++ ("namespace " ++ scopeOf (some space)) ++ " \x7b"] := by
    have solid : (Sheet.opening space).isEmpty = false := by simp [Sheet.opening]
    simp only [Entry.lines, Entry.write, Buffer.indent, Buffer.line, solid]
    rw [String.append_assoc]
    rfl
  rw [written, List.flatMap_singleton, shown_block whole, String.append_assoc] at shows
  exact ⟨_, margin, shows (List.mem_singleton_self _)⟩

theorem struct_line {type : TypeDecl} (listed : .defines type ∈ page.entries)
    (shelf : job.renderFor type = renderer) (noEnum : ¬ type.isEnum) {inherited : String}
    (spelled : (job.map.resolveBase type).spelling? job.settings.placeholderBase = some inherited)
    (oneLine : Unbroken (job.map.structName type.name) ∧ Unbroken inherited) :
    header.HasLine ("struct " ++ job.map.structName type.name ++ " : " ++ inherited ++ " \x7b") := by
  obtain ⟨front, back, split⟩ := List.append_of_mem listed
  have shows := Page.Reads.entry reads split
  generalize front.foldl Entry.scopes [] = scopes at shows
  have named : Unbroken ("struct " ++ job.map.structName type.name) :=
    unbroken_append (by decide) oneLine.1
  have whole : Unbroken ("struct " ++ job.map.structName type.name ++ " : " ++ inherited) :=
    unbroken_append (unbroken_append named (by decide)) oneLine.2
  have passage : .code "" (structOpening job type inherited) ∈ passagesOf job type := by
    rw [passagesOf_struct shelf noEnum spelled]
    simp [structPassages]
  rw [defines_shown] at shows
  refine ⟨_, marginIn_isMargin job scopes, shows (List.mem_flatMap.mpr ⟨_, passage, ?_⟩)⟩
  rw [Passage.behind, structOpening, shown_block whole, String.append_empty]
  exact List.mem_singleton_self _

theorem page_spellsScopes (guarded : job.map.sanitizer.Guarded)
    (shelf : ∀ type, job.renderFor type = renderer) : page.SpellsScopes job header := by
  have safe (name : String) : job.map.sanitizer.Safe (job.map.structName name) :=
    Sanitizer.identifier_safe guarded (cleanName name)
  constructor
  · exact reads
  · intro space listed
    exact ⟨namespace_line reads listed, scopeOf_safe space⟩
  · intro type listed noEnum spelling source target inherits
    obtain ⟨reference, base, -, declared, -, -, rfl, rfl⟩ := resolveBase_generated inherits
    refine ⟨base, ?_, ?_, qualifiedStructName_safe (safe base.name) base.space⟩
    · rwa [fullName_of_declared? declared]
    · intro spaceOneLine
      have struct : Unbroken (job.map.structName type.name) :=
        neutral_unbroken (word_neutral (safe type.name).identifier.word)
      have spelled : (job.map.resolveBase type).spelling? job.settings.placeholderBase =
          some (job.map.qualifiedStructName base.space base.name) := by
        rw [inherits]
        rfl
      exact struct_line reads listed (shelf type) noEnum spelled
        ⟨struct, qualifiedStructName_oneLine guarded.wordy spaceOneLine base.name⟩
  · rintro type - shape ⟨reference, -, lossy, mapped⟩ name leaf
    have declares : (job.map.mapMember (some type.fullName) reference).Declares job.map :=
      TypeMap.mapMember_declares (some type.fullName) reference
    rw [mapped] at declares
    obtain ⟨ref, known, rfl⟩ := declares name leaf
    exact ⟨ref, known, rfl, qualifiedStructName_safe (safe ref.name) ref.space⟩

end Read

end Layout

/-- Whatever a sanitizer was asked before, it answers for every name with an identifier that is no
reserved word. For every list of types and in both layouts a run with it gives headers, and these
spell the namespaces of types as they are: every scope in them is safe exactly if the namespace that
it is made of is. -/
theorem namespaces_spelled (settings : Settings) (questions : List (Option String × NameCase))
    (types : List TypeDecl) :
    let sanitizer := Sanitizer.forHeaders.askAll questions
    let job := jobFor settings sanitizer renderer types
    (∀ name, sanitizer.Safe (sanitizer.identifier name)) ∧
    ∃ generation, generateWith settings sanitizer renderer types = .ok generation ∧
      List.Forall₂ (Page.SpellsScopes job) (keptPages [] (pages job types)) generation.headers := by
  intro sanitizer job
  have guarded : sanitizer.Guarded :=
    Sanitizer.askAll_guarded Sanitizer.guarded_forHeaders questions
  have opened (includes : List String) : ∃ text, preamble job includes = .ok text :=
    ⟨_, rendered _ _⟩
  obtain ⟨generation, generated, pages, -, -⟩ := generateOn_kept opened types
  have same : job.map.sanitizer = sanitizer := (TypeMap.declareAll_rest _ types).1
  refine ⟨Sanitizer.identifier_safe guarded, generation, generated, pages.imp ?_⟩
  intro page header shows
  exact page_spellsScopes shows.reads (same ▸ guarded) fun _ => rfl

/-! A type whose namespace has a part that is a keyword. -/

def widget : TypeDecl := { name := "Widget", space := some "com.unity.template" }

theorem widget_namespace_reserved : ∃ generation,
    generateWith { singleFile := false } Sanitizer.forHeaders renderer [widget] = .ok generation ∧
      ∃ header ∈ generation.headers, header.HasLine "namespace com::unity::template \x7b" ∧
        ¬ SafeScope Sanitizer.forHeaders "com::unity::template" := by
  let job := jobFor { singleFile := false } Sanitizer.forHeaders renderer [widget]
  have distinct : ([widget].map (·.fullName)).Nodup := List.nodup_singleton _
  obtain ⟨-, generation, generated, spelled⟩ :=
    namespaces_spelled { singleFile := false } [] [widget]
  change List.Forall₂ (Page.SpellsScopes job) (keptPages [] (pages job [widget])) _ at spelled
  rw [keptPages_distinct distinct] at spelled
  have listed : typePage job [widget] widget ∈ pages job [widget] :=
    (mem_pages distinct rfl).mpr ⟨widget, List.mem_singleton_self widget, rfl⟩
  obtain ⟨header, present, spells⟩ := header_of_page spelled listed
  obtain ⟨line, safe⟩ := spells.opened "com.unity.template" List.mem_cons_self
  refine ⟨generation, generated, header, present, line (by decide), ?_⟩
  intro scope
  have part := safe.mp scope "template" (by decide)
  exact absurd part (by decide)

end ProxyHeaders
