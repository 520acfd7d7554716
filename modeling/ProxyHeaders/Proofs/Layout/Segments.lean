import ProxyHeaders.Proofs.Code.Buffer
import ProxyHeaders.Proofs.Layout.Scopes

/-!
A header in segments: the lines of each of its entries, behind the indentation of the namespaces
that are open there. Entries that close only what they have opened are written as their segments,
one behind the other.
-/
namespace ProxyHeaders.Layout

open ProxyHeaders.Code ProxyHeaders.Mapping ProxyHeaders.Proxy

/-- An entry closes a namespace only where one is open. -/
def Entry.Fits (scopes : List String) : Entry → Prop
  | .closes => scopes ≠ []
  | _ => True

def Nested (scopes : List String) : List Entry → Prop
  | [] => True
  | entry :: rest => entry.Fits scopes ∧ Nested (entry.scopes scopes) rest

/-- What an entry writes where the given scopes are open. -/
def Entry.lines (job : Job) (scopes : List String) (entry : Entry) : List String :=
  (entry.write job { unit := job.settings.indent, level := scopes.length }).lines.toList

def segments (job : Job) (scopes : List String) : List Entry → List (Entry × List String)
  | [] => []
  | entry :: rest => (entry, entry.lines job scopes) :: segments job (entry.scopes scopes) rest

/-- The types that some segments define, each with the lines of its definition. -/
def definitions (segments : List (Entry × List String)) : List (TypeDecl × List String) :=
  segments.filterMap fun (entry, lines) => entry.defined?.map fun type => (type, lines)

/-! What both layouts list is nested. -/

section Nested

variable {scopes : List String}

theorem nested_append {first second : List Entry} :
    Nested scopes (first ++ second) ↔
      Nested scopes first ∧ Nested (first.foldl Entry.scopes scopes) second := by
  induction first generalizing scopes with
  | nil => simp [Nested]
  | cons entry rest ih => simp [Nested, ih, and_assoc]

theorem nested_declares (types : List TypeDecl) : Nested scopes (types.map .declares) := by
  induction types with
  | nil => trivial
  | cons type rest ih => exact ⟨trivial, ih⟩

theorem nested_defines (types : List TypeDecl) : Nested scopes (types.map .defines) := by
  induction types with
  | nil => trivial
  | cons type rest ih => exact ⟨trivial, ih⟩

theorem nested_neighbours (types : List TypeDecl) : Nested scopes (neighbourEntries types) := by
  unfold neighbourEntries
  by_cases alone : types.isEmpty
  · rw [if_pos alone]
    trivial
  · rw [if_neg alone]
    exact ⟨trivial, nested_append.mpr ⟨nested_declares types, trivial, trivial⟩⟩

theorem nested_declarations (group : Group) : Nested scopes group.declarations := by
  unfold Group.declarations
  cases group.space with
  | none => exact ⟨trivial, nested_append.mpr ⟨nested_declares group.types, trivial, trivial⟩⟩
  | some space =>
    refine ⟨trivial, nested_append.mpr ⟨nested_declares group.types, ?_, trivial, trivial⟩⟩
    -- The namespace that is closed is the one that the group has opened.
    rw [(situated_declares _ group.types).1]
    exact List.cons_ne_nil _ _

theorem nested_definitions (group : Group) : Nested scopes group.definitions := by
  unfold Group.definitions
  cases group.space with
  | none => exact nested_append.mpr ⟨nested_defines group.types, trivial, trivial⟩
  | some space =>
    refine ⟨trivial, nested_append.mpr ⟨nested_defines group.types, ?_, trivial, trivial⟩⟩
    rw [(situated_defines _ group.types).1]
    exact List.cons_ne_nil _ _

theorem nested_groups {list : Group → List Entry}
    (nested : ∀ group, Nested scopes (list group))
    (closed : ∀ group, (list group).foldl Entry.scopes scopes = scopes) (groups : List Group) :
    Nested scopes (groups.flatMap list) := by
  induction groups with
  | nil => trivial
  | cons group rest ih =>
    rw [List.flatMap_cons, nested_append, closed]
    exact ⟨nested group, ih⟩

theorem nested_combined (groups : List Group) : Nested [] (combinedEntries groups) := by
  have declarations := nested_groups nested_declarations
    (fun group => (situated_declarations [] group).1) groups
  have definitions := nested_groups nested_definitions
    (fun group => (situated_definitions [] group).1) groups
  refine ⟨trivial, nested_append.mpr ⟨declarations, ?_⟩⟩
  show Nested ((groups.flatMap Group.declarations).foldl Entry.scopes []) _
  rw [(situated_allDeclarations groups).1]
  exact definitions

theorem nested_single (group : Group) (type : TypeDecl) :
    Nested [] (singleEntries group type) := by
  unfold singleEntries
  cases group.space with
  | none => exact nested_append.mpr ⟨nested_neighbours _, trivial, trivial⟩
  | some space =>
    refine ⟨trivial, trivial, nested_append.mpr ⟨nested_neighbours _, trivial, ?_, trivial⟩⟩
    simp only [Entry.scopes]
    rw [(situated_neighbours _ _).1]
    exact List.cons_ne_nil _ _

theorem nested_pages (job : Job) (types : List TypeDecl) :
    ∀ page ∈ pages job types, Nested [] page.entries := by
  unfold pages
  by_cases single : job.settings.singleFile
  · simp only [single, if_true, List.forall_mem_singleton]
    exact nested_combined _
  · simp only [single, Bool.false_eq_true, if_false, List.forall_mem_map]
    exact fun pair _ => nested_single pair.1 pair.2

end Nested

/-! What is written is the segments. -/

section Written

variable {job : Job}

theorem appendTo_appends (type : TypeDecl) (definition : Definition) :
    Buffer.Appends fun buffer => definition.appendTo type buffer := by
  cases definition with
  | written code messages complete => exact .block code
  | failed failure => exact (Buffer.Appends.comment _).then_ .blank

theorem write_appends (entry : Entry) :
    Buffer.Appends fun buffer => entry.write job buffer := by
  cases entry with
  | comment text => exact .comment text
  | blank => exact .blank
  | opens space => exact (Buffer.Appends.line _).then_ (.indent 1)
  | closes => exact (Buffer.Appends.indent (-1)).then_ (.line "\x7d")
  | declares type => exact .line _
  | defines type => exact appendTo_appends type _

theorem write_level {entry : Entry} {scopes : List String} {buffer : Buffer}
    (fits : entry.Fits scopes) (level : buffer.level = scopes.length) :
    (entry.write job buffer).level = (entry.scopes scopes).length := by
  cases entry with
  | comment text => exact level
  | blank => exact level
  | opens space =>
    show buffer.level + 1 = _
    rw [level, Entry.scopes, List.length_cons]
    rfl
  | closes =>
    cases scopes with
    | nil => exact absurd rfl fits
    | cons scope outer =>
      show buffer.level + -1 = outer.length
      rw [level, List.length_cons]
      omega
  | declares type => exact level
  | defines type =>
    simp only [Entry.write, Entry.scopes]
    cases Proxy.define job type with
    | written code messages complete => rw [Definition.appendTo, Buffer.block_level, level]
    | failed failure => exact level

theorem write_segments {entries : List Entry} {scopes : List String} {buffer : Buffer}
    (nested : Nested scopes entries) (unit : buffer.unit = job.settings.indent)
    (level : buffer.level = scopes.length) :
    (entries.foldl (Entry.write job) buffer).lines.toList =
      buffer.lines.toList ++ (segments job scopes entries).flatMap (·.2) := by
  induction entries generalizing scopes buffer with
  | nil => simp [segments]
  | cons entry rest ih =>
    obtain ⟨fits, nestedRest⟩ := nested
    have appends : Buffer.Appends fun buffer => entry.write job buffer := write_appends entry
    have empty : buffer.emptied = { unit := job.settings.indent, level := scopes.length } := by
      rw [Buffer.emptied, unit, level]
    rw [List.foldl_cons, ih nestedRest ((appends.unit buffer).trans unit) (write_level fits level),
      appends.lines, empty, segments, List.flatMap_cons, List.append_assoc]
    rfl

theorem segments_append (job : Job) (scopes : List String) (first second : List Entry) :
    segments job scopes (first ++ second) =
      segments job scopes first ++ segments job (first.foldl Entry.scopes scopes) second := by
  induction first generalizing scopes with
  | nil => rfl
  | cons entry rest ih => simp only [List.cons_append, segments, List.foldl_cons, ih]

theorem segments_congr {first second : Job} (settings : first.settings = second.settings)
    (map : first.map = second.map) {entries : List Entry}
    (same : ∀ type ∈ definedTypes entries, Proxy.define first type = Proxy.define second type)
    (scopes : List String) : segments first scopes entries = segments second scopes entries := by
  induction entries generalizing scopes with
  | nil => rfl
  | cons entry rest ih =>
    rw [definedTypes_cons] at same
    have later := ih (fun type member => same type (List.mem_append_right _ member))
      (entry.scopes scopes)
    have lines : entry.lines first scopes = entry.lines second scopes := by
      cases entry with
      | comment text => simp only [Entry.lines, Entry.write, settings]
      | blank => simp only [Entry.lines, Entry.write, settings]
      | opens space => simp only [Entry.lines, Entry.write, settings]
      | closes => simp only [Entry.lines, Entry.write, settings]
      | declares type => simp only [Entry.lines, Entry.write, settings, map]
      | defines type =>
        have own := same type (List.mem_append_left _ (by simp [Entry.defined?]))
        simp only [Entry.lines, Entry.write, settings, own]
    rw [segments, segments, lines, later]

theorem definitions_segments (scopes : List String) (entries : List Entry) :
    definitions (segments job scopes entries) =
      (situated Entry.defined? scopes entries).map fun (scopes, type) =>
        (type, (Entry.defines type).lines job scopes) := by
  induction entries generalizing scopes with
  | nil => rfl
  | cons entry rest ih =>
    rw [segments, situated, List.map_append, ← ih]
    -- Only an entry that defines a type adds to either side.
    cases entry <;> rfl

end Written

end ProxyHeaders.Layout
