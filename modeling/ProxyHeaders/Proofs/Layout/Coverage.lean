import Mathlib.Data.List.Forall2
import ProxyHeaders.Proofs.Layout.Visibility

/-!
No type is lost or written twice. Both layouts follow one order, that of the groups, in which every
type that stays comes once. One header for everything declares the types in this order and then
defines them in it; separate headers come in it, each for one type, and declare the rest of the
type's group.
-/
namespace ProxyHeaders.Layout

open ProxyHeaders.Mapping ProxyHeaders.Names ProxyHeaders.Proxy ProxyHeaders.Template

/-- The types of a run in the order in which they are written. -/
def writtenOrder (map : TypeMap) (types : List TypeDecl) : List TypeDecl :=
  (groups map types).flatMap (·.types)

def neighbours (order : List TypeDecl) (type : TypeDecl) : List TypeDecl :=
  (order.filter (·.groupKey == type.groupKey)).filter (·.fullName != type.fullName)

/-- A page declares some types, one after the other, and behind all of them defines them. -/
def Page.WritesAll (page : Page) (order : List TypeDecl) : Prop :=
  ∃ front back, page.entries = front ++ back ∧
    declaredTypes front = order ∧ definedTypes front = [] ∧
    declaredTypes back = [] ∧ definedTypes back = order

/-- A page is the unit of one type: it declares the others of its group and defines the type. -/
structure Page.WritesOne (job : Job) (order : List TypeDecl) (page : Page) (type : TypeDecl) :
    Prop where
  path : page.path = unitPath job.map type
  declares : declaredTypes page.entries = neighbours order type
  defines : definedTypes page.entries = [type]

section Order

variable {types : List TypeDecl} (distinct : (types.map (·.fullName)).Nodup)

include distinct

theorem writtenOrder_distinct (map : TypeMap) :
    ((writtenOrder map types).map (·.fullName)).Nodup := groups_distinct distinct map

theorem filter_groups {keys : List String} (once : keys.Nodup) {key : String}
    (listed : key ∈ keys) :
    (keys.flatMap fun key => (groupOf types key).types).filter (·.groupKey == key) =
      (groupOf types key).types := by
  have own : (groupOf types key).types.filter (·.groupKey == key) = (groupOf types key).types := by
    rw [List.filter_eq_self]
    intro type member
    simpa using ((mem_groupOf distinct).mp member).2
  have none {other : String} (different : other ≠ key) :
      (groupOf types other).types.filter (·.groupKey == key) = [] := by
    rw [List.filter_eq_nil_iff]
    intro type member
    simpa [((mem_groupOf distinct).mp member).2] using different
  -- Every group but the one of this key is filtered to nothing, and that one is not filtered.
  rw [List.filter_flatMap]
  induction keys with
  | nil => cases listed
  | cons first rest ih =>
    rw [List.nodup_cons] at once
    rw [List.flatMap_cons]
    rcases List.mem_cons.mp listed with rfl | later
    · have nothing : (rest.flatMap fun other =>
          (groupOf types other).types.filter (·.groupKey == key)) = [] := by
        rw [List.flatMap_eq_nil_iff]
        intro other inRest
        apply none
        rintro rfl
        exact once.1 inRest
      rw [own, nothing, List.append_nil]
    · have different : first ≠ key := by
        rintro rfl
        exact once.1 later
      rw [none different, List.nil_append]
      exact ih once.2 later

theorem groupOf_neighbours (map : TypeMap) {type : TypeDecl} (stays : type ∈ survivors map types) :
    (groupOf (survivors map types) type.groupKey).types.filter (·.fullName != type.fullName) =
      neighbours (writtenOrder map types) type := by
  have kept := survivors_distinct distinct map
  have once : (groupKeys (survivors map types)).Nodup :=
    (groupKeys_strict _).imp fun less => String.ne_of_lt less
  have listed : type.groupKey ∈ groupKeys (survivors map types) :=
    mem_groupKeys.mpr ⟨type, stays, rfl⟩
  rw [neighbours, writtenOrder, groups, List.flatMap_map, filter_groups kept once listed]

end Order

variable {job : Job} {types : List TypeDecl}

theorem combinedPage_writes (groups : List Group) :
    (combinedPage job groups).WritesAll (groups.flatMap (·.types)) := by
  have declarations := allDeclarations_types groups
  have definitions := allDefinitions_types groups
  refine ⟨.comment "Forward declarations" :: groups.flatMap Group.declarations,
    groups.flatMap Group.definitions, rfl, ?_, ?_, definitions⟩
  · simp [Entry.declared?, declarations]
  · simp [Entry.defined?, declarations]

theorem singlePages_write (distinct : (types.map (·.fullName)).Nodup) :
    List.Forall₂ (Page.WritesOne job (writtenOrder job.map types))
      ((Group.members (groups job.map types)).map fun (group, type) => singlePage job group type)
      (writtenOrder job.map types) := by
  have order : (Group.members (groups job.map types)).map (·.2) = writtenOrder job.map types :=
    members_types _
  have each : ∀ pair ∈ Group.members (groups job.map types),
      Page.WritesOne job (writtenOrder job.map types) (singlePage job pair.1 pair.2) pair.2 := by
    rintro ⟨group, type⟩ listed
    obtain ⟨stays, rfl⟩ := (mem_members distinct).mp listed
    have entries := singleEntries_types (groupOf (survivors job.map types) type.groupKey) type
    rw [groupOf_neighbours distinct job.map stays] at entries
    exact ⟨rfl, entries.1, entries.2⟩
  rw [← order, List.forall₂_map_left_iff, List.forall₂_map_right_iff, order]
  exact List.forall₂_same.mpr each

/-- In a run over types of distinct full names, what is written is what stays, each type once. One
header for everything declares all of it in front of what it defines; otherwise every type has one
header, which declares the rest of its group. The run counts the types that get a body. -/
theorem every_type_written_once (settings : Settings) (sanitizer : Sanitizer)
    {types : List TypeDecl} (distinct : (types.map (·.fullName)).Nodup) :
    let job := jobFor settings sanitizer renderer types
    let order := writtenOrder job.map types
    order.Perm (survivors job.map types) ∧ (order.map (·.fullName)).Nodup ∧
    ∃ generation, generateWith settings sanitizer renderer types = .ok generation ∧
      generation.headers = (pages job types).map (Page.formatted job) ∧
      generation.emittedCount =
        (survivors job.map types).countP (fun type => (Proxy.define job type).isComplete) ∧
      if settings.singleFile then ∃ page, pages job types = [page] ∧ page.WritesAll order
      else List.Forall₂ (Page.WritesOne job order) (pages job types) order := by
  intro job order
  have stays : order.Perm (survivors job.map types) := groups_partition distinct job.map
  obtain ⟨generation, generated, headers, count⟩ :=
    generateWith_arranged settings sanitizer distinct
  refine ⟨stays, writtenOrder_distinct distinct job.map, generation, generated, headers, ?_, ?_⟩
  · rw [count]
    exact stays.countP_eq _
  · have layout : job.settings.singleFile = settings.singleFile := rfl
    unfold pages
    rw [layout]
    cases single : settings.singleFile with
    | true => exact ⟨_, rfl, combinedPage_writes _⟩
    | false => exact singlePages_write distinct

/-! An animal, a cat and a dog in one header, and in one header each. -/

theorem animals_written_once :
    ([animal, cat, dog].map (·.fullName)).Nodup ∧
      ∀ singleFile : Bool, ∃ generation,
        generateWith { singleFile } Sanitizer.forHeaders renderer [animal, cat, dog] =
          .ok generation ∧
        generation.headers.length = (if singleFile then 1 else 3) ∧
        generation.emittedCount = 3 := by
  have distinct : ([animal, cat, dog].map (·.fullName)).Nodup := by decide
  refine ⟨distinct, ?_⟩
  intro singleFile
  obtain ⟨order, -, generation, generated, headers, count, layout⟩ :=
    every_type_written_once { singleFile } Sanitizer.forHeaders distinct
  have stay : survivors (jobFor { singleFile } Sanitizer.forHeaders renderer
    [animal, cat, dog]).map [animal, cat, dog] = [animal, cat, dog] := by
    cases singleFile <;> rfl
  rw [stay] at order count
  refine ⟨generation, generated, ?_, ?_⟩
  · rw [headers, List.length_map]
    cases singleFile with
    | true =>
      obtain ⟨page, only, -⟩ := layout
      rw [only]
      rfl
    | false =>
      rw [List.Forall₂.length_eq layout, order.length_eq]
      rfl
  · rw [count, List.countP_eq_length.mpr]
    · rfl
    · intro type listed
      -- The base of the cat and the dog is a class of the run, so nobody lacks a body.
      apply (define_isComplete rfl).mpr
      right
      intro source missing
      simp only [List.mem_cons, List.not_mem_nil, or_false] at listed
      rcases listed with rfl | rfl | rfl <;> cases missing

end ProxyHeaders.Layout
