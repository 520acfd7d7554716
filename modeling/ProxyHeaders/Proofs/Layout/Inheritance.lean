import ProxyHeaders.Proofs.Layout.Scopes
import ProxyHeaders.Proofs.Proxy.Definition

/-!
What a struct inherits from another class of the run. The base is written under the inherited name
exactly where it stays in its group, is not itself without its base, and has the namespace of its
group. One header for everything has the base first where its group comes first, or within one
group unless the bases of the base lead back.
-/
namespace ProxyHeaders.Layout

open ProxyHeaders.Code ProxyHeaders.Mapping ProxyHeaders.Names ProxyHeaders.Proxy
  ProxyHeaders.Template

theorem resolveBase_generated {map : TypeMap} {derived : TypeDecl} {spelling source target : String}
    (inherits : map.resolveBase derived = .generated spelling source target) :
    ∃ reference base, derived.base = some reference ∧ map.declared? reference.fullName = some base ∧
      base.isClass ∧ reference.fullName ≠ derived.fullName ∧
      spelling = map.qualifiedStructName base.space base.name ∧ target = base.fullName := by
  unfold TypeMap.resolveBase at inherits
  cases known : derived.base with
  | none => simp [known] at inherits
  | some reference =>
    simp only [known] at inherits
    split at inherits
    · cases inherits
    · split at inherits
      · cases inherits
      · next other =>
        split at inherits
        · cases inherits
        · split at inherits
          · next base found =>
            split at inherits
            · next isClass =>
              cases inherits
              exact ⟨reference, base, rfl, found, isClass, by simpa using other, rfl, rfl⟩
            · cases inherits
          · cases inherits

def groupMembers (map : TypeMap) (types : List TypeDecl) (key : String) : List TypeDecl :=
  (survivors map types).filter (·.groupKey == key)

/-- In a group a base comes before what derives from it, unless its own bases lead back there. -/
theorem group_ordered {map : TypeMap} {types : List TypeDecl}
    (distinct : (types.map (·.fullName)).Nodup) {base derived : TypeDecl} {reference : TypeRef}
    (baseStays : base ∈ survivors map types) (derivedStays : derived ∈ survivors map types)
    (sameGroup : base.groupKey = derived.groupKey) (refers : derived.base = some reference)
    (named : reference.fullName = base.fullName)
    (acyclic : ¬ LeadsTo (memberNamed (groupMembers map types derived.groupKey)) base derived) :
    [base, derived].Sublist (groupOf (survivors map types) derived.groupKey).types := by
  have members : (Proxy.sortByName (·.name) (groupMembers map types derived.groupKey)).Perm
      (groupMembers map types derived.groupKey) := List.mergeSort_perm _ _
  have once : ((groupMembers map types derived.groupKey).map (·.fullName)).Nodup :=
    (survivors_distinct distinct map).sublist (List.filter_sublist.map _)
  have sortedOnce := (members.map (·.fullName)).nodup_iff.mpr once
  -- Sorting the members changes nothing about which of them a full name means.
  have search := memberNamed_perm members once
  have baseMember : base ∈ groupMembers map types derived.groupKey :=
    List.mem_filter.mpr ⟨baseStays, by simpa using sameGroup⟩
  have derivedMember : derived ∈ groupMembers map types derived.groupKey :=
    List.mem_filter.mpr ⟨derivedStays, by simp⟩
  apply basesFirst_ordered sortedOnce (members.mem_iff.mpr derivedMember)
  · rw [search, knownBase, refers]
    exact (memberNamed_iff once).mpr ⟨baseMember, named.symm⟩
  · rw [search]
    exact acyclic

/-- A page has the body of a type, under the given qualified name. -/
def Page.Writes (job : Job) (page : Page) (type : TypeDecl) (spelling : String) : Prop :=
  (Proxy.define job type).isComplete ∧
    ∃ scopes, (scopes, type) ∈ situated Entry.defined? [] page.entries ∧
      spelledIn job.map scopes type.name = spelling

/-- The base of a struct is written under the name that the struct inherits; one header for
everything has it in front of the struct. -/
def BaseWritten (job : Job) (types : List TypeDecl) (base derived : TypeDecl)
    (spelling : String) : Prop :=
  ∃ page ∈ pages job types, page.Writes job base spelling ∧
    (job.settings.singleFile → [base, derived].Sublist (definedTypes page.entries))

/-- A base that a struct can inherit from in the headers of a run. -/
structure Inheritable (job : Job) (types : List TypeDecl) (base derived : TypeDecl) : Prop where
  stays : base ∈ survivors job.map types
  based : ∀ source, job.map.resolveBase base ≠ .missing source
  scope : stated (groupOf (survivors job.map types) base.groupKey).space = stated base.space
  first : job.settings.singleFile →
    base.groupKey < derived.groupKey ∨
    base.groupKey = derived.groupKey ∧
      (¬ LeadsTo (memberNamed (groupMembers job.map types derived.groupKey)) base derived ∨
        [base, derived].Sublist (groupOf (survivors job.map types) derived.groupKey).types)

theorem group_spells {map : TypeMap} {types : List TypeDecl} {type : TypeDecl}
    (stays : type ∈ types) :
    spelledIn map (groupOf types type.groupKey).scopes type.name =
        map.qualifiedStructName type.space type.name ↔
      stated (groupOf types type.groupKey).space = stated type.space := by
  obtain ⟨leader, -, key, space⟩ := groupOf_leader stays rfl
  rw [spelledIn_group, qualifiedStructName_inj, space]
  exact scopeOf_sameGroup key

section Run

variable {job : Job} {types : List TypeDecl} (distinct : (types.map (·.fullName)).Nodup)

include distinct

theorem writes_iff {type : TypeDecl} {spelling : String} :
    (∃ page ∈ pages job types, page.Writes job type spelling) ↔
      (Proxy.define job type).isComplete ∧ type ∈ survivors job.map types ∧
        spelledIn job.map (groupOf (survivors job.map types) type.groupKey).scopes type.name =
          spelling := by
  have placed (scopes : List String) :
      (∃ page ∈ pages job types, (scopes, type) ∈ situated Entry.defined? [] page.entries) ↔
        type ∈ survivors job.map types ∧
          scopes = (groupOf (survivors job.map types) type.groupKey).scopes := by
    rw [← mem_groupedTypes distinct, ← situated_pages job types, List.mem_flatMap]
  constructor
  · rintro ⟨page, listed, complete, scopes, member, spelled⟩
    obtain ⟨stays, rfl⟩ := (placed scopes).mp ⟨page, listed, member⟩
    exact ⟨complete, stays, spelled⟩
  · rintro ⟨complete, stays, spelled⟩
    obtain ⟨page, listed, member⟩ := (placed _).mpr ⟨stays, rfl⟩
    exact ⟨page, listed, complete, _, member, spelled⟩

theorem baseWritten_iff {base derived : TypeDecl} (render : job.renderFor base = renderer)
    (derivedStays : derived ∈ survivors job.map types) (isClass : base.isClass)
    {reference : TypeRef} (refers : derived.base = some reference)
    (named : reference.fullName = base.fullName) (other : base ≠ derived) :
    BaseWritten job types base derived (job.map.qualifiedStructName base.space base.name) ↔
      Inheritable job types base derived := by
  have noEnum : base.isEnum = false := by
    rw [TypeDecl.isClass, beq_iff_eq] at isClass
    rw [TypeDecl.isEnum, isClass]
    rfl
  have complete : (Proxy.define job base).isComplete ↔
      ∀ source, job.map.resolveBase base ≠ .missing source := by
    rw [define_isComplete render, noEnum]
    simp
  have writes : (∃ page ∈ pages job types,
        page.Writes job base (job.map.qualifiedStructName base.space base.name)) ↔
      (∀ source, job.map.resolveBase base ≠ .missing source) ∧
        base ∈ survivors job.map types ∧
        stated (groupOf (survivors job.map types) base.groupKey).space = stated base.space := by
    rw [writes_iff distinct, complete]
    constructor
    · rintro ⟨based, stays, spelled⟩
      exact ⟨based, stays, (group_spells stays).mp spelled⟩
    · rintro ⟨based, stays, scope⟩
      exact ⟨based, stays, (group_spells stays).mpr scope⟩
  -- The one header for everything defines the types of all groups, in their order.
  have order (single : job.settings.singleFile) (stays : base ∈ survivors job.map types) :
      ∀ page ∈ pages job types, ([base, derived].Sublist (definedTypes page.entries) ↔
        base.groupKey < derived.groupKey ∨ base.groupKey = derived.groupKey ∧
          [base, derived].Sublist
            (groupOf (survivors job.map types) derived.groupKey).types) := by
    intro page listed
    have isCombined : page = combinedPage job (groups job.map types) := by
      simpa [pages, single] using listed
    rw [isCombined, combinedPage, (combinedEntries_types _).2]
    exact groups_order distinct job.map stays derivedStays other
  constructor
  · rintro ⟨page, listed, written, before⟩
    obtain ⟨based, stays, scope⟩ := writes.mp ⟨page, listed, written⟩
    refine ⟨stays, based, scope, ?_⟩
    intro single
    rcases (order single stays page listed).mp (before single) with less | ⟨same, inside⟩
    · exact .inl less
    · exact .inr ⟨same, .inr inside⟩
  · rintro ⟨stays, based, scope, first⟩
    obtain ⟨page, listed, written⟩ := writes.mpr ⟨based, stays, scope⟩
    refine ⟨page, listed, written, ?_⟩
    intro single
    apply (order single stays page listed).mpr
    rcases first single with less | ⟨same, acyclic | inside⟩
    · exact .inl less
    · exact .inr ⟨same, group_ordered distinct stays derivedStays same refers named acyclic⟩
    · exact .inr ⟨same, inside⟩

end Run

/-- A run over types of distinct full names always gives its pages, and for each struct in them that
inherits from another class of the run that base is written under the inherited name exactly if it
is inheritable. -/
theorem inherited_base_written (settings : Settings) (sanitizer : Sanitizer)
    {types : List TypeDecl} (distinct : (types.map (·.fullName)).Nodup) :
    let job := jobFor settings sanitizer renderer types
    ∃ generation, generateWith settings sanitizer renderer types = .ok generation ∧
      generation.headers = (pages job types).map (Page.formatted job) ∧
      ∀ derived ∈ survivors job.map types, ∀ spelling source target,
        job.map.resolveBase derived = .generated spelling source target →
        ∃ base ∈ types, base.fullName = target ∧ base.isClass ∧
          (BaseWritten job types base derived spelling ↔ Inheritable job types base derived) := by
  intro job
  obtain ⟨generation, generated, headers⟩ := generateWith_pages settings sanitizer distinct
  refine ⟨generation, generated, headers, ?_⟩
  intro derived stays spelling source target inherits
  obtain ⟨reference, base, refers, found, isClass, other, rfl, rfl⟩ :=
    resolveBase_generated inherits
  obtain ⟨member, named⟩ := (jobFor_declared? distinct).mp found
  refine ⟨base, member, rfl, isClass, ?_⟩
  apply baseWritten_iff distinct rfl stays isClass refers named.symm
  rintro rfl
  exact other named.symm

/-! A base and two classes that derive from it, one of them in a namespace that comes first. -/

def animal : TypeDecl := { name := "Animal", space := some "Zoo" }
def cat : TypeDecl := { name := "Cat", space := some "Zoo", base := some animal.asRef }
def dog : TypeDecl := { name := "Dog", space := some "Home", base := some animal.asRef }

def animalJob : Job :=
  jobFor { singleFile := true } Sanitizer.forHeaders renderer [animal, cat, dog]

theorem animal_written_first :
    ([animal, cat, dog].map (·.fullName)).Nodup ∧
      BaseWritten animalJob [animal, cat, dog] animal cat "Zoo::Animal" ∧
      ¬ BaseWritten animalJob [animal, cat, dog] animal dog "Zoo::Animal" := by
  have distinct : ([animal, cat, dog].map (·.fullName)).Nodup := by decide
  have stay : survivors animalJob.map [animal, cat, dog] = [animal, cat, dog] := rfl
  obtain ⟨generation, -, -, each⟩ :=
    inherited_base_written { singleFile := true } Sanitizer.forHeaders distinct
  change ∀ derived ∈ survivors animalJob.map [animal, cat, dog], _ at each
  have isAnimal (base : TypeDecl) (listed : base ∈ [animal, cat, dog])
      (named : base.fullName = "Zoo.Animal") : base = animal :=
    same_of_fullName distinct listed (by simp) named
  have stays : animal ∈ survivors animalJob.map [animal, cat, dog] := by
    rw [stay]
    simp
  rw [stay] at each
  refine ⟨distinct, ?_, ?_⟩
  · obtain ⟨base, listed, named, -, written⟩ :=
      each cat (by simp) "Zoo::Animal" "Animal" "Zoo.Animal" rfl
    rw [isAnimal base listed named] at written
    apply written.mpr
    refine ⟨stays, ?_, rfl, ?_⟩
    · intro source missing
      cases missing
    · -- The animal has no base, so nothing leads from it back to the cat.
      intro single
      refine .inr ⟨rfl, .inl ?_⟩
      intro leads
      obtain ⟨next, known, -⟩ := Relation.TransGen.head'_iff.mp leads
      cases known
  · obtain ⟨base, listed, named, -, written⟩ :=
      each dog (by simp) "Zoo::Animal" "Animal" "Zoo.Animal" rfl
    rw [isAnimal base listed named] at written
    intro present
    rcases (written.mp present).first rfl with less | ⟨same, -⟩
    · exact absurd less (by decide)
    · exact absurd same (by decide)

end ProxyHeaders.Layout
