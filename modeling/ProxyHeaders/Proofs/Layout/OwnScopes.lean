import ProxyHeaders.Proofs.Layout.Visibility

/-!
The scope that a type is written in, which is that of its group. It is the type's own, and the one
that references spell, unless the group of the types without a namespace also holds types of the
namespace that is called like it: there the first type that stays decides for all of them.
-/
namespace ProxyHeaders.Layout

open ProxyHeaders.Mapping ProxyHeaders.Names ProxyHeaders.Proxy ProxyHeaders.Template

/-- The scope that is open inside some others; a scope without a name adds nothing. -/
def enclosing (scopes : List String) : String :=
  "::".intercalate (scopes.filter fun scope => !scope.isEmpty).reverse

/-- A page declares or defines a type where these scopes are open. -/
def Page.Places (page : Page) (scopes : List String) (type : TypeDecl) : Prop :=
  (scopes, type) ∈ situated Entry.declared? [] page.entries ∨
    (scopes, type) ∈ situated Entry.defined? [] page.entries

/-- The first type that stays in the group of a type has the type's namespace, or none like it. -/
def LedAlike (map : TypeMap) (types : List TypeDecl) (type : TypeDecl) : Prop :=
  ∀ leader, (groupMembers map types type.groupKey).head? = some leader →
    stated leader.space = stated type.space

theorem enclosing_group (group : Group) : enclosing group.scopes = scopeOf group.space := by
  cases space : group.space with
  | none => simp [enclosing, Group.scopes, space, scopeOf, stated]
  | some name =>
    by_cases empty : (scopeOf (some name)).isEmpty
    · have nameless : scopeOf (some name) = "" := String.isEmpty_iff.mp empty
      simp [enclosing, Group.scopes, space, nameless]
    · simp [enclosing, Group.scopes, space, empty]

theorem ledAlike_of_groupKey {map : TypeMap} {types : List TypeDecl} {type : TypeDecl}
    (named : type.groupKey ≠ globalGroup) : LedAlike map types type := by
  have spaceOf {other : TypeDecl} (key : other.groupKey = type.groupKey) :
      stated other.space = some type.groupKey := by
    cases space : stated other.space with
    | none =>
      have unnamed : other.groupKey = globalGroup := by simp [TypeDecl.groupKey, space]
      exact absurd (key.symm.trans unnamed) named
    | some name =>
      have own : other.groupKey = name := by simp [TypeDecl.groupKey, space]
      rw [← key, own]
  intro leader first
  have key : leader.groupKey = type.groupKey := by
    simpa using (List.mem_filter.mp (List.mem_of_head? first)).2
  rw [spaceOf key, spaceOf rfl]

theorem group_ledAlike {map : TypeMap} {types : List TypeDecl} {type : TypeDecl}
    (stays : type ∈ survivors map types) :
    stated (groupOf (survivors map types) type.groupKey).space = stated type.space ↔
      LedAlike map types type := by
  have member : type ∈ groupMembers map types type.groupKey :=
    List.mem_filter.mpr ⟨stays, by simp⟩
  obtain ⟨leader, first⟩ : ∃ leader, (groupMembers map types type.groupKey).head? = some leader :=
    Option.isSome_iff_exists.mp (List.isSome_head?.mpr (List.ne_nil_of_mem member))
  have space : (groupOf (survivors map types) type.groupKey).space = leader.space := by
    rw [groupMembers] at first
    simp [groupOf, first]
  rw [space]
  constructor
  · intro same other leads
    cases first.symm.trans leads
    exact same
  · exact fun alike => alike leader first

section Run

variable {job : Job} {types : List TypeDecl} (distinct : (types.map (·.fullName)).Nodup)

include distinct

theorem places_scopes {page : Page} (listed : page ∈ pages job types) {scopes : List String}
    {type : TypeDecl} (placed : page.Places scopes type) :
    type ∈ survivors job.map types ∧
      scopes = (groupOf (survivors job.map types) type.groupKey).scopes := by
  have kept := survivors_distinct distinct job.map
  cases layout : job.settings.singleFile with
  | true =>
    have whole : page = combinedPage job (groups job.map types) := by
      simpa [pages, layout] using listed
    have places := situated_combined (groups job.map types)
    rw [whole, Page.Places, combinedPage, places.1, places.2, or_self] at placed
    exact (mem_groupedTypes distinct job.map).mp placed
  | false =>
    obtain ⟨single, singleStays, rfl⟩ := (mem_pages distinct layout).mp listed
    have places := situated_single (groupOf (survivors job.map types) single.groupKey) single
    rw [Page.Places, typePage, singlePage, places.1, places.2] at placed
    rcases placed with declared | defined
    · obtain ⟨neighbour, inside, same⟩ := List.mem_map.mp declared
      cases same
      obtain ⟨stays, key⟩ := (mem_groupOf kept).mp (List.mem_filter.mp inside).1
      exact ⟨stays, by rw [key]⟩
    · cases List.mem_singleton.mp defined
      exact ⟨singleStays, rfl⟩

end Run

/-- A run over types of distinct full names always gives its pages, and these define every type that
stays. Wherever they declare or define it they do so in the scope of the type's own namespace, and
under the qualified name that references to it spell, exactly if the group of the type is led by a
type of that namespace; of the groups only the one of the types without a namespace can be led
otherwise. -/
theorem types_in_own_namespace (settings : Settings) (sanitizer : Sanitizer)
    {types : List TypeDecl} (distinct : (types.map (·.fullName)).Nodup) :
    let job := jobFor settings sanitizer renderer types
    ∃ generation, generateWith settings sanitizer renderer types = .ok generation ∧
      generation.headers = (pages job types).map (Page.formatted job) ∧
      ∀ type ∈ survivors job.map types,
        (∃ page ∈ pages job types, ∃ scopes,
          (scopes, type) ∈ situated Entry.defined? [] page.entries) ∧
        (type.groupKey ≠ globalGroup → LedAlike job.map types type) ∧
        ∀ page ∈ pages job types, ∀ scopes, page.Places scopes type →
          (enclosing scopes = scopeOf type.space ↔ LedAlike job.map types type) ∧
          (spelledIn job.map scopes type.name =
              job.map.qualifiedStructName type.space type.name ↔
            LedAlike job.map types type) := by
  intro job
  obtain ⟨generation, generated, headers⟩ := generateWith_pages settings sanitizer distinct
  refine ⟨generation, generated, headers, ?_⟩
  intro type stays
  refine ⟨?_, ledAlike_of_groupKey, ?_⟩
  · have grouped := (mem_groupedTypes distinct job.map).mpr ⟨stays, rfl⟩
    rw [← situated_pages job types, List.mem_flatMap] at grouped
    obtain ⟨page, listed, defined⟩ := grouped
    exact ⟨page, listed, _, defined⟩
  · intro page listed scopes placed
    obtain ⟨-, rfl⟩ := places_scopes distinct listed placed
    obtain ⟨leader, -, key, space⟩ := groupOf_leader stays rfl
    constructor
    · rw [enclosing_group, ← group_ledAlike stays, space]
      exact scopeOf_sameGroup key
    · exact (group_spells stays).trans (group_ledAlike stays)

/-! A type without a namespace in front of one whose namespace has the name of its group. -/

def stray : TypeDecl := { name := "Stray" }
def settled : TypeDecl := { name := "Settled", space := some "Global" }

def strayJob (singleFile : Bool) : Job :=
  jobFor { singleFile } Sanitizer.forHeaders renderer [stray, settled, animal]

theorem settled_misplaced :
    ([stray, settled, animal].map (·.fullName)).Nodup ∧
      ∀ singleFile, ∀ page ∈ pages (strayJob singleFile) [stray, settled, animal], ∀ scopes,
        (page.Places scopes stray → enclosing scopes = "") ∧
        (page.Places scopes animal → enclosing scopes = "Zoo") ∧
        (page.Places scopes settled → enclosing scopes ≠ "Global") := by
  have distinct : ([stray, settled, animal].map (·.fullName)).Nodup := by decide
  refine ⟨distinct, ?_⟩
  intro singleFile
  have stay : survivors (strayJob singleFile).map [stray, settled, animal] =
      [stray, settled, animal] := by
    cases singleFile <;> rfl
  intro page listed scopes
  have leads (leader : TypeDecl) : (groupMembers (strayJob singleFile).map
      [stray, settled, animal] globalGroup).head? = some leader ↔ stray = leader := by
    rw [groupMembers, stay]
    exact Option.some_inj
  obtain ⟨generation, -, -, each⟩ :=
    types_in_own_namespace { singleFile } Sanitizer.forHeaders distinct
  change ∀ type ∈ survivors (strayJob singleFile).map [stray, settled, animal], _ at each
  rw [stay] at each
  refine ⟨?_, ?_, ?_⟩
  · intro placed
    obtain ⟨-, -, scope⟩ := each stray (by simp)
    refine (scope page listed scopes placed).1.mpr ?_
    intro leader first
    rw [(leads leader).mp first]
  · intro placed
    obtain ⟨-, named, scope⟩ := each animal (by simp)
    exact (scope page listed scopes placed).1.mpr (named (by decide))
  · intro placed own
    obtain ⟨-, -, scope⟩ := each settled (by simp)
    -- The type that leads the group has no namespace.
    have led := (scope page listed scopes placed).1.mp own
    exact absurd (led stray ((leads stray).mpr rfl)) (by decide)

end ProxyHeaders.Layout
