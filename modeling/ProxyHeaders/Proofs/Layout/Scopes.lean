import ProxyHeaders.Proofs.Layout.Pages

/-!
The qualified name of what a header declares or defines: the scopes that are open where it stands,
and its own name.
-/
namespace ProxyHeaders.Layout

open ProxyHeaders.Mapping ProxyHeaders.Proxy

/-- The scopes that are open behind an entry, the innermost first. -/
def Entry.scopes (outer : List String) : Entry → List String
  | .opens space => scopeOf (some space) :: outer
  | .closes => outer.tail
  | _ => outer

/-- The types that entries declare, or define, with the scopes that are open there. -/
def situated (typeOf : Entry → Option TypeDecl) (outer : List String) :
    List Entry → List (List String × TypeDecl)
  | [] => []
  | entry :: rest =>
    ((typeOf entry).map fun type => (outer, type)).toList ++
      situated typeOf (entry.scopes outer) rest

/-- A name behind the scopes around it; a scope without a name adds nothing. -/
def spelledIn (map : TypeMap) (scopes : List String) (name : String) : String :=
  "::".intercalate ((scopes.filter fun scope => !scope.isEmpty).reverse ++ [map.structName name])

def Group.scopes (group : Group) : List String :=
  group.space.toList.map fun space => scopeOf (some space)

section Situated

attribute [local simp] Entry.scopes situated Group.scopes Entry.declared? Entry.defined?

variable (typeOf : Entry → Option TypeDecl) (outer : List String)

theorem situated_append (first second : List Entry) :
    situated typeOf outer (first ++ second) =
      situated typeOf outer first ++ situated typeOf (first.foldl Entry.scopes outer) second := by
  induction first generalizing outer with
  | nil => rfl
  | cons entry rest ih => simp [ih]

variable (types : List TypeDecl)

theorem situated_declares :
    (types.map Entry.declares).foldl Entry.scopes outer = outer ∧
    situated Entry.declared? outer (types.map .declares) = types.map (fun type => (outer, type)) ∧
    situated Entry.defined? outer (types.map .declares) = [] := by
  induction types with
  | nil => exact ⟨rfl, rfl, rfl⟩
  | cons type rest ih => simp [ih]

theorem situated_defines :
    (types.map Entry.defines).foldl Entry.scopes outer = outer ∧
    situated Entry.declared? outer (types.map .defines) = [] ∧
    situated Entry.defined? outer (types.map .defines) = types.map (fun type => (outer, type)) := by
  induction types with
  | nil => exact ⟨rfl, rfl, rfl⟩
  | cons type rest ih => simp [ih]

theorem situated_neighbours :
    (neighbourEntries types).foldl Entry.scopes outer = outer ∧
    situated Entry.declared? outer (neighbourEntries types) =
      types.map (fun type => (outer, type)) ∧
    situated Entry.defined? outer (neighbourEntries types) = [] := by
  have declares := situated_declares outer types
  unfold neighbourEntries
  by_cases alone : types.isEmpty
  · rw [if_pos alone, List.isEmpty_iff.mp alone]
    exact ⟨rfl, rfl, rfl⟩
  · rw [if_neg alone]
    simp [situated_append, declares]

theorem situated_declarations (group : Group) :
    group.declarations.foldl Entry.scopes outer = outer ∧
    situated Entry.declared? outer group.declarations =
      group.types.map (fun type => (group.scopes ++ outer, type)) ∧
    situated Entry.defined? outer group.declarations = [] := by
  unfold Group.declarations
  cases space : group.space with
  | none =>
    have declares := situated_declares outer group.types
    simp [situated_append, declares, space]
  | some name =>
    have declares := situated_declares (scopeOf (some name) :: outer) group.types
    simp [situated_append, declares, space]

theorem situated_definitions (group : Group) :
    group.definitions.foldl Entry.scopes outer = outer ∧
    situated Entry.declared? outer group.definitions = [] ∧
    situated Entry.defined? outer group.definitions =
      group.types.map (fun type => (group.scopes ++ outer, type)) := by
  unfold Group.definitions
  cases space : group.space with
  | none =>
    have defines := situated_defines outer group.types
    simp [situated_append, defines, space]
  | some name =>
    have defines := situated_defines (scopeOf (some name) :: outer) group.types
    simp [situated_append, defines, space]

theorem situated_groups {list : Group → List Entry}
    (closed : ∀ group, (list group).foldl Entry.scopes outer = outer) (groups : List Group) :
    (groups.flatMap list).foldl Entry.scopes outer = outer ∧
    situated typeOf outer (groups.flatMap list) =
      groups.flatMap fun group => situated typeOf outer (list group) := by
  induction groups with
  | nil => exact ⟨rfl, rfl⟩
  | cons group rest ih =>
    rcases ih with ⟨scopes, entries⟩
    constructor
    · rw [List.flatMap_cons, List.foldl_append, closed, scopes]
    · rw [List.flatMap_cons, situated_append, closed, entries, List.flatMap_cons]

def groupedTypes (groups : List Group) : List (List String × TypeDecl) :=
  groups.flatMap fun group => group.types.map fun type => (group.scopes, type)

theorem situated_allDeclarations (groups : List Group) :
    (groups.flatMap Group.declarations).foldl Entry.scopes [] = [] ∧
    situated Entry.declared? [] (groups.flatMap Group.declarations) = groupedTypes groups ∧
    situated Entry.defined? [] (groups.flatMap Group.declarations) = [] := by
  have closed (group : Group) := (situated_declarations [] group).1
  have declared (group : Group) := (situated_declarations [] group).2.1
  have defined (group : Group) := (situated_declarations [] group).2.2
  refine ⟨(situated_groups Entry.declared? [] closed groups).1, ?_, ?_⟩
  · rw [(situated_groups Entry.declared? [] closed groups).2]
    simp only [declared, List.append_nil]
    rfl
  · rw [(situated_groups Entry.defined? [] closed groups).2]
    simp [defined]

theorem situated_combined (groups : List Group) :
    situated Entry.declared? [] (combinedEntries groups) = groupedTypes groups ∧
    situated Entry.defined? [] (combinedEntries groups) = groupedTypes groups := by
  have declarations := situated_allDeclarations groups
  have closed (group : Group) := (situated_definitions [] group).1
  have declared (group : Group) := (situated_definitions [] group).2.1
  have defined (group : Group) := (situated_definitions [] group).2.2
  constructor
  · have rest := (situated_groups Entry.declared? [] closed groups).2
    simp [combinedEntries, situated_append, declarations, rest, declared]
  · have rest := (situated_groups Entry.defined? [] closed groups).2
    simp [combinedEntries, situated_append, declarations, rest, defined, groupedTypes]

theorem situated_single (group : Group) (type : TypeDecl) :
    situated Entry.declared? [] (singleEntries group type) =
      (group.types.filter (·.fullName != type.fullName)).map
        (fun other => (group.scopes, other)) ∧
    situated Entry.defined? [] (singleEntries group type) = [(group.scopes, type)] := by
  cases space : group.space with
  | none =>
    have neighbours := situated_neighbours []
      (group.types.filter (·.fullName != type.fullName))
    simp [singleEntries, space, situated_append, neighbours]
  | some name =>
    have neighbours := situated_neighbours [scopeOf (some name)]
      (group.types.filter (·.fullName != type.fullName))
    simp [singleEntries, space, situated_append, neighbours]

end Situated

/-- In both layouts the headers together define the types of the groups, in their order. -/
theorem situated_pages (job : Job) (types : List TypeDecl) :
    ((pages job types).flatMap fun page => situated Entry.defined? [] page.entries) =
      groupedTypes (groups job.map types) := by
  unfold pages
  by_cases single : job.settings.singleFile
  · simp [single, combinedPage, situated_combined]
  · have each (pair : Group × TypeDecl) :
        situated Entry.defined? [] (singlePage job pair.1 pair.2).entries =
          [(pair.1.scopes, pair.2)] := (situated_single pair.1 pair.2).2
    simp only [single, Bool.false_eq_true, if_false, List.flatMap_map, each]
    simp [Group.members, groupedTypes, List.map_flatMap, Function.comp_def, ← List.map_eq_flatMap]

theorem mem_groupedTypes {types : List TypeDecl}
    (distinct : (types.map (·.fullName)).Nodup) (map : TypeMap) {scopes : List String}
    {type : TypeDecl} :
    (scopes, type) ∈ groupedTypes (groups map types) ↔
      type ∈ survivors map types ∧
        scopes = (groupOf (survivors map types) type.groupKey).scopes := by
  have kept := survivors_distinct distinct map
  rw [groupedTypes, List.mem_flatMap]
  constructor
  · rintro ⟨group, listed, member⟩
    obtain ⟨key, -, rfl⟩ := List.mem_map.mp listed
    obtain ⟨other, own, same⟩ := List.mem_map.mp member
    cases same
    obtain ⟨stays, rfl⟩ := (mem_groupOf kept).mp own
    exact ⟨stays, rfl⟩
  · rintro ⟨stays, rfl⟩
    refine ⟨groupOf (survivors map types) type.groupKey, ?_, ?_⟩
    · exact List.mem_map.mpr ⟨type.groupKey, mem_groupKeys.mpr ⟨type, stays, rfl⟩, rfl⟩
    · exact List.mem_map.mpr ⟨type, (mem_groupOf kept).mpr ⟨stays, rfl⟩, rfl⟩

/-! A qualified name says which namespace a type is in. -/

theorem spelledIn_group (map : TypeMap) (group : Group) (name : String) :
    spelledIn map group.scopes name = map.qualifiedStructName group.space name := by
  cases space : group.space with
  | none =>
    have scope : scopeOf none = "" := rfl
    simp [spelledIn, Group.scopes, space, TypeMap.qualifiedStructName, scope]
  | some name =>
    by_cases empty : (scopeOf (some name)).isEmpty
    · simp [spelledIn, Group.scopes, space, TypeMap.qualifiedStructName, empty]
    · simp [spelledIn, Group.scopes, space, TypeMap.qualifiedStructName, empty,
        String.intercalate_cons_cons]

theorem qualifiedStructName_inj {map : TypeMap} {first second : Option String} {name : String} :
    map.qualifiedStructName first name = map.qualifiedStructName second name ↔
      scopeOf first = scopeOf second := by
  constructor
  · intro same
    have lengths := congrArg String.length same
    unfold TypeMap.qualifiedStructName at same lengths
    by_cases firstEmpty : (scopeOf first).isEmpty
    · by_cases secondEmpty : (scopeOf second).isEmpty
      · rw [String.isEmpty_iff.mp firstEmpty, String.isEmpty_iff.mp secondEmpty]
      · simp [firstEmpty, secondEmpty] at lengths
    · by_cases secondEmpty : (scopeOf second).isEmpty
      · simp [firstEmpty, secondEmpty] at lengths
      · simpa [firstEmpty, secondEmpty, ← String.toList_inj] using same
  · intro same
    simp only [TypeMap.qualifiedStructName, same]

theorem scopeOf_sameGroup {first second : TypeDecl} (key : first.groupKey = second.groupKey) :
    scopeOf first.space = scopeOf second.space ↔ stated first.space = stated second.space := by
  unfold TypeDecl.groupKey at key
  unfold scopeOf
  have global : "::".intercalate (Text.splitAtChar '.' globalGroup) ≠ "" := by decide
  cases firstStated : stated first.space with
  | none =>
    cases secondStated : stated second.space with
    | none => exact ⟨fun _ => rfl, fun _ => rfl⟩
    | some space =>
      -- This namespace has the name of the group for types without any.
      have named : globalGroup = space := by simpa [firstStated, secondStated] using key
      subst named
      exact ⟨fun same => absurd same.symm global, fun same => by cases same⟩
  | some space =>
    cases secondStated : stated second.space with
    | none =>
      have named : space = globalGroup := by simpa [firstStated, secondStated] using key
      subst named
      exact ⟨fun same => absurd same global, fun same => by cases same⟩
    | some other =>
      have same : space = other := by simpa [firstStated, secondStated] using key
      subst same
      exact ⟨fun _ => rfl, fun _ => rfl⟩

end ProxyHeaders.Layout
