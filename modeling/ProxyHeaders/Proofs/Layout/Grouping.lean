import ProxyHeaders.Proofs.Layout.Inheritance
import ProxyHeaders.Proofs.Layout.UnitPaths

/-!
The groups of a run. Their keys ascend, and each type that is the first of its generated name in its
group stands in that group, once, behind its base in the group unless the base leads back to it. The
walks that put the bases in front come to an end on their own, in circles too: the number of steps
that is set for them is never what stops them. They nest a call for every type they pass, though, and
where the calls that are left do not last for a walk, there are no groups.
-/
namespace ProxyHeaders.Layout

open ProxyHeaders.Mapping

/-! The order of a group, with no bound on the steps. -/

section Walks

variable {find : String → Option TypeDecl}

/-- A walk from a type to its bases, however long, and the calls that it nests: nothing is left to
place where the type is placed or met; any other type comes behind what the walk from its base
places. -/
inductive Walks (find : String → Option TypeDecl) (placed : List String) :
    List String → TypeDecl → Nat → List TypeDecl → Prop where
  | done {met : List String} {type : TypeDecl}
      (known : type.fullName ∈ placed ∨ type.fullName ∈ met) : Walks find placed met type 1 []
  | root {met : List String} {type : TypeDecl} (unplaced : type.fullName ∉ placed)
      (unmet : type.fullName ∉ met) (baseless : knownBase find type = none) :
      Walks find placed met type 1 [type]
  | derived {met : List String} {type base : TypeDecl} {calls : Nat} {line : List TypeDecl}
      (unplaced : type.fullName ∉ placed) (unmet : type.fullName ∉ met)
      (known : knownBase find type = some base)
      (above : Walks find placed (type.fullName :: met) base calls line) :
      Walks find placed met type (calls + 1) (line ++ [type])

/-- Some types placed one after the other, each with the walk to its bases, and the calls that the
longest of the walks nests. -/
inductive Places (find : String → Option TypeDecl) :
    List TypeDecl → List TypeDecl → Nat → List TypeDecl → Prop where
  | nil {placed : List TypeDecl} : Places find placed [] 0 placed
  | cons {placed rest line order : List TypeDecl} {type : TypeDecl} {calls depth : Nat}
      (walk : Walks find (placed.map (·.fullName)) [] type calls line)
      (later : Places find (placed ++ line) rest depth order) :
      Places find placed (type :: rest) (max calls depth) order

theorem Walks.unique {placed met : List String} {type : TypeDecl} {calls others : Nat}
    {first second : List TypeDecl} (one : Walks find placed met type calls first)
    (other : Walks find placed met type others second) : calls = others ∧ first = second := by
  induction one generalizing others second with
  | done known =>
    cases other with
    | done => exact ⟨rfl, rfl⟩
    | root unplaced unmet => exact absurd known (not_or.mpr ⟨unplaced, unmet⟩)
    | derived unplaced unmet => exact absurd known (not_or.mpr ⟨unplaced, unmet⟩)
  | root unplaced unmet baseless =>
    cases other with
    | done known => exact absurd known (not_or.mpr ⟨unplaced, unmet⟩)
    | root => exact ⟨rfl, rfl⟩
    | derived _ _ known => cases baseless.symm.trans known
  | derived unplaced unmet known _ ih =>
    cases other with
    | done placed => exact absurd placed (not_or.mpr ⟨unplaced, unmet⟩)
    | root _ _ baseless => cases baseless.symm.trans known
    | derived _ _ same above =>
      cases known.symm.trans same
      obtain ⟨rfl, rfl⟩ := ih above
      exact ⟨rfl, rfl⟩

theorem Places.unique {placed rest first second : List TypeDecl} {depth other : Nat}
    (one : Places find placed rest depth first) (another : Places find placed rest other second) :
    depth = other ∧ first = second := by
  induction one generalizing other second with
  | nil => cases another; exact ⟨rfl, rfl⟩
  | cons walk _ ih =>
    cases another with
    | cons sameWalk later =>
      obtain ⟨rfl, rfl⟩ := walk.unique sameWalk
      obtain ⟨rfl, rfl⟩ := ih later
      exact ⟨rfl, rfl⟩

theorem lineage_walks {types : List TypeDecl}
    (finds : ∀ name type, find name = some type → type ∈ types ∧ type.fullName = name)
    (placed : List String) (steps : Nat) {met : List String} {type : TypeDecl}
    (member : type ∈ types) (metOnce : met.Nodup)
    (metNamed : ∀ name ∈ met, ∃ other ∈ types, other.fullName = name)
    (enough : types.length < steps + met.length) :
    ∃ calls ≤ steps, Walks find placed met type calls (lineage find placed steps met type) := by
  induction steps generalizing met type with
  | zero =>
    have bound := length_of_named metOnce metNamed
    omega
  | succ steps ih =>
    by_cases done : type.fullName ∈ placed ∨ type.fullName ∈ met
    · rw [lineage_done done]
      exact ⟨1, by omega, .done done⟩
    · obtain ⟨unplaced, unmet⟩ := not_or.mp done
      rw [lineage_step unplaced unmet]
      cases known : knownBase find type with
      | none => exact ⟨1, by omega, .root unplaced unmet known⟩
      | some base =>
        have nowNamed : ∀ name ∈ type.fullName :: met, ∃ other ∈ types, other.fullName = name :=
          List.forall_mem_cons.mpr ⟨⟨type, member, rfl⟩, metNamed⟩
        obtain ⟨calls, few, above⟩ := ih (knownBase_member finds known)
          (List.nodup_cons.mpr ⟨unmet, metOnce⟩) nowNamed
          (by simp only [List.length_cons]; omega)
        exact ⟨calls + 1, by omega, .derived unplaced unmet known above⟩

theorem placeAll_places {types : List TypeDecl}
    (finds : ∀ name type, find name = some type → type ∈ types ∧ type.fullName = name)
    {placed rest : List TypeDecl} (members : rest ⊆ types) :
    ∃ depth ≤ types.length + 1,
      Places find placed rest depth (placeAll find (types.length + 1) placed rest) := by
  induction rest generalizing placed with
  | nil => exact ⟨0, by omega, .nil⟩
  | cons type rest ih =>
    obtain ⟨calls, few, walk⟩ := lineage_walks finds (placed.map (·.fullName)) (types.length + 1)
      (members List.mem_cons_self) List.nodup_nil (by simp) (by simp)
    obtain ⟨depth, bounded, later⟩ := ih fun other later => members (List.mem_cons_of_mem type later)
    exact ⟨max calls depth, by omega, .cons walk later⟩

/-- Placing the types of a list ends, in no more nested calls than there are types and one, and
always with the same order. -/
theorem basesFirst_places (types : List TypeDecl) : ∃ depth ≤ types.length + 1,
    ∀ nested order, Places (memberNamed types) [] types nested order ↔
      nested = depth ∧ order = basesFirst types := by
  have placed : ∃ depth ≤ types.length + 1,
      Places (memberNamed types) [] types depth (basesFirst types) :=
    placeAll_places (memberNamed_finds types) (List.Subset.refl types)
  obtain ⟨depth, bounded, ends⟩ := placed
  refine ⟨depth, bounded, fun nested order => ⟨fun places => places.unique ends, ?_⟩⟩
  rintro ⟨rfl, rfl⟩
  exact ends

theorem Walks.within {placed met : List String} {type : TypeDecl} {calls : Nat}
    {line : List TypeDecl} (walk : Walks find placed met type calls line) (levels : Nat) :
    lineageWithin find placed levels met type = if calls ≤ levels then some line else none := by
  induction walk generalizing levels with
  | done known =>
    cases levels with
    | zero => rfl
    | succ levels =>
      rw [if_pos (by omega), lineageWithin, if_pos (by simpa using known)]
  | root unplaced unmet baseless =>
    cases levels with
    | zero => rfl
    | succ levels =>
      rw [if_pos (by omega), lineageWithin, if_neg (by simp [unplaced, unmet]), ← knownBase.eq_1,
        baseless]
  | derived unplaced unmet known _ ih =>
    cases levels with
    | zero => rfl
    | succ levels =>
      rw [lineageWithin, if_neg (by simp [unplaced, unmet]), ← knownBase.eq_1, known]
      dsimp only
      rw [ih]
      simp only [Nat.add_le_add_iff_right]
      split <;> rfl

theorem Places.within {placed rest order : List TypeDecl} {depth : Nat}
    (places : Places find placed rest depth order) (levels : Nat) :
    placeAllWithin find levels placed rest = if depth ≤ levels then some order else none := by
  induction places with
  | nil => rfl
  | @cons _ _ _ _ _ calls depth walk _ ih =>
    rw [placeAllWithin, walk.within]
    by_cases few : calls ≤ levels
    · rw [if_pos few, Option.bind_eq_bind, Option.bind_some, ih]
      simp only [Nat.max_le, few, true_and]
    · rw [if_neg few, if_neg (by omega)]
      rfl

end Walks

/-! The types that are in the groups. -/

/-- No reserved name, and the first without one of its generated name in its group. -/
def IsFirst (map : TypeMap) (types : List TypeDecl) (type : TypeDecl) : Prop :=
  ¬ map.isReservedName type.cleanName ∧
    (types.filter fun other => !map.isReservedName other.cleanName).find?
      (fun other => laidUnder map other == laidUnder map type) = some type

section First

variable {map : TypeMap} {first type : TypeDecl} {rest : List TypeDecl}

theorem isFirst_behind
    (other : map.isReservedName first.cleanName ∨ laidUnder map first ≠ laidUnder map type) :
    IsFirst map (first :: rest) type ↔ IsFirst map rest type := by
  by_cases reserved : map.isReservedName first.cleanName
  · simp [IsFirst, reserved]
  · have different := other.resolve_left reserved
    simp [IsFirst, reserved, different]

theorem isFirst_head (unreserved : ¬ map.isReservedName first.cleanName)
    (same : laidUnder map first = laidUnder map type) :
    IsFirst map (first :: rest) type ↔ type = first := by
  have found : (first :: rest).filter (fun other => !map.isReservedName other.cleanName) =
      first :: rest.filter fun other => !map.isReservedName other.cleanName := by
    simp [unreserved]
  rw [IsFirst, found, List.find?_cons_of_pos (by simpa using same)]
  constructor
  · rintro ⟨-, isFirst⟩
    exact (Option.some_inj.mp isFirst).symm
  · rintro rfl
    exact ⟨unreserved, rfl⟩

theorem mem_survivorsFrom {seen : List (String × String)} {types : List TypeDecl} :
    type ∈ survivorsFrom map seen types ↔ laidUnder map type ∉ seen ∧ IsFirst map types type := by
  induction types generalizing seen with
  | nil => simp [survivorsFrom, IsFirst]
  | cons first rest ih =>
    simp only [survivorsFrom, ← laidUnder.eq_1, Bool.or_eq_true, List.contains_iff_mem]
    by_cases reserved : map.isReservedName first.cleanName
    · rw [if_pos (.inl reserved), ih, isFirst_behind (.inl reserved)]
    · by_cases met : laidUnder map first ∈ seen
      · rw [if_pos (.inr met), ih]
        by_cases same : laidUnder map first = laidUnder map type
        · -- Nothing of a name that is seen already stays.
          simp [← same, met]
        · rw [isFirst_behind (.inr same)]
      · rw [if_neg (not_or.mpr ⟨reserved, met⟩), List.mem_cons, ih]
        by_cases same : laidUnder map first = laidUnder map type
        · rw [isFirst_head reserved same, ← same]
          simp [met]
        · have different : type ≠ first := fun equal => same (equal ▸ rfl)
          rw [isFirst_behind (.inr same)]
          simp [different, Ne.symm same]

end First

theorem groups_members {map : TypeMap} {types : List TypeDecl}
    (distinct : (types.map (·.fullName)).Nodup) {type : TypeDecl} :
    (∃ group ∈ groups map types, type ∈ group.types) ↔ IsFirst map types type := by
  have laid := (groups_partition distinct map).mem_iff (a := type)
  rw [List.mem_flatMap] at laid
  rw [laid, survivors, mem_survivorsFrom]
  simp

/-- A base that stands in a group with a derived type is in front of it, unless the bases of the
base, within the group, lead back. -/
def Group.BasesFirst (group : Group) : Prop :=
  ∀ base ∈ group.types, ∀ derived ∈ group.types, ∀ reference, derived.base = some reference →
    reference.fullName = base.fullName →
    ¬ LeadsTo (memberNamed group.types) base derived → [base, derived].Sublist group.types

/-- Placing the members of a group in the order of their names, with no bound on the walks to their
bases, ends with the given order; the longest walk nests calls to the given depth. -/
def Placed (map : TypeMap) (types : List TypeDecl) (key : String) (depth : Nat)
    (order : List TypeDecl) : Prop :=
  let sorted := Proxy.sortByName (·.name) (groupMembers map types key)
  Places (memberNamed sorted) [] sorted depth order

/-- Types in groups of ascending keys: each type that is the first of its name in its group, once,
and in the order that placing the members of the group ends with. -/
structure Grouped (map : TypeMap) (types : List TypeDecl) (groups : List Group) : Prop where
  ascending : (groups.map (·.key)).Pairwise (· < ·)
  once : ((groups.flatMap (·.types)).map (·.fullName)).Nodup
  members : ∀ type, (∃ group ∈ groups, type ∈ group.types) ↔ IsFirst map types type
  ownKey : ∀ group ∈ groups, ∀ type ∈ group.types, type.groupKey = group.key
  ends : ∀ group ∈ groups, ∃ depth ≤ types.length + 1, ∀ nested order,
    Placed map types group.key nested order ↔ nested = depth ∧ order = group.types
  basesFirst : ∀ group ∈ groups, group.BasesFirst

/-- No walk to the bases of a type nests more calls than are left. -/
def WithinReach (levels : Nat) (map : TypeMap) (types : List TypeDecl) : Prop :=
  ∀ group ∈ groups map types, ∀ depth order, Placed map types group.key depth order →
    depth ≤ levels

theorem Grouped.same_of_key {map : TypeMap} {types : List TypeDecl} {groups : List Group}
    (grouped : Grouped map types groups) {first second : Group} (inFirst : first ∈ groups)
    (inSecond : second ∈ groups) (same : first.key = second.key) : first = second := by
  have once : (groups.map (·.key)).Nodup := by
    refine grouped.ascending.imp ?_
    rintro lower upper less rfl
    exact String.lt_irrefl lower less
  exact List.inj_on_of_nodup_map once inFirst inSecond same

theorem groupOf_basesFirst {map : TypeMap} {types : List TypeDecl}
    (distinct : (types.map (·.fullName)).Nodup) (key : String) :
    (groupOf (survivors map types) key).BasesFirst := by
  have kept := survivors_distinct distinct map
  have members : (groupOf (survivors map types) key).types.Perm (groupMembers map types key) :=
    groupOf_perm kept key
  have once : ((groupMembers map types key).map (·.fullName)).Nodup :=
    kept.sublist (List.filter_sublist.map _)
  intro base inBase derived inDerived reference refers named acyclic
  obtain ⟨baseStays, baseKey⟩ := (mem_groupOf kept).mp inBase
  obtain ⟨derivedStays, rfl⟩ := (mem_groupOf kept).mp inDerived
  apply group_ordered distinct baseStays derivedStays baseKey refers named
  rwa [memberNamed_perm members once] at acyclic

theorem groupOf_places (map : TypeMap) (types : List TypeDecl) (key : String) :
    ∃ depth ≤ types.length + 1,
      (∀ nested order, Placed map types key nested order ↔
        nested = depth ∧ order = (groupOf (survivors map types) key).types) ∧
      ∀ levels, groupWithin levels (survivors map types) key =
        if depth ≤ levels then some (groupOf (survivors map types) key) else none := by
  let sorted := Proxy.sortByName (·.name) (groupMembers map types key)
  obtain ⟨depth, bounded, ends⟩ := basesFirst_places sorted
  have few : sorted.length ≤ types.length := by
    have same : sorted.length = (groupMembers map types key).length := List.length_mergeSort _
    have fewer := List.length_filter_le (·.groupKey == key) (survivors map types)
    have kept := (survivors_sublist map types).length_le
    rw [same]
    exact fewer.trans kept
  refine ⟨depth, by omega, ends, fun levels => ?_⟩
  have within := Places.within ((ends _ _).mpr ⟨rfl, rfl⟩) levels
  have placed : basesFirstWithin levels sorted =
      if depth ≤ levels then some (basesFirst sorted) else none := within
  unfold groupWithin
  dsimp only
  rw [← groupMembers.eq_1, placed]
  split <;> rfl

theorem mapM_groupWithin {levels : Nat} {types : List TypeDecl} {depth : String → Nat}
    (each : ∀ key, groupWithin levels types key =
      if depth key ≤ levels then some (groupOf types key) else none) (keys : List String) :
    keys.mapM (groupWithin levels types) =
      if ∀ key ∈ keys, depth key ≤ levels then some (keys.map (groupOf types)) else none := by
  induction keys with
  | nil => rfl
  | cons key rest ih =>
    rw [List.mapM_cons, each, ih]
    simp only [List.forall_mem_cons]
    by_cases first : depth key ≤ levels
    · simp only [first, if_true, true_and]
      split <;> rfl
    · simp [first]

theorem groupsWithin_eq (levels : Nat) (map : TypeMap) (types : List TypeDecl) :
    (WithinReach levels map types → groupsWithin levels map types = some (groups map types)) ∧
    (¬ WithinReach levels map types → groupsWithin levels map types = none) := by
  choose depth _ ends within using groupOf_places map types
  have reach : WithinReach levels map types ↔
      ∀ key ∈ groupKeys (survivors map types), depth key ≤ levels := by
    unfold WithinReach groups
    simp only [List.forall_mem_map]
    refine forall₂_congr fun key _ => ⟨fun bound => ?_, fun bound nested order placed => ?_⟩
    · exact bound _ _ ((ends key _ _).mpr ⟨rfl, rfl⟩)
    · exact ((ends key nested order).mp placed).1 ▸ bound
  have made := mapM_groupWithin (fun key => within key levels) (groupKeys (survivors map types))
  rw [reach]
  exact ⟨fun few => made.trans (if_pos few), fun many => made.trans (if_neg many)⟩

/-- Types of distinct full names are grouped, with whatever circles among their bases: placing the
members of a group always ends, and a base outside of a circle stands in front. Within the calls that
are left the groups are made exactly if no walk nests more of them; there are enough for every walk
if they are more than the types. -/
theorem types_grouped_in_order (levels : Nat) (map : TypeMap) {types : List TypeDecl}
    (distinct : (types.map (·.fullName)).Nodup) :
    Grouped map types (groups map types) ∧
      (WithinReach levels map types → groupsWithin levels map types = some (groups map types)) ∧
      (¬ WithinReach levels map types → groupsWithin levels map types = none) ∧
      (types.length < levels → WithinReach levels map types) := by
  have kept := survivors_distinct distinct map
  have keys : (groups map types).map (·.key) = groupKeys (survivors map types) := by
    rw [groups, List.map_map]
    exact List.map_id _
  have listed {group : Group} (inside : group ∈ groups map types) :
      group = groupOf (survivors map types) group.key := by
    obtain ⟨key, -, rfl⟩ := List.mem_map.mp inside
    rfl
  have ends : ∀ group ∈ groups map types, ∃ depth ≤ types.length + 1, ∀ nested order,
      Placed map types group.key nested order ↔ nested = depth ∧ order = group.types := by
    intro group inside
    obtain ⟨depth, bounded, ends, -⟩ := groupOf_places map types group.key
    refine ⟨depth, bounded, ?_⟩
    rw [listed inside]
    exact ends
  refine ⟨?_, (groupsWithin_eq levels map types).1, (groupsWithin_eq levels map types).2, ?_⟩
  · constructor
    · rw [keys]
      exact groupKeys_strict (survivors map types)
    · exact groups_distinct distinct map
    · exact fun type => groups_members distinct
    · intro group inside type member
      rw [listed inside] at member
      exact ((mem_groupOf kept).mp member).2
    · exact ends
    · intro group inside
      rw [listed inside]
      exact groupOf_basesFirst distinct group.key
  · intro enough group inside nested order placed
    obtain ⟨depth, bounded, unique⟩ := ends group inside
    have same := ((unique nested order).mp placed).1
    omega

/-! A chick of an egg that derives from the hen that derives from it, among a class that is its own
base, two boxes of one generated name, a reserved name and a class in no namespace. -/

def hen : TypeDecl :=
  { name := "Hen", space := some "Farm", base := some { name := "Egg", space := some "Farm" } }
def egg : TypeDecl := { name := "Egg", space := some "Farm", base := some hen.asRef }
def chick : TypeDecl := { name := "Chick", space := some "Farm", base := some egg.asRef }
def worm : TypeDecl :=
  { name := "Worm", space := some "Farm", base := some { name := "Worm", space := some "Farm" } }
def box : TypeDecl := { name := "Box\x601", space := some "Farm", genericArity := 1 }
def pairBox : TypeDecl := { name := "Box\x602", space := some "Farm", genericArity := 2 }
def farmMethod : TypeDecl := { name := "Method", space := some "Farm" }
def fox : TypeDecl := { name := "Fox", base := some chick.asRef }

def farm : List TypeDecl := [chick, box, egg, fox, pairBox, hen, farmMethod, worm]

def brood : List TypeDecl := [chick, egg, hen]

/-- From the chick the walk passes the egg and the hen and ends at the egg. -/
theorem brood_placed : Placed {} brood "Farm" 4 [hen, egg, chick] := by
  have kept : groupMembers {} brood "Farm" = brood := rfl
  have sorted : Proxy.sortByName (·.name) brood = brood := by
    apply List.mergeSort_of_pairwise
    decide
  unfold Placed
  rw [kept, sorted]
  have walk : Walks (memberNamed brood) [] [] chick 4 [hen, egg, chick] :=
    .derived (by decide) (by decide) rfl <| .derived (by decide) (by decide) rfl <|
      .derived (by decide) (by decide) rfl <| .done (.inr (by decide))
  have placed (type : TypeDecl)
      (known : type.fullName ∈ [hen, egg, chick].map (·.fullName) ∨ type.fullName ∈ []) :
      Walks (memberNamed brood) ([hen, egg, chick].map (·.fullName)) [] type 1 [] := .done known
  have nothing : Places (memberNamed brood) [hen, egg, chick] [] 0 [hen, egg, chick] := .nil
  have afterEgg : Places (memberNamed brood) [hen, egg, chick] [hen] 1 [hen, egg, chick] :=
    Places.cons (placed hen (by decide)) nothing
  have afterChick : Places (memberNamed brood) [hen, egg, chick] [egg, hen] 1 [hen, egg, chick] :=
    Places.cons (placed egg (by decide)) afterEgg
  have start : Places (memberNamed brood) [] [chick, egg, hen] (max 4 1) [hen, egg, chick] :=
    Places.cons walk afterChick
  exact start

theorem chick_behind_egg :
    (farm.map (·.fullName)).Nodup ∧
      (∃ group ∈ groups {} farm, [egg, chick].Sublist group.types) ∧
      (∃ group ∈ groups {} farm, box ∈ group.types) ∧
      ¬ (∃ group ∈ groups {} farm, pairBox ∈ group.types) ∧
      ¬ (∃ group ∈ groups {} farm, farmMethod ∈ group.types) ∧
      groupsWithin 4 {} brood = some (groups {} brood) ∧ groupsWithin 3 {} brood = none := by
  have distinct : (farm.map (·.fullName)).Nodup := by decide
  obtain ⟨grouped, -⟩ := types_grouped_in_order 4 {} distinct
  obtain ⟨group, inside, eggMember⟩ := (grouped.members egg).mpr ⟨by decide, rfl⟩
  obtain ⟨other, otherInside, chickMember⟩ := (grouped.members chick).mpr ⟨by decide, rfl⟩
  have sameKey : other.key = group.key :=
    (grouped.ownKey other otherInside chick chickMember).symm.trans
      (grouped.ownKey group inside egg eggMember)
  obtain rfl : other = group := grouped.same_of_key otherInside inside sameKey
  have member {type : TypeDecl} (name : String) (listed : type ∈ farm) (named : type.fullName = name)
      {found : TypeDecl} (search : memberNamed other.types name = some found) : found = type := by
    obtain ⟨standing, foundNamed⟩ := memberNamed_finds other.types name found search
    have first := (grouped.members found).mp ⟨other, inside, standing⟩
    have laid := (List.mem_filter.mp (List.mem_of_find?_eq_some first.2)).1
    exact same_of_fullName distinct laid listed (foundNamed.trans named.symm)
  -- From the egg the bases go round between the hen and the egg.
  have round {type : TypeDecl} (leads : LeadsTo (memberNamed other.types) egg type) :
      type = hen ∨ type = egg := by
    induction leads with
    | single known => exact .inl (member "Farm.Hen" (by simp [farm]) rfl known)
    | tail _ known ih =>
      rcases ih with rfl | rfl
      · exact .inr (member "Farm.Egg" (by simp [farm]) rfl known)
      · exact .inl (member "Farm.Hen" (by simp [farm]) rfl known)
  have broodDistinct : (brood.map (·.fullName)).Nodup := by decide
  refine ⟨distinct, ⟨other, inside, ?_⟩, ?_, ?_, ?_, ?_, ?_⟩
  · apply grouped.basesFirst other inside egg eggMember chick chickMember egg.asRef rfl rfl
    intro leads
    rcases round leads with same | same
    · exact absurd (congrArg TypeDecl.name same) (by decide)
    · exact absurd (congrArg TypeDecl.name same) (by decide)
  · exact (grouped.members box).mpr ⟨by decide, rfl⟩
  · rw [grouped.members]
    rintro ⟨-, first⟩
    have same : some box = some pairBox := first
    exact absurd (congrArg TypeDecl.name (Option.some_inj.mp same)) (by decide)
  · rw [grouped.members]
    rintro ⟨unreserved, -⟩
    exact unreserved (by decide)
  · obtain ⟨-, made, -, enough⟩ := types_grouped_in_order 4 {} broodDistinct
    exact made (enough (by decide))
  · obtain ⟨grouped, -, runsOut, -⟩ := types_grouped_in_order 3 {} broodDistinct
    apply runsOut
    intro reach
    obtain ⟨group, inside, member⟩ := (grouped.members chick).mpr ⟨by decide, rfl⟩
    have key : group.key = "Farm" := (grouped.ownKey group inside chick member).symm
    have few := reach group inside 4 [hen, egg, chick] (key ▸ brood_placed)
    exact absurd few (by decide)

end ProxyHeaders.Layout
