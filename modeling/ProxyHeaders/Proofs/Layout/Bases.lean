import Mathlib.Data.List.Nodup
import Mathlib.Data.List.Perm.Subperm
import Mathlib.Logic.Relation
import ProxyHeaders.Proofs.Layout.Groups
import ProxyHeaders.Proofs.Mapping.Declared

/-!
Bases before derived types. The order keeps every type exactly once, and a base stands in front of
what derives from it unless the bases of the base lead back to the derived type.
-/
namespace ProxyHeaders.Layout

def knownBase (find : String → Option TypeDecl) (type : TypeDecl) : Option TypeDecl :=
  type.base.bind fun base => find base.fullName

/-- Following bases from the first type leads to the second. -/
def LeadsTo (find : String → Option TypeDecl) : TypeDecl → TypeDecl → Prop :=
  Relation.TransGen fun derived base => knownBase find derived = some base

theorem lineage_step {find : String → Option TypeDecl} {placed met : List String} {steps : Nat}
    {type : TypeDecl} (unplaced : type.fullName ∉ placed) (unmet : type.fullName ∉ met) :
    lineage find placed (steps + 1) met type =
      ((knownBase find type).map (lineage find placed steps (type.fullName :: met))).getD [] ++
        [type] := by
  unfold lineage knownBase
  simp only [List.contains_eq_mem, unplaced, unmet, decide_false, Bool.or_self,
    Bool.false_eq_true, if_false]
  cases type.base.bind fun base => find base.fullName with
  | none => rfl
  | some base => rfl

theorem lineage_done {find : String → Option TypeDecl} {placed met : List String} {steps : Nat}
    {type : TypeDecl} (done : type.fullName ∈ placed ∨ type.fullName ∈ met) :
    lineage find placed steps met type = [] := by
  cases steps with
  | zero => rfl
  | succ steps =>
    unfold lineage
    rcases done with placed | met
    · simp [placed]
    · simp [met]

/-- A lineage holds nothing that is placed or met, and nothing twice. -/
theorem lineage_fresh (find : String → Option TypeDecl) (placed : List String) (steps : Nat)
    (met : List String) (type : TypeDecl) :
    (∀ found ∈ lineage find placed steps met type,
      found.fullName ∉ placed ∧ found.fullName ∉ met) ∧
    ((lineage find placed steps met type).map (·.fullName)).Nodup := by
  induction steps generalizing met type with
  | zero => simp [lineage]
  | succ steps ih =>
    by_cases done : type.fullName ∈ placed ∨ type.fullName ∈ met
    · simp [lineage_done done]
    · rcases not_or.mp done with ⟨unplaced, unmet⟩
      rw [lineage_step unplaced unmet]
      cases knownBase find type with
      | none => simp [unplaced, unmet]
      | some base =>
        obtain ⟨above, once⟩ := ih (type.fullName :: met) base
        simp only [Option.map_some, Option.getD_some]
        constructor
        · intro found member
          rcases List.mem_append.mp member with earlier | own
          · obtain ⟨notPlaced, notMet⟩ := above found earlier
            exact ⟨notPlaced, fun known => notMet (List.mem_cons_of_mem _ known)⟩
          · rw [List.mem_singleton.mp own]
            exact ⟨unplaced, unmet⟩
        · rw [List.map_append, List.nodup_append]
          refine ⟨once, by simp, ?_⟩
          intro name earlier other own same
          obtain ⟨found, member, rfl⟩ := List.mem_map.mp earlier
          have isType : other = type.fullName := by simpa using own
          apply (above found member).2
          rw [same, isType]
          simp

theorem place_once (find : String → Option TypeDecl) {placed : List TypeDecl}
    (once : (placed.map (·.fullName)).Nodup) (steps : Nat) (type : TypeDecl) :
    ((placed ++ lineage find (placed.map (·.fullName)) steps [] type).map (·.fullName)).Nodup := by
  obtain ⟨fresh, line⟩ := lineage_fresh find (placed.map (·.fullName)) steps [] type
  rw [List.map_append, List.nodup_append]
  refine ⟨once, line, ?_⟩
  intro name before other inLine same
  obtain ⟨found, inside, rfl⟩ := List.mem_map.mp inLine
  apply (fresh found inside).1
  rwa [← same]

theorem placeAll_once (find : String → Option TypeDecl) (steps : Nat) {placed : List TypeDecl}
    (once : (placed.map (·.fullName)).Nodup) (types : List TypeDecl) :
    ((placeAll find steps placed types).map (·.fullName)).Nodup := by
  induction types generalizing placed with
  | nil => exact once
  | cons type rest ih => exact ih (place_once find once steps type)

theorem basesFirst_once (types : List TypeDecl) : ((basesFirst types).map (·.fullName)).Nodup := by
  have start : (([] : List TypeDecl).map (·.fullName)).Nodup := List.nodup_nil
  exact placeAll_once _ _ start types

/-- Types of the run, none twice, each behind its base unless the base leads back to it. -/
structure InOrder (types : List TypeDecl) (find : String → Option TypeDecl)
    (placed : List TypeDecl) : Prop where
  members : placed ⊆ types
  once : (placed.map (·.fullName)).Nodup
  ordered : ∀ derived ∈ placed, ∀ base, knownBase find derived = some base →
    [base, derived].Sublist placed ∨ LeadsTo find base derived

theorem length_of_named {types : List TypeDecl} {names : List String} (once : names.Nodup)
    (named : ∀ name ∈ names, ∃ type ∈ types, type.fullName = name) :
    names.length ≤ types.length := by
  have all : names ⊆ types.map (·.fullName) :=
    fun name inside => List.mem_map.mpr (named name inside)
  have lengths := (List.subperm_of_subset once all).length_le
  rwa [List.length_map] at lengths

/-! The walk to a base ends only where the base is placed, or where it has been met. -/

section Order

variable {types : List TypeDecl} {find : String → Option TypeDecl}
  (finds : ∀ name type, find name = some type → type ∈ types ∧ type.fullName = name)
  (distinct : (types.map (·.fullName)).Nodup)

include distinct in
theorem same_of_fullName {first second : TypeDecl} (firstMember : first ∈ types)
    (secondMember : second ∈ types) (same : first.fullName = second.fullName) : first = second :=
  List.inj_on_of_nodup_map distinct firstMember secondMember same

include finds in
theorem knownBase_member {type base : TypeDecl} (known : knownBase find type = some base) :
    base ∈ types := by
  obtain ⟨reference, -, found⟩ := Option.bind_eq_some_iff.mp known
  exact (finds reference.fullName base found).1

include finds distinct

/-- The names that a walk to the bases of a type has met, each of them once: those of types whose
bases lead to the one that it has come to. -/
structure Met (types : List TypeDecl) (find : String → Option TypeDecl) (met : List String)
    (type : TypeDecl) : Prop where
  once : met.Nodup
  leads : ∀ name ∈ met, ∃ other ∈ types, other.fullName = name ∧ LeadsTo find other type

section Met

variable {met : List String} {type base : TypeDecl} (walked : Met types find met type)
  (member : type ∈ types) (known : knownBase find type = some base)

omit finds distinct

include walked member

theorem Met.next (unmet : type.fullName ∉ met) (known : knownBase find type = some base) :
    Met types find (type.fullName :: met) base := by
  constructor
  · exact List.nodup_cons.mpr ⟨unmet, walked.once⟩
  · intro name inside
    rcases List.mem_cons.mp inside with rfl | earlier
    · exact ⟨type, member, rfl, .single known⟩
    · obtain ⟨other, otherMember, named, leads⟩ := walked.leads name earlier
      exact ⟨other, otherMember, named, leads.tail known⟩

include known

/-- There are no more names to meet than types. -/
theorem Met.length_lt (unmet : type.fullName ∉ met) (baseMember : base ∈ types)
    (baseUnmet : base.fullName ∉ type.fullName :: met) : met.length + 1 < types.length := by
  have further := walked.next member unmet known
  have named : ∀ name ∈ base.fullName :: type.fullName :: met,
      ∃ other ∈ types, other.fullName = name := by
    refine List.forall_mem_cons.mpr ⟨⟨base, baseMember, rfl⟩, ?_⟩
    intro name inside
    obtain ⟨other, otherMember, named, -⟩ := further.leads name inside
    exact ⟨other, otherMember, named⟩
  have bound := length_of_named (List.nodup_cons.mpr ⟨baseUnmet, further.once⟩) named
  simp only [List.length_cons] at bound
  omega

include distinct

/-- A base that has been met closes a circle. -/
theorem Met.closes (baseMember : base ∈ types) (baseMet : base.fullName ∈ type.fullName :: met) :
    LeadsTo find base type := by
  rcases List.mem_cons.mp baseMet with itself | earlier
  · have isType := same_of_fullName distinct baseMember member itself
    subst isType
    exact .single known
  · obtain ⟨other, otherMember, named, leads⟩ := walked.leads base.fullName earlier
    rwa [same_of_fullName distinct otherMember baseMember named] at leads

end Met

theorem lineage_ordered (placed : List String) (steps : Nat) {met : List String}
    {type : TypeDecl} (member : type ∈ types) (walked : Met types find met type)
    (enough : types.length < steps + met.length) :
    ∀ derived ∈ lineage find placed steps met type, ∀ base, knownBase find derived = some base →
      base.fullName ∈ placed ∨ [base, derived].Sublist (lineage find placed steps met type) ∨
        LeadsTo find base derived := by
  induction steps generalizing met type with
  | zero => simp [lineage]
  | succ steps ih =>
    by_cases done : type.fullName ∈ placed ∨ type.fullName ∈ met
    · simp [lineage_done done]
    obtain ⟨unplaced, unmet⟩ := not_or.mp done
    rw [lineage_step unplaced unmet]
    intro derived inside base found
    rcases List.mem_append.mp inside with above | own
    · -- The type comes behind what the walk from its base gives.
      cases known : knownBase find type with
      | none => simp [known] at above
      | some up =>
        simp only [known, Option.map_some, Option.getD_some] at above ⊢
        have order := ih (knownBase_member finds known) (walked.next member unmet known)
          (by simp only [List.length_cons]; omega) derived above base found
        rcases order with placed | before | cycle
        · exact .inl placed
        · exact .inr (.inl (before.trans (List.sublist_append_left _ _)))
        · exact .inr (.inr cycle)
    · have isType : derived = type := by simpa using own
      subst isType
      have baseMember := knownBase_member finds found
      simp only [found, Option.map_some, Option.getD_some]
      by_cases basePlaced : base.fullName ∈ placed
      · exact .inl basePlaced
      by_cases baseMet : base.fullName ∈ derived.fullName :: met
      · exact .inr (.inr (walked.closes distinct member found baseMember baseMet))
      · have bound := walked.length_lt member found unmet baseMember baseMet
        obtain ⟨more, rfl⟩ := Nat.exists_eq_succ_of_ne_zero (n := steps) (by omega)
        rw [lineage_step basePlaced baseMet, List.append_assoc]
        exact .inr (.inl (List.sublist_append_right _ _))

theorem place_inOrder {placed : List TypeDecl} (valid : InOrder types find placed)
    {type : TypeDecl} (member : type ∈ types) :
    InOrder types find
      (placed ++ lineage find (placed.map (·.fullName)) (types.length + 1) [] type) := by
  have order := lineage_ordered finds distinct (placed.map (·.fullName)) (types.length + 1) member
    ⟨List.nodup_nil, by simp⟩ (by simp)
  constructor
  · intro found inside
    rcases List.mem_append.mp inside with before | line
    · exact valid.members before
    · rcases mem_of_lineage line with rfl | ⟨name, search⟩
      · exact member
      · exact (finds name found search).1
  · exact place_once find valid.once (types.length + 1) type
  · intro derived inside base known
    rcases List.mem_append.mp inside with before | line
    · rcases valid.ordered derived before base known with stands | cycle
      · exact .inl (stands.trans (List.sublist_append_left _ _))
      · exact .inr cycle
    · rcases order derived line base known with placedName | stands | cycle
      · obtain ⟨other, otherPlaced, named⟩ := List.mem_map.mp placedName
        have isBase := same_of_fullName distinct (valid.members otherPlaced)
          (knownBase_member finds known) named
        subst isBase
        have front := List.singleton_sublist.mpr otherPlaced
        have back := List.singleton_sublist.mpr line
        exact .inl (front.append back)
      · exact .inl (stands.trans (List.sublist_append_right _ _))
      · exact .inr cycle

theorem placeAll_inOrder {placed rest : List TypeDecl} (valid : InOrder types find placed)
    (members : rest ⊆ types) :
    InOrder types find (placeAll find (types.length + 1) placed rest) ∧
      placed ⊆ placeAll find (types.length + 1) placed rest ∧
      rest ⊆ placeAll find (types.length + 1) placed rest := by
  induction rest generalizing placed with
  | nil => exact ⟨valid, List.Subset.refl placed, List.nil_subset _⟩
  | cons type rest ih =>
    have member : type ∈ types := members (by simp)
    obtain ⟨order, before, later⟩ := ih (place_inOrder finds distinct valid member)
      fun other inside => members (List.mem_cons_of_mem type inside)
    refine ⟨order, fun other inside => before (List.mem_append_left _ inside), ?_⟩
    intro other inside
    rcases List.mem_cons.mp inside with rfl | inside
    · by_cases done : other.fullName ∈ placed.map (·.fullName)
      · obtain ⟨same, samePlaced, named⟩ := List.mem_map.mp done
        have isOther := same_of_fullName distinct (valid.members samePlaced) member named
        exact before (List.mem_append_left _ (isOther ▸ samePlaced))
      · apply before
        rw [lineage_step done (by simp)]
        simp
    · exact later inside

end Order

def memberNamed (types : List TypeDecl) (fullName : String) : Option TypeDecl :=
  types.reverse.find? (·.fullName == fullName)

theorem memberNamed_finds (types : List TypeDecl) (name : String) (type : TypeDecl)
    (found : memberNamed types name = some type) : type ∈ types ∧ type.fullName = name := by
  constructor
  · exact List.mem_reverse.mp (List.mem_of_find?_eq_some found)
  · simpa using List.find?_some found

theorem memberNamed_iff {types : List TypeDecl} (distinct : (types.map (·.fullName)).Nodup)
    {name : String} {type : TypeDecl} :
    memberNamed types name = some type ↔ type ∈ types ∧ type.fullName = name := by
  have reversed : (types.reverse.map (·.fullName)).Nodup := by
    rw [List.map_reverse, List.nodup_reverse]
    exact distinct
  rw [memberNamed, find_fullName reversed, List.mem_reverse]

theorem memberNamed_perm {first second : List TypeDecl} (same : first.Perm second)
    (distinct : (second.map (·.fullName)).Nodup) : memberNamed first = memberNamed second := by
  have firstDistinct := (same.map (·.fullName)).nodup_iff.mpr distinct
  funext name
  apply Option.ext
  intro type
  rw [memberNamed_iff firstDistinct, memberNamed_iff distinct, same.mem_iff]

theorem basesFirst_inOrder {types : List TypeDecl} (distinct : (types.map (·.fullName)).Nodup) :
    InOrder types (memberNamed types) (basesFirst types) ∧ types ⊆ basesFirst types := by
  have start : InOrder types (memberNamed types) [] := ⟨by simp, by simp, by simp⟩
  obtain ⟨order, -, all⟩ := placeAll_inOrder (memberNamed_finds types) distinct start
    (List.Subset.refl types)
  exact ⟨order, all⟩

theorem basesFirst_perm {types : List TypeDecl} (distinct : (types.map (·.fullName)).Nodup) :
    (basesFirst types).Perm types := by
  obtain ⟨order, all⟩ := basesFirst_inOrder distinct
  rw [List.perm_ext_iff_of_nodup (List.Nodup.of_map _ order.once) (List.Nodup.of_map _ distinct)]
  intro type
  constructor
  · exact fun member => order.members member
  · exact fun member => all member

/-- A base stands before what derives from it, unless the bases of the base lead back. -/
theorem basesFirst_ordered {types : List TypeDecl} (distinct : (types.map (·.fullName)).Nodup)
    {derived base : TypeDecl} (member : derived ∈ types)
    (known : knownBase (memberNamed types) derived = some base)
    (acyclic : ¬ LeadsTo (memberNamed types) base derived) :
    [base, derived].Sublist (basesFirst types) := by
  obtain ⟨order, all⟩ := basesFirst_inOrder distinct
  exact (order.ordered derived (all member) base known).resolve_right acyclic

end ProxyHeaders.Layout
