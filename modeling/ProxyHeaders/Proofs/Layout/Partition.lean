import Mathlib.Data.List.Perm.Basic
import ProxyHeaders.Proofs.Layout.Bases
import ProxyHeaders.Proofs.Proxy.Order

/-!
The groups of a run hold each type that stays exactly once, and stand in the order of their keys.
-/
namespace ProxyHeaders.Layout

open ProxyHeaders.Mapping

theorem eraseDups_once (names : List String) : names.eraseDups.Nodup := by
  induction bound : names.length using Nat.strongRecOn generalizing names with
  | ind count ih =>
    cases names with
    | nil => exact List.nodup_nil
    | cons name rest =>
      have fewer : (rest.filter fun other => !other == name).length < count := by
        have filtered := List.length_filter_le (fun other => !other == name) rest
        rw [List.length_cons] at bound
        omega
      rw [List.eraseDups_cons, List.nodup_cons, List.mem_eraseDups]
      exact ⟨by simp, ih _ fewer _ rfl⟩

theorem groupKeys_strict (types : List TypeDecl) : (groupKeys types).Pairwise (· < ·) := by
  have once : (groupKeys types).Nodup :=
    (List.mergeSort_perm _ _).nodup_iff.mpr (eraseDups_once _)
  have ascending : (groupKeys types).Pairwise fun a b => !decide (b < a) :=
    List.pairwise_mergeSort Proxy.notAfter_trans Proxy.notAfter_total _
  refine (ascending.and once).imp ?_
  rintro a b ⟨notGreater, different⟩
  simp only [Bool.not_eq_true', decide_eq_false_iff_not, String.not_lt] at notGreater
  rw [← String.not_le]
  exact fun notLess => different (String.le_antisymm notGreater notLess)

theorem pair_order {α : Type} {first second : α} {items : List α} (inFirst : first ∈ items)
    (inSecond : second ∈ items) (different : first ≠ second) :
    [first, second].Sublist items ∨ [second, first].Sublist items := by
  induction items with
  | nil => cases inFirst
  | cons item rest ih =>
    rcases List.mem_cons.mp inFirst with rfl | laterFirst
    · rcases List.mem_cons.mp inSecond with rfl | laterSecond
      · exact absurd rfl different
      · exact .inl ((List.singleton_sublist.mpr laterSecond).cons_cons first)
    · rcases List.mem_cons.mp inSecond with rfl | laterSecond
      · exact .inr ((List.singleton_sublist.mpr laterFirst).cons_cons second)
      · rcases ih laterFirst laterSecond with before | after
        · exact .inl (before.cons item)
        · exact .inr (after.cons item)

section Distinct

variable {types : List TypeDecl} (distinct : (types.map (·.fullName)).Nodup)

include distinct

theorem survivors_distinct (map : TypeMap) :
    ((survivors map types).map (·.fullName)).Nodup :=
  distinct.sublist ((survivors_sublist map types).map _)

theorem groupOf_perm (key : String) :
    (groupOf types key).types.Perm (types.filter (·.groupKey == key)) := by
  have sorted : (Proxy.sortByName (·.name) (types.filter (·.groupKey == key))).Perm
      (types.filter (·.groupKey == key)) := List.mergeSort_perm _ _
  have once : ((types.filter (·.groupKey == key)).map (·.fullName)).Nodup :=
    distinct.sublist (List.filter_sublist.map _)
  exact (basesFirst_perm ((sorted.map _).nodup_iff.mpr once)).trans sorted

theorem mem_groupOf {key : String} {type : TypeDecl} :
    type ∈ (groupOf types key).types ↔ type ∈ types ∧ type.groupKey = key := by
  rw [(groupOf_perm distinct key).mem_iff]
  simp

theorem groupOf_distinct (key : String) : ((groupOf types key).types.map (·.fullName)).Nodup := by
  rw [((groupOf_perm distinct key).map _).nodup_iff]
  exact distinct.sublist (List.filter_sublist.map _)

/-- Group by group, every type of the run that stays comes exactly once. -/
theorem groups_partition (map : TypeMap) :
    ((groups map types).flatMap (·.types)).Perm (survivors map types) := by
  have kept := survivors_distinct distinct map
  have ordered := groupKeys_strict (survivors map types)
  rw [groups, List.flatMap_map]
  rw [List.perm_ext_iff_of_nodup _ (List.Nodup.of_map _ kept)]
  · intro type
    rw [List.mem_flatMap]
    constructor
    · rintro ⟨key, -, member⟩
      exact ((mem_groupOf kept).mp member).1
    · intro member
      exact ⟨type.groupKey, mem_groupKeys.mpr ⟨type, member, rfl⟩,
        (mem_groupOf kept).mpr ⟨member, rfl⟩⟩
  · rw [List.nodup_flatMap]
    constructor
    · exact fun key _ => List.Nodup.of_map _ (groupOf_distinct kept key)
    · refine ordered.imp ?_
      -- A type in two groups would have two keys.
      intro first second less type inFirst inSecond
      have firstKey := ((mem_groupOf kept).mp inFirst).2
      have secondKey := ((mem_groupOf kept).mp inSecond).2
      rw [← firstKey, ← secondKey] at less
      exact String.lt_irrefl _ less

theorem groups_distinct (map : TypeMap) :
    (((groups map types).flatMap (·.types)).map (·.fullName)).Nodup := by
  rw [((groups_partition distinct map).map _).nodup_iff]
  exact survivors_distinct distinct map

theorem groups_ordered (map : TypeMap) :
    ((groups map types).flatMap (·.types)).Pairwise fun first second =>
      first.groupKey < second.groupKey ∨
      first.groupKey = second.groupKey ∧
        [first, second].Sublist (groupOf (survivors map types) second.groupKey).types := by
  have kept := survivors_distinct distinct map
  rw [groups, List.flatMap_map, List.pairwise_flatMap]
  constructor
  · intro key _
    rw [List.pairwise_iff_forall_sublist]
    intro first second inside
    have firstKey : first.groupKey = key := ((mem_groupOf kept).mp (inside.subset (by simp))).2
    have secondKey : second.groupKey = key := ((mem_groupOf kept).mp (inside.subset (by simp))).2
    rw [firstKey, secondKey]
    exact .inr ⟨rfl, inside⟩
  · refine (groupKeys_strict (survivors map types)).imp ?_
    intro lower upper less first inLower second inUpper
    rw [((mem_groupOf kept).mp inLower).2, ((mem_groupOf kept).mp inUpper).2]
    exact .inl less

theorem groups_order (map : TypeMap) {first second : TypeDecl}
    (inFirst : first ∈ survivors map types) (inSecond : second ∈ survivors map types)
    (different : first ≠ second) :
    [first, second].Sublist ((groups map types).flatMap (·.types)) ↔
      first.groupKey < second.groupKey ∨
      first.groupKey = second.groupKey ∧
        [first, second].Sublist (groupOf (survivors map types) second.groupKey).types := by
  have members := groups_partition distinct map
  have ordered := groups_ordered distinct map
  rw [List.pairwise_iff_forall_sublist] at ordered
  constructor
  · exact fun before => ordered before
  · rintro (less | ⟨same, inside⟩)
    · -- Were the second in front of the first, its key would not be greater.
      rcases pair_order (members.mem_iff.mpr inFirst) (members.mem_iff.mpr inSecond) different with
        before | after
      · exact before
      · rcases ordered after with greater | ⟨same, -⟩
        · exact absurd greater (String.lt_asymm less)
        · rw [same] at less
          exact absurd less (String.lt_irrefl _)
    · have listed : groupOf (survivors map types) second.groupKey ∈ groups map types :=
        List.mem_map.mpr ⟨second.groupKey, mem_groupKeys.mpr ⟨second, inSecond, rfl⟩, rfl⟩
      refine inside.trans ?_
      rw [List.flatMap_def]
      exact List.sublist_flatten_of_mem (List.mem_map.mpr ⟨_, listed, rfl⟩)

end Distinct

end ProxyHeaders.Layout
