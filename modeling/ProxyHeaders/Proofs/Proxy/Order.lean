import Mathlib.Data.List.Perm.Basic
import ProxyHeaders.Proxy.Members

/-!
Items in the order of their names. Sorting moves no item past another of its name, so its result
shows which items each name has, in their order, and nothing else about the order before.
-/
namespace ProxyHeaders.Proxy

variable {α : Type} {name : α → String}

/-- The items of one name, in their order. -/
def namesakes (name : α → String) (items : List α) (key : String) : List α :=
  items.filter (name · == key)

/-- Every name has the same items in both lists, in the same order. -/
def SameByName (name : α → String) (first second : List α) : Prop :=
  ∀ key, namesakes name first key = namesakes name second key

namespace SameByName

variable {first second : List α}

theorem refl (items : List α) : SameByName name items items := fun _ => rfl

theorem filter (same : SameByName name first second) (keep : α → Bool) :
    SameByName name (first.filter keep) (second.filter keep) := by
  intro key
  have swapped (items : List α) :
      namesakes name (items.filter keep) key = (namesakes name items key).filter keep := by
    simp only [namesakes, List.filter_filter, Bool.and_comm]
  rw [swapped, swapped, same key]

theorem mem_iff (same : SameByName name first second) {item : α} :
    item ∈ first ↔ item ∈ second := by
  have listed (items : List α) : item ∈ items ↔ item ∈ namesakes name items (name item) := by
    simp [namesakes]
  rw [listed first, listed second, same (name item)]

theorem any_eq (same : SameByName name first second) (test : α → Bool) :
    first.any test = second.any test := by
  rw [Bool.eq_iff_iff, List.any_eq_true, List.any_eq_true]
  simp only [same.mem_iff]

theorem of_perm (perm : first.Perm second) (distinct : (first.map name).Nodup) :
    SameByName name first second := by
  intro key
  have own : (namesakes name first key).Perm (namesakes name second key) := perm.filter _
  have once : ((namesakes name first key).map name).Nodup :=
    distinct.sublist (List.filter_sublist.map name)
  cases items : namesakes name first key with
  | nil =>
    rw [items] at own
    exact own.nil_eq
  | cons item rest =>
    cases rest with
    | nil =>
      rw [items] at own
      rw [List.singleton_perm.mp own]
    | cons other rest =>
      -- Two items of one name would repeat it.
      have both : ∀ found ∈ item :: other :: rest, name found = key := by
        intro found member
        rw [← items] at member
        simpa using (List.mem_filter.mp member).2
      rw [items] at once
      simp [both item, both other] at once

end SameByName

/-! The comparison that items are sorted by -/

theorem notAfter_trans (a b c : α) (first : !decide (name b < name a))
    (second : !decide (name c < name b)) : !decide (name c < name a) := by
  simp only [Bool.not_eq_true', decide_eq_false_iff_not, String.not_lt] at first second ⊢
  exact String.le_trans first second

theorem notAfter_total (a b : α) : !decide (name b < name a) || !decide (name a < name b) := by
  simp only [Bool.or_eq_true, Bool.not_eq_true', decide_eq_false_iff_not, String.not_lt]
  exact String.le_total (name a) (name b)

theorem sortByName_sorted (items : List α) :
    (sortByName name items).Pairwise (name · ≤ name ·) := by
  have sorted : (sortByName name items).Pairwise fun a b => !decide (name b < name a) :=
    List.pairwise_mergeSort notAfter_trans notAfter_total items
  refine sorted.imp ?_
  intro a b notGreater
  simpa only [Bool.not_eq_true', decide_eq_false_iff_not, String.not_lt] using notGreater

theorem sortByName_stable (items : List α) : SameByName name (sortByName name items) items := by
  intro key
  have level : (namesakes name items key).Pairwise fun a b => !decide (name b < name a) := by
    rw [List.pairwise_iff_forall_sublist]
    intro a b inside
    have first := (List.mem_filter.mp (inside.subset (by simp : a ∈ [a, b]))).2
    have second := (List.mem_filter.mp (inside.subset (by simp : b ∈ [a, b]))).2
    simp only [beq_iff_eq] at first second
    simp [first, second]
  -- Items of one name are level, so they keep their order; and sorting adds none to them.
  have kept : (namesakes name items key).Sublist (sortByName name items) :=
    List.sublist_mergeSort notAfter_trans notAfter_total level List.filter_sublist
  have whole : (namesakes name items key).Sublist (namesakes name (sortByName name items) key) := by
    have again := kept.filter (name · == key)
    rwa [namesakes, List.filter_filter, List.filter_congr (fun _ _ => Bool.and_self _)] at again
  have perm : (namesakes name (sortByName name items) key).Perm (namesakes name items key) :=
    (List.mergeSort_perm _ _).filter _
  exact (whole.eq_of_length perm.length_eq.symm).symm

/-- Two sorted lists are equal if every name has the same items in both. -/
theorem eq_of_sorted {first second : List α} (firstSorted : first.Pairwise (name · ≤ name ·))
    (secondSorted : second.Pairwise (name · ≤ name ·)) (same : SameByName name first second) :
    first = second := by
  induction first generalizing second with
  | nil =>
    cases second with
    | nil => rfl
    | cons item rest => exact absurd (same.mem_iff.mpr List.mem_cons_self) List.not_mem_nil
  | cons item rest ih =>
    cases second with
    | nil => exact absurd (same.mem_iff.mp List.mem_cons_self) List.not_mem_nil
    | cons other others =>
      rw [List.pairwise_cons] at firstSorted secondSorted
      -- The least name of both lists is that of their heads, which are the first to have it.
      have below : name item ≤ name other := by
        rcases List.mem_cons.mp (same.mem_iff.mpr List.mem_cons_self) with rfl | later
        · exact String.le_refl _
        · exact firstSorted.1 other later
      have above : name other ≤ name item := by
        rcases List.mem_cons.mp (same.mem_iff.mp List.mem_cons_self) with rfl | later
        · exact String.le_refl _
        · exact secondSorted.1 item later
      have level : name item = name other := String.le_antisymm below above
      have heads := same (name item)
      simp only [namesakes, level, beq_self_eq_true, List.filter_cons_of_pos, List.cons.injEq]
        at heads
      obtain ⟨rfl, -⟩ := heads
      rw [ih firstSorted.2 secondSorted.2]
      intro key
      have whole := same key
      by_cases own : name item == key
      · simpa [namesakes, List.filter_cons_of_pos, own] using whole
      · simpa [namesakes, own] using whole

theorem sortByName_congr {first second : List α} (same : SameByName name first second) :
    sortByName name first = sortByName name second := by
  apply eq_of_sorted (sortByName_sorted first) (sortByName_sorted second)
  intro key
  rw [sortByName_stable first key, same key, sortByName_stable second key]

end ProxyHeaders.Proxy
