import Mathlib.Data.List.Basic
import Mathlib.Data.List.Forall2

/-!
Lists of entries that are found by their keys, or beside the items of another list; where a key
occurs once, an entry is found exactly if it is listed. And steps that may fail, one after the other
or for each item: what goes wrong first is what is told.
-/
namespace ProxyHeaders

section Beside

variable {α β : Type}

/-- Whatever stands beside a list stands beside one of its items. -/
theorem forall₂_source {related : α → β → Prop} {items : List α} {values : List β}
    (all : List.Forall₂ related items values) :
    ∀ value ∈ values, ∃ item ∈ items, related item value := by
  intro value member
  obtain ⟨place, inside, rfl⟩ := List.getElem_of_mem member
  have before : place < items.length := all.length_eq ▸ inside
  exact ⟨items[place], List.getElem_mem before, all.get before inside⟩

end Beside

/-- Among items of different keys the first is new, and still new to the others once it is seen. -/
theorem unseen_cons {α κ : Type} {key : α → κ} {seen : List κ} {item : α} {rest : List α}
    (once : ((item :: rest).map key).Nodup) (unseen : ∀ other ∈ item :: rest, key other ∉ seen) :
    key item ∉ seen ∧ (rest.map key).Nodup ∧ ∀ other ∈ rest, key other ∉ key item :: seen := by
  rw [List.map_cons, List.nodup_cons] at once
  refine ⟨unseen item List.mem_cons_self, once.2, ?_⟩
  intro other later
  rw [List.mem_cons, not_or]
  constructor
  · intro same
    exact once.1 (same ▸ List.mem_map_of_mem later)
  · exact unseen other (List.mem_cons_of_mem item later)

section Keyed

variable {α β : Type} [BEq α] [LawfulBEq α] {entries : List (α × β)} {key : α} {value : β}

theorem mem_of_lookup (found : entries.lookup key = some value) : (key, value) ∈ entries := by
  obtain ⟨before, behind, rfl, -⟩ := List.lookup_eq_some_iff.mp found
  exact List.mem_append_right before List.mem_cons_self

theorem lookup_iff_mem (distinct : (entries.map (·.1)).Nodup) :
    entries.lookup key = some value ↔ (key, value) ∈ entries := by
  refine ⟨mem_of_lookup, fun member => ?_⟩
  rw [List.lookup_eq_some_iff]
  obtain ⟨before, behind, rfl⟩ := List.append_of_mem member
  refine ⟨before, behind, rfl, ?_⟩
  intro entry earlier
  rw [bne_iff_ne]
  rintro rfl
  rw [List.map_append, List.nodup_append] at distinct
  exact distinct.2.2 _ (List.mem_map_of_mem earlier) _ List.mem_cons_self rfl

theorem lookup_filter_key (entries : List (α × β)) (keep : α → Bool) (key : α) :
    (entries.filter fun entry => keep entry.1).lookup key =
      if keep key then entries.lookup key else none := by
  induction entries with
  | nil => simp
  | cons first rest ih =>
    obtain ⟨own, value⟩ := first
    rw [List.filter_cons, List.lookup_cons]
    by_cases here : key = own
    · subst here
      by_cases kept : keep key = true
      · simp [kept]
      · simpa [kept] using ih
    · have elsewhere : (key == own) = false := by simpa using here
      rw [elsewhere]
      by_cases kept : keep own = true
      · rw [if_pos kept, List.lookup_cons, elsewhere]
        exact ih
      · rw [if_neg kept]
        exact ih

end Keyed

section Failing

variable {ε α β : Type}

theorem bind_faults {first : Except ε α} {next : α → Except ε β} {fault : ε}
    (failed : first >>= next = .error fault) :
    first = .error fault ∨ ∃ value, first = .ok value ∧ next value = .error fault := by
  cases first with
  | error other => exact .inl (by simpa [bind, Except.bind] using failed)
  | ok value => exact .inr ⟨value, rfl, failed⟩

theorem bind_found {first : Except ε α} {next : α → Except ε β} {result : β}
    (found : first >>= next = .ok result) :
    ∃ value, first = .ok value ∧ next value = .ok result := by
  cases first with
  | error other => cases found
  | ok value => exact ⟨value, rfl, found⟩

theorem bind_same {first : Except ε α} {next other : α → Except ε β}
    (same : ∀ value, first = .ok value → next value = other value) :
    first >>= next = first >>= other := by
  cases first with
  | error fault => rfl
  | ok value => exact same value rfl

theorem mapM_ok_iff {read : α → Except ε β} {items : List α} {values : List β} :
    items.mapM read = .ok values ↔
      List.Forall₂ (fun item value => read item = .ok value) items values := by
  induction items generalizing values with
  | nil =>
    rw [List.forall₂_nil_left_iff]
    exact ⟨fun read => (Except.ok.inj read).symm, fun none => by rw [none]; rfl⟩
  | cons item rest ih =>
    rw [List.mapM_cons, List.forall₂_cons_left_iff]
    cases first : read item with
    | error fault => simp [bind, Except.bind]
    | ok value =>
      cases others : rest.mapM read with
      | error fault =>
        simp only [others, reduceCtorEq, false_iff] at ih
        simp [bind, Except.bind, ih]
      | ok found =>
        simp only [others, Except.ok.injEq] at ih
        simp [bind, Except.bind, pure, Except.pure, ← ih, eq_comm]

theorem mapM_each {read : α → Except ε β} {items : List α} {values : List β}
    (all : items.mapM read = .ok values) : ∀ item ∈ items, ∃ value, read item = .ok value :=
  fun item member =>
    (forall₂_source (mapM_ok_iff.mp all).flip item member).imp fun _ => And.right

theorem mapM_sources {read : α → Except ε β} {items : List α} {values : List β}
    (all : items.mapM read = .ok values) :
    ∀ value ∈ values, ∃ item ∈ items, read item = .ok value :=
  forall₂_source (mapM_ok_iff.mp all)

theorem mapM_congr {read other : α → Except ε β} {items : List α}
    (same : ∀ item ∈ items, read item = other item) : items.mapM read = items.mapM other := by
  induction items with
  | nil => rfl
  | cons item rest ih =>
    rw [List.mapM_cons, List.mapM_cons, same item List.mem_cons_self,
      ih fun item member => same item (List.mem_cons_of_mem _ member)]

theorem mapM_fault {read : α → Except ε β} {items : List α} {fault : ε}
    (failed : items.mapM read = .error fault) : ∃ item ∈ items, read item = .error fault := by
  induction items with
  | nil => cases failed
  | cons item rest ih =>
    rw [List.mapM_cons] at failed
    obtain lost | ⟨value, _, later⟩ := bind_faults failed
    · exact ⟨item, List.mem_cons_self, lost⟩
    obtain lost | ⟨values, _, made⟩ := bind_faults later
    · obtain ⟨item, member, lost⟩ := ih lost
      exact ⟨item, List.mem_cons_of_mem _ member, lost⟩
    · cases made

theorem mapM_map {read : α → Except ε β} {items : List α} {make : α → β}
    (each : ∀ item ∈ items, read item = .ok (make item)) :
    items.mapM read = .ok (items.map make) := by
  rw [mapM_ok_iff, List.forall₂_map_right_iff, List.forall₂_same]
  exact each

theorem mapM_total {read : α → Except ε β} {items : List α}
    (each : ∀ item ∈ items, ∃ value, read item = .ok value) :
    ∃ values, items.mapM read = .ok values := by
  cases all : items.mapM read with
  | ok values => exact ⟨values, rfl⟩
  | error fault =>
    obtain ⟨item, member, lost⟩ := mapM_fault all
    obtain ⟨value, found⟩ := each item member
    rw [found] at lost
    cases lost

end Failing

end ProxyHeaders
