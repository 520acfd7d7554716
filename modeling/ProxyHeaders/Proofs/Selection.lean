import ProxyHeaders.Proofs.Entries
import ProxyHeaders.Selection

/-!
Which of several items with one key is kept, and which types are selected: of those that can be
generated the first of each full name, in the order in which they come. What cannot be generated
does not count, so it neither hides a later type nor moves it.
-/
namespace ProxyHeaders.Selection

theorem firstsFrom_append {α : Type} (key : α → String) (seen : List String)
    (first second : List α) :
    firstsFrom key seen (first ++ second) =
      firstsFrom key seen first ++
        firstsFrom key (((firstsFrom key seen first).map key).reverse ++ seen) second := by
  induction first generalizing seen with
  | nil => rfl
  | cons item rest ih =>
    rw [List.cons_append, firstsFrom, firstsFrom]
    by_cases known : seen.contains (key item) = true
    · rw [if_pos known, if_pos known, ih]
    · rw [if_neg known, if_neg known, ih]
      simp

theorem firstsFrom_map {α β : Type} (key : β → String) (change : α → β) (seen : List String)
    (items : List α) :
    firstsFrom key seen (items.map change) =
      (firstsFrom (fun item => key (change item)) seen items).map change := by
  induction items generalizing seen with
  | nil => rfl
  | cons item rest ih =>
    rw [List.map_cons, firstsFrom, firstsFrom]
    by_cases known : seen.contains (key (change item)) = true
    · rw [if_pos known, if_pos known, ih]
    · rw [if_neg known, if_neg known, ih, List.map_cons]

theorem firstsFrom_sublist {α : Type} (key : α → String) (seen : List String) (items : List α) :
    (firstsFrom key seen items).Sublist items := by
  induction items generalizing seen with
  | nil => exact .slnil
  | cons item rest ih =>
    rw [firstsFrom]
    by_cases known : seen.contains (key item) = true
    · rw [if_pos known]
      exact (ih seen).cons item
    · rw [if_neg known]
      exact (ih _).cons_cons item

theorem firstsFrom_distinct {α : Type} (key : α → String) (seen : List String) (items : List α) :
    ((firstsFrom key seen items).map key).Nodup ∧
      ∀ item ∈ firstsFrom key seen items, key item ∉ seen := by
  induction items generalizing seen with
  | nil => exact ⟨List.nodup_nil, fun _ member => by cases member⟩
  | cons item rest ih =>
    rw [firstsFrom]
    by_cases known : seen.contains (key item) = true
    · rw [if_pos known]
      exact ih seen
    · rw [if_neg known]
      obtain ⟨distinct, unseen⟩ := ih (key item :: seen)
      constructor
      · rw [List.map_cons, List.nodup_cons]
        refine ⟨?_, distinct⟩
        intro repeated
        obtain ⟨other, member, same⟩ := List.mem_map.mp repeated
        apply unseen other member
        rw [same]
        exact List.mem_cons_self
      · intro other member
        rcases List.mem_cons.mp member with rfl | later
        · simpa using known
        · exact fun inside => unseen other later (List.mem_cons_of_mem _ inside)

theorem firstsFrom_eq {α : Type} {key : α → String} {seen : List String} {items : List α}
    (once : (items.map key).Nodup) (unseen : ∀ item ∈ items, key item ∉ seen) :
    firstsFrom key seen items = items := by
  induction items generalizing seen with
  | nil => rfl
  | cons item rest ih =>
    obtain ⟨new, restOnce, restUnseen⟩ := unseen_cons once unseen
    have unknown : seen.contains (key item) = false := by simpa using new
    rw [firstsFrom, unknown, if_neg Bool.false_ne_true, ih restOnce restUnseen]

theorem firstsFrom_filter {α : Type} (key : α → String) (seen : List String) (items : List α)
    (name : String) :
    (firstsFrom key seen items).filter (key · == name) =
      if name ∈ seen then [] else (items.find? (key · == name)).toList := by
  induction items generalizing seen with
  | nil => simp [firstsFrom]
  | cons item rest ih =>
    rw [firstsFrom]
    by_cases known : seen.contains (key item) = true
    · rw [if_pos known, ih]
      by_cases met : name ∈ seen
      · rw [if_pos met, if_pos met]
      · have other : (key item == name) = false := by
          rw [beq_eq_false_iff_ne]
          rintro rfl
          exact met (by simpa using known)
        rw [if_neg met, if_neg met, List.find?_cons, other]
    · rw [if_neg known, List.filter_cons, ih]
      by_cases own : key item = name
      · subst own
        have unmet : key item ∉ seen := by simpa using known
        simp [unmet]
      · have other : (key item == name) = false := beq_eq_false_iff_ne.mpr own
        simp [other, Ne.symm own]

/-- The place of the first item with a key among those that count. -/
def firstPlace {α : Type} (key : α → String) (counts : α → Bool) (items : List α) (name : String) :
    Nat :=
  items.findIdx fun item => counts item && key item == name

theorem firstPlace_later {α : Type} {key : α → String} {counts : α → Bool} {item : α}
    {rest : List α} {name : String} (other : ¬ (counts item ∧ key item = name)) :
    firstPlace key counts (item :: rest) name = firstPlace key counts rest name + 1 := by
  have passed : (counts item && key item == name) = false := by simpa using other
  rw [firstPlace, List.findIdx_cons, passed]
  rfl

theorem firstsFrom_ordered {α : Type} (key : α → String) (counts : α → Bool) (seen : List String)
    (items : List α) :
    (firstsFrom key seen (items.filter counts)).Pairwise fun item other =>
      firstPlace key counts items (key item) < firstPlace key counts items (key other) := by
  induction items generalizing seen with
  | nil => exact .nil
  | cons item rest ih =>
    -- Behind an item that none of them repeats all places are one further.
    have later {seen : List String} (apart : ∀ other ∈ firstsFrom key seen (rest.filter counts),
        ¬ (counts item ∧ key item = key other)) :
        (firstsFrom key seen (rest.filter counts)).Pairwise fun one other =>
          firstPlace key counts (item :: rest) (key one) <
            firstPlace key counts (item :: rest) (key other) := by
      refine (ih seen).imp_of_mem fun {one other} here there less => ?_
      rw [firstPlace_later (apart one here), firstPlace_later (apart other there)]
      exact Nat.succ_lt_succ less
    have unseen (seen : List String) := (firstsFrom_distinct key seen (rest.filter counts)).2
    by_cases counted : counts item
    · rw [List.filter_cons_of_pos counted, firstsFrom]
      by_cases known : seen.contains (key item) = true
      · rw [if_pos known]
        refine later fun other member same => unseen seen other member ?_
        rw [← same.2]
        simpa using known
      · rw [if_neg known]
        have apart : ∀ other ∈ firstsFrom key (key item :: seen) (rest.filter counts),
            ¬ (counts item ∧ key item = key other) := by
          intro other member same
          exact unseen _ other member (same.2 ▸ List.mem_cons_self)
        refine .cons (fun other member => ?_) (later apart)
        have own : firstPlace key counts (item :: rest) (key item) = 0 := by
          simp [firstPlace, List.findIdx_cons, counted]
        rw [own, firstPlace_later (apart other member)]
        exact Nat.succ_pos _
    · rw [List.filter_cons_of_neg counted]
      exact later fun other _ same => counted same.1

/-! Selected types -/

/-- What is selected of the types that were found: for every full name the first type that can be
generated, if there is one, and these in the order in which they were found. -/
structure Selects (found selected : List TypeDecl) : Prop where
  distinct : (selected.map (·.fullName)).Nodup
  first : ∀ name, selected.filter (·.fullName == name) =
    (found.find? fun type => isGeneratable type && type.fullName == name).toList
  order : selected.Pairwise fun type other =>
    firstPlace (·.fullName) isGeneratable found type.fullName <
      firstPlace (·.fullName) isGeneratable found other.fullName
  again : select selected = selected

theorem select_selects (found : List TypeDecl) : Selects found (select found) := by
  have distinct : ((select found).map (·.fullName)).Nodup := (firstsFrom_distinct _ [] _).1
  refine ⟨distinct, fun name => ?_, firstsFrom_ordered _ _ [] found, ?_⟩
  · rw [select, firsts, firstsFrom_filter, if_neg List.not_mem_nil, List.find?_filter]
    simp only [Bool.decide_and, Bool.decide_eq_true]
  · have generatable : (select found).filter isGeneratable = select found := by
      rw [List.filter_eq_self]
      intro type member
      exact (List.mem_filter.mp ((firstsFrom_sublist _ [] _).subset member)).2
    rw [select, generatable]
    exact firstsFrom_eq distinct fun _ _ => List.not_mem_nil

end ProxyHeaders.Selection
