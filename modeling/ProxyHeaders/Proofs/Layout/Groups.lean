import ProxyHeaders.Layout.Group
import ProxyHeaders.Proofs.Entries

/-!
Which types the groups of a run hold, and in what order.
-/
namespace ProxyHeaders.Layout

open ProxyHeaders.Mapping

/-! Members of groups are types of the run. -/

theorem survivorsFrom_sublist (map : TypeMap) (seen : List (String × String))
    (types : List TypeDecl) : (survivorsFrom map seen types).Sublist types := by
  induction types generalizing seen with
  | nil => exact .slnil
  | cons type rest inner =>
    simp only [survivorsFrom]
    split
    · exact (inner seen).cons type
    · exact (inner _).cons_cons type

theorem survivors_sublist (map : TypeMap) (types : List TypeDecl) :
    (survivors map types).Sublist types := survivorsFrom_sublist map [] types

theorem mem_of_lineage {find : String → Option TypeDecl} {placed : List String} {steps : Nat}
    {met : List String} {type found : TypeDecl}
    (member : found ∈ lineage find placed steps met type) :
    found = type ∨ ∃ name, find name = some found := by
  induction steps generalizing met type with
  | zero => simp [lineage] at member
  | succ steps inner =>
    unfold lineage at member
    split at member
    · simp at member
    · split at member
      · next base known =>
        rcases List.mem_append.mp member with above | own
        · rcases inner above with same | other
          · obtain ⟨reference, -, search⟩ := Option.bind_eq_some_iff.mp known
            exact .inr ⟨reference.fullName, by rw [same]; exact search⟩
          · exact .inr other
        · exact .inl (by simpa using own)
      · exact .inl (by simpa using member)

theorem mem_of_placeAll {find : String → Option TypeDecl} {steps : Nat}
    {placed types : List TypeDecl} {found : TypeDecl}
    (member : found ∈ placeAll find steps placed types) :
    found ∈ placed ∨ found ∈ types ∨ ∃ name, find name = some found := by
  induction types generalizing placed with
  | nil => exact .inl member
  | cons type rest inner =>
    rcases inner member with before | later | known
    · rcases List.mem_append.mp before with before | line
      · exact .inl before
      · rcases mem_of_lineage line with rfl | known
        · exact .inr (.inl (by simp))
        · exact .inr (.inr known)
    · exact .inr (.inl (by simp [later]))
    · exact .inr (.inr known)

theorem mem_of_basesFirst {types : List TypeDecl} {found : TypeDecl}
    (member : found ∈ basesFirst types) : found ∈ types := by
  rcases mem_of_placeAll member with none | own | ⟨name, known⟩
  · simp at none
  · exact own
  · exact List.mem_reverse.mp (List.mem_of_find?_eq_some known)

theorem mem_of_groupOf {types : List TypeDecl} {key : String} {found : TypeDecl}
    (member : found ∈ (groupOf types key).types) : found ∈ types ∧ found.groupKey = key := by
  have sorted := mem_of_basesFirst member
  have kept := List.mem_mergeSort.mp sorted
  simpa using kept

theorem mem_groupKeys {types : List TypeDecl} {key : String} :
    key ∈ groupKeys types ↔ ∃ type ∈ types, type.groupKey = key := by
  rw [groupKeys, List.mem_mergeSort, List.mem_eraseDups, List.mem_map]

/-- A group has the namespace of one of its types, the first of them in the run. -/
theorem groupOf_leader {types : List TypeDecl} {key : String} {type : TypeDecl}
    (member : type ∈ types) (own : type.groupKey = key) :
    ∃ leader ∈ types, leader.groupKey = key ∧ (groupOf types key).space = leader.space := by
  have inside : type ∈ types.filter (·.groupKey == key) :=
    List.mem_filter.mpr ⟨member, by simpa using own⟩
  cases first : (types.filter (·.groupKey == key)).head? with
  | none =>
    rw [List.head?_eq_none_iff.mp first] at inside
    cases inside
  | some leader =>
    obtain ⟨leads, sameKey⟩ := List.mem_filter.mp (List.mem_of_head? first)
    exact ⟨leader, leads, by simpa using sameKey, by simp [groupOf, first]⟩

end ProxyHeaders.Layout
