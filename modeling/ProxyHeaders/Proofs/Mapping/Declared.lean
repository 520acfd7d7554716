import Mathlib.Data.List.Nodup
import ProxyHeaders.Generate

/-!
The types that a map knows as declared by the run.
-/
namespace ProxyHeaders.Mapping.TypeMap

variable (map : TypeMap) (types : List TypeDecl)

theorem declareAll_declared :
    ∀ type ∈ (map.declareAll types).declared, type ∈ map.declared ∨ type ∈ types := by
  unfold declareAll
  induction types generalizing map with
  | nil => exact fun type member => .inl member
  | cons first rest ih =>
    intro type member
    rcases ih (map.declare first) type member with known | later
    · unfold declare at known
      split at known
      · exact .inl known
      · rcases List.mem_append.mp known with known | own
        · exact .inl known
        · rw [List.mem_singleton.mp own]
          exact .inr List.mem_cons_self
    · exact .inr (List.mem_cons_of_mem first later)

theorem declareAll_rest :
    (map.declareAll types).sanitizer = map.sanitizer ∧
    (map.declareAll types).allowed = map.allowed ∧
    (map.declareAll types).reservedNames = map.reservedNames := by
  unfold declareAll
  induction types generalizing map with
  | nil => exact ⟨rfl, rfl, rfl⟩
  | cons first rest ih =>
    have step : (map.declare first).sanitizer = map.sanitizer ∧
        (map.declare first).allowed = map.allowed ∧
        (map.declare first).reservedNames = map.reservedNames := by
      unfold declare
      split
      · exact ⟨rfl, rfl, rfl⟩
      · exact ⟨rfl, rfl, rfl⟩
    rw [List.foldl_cons, ← step.1, ← step.2.1, ← step.2.2]
    exact ih (map.declare first)

variable {map types}

theorem declareAll_distinct
    (distinct : ((map.declared ++ types).map (·.fullName)).Nodup) :
    (map.declareAll types).declared = map.declared ++ types := by
  unfold declareAll
  induction types generalizing map with
  | nil => simp
  | cons first rest ih =>
    have unknown : map.declared.any (·.fullName == first.fullName) = false := by
      rw [List.any_eq_false]
      intro type known same
      rw [List.map_append, List.nodup_append] at distinct
      exact distinct.2.2 type.fullName (List.mem_map.mpr ⟨type, known, rfl⟩)
        first.fullName (by simp) (by simpa using same)
    have declared : (map.declare first).declared = map.declared ++ [first] := by
      simp [declare, unknown]
    rw [List.foldl_cons, ih (by rw [declared]; simpa using distinct), declared]
    simp

end ProxyHeaders.Mapping.TypeMap

namespace ProxyHeaders

theorem find_fullName {types : List TypeDecl} (distinct : (types.map (·.fullName)).Nodup)
    {name : String} {type : TypeDecl} :
    types.find? (·.fullName == name) = some type ↔ type ∈ types ∧ type.fullName = name := by
  constructor
  · intro found
    exact ⟨List.mem_of_find?_eq_some found, by simpa using List.find?_some found⟩
  · rintro ⟨member, rfl⟩
    cases found : types.find? (·.fullName == type.fullName) with
    | none =>
      have absent := List.find?_eq_none.mp found type member
      simp at absent
    | some other =>
      have named : other.fullName = type.fullName := by simpa using List.find?_some found
      rw [List.inj_on_of_nodup_map distinct (List.mem_of_find?_eq_some found) member named]

open ProxyHeaders.Mapping ProxyHeaders.Names ProxyHeaders.Template

theorem jobFor_declared? {settings : Settings} {sanitizer : Sanitizer} {render : Renderer}
    {types : List TypeDecl} (distinct : (types.map (·.fullName)).Nodup) {name : String}
    {type : TypeDecl} :
    (jobFor settings sanitizer render types).map.declared? name = some type ↔
      type ∈ types ∧ type.fullName = name := by
  have declared : (jobFor settings sanitizer render types).map.declared = types := by
    simp only [jobFor]
    rw [TypeMap.declareAll_distinct (by simpa using distinct)]
    rfl
  rw [TypeMap.declared?, declared]
  exact find_fullName distinct

end ProxyHeaders
