import ProxyHeaders.Metadata.Tables
import ProxyHeaders.Proofs.Entries

/-!
How reading tables fails: rows that are looked up by their numbers, and references from one to
another.
-/
namespace ProxyHeaders.Metadata

variable {α : Type}

namespace Tables

theorem row_iff {rows : Option (List α)} {table : String} {index : Int} {row : α} :
    Tables.row rows table index = .ok row ↔
      1 ≤ index ∧ (rows.getD [])[(index - 1).toNat]? = some row := by
  simp only [Tables.row]
  by_cases low : index < 1
  · simp only [if_pos low, reduceCtorEq, false_iff]
    omega
  · rw [if_neg low]
    cases (rows.getD [])[(index - 1).toNat]? <;> simp
    omega

theorem row_bounds {rows : Option (List α)} {table : String} {index : Int} {row : α}
    (found : Tables.row rows table index = .ok row) :
    1 ≤ index ∧ index ≤ (rows.getD []).length := by
  obtain ⟨least, inside⟩ := row_iff.mp found
  have below := (List.getElem?_eq_some_iff.mp inside).1
  omega

theorem pick_of_row {rows : Option (List α)} {table : String} {index : Int} {row : α}
    (found : Tables.row rows table index = .ok row) (beyond : Nat → Int → Stray)
    (target : α → Target) : pick beyond rows index target = .ok (some (target row)) := by
  obtain ⟨least, inside⟩ := row_iff.mp found
  cases rows with
  | none => cases inside
  | some rows =>
    simp only [Option.getD_some] at inside
    have below := (List.getElem?_eq_some_iff.mp inside).1
    have near : (1 ≤ index && index ≤ rows.length) = true := by simp; omega
    simp only [pick, rowNear, if_pos near, inside]
    rfl

theorem row_fault {rows : Option (List α)} {table : String} {index : Int} {fault : Fault}
    (failed : row rows table index = .error fault) :
    fault = .signature (.noSuchRow table index) := by
  simp only [row] at failed
  split at failed
  · cases failed
    rfl
  split at failed
  · cases failed
  · cases failed
    rfl

theorem pick_fault {beyond : Nat → Int → Stray} {rows : Option (List α)} {index : Int}
    {target : α → Target} {fault : Fault} (failed : pick beyond rows index target = .error fault) :
    fault = .dangling := by
  unfold pick at failed
  cases rows with
  | none => cases failed
  | some rows =>
    obtain near | ⟨_, _, taken⟩ := bind_faults failed
    · unfold rowNear at near
      split at near
      · cases near
      split at near <;> cases near
      rfl
    · cases taken

variable {tables : Tables}

theorem follow_fault {link : Option Link} {fault : Fault}
    (failed : tables.follow link = .error fault) : fault = .dangling := by
  cases link with
  | none => cases failed
  | some link =>
    simp only [follow, followLink] at failed
    split at failed <;> exact pick_fault failed

theorem baseName_fault {row : TypeDefRow} {fault : Fault}
    (failed : tables.baseName row = .error fault) : fault = .dangling := by
  obtain lost | ⟨target, _, named⟩ := bind_faults failed
  · exact follow_fault lost
  · split at named <;> cases named

theorem scopeFrom_fault {steps : Nat} {scope : Option Link} {fault : Fault}
    (failed : tables.scopeFrom steps scope = .error fault) : fault = .dangling := by
  induction steps generalizing scope with
  | zero =>
    unfold scopeFrom at failed
    obtain lost | ⟨target, _, named⟩ := bind_faults failed
    · exact follow_fault lost
    · split at named <;> cases named
  | succ steps ih =>
    unfold scopeFrom at failed
    obtain lost | ⟨target, _, named⟩ := bind_faults failed
    · exact follow_fault lost
    · split at named
      · exact ih named
      all_goals cases named

theorem spaceOf_fault {index : Int} {fault : Fault}
    (failed : tables.spaceOf index = .error fault) : ∃ own, fault = .signature own := by
  obtain lost | ⟨_, _, taken⟩ := bind_faults failed
  · exact ⟨_, row_fault lost⟩
  · cases taken

end Tables

end ProxyHeaders.Metadata
