import ProxyHeaders.Names.Claimed
import ProxyHeaders.Names.Sanitizer
import ProxyHeaders.Proofs.Entries

/-!
A sanitizer never answers with nothing, whatever it was asked before; and a claimed name is one that
was claimed, or is there from the start.
-/
namespace ProxyHeaders.Names

namespace Sanitizer

/-- The sanitizer after some questions, each for a name in a spelling. -/
def askAll (sanitizer : Sanitizer) (questions : List (Option String × NameCase)) : Sanitizer :=
  questions.foldl (fun sanitizer question => sanitizer.keep question.1 question.2) sanitizer

/-- A sanitizer that keeps no empty answer. -/
def NeverEmpty (sanitizer : Sanitizer) : Prop := ∀ entry ∈ sanitizer.kept, entry.2 ≠ ""

theorem withValidStart_nonempty (text : String) : withValidStart text ≠ "" := by
  unfold withValidStart
  split
  · decide
  · next c rest split =>
    split
    · intro empty
      simpa using congrArg String.toList empty
    · rintro rfl
      cases split

variable {sanitizer : Sanitizer}

theorem compute_nonempty (name : Option String) (style : NameCase) :
    sanitizer.compute name style ≠ "" := by
  simp only [compute]
  split
  · intro empty
    exact withValidStart_nonempty _ (String.append_eq_empty_iff.mp empty).2
  · exact withValidStart_nonempty _

theorem keep_neverEmpty (neverEmpty : sanitizer.NeverEmpty) (name : Option String)
    (style : NameCase) : (sanitizer.keep name style).NeverEmpty := by
  simp only [keep]
  split
  · exact neverEmpty
  · intro entry member
    rcases List.mem_cons.mp member with rfl | earlier
    · exact compute_nonempty name style
    · exact neverEmpty entry earlier

theorem askAll_neverEmpty (questions : List (Option String × NameCase))
    (neverEmpty : sanitizer.NeverEmpty) : (sanitizer.askAll questions).NeverEmpty := by
  unfold askAll
  induction questions generalizing sanitizer with
  | nil => exact neverEmpty
  | cons question rest ih => exact ih (keep_neverEmpty neverEmpty question.1 question.2)

theorem forget_neverEmpty (sanitizer : Sanitizer) : sanitizer.forget.NeverEmpty := by
  intro entry member
  cases member

theorem identifier_nonempty (neverEmpty : sanitizer.NeverEmpty) (name : String) :
    sanitizer.identifier name ≠ "" := by
  unfold identifier sanitize
  cases found : sanitizer.kept.lookup (key (some name) .asIs) with
  | none => exact compute_nonempty (some name) .asIs
  | some answer =>
    exact neverEmpty (key (some name) .asIs, answer) (mem_of_lookup found)

end Sanitizer

namespace Claimed

theorem contains_claim {claimed : Claimed} {name other : String} :
    (claimed.claim name).contains other ↔ other = name ∨ claimed.contains other := by
  unfold claim
  by_cases known : claimed.contains name
  · rw [if_pos known]
    constructor
    · exact .inr
    · rintro (rfl | kept)
      · exact known
      · exact kept
  · rw [if_neg known]
    simp [contains]

theorem contains_ofSeed {seed : List String} {name : String} :
    (ofSeed seed).contains name ↔ name ∈ seed := by
  have all (claimed : Claimed) :
      (seed.foldl claim claimed).contains name ↔ name ∈ seed ∨ claimed.contains name := by
    induction seed generalizing claimed with
    | nil => simp
    | cons first rest ih =>
      rw [List.foldl_cons, ih, contains_claim, List.mem_cons, or_left_comm, or_assoc]
  rw [ofSeed, all]
  simp [contains]

theorem contains_forStruct {structName name : String} (named : structName ≠ "") :
    (forStruct structName).contains name ↔ name = structName ∨ name ∈ implicitMembers := by
  have nonempty : structName.isEmpty = false := by simpa using named
  rw [forStruct, nonempty, if_neg Bool.false_ne_true, contains_claim, contains_ofSeed]

end Claimed

end ProxyHeaders.Names
