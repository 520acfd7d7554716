import ProxyHeaders.Names.Sanitizer
import ProxyHeaders.Proofs.Check.Nesting
import ProxyHeaders.Proofs.Entries
import ProxyHeaders.Proofs.Names.Numbering
import ProxyHeaders.Proofs.Text.Lines

/-!
Whatever metadata calls things, the identifiers made of it consist of word characters.
-/
namespace ProxyHeaders.Names

def IsWord (text : String) : Prop := ∀ c ∈ text.toList, isWordChar c

instance (text : String) : Decidable (IsWord text) :=
  decidable_of_iff (text.toList.all isWordChar) (by simp [IsWord])

namespace IsWord

theorem append {first second : String} (start : IsWord first) (finish : IsWord second) :
    IsWord (first ++ second) := by
  intro c member
  rcases List.mem_append.mp (by simpa using member) with early | late
  · exact start c early
  · exact finish c late

theorem number (value : Nat) : IsWord (toString value) := by
  intro c member
  have written : c ∈ Nat.toDigits 10 value := by simpa using member
  have digit : c.isDigit := Nat.isDigit_of_mem_toDigits (by decide) (by decide) written
  simp [isWordChar, Char.isAlphanum, digit]

end IsWord

theorem wordChar_below {c : Char} (word : isWordChar c) : c.toNat < 128 := by
  change ((((decide (65 ≤ c.val ∧ c.val ≤ 90) ||
    (decide (97 ≤ c.val) && decide (c.val ≤ 122))) ||
    (decide (48 ≤ c.val) && decide (c.val ≤ 57))) || c == '_') || c == '$') = true at word
  simp only [Bool.or_eq_true, Bool.and_eq_true, decide_eq_true_eq, beq_iff_eq,
    UInt32.le_iff_toNat_le] at word
  change ((((65 ≤ c.toNat ∧ c.toNat ≤ 90) ∨ (97 ≤ c.toNat ∧ c.toNat ≤ 122)) ∨
    (48 ≤ c.toNat ∧ c.toNat ≤ 57)) ∨ c = '_') ∨ c = '$' at word
  rcases word with (((upper | lower) | digit) | rfl) | rfl
  · omega
  · omega
  · omega
  · decide
  · decide

theorem wordChar_neutral {c : Char} (word : isWordChar c) : Check.isNeutral c := by
  -- Word characters are ASCII, so there are few enough to try them all.
  have all : ∀ code < 128,
      isWordChar (Char.ofNat code) → Check.isNeutral (Char.ofNat code) := by decide
  simpa using all c.toNat (wordChar_below word) (by simpa using word)

theorem word_neutral {text : String} (word : IsWord text) : Check.Neutral text :=
  fun c member => wordChar_neutral (word c member)

theorem toUpper_word {c : Char} (word : isWordChar c) : isWordChar c.toUpper := by
  have all : ∀ code < 128,
      isWordChar (Char.ofNat code) → isWordChar (Char.ofNat code).toUpper := by decide
  simpa using all c.toNat (wordChar_below word) (by simpa using word)

theorem capitalize_word {part : List Char} (word : ∀ c ∈ part, isWordChar c) :
    ∀ c ∈ capitalize part, isWordChar c := by
  cases part with
  | nil => simp [capitalize]
  | cons first rest =>
    have ascii : Text.isAscii first := by
      simpa [Text.isAscii] using wordChar_below (word first (by simp))
    intro c member
    simp only [capitalize, Text.upperChar, ascii, if_true, List.singleton_append,
      List.mem_cons] at member
    rcases member with rfl | later
    · exact toUpper_word (word first (by simp))
    · exact word c (by simp [later])

theorem pascal_word {name : String} (word : IsWord name) : IsWord (pascal name) := by
  intro c member
  rw [pascal, String.toList_ofList] at member
  obtain ⟨part, found, inside⟩ := List.mem_flatMap.mp member
  exact capitalize_word (fun other within => word other (Text.mem_splitOn found other within).1) c
    inside

/-! Numbered names -/

theorem firstFree_word {taken : List String} {candidate : Nat → String}
    (word : ∀ index, IsWord (candidate index)) : IsWord (firstFree taken candidate) := by
  obtain ⟨chosen, same, -⟩ := firstFree_least taken candidate
  rw [same]
  exact word chosen

theorem numbered_word {name : String} (word : IsWord name) (index : Nat) :
    IsWord (numbered name index) := by
  unfold numbered
  by_cases first : index = 0
  · rwa [if_pos first]
  · rw [if_neg first]
    exact (word.append (by decide)).append (.number index)

theorem spread_word {taken names : List String} (words : ∀ name ∈ names, IsWord name) :
    ∀ name ∈ spread taken names, IsWord name := by
  intro given member
  obtain ⟨name, listed, number, rfl⟩ := mem_spread member
  exact numbered_word (words name listed) number

/-! What a sanitizer answers -/

namespace Sanitizer

/-- A sanitizer that escapes with word characters and keeps nothing but words. -/
structure Wordy (sanitizer : Sanitizer) : Prop where
  escape : IsWord sanitizer.escape
  kept : ∀ entry ∈ sanitizer.kept, IsWord entry.2

variable {sanitizer : Sanitizer}

theorem wordy_forHeaders : forHeaders.Wordy :=
  ⟨by decide, by simp [forHeaders]⟩

theorem replaceForeign_word (wordy : sanitizer.Wordy) (name : String) :
    IsWord (sanitizer.replaceForeign name) := by
  intro c member
  rw [replaceForeign, String.toList_ofList] at member
  obtain ⟨source, -, inside⟩ := List.mem_flatMap.mp member
  by_cases word : isWordChar source
  · rw [if_pos word, List.mem_singleton] at inside
    rwa [inside]
  · rw [if_neg word] at inside
    exact wordy.escape c inside

theorem replaceForeign_of_word (sanitizer : Sanitizer) {name : String} (word : IsWord name) :
    sanitizer.replaceForeign name = name := by
  have each : ∀ c ∈ name.toList,
      (if isWordChar c then [c] else sanitizer.escape.toList) = [c] :=
    fun c member => if_pos (word c member)
  rw [replaceForeign, List.flatMap_congr each]
  simp

theorem compute_word (wordy : sanitizer.Wordy) (name : Option String) :
    IsWord (sanitizer.compute name .asIs) := by
  have replaced := replaceForeign_word wordy (name.getD "")
  have valid :
      IsWord (withValidStart (inCase .asIs (sanitizer.replaceForeign (name.getD "")))) := by
    unfold withValidStart
    split
    · decide
    · split
      · exact .append (by decide) replaced
      · exact replaced
  simp only [compute]
  split
  · exact wordy.escape.append valid
  · exact valid

theorem keep_wordy (wordy : sanitizer.Wordy) (name : Option String) :
    (sanitizer.keep name).Wordy := by
  simp only [keep]
  split
  · exact wordy
  · refine ⟨wordy.escape, ?_⟩
    intro entry member
    rcases List.mem_cons.mp member with rfl | earlier
    · exact compute_word wordy name
    · exact wordy.kept entry earlier

theorem keepAll_wordy (wordy : sanitizer.Wordy) (names : List String) :
    (sanitizer.keepAll names).Wordy := by
  unfold keepAll
  induction names generalizing sanitizer with
  | nil => exact wordy
  | cons name rest inner => exact inner (keep_wordy wordy (some name))

theorem identifier_word (wordy : sanitizer.Wordy) (name : String) :
    IsWord (sanitizer.identifier name) := by
  unfold identifier sanitize
  cases found : sanitizer.kept.lookup (key (some name) .asIs) with
  | none => exact compute_word wordy (some name)
  | some answer =>
    exact wordy.kept (key (some name) .asIs, answer) (mem_of_lookup found)

theorem accessorName_word (wordy : sanitizer.Wordy) {start : String} (word : IsWord start)
    (name : String) : IsWord (sanitizer.accessorName start name) := by
  unfold accessorName
  refine word.append ?_
  split
  · decide
  · exact pascal_word (replaceForeign_word wordy name)

theorem parameterBase_word (wordy : sanitizer.Wordy) (name : Option String) (index : Nat) :
    IsWord (sanitizer.parameterBase name index) := by
  have byPosition : IsWord ("param" ++ toString index) :=
    .append (by decide) (.number index)
  cases name with
  | none => exact byPosition
  | some name =>
    simp only [parameterBase]
    split
    · exact byPosition
    · exact identifier_word wordy name

theorem parameterNames_word (wordy : sanitizer.Wordy) (names : List (Option String))
    (taken : List String) : ∀ name ∈ sanitizer.parameterNames names taken, IsWord name := by
  refine spread_word ?_
  intro name member
  obtain ⟨entry, -, rfl⟩ := List.mem_map.mp member
  exact parameterBase_word wordy entry.1 entry.2

end Sanitizer

end ProxyHeaders.Names
