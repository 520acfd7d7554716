import ProxyHeaders.Proofs.Names.Answers
import ProxyHeaders.Proofs.Names.Words
import ProxyHeaders.Proxy.Locals

/-!
The answers of a sanitizer are identifiers of the header language and none of the words that it
escapes, whatever it is asked and whatever it was asked before. Its escape has to start an identifier
and none of those words.
-/
namespace ProxyHeaders.Names

open ProxyHeaders.Proxy

/-- Word characters, the first of them no digit. -/
structure IsIdentifier (name : String) : Prop where
  start : name.toList.head?.any isWordStart
  word : IsWord name

instance (name : String) : Decidable (IsIdentifier name) :=
  decidable_of_iff (name.toList.head?.any isWordStart ∧ IsWord name)
    ⟨fun both => ⟨both.1, both.2⟩, fun identifier => ⟨identifier.start, identifier.word⟩⟩

theorem IsIdentifier.append {first second : String} (start : IsIdentifier first)
    (finish : IsWord second) : IsIdentifier (first ++ second) := by
  refine ⟨?_, start.word.append finish⟩
  obtain ⟨c, isFirst, isStart⟩ := (Option.any_eq_true _ _).mp start.start
  rw [String.toList_append, List.head?_append, isFirst]
  exact isStart

theorem wordStart_of_noDigit {c : Char} (word : isWordChar c) (noDigit : ¬ Text.isDigit c) :
    isWordStart c := by
  have ascii : Text.isAscii c := by simpa [Text.isAscii] using wordChar_below word
  have noDigit : c.isDigit = false := by
    simpa [Text.isDigit, Text.digitValue?, ascii] using noDigit
  simpa [isWordChar, isWordStart, Char.isAlphanum, noDigit] using word

theorem withValidStart_identifier {name : String} (word : IsWord name) :
    IsIdentifier (withValidStart name) := by
  unfold withValidStart
  split
  · decide
  · next first rest chars =>
    split
    · exact IsIdentifier.append (by decide) word
    · next noDigit =>
      refine ⟨?_, word⟩
      have listed : first ∈ name.toList := by rw [chars]; exact List.mem_cons_self
      rw [chars]
      exact wordStart_of_noDigit (word first listed) noDigit

theorem toLower_word {c : Char} (word : isWordChar c) : isWordChar c.toLower := by
  have all : ∀ code < 128,
      isWordChar (Char.ofNat code) → isWordChar (Char.ofNat code).toLower := by decide
  simpa using all c.toNat (wordChar_below word) (by simpa using word)

theorem camel_word {name : String} (word : IsWord name) : IsWord (camel name) := by
  have raised := pascal_word word
  unfold camel
  split
  · decide
  · next first rest chars =>
    have isFirst : first ∈ (pascal name).toList := by rw [chars]; exact List.mem_cons_self
    have ascii : Text.isAscii first := by
      simpa [Text.isAscii] using wordChar_below (raised first isFirst)
    intro c member
    rw [String.toList_ofList, Text.lowerChar, if_pos ascii, List.singleton_append] at member
    rcases List.mem_cons.mp member with rfl | later
    · exact toLower_word (raised first isFirst)
    · exact raised c (by rw [chars]; exact List.mem_cons_of_mem first later)

theorem inCase_word {name : String} (word : IsWord name) (style : NameCase) :
    IsWord (inCase style name) := by
  cases style with
  | asIs => exact word
  | pascal => exact pascal_word word
  | camel => exact camel_word word

namespace Sanitizer

/-- An identifier that is no reserved word. -/
structure Safe (sanitizer : Sanitizer) (name : String) : Prop where
  identifier : IsIdentifier name
  free : ¬ sanitizer.isReserved name

instance (sanitizer : Sanitizer) (name : String) : Decidable (sanitizer.Safe name) :=
  decidable_of_iff (IsIdentifier name ∧ ¬ sanitizer.isReserved name)
    ⟨fun both => ⟨both.1, both.2⟩, fun safe => ⟨safe.identifier, safe.free⟩⟩

/-- A sanitizer whose escape starts identifiers and no reserved word, and that keeps nothing but
safe answers. -/
structure Guarded (sanitizer : Sanitizer) : Prop where
  escape : IsIdentifier sanitizer.escape
  apart : ∀ word ∈ sanitizer.keywords ++ sanitizer.macros,
    ¬ sanitizer.escape.toList <+: word.toList
  kept : ∀ entry ∈ sanitizer.kept, sanitizer.Safe entry.2

theorem undigited_forHeaders : ∀ word ∈ forHeaders.keywords ++ forHeaders.macros,
    ¬ word.toList.getLast?.any Char.isDigit := by
  decide +kernel

theorem guarded_forHeaders : forHeaders.Guarded :=
  ⟨by decide, by decide +kernel, fun _ listed => by cases listed⟩

variable {sanitizer : Sanitizer}

theorem unreserved_behind {start : String}
    (apart : ∀ word ∈ sanitizer.keywords ++ sanitizer.macros, ¬ start.toList <+: word.toList)
    (name : String) : ¬ sanitizer.isReserved (start ++ name) := by
  intro reserved
  have listed : start ++ name ∈ sanitizer.keywords ++ sanitizer.macros := by
    simpa [isReserved] using reserved
  apply apart _ listed
  rw [String.toList_append]
  exact List.prefix_append _ _

theorem counted_safe
    (undigited : ∀ word ∈ sanitizer.keywords ++ sanitizer.macros,
      ¬ word.toList.getLast?.any Char.isDigit)
    {start : String} (identifier : IsIdentifier start) (number : Nat) :
    sanitizer.Safe (start ++ toString number) := by
  refine ⟨identifier.append (.number number), ?_⟩
  intro reserved
  exact undigited _ (by simpa [isReserved] using reserved) (counted_last start number)

theorem numbered_safe
    (undigited : ∀ word ∈ sanitizer.keywords ++ sanitizer.macros,
      ¬ word.toList.getLast?.any Char.isDigit)
    {name : String} (safe : sanitizer.Safe name) (number : Nat) :
    sanitizer.Safe (numbered name number) := by
  by_cases start : number = 0
  · rwa [numbered, if_pos start]
  · rw [numbered, if_neg start]
    exact counted_safe undigited (safe.identifier.append (by decide)) number

section Guarded

variable (guarded : sanitizer.Guarded)

include guarded

theorem Guarded.wordy : sanitizer.Wordy :=
  ⟨guarded.escape.word, fun entry listed => (guarded.kept entry listed).identifier.word⟩

theorem Guarded.escaped (name : String) : ¬ sanitizer.isReserved (sanitizer.escape ++ name) :=
  unreserved_behind guarded.apart name

theorem compute_safe (name : Option String) (style : NameCase) :
    sanitizer.Safe (sanitizer.compute name style) := by
  have replaced := replaceForeign_word guarded.wordy (name.getD "")
  have valid := withValidStart_identifier (inCase_word replaced style)
  simp only [compute]
  split
  · exact ⟨guarded.escape.append valid.word, guarded.escaped _⟩
  · next free => exact ⟨valid, free⟩

theorem identifier_safe (name : String) : sanitizer.Safe (sanitizer.identifier name) := by
  unfold identifier sanitize
  cases found : sanitizer.kept.lookup (key (some name) .asIs) with
  | none => exact compute_safe guarded (some name) .asIs
  | some answer =>
    exact guarded.kept (key (some name) .asIs, answer) (mem_of_lookup found)

theorem accessorName_safe {start : String} (identifier : IsIdentifier start)
    (apart : ∀ word ∈ sanitizer.keywords ++ sanitizer.macros, ¬ start.toList <+: word.toList)
    (name : String) : sanitizer.Safe (sanitizer.accessorName start name) := by
  constructor
  · refine identifier.append ?_
    split
    · decide
    · exact pascal_word (replaceForeign_word guarded.wordy name)
  · exact unreserved_behind apart _

theorem keep_guarded (name : Option String) (style : NameCase) :
    (sanitizer.keep name style).Guarded := by
  simp only [keep]
  split
  · exact guarded
  · -- Keeping an answer changes neither the reserved words nor the escape.
    refine ⟨guarded.escape, guarded.apart, ?_⟩
    intro entry member
    rcases List.mem_cons.mp member with rfl | earlier
    · exact ⟨(compute_safe guarded name style).identifier, (compute_safe guarded name style).free⟩
    · exact ⟨(guarded.kept entry earlier).identifier, (guarded.kept entry earlier).free⟩

theorem askAll_guarded (questions : List (Option String × NameCase)) :
    (sanitizer.askAll questions).Guarded := by
  unfold askAll
  induction questions generalizing sanitizer with
  | nil => exact guarded
  | cons question rest ih => exact ih (keep_guarded guarded question.1 question.2)

end Guarded

end Sanitizer

end ProxyHeaders.Names
