import Mathlib
import ProxyHeaders.Proofs.Names.Identifiers
import ProxyHeaders.Proofs.Names.Memory

/-!
The identifier of a name stays as it is: asked for it again, in the same spelling, a sanitizer
answers with it. Spelling a word twice is spelling it once, and what is put in front of it, to make
it start like an identifier or to escape it, is either dropped and put there again or left alone.
-/
namespace ProxyHeaders.Names

open ProxyHeaders.Proxy

/-! Words that are spelled are spelled already. -/

theorem upperChar_word {c : Char} (word : isWordChar c) : Text.upperChar c = [c.toUpper] := by
  have ascii : Text.isAscii c := by simpa [Text.isAscii] using wordChar_below word
  rw [Text.upperChar, if_pos ascii]

theorem lowerChar_word {c : Char} (word : isWordChar c) : Text.lowerChar c = [c.toLower] := by
  have ascii : Text.isAscii c := by simpa [Text.isAscii] using wordChar_below word
  rw [Text.lowerChar, if_pos ascii]

theorem toUpper_unmarked {c : Char} (word : isWordChar c) (unmarked : c ≠ '_') :
    c.toUpper ≠ '_' := by
  have all : ∀ code < 128, Char.ofNat code ≠ '_' → (Char.ofNat code).toUpper ≠ '_' := by decide
  simpa using all c.toNat (wordChar_below word) (by simpa using unmarked)

theorem toLower_unmarked {c : Char} (word : isWordChar c) (unmarked : c ≠ '_') :
    c.toLower ≠ '_' := by
  have all : ∀ code < 128, Char.ofNat code ≠ '_' → (Char.ofNat code).toLower ≠ '_' := by decide
  simpa using all c.toNat (wordChar_below word) (by simpa using unmarked)

theorem capitalize_unmarked {part : List Char} (word : ∀ c ∈ part, isWordChar c)
    (unmarked : '_' ∉ part) : '_' ∉ capitalize part := by
  cases part with
  | nil => exact unmarked
  | cons first rest =>
    rw [List.mem_cons, not_or] at unmarked
    rw [capitalize, upperChar_word (word first List.mem_cons_self), List.singleton_append,
      List.mem_cons, not_or]
    exact ⟨(toUpper_unmarked (word first List.mem_cons_self) (Ne.symm unmarked.1)).symm,
      unmarked.2⟩

theorem capitalize_raised {parts : List (List Char)}
    (word : ∀ part ∈ parts, ∀ c ∈ part, isWordChar c) :
    capitalize (parts.flatMap capitalize) = parts.flatMap capitalize := by
  induction parts with
  | nil => rfl
  | cons part rest ih =>
    cases part with
    | nil => exact ih fun other later => word other (List.mem_cons_of_mem _ later)
    | cons first others =>
      have firstWord := word (first :: others) List.mem_cons_self first List.mem_cons_self
      rw [List.flatMap_cons, capitalize, upperChar_word firstWord, List.singleton_append,
        List.cons_append, capitalize, upperChar_word (toUpper_word firstWord),
        Char.toUpper_toUpper_eq_toUpper]
      rfl

section Spelled

variable {name : String} (word : IsWord name)

include word

theorem pieces_word : ∀ part ∈ name.toList.splitOn '_', ∀ c ∈ part, isWordChar c :=
  fun _ found c within => word c (Text.mem_splitOn found c within).1

theorem pascal_unmarked : '_' ∉ (pascal name).toList := by
  rw [pascal, String.toList_ofList, List.mem_flatMap]
  rintro ⟨part, found, inside⟩
  refine capitalize_unmarked (pieces_word word part found) ?_ inside
  exact fun marked => (Text.mem_splitOn found '_' marked).2 rfl

theorem camel_letters : (camel name).toList = (pascal name).toList.modifyHead Char.toLower := by
  unfold camel
  cases chars : (pascal name).toList with
  | nil => rfl
  | cons first rest =>
    have raised : isWordChar first := pascal_word word first (by rw [chars]; exact List.mem_cons_self)
    simp [lowerChar_word raised]

theorem inCase_unmarked {style : NameCase} (spelled : style ≠ .asIs) :
    '_' ∉ (inCase style name).toList := by
  cases style with
  | asIs => exact absurd rfl spelled
  | pascal => exact pascal_unmarked word
  | camel =>
    have unmarked := pascal_unmarked word
    have raised := pascal_word word
    rw [inCase, camel_letters word]
    cases chars : (pascal name).toList with
    | nil => simp
    | cons first rest =>
      rw [chars, List.mem_cons, not_or] at unmarked
      have firstWord : isWordChar first := raised first (by rw [chars]; exact List.mem_cons_self)
      rw [List.modifyHead_cons, List.mem_cons, not_or]
      exact ⟨(toLower_unmarked firstWord (Ne.symm unmarked.1)).symm, unmarked.2⟩

end Spelled

theorem pascal_of_unmarked {name : String} (unmarked : '_' ∉ name.toList) :
    (pascal name).toList = capitalize name.toList := by
  rw [pascal, List.splitOn_eq_singleton unmarked]
  simp

theorem pascal_twice {name : String} (word : IsWord name) : pascal (pascal name) = pascal name := by
  rw [← String.toList_inj, pascal_of_unmarked (pascal_unmarked word), pascal, String.toList_ofList,
    capitalize_raised (pieces_word word)]

theorem camel_twice {name : String} (word : IsWord name) : camel (camel name) = camel name := by
  have unmarked := inCase_unmarked word (by decide : NameCase.camel ≠ .asIs)
  rw [inCase] at unmarked
  have lowered : ∀ c ∈ (camel name).toList, isWordChar c := camel_word word
  rw [← String.toList_inj, camel_letters (camel_word word), pascal_of_unmarked unmarked]
  rw [camel_letters word] at lowered ⊢
  cases chars : (pascal name).toList with
  | nil => rfl
  | cons first rest =>
    rw [chars, List.modifyHead_cons] at lowered
    rw [List.modifyHead_cons, capitalize, upperChar_word (lowered _ List.mem_cons_self)]
    simp

theorem inCase_twice {name : String} (word : IsWord name) (style : NameCase) :
    inCase style (inCase style name) = inCase style name := by
  cases style with
  | asIs => rfl
  | pascal => simp only [inCase, pascal_twice word]
  | camel => simp only [inCase, camel_twice word]

/-! What is put in front of a word. -/

theorem wordStart_noDigit {c : Char} (start : isWordStart c) : ¬ Text.isDigit c := by
  have word : isWordChar c := by
    simp only [isWordStart, isWordChar, Char.isAlphanum, Bool.or_eq_true] at start ⊢
    tauto
  have all : ∀ code < 128,
      isWordStart (Char.ofNat code) → ¬ Text.isDigit (Char.ofNat code) := by decide
  simpa using all c.toNat (wordChar_below word) (by simpa using start)

theorem IsIdentifier.validStart {name : String} (identifier : IsIdentifier name) :
    withValidStart name = name := by
  obtain ⟨first, isFirst, start⟩ := (Option.any_eq_true _ _).mp identifier.start
  obtain ⟨rest, chars⟩ := List.head?_eq_some_iff.mp isFirst
  simp only [withValidStart, chars]
  exact if_neg (wordStart_noDigit start)

theorem withValidStart_either (name : String) :
    withValidStart name = name ∨ withValidStart name = "_" ++ name := by
  unfold withValidStart
  split
  · next empty =>
    right
    rw [String.toList_eq_nil_iff.mp empty]
    rfl
  · split
    · exact .inr rfl
    · exact .inl rfl

theorem inCase_behind_underscore {style : NameCase} (spelled : style ≠ .asIs) (name : String) :
    inCase style ("_" ++ name) = inCase style name := by
  have dropped : pascal ("_" ++ name) = pascal name := by
    rw [pascal, String.toList_append]
    rfl
  cases style with
  | asIs => exact absurd rfl spelled
  | pascal => exact dropped
  | camel => simp only [inCase, camel, dropped]

theorem validStart_twice {name : String} (word : IsWord name) (style : NameCase) :
    withValidStart (inCase style (withValidStart (inCase style name))) =
      withValidStart (inCase style name) := by
  by_cases own : style = .asIs
  · subst own
    exact (withValidStart_identifier word).validStart
  · rcases withValidStart_either (inCase style name) with valid | behind
    · rw [valid, inCase_twice word, valid]
    · rw [behind, inCase_behind_underscore own, inCase_twice word, behind]

theorem inCase_escaped {style : NameCase} {name : String}
    (unmarked : style ≠ .asIs → '_' ∉ name.toList) :
    inCase style (escapeMark ++ name) = escapeMark ++ name := by
  have single : escapeMark.toList = ['$'] := rfl
  have kept (spelled : style ≠ .asIs) : pascal (escapeMark ++ name) = escapeMark ++ name := by
    have behind : '_' ∉ (escapeMark ++ name).toList := by
      simpa [single] using unmarked spelled
    rw [← String.toList_inj, pascal_of_unmarked behind, String.toList_append, single]
    rfl
  cases style with
  | asIs => rfl
  | pascal => exact kept (by decide)
  | camel =>
    rw [inCase, camel, kept (by decide), ← String.toList_inj, String.toList_append, single]
    simp [Text.lowerChar, Text.isAscii]

namespace Sanitizer

/-- A guarded sanitizer that escapes by the usual mark and reserves no word that starts with an
underscore. -/
structure Steady (sanitizer : Sanitizer) : Prop extends sanitizer.Guarded where
  marked : sanitizer.escape = escapeMark
  plain : ∀ word ∈ sanitizer.keywords ++ sanitizer.macros, ¬ "_".toList <+: word.toList

theorem steady_forHeaders : forHeaders.Steady :=
  ⟨guarded_forHeaders, rfl, by decide +kernel⟩

theorem compute_free (sanitizer : Sanitizer) {name answer : String} (word : IsWord name)
    {style : NameCase} (valid : withValidStart (inCase style name) = answer)
    (free : ¬ sanitizer.isReserved answer) : sanitizer.compute (some name) style = answer := by
  simp only [compute, Option.getD_some, replaceForeign_of_word sanitizer word, valid]
  exact if_neg free

variable {sanitizer : Sanitizer} (steady : sanitizer.Steady)

include steady

theorem escaped_steady {name : String} (word : IsWord name) {style : NameCase}
    (reserved : sanitizer.isReserved (withValidStart (inCase style name))) :
    withValidStart (inCase style (sanitizer.escape ++ withValidStart (inCase style name))) =
      sanitizer.escape ++ withValidStart (inCase style name) := by
  -- What gets an underscore is not reserved, so the name has come without one.
  have valid : withValidStart (inCase style name) = inCase style name := by
    refine (withValidStart_either (inCase style name)).resolve_right ?_
    intro behind
    rw [behind] at reserved
    exact unreserved_behind steady.plain _ reserved
  have unmarked (spelled : style ≠ .asIs) : '_' ∉ (inCase style name).toList :=
    inCase_unmarked word spelled
  have identifier : IsIdentifier (sanitizer.escape ++ inCase style name) :=
    steady.escape.append (inCase_word word style)
  rw [valid, steady.marked, inCase_escaped unmarked, ← steady.marked]
  exact identifier.validStart

theorem compute_twice (name : Option String) (style : NameCase) :
    sanitizer.compute (some (sanitizer.compute name style)) style =
      sanitizer.compute name style := by
  have safe := compute_safe steady.toGuarded name style
  have word := replaceForeign_word steady.toGuarded.wordy (name.getD "")
  have valid : withValidStart (inCase style (sanitizer.compute name style)) =
      sanitizer.compute name style := by
    simp only [compute]
    split
    · next reserved => exact escaped_steady steady word reserved
    · exact validStart_twice word style
  exact compute_free sanitizer safe.identifier.word valid safe.free

end Sanitizer

open Sanitizer

theorem forHeaders_faithful : forHeaders.Faithful := forget_faithful forHeaders

/-- Whatever names the sanitizer for headers was asked before, for every name and in every spelling
it answers with an identifier that is no reserved word, and for that identifier, whatever it is
asked in between, with the same again; accessors are identifiers and no reserved words either. -/
theorem answers_safe_and_steady {history : List Question}
    (named : ∀ question ∈ history, question.IsNamed) (name : String) (style : NameCase) :
    let sanitizer := forHeaders.afterAll history
    let answer := sanitizer.sanitize (some name) style
    forHeaders.Safe answer ∧
      (∀ later : List Question, (∀ question ∈ later, question.IsNamed) →
        (forHeaders.afterAll (history ++ .identifier (some name) style :: later)).sanitize
          (some answer) style = answer) ∧
      ∀ start ∈ ["Get", "Set"], forHeaders.Safe (sanitizer.accessorName start name) := by
  intro sanitizer answer
  have computed : answer = forHeaders.compute (some name) style :=
    afterAll_sanitize forHeaders_faithful named name style
  refine ⟨?_, ?_, ?_⟩
  · rw [computed]
    exact compute_safe guarded_forHeaders (some name) style
  · intro later namedLater
    have namedAll : ∀ question ∈ history ++ .identifier (some name) style :: later,
        question.IsNamed := by
      rw [List.forall_mem_append, List.forall_mem_cons]
      exact ⟨named, trivial, namedLater⟩
    rw [afterAll_sanitize forHeaders_faithful namedAll, computed]
    exact compute_twice steady_forHeaders (some name) style
  · intro start listed
    rw [(afterAll_faithful forHeaders_faithful named).2.accessorName]
    have identifier : ∀ start ∈ ["Get", "Set"], IsIdentifier start := by decide
    have apart : ∀ start ∈ ["Get", "Set"],
        ∀ word ∈ forHeaders.keywords ++ forHeaders.macros, ¬ start.toList <+: word.toList := by
      decide +kernel
    exact accessorName_safe guarded_forHeaders (identifier start listed) (apart start listed) name

/-! A keyword that comes from another spelling, asked for behind other questions. -/

def classHistory : List Question :=
  [.identifier (some "1_class") .pascal, .parameters [none, some "class"] ["value"], .forgetting,
    .identifier (some "class") .camel]

theorem class_steady :
    (∀ question ∈ classHistory, question.IsNamed) ∧
      (forHeaders.afterAll classHistory).sanitize (some "Class") .camel = "$class" ∧
      forHeaders.Safe "$class" ∧
      (forHeaders.afterAll (classHistory ++ [.identifier (some "Class") .camel])).sanitize
        (some "$class") .camel = "$class" ∧
      forHeaders.Safe ((forHeaders.afterAll classHistory).accessorName "Set" "class_1") := by
  have named : ∀ question ∈ classHistory, question.IsNamed := by decide
  have answer : (forHeaders.afterAll classHistory).sanitize (some "Class") .camel = "$class" := by
    decide +kernel
  obtain ⟨safe, steady, -⟩ := answers_safe_and_steady named "Class" .camel
  rw [answer] at safe steady
  refine ⟨named, answer, safe, steady [] (by simp), ?_⟩
  exact (answers_safe_and_steady named "class_1" .asIs).2.2 "Set" (by simp)

end ProxyHeaders.Names
