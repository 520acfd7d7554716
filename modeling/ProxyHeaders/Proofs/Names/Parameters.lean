import ProxyHeaders.Proofs.Names.Identifiers
import ProxyHeaders.Proofs.Names.Transparency

/-!
Naming parameters. They are named one after the other: each is looked up, which the sanitizer
remembers, and gets the first number that makes it a name that is free, which is used from then on.
Told as such a run, the search of which nobody bounds, naming ends in one way only, in the names that
are given; and these are safe, since neither a position nor a number makes a word a reserved one.
-/
namespace ProxyHeaders.Names

/-! The search -/

/-- A search from a number on ends in a name. -/
inductive Finds (used : List String) (candidate : Nat → String) : Nat → String → Prop
  | free {number : Nat} (free : candidate number ∉ used) :
    Finds used candidate number (candidate number)
  | taken {number : Nat} {found : String} (taken : candidate number ∈ used)
    (later : Finds used candidate (number + 1) found) : Finds used candidate number found

namespace Finds

variable {used : List String} {candidate : Nat → String} {number : Nat} {found : String}

theorem passing {start : Nat} (free : candidate number ∉ used)
    (passed : ∀ smaller < number, candidate smaller ∈ used) (before : start ≤ number) :
    Finds used candidate start (candidate number) := by
  -- The search is run backwards, from where it ends.
  induction before using Nat.decreasingInduction with
  | self => exact .free free
  | of_succ earlier less ih => exact .taken (passed earlier less) ih

theorem unique {other : String} (finds : Finds used candidate number found)
    (also : Finds used candidate number other) : found = other := by
  induction finds with
  | free free =>
    cases also with
    | free => rfl
    | taken taken => exact absurd taken free
  | taken taken later ih =>
    cases also with
    | free free => exact absurd taken free
    | taken _ alsoLater => exact ih alsoLater

end Finds

theorem finds_iff {used : List String} {name found : String} :
    Finds used (numbered name) 0 found ↔ found = firstFree used (numbered name) := by
  obtain ⟨number, same, passed⟩ := firstFree_least used (numbered name)
  have free : firstFree used (numbered name) ∉ used := firstFree_free (numbered_injective name)
  have ends : Finds used (numbered name) 0 (firstFree used (numbered name)) := by
    rw [same] at free ⊢
    exact .passing free passed (Nat.zero_le number)
  constructor
  · intro finds
    exact finds.unique ends
  · rintro rfl
    exact ends

namespace Sanitizer

/-! The run -/

/-- A run from a sanitizer, used names and a position on names some parameters, and leaves a
sanitizer behind. -/
inductive Naming :
    Sanitizer → List String → Nat → List (Option String) → List String → Sanitizer → Prop
  | done {sanitizer : Sanitizer} {used : List String} {position : Nat} :
    Naming sanitizer used position [] [] sanitizer
  | next {sanitizer last : Sanitizer} {used : List String} {position : Nat}
    {name : Option String} {names : List (Option String)} {found : String} {given : List String}
    (finds : Finds used (numbered (sanitizer.parameterBase name position)) 0 found)
    (later : Naming (sanitizer.keepAll (statedNames [name])) (found :: used) (position + 1) names
      given last) :
    Naming sanitizer used position (name :: names) (found :: given) last

def basesFrom (sanitizer : Sanitizer) (position : Nat) (names : List (Option String)) :
    List String :=
  (names.zipIdx position).map fun (name, index) => sanitizer.parameterBase name index

theorem basesFrom_length (sanitizer : Sanitizer) (position : Nat) (names : List (Option String)) :
    (sanitizer.basesFrom position names).length = names.length := by
  rw [basesFrom, List.length_map, List.length_zipIdx]

theorem keepAll_basesFrom (sanitizer : Sanitizer) (stated : List String) (position : Nat)
    (names : List (Option String)) :
    (sanitizer.keepAll stated).basesFrom position names = sanitizer.basesFrom position names := by
  simp only [basesFrom, parameterBase, (keepAll_alike sanitizer stated).identifier]

theorem keepAll_statedNames (sanitizer : Sanitizer) (name : Option String)
    (names : List (Option String)) :
    (sanitizer.keepAll (statedNames [name])).keepAll (statedNames names) =
      sanitizer.keepAll (statedNames (name :: names)) := by
  have split : statedNames (name :: names) = statedNames [name] ++ statedNames names := by
    rw [← List.singleton_append]
    simp only [statedNames, List.filterMap_append, List.filter_append]
  rw [split, keepAll, keepAll, keepAll, List.foldl_append]

/-- A run ends, and in one way: the names are those spread, and all that is stated is remembered. -/
theorem naming_iff {sanitizer last : Sanitizer} {used given : List String} {position : Nat}
    {names : List (Option String)} :
    Naming sanitizer used position names given last ↔
      given = spread used (sanitizer.basesFrom position names) ∧
        last = sanitizer.keepAll (statedNames names) := by
  induction names generalizing sanitizer used position given with
  | nil =>
    constructor
    · rintro ⟨⟩
      exact ⟨rfl, rfl⟩
    · rintro ⟨rfl, rfl⟩
      exact .done
  | cons name names ih =>
    have bases : sanitizer.basesFrom position (name :: names) =
        sanitizer.parameterBase name position :: sanitizer.basesFrom (position + 1) names := rfl
    rw [bases, spread]
    -- The first parameter is remembered, and the others are called as they were before.
    constructor
    · rintro (_ | ⟨finds, later⟩)
      obtain ⟨rfl, rfl⟩ := ih.mp later
      rw [finds_iff.mp finds, keepAll_basesFrom, keepAll_statedNames]
      exact ⟨rfl, rfl⟩
    · rintro ⟨rfl, rfl⟩
      refine .next (finds_iff.mpr rfl) (ih.mpr ?_)
      rw [keepAll_basesFrom, keepAll_statedNames]
      exact ⟨rfl, rfl⟩

/-! Names after a history of questions -/

section Guarded

variable {sanitizer : Sanitizer} (guarded : sanitizer.Guarded)
  (undigited : ∀ word ∈ sanitizer.keywords ++ sanitizer.macros,
    ¬ word.toList.getLast?.any Char.isDigit)

include guarded undigited

theorem parameterBase_safe (history : List Question) (name : Option String) (position : Nat) :
    sanitizer.Safe ((sanitizer.forget.afterAll history).parameterBase name position) := by
  have byPosition : sanitizer.Safe ("param" ++ toString position) :=
    counted_safe undigited (by decide) position
  cases name with
  | none => exact byPosition
  | some name =>
    rw [parameterBase]
    split
    · exact byPosition
    · -- Whatever name has the entry, an answer was computed for some name.
      rw [identifier, sanitize_owner]
      exact compute_safe guarded _ .asIs

theorem parameterNames_safe (history : List Question) (names : List (Option String))
    (taken : List String) :
    ∀ name ∈ (sanitizer.forget.afterAll history).parameterNames names taken,
      sanitizer.Safe name := by
  intro given listed
  obtain ⟨base, isBase, number, rfl⟩ := mem_spread listed
  obtain ⟨⟨name, position⟩, -, rfl⟩ := List.mem_map.mp isBase
  exact numbered_safe undigited
    (parameterBase_safe guarded undigited history name position) number

end Guarded

/-- A parameter gets the first number that makes its base a name which is not taken and which no
parameter in front of it has got. -/
theorem parameterNames_entry (sanitizer : Sanitizer) (taken : List String)
    (before : List (Option String)) (name : Option String) (after : List (Option String)) :
    let base := sanitizer.parameterBase name before.length
    ∃ number, (sanitizer.parameterNames (before ++ name :: after) taken)[before.length]? =
        some (numbered base number) ∧
      ∀ smaller < number,
        numbered base smaller ∈ taken ++ sanitizer.parameterNames before taken := by
  intro base
  -- The parameters in front are called as they are alone.
  have bases : sanitizer.basesFrom 0 (before ++ name :: after) =
      sanitizer.basesFrom 0 before ++ base :: sanitizer.basesFrom (before.length + 1) after := by
    simp [basesFrom, base, List.zipIdx_append]
  have entry := spread_entry taken (sanitizer.basesFrom 0 before) base
    (sanitizer.basesFrom (before.length + 1) after)
  obtain ⟨number, found, passed⟩ := firstFree_least
    ((spread taken (sanitizer.basesFrom 0 before)).reverse ++ taken) (numbered base)
  rw [← bases, basesFrom_length, found] at entry
  refine ⟨number, entry, ?_⟩
  intro smaller less
  have used := passed smaller less
  rw [List.mem_append, List.mem_reverse] at used
  exact List.mem_append.mpr used.symm

end Sanitizer

open Sanitizer

/-- Whatever the sanitizer for headers was asked before, naming parameters ends, and in one way: with
one name for each, in their order, the first that is free among the numbered spellings of its own
name, or of its position if it is blank. All these names are different, none is taken, and all are
identifiers and no reserved words. -/
theorem parameters_named (history : List Question) (names : List (Option String))
    (taken : List String) :
    let sanitizer := forHeaders.afterAll history
    let given := sanitizer.parameterNames names taken
    (∀ found last, Naming sanitizer taken 0 names found last ↔
      found = given ∧ last = sanitizer.after (.parameters names taken)) ∧
    given.length = names.length ∧
    (∀ before name after, names = before ++ name :: after →
      let base := sanitizer.parameterBase name before.length
      ∃ number, given[before.length]? = some (numbered base number) ∧
        ∀ smaller < number,
          numbered base smaller ∈ taken ++ sanitizer.parameterNames before taken) ∧
    given.Nodup ∧ ∀ name ∈ given, name ∉ taken ∧ forHeaders.Safe name := by
  intro sanitizer given
  obtain ⟨distinct, free⟩ := spread_free taken (sanitizer.basesFrom 0 names)
  refine ⟨fun found last => naming_iff, ?_, ?_, distinct, ?_⟩
  · exact (spread_length taken (sanitizer.basesFrom 0 names)).trans (basesFrom_length ..)
  · rintro before name after rfl
    exact parameterNames_entry sanitizer taken before name after
  · intro name listed
    exact ⟨free name listed,
      parameterNames_safe guarded_forHeaders undigited_forHeaders history names taken name listed⟩

/-! A position, a repeat and a name as it stands that come by the same spellings, behind a question
for a missing name. -/

def crowdedNames : List (Option String) :=
  [some "param1", none, some "x-1", some "x 1", some "x$1_1", some "class"]

theorem crowded_parameters_named :
    let sanitizer := forHeaders.afterAll [.identifier none .asIs]
    let given := ["param1_1", "param1_2", "x$1", "x$1_1", "x$1_1_1", "$class"]
    (∃ last, Naming sanitizer ["value", "param1"] 0 crowdedNames given last) ∧
      crowdedNames = [some "param1"] ++ none :: crowdedNames.drop 2 ∧
      (∃ number, given[1]? = some (numbered "param1" number)) ∧
      given.Nodup ∧ ∀ name ∈ given, name ∉ ["value", "param1"] ∧ forHeaders.Safe name := by
  intro sanitizer given
  have computed : sanitizer.parameterNames crowdedNames ["value", "param1"] = given := by
    decide +kernel
  obtain ⟨runs, -, entries, distinct, safe⟩ :=
    parameters_named [.identifier none .asIs] crowdedNames ["value", "param1"]
  obtain ⟨number, entry, -⟩ := entries [some "param1"] none (crowdedNames.drop 2) rfl
  rw [computed] at distinct safe entry
  exact ⟨⟨_, (runs given _).mpr ⟨computed.symm, rfl⟩⟩, rfl, ⟨number, entry⟩, distinct, safe⟩

end ProxyHeaders.Names
