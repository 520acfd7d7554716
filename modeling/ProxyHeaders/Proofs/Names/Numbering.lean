import Mathlib.Data.List.Nodup
import Mathlib.Data.List.Perm.Subperm
import ProxyHeaders.Names.Unique

/-!
The search for a free name succeeds: it tries one candidate more than there are taken names, so if
no two candidates are the same one of them is free. Names that are spread are therefore different
from each other and from all taken ones, whatever they are made of.

Of names made distinct one after the other, every entry gets the least number that makes it a name
that no entry in front of it has got. An entry that is the first of its name gets number 0, the name
as it is, unless a repeat of another name has come by it; the search does not look ahead for such
names.
-/
namespace ProxyHeaders.Names

theorem freeFrom_taken {taken : List String} {candidate : Nat → String} {tries index : Nat}
    (failed : freeFrom taken candidate tries index ∈ taken) :
    ∀ offset ≤ tries, candidate (index + offset) ∈ taken := by
  induction tries generalizing index with
  | zero =>
    intro offset bound
    rw [Nat.le_zero.mp bound]
    exact failed
  | succ tries ih =>
    by_cases used : candidate index ∈ taken
    · simp only [freeFrom, List.contains_iff_mem, used, if_true] at failed
      intro offset bound
      cases offset with
      | zero => exact used
      | succ offset =>
        have later := ih failed offset (Nat.le_of_succ_le_succ bound)
        rwa [Nat.add_right_comm, Nat.add_assoc] at later
    · simp only [freeFrom, List.contains_iff_mem, used, if_false] at failed

theorem freeFrom_first (taken : List String) (candidate : Nat → String) (tries index : Nat) :
    ∃ offset, freeFrom taken candidate tries index = candidate (index + offset) ∧
      ∀ smaller < offset, candidate (index + smaller) ∈ taken := by
  induction tries generalizing index with
  | zero => exact ⟨0, rfl, by simp⟩
  | succ tries ih =>
    by_cases used : candidate index ∈ taken
    · obtain ⟨offset, found, passed⟩ := ih (index + 1)
      rw [Nat.add_right_comm, Nat.add_assoc] at found
      refine ⟨offset + 1, ?_, ?_⟩
      · simpa only [freeFrom, List.contains_iff_mem, used, if_true] using found
      · intro smaller bound
        cases smaller with
        | zero => exact used
        | succ smaller =>
          have earlier := passed smaller (Nat.lt_of_succ_lt_succ bound)
          rwa [Nat.add_right_comm, Nat.add_assoc] at earlier
    · exact ⟨0, by simp [freeFrom, used], by simp⟩

theorem firstFree_least (taken : List String) (candidate : Nat → String) :
    ∃ number, firstFree taken candidate = candidate number ∧
      ∀ smaller < number, candidate smaller ∈ taken := by
  unfold firstFree
  simpa only [Nat.zero_add] using freeFrom_first taken candidate taken.length 0

theorem firstFree_free {taken : List String} {candidate : Nat → String}
    (different : Function.Injective candidate) : firstFree taken candidate ∉ taken := by
  intro failed
  have all := freeFrom_taken failed
  have tried : ((List.range (taken.length + 1)).map candidate).Nodup :=
    List.nodup_range.map different
  have inside : (List.range (taken.length + 1)).map candidate ⊆ taken := by
    intro name listed
    obtain ⟨offset, bound, rfl⟩ := List.mem_map.mp listed
    have found := all offset (Nat.le_of_lt_succ (List.mem_range.mp bound))
    rwa [Nat.zero_add] at found
  have fits := (List.Nodup.subperm tried inside).length_le
  rw [List.length_map, List.length_range] at fits
  omega

theorem numbered_injective (name : String) : Function.Injective (numbered name) := by
  have longer (index : Nat) : (name ++ "_" ++ toString index).length ≠ name.length := by
    have mark : "_".length = 1 := rfl
    rw [String.length_append, String.length_append]
    omega
  intro first second same
  unfold numbered at same
  by_cases start : first = 0
  · by_cases other : second = 0
    · rw [start, other]
    · rw [if_pos start, if_neg other] at same
      exact absurd (congrArg String.length same).symm (longer second)
  · by_cases other : second = 0
    · rw [if_neg start, if_pos other] at same
      exact absurd (congrArg String.length same) (longer first)
    · rw [if_neg start, if_neg other, String.append_right_inj] at same
      -- A number is read back from its digits.
      have digits : Nat.toDigits 10 first = Nat.toDigits 10 second := by
        simpa using congrArg String.toList same
      rw [← Nat.ofDigitChars_ten_toDigits (n := first), digits, Nat.ofDigitChars_ten_toDigits]

theorem lengthened_injective (name : String) :
    Function.Injective fun count => name ++ String.ofList (List.replicate count '_') := by
  intro first second same
  have lengths := congrArg String.length same
  simpa using lengths

theorem mem_spread {taken names : List String} {given : String}
    (member : given ∈ spread taken names) :
    ∃ name ∈ names, ∃ number, given = numbered name number := by
  induction names generalizing taken with
  | nil => cases member
  | cons name rest ih =>
    rcases List.mem_cons.mp member with rfl | later
    · obtain ⟨number, found, -⟩ := firstFree_least taken (numbered name)
      exact ⟨name, List.mem_cons_self, number, found⟩
    · obtain ⟨base, listed, number, same⟩ := ih later
      exact ⟨base, List.mem_cons_of_mem name listed, number, same⟩

theorem spread_free (taken names : List String) :
    (spread taken names).Nodup ∧ ∀ name ∈ spread taken names, name ∉ taken := by
  induction names generalizing taken with
  | nil => exact ⟨List.nodup_nil, fun _ listed => by cases listed⟩
  | cons name rest ih =>
    obtain ⟨distinct, free⟩ := ih (firstFree taken (numbered name) :: taken)
    have new : firstFree taken (numbered name) ∉ taken := firstFree_free (numbered_injective name)
    constructor
    · refine List.nodup_cons.mpr ⟨?_, distinct⟩
      exact fun repeated => free _ repeated List.mem_cons_self
    · intro other listed
      rcases List.mem_cons.mp listed with rfl | later
      · exact new
      · exact fun used => free other later (List.mem_cons_of_mem _ used)

/-! Names that do not end in a digit stay different, whatever numbers they get. -/

theorem number_ends (number : Nat) : (toString number).toList.getLast?.any Char.isDigit := by
  have some : Nat.toDigits 10 number ≠ [] := List.ne_nil_of_length_pos Nat.length_toDigits_pos
  have last : ((Nat.toDigits 10 number).getLast some).isDigit :=
    Nat.isDigit_of_mem_toDigits (by decide) (by decide) (List.getLast_mem some)
  simpa [List.getLast?_eq_some_getLast some] using last

theorem counted_last (start : String) (number : Nat) :
    (start ++ toString number).toList.getLast?.any Char.isDigit := by
  obtain ⟨digit, isLast, isDigit⟩ := (Option.any_eq_true _ _).mp (number_ends number)
  rw [String.toList_append, List.getLast?_append, isLast]
  exact isDigit

theorem numbered_last {name : String} {number : Nat} (numbers : number ≠ 0) :
    (numbered name number).toList.getLast?.any Char.isDigit := by
  rw [numbered, if_neg numbers]
  exact counted_last (name ++ "_") number

theorem numbered_stem {name : String} {number : Nat} (numbers : number ≠ 0) :
    (numbered name number).toList.reverse.dropWhile (· != '_') = '_' :: name.toList.reverse := by
  have digits : ∀ c ∈ (toString number).toList.reverse, (c != '_') = true := by
    intro c member
    have digit : c.isDigit := Nat.isDigit_of_mem_toDigits (b := 10) (n := number) (by decide)
      (by decide) (by simpa using member)
    rw [bne_iff_ne]
    rintro rfl
    cases digit
  have shape : (numbered name number).toList.reverse =
      (toString number).toList.reverse ++ '_' :: name.toList.reverse := by
    simp [numbered, numbers]
  rw [shape, List.dropWhile_append_of_pos digits]
  rfl

theorem numbered_apart {first second : String} (undigited : ¬ first.toList.getLast?.any Char.isDigit)
    (alsoUndigited : ¬ second.toList.getLast?.any Char.isDigit) (different : first ≠ second)
    (number other : Nat) : numbered first number ≠ numbered second other := by
  intro same
  by_cases zero : number = 0
  · subst zero
    by_cases alsoZero : other = 0
    · subst alsoZero
      exact different same
    · rw [numbered, if_pos rfl] at same
      rw [same] at undigited
      exact undigited (numbered_last alsoZero)
  · by_cases alsoZero : other = 0
    · subst alsoZero
      have plain : numbered second 0 = second := if_pos rfl
      rw [plain] at same
      rw [← same] at alsoUndigited
      exact alsoUndigited (numbered_last zero)
    · have stems := @numbered_stem first _ zero
      rw [same, numbered_stem alsoZero, List.cons.injEq, List.reverse_inj, String.toList_inj] at stems
      exact different stems.2.symm

theorem spread_determines {names others : List String}
    (beside : List.Forall₂ (fun name other =>
      name = other ∨ ∀ number again, numbered name number ≠ numbered other again) names others)
    {taken : List String} (same : spread taken names = spread taken others) : names = others := by
  induction beside generalizing taken with
  | nil => rfl
  | @cons name other names others apart _ ih =>
    rw [spread, spread, List.cons.injEq] at same
    obtain ⟨number, given, -⟩ := firstFree_least taken (numbered name)
    obtain ⟨again, alsoGiven, -⟩ := firstFree_least taken (numbered other)
    have equal : name = other :=
      apart.resolve_right fun never => never number again (by rw [← given, same.1, alsoGiven])
    subst equal
    rw [ih same.2]

/-! The number that an entry gets -/

/-- The number that a name gets behind others. -/
structure Gets (earlier : List String) (name : String) (number : Nat) : Prop where
  free : numbered name number ∉ distinct earlier
  least : ∀ smaller < number, numbered name smaller ∈ distinct earlier

theorem spread_length (taken names : List String) :
    (spread taken names).length = names.length := by
  induction names generalizing taken with
  | nil => rfl
  | cons name rest ih => simp only [spread, List.length_cons, ih]

theorem spread_append (taken first second : List String) :
    spread taken (first ++ second) =
      spread taken first ++ spread ((spread taken first).reverse ++ taken) second := by
  induction first generalizing taken with
  | nil => rfl
  | cons name rest ih =>
    rw [List.cons_append, spread, spread, ih, List.reverse_cons, List.append_assoc]
    rfl

theorem distinct_length (names : List String) : (distinct names).length = names.length :=
  spread_length [] names

theorem spread_append_cons (taken before : List String) (name : String) (after : List String) :
    ∃ rest, spread taken (before ++ name :: after) = spread taken before ++
      firstFree ((spread taken before).reverse ++ taken) (numbered name) :: rest := by
  rw [spread_append]
  exact ⟨_, rfl⟩

theorem spread_entry (taken before : List String) (name : String) (after : List String) :
    (spread taken (before ++ name :: after))[before.length]? =
      some (firstFree ((spread taken before).reverse ++ taken) (numbered name)) := by
  obtain ⟨rest, whole⟩ := spread_append_cons taken before name after
  have length := spread_length taken before
  rw [whole, List.getElem?_append_right (Nat.le_of_eq length), length, Nat.sub_self]
  rfl

theorem distinct_append_cons (before : List String) (name : String) (after : List String) :
    ∃ rest, distinct (before ++ name :: after) =
      distinct before ++ firstFree (distinct before).reverse (numbered name) :: rest := by
  have cut := spread_append_cons [] before name after
  rwa [List.append_nil] at cut

theorem distinct_entry (before : List String) (name : String) (after : List String) :
    (distinct (before ++ name :: after))[before.length]? =
      some (firstFree (distinct before).reverse (numbered name)) := by
  have entry := spread_entry [] before name after
  rwa [List.append_nil] at entry

namespace Gets

variable {earlier : List String} {name : String} {number : Nat}

theorem exists_number (earlier : List String) (name : String) :
    ∃ number, Gets earlier name number ∧
      firstFree (distinct earlier).reverse (numbered name) = numbered name number := by
  obtain ⟨number, found, passed⟩ := firstFree_least (distinct earlier).reverse (numbered name)
  refine ⟨number, ⟨?_, ?_⟩, found⟩
  · rw [← found, ← List.mem_reverse]
    exact firstFree_free (numbered_injective name)
  · intro smaller bound
    exact List.mem_reverse.mp (passed smaller bound)

theorem unique {other : Nat} (gets : Gets earlier name number) (also : Gets earlier name other) :
    number = other := by
  apply Nat.le_antisymm
  · exact Nat.le_of_not_lt fun less => also.free (gets.least other less)
  · exact Nat.le_of_not_lt fun less => gets.free (also.least number less)

theorem zero_iff : Gets earlier name 0 ↔ name ∉ distinct earlier := by
  constructor
  · intro gets
    exact gets.free
  · intro free
    exact ⟨free, fun smaller bound => absurd bound (Nat.not_lt_zero smaller)⟩

/-- What stands in an entry's place is the entry with its number. -/
theorem entry_iff (before : List String) (name : String) (after : List String) (number : Nat) :
    (distinct (before ++ name :: after))[before.length]? = some (numbered name number) ↔
      Gets before name number := by
  obtain ⟨own, gets, found⟩ := exists_number before name
  rw [distinct_entry, found, Option.some_inj]
  constructor
  · intro same
    rwa [← numbered_injective name same]
  · intro also
    rw [gets.unique also]

end Gets

theorem mem_distinct_iff {names : List String} {given : String} :
    given ∈ distinct names ↔ ∃ earlier other later number,
      names = earlier ++ other :: later ∧ Gets earlier other number ∧
        numbered other number = given := by
  constructor
  · intro listed
    obtain ⟨place, inside, found⟩ := List.mem_iff_getElem.mp listed
    rw [distinct_length] at inside
    obtain ⟨number, gets, -⟩ := Gets.exists_number (names.take place) names[place]
    have cut : names = names.take place ++ names[place] :: names.drop (place + 1) := by
      rw [List.getElem_cons_drop, List.take_append_drop]
    have entry := (Gets.entry_iff (names.take place) names[place] (names.drop (place + 1))
      number).mpr gets
    rw [← cut, List.length_take_of_le (Nat.le_of_lt inside),
      List.getElem?_eq_getElem (by rwa [distinct_length]), found, Option.some_inj] at entry
    exact ⟨_, _, _, number, cut, gets, entry.symm⟩
  · rintro ⟨earlier, other, later, number, rfl, gets, rfl⟩
    exact List.mem_of_getElem? ((Gets.entry_iff earlier other later number).mpr gets)

/-! Entries that are the first of their names -/

theorem distinct_replicate (name : String) (count : Nat) :
    distinct (List.replicate count name) = (List.range count).map (numbered name) := by
  induction count with
  | zero => rfl
  | succ count ih =>
    have next : Gets (List.replicate count name) name count := by
      constructor
      · rw [ih, List.mem_map]
        rintro ⟨number, inside, same⟩
        rw [numbered_injective name same, List.mem_range] at inside
        exact Nat.lt_irrefl count inside
      · intro smaller bound
        rw [ih]
        exact List.mem_map_of_mem (List.mem_range.mpr bound)
    obtain ⟨number, gets, found⟩ := Gets.exists_number (List.replicate count name) name
    obtain ⟨rest, whole⟩ := distinct_append_cons (List.replicate count name) name []
    have alone : rest = [] := by
      have lengths := congrArg List.length whole
      simp only [distinct_length, List.length_append, List.length_cons, List.length_nil,
        List.length_replicate] at lengths
      exact List.length_eq_zero_iff.mp (by omega)
    rw [List.replicate_succ', whole, alone, found, gets.unique next, ih, List.range_succ,
      List.map_append]
    rfl

/-- The first entry of a name is the name as it is if and only if no entry of another name in front
of it has come by it with its number. Any numbered name can be lost so, to a name that is repeated
as often as its number says. -/
theorem first_occurrence_kept_iff {before : List String} {name : String}
    (first : name ∉ before) (after : List String) :
    ((distinct (before ++ name :: after))[before.length]? = some name ↔
      ¬ ∃ earlier other later number, before = earlier ++ other :: later ∧ number ≠ 0 ∧
        Gets earlier other number ∧ numbered other number = name) ∧
    ∀ (other : String) (number : Nat), number ≠ 0 →
      numbered other number ∉ List.replicate (number + 1) other ∧
      (distinct (List.replicate (number + 1) other ++ [numbered other number]))[number + 1]? ≠
        some (numbered other number) := by
  have kept (before : List String) (name : String) (after : List String) :
      (distinct (before ++ name :: after))[before.length]? = some name ↔ name ∉ distinct before :=
    (Gets.entry_iff before name after 0).trans Gets.zero_iff
  constructor
  · rw [kept, mem_distinct_iff, not_iff_not]
    constructor
    · rintro ⟨earlier, other, later, number, rfl, gets, rfl⟩
      refine ⟨earlier, other, later, number, rfl, ?_, gets, rfl⟩
      -- Number 0 would make the name one of those in front.
      rintro rfl
      exact first (List.mem_append_right earlier List.mem_cons_self)
    · rintro ⟨earlier, other, later, number, cut, -, gets, same⟩
      exact ⟨earlier, other, later, number, cut, gets, same⟩
  · intro other number repeated
    constructor
    · intro listed
      exact repeated (numbered_injective other (List.eq_of_mem_replicate listed))
    · have lost := (kept (List.replicate (number + 1) other) (numbered other number) []).not
      rw [List.length_replicate, not_not, distinct_replicate] at lost
      apply lost.mpr
      exact List.mem_map_of_mem (List.mem_range.mpr (Nat.lt_succ_self number))

/-- The second `A` has become the `A_1` that comes behind it. -/
theorem numbered_name_lost :
    "A_1" ∉ ["A", "A"] ∧ distinct ["A", "A", "A_1"] = ["A", "A_1", "A_1_1"] ∧
      (distinct (["A", "A"] ++ "A_1" :: []))[["A", "A"].length]? ≠ some "A_1" := by
  have first : "A_1" ∉ ["A", "A"] := by decide
  refine ⟨first, by decide, ?_⟩
  rw [Ne, (first_occurrence_kept_iff first []).1, not_not]
  refine ⟨["A"], "A", [], 1, rfl, by decide, ⟨?_, ?_⟩, by decide⟩
  · decide
  · decide

end ProxyHeaders.Names
