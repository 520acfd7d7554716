import Mathlib.Data.Fintype.Card
import Mathlib.Logic.Relation
import Mathlib.Order.Interval.Finset.Defs
import Mathlib.Data.Int.Interval
import ProxyHeaders.Proofs.Metadata.Consulting

/-!
Circles of constructed types. A signature may mention constructed types, whose signatures mention
others; resolving a type ends unless these lead back to where they were, since then every signature
lies deeper than the one that mentions it.
-/
namespace ProxyHeaders.Metadata

open Relation (ReflTransGen TransGen)

/-- Where every step stays among finitely many places, some place is met again. -/
theorem exists_circle {α : Type} {step : α → α → Prop} {places : Set α} (finite : places.Finite)
    (goes : ∀ place ∈ places, ∃ next ∈ places, step place next) {start : α}
    (inside : start ∈ places) :
    ∃ place, ReflTransGen step start place ∧ TransGen step place place := by
  by_contra straight
  simp only [not_exists, not_and] at straight
  let Reached := { place // place ∈ places ∧ ReflTransGen step start place }
  have : Finite Reached := (finite.subset fun _ both => both.1).to_subtype
  let further : Reached → Reached → Prop := fun next place => TransGen step place.1 next.1
  have : IsTrans Reached further := ⟨fun _ _ _ later earlier => earlier.trans later⟩
  have : Std.Irrefl further := ⟨fun place => straight place.1 place.2.2⟩
  obtain ⟨last, _, none⟩ := (Finite.wellFounded_of_trans_of_irrefl further).has_min Set.univ
    ⟨⟨start, inside, .refl⟩, trivial⟩
  obtain ⟨next, stays, moves⟩ := goes last.1 last.2.1
  exact none ⟨next, stays, last.2.2.tail moves⟩ trivial (.single moves)

/-- The questions in a type's signature, put to someone who has an answer to each. -/
def questions (answer : Call → TypeRef) (blob : List UInt8) : List Call :=
  (lastState ((Reader.typeAt (recorder answer) (blob.length + 1)).run blob ([], ()))).1

namespace Book

variable {book : Book}

/-- Reading a constructed type leads to another: it is asked for, after questions that have
answers. -/
def Leads (book : Book) (index next : Int) : Prop :=
  ∃ blob answer before hint after,
    Tables.row book.tables.typeSpecs "TypeSpec" index = .ok blob ∧ book.Agrees answer ∧
    questions answer blob = before ++ ⟨.typeSpec, next, hint⟩ :: after ∧
    ∀ call ∈ before, ∃ levels ref, book.outcomeAt levels call = .ok ref

/-- A constructed type that leads, directly or through others, into a circle. -/
def Circles (book : Book) (index : Int) : Prop :=
  ∃ place, ReflTransGen book.Leads index place ∧ TransGen book.Leads place place

theorem outcomeAt_hint (levels : Nat) (index : Int) (hint other : Category) :
    book.outcomeAt levels ⟨.typeSpec, index, hint⟩ =
      book.outcomeAt levels ⟨.typeSpec, index, other⟩ := by
  rw [outcomeAt_typeSpec, outcomeAt_typeSpec]

/-- Reading a constructed type goes up to the first question without an answer, if levels last. -/
theorem outcomeAt_consulted {answer : Call → TypeRef} (agrees : book.Agrees answer) {index : Int}
    {blob : List UInt8} (found : Tables.row book.tables.typeSpecs "TypeSpec" index = .ok blob)
    (levels : Nat) (hint : Category) :
    (book.outcomeAt levels ⟨.typeSpec, index, hint⟩ ≠ .error .tooDeep ∧
        ∀ call ∈ questions answer blob, book.Knows (levels - mentionDepth - (blob.length + 1))
          (levels - mentionDepth) call) ∨
      (levels - mentionDepth < blob.length + 1 ∧
        book.outcomeAt levels ⟨.typeSpec, index, hint⟩ = .error .tooDeep) ∨
      ∃ fault, book.outcomeAt levels ⟨.typeSpec, index, hint⟩ = .error fault ∧
        book.Stumbles (levels - mentionDepth - (blob.length + 1)) (levels - mentionDepth)
          (questions answer blob) fault := by
  have shallow := recorded_shallow answer blob
  have unfolded : book.outcomeAt levels ⟨.typeSpec, index, hint⟩ = outcomeOf
      ((Reader.typeAt (book.resolveWithin levels) (levels - mentionDepth)).run blob) := by
    rw [outcomeAt_typeSpec, found]
    rfl
  have compared := consulted
    (consulting_types agrees (blob.length + 1) (Nat.sub_le levels mentionDepth)) blob shallow
  rw [← unfolded] at compared
  obtain ⟨same, known⟩ | rest := compared
  · exact .inl ⟨by rwa [same], known⟩
  · exact .inr rest

theorem row_of_endless {index : Int} {hint : Category}
    (endless : ¬ book.Ends ⟨.typeSpec, index, hint⟩) :
    ∃ blob, Tables.row book.tables.typeSpecs "TypeSpec" index = .ok blob := by
  cases found : Tables.row book.tables.typeSpecs "TypeSpec" index with
  | ok blob => exact ⟨blob, rfl⟩
  | error fault =>
    refine (endless ⟨0, ?_⟩).elim
    rw [outcomeAt_typeSpec, found, Tables.row_fault found]
    simp [bind, Except.bind]

theorem leads_deeper {index next : Int} {hint : Category} (leads : book.Leads index next)
    {levels : Nat} (ends : book.outcomeAt levels ⟨.typeSpec, index, hint⟩ ≠ .error .tooDeep) :
    ∃ fewer < levels, book.outcomeAt fewer ⟨.typeSpec, next, hint⟩ ≠ .error .tooDeep := by
  obtain ⟨blob, answer, before, asks, after, found, agrees, asked, answered⟩ := leads
  have from_known {least : Nat}
      (known : book.Knows least (levels - mentionDepth) ⟨.typeSpec, next, asks⟩) :
      ∃ fewer < levels, book.outcomeAt fewer ⟨.typeSpec, next, hint⟩ ≠ .error .tooDeep := by
    obtain ⟨fewer, ref, _, below, known⟩ := known
    exact ⟨fewer, by omega, by rw [outcomeAt_hint fewer next hint asks, known]; simp⟩
  have from_fault {least : Nat} {fault : Fault} (other : fault ≠ .tooDeep)
      (fails : book.FailsAt least (levels - mentionDepth) ⟨.typeSpec, next, asks⟩ fault) :
      ∃ fewer < levels, book.outcomeAt fewer ⟨.typeSpec, next, hint⟩ ≠ .error .tooDeep := by
    obtain ⟨fewer, _, below, fails⟩ := fails
    exact ⟨fewer, by omega, by rw [outcomeAt_hint fewer next hint asks, fails]; simpa using other⟩
  obtain ⟨_, known⟩ | ⟨_, deep⟩ | ⟨fault, failed, start, call, rest, also, known, fails⟩ :=
    outcomeAt_consulted agrees found levels hint
  · exact from_known (known _ (by rw [asked]; simp))
  · exact (ends deep).elim
  · have other : fault ≠ .tooDeep := fun deep => ends (by rw [failed, deep])
    -- The book stumbles over the question, or later; never earlier, where it has answers.
    obtain ⟨between, rfl, split⟩ | ⟨between, rfl, split⟩ :=
      List.append_eq_append_iff.mp (asked.symm.trans also)
    · cases between with
      | nil =>
        obtain ⟨rfl, _⟩ := List.cons_eq_cons.mp split
        exact from_fault other fails
      | cons first between =>
        obtain ⟨rfl, _⟩ := List.cons_eq_cons.mp split
        exact from_known (known _ (by simp))
    · cases between with
      | nil =>
        obtain ⟨rfl, _⟩ := List.cons_eq_cons.mp split
        exact from_fault other fails
      | cons first between =>
        obtain ⟨rfl, _⟩ := List.cons_eq_cons.mp split
        obtain ⟨enough, ref, found⟩ := answered call (by simp)
        obtain ⟨fewer, _, _, fails⟩ := fails
        have same := outcomeAt_unique (by rw [found]; simp) (by rw [fails]; simpa using other)
        rw [found, fails] at same
        cases same

theorem circle_deeper {index next : Int} {hint : Category}
    (leads : TransGen book.Leads index next) {levels : Nat}
    (ends : book.outcomeAt levels ⟨.typeSpec, index, hint⟩ ≠ .error .tooDeep) :
    ∃ fewer < levels, book.outcomeAt fewer ⟨.typeSpec, next, hint⟩ ≠ .error .tooDeep := by
  induction leads with
  | single leads => exact leads_deeper leads ends
  | tail _ leads ih =>
    obtain ⟨fewer, below, ends⟩ := ih
    obtain ⟨least, further, ends⟩ := leads_deeper leads ends
    exact ⟨least, further.trans below, ends⟩

theorem circle_deep {place : Int} (circle : TransGen book.Leads place place) (hint : Category)
    (levels : Nat) : book.outcomeAt levels ⟨.typeSpec, place, hint⟩ = .error .tooDeep := by
  induction levels using Nat.strong_induction_on with
  | _ levels ih =>
    by_contra ends
    obtain ⟨fewer, below, ends⟩ := circle_deeper circle ends
    exact ends (ih fewer below)

theorem circles_deep {index : Int} (circles : book.Circles index) (hint : Category)
    (levels : Nat) : book.outcomeAt levels ⟨.typeSpec, index, hint⟩ = .error .tooDeep := by
  obtain ⟨place, reached, circle⟩ := circles
  by_contra ends
  obtain rfl | leads := Relation.reflTransGen_iff_eq_or_transGen.mp reached
  · exact ends (circle_deep circle hint levels)
  · obtain ⟨fewer, _, ends⟩ := circle_deeper leads ends
    exact ends (circle_deep circle hint fewer)

theorem exists_outcome {call : Call} (ends : book.Ends call) :
    ∃ outcome, outcome ≠ .error .tooDeep ∧
      (∀ levels, book.outcomeAt levels call = outcome ∨
        book.outcomeAt levels call = .error .tooDeep) ∧
      ∃ enough, ∀ levels, enough ≤ levels → book.outcomeAt levels call = outcome := by
  obtain ⟨enough, ends⟩ := ends
  refine ⟨book.outcomeAt enough call, ends, fun levels => ?_, enough, fun levels more =>
    outcomeAt_more more ends⟩
  obtain more | fewer := Nat.le_total enough levels
  · exact .inl (outcomeAt_more more ends)
  · exact outcomeAt_fewer fewer call

/-! Types that derive from a constructed type -/

theorem readTypes_of_circles {spec : Int} (circles : book.Circles spec) {index : Int}
    {row : TypeDefRow} (listed : (index, row) ∈ book.listed)
    (base : row.base = some ⟨.typeSpec, spec⟩) {space : String}
    (settled : book.tables.spaceOf index = .ok space) :
    ∃ fault, outcomeOf book.readTypes = .error fault := by
  have deep := circles_deep circles .classType book.levels
  have endless : ¬ book.Ends ⟨.typeSpec, spec, .classType⟩ := fun ⟨levels, ends⟩ =>
    ends (circles_deep circles .classType levels)
  obtain ⟨blob, found⟩ := row_of_endless endless
  have followed : book.tables.follow row.base = .ok (some .typeSpec) := by
    rw [base]
    exact Tables.pick_of_row found book.tables.beyond fun _ => .typeSpec
  have category : ∃ category, book.categoryAt index = .ok category := by
    unfold categoryAt categoryOfRow Tables.baseName
    rw [typeDef_of_numbered (List.mem_of_mem_filter listed)]
    simp only [followed, bind, Except.bind, pure, Except.pure]
    split
    · exact ⟨_, rfl⟩
    · exact ⟨_, rfl⟩
  obtain ⟨category, named⟩ := category
  have derived : book.baseFound row = .error .tooDeep := by
    unfold baseFound
    rw [base] at followed
    simp only [base, followed, deep, bind, Except.bind]
  have unread (joins : Joins) : book.typeFound joins index row = .error .tooDeep := by
    simp [typeFound, headFound, settled, named, derived, bind, Except.bind]
  rw [readTypes_settles.outcome]
  cases joined : book.tables.joins with
  | error fault => exact ⟨fault, by simp [entries, joined, bind, Except.bind]⟩
  | ok joins => exact ⟨.tooDeep, by rw [entries_unread joined listed (unread joins)]; rfl⟩

/-! Other assemblies answer without resolving types of this one. -/

section Shallow

variable (shallow : ∀ assembly fullName, book.isEnumElsewhere assembly fullName ≠ .error .tooDeep)

include shallow

theorem raises_shallow {fault : Fault} (raises : book.Raises fault) : fault ≠ .tooDeep := by
  rintro rfl
  cases raises with
  | elsewhere failed => exact shallow _ _ failed

theorem typeSpec_of_endless {call : Call} (endless : ¬ book.Ends call) :
    call.table = .typeSpec := by
  obtain ⟨table, index, hint⟩ := call
  cases table with
  | typeSpec => rfl
  | typeDef =>
    refine (endless ⟨0, ?_⟩).elim
    rw [outcomeAt_typeDef]
    exact fun deep => raises_shallow shallow (typeDefAt_raises deep) rfl
  | typeRef =>
    refine (endless ⟨0, ?_⟩).elim
    rw [outcomeAt_typeRef]
    exact fun deep => raises_shallow shallow (typeRefAt_raises deep) rfl

theorem endless_leads {index : Int} {hint : Category}
    (endless : ¬ book.Ends ⟨.typeSpec, index, hint⟩) :
    ∃ next, ¬ book.Ends ⟨.typeSpec, next, hint⟩ ∧ book.Leads index next := by
  obtain ⟨blob, found⟩ := row_of_endless endless
  obtain ⟨answer, agrees⟩ := exists_agrees book
  obtain ⟨most, enough⟩ := exists_enough book (questions answer blob)
  have deep (levels : Nat) : book.outcomeAt levels ⟨.typeSpec, index, hint⟩ = .error .tooDeep :=
    not_not.mp fun ends => endless ⟨levels, ends⟩
  obtain ⟨ends, _⟩ | ⟨few, _⟩ | ⟨fault, failed, before, call, after, asked, known, fails⟩ :=
    outcomeAt_consulted agrees found (mentionDepth + (most + (blob.length + 1))) hint
  · exact (ends (deep _)).elim
  · omega
  · obtain rfl := Except.error.inj (failed.symm.trans (deep _))
    obtain ⟨levels, least, _, fails⟩ := fails
    -- The question is one of those that have no outcome, or levels would have been enough.
    have stuck : ¬ book.Ends call := by
      intro ends
      have here := enough call (by rw [asked]; simp) ends
      rw [outcomeAt_more (show most ≤ levels by omega) here] at fails
      exact here fails
    obtain ⟨table, next, asks⟩ := call
    obtain rfl : table = .typeSpec := typeSpec_of_endless shallow stuck
    refine ⟨next, fun ends => stuck ?_, blob, answer, before, asks, after, found, agrees, asked,
      fun earlier member => ?_⟩
    · obtain ⟨levels, ends⟩ := ends
      exact ⟨levels, by rwa [outcomeAt_hint levels next asks hint]⟩
    · obtain ⟨levels, ref, _, _, found⟩ := known earlier member
      exact ⟨levels, ref, found⟩

theorem ends_of_straight {index : Int} (straight : ¬ book.Circles index) (hint : Category) :
    book.Ends ⟨.typeSpec, index, hint⟩ := by
  by_contra endless
  let places := { place | ¬ book.Ends ⟨.typeSpec, place, hint⟩ }
  have finite : places.Finite := by
    refine (Set.finite_Icc 1 ((book.tables.typeSpecs.getD []).length : Int)).subset ?_
    intro place stuck
    obtain ⟨blob, found⟩ := row_of_endless stuck
    exact Tables.row_bounds found
  exact straight (exists_circle finite (fun place stuck => endless_leads shallow stuck) endless)

/-- Resolving a type ends with one outcome, however deep it may go, unless the type is a
constructed one that leads into a circle. Then it goes as deep as it may, and where a type derives
from it no types are read. -/
theorem resolution_ends (tag index : Int) (hint : Category) :
    (∀ fault, outcomeOf (book.resolveTag tag index hint) = .error fault →
      book.Raises fault ∨ fault = .tooDeep) ∧
    (¬ (TokenTable.ofTag tag = some .typeSpec ∧ book.Circles index) →
      ∃ outcome, outcome ≠ .error .tooDeep ∧
        (outcomeOf (book.resolveTag tag index hint) = outcome ∨
          outcomeOf (book.resolveTag tag index hint) = .error .tooDeep) ∧
        ∀ table, TokenTable.ofTag tag = some table →
          ∃ enough, ∀ levels, enough ≤ levels →
            book.outcomeAt levels ⟨table, index, hint⟩ = outcome) ∧
    (TokenTable.ofTag tag = some .typeSpec → book.Circles index →
      outcomeOf (book.resolveTag tag index hint) = .error .tooDeep ∧
      (∀ levels, book.outcomeAt levels ⟨.typeSpec, index, hint⟩ = .error .tooDeep) ∧
      ∀ place row space, (place, row) ∈ book.listed → row.base = some ⟨.typeSpec, index⟩ →
        book.tables.spaceOf place = .ok space →
        ∃ fault, outcomeOf book.readTypes = .error fault) := by
  cases found : TokenTable.ofTag tag with
  | none =>
    have unknown : outcomeOf (book.resolveTag tag index hint) =
        .error (.signature (.unknownTag tag)) := by
      unfold resolveTag
      rw [found]
      rfl
    rw [unknown]
    refine ⟨fun fault same => ?_, fun _ => ⟨_, by simp, .inl rfl, by simp⟩, by simp⟩
    exact .inl (Except.error.inj same ▸ .signature _)
  | some table =>
    have resolved : outcomeOf (book.resolveTag tag index hint) =
        book.outcomeAt book.levels ⟨table, index, hint⟩ := by
      unfold resolveTag
      rw [found]
      exact (resolve_settles ⟨table, index, hint⟩).outcome
    rw [resolved]
    refine ⟨fun fault => outcomeAt_raises, fun straight => ?_, fun same circles => ?_⟩
    · have ends : book.Ends ⟨table, index, hint⟩ := by
        -- Only a signature can lead to another, so what never ends is a signature in a circle.
        by_contra endless
        obtain rfl : table = .typeSpec := typeSpec_of_endless shallow endless
        exact endless (ends_of_straight shallow (fun circles => straight ⟨rfl, circles⟩) hint)
      obtain ⟨outcome, shallow, agree, enough⟩ := exists_outcome ends
      exact ⟨outcome, shallow, agree book.levels, fun other same => Option.some.inj same ▸ enough⟩
    · cases same
      exact ⟨circles_deep circles hint book.levels, circles_deep circles hint,
        fun place row space listed base settled => readTypes_of_circles circles listed base settled⟩

end Shallow

def loopingRow : TypeDefRow :=
  { name := "Looping", space := "Game", base := some ⟨.typeSpec, 1⟩ }

def loopingBook : Book := { tables := {
  typeDefs := some [loopingRow, { name := "Whole", space := "Game" }]
  typeSpecs := some [[0x12, 0x06]] } }

theorem looping_circles : loopingBook.Circles 1 := by
  obtain ⟨answer, agrees⟩ := exists_agrees loopingBook
  have leads : loopingBook.Leads 1 1 :=
    ⟨[0x12, 0x06], answer, [], .classType, [], rfl, agrees, rfl, by simp⟩
  exact ⟨1, .refl, .single leads⟩

theorem looping_unread :
    (∀ assembly fullName, loopingBook.isEnumElsewhere assembly fullName ≠ .error .tooDeep) ∧
      TokenTable.ofTag 2 = some .typeSpec ∧ loopingBook.Circles 1 ∧
      outcomeOf (loopingBook.resolveTag 2 1 .classType) = .error .tooDeep ∧
      ∃ fault, outcomeOf loopingBook.readTypes = .error fault := by
  have shallow (assembly : Option String) (fullName : String) :
      loopingBook.isEnumElsewhere assembly fullName ≠ .error .tooDeep := by
    simp [loopingBook]
  have ends := (resolution_ends shallow 2 1 .classType).2.2 rfl looping_circles
  exact ⟨shallow, rfl, looping_circles, ends.1, ends.2.2 1 loopingRow "Game" (by decide) rfl rfl⟩

end Book

end ProxyHeaders.Metadata
