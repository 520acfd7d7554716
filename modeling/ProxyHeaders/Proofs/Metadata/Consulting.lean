import ProxyHeaders.Proofs.Metadata.Remembering

/-!
A book consulted. Someone who answers as the book does, and keeps a record of the questions, reads
a signature like the book itself, up to the first question that the book has no answer to.
-/
namespace ProxyHeaders.Metadata

variable {α : Type}

/-- Someone who answers without a state of his own, and keeps a record. -/
abbrev recorder (answer : Call → TypeRef) : Resolver (List Call × Unit) :=
  recording fun call => pure (answer call)

theorem recorded_shallow (answer : Call → TypeRef) (blob : List UInt8) :
    valueOf ((Reader.typeAt (recorder answer) (blob.length + 1)).run blob ([], ())) ≠
      .error .tooDeep := by
  let pairing : Pairing (List Call × Unit) (List Call × Unit) :=
    { together := Eq, faults := (· ≠ .tooDeep), signature := by intro fault; simp }
  have alike (level : Nat) : AnswersAlike pairing (recorder answer) level (recorder answer) level :=
    fun _ _ _ => ⟨fun _ _ stops => stops, fun _ _ same => same ▸ .ok rfl⟩
  have compared := (typeAt_enough (blob.length + 1) fun level _ => alike level).results
    { rest := blob, outer := ([], ()) } { rest := blob, outer := ([], ()) }
    ⟨rfl, rfl, Nat.lt_succ_self _, rfl⟩
  unfold Reader.run
  revert compared
  generalize Reader.typeAt (recorder answer) (blob.length + 1) _ = recorded
  intro compared
  cases compared with
  | ok states => simp [valueOf]
  | error known states => exact fun deep => known (Except.error.inj deep)
  | stopped stops => exact stops.elim
  | excused excuse => exact excuse.elim

namespace Book

variable {book : Book}

theorem outcomeAt_more {levels more : Nat} (fewer : levels ≤ more) {call : Call}
    (shallow : book.outcomeAt levels call ≠ .error .tooDeep) :
    book.outcomeAt more call = book.outcomeAt levels call :=
  ((outcomeAt_fewer fewer call).resolve_right shallow).symm

theorem outcomeAt_unique {levels more : Nat} {call : Call}
    (shallow : book.outcomeAt levels call ≠ .error .tooDeep)
    (also : book.outcomeAt more call ≠ .error .tooDeep) :
    book.outcomeAt more call = book.outcomeAt levels call := by
  obtain fewer | fewer := Nat.le_total levels more
  · exact outcomeAt_more fewer shallow
  · exact (outcomeAt_more fewer also).symm

/-- Resolving a type has an outcome when levels are never short. -/
def Ends (book : Book) (call : Call) : Prop :=
  ∃ levels, book.outcomeAt levels call ≠ .error .tooDeep

theorem exists_enough (book : Book) (calls : List Call) :
    ∃ most, ∀ call ∈ calls, book.Ends call → book.outcomeAt most call ≠ .error .tooDeep := by
  induction calls with
  | nil => exact ⟨0, by simp⟩
  | cons call rest ih =>
    obtain ⟨most, enough⟩ := ih
    by_cases ends : book.Ends call
    · obtain ⟨levels, here⟩ := ends
      refine ⟨max levels most, fun other member ends => ?_⟩
      obtain rfl | later := List.mem_cons.mp member
      · rwa [outcomeAt_more (Nat.le_max_left _ _) here]
      · have there := enough other later ends
        rwa [outcomeAt_more (Nat.le_max_right _ _) there]
    · refine ⟨most, fun other member ends' => ?_⟩
      obtain rfl | later := List.mem_cons.mp member
      · exact (ends ends').elim
      · exact enough other later ends'

/-- Answers that are those of the book, where it has any. -/
def Agrees (book : Book) (answer : Call → TypeRef) : Prop :=
  ∀ call levels ref, book.outcomeAt levels call = .ok ref → answer call = ref

theorem exists_agrees (book : Book) : ∃ answer, book.Agrees answer := by
  have each (call : Call) :
      ∃ answer, ∀ levels ref, book.outcomeAt levels call = .ok ref → answer = ref := by
    by_cases found : ∃ levels ref, book.outcomeAt levels call = .ok ref
    · obtain ⟨levels, answer, found⟩ := found
      refine ⟨answer, fun more ref again => ?_⟩
      have same := outcomeAt_unique (by rw [found]; simp) (by rw [again]; simp)
      rw [found, again] at same
      exact (Except.ok.inj same).symm
    · exact ⟨default, fun levels ref other => (found ⟨levels, ref, other⟩).elim⟩
  choose answer agrees using each
  exact ⟨answer, agrees⟩

theorem outcomeAt_typeSpec (levels : Nat) (index : Int) (hint : Category) :
    book.outcomeAt levels ⟨.typeSpec, index, hint⟩ = (do
      let blob ← Tables.row book.tables.typeSpecs "TypeSpec" index
      outcomeOf (typeSignature (book.resolveWithin levels) (levels - mentionDepth) blob)) := by
  unfold outcomeAt
  simp only [resolveWithin]
  cases Tables.row book.tables.typeSpecs "TypeSpec" index <;> rfl

theorem outcomeAt_typeDef (levels : Nat) (index : Int) (hint : Category) :
    book.outcomeAt levels ⟨.typeDef, index, hint⟩ = book.typeDefAt index :=
  (typeDefRef_settles index).outcome

theorem outcomeAt_typeRef (levels : Nat) (index : Int) (hint : Category) :
    book.outcomeAt levels ⟨.typeRef, index, hint⟩ = book.typeRefAt index hint :=
  (typeRefRef_settles index hint).outcome

/-! The record beside the book -/

/-- With levels in a range, the book has an answer to a question. -/
def Knows (book : Book) (least most : Nat) (call : Call) : Prop :=
  ∃ levels ref, least ≤ levels ∧ levels < most ∧ book.outcomeAt levels call = .ok ref

/-- With levels in a range, the book fails at a question. -/
def FailsAt (book : Book) (least most : Nat) (call : Call) (fault : Fault) : Prop :=
  ∃ levels, least ≤ levels ∧ levels < most ∧ book.outcomeAt levels call = .error fault

/-- The fault that the book ends with at the first question it has no answer to. -/
def Stumbles (book : Book) (least most : Nat) (calls : List Call) (fault : Fault) : Prop :=
  ∃ before call after, calls = before ++ call :: after ∧
    (∀ earlier ∈ before, book.Knows least most earlier) ∧ book.FailsAt least most call fault

theorem Stumbles.append {least most : Nat} {calls : List Call} {fault : Fault}
    (stumbles : book.Stumbles least most calls fault) (more : List Call) :
    book.Stumbles least most (calls ++ more) fault := by
  obtain ⟨before, call, after, rfl, known, fails⟩ := stumbles
  exact ⟨before, call, after ++ more, by simp, known, fails⟩

def consulting (book : Book) (least most : Nat) (late : Prop) :
    Pairing (List Call × Unit) Memory where
  together record memory :=
    book.Faithful memory ∧ ∀ call ∈ record.1, book.Knows least most call
  stops record fault := late ∧ fault = .tooDeep ∨ book.Stumbles least most record.1 fault
  excuses fault := fault = .tooDeep

variable {answer : Call → TypeRef} {least most hops : Nat} {late : Prop}

theorem consulting_alike (agrees : book.Agrees answer) (fits : most ≤ hops) {level otherLevel : Nat}
    (above : least ≤ otherLevel) (below : otherLevel < most) :
    AnswersAlike (book.consulting least most late) (recorder answer) level
      (book.resolveWithin hops) otherLevel := by
  intro table index hint
  refine ⟨?_, ?_⟩
  · rintro ⟨calls, _⟩ fault stops
    exact stops.imp_right (·.append [⟨table, index, hint⟩])
  · rintro ⟨calls, _⟩ memory ⟨faithful, known⟩
    obtain ⟨later, kept, same⟩ := resolveWithin_settles (Nat.lt_of_lt_of_le below fits)
      ⟨table, index, hint⟩ memory faithful
    simp only at same
    rw [same]
    cases found : book.outcomeAt otherLevel ⟨table, index, hint⟩ with
    | ok ref =>
      have right := agrees _ _ _ found
      subst right
      refine .ok ⟨kept, fun call member => ?_⟩
      obtain earlier | here := List.mem_append.mp member
      · exact known call earlier
      · rw [List.mem_singleton.mp here]
        exact ⟨otherLevel, _, above, below, found⟩
    | error fault =>
      exact .stopped (.inr ⟨calls, ⟨table, index, hint⟩, [], rfl, known,
        otherLevel, above, below, found⟩)

theorem consulting_types (agrees : book.Agrees answer) (levels : Nat) (fits : most ≤ hops) :
    Follows ((book.consulting (most - levels) most (most < levels)).scan fun _ => True)
      (Reader.typeAt (recorder answer) levels) (Reader.typeAt (book.resolveWithin hops) most) := by
  have late (behind : levels - most ≠ 0) (state : List Call × Unit) :
      (book.consulting (most - levels) most (most < levels)).stops state .tooDeep :=
    .inl ⟨by omega, rfl⟩
  refine typeAt_paced (fun _ _ => trivial) trivial (most - levels) (levels - most)
    (fun _ => rfl) late _ _ (by omega) ?_ ?_
  · rintro level _ table index hint ⟨calls, _⟩ fault stops
    exact stops.imp_right (·.append [⟨table, index, hint⟩])
  · intro level otherLevel lower paced
    exact consulting_alike agrees fits (by omega) (by omega)

theorem consulted {read : Reader (List Call × Unit) α} {other : Reader Memory α}
    (follows : Follows ((book.consulting least most late).scan fun _ => True) read other)
    (blob : List UInt8) (shallow : valueOf (read.run blob ([], ())) ≠ .error .tooDeep) :
    (outcomeOf (other.run blob) = valueOf (read.run blob ([], ())) ∧
        ∀ call ∈ (lastState (read.run blob ([], ()))).1, book.Knows least most call) ∨
      (late ∧ outcomeOf (other.run blob) = .error .tooDeep) ∨
      ∃ fault, outcomeOf (other.run blob) = .error fault ∧
        book.Stumbles least most (lastState (read.run blob ([], ()))).1 fault := by
  have compared := (run_follows follows blob).results ([], ()) {} ⟨fresh_faithful, by simp⟩
  unfold outcomeOf
  revert compared shallow
  generalize read.run blob ([], ()) = recorded
  generalize other.run blob {} = mine
  intro shallow compared
  cases compared with
  | ok states => exact .inl ⟨rfl, states.2⟩
  | error known states => exact .inl ⟨rfl, states.2⟩
  | stopped stops =>
    obtain ⟨late, rfl⟩ | stumbles := stops
    · exact .inr (.inl ⟨late, rfl⟩)
    · exact .inr (.inr ⟨_, rfl, stumbles⟩)
  | excused excuse => exact (shallow (by rw [excuse]; rfl)).elim

end Book

end ProxyHeaders.Metadata
