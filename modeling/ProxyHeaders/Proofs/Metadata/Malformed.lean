import Mathlib.Order.Nat
import ProxyHeaders.Proofs.Metadata.Reading
import ProxyHeaders.Proofs.Metadata.SideBySide

/-!
Malformed blobs. With someone who knows every type, a reader ends with a result, with a fault of
the signature's own, or without levels left. It stays inside the blob, and what it has read does
not depend on the bytes behind. That it may run out of levels is exact: every blob needs so many,
at most one more than it has bytes, and blobs exist that need as many as one likes.
-/
namespace ProxyHeaders.Metadata

variable {σ α β : Type}

/-- A resolver that always answers, at any depth, from a state of its own. -/
def answering (answer : Call → StateM σ TypeRef) : Resolver σ :=
  fun _ table row hint outer =>
    let answered := (answer ⟨table, row, hint⟩).run outer
    .ok answered.1 answered.2

namespace Scan

/-- From one place in a blob to a later one, by at least so many bytes. -/
def Advances (least : Nat) (scan after : Scan σ) : Prop :=
  ∃ taken, least ≤ taken.length ∧ scan.rest = taken ++ after.rest ∧
    after.offset = scan.offset + taken.length

def followedBy (scan : Scan σ) (more : List UInt8) : Scan σ :=
  { scan with rest := scan.rest ++ more }

theorem Advances.refl (scan : Scan σ) : scan.Advances 0 scan :=
  ⟨[], Nat.le_refl 0, rfl, rfl⟩

theorem Advances.trans {least more : Nat} {scan middle after : Scan σ}
    (start : scan.Advances least middle) (finish : middle.Advances more after) :
    scan.Advances (least + more) after := by
  obtain ⟨first, long, split, moved⟩ := start
  obtain ⟨second, longer, split', moved'⟩ := finish
  refine ⟨first ++ second, ?_, ?_, ?_⟩
  · rw [List.length_append]
    exact Nat.add_le_add long longer
  · rw [split, split', List.append_assoc]
  · rw [moved', moved, List.length_append, Nat.add_assoc]

theorem Advances.weaken {least fewer : Nat} {scan after : Scan σ} (fewer_le : fewer ≤ least)
    (advances : scan.Advances least after) : scan.Advances fewer after := by
  obtain ⟨taken, long, whole⟩ := advances
  exact ⟨taken, Nat.le_trans fewer_le long, whole⟩

theorem Advances.length_le {least : Nat} {scan after : Scan σ}
    (advances : scan.Advances least after) :
    after.rest.length + least ≤ scan.rest.length := by
  obtain ⟨taken, long, split, _⟩ := advances
  rw [split, List.length_append]
  omega

end Scan

/-- What ends a reader that has all its questions answered: the blob, or a lack of levels, which
takes as many bytes as there were levels. -/
def Blamed (levels : Nat) (scan : Scan σ) (fault : Fault) : Prop :=
  (∃ own, fault = .signature own) ∨ fault = .tooDeep ∧ levels ≤ scan.rest.length

/-- A reader that stays inside the blob, takes at least so many bytes for a value, and does not
look behind them. -/
structure Careful (levels least : Nat) (read : Reader σ α) : Prop where
  advances : ∀ {scan value after}, read scan = .ok value after → scan.Advances least after
  extends_to : ∀ {scan value after}, read scan = .ok value after →
    ∀ more, read (scan.followedBy more) = .ok value (after.followedBy more)
  stops : ∀ {scan fault after}, read scan = .error fault after → scan.Advances 0 after
  blames : ∀ {scan fault after}, read scan = .error fault after → Blamed levels scan fault

namespace Careful

variable {levels least : Nat} {read : Reader σ α}

theorem weaken {fewer : Nat} (careful : Careful levels least read) (fewer_le : fewer ≤ least) :
    Careful levels fewer read :=
  { careful with advances := fun ends => (careful.advances ends).weaken fewer_le }

theorem pure (value : α) : Careful (σ := σ) levels 0 (pure value) where
  advances := by
    rintro scan _ _ ⟨⟩
    exact .refl scan
  extends_to := by
    rintro scan _ _ ⟨⟩ more
    rfl
  stops := nofun
  blames := nofun

theorem fail (fault : SignatureFault) : Careful (σ := σ) (α := α) levels least (.fail fault) where
  advances := nofun
  extends_to := nofun
  stops := by
    rintro scan _ _ ⟨⟩
    exact .refl scan
  blames := by
    rintro scan _ _ ⟨⟩
    exact .inl ⟨fault, rfl⟩

theorem bind_deeper {inner later : Nat} {next : α → Reader σ β}
    (first : Careful levels least read) (rest : ∀ value, Careful inner later (next value))
    (lower : levels ≤ inner + least) : Careful levels (least + later) (read >>= next) := by
  constructor
  · intro scan value after ends
    simp only [Bind.bind, EStateM.bind] at ends
    split at ends
    next given middle reached =>
      exact (first.advances reached).trans ((rest given).advances ends)
    next => cases ends
  · -- More bytes behind the signature change neither half of a reading that ended.
    intro scan value after ends more
    simp only [Bind.bind, EStateM.bind] at ends ⊢
    split at ends
    next given middle reached =>
      rw [first.extends_to reached more]
      exact (rest given).extends_to ends more
    next => cases ends
  · intro scan fault after ends
    simp only [Bind.bind, EStateM.bind] at ends
    split at ends
    next given middle reached =>
      exact ((first.advances reached).trans ((rest given).stops ends)).weaken (Nat.zero_le _)
    next own last reached =>
      cases ends
      exact first.stops reached
  · intro scan fault after ends
    simp only [Bind.bind, EStateM.bind] at ends
    split at ends
    next given middle reached =>
      obtain own | ⟨deep, long⟩ := (rest given).blames ends
      · exact .inl own
      · have shorter := (first.advances reached).length_le
        exact .inr ⟨deep, by omega⟩
    next own last reached =>
      cases ends
      exact first.blames reached

theorem bind {later : Nat} {next : α → Reader σ β} (first : Careful levels least read)
    (rest : ∀ value, Careful levels later (next value)) :
    Careful levels (least + later) (read >>= next) :=
  first.bind_deeper rest (Nat.le_add_right levels least)

theorem before {next : α → Reader σ β} (first : Careful levels least read)
    (rest : ∀ value, Careful levels 0 (next value)) : Careful levels least (read >>= next) :=
  first.bind rest

theorem anyway (careful : Careful levels least read) : Careful levels 0 read :=
  careful.weaken (Nat.zero_le least)

theorem map (make : α → β) (careful : Careful levels least read) :
    Careful levels least (do return make (← read)) :=
  careful.before fun value => .pure (make value)

theorem byte : Careful (σ := σ) levels 1 Reader.byte := by
  constructor
  all_goals rintro ⟨rest, offset, outer⟩
  all_goals cases rest
  case advances.cons first rest =>
    rintro _ _ ⟨⟩
    exact ⟨[first], Nat.le_refl 1, rfl, rfl⟩
  case extends_to.cons first rest =>
    rintro _ _ ⟨⟩ more
    rfl
  case stops.nil =>
    rintro _ _ ⟨⟩
    exact .refl _
  case blames.nil =>
    rintro _ _ ⟨⟩
    exact .inl ⟨_, rfl⟩
  all_goals nofun

theorem compressed : Careful (σ := σ) levels 1 Reader.compressed := by
  refine byte.before fun first => ?_
  split
  · exact .pure _
  split
  · exact byte.anyway.before fun second => .pure _
  split
  · exact byte.anyway.before fun second => byte.anyway.before fun third =>
      byte.anyway.before fun fourth => .pure _
  · exact .fail _

theorem number : Careful (σ := σ) levels 1 Reader.number := compressed.map Prod.fst

theorem signedNumber : Careful (σ := σ) levels 1 Reader.signedNumber :=
  compressed.before fun _ => .pure _

theorem times (careful : Careful levels least read) (count : Nat) :
    Careful levels (count * least) (Reader.times count read) := by
  induction count with
  | zero =>
    rw [Nat.zero_mul]
    exact .pure []
  | succ count ih =>
    rw [Nat.succ_mul, Nat.add_comm]
    exact careful.bind fun first => ih.before fun rest => .pure (first :: rest)

theorem skip (passed : UInt8) : Careful (σ := σ) levels 0 (Reader.skip passed) := by
  have split (rest : List UInt8) : rest.takeWhile (· == passed) ++ rest.dropWhile (· == passed) =
      rest := List.takeWhile_append_dropWhile
  constructor
  all_goals rintro ⟨rest, offset, outer⟩ _ _ ends
  all_goals simp only [Reader.skip] at ends
  all_goals split at ends
  all_goals cases ends
  case advances => exact ⟨_, Nat.zero_le _, (split rest).symm, rfl⟩
  case stops => exact ⟨_, Nat.zero_le _, (split rest).symm, rfl⟩
  case blames => exact .inl ⟨_, rfl⟩
  case extends_to stays =>
    intro more
    -- The byte that the reader stops at is in the blob, so it stops there again.
    have kept : (rest ++ more).dropWhile (· == passed) = rest.dropWhile (· == passed) ++ more := by
      rw [List.dropWhile_append, if_neg stays]
    have taken : (rest ++ more).takeWhile (· == passed) = rest.takeWhile (· == passed) := by
      have whole :
          (rest ++ more).takeWhile (· == passed) ++ (rest ++ more).dropWhile (· == passed) =
            rest.takeWhile (· == passed) ++ (rest ++ more).dropWhile (· == passed) := by
        rw [split, kept, ← List.append_assoc, split]
      exact List.append_cancel_right whole
    have remains : ¬ (rest.dropWhile (· == passed) ++ more).isEmpty := by
      intro empty
      exact stays (List.isEmpty_iff.mpr (List.append_eq_nil_iff.mp (List.isEmpty_iff.mp empty)).1)
    simp only [Reader.skip, Scan.followedBy, kept, taken, if_neg remains]

theorem shape : Careful (σ := σ) levels 0 Reader.shape := by
  refine number.anyway.before fun rank => number.anyway.before fun sizes => ?_
  refine (number.times sizes).anyway.before fun _ => number.anyway.before fun bounds => ?_
  exact (signedNumber.times bounds).anyway.before fun _ => .pure rank

theorem parameter {type : Reader σ α} (types : Careful levels 1 type) :
    Careful levels 1 (do Reader.skip sentinel; type) :=
  (skip sentinel).bind fun _ => types

theorem methodOf {type : Reader σ TypeRef} (types : Careful levels 1 type) :
    Careful levels 1 (Reader.methodOf type) := by
  refine byte.before fun head => ?_
  have rest (generics : Nat) := number.anyway.before fun count =>
    types.anyway.before fun returnType => (types.parameter.times count).anyway.before
      fun parameters => Careful.pure ({
        hasThis := head / 0x20 % 2 == 1, returnType, parameters
        genericCount := generics } : MethodSignature)
  by_cases generic : head / 0x10 % 2 = 1
  · simp only [generic, if_true]
    exact number.anyway.before rest
  · simp only [generic, if_false]
    exact (Careful.pure 0).before rest

theorem heading (kind : Nat) (fault : Nat → SignatureFault) :
    Careful (σ := σ) levels 1 (Reader.heading kind fault) := by
  refine byte.before fun head => ?_
  split
  · exact .pure head
  · exact .fail _

/-! Types, with someone who knows them all -/

variable (answer : Call → StateM σ TypeRef)

theorem token (level : Nat) (hint : Category) :
    Careful levels 1 (Reader.token (answering answer) level hint) := by
  refine number.before fun encoded => ?_
  split
  · constructor
    · rintro scan _ _ ⟨⟩
      exact ⟨[], Nat.le_refl 0, rfl, rfl⟩
    · rintro scan _ _ ⟨⟩ more
      rfl
    · nofun
    · nofun
  · exact .fail _

theorem pastModifiers (level tries : Nat) :
    Careful levels 1 (Reader.pastModifiers (answering answer) level tries) := by
  induction tries with
  | zero => exact byte
  | succ tries ih =>
    refine byte.before fun element => ?_
    split
    · exact (token answer level .classType).anyway.before fun _ => ih.anyway
    split
    · exact ih.anyway
    · exact .pure element

end Careful

section Types

variable {answer : Call → StateM σ TypeRef}

/-- Each try takes a byte, so tries beyond the bytes that are left do not matter. -/
theorem pastModifiers_enough {level tries others : Nat} {scan : Scan σ}
    (enough : scan.rest.length ≤ tries) (also : scan.rest.length ≤ others) :
    Reader.pastModifiers (answering answer) level tries scan =
      Reader.pastModifiers (answering answer) level others scan := by
  induction tries generalizing scan others with
  | zero =>
    obtain ⟨rest, offset, outer⟩ := scan
    obtain rfl : rest = [] := List.length_eq_zero_iff.mp (Nat.le_zero.mp enough)
    cases others <;> rfl
  | succ tries ih =>
    obtain ⟨rest, offset, outer⟩ := scan
    cases rest with
    | nil => cases others <;> rfl
    | cons first rest =>
      obtain ⟨others, rfl⟩ := Nat.exists_eq_succ_of_ne_zero (Nat.ne_zero_of_lt also)
      have fewer : rest.length ≤ tries := Nat.le_of_succ_le_succ enough
      have fewer' : rest.length ≤ others := Nat.le_of_succ_le_succ also
      change pastElement _ level tries first.toNat ⟨rest, offset + 1, outer⟩ =
        pastElement _ level others first.toNat ⟨rest, offset + 1, outer⟩
      unfold pastElement
      split
      · simp only [bind, EStateM.bind]
        split
        next given later reached =>
          have shorter : later.rest.length + 1 ≤ rest.length :=
            ((Careful.token answer level _ : Careful 0 1 _).advances reached).length_le
          exact ih (by omega) (by omega)
        next => rfl
      split
      · exact ih fewer fewer'
      · rfl

theorem elementByte_careful (levels level : Nat) :
    Careful levels 1 (Reader.elementByte (answering answer) level) := by
  have all (tries : Nat) :
      Careful levels 1 (Reader.pastModifiers (answering answer) level tries) :=
    .pastModifiers answer level tries
  refine ⟨(all _).advances, ?_, (all _).stops, (all _).blames⟩
  intro scan value after ends more
  have longer : scan.rest.length ≤ (scan.followedBy more).rest.length := by
    rw [Scan.followedBy, List.length_append]
    exact Nat.le_add_right _ _
  have same : Reader.elementByte (answering answer) level scan = _ :=
    pastModifiers_enough (Nat.le_refl _) longer
  rw [same] at ends
  exact (all _).extends_to ends more

theorem typeFrom_careful {levels level : Nat} {type : Reader σ TypeRef}
    (types : Careful levels 1 type) (first : Nat) :
    Careful levels 0 (Reader.typeFrom (answering answer) level type first) := by
  unfold Reader.typeFrom
  split
  · exact .fail _
  · exact .pure _
  · exact (types.map byrefTo).anyway
  · exact (types.map pointerTo).anyway
  · exact (Careful.token answer level .structType).anyway
  · exact (Careful.token answer level .classType).anyway
  · exact (Careful.number.map (parameterNamed "!")).anyway
  · exact (Careful.number.map (parameterNamed "!!")).anyway
  · exact (types.map (arrayOf · 1)).anyway
  · exact types.anyway.before fun element => Careful.shape.map (arrayOf element)
  · refine Careful.byte.anyway.before fun kind => ?_
    refine (Careful.token answer level _).anyway.before fun definition => ?_
    refine Careful.number.anyway.before fun count => ?_
    exact ((types.times count).map (instanceOf definition)).anyway
  · exact types.methodOf.anyway.before fun _ => .pure addressType

/-- A type takes a byte at every level that it takes. -/
theorem typeAt_careful (levels : Nat) :
    Careful levels 1 (Reader.typeAt (answering answer) levels) := by
  induction levels with
  | zero =>
    refine ⟨nofun, nofun, ?_, ?_⟩
    · rintro scan _ _ ⟨⟩
      exact .refl scan
    · rintro scan _ _ ⟨⟩
      exact .inr ⟨rfl, Nat.zero_le _⟩
  | succ levels ih =>
    exact (elementByte_careful (levels + 1) levels).bind_deeper (typeFrom_careful ih)
      (Nat.le_refl _)

theorem fieldAt_careful (levels : Nat) :
    Careful levels 1 (Reader.fieldAt (answering answer) levels) :=
  (Careful.heading 0x06 .notField).before fun _ => (typeAt_careful levels).anyway

theorem methodAt_careful (levels : Nat) :
    Careful levels 1 (Reader.methodAt (answering answer) levels) :=
  (typeAt_careful levels).methodOf

theorem propertyAt_careful (levels : Nat) :
    Careful levels 1 (Reader.propertyAt (answering answer) levels) := by
  have types : Careful levels 1 (Reader.typeAt (answering answer) levels) := typeAt_careful levels
  refine (Careful.heading 0x08 .notProperty).before fun head => ?_
  refine Careful.number.anyway.before fun count => types.anyway.before fun type => ?_
  exact (types.times count).anyway.before fun parameters => .pure _

end Types

/-! Whole blobs -/

def Scan.start (blob : List UInt8) (outer : σ) : Scan σ := { rest := blob, outer }

/-- What a reader of blobs, given how many levels it has left, owes to every blob. -/
structure FailsCleanly (read : Nat → Reader σ α) : Prop where
  /-- Either the signature is at fault, or the levels were too few. -/
  blames : ∀ levels blob outer fault after, read levels (.start blob outer) = .error fault after →
    (∃ own, fault = .signature own) ∨ fault = .tooDeep
  /-- Wherever it ends, it is in the blob. -/
  inside : ∀ levels blob outer,
    let last := lastState (read levels (.start blob outer))
    last.offset ≤ blob.length ∧ last.rest = blob.drop last.offset
  /-- A value does not depend on what follows. -/
  extends_to : ∀ levels blob outer value after,
    read levels (.start blob outer) = .ok value after →
      ∀ more, read levels (.start (blob ++ more) outer) = .ok value (after.followedBy more)
  /-- A blob needs so many levels, at most one more than it has bytes. With fewer they run out;
  beyond them, they make no difference. -/
  depth : ∀ blob outer, ∃ needed ≤ blob.length + 1, ∀ levels,
    (valueOf (read levels (.start blob outer)) = .error .tooDeep ↔ levels < needed) ∧
    (needed ≤ levels → read levels (.start blob outer) = read needed (.start blob outer))

/-- A reader that can be repeated at will: a number of repetitions that is larger than the number
of bytes ends where any other such number does. -/
structure StopsInTime (read : Reader σ α) : Prop where
  takes : ∀ scan value after, read scan = .ok value after → scan.Advances 1 after
  runsOut : ∀ scan, ∃ fault after, ∀ count, scan.rest.length < count →
    Reader.times count read scan = .error fault after

theorem Careful.stopsInTime {levels : Nat} {read : Reader σ α} (careful : Careful levels 1 read) :
    StopsInTime read := by
  refine ⟨fun _ _ _ => careful.advances, fun scan => ?_⟩
  -- By induction on the bytes that are left, one of which is gone after every round.
  induction left : scan.rest.length using Nat.strong_induction_on generalizing scan with
  | _ length ih =>
    cases first : read scan with
    | error fault after =>
      refine ⟨fault, after, fun count more => ?_⟩
      obtain ⟨count, rfl⟩ := Nat.exists_eq_succ_of_ne_zero (Nat.ne_zero_of_lt more)
      simp only [Reader.times, Bind.bind, EStateM.bind, first]
    | ok value middle =>
      have fewer : middle.rest.length + 1 ≤ scan.rest.length := (careful.advances first).length_le
      obtain ⟨fault, after, ends⟩ := ih middle.rest.length (by omega) middle rfl
      refine ⟨fault, after, fun count more => ?_⟩
      obtain ⟨count, rfl⟩ := Nat.exists_eq_succ_of_ne_zero (Nat.ne_zero_of_lt more)
      simp only [Reader.times, Bind.bind, EStateM.bind, first, ends count (by omega)]

section Levels

variable {answer : Call → StateM σ TypeRef}

/-- Two readers of one blob that do the same unless the first runs out of levels. -/
def patient : Pairing σ σ := { together := Eq, excuses := (· = .tooDeep) }

/-- A reader for which more levels make no difference once it has enough. -/
def Paced (read : Nat → Reader σ α) : Prop :=
  ∀ levels more, Follows (patient.scan fun _ => True) (read levels) (read (levels + more))

theorem typeAt_patient : Paced (Reader.typeAt (answering answer)) := by
  intro levels more
  have kept {first : EStateM Fault σ TypeRef} : patient.Keeps first := fun _ _ stops => stops
  refine typeAt_paced (fun _ _ => trivial) trivial more 0 (fun _ => rfl)
    (fun never => absurd rfl never) levels (levels + more) rfl (fun _ _ _ _ _ => kept)
    fun level otherLevel _ _ table index hint => ⟨kept, ?_⟩
  rintro outer _ rfl
  exact .ok rfl

theorem patient_eq {room : Nat → Prop} {state other : Scan σ}
    (states : (patient.scan room).together state other) : other = state := by
  obtain ⟨rest, offset, outer⟩ := state
  obtain ⟨_, _, _⟩ := other
  obtain ⟨rfl, rfl, _, rfl⟩ := states
  rfl

theorem Paced.same {read : Nat → Reader σ α} (paced : Paced read) {levels other : Nat}
    (fewer : levels ≤ other) {scan : Scan σ}
    (enough : valueOf (read levels scan) ≠ .error .tooDeep) :
    read other scan = read levels scan := by
  obtain ⟨more, rfl⟩ := Nat.exists_eq_add_of_le fewer
  have compared := (paced levels more).results scan scan ⟨rfl, rfl, trivial, rfl⟩
  revert compared enough
  generalize read levels scan = result
  generalize read (levels + more) scan = result'
  intro enough compared
  cases compared with
  | ok states => rw [patient_eq states]
  | error known states => rw [patient_eq states]
  | stopped stops => exact stops.elim
  | excused excuse => exact (enough (excuse ▸ rfl)).elim

theorem Careful.enough {levels least : Nat} {read : Reader σ α}
    (careful : Careful levels least read) {scan : Scan σ} (more : scan.rest.length < levels) :
    valueOf (read scan) ≠ .error .tooDeep := by
  intro deep
  cases ended : read scan with
  | ok value after => simp [ended, valueOf] at deep
  | error fault after =>
    obtain ⟨own, rfl⟩ | ⟨_, long⟩ := careful.blames ended
    · simp [ended, valueOf] at deep
    · omega

theorem failsCleanly {least : Nat} {read : Nat → Reader σ α}
    (careful : ∀ levels, Careful levels least (read levels)) (paced : Paced read) :
    FailsCleanly read where
  blames levels blob outer fault after ended :=
    ((careful levels).blames ended).imp_right And.left
  inside levels blob outer := by
    have advances : (Scan.start blob outer).Advances 0
        (lastState (read levels (.start blob outer))) := by
      cases ended : read levels (.start blob outer) with
      | ok value after => exact ((careful levels).advances ended).weaken (Nat.zero_le _)
      | error fault after => exact (careful levels).stops ended
    generalize lastState (read levels (.start blob outer)) = last at advances ⊢
    obtain ⟨taken, _, split, moved⟩ := advances
    obtain rfl : blob = taken ++ last.rest := split
    have passed : last.offset = taken.length := moved.trans (Nat.zero_add taken.length)
    refine ⟨?_, ?_⟩
    · rw [passed, List.length_append]
      exact Nat.le_add_right _ _
    · rw [passed, List.drop_left]
  extends_to levels blob outer value after ended := (careful levels).extends_to ended
  depth blob outer := by
    classical
    have some : ∃ levels, valueOf (read levels (.start blob outer)) ≠ .error .tooDeep :=
      ⟨blob.length + 1, (careful (blob.length + 1)).enough (Nat.lt_succ_self _)⟩
    refine ⟨Nat.find some, Nat.find_min' some ((careful _).enough (Nat.lt_succ_self _)), ?_⟩
    intro levels
    refine ⟨⟨fun deep => ?_, fun fewer => not_not.mp (Nat.find_min some fewer)⟩, fun enough =>
      paced.same enough (Nat.find_spec some)⟩
    by_contra enough
    rw [paced.same (Nat.le_of_not_lt enough) (Nat.find_spec some)] at deep
    exact Nat.find_spec some deep

/-! Vectors of vectors: each takes a byte and a level. -/

theorem vectors_passed {resolve : Resolver σ} {levels offset : Nat} {outer : σ} {fault : Fault}
    {after : Scan σ} (height : Nat)
    (ended : Reader.typeAt resolve levels ⟨[], offset + height, outer⟩ = .error fault after) :
    Reader.typeAt resolve (levels + height) ⟨List.replicate height 0x1d, offset, outer⟩ =
      .error fault after := by
  induction height generalizing offset with
  | zero => exact ended
  | succ height ih =>
    rw [show offset + (height + 1) = offset + 1 + height by omega] at ended
    have inside := ih ended
    have opened : Reader.elementByte resolve (levels + height)
        ⟨0x1d :: List.replicate height 0x1d, offset, outer⟩ =
          .ok 0x1d ⟨List.replicate height 0x1d, offset + 1, outer⟩ := rfl
    have begins : elementOf 0x1d = some .vector := rfl
    rw [← Nat.add_assoc, List.replicate_succ]
    simp [Reader.typeAt, bind, EStateM.bind, opened, Reader.typeFrom, begins, inside]

theorem vectors_levels (answer : Call → StateM σ TypeRef) (levels : Nat) (outer : σ) :
    let vectors := Scan.start (List.replicate levels 0x1d) outer
    valueOf (Reader.typeAt (answering answer) levels vectors) = .error .tooDeep ∧
      valueOf (Reader.typeAt (answering answer) (levels + 1) vectors) =
        .error (.signature (.truncated levels)) := by
  have spent : Reader.typeAt (answering answer) 0 ⟨[], 0 + levels, outer⟩ = .error .tooDeep _ := rfl
  have torn : Reader.typeAt (answering answer) 1 ⟨[], 0 + levels, outer⟩ =
    .error (.signature (.truncated (0 + levels))) _ := rfl
  have deep := vectors_passed levels spent
  have short := vectors_passed levels torn
  rw [Nat.zero_add] at deep
  rw [Nat.add_comm 1, Nat.zero_add] at short
  exact ⟨congrArg valueOf deep, congrArg valueOf short⟩

end Levels

/-- With someone who answers every question, signatures of any bytes fail only by a fault of their
own or by a lack of levels, inside their blobs. No loop goes on beyond the bytes, and no result
depends on more of them. Levels are enough if they are more than the bytes, and need to be for
vectors of vectors. -/
theorem malformed_signatures_fail_cleanly (answer : Call → StateM σ TypeRef) :
    FailsCleanly (Reader.typeAt (answering answer)) ∧
    FailsCleanly (Reader.fieldAt (answering answer)) ∧
    FailsCleanly (Reader.methodAt (answering answer)) ∧
    FailsCleanly (Reader.propertyAt (answering answer)) ∧
    (∀ levels, StopsInTime (Reader.typeAt (answering answer) levels) ∧
      StopsInTime (do Reader.skip sentinel; Reader.typeAt (answering answer) levels)) ∧
    StopsInTime (σ := σ) Reader.number ∧ StopsInTime (σ := σ) Reader.signedNumber ∧
    ∀ levels outer,
      let vectors := Scan.start (List.replicate levels 0x1d) outer
      valueOf (Reader.typeAt (answering answer) levels vectors) = .error .tooDeep ∧
        valueOf (Reader.typeAt (answering answer) (levels + 1) vectors) =
          .error (.signature (.truncated levels)) := by
  have types : Paced (Reader.typeAt (answering answer)) := typeAt_patient
  refine ⟨failsCleanly typeAt_careful types,
    failsCleanly fieldAt_careful fun levels more => fieldAt_follows (types levels more),
    failsCleanly methodAt_careful fun levels more => methodAt_follows (types levels more),
    failsCleanly propertyAt_careful fun levels more => propertyAt_follows (types levels more),
    fun levels => ⟨?_, ?_⟩, ?_, ?_, vectors_levels answer⟩
  · exact (typeAt_careful levels).stopsInTime
  · exact (typeAt_careful levels).parameter.stopsInTime
  · exact (Careful.number : Careful 0 1 _).stopsInTime
  · exact (Careful.signedNumber : Careful 0 1 _).stopsInTime

/-- Vectors inside one another, cut off behind the last; there are not enough levels for them. -/
theorem deep_vectors_unread :
    valueOf (Reader.typeAt (answering fun _ => (pure addressType : StateM Unit TypeRef)) 980
      (.start (List.replicate 6000 0x1d) ())) = .error .tooDeep := by
  obtain ⟨types, _, _, _, _, _, _, vectors⟩ :=
    malformed_signatures_fail_cleanly fun _ => (pure addressType : StateM Unit TypeRef)
  obtain ⟨needed, _, depth⟩ := types.depth (List.replicate 6000 0x1d) ()
  have long : 6000 < needed := (depth 6000).1.mp (vectors 6000 ()).1
  exact (depth 980).1.mpr (Nat.lt_trans (by decide : 980 < 6000) long)

end ProxyHeaders.Metadata
