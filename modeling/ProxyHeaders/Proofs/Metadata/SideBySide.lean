import Mathlib.Tactic.Common
import ProxyHeaders.Metadata.Signature

/-!
Two readers side by side. Reading a signature does not depend on who knows the types as long as the
questions are answered alike, so two readers of one blob give the same, or part at a question.
-/
namespace ProxyHeaders.Metadata

variable {σ τ α β : Type}

/-- How a computation is compared with another that has other states. -/
structure Pairing (σ τ : Type) where
  /-- The states that go together. -/
  together : σ → τ → Prop
  /-- The faults that both may end with. -/
  faults : Fault → Prop := fun _ => True
  /-- The faults that the second may stop with by itself, given a state of the first. -/
  stops : σ → Fault → Prop := fun _ _ => False
  /-- The faults of the first that leave the second free. -/
  excuses : Fault → Prop := fun _ => False
  signature : ∀ fault, faults (.signature fault) := by intro _; trivial

def lastState : EStateM.Result Fault σ α → σ
  | .ok _ state => state
  | .error _ state => state

def valueOf : EStateM.Result Fault σ α → Except Fault α
  | .ok value _ => .ok value
  | .error fault _ => .error fault

inductive Pairing.Matches (pairing : Pairing σ τ) :
    EStateM.Result Fault σ α → EStateM.Result Fault τ α → Prop
  | ok {value state other} (states : pairing.together state other) :
      Matches pairing (.ok value state) (.ok value other)
  | error {fault state other} (known : pairing.faults fault)
      (states : pairing.together state other) :
      Matches pairing (.error fault state) (.error fault other)
  | stopped {result fault other} (stops : pairing.stops (lastState result) fault) :
      Matches pairing result (.error fault other)
  | excused {fault state result} (excuse : pairing.excuses fault) :
      Matches pairing (.error fault state) result

/-- Whatever lets the second stop goes on letting it. -/
def Pairing.Keeps (pairing : Pairing σ τ) (first : EStateM Fault σ α) : Prop :=
  ∀ state fault, pairing.stops state fault → pairing.stops (lastState (first state)) fault

structure Follows (pairing : Pairing σ τ) (first : EStateM Fault σ α)
    (second : EStateM Fault τ α) : Prop where
  keeps : pairing.Keeps first
  results : ∀ state other, pairing.together state other →
    pairing.Matches (first state) (second other)

namespace Follows

variable {pairing : Pairing σ τ}

theorem pure (value : α) : Follows pairing (pure value) (pure value) where
  keeps _ _ stops := stops
  results _ _ states := .ok states

theorem bind {first : EStateM Fault σ α} {second : EStateM Fault τ α}
    {next : α → EStateM Fault σ β} {other : α → EStateM Fault τ β}
    (start : Follows pairing first second)
    (rest : ∀ value, Follows pairing (next value) (other value)) :
    Follows pairing (first >>= next) (second >>= other) := by
  constructor
  · intro state fault stops
    have kept := start.keeps state fault stops
    simp only [Bind.bind, EStateM.bind]
    revert kept
    generalize first state = result
    intro kept
    cases result with
    | ok value middle => exact (rest value).keeps middle fault kept
    | error own last => exact kept
  · intro state state' states
    have compared := start.results state state' states
    simp only [Bind.bind, EStateM.bind]
    revert compared
    generalize first state = result
    generalize second state' = result'
    intro compared
    cases compared with
    | ok states => exact (rest _).results _ _ states
    | error known states => exact .error known states
    | stopped stops =>
      cases result with
      | ok value middle => exact .stopped ((rest value).keeps middle _ stops)
      | error own last => exact .stopped stops
    | excused excuse => exact .excused excuse

theorem map {first : EStateM Fault σ α} {second : EStateM Fault τ α} (make : α → β)
    (start : Follows pairing first second) :
    Follows pairing (do return make (← first)) (do return make (← second)) :=
  start.bind fun value => .pure (make value)

end Follows

/-! Readers. They may be compared on blobs of some lengths only; reading makes no blob longer. -/

namespace Pairing

def scan (pairing : Pairing σ τ) (room : Nat → Prop) : Pairing (Scan σ) (Scan τ) where
  together scan other := scan.rest = other.rest ∧ scan.offset = other.offset ∧
    room scan.rest.length ∧ pairing.together scan.outer other.outer
  faults := pairing.faults
  stops scan := pairing.stops scan.outer
  excuses := pairing.excuses
  signature := pairing.signature

end Pairing

section Readers

variable {pairing : Pairing σ τ} {room : Nat → Prop}
  (shrinks : ∀ {few many}, few ≤ many → room many → room few)

theorem fail_follows (fault : SignatureFault) :
    Follows (pairing.scan room) (Reader.fail (α := α) fault) (Reader.fail fault) where
  keeps _ _ stops := stops
  results _ _ states := .error (pairing.signature fault) states

theorem ask_follows {question : EStateM Fault σ α} {other : EStateM Fault τ α}
    (answers : Follows pairing question other) :
    Follows (pairing.scan room) (Reader.ask question) (Reader.ask other) := by
  constructor
  · rintro ⟨rest, offset, outer⟩ fault stops
    have kept := answers.keeps outer fault stops
    simp only [Reader.ask]
    revert kept
    generalize question outer = result
    intro kept
    cases result <;> exact kept
  · rintro ⟨rest, offset, outer⟩ ⟨_, _, outer'⟩ ⟨rfl, rfl, fits, states⟩
    have compared := answers.results outer outer' states
    simp only [Reader.ask]
    revert compared
    generalize question outer = result
    generalize other outer' = result'
    intro compared
    cases compared with
    | ok states => exact .ok ⟨rfl, rfl, fits, states⟩
    | error known states => exact .error known ⟨rfl, rfl, fits, states⟩
    | stopped stops => cases result <;> exact .stopped stops
    | excused excuse => exact .excused excuse

include shrinks

theorem byte_follows :
    Follows (pairing.scan room) (Reader.byte (σ := σ)) (Reader.byte (σ := τ)) := by
  constructor
  · rintro ⟨rest, offset, outer⟩ fault stops
    cases rest <;> exact stops
  · rintro ⟨rest, offset, outer⟩ ⟨_, _, outer'⟩ ⟨rfl, rfl, fits, states⟩
    cases rest with
    | nil => exact .error (pairing.signature _) ⟨rfl, rfl, fits, states⟩
    | cons first rest => exact .ok ⟨rfl, rfl, shrinks (Nat.le_succ _) fits, states⟩

theorem compressed_follows :
    Follows (pairing.scan room) (Reader.compressed (σ := σ)) (Reader.compressed (σ := τ)) := by
  have byte : Follows (pairing.scan room) Reader.byte Reader.byte := byte_follows shrinks
  refine byte.bind fun first => ?_
  split
  · exact .pure _
  split
  · exact byte.bind fun second => .pure _
  split
  · exact byte.bind fun second => byte.bind fun third => byte.bind fun fourth => .pure _
  · exact fail_follows _

theorem number_follows :
    Follows (pairing.scan room) (Reader.number (σ := σ)) (Reader.number (σ := τ)) :=
  (compressed_follows shrinks).map Prod.fst

theorem signedNumber_follows :
    Follows (pairing.scan room) (Reader.signedNumber (σ := σ)) (Reader.signedNumber (σ := τ)) :=
  (compressed_follows shrinks).bind fun _ => .pure _

theorem skip_follows (byte : UInt8) :
    Follows (pairing.scan room) (Reader.skip (σ := σ) byte) (Reader.skip (σ := τ) byte) := by
  constructor
  · rintro ⟨rest, offset, outer⟩ fault stops
    simp only [Reader.skip]
    split <;> exact stops
  · rintro ⟨rest, offset, outer⟩ ⟨_, _, outer'⟩ ⟨rfl, rfl, fits, states⟩
    have fewer : room (rest.dropWhile (· == byte)).length :=
      shrinks (List.dropWhile_suffix _).length_le fits
    simp only [Reader.skip]
    by_cases ended : (rest.dropWhile (· == byte)).isEmpty
    · simp only [ended, if_true]
      exact .error (pairing.signature _) ⟨rfl, rfl, fewer, states⟩
    · simp only [ended, Bool.false_eq_true, if_false]
      exact .ok ⟨rfl, rfl, fewer, states⟩

omit shrinks in
theorem times_follows {read : Reader σ α} {other : Reader τ α}
    (each : Follows (pairing.scan room) read other) (count : Nat) :
    Follows (pairing.scan room) (Reader.times count read) (Reader.times count other) := by
  induction count with
  | zero => exact .pure []
  | succ count ih => exact each.bind fun first => ih.bind fun rest => .pure (first :: rest)

theorem shape_follows :
    Follows (pairing.scan room) (Reader.shape (σ := σ)) (Reader.shape (σ := τ)) := by
  have number : Follows (pairing.scan room) Reader.number Reader.number := number_follows shrinks
  have signed : Follows (pairing.scan room) Reader.signedNumber Reader.signedNumber :=
    signedNumber_follows shrinks
  refine number.bind fun rank => number.bind fun sizes => ?_
  refine (times_follows number sizes).bind fun _ => number.bind fun bounds => ?_
  exact (times_follows signed bounds).bind fun _ => .pure rank

theorem methodOf_follows {type : Reader σ TypeRef} {other : Reader τ TypeRef}
    (types : Follows (pairing.scan room) type other) :
    Follows (pairing.scan room) (Reader.methodOf type) (Reader.methodOf other) := by
  have number : Follows (pairing.scan room) Reader.number Reader.number := number_follows shrinks
  have parameter := (skip_follows shrinks sentinel).bind fun _ => types
  refine (byte_follows shrinks).bind fun head => ?_
  have rest (generics : Nat) := number.bind fun count => types.bind fun returnType =>
    (times_follows parameter count).bind fun parameters =>
      Follows.pure ({
        hasThis := head / 0x20 % 2 == 1, returnType, parameters
        genericCount := generics } : MethodSignature)
  by_cases generic : head / 0x10 % 2 = 1
  · simp only [generic, if_true]
    exact number.bind rest
  · simp only [generic, if_false]
    exact (Follows.pure 0).bind rest

/-! Readers of types, with two resolvers -/

/-- Two resolvers answer every question alike, each at its own level. -/
def AnswersAlike (pairing : Pairing σ τ) (resolve : Resolver σ) (level : Nat)
    (other : Resolver τ) (otherLevel : Nat) : Prop :=
  ∀ table index hint,
    Follows pairing (resolve level table index hint) (other otherLevel table index hint)

/-- What is left to pass over before a type, given the next byte. -/
def pastElement (resolve : Resolver σ) (level tries element : Nat) : Reader σ Nat :=
  if element == requiredModifier || element == optionalModifier then do
    let _ ← Reader.token resolve level .classType
    Reader.pastModifiers resolve level tries
  else if element == pinned then Reader.pastModifiers resolve level tries
  else return element

variable {resolve : Resolver σ} {other : Resolver τ} {level otherLevel : Nat}
  (alike : AnswersAlike pairing resolve level other otherLevel)

include alike

theorem token_follows (hint : Category) :
    Follows (pairing.scan room) (Reader.token resolve level hint)
      (Reader.token other otherLevel hint) := by
  refine (number_follows shrinks).bind fun encoded => ?_
  split
  · exact ask_follows (alike _ _ _)
  · exact fail_follows _

theorem pastElement_follows {tries : Nat} (past : Follows (pairing.scan room)
      (Reader.pastModifiers resolve level tries) (Reader.pastModifiers other otherLevel tries))
    (element : Nat) :
    Follows (pairing.scan room) (pastElement resolve level tries element)
      (pastElement other otherLevel tries element) := by
  unfold pastElement
  split
  · exact (token_follows shrinks alike .classType).bind fun _ => past
  split
  · exact past
  · exact .pure element

theorem pastModifiers_follows (tries : Nat) :
    Follows (pairing.scan room) (Reader.pastModifiers resolve level tries)
      (Reader.pastModifiers other otherLevel tries) := by
  induction tries with
  | zero => exact byte_follows shrinks
  | succ tries ih => exact (byte_follows shrinks).bind (pastElement_follows shrinks alike ih)

theorem elementByte_follows :
    Follows (pairing.scan room) (Reader.elementByte resolve level)
      (Reader.elementByte other otherLevel) := by
  constructor
  · intro scan
    exact (pastModifiers_follows shrinks alike scan.rest.length).keeps scan
  · rintro scan scan' states
    have tries : Reader.elementByte other otherLevel scan' =
        Reader.pastModifiers other otherLevel scan.rest.length scan' := by
      rw [show scan.rest = scan'.rest from states.1]
      rfl
    rw [tries]
    exact (pastModifiers_follows shrinks alike scan.rest.length).results _ _ states

theorem typeFrom_follows {type : Reader σ TypeRef} {otherType : Reader τ TypeRef}
    (types : Follows (pairing.scan room) type otherType) (first : Nat) :
    Follows (pairing.scan room) (Reader.typeFrom resolve level type first)
      (Reader.typeFrom other otherLevel otherType first) := by
  have number : Follows (pairing.scan room) Reader.number Reader.number := number_follows shrinks
  unfold Reader.typeFrom
  split
  · exact fail_follows _
  · exact .pure _
  · exact types.map byrefTo
  · exact types.map pointerTo
  · exact token_follows shrinks alike .structType
  · exact token_follows shrinks alike .classType
  · exact number.map (parameterNamed "!")
  · exact number.map (parameterNamed "!!")
  · exact types.map (arrayOf · 1)
  · exact types.bind fun element => (shape_follows shrinks).map (arrayOf element)
  · refine (byte_follows shrinks).bind fun kind => ?_
    refine (token_follows shrinks alike _).bind fun definition => number.bind fun count => ?_
    exact (times_follows types count).map (instanceOf definition)
  · exact (methodOf_follows shrinks types).bind fun _ => .pure addressType

end Readers

/-! Types, read with the levels that are left -/

section Types

variable {pairing : Pairing σ τ} {room : Nat → Prop}
  (shrinks : ∀ {few many}, few ≤ many → room many → room few)
  {resolve : Resolver σ} {other : Resolver τ}

include shrinks

/-- Two readers with as many levels left as one another do the same. -/
theorem typeAt_alike (deep : pairing.faults .tooDeep) (levels : Nat)
    (alike : ∀ level < levels, AnswersAlike pairing resolve level other level) :
    Follows (pairing.scan room) (Reader.typeAt resolve levels) (Reader.typeAt other levels) := by
  induction levels with
  | zero => exact ⟨fun _ _ stops => stops, fun _ _ states => .error deep states⟩
  | succ levels ih =>
    have here := alike levels (Nat.lt_succ_self levels)
    have inside := ih fun level lower => alike level (Nat.lt_succ_of_lt lower)
    exact (elementByte_follows shrinks here).bind (typeFrom_follows shrinks here inside)

omit shrinks in
theorem Pairing.Keeps.follows {first : EStateM Fault σ α} (kept : pairing.Keeps first) :
    Follows ({ together := Eq, stops := pairing.stops } : Pairing σ σ) first first := by
  refine ⟨kept, ?_⟩
  rintro state _ rfl
  cases first state with
  | ok value last => exact .ok rfl
  | error fault last => exact .error trivial rfl

theorem typeAt_keeps (levels : Nat)
    (kept : ∀ level < levels, ∀ table index hint,
      pairing.Keeps (resolve level table index hint)) :
    (pairing.scan room).Keeps (Reader.typeAt resolve levels) :=
  (typeAt_alike shrinks trivial levels fun level lower table index hint =>
    (kept level lower table index hint).follows).keeps

/-- A reader with fewer levels left may run out of them; up to there it does as the other. -/
theorem typeAt_paced (deep : pairing.faults .tooDeep) (ahead behind : Nat)
    (early : ahead ≠ 0 → pairing.excuses .tooDeep)
    (late : behind ≠ 0 → ∀ state, pairing.stops state .tooDeep)
    (levels otherLevels : Nat) (paced : levels + ahead = otherLevels + behind)
    (kept : ∀ level < levels, ∀ table index hint,
      pairing.Keeps (resolve level table index hint))
    (alike : ∀ level otherLevel, level < levels → level + ahead = otherLevel + behind →
      AnswersAlike pairing resolve level other otherLevel) :
    Follows (pairing.scan room) (Reader.typeAt resolve levels)
      (Reader.typeAt other otherLevels) := by
  induction levels generalizing otherLevels with
  | zero =>
    refine ⟨typeAt_keeps shrinks 0 kept, ?_⟩
    intro scan scan' states
    by_cases even : ahead = 0
    · obtain rfl : otherLevels = 0 := by omega
      exact .error deep states
    · exact .excused (early even)
  | succ levels ih =>
    cases otherLevels with
    | zero =>
      refine ⟨typeAt_keeps shrinks (levels + 1) kept, ?_⟩
      exact fun scan scan' _ => .stopped (late (by omega) _)
    | succ otherLevels =>
      have here := alike levels otherLevels (Nat.lt_succ_self levels) (by omega)
      have inside := ih otherLevels (by omega)
        (fun level lower => kept level (Nat.lt_succ_of_lt lower))
        fun level otherLevel lower => alike level otherLevel (Nat.lt_succ_of_lt lower)
      exact (elementByte_follows shrinks here).bind (typeFrom_follows shrinks here inside)

end Types

section Enough

variable {pairing : Pairing σ τ} {resolve : Resolver σ} {other : Resolver τ}

theorem Pairing.Matches.widen {few many : Nat → Prop} (wider : ∀ length, few length → many length)
    {first : EStateM.Result Fault (Scan σ) α} {second : EStateM.Result Fault (Scan τ) α}
    (compared : (pairing.scan few).Matches first second) :
    (pairing.scan many).Matches first second := by
  cases compared with
  | ok states => exact .ok ⟨states.1, states.2.1, wider _ states.2.2.1, states.2.2.2⟩
  | error known states =>
    exact .error known ⟨states.1, states.2.1, wider _ states.2.2.1, states.2.2.2⟩
  | stopped stops => exact .stopped stops
  | excused excuse => exact .excused excuse

/-- Each level takes a byte, so a blob with fewer bytes than levels are left does not run out of
levels, whatever the faults of the resolvers. -/
theorem typeAt_enough (levels : Nat)
    (alike : ∀ level < levels, AnswersAlike pairing resolve level other level) :
    Follows (pairing.scan (· < levels)) (Reader.typeAt resolve levels)
      (Reader.typeAt other levels) := by
  induction levels with
  | zero =>
    refine ⟨fun _ _ stops => stops, ?_⟩
    exact fun _ _ states => absurd states.2.2.1 (Nat.not_lt_zero _)
  | succ levels ih =>
    have shrinks {bound few many : Nat} (fewer : few ≤ many) (fits : many < bound) :
      few < bound := Nat.lt_of_le_of_lt fewer fits
    have here := alike levels (Nat.lt_succ_self levels)
    have inside := ih fun level lower => alike level (Nat.lt_succ_of_lt lower)
    have first (tries element : Nat) :=
      (pastElement_follows shrinks here (pastModifiers_follows shrinks here tries) element).bind
        (typeFrom_follows shrinks here inside)
    refine ⟨typeAt_keeps shrinks (levels + 1) fun level lower table index hint =>
      (alike level lower table index hint).keeps, ?_⟩
    rintro ⟨rest, offset, outer⟩ ⟨_, _, outer'⟩ ⟨rfl, rfl, fits, states⟩
    cases rest with
    | nil => exact .error (pairing.signature _) ⟨rfl, rfl, fits, states⟩
    | cons byte rest =>
      have later : rest.length < levels := by simpa using fits
      exact ((first rest.length byte.toNat).results ⟨rest, offset + 1, outer⟩
        ⟨rest, offset + 1, outer'⟩ ⟨rfl, rfl, later, states⟩).widen
          fun length small => Nat.lt_succ_of_lt small

end Enough

/-! Signatures -/

section Signatures

variable {pairing : Pairing σ τ} {resolve : Resolver σ} {other : Resolver τ}
  {levels otherLevels : Nat}

theorem run_follows {read : Reader σ α} {other : Reader τ α}
    (reads : Follows (pairing.scan fun _ => True) read other) (blob : List UInt8) :
    Follows pairing (read.run blob) (other.run blob) := by
  constructor
  · intro outer fault stops
    have kept := reads.keeps { rest := blob, outer } fault stops
    simp only [Reader.run]
    revert kept
    generalize read { rest := blob, outer } = result
    intro kept
    cases result <;> exact kept
  · intro outer outer' states
    have compared := reads.results { rest := blob, outer } { rest := blob, outer := outer' }
      ⟨rfl, rfl, trivial, states⟩
    simp only [Reader.run]
    revert compared
    generalize read { rest := blob, outer } = result
    generalize other { rest := blob, outer := outer' } = result'
    intro compared
    cases compared with
    | ok states => exact .ok states.2.2.2
    | error known states => exact .error known states.2.2.2
    | stopped stops => cases result <;> exact .stopped stops
    | excused excuse => exact .excused excuse

variable (types : Follows (pairing.scan fun _ => True) (Reader.typeAt resolve levels)
  (Reader.typeAt other otherLevels))

omit types in
theorem heading_follows (kind : Nat) (fault : Nat → SignatureFault) :
    Follows (pairing.scan fun _ => True) (Reader.heading kind fault)
      (Reader.heading kind fault) := by
  refine (byte_follows fun _ _ => trivial).bind fun head => ?_
  split
  · exact .pure head
  · exact fail_follows _

include types

theorem fieldAt_follows :
    Follows (pairing.scan fun _ => True) (Reader.fieldAt resolve levels)
      (Reader.fieldAt other otherLevels) :=
  (heading_follows 0x06 .notField).bind fun _ => types

theorem methodAt_follows :
    Follows (pairing.scan fun _ => True) (Reader.methodAt resolve levels)
      (Reader.methodAt other otherLevels) :=
  methodOf_follows (fun _ _ => trivial) types

theorem propertyAt_follows :
    Follows (pairing.scan fun _ => True) (Reader.propertyAt resolve levels)
      (Reader.propertyAt other otherLevels) := by
  refine (heading_follows 0x08 .notProperty).bind fun head => ?_
  refine (number_follows fun _ _ => trivial).bind fun count => types.bind fun type => ?_
  exact (times_follows types count).bind fun parameters => .pure _

end Signatures

end ProxyHeaders.Metadata
