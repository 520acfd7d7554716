import ProxyHeaders.Proofs.Metadata.SignatureDecoding

/-!
Running out of levels. A reader that has too few of them for some bytes says so, whatever follows
them. Parts in front that are read do not change that, and parts behind are not reached.
-/
namespace ProxyHeaders.Metadata

open Reader (typeFrom typeAt)

variable {σ α β : Type}

/-- Reading some bytes ends without levels left, whatever follows them. -/
def RunsOut (read : Reader (List Call × σ) α) (bytes : List UInt8) : Prop :=
  ∀ suffix offset outer, ∃ after,
    read { rest := bytes ++ suffix, offset, outer } = .error .tooDeep after

theorem runs_out_first {read : Reader (List Call × σ) α} {bytes more : List UInt8}
    (first : RunsOut read bytes) (next : α → Reader (List Call × σ) β) :
    RunsOut (read >>= next) (bytes ++ more) := by
  intro suffix offset outer
  obtain ⟨after, deep⟩ := first (more ++ suffix) offset outer
  refine ⟨after, ?_⟩
  simp only [bind, EStateM.bind, List.append_assoc, deep]

theorem runs_out_map {read : Reader (List Call × σ) α} {bytes : List UInt8} (make : α → β)
    (first : RunsOut read bytes) : RunsOut (do return make (← read)) bytes := by
  have whole : RunsOut (do return make (← read)) (bytes ++ []) := runs_out_first first _
  rwa [List.append_nil] at whole

theorem runs_out_later {read : Reader (List Call × σ) α} {next : α → Reader (List Call × σ) β}
    {bytes more : List UInt8} {calls : List Call} {meaning : StateM σ α}
    (first : Reads read bytes calls meaning)
    (second : ∀ outer, RunsOut (next (meaning.run outer).1) more) :
    RunsOut (read >>= next) (bytes ++ more) := by
  rintro suffix offset ⟨before, outer⟩
  have start := first (more ++ suffix) offset before outer
  obtain ⟨after, deep⟩ := second outer suffix (offset + bytes.length)
    (before ++ calls, (meaning.run outer).2)
  refine ⟨after, ?_⟩
  simp only [bind, EStateM.bind, List.append_assoc, start, deep]

theorem runs_out_lead {next : Nat → Reader (List Call × σ) β} {first : UInt8}
    {more : List UInt8} (rest : RunsOut (next first.toNat) more) :
    RunsOut (Reader.byte >>= next) (first :: more) :=
  runs_out_later (reads_byte first) fun _ => rest

theorem runs_out_times {read : Reader (List Call × σ) α} {count : Nat}
    {bytes : Fin count → List UInt8} {calls : Fin count → List Call}
    {meaning : Fin count → StateM σ α}
    (each : ∀ index, Reads read (bytes index) (calls index) (meaning index) ∨
      RunsOut read (bytes index)) (deep : ∃ index, RunsOut read (bytes index)) :
    RunsOut (Reader.times count read) (joined bytes) := by
  induction count with
  | zero => exact deep.elim fun index => index.elim0
  | succ count ih =>
    simp only [Reader.times, joined, List.ofFn_succ, List.flatten_cons]
    obtain ⟨index, late⟩ := deep
    cases index using Fin.cases with
    | zero => exact runs_out_first late _
    | succ index =>
      obtain whole | early := each 0
      · exact runs_out_later whole fun _ =>
          runs_out_map _ (ih (fun index => each index.succ) ⟨index, late⟩)
      · exact runs_out_first early _

/-! Types -/

section Types

variable (answer : Call → StateM σ TypeRef) {levels : Nat}

theorem runs_out_type (modifiers : List Modifier) {first : UInt8} {element : Element}
    {rest : List UInt8} (begins : elementOf first.toNat = some element)
    (deep : RunsOut (typeFrom (recording answer) levels (typeAt (recording answer) levels)
      first.toNat) rest) :
    RunsOut (typeAt (recording answer) (levels + 1))
      (modifiers.flatMap Modifier.encode ++ first :: rest) := by
  have plain : BeginsType first := by simp [BeginsType, begins]
  have whole := runs_out_later (reads_element answer levels modifiers plain) fun _ => deep
  rwa [List.append_assoc] at whole

theorem runs_out_wrapped (modifiers : List Modifier) (wrapper : Wrapper) {inner : TypeTree}
    (deep : RunsOut (typeAt (recording answer) levels) inner.encode) :
    RunsOut (typeAt (recording answer) (levels + 1))
      (TypeTree.wrapped modifiers wrapper inner).encode := by
  simp only [TypeTree.encode]
  cases wrapper with
  | byref =>
    have begins : elementOf (0x10 : UInt8).toNat = some .byref := rfl
    apply runs_out_type answer modifiers begins
    simp only [typeFrom, begins]
    exact runs_out_first deep _
  | pointer =>
    have begins : elementOf (0x0f : UInt8).toNat = some .pointer := rfl
    apply runs_out_type answer modifiers begins
    simp only [typeFrom, begins]
    exact runs_out_first deep _
  | vector =>
    have begins : elementOf (0x1d : UInt8).toNat = some .vector := rfl
    apply runs_out_type answer modifiers begins
    simp only [typeFrom, begins]
    exact runs_out_first deep _
  | array rank sizeCount boundCount sizes bounds =>
    have begins : elementOf (0x14 : UInt8).toNat = some .array := rfl
    apply runs_out_type answer modifiers begins
    simp only [typeFrom, begins]
    exact runs_out_first deep _

theorem runs_out_generic (modifiers : List Modifier) (kind : UInt8) (definition : Token)
    (count : Number) {arguments : Fin count → TypeTree}
    (each : ∀ index, Reads (typeAt (recording answer) levels) (arguments index).encode
        (arguments index).calls ((arguments index).denote answer) ∨
      RunsOut (typeAt (recording answer) levels) (arguments index).encode)
    (deep : ∃ index, RunsOut (typeAt (recording answer) levels) (arguments index).encode) :
    RunsOut (typeAt (recording answer) (levels + 1))
      (TypeTree.generic modifiers kind definition count arguments).encode := by
  have begins : elementOf (0x15 : UInt8).toNat = some .instance_ := rfl
  have listed := runs_out_times each deep
  apply runs_out_type answer modifiers begins
  simp only [typeFrom, begins]
  exact runs_out_lead (runs_out_later (reads_token answer levels definition (kindHint kind))
    fun _ => runs_out_later (reads_number count) fun _ => runs_out_map _ listed)

theorem runs_out_skipping {type : Reader (List Call × σ) α} {first : UInt8} {rest : List UInt8}
    (count : Nat) (other : first ≠ sentinel) (deep : RunsOut type (first :: rest)) :
    RunsOut (do Reader.skip sentinel; type) (encodeSentinels count ++ first :: rest) := by
  intro suffix offset outer
  obtain ⟨after, late⟩ := deep suffix (offset + count) outer
  refine ⟨after, ?_⟩
  simp only [bind, EStateM.bind, List.append_assoc, List.cons_append, sentinels_skipped other]
  exact late

theorem runs_out_parameter {tree : TypeTree} (count : Nat)
    (deep : RunsOut (typeAt (recording answer) levels) tree.encode) :
    RunsOut (do Reader.skip sentinel; typeAt (recording answer) levels)
      (encodeSentinels count ++ tree.encode) := by
  obtain ⟨first, rest, spelled, other⟩ := encode_begins tree
  rw [spelled] at deep ⊢
  exact runs_out_skipping count other deep

theorem runs_out_method {type : Reader (List Call × σ) TypeRef} (method : MethodTree)
    (deep : ∀ genericCount : Nat, RunsOut (do
        let returnType ← type
        let parameters ← Reader.times method.count do
          Reader.skip sentinel
          type
        return ({ hasThis := method.head.flags.toNat / 0x20 % 2 == 1, returnType, parameters,
                  genericCount } : MethodSignature))
      (method.returned.encode ++ joined fun index =>
        encodeSentinels (method.sentinels index) ++ (method.parameters index).encode)) :
    RunsOut (Reader.methodOf type) method.encode := by
  unfold Reader.methodOf
  simp only [MethodTree.encode, MethodHead.encode, List.cons_append]
  apply runs_out_lead
  by_cases generic : method.head.flags.toNat / 0x10 % 2 = 1 <;>
    simp only [MethodHead.isGeneric, beq_iff_eq, generic, ↓reduceIte]
  · exact runs_out_later (reads_number method.head.typeParameters) fun _ =>
      runs_out_later (reads_number method.count) fun _ => deep _
  · exact runs_out_later (reads_pure 0) fun _ =>
      runs_out_later (reads_number method.count) fun _ => deep _

theorem runs_out_function (modifiers : List Modifier) (head : MethodHead) {returned : TypeTree}
    (count : Number) (sentinels : Fin count → Nat) {parameters : Fin count → TypeTree}
    (each : ∀ index, Reads (typeAt (recording answer) levels) (parameters index).encode
        (parameters index).calls ((parameters index).denote answer) ∨
      RunsOut (typeAt (recording answer) levels) (parameters index).encode)
    (deep : RunsOut (typeAt (recording answer) levels) returned.encode ∨
      Reads (typeAt (recording answer) levels) returned.encode returned.calls
        (returned.denote answer) ∧
      ∃ index, RunsOut (typeAt (recording answer) levels) (parameters index).encode) :
    RunsOut (typeAt (recording answer) (levels + 1))
      (TypeTree.function modifiers head returned count sentinels parameters).encode := by
  have begins : elementOf (0x1b : UInt8).toNat = some .function := rfl
  apply runs_out_type answer modifiers begins
  simp only [typeFrom, begins]
  apply runs_out_map fun _ => addressType
  refine runs_out_method ⟨head, returned, count, sentinels, parameters⟩ fun genericCount => ?_
  obtain early | ⟨whole, index, late⟩ := deep
  · exact runs_out_first early _
  · have listed := runs_out_times
      (fun index => (each index).imp (reads_parameter answer (sentinels index))
        (runs_out_parameter answer (sentinels index)))
      ⟨index, runs_out_parameter answer (sentinels index) late⟩
    exact runs_out_later whole fun _ => runs_out_map _ listed

/-- A tree is read where enough levels are left for it, and nowhere else. -/
theorem tree_runs_out (tree : TypeTree) (levels : Nat) (short : levels < tree.nesting) :
    RunsOut (typeAt (recording answer) levels) tree.encode := by
  induction tree generalizing levels with
  | leaf modifiers type =>
    obtain rfl : levels = 0 := Nat.lt_one_iff.mp short
    exact fun _ _ _ => ⟨_, rfl⟩
  | wrapped modifiers wrapper inner ih =>
    cases levels with
    | zero => exact fun _ _ _ => ⟨_, rfl⟩
    | succ levels =>
      exact runs_out_wrapped answer modifiers wrapper (ih levels (Nat.lt_of_succ_lt_succ short))
  | generic modifiers kind definition count arguments ih =>
    cases levels with
    | zero => exact fun _ _ _ => ⟨_, rfl⟩
    | succ levels =>
      -- Arguments before the first that is too deep are read, and that one runs out.
      obtain ⟨index, _, deeper⟩ := Finset.lt_sup_iff.mp (Nat.lt_of_succ_lt_succ short)
      exact runs_out_generic answer modifiers kind definition count
        (fun index => (Nat.lt_or_ge levels (arguments index).nesting).symm.imp
          (reads_tree answer (arguments index) levels) (ih index levels))
        ⟨index, ih index levels deeper⟩
  | function modifiers head returned count sentinels parameters result ih =>
    cases levels with
    | zero => exact fun _ _ _ => ⟨_, rfl⟩
    | succ levels =>
      have either := lt_max_iff.mp (Nat.lt_of_succ_lt_succ short)
      refine runs_out_function answer modifiers head count sentinels
        (fun index => (Nat.lt_or_ge levels (parameters index).nesting).symm.imp
          (reads_tree answer (parameters index) levels) (ih index levels)) ?_
      obtain deep | enough := Nat.lt_or_ge levels returned.nesting
      · exact .inl (result levels deep)
      · obtain ⟨index, _, deeper⟩ :=
          Finset.lt_sup_iff.mp (either.resolve_left (Nat.not_lt.mpr enough))
        exact .inr ⟨reads_tree answer returned levels enough, index, ih index levels deeper⟩

end Types

end ProxyHeaders.Metadata
