import ProxyHeaders.Metadata.Types
import ProxyHeaders.Proofs.Metadata.Faults
import ProxyHeaders.Proofs.Metadata.Reading
import ProxyHeaders.Proofs.Metadata.SideBySide

/-!
What a reader remembers does not matter. The categories that it keeps are those it would find out
anew, so whatever it reads comes out as for a reader that has read nothing yet.
-/
namespace ProxyHeaders.Metadata

variable {α β : Type}

namespace Book

variable (book : Book)

/-- The faults that resolving a type may end with, while levels are left. -/
inductive Raises : Fault → Prop
  | signature (fault : SignatureFault) : Raises (.signature fault)
  | dangling : Raises .dangling
  | elsewhere {assembly fullName fault}
      (failed : book.isEnumElsewhere assembly fullName = .error fault) : Raises fault

def categoryAt (index : Int) : Except Fault Category :=
  book.tables.typeDef index >>= book.categoryOfRow

variable {book}

theorem categoryAt_fault {index : Int} {fault : Fault}
    (failed : book.categoryAt index = .error fault) :
    fault = .dangling ∨ ∃ own, fault = .signature own := by
  obtain lost | ⟨row, _, named⟩ := bind_faults failed
  · exact .inr ⟨_, Tables.row_fault lost⟩
  obtain lost | ⟨base, _, decided⟩ := bind_faults named
  · exact .inl (Tables.baseName_fault lost)
  · split at decided
    · cases decided
    split at decided
    · cases decided
    split at decided <;> cases decided

end Book

/-! Outcomes, which leave out what is remembered -/

def outcomeOf (lookup : Lookup α) : Except Fault α := valueOf (lookup {})

def resultOf (outcome : Except Fault α) (memory : Memory) : EStateM.Result Fault Memory α :=
  match outcome with
  | .ok value => .ok value memory
  | .error fault => .error fault memory

theorem lift_result (outcome : Except Fault α) (memory : Memory) :
    lift outcome memory = resultOf outcome memory := by
  cases outcome <;> rfl

namespace Book

variable {book : Book}

/-- Every category that is kept is right. -/
def Faithful (book : Book) (memory : Memory) : Prop :=
  ∀ index category, memory.categories.lookup index = some category →
    book.categoryAt index = .ok category

theorem fresh_faithful : book.Faithful {} := by
  intro index category found
  cases found

/-- A lookup gives the outcome, whatever is remembered, and what it remembers then is right. -/
def Settles (book : Book) (lookup : Lookup α) (outcome : Except Fault α) : Prop :=
  ∀ memory, book.Faithful memory →
    ∃ later, book.Faithful later ∧ lookup memory = resultOf outcome later

theorem Settles.outcome {lookup : Lookup α} {outcome : Except Fault α}
    (settles : book.Settles lookup outcome) : outcomeOf lookup = outcome := by
  obtain ⟨later, _, same⟩ := settles {} fresh_faithful
  unfold outcomeOf
  rw [same]
  cases outcome <;> rfl

abbrev Settled (book : Book) (lookup : Lookup α) : Prop := book.Settles lookup (outcomeOf lookup)

theorem Settles.settled {lookup : Lookup α} {outcome : Except Fault α}
    (settles : book.Settles lookup outcome) : book.Settled lookup := by
  unfold Settled
  rwa [settles.outcome]

theorem lift_settles (outcome : Except Fault α) : book.Settles (lift outcome) outcome :=
  fun memory faithful => ⟨memory, faithful, lift_result outcome memory⟩

theorem pure_settles (value : α) : book.Settles (pure value) (.ok value) :=
  lift_settles (.ok value)

theorem Settles.bind {lookup : Lookup α} {outcome : Except Fault α} {next : α → Lookup β}
    {nextOutcome : α → Except Fault β} (start : book.Settles lookup outcome)
    (rest : ∀ value, outcome = .ok value → book.Settles (next value) (nextOutcome value)) :
    book.Settles (lookup >>= next) (outcome >>= nextOutcome) := by
  intro memory faithful
  obtain ⟨middle, kept, same⟩ := start memory faithful
  simp only [Bind.bind, EStateM.bind, same]
  cases outcome with
  | error fault => exact ⟨middle, kept, rfl⟩
  | ok value => exact rest value rfl middle kept

theorem get_bind {next : Memory → Lookup α} {memory : Memory} :
    (get >>= next : Lookup α) memory = next memory memory :=
  rfl

theorem category_settles (index : Int) :
    book.Settles (book.category index) (book.categoryAt index) := by
  intro memory faithful
  unfold category
  rw [get_bind]
  cases kept : memory.categories.lookup index with
  | some category =>
    refine ⟨memory, faithful, ?_⟩
    rw [faithful index category kept]
    rfl
  | none =>
    change ∃ later, _ ∧ EStateM.bind (lift (book.categoryAt index)) _ memory = _
    simp only [EStateM.bind, lift_result]
    cases found : book.categoryAt index with
    | error fault => exact ⟨memory, faithful, rfl⟩
    | ok category =>
      refine ⟨{ memory with categories := (index, category) :: memory.categories }, ?_, rfl⟩
      intro other named kept
      by_cases same : other = index
      · simp only [same, List.lookup_cons, beq_self_eq_true] at kept
        cases kept
        exact same ▸ found
      · simp only [List.lookup_cons, beq_false_of_ne same] at kept
        exact faithful other named kept

theorem isEnumIn_settles (assembly : Option String) (fullName : String) :
    book.Settles (book.isEnumIn assembly fullName) (book.isEnumElsewhere assembly fullName) :=
  fun memory faithful =>
    ⟨{ memory with asked := memory.asked ++ [(assembly, fullName)] }, faithful, lift_result _ _⟩

def typeDefAt (book : Book) (index : Int) : Except Fault TypeRef := do
  let row ← book.tables.typeDef index
  let space ← book.tables.spaceOf index
  return { name := row.name, space := stated (some space), category := ← book.categoryAt index }

theorem typeDefRef_settles (index : Int) :
    book.Settles (book.typeDefRef index) (book.typeDefAt index) :=
  (lift_settles _).bind fun _ _ => (lift_settles _).bind fun _ _ =>
    (category_settles index).bind fun _ _ => pure_settles _

/-- What the category of a type of another assembly is taken to be. -/
def foreignCategory (book : Book) (row : TypeRefRow) (hint : Category) :
    Except Fault Category := do
  if hint != .structType then return hint
  else
    let fullName := qualifiedName (some row.space) row.name
    if frameworkEnums.contains fullName then return .enumType
    else
      let assembly ← book.tables.scopeAssembly row
      if ← book.isEnumElsewhere assembly fullName then return .enumType else return hint

theorem refCategory_settles (row : TypeRefRow) (hint : Category) :
    book.Settles (book.refCategory row hint) (book.foreignCategory row hint) := by
  unfold refCategory foreignCategory
  split
  · exact pure_settles _
  dsimp only
  split
  · exact pure_settles _
  refine (lift_settles _).bind fun assembly _ => (isEnumIn_settles _ _).bind fun isEnum _ => ?_
  cases isEnum <;> exact pure_settles _

def typeRefAt (book : Book) (index : Int) (hint : Category) : Except Fault TypeRef := do
  let row ← Tables.row book.tables.typeRefs "TypeRef" index
  return { name := row.name, space := stated (some row.space),
           category := ← book.foreignCategory row hint }

theorem typeRefRef_settles (index : Int) (hint : Category) :
    book.Settles (book.typeRefRef index hint) (book.typeRefAt index hint) :=
  (lift_settles _).bind fun _ _ => (refCategory_settles _ _).bind fun _ _ => pure_settles _

theorem typeDefAt_fault {index : Int} {fault : Fault}
    (failed : book.typeDefAt index = .error fault) :
    fault = .dangling ∨ ∃ own, fault = .signature own := by
  obtain lost | ⟨row, _, rest⟩ := bind_faults failed
  · exact .inr ⟨_, Tables.row_fault lost⟩
  obtain lost | ⟨space, _, rest⟩ := bind_faults rest
  · exact .inr (Tables.spaceOf_fault lost)
  obtain lost | ⟨category, _, made⟩ := bind_faults rest
  · exact categoryAt_fault lost
  · cases made

theorem typeDefAt_raises {index : Int} {fault : Fault}
    (failed : book.typeDefAt index = .error fault) : book.Raises fault := by
  obtain rfl | ⟨own, rfl⟩ := typeDefAt_fault failed
  · exact .dangling
  · exact .signature own

theorem foreignCategory_raises {row : TypeRefRow} {hint : Category} {fault : Fault}
    (failed : book.foreignCategory row hint = .error fault) : book.Raises fault := by
  unfold foreignCategory at failed
  split at failed
  · cases failed
  dsimp only at failed
  split at failed
  · cases failed
  obtain lost | ⟨assembly, _, rest⟩ := bind_faults failed
  · exact Tables.scopeFrom_fault lost ▸ .dangling
  obtain lost | ⟨isEnum, _, rest⟩ := bind_faults rest
  · exact .elsewhere lost
  · split at rest <;> cases rest

theorem typeRefAt_raises {index : Int} {hint : Category} {fault : Fault}
    (failed : book.typeRefAt index hint = .error fault) : book.Raises fault := by
  obtain lost | ⟨row, _, rest⟩ := bind_faults failed
  · exact Tables.row_fault lost ▸ .signature _
  obtain lost | ⟨category, _, rest⟩ := bind_faults rest
  · exact foreignCategory_raises lost
  · cases rest

/-! Two readers of one book, of which the second may be allowed to run out of levels -/

def memories (book : Book) (late : Prop) : Pairing Memory Memory where
  together memory other := book.Faithful memory ∧ book.Faithful other
  faults fault := book.Raises fault ∨ fault = .tooDeep
  stops _ fault := late ∧ fault = .tooDeep
  signature fault := .inl (.signature fault)

variable {late : Prop}

theorem Settles.follows {first second : Lookup α} {outcome : Except Fault α}
    (one : book.Settles first outcome) (two : book.Settles second outcome)
    (raises : ∀ fault, outcome = .error fault → book.Raises fault) :
    Follows (book.memories late) first second := by
  refine ⟨fun _ _ stops => stops, ?_⟩
  rintro memory other ⟨faithful, otherFaithful⟩
  obtain ⟨later, kept, same⟩ := one memory faithful
  obtain ⟨otherLater, otherKept, otherSame⟩ := two other otherFaithful
  rw [same, otherSame]
  cases outcome with
  | ok value => exact .ok ⟨kept, otherKept⟩
  | error fault => exact .error (.inl (raises fault rfl)) ⟨kept, otherKept⟩

/-- A resolver with fewer levels left finds out the same, unless it runs out of them; how many
hops are left does not matter where there are more than levels. -/
theorem resolveWithin_follows {hops otherHops levels otherLevels : Nat} (fits : levels < hops)
    (otherFits : otherLevels < otherHops) (fewer : otherLevels ≤ levels)
    (even : ¬ late → otherLevels = levels) (table : TokenTable) (index : Int) (hint : Category) :
    Follows (book.memories late) (book.resolveWithin hops levels table index hint)
      (book.resolveWithin otherHops otherLevels table index hint) := by
  -- Each hop costs levels, so neither run stops for want of hops. The second may have fewer
  -- levels left only where it may stop for depth (`late`).
  induction hops generalizing otherHops levels otherLevels table index hint with
  | zero => omega
  | succ hops ih =>
    cases otherHops with
    | zero => omega
    | succ otherHops =>
      cases table with
      | typeDef =>
        exact (typeDefRef_settles index).follows (typeDefRef_settles index)
          fun _ => typeDefAt_raises
      | typeRef =>
        exact (typeRefRef_settles index hint).follows (typeRefRef_settles index hint)
          fun _ => typeRefAt_raises
      | typeSpec =>
        have found : Follows (book.memories late)
            (lift (Tables.row book.tables.typeSpecs "TypeSpec" index))
            (lift (Tables.row book.tables.typeSpecs "TypeSpec" index)) :=
          (lift_settles _).follows (lift_settles _) fun _ lost =>
            Tables.row_fault lost ▸ .signature _
        refine found.bind fun blob => run_follows ?_ blob
        have deep : (book.memories late).faults .tooDeep := .inr rfl
        refine typeAt_paced (fun _ _ => trivial) deep 0
          ((levels - mentionDepth) - (otherLevels - mentionDepth)) (fun some => absurd rfl some)
          (fun some state => ⟨?_, rfl⟩) _ _ (by omega) (fun level lower table index hint => ?_)
          (fun level otherLevel lower paced table index hint => ?_)
        · by_contra settled
          have same := even settled
          omega
        · exact (ih (by omega) (by omega : level < hops) (Nat.le_refl _) (fun _ => rfl) _ _ _).keeps
        · refine ih (by omega) (by omega) (by omega) (fun settled => ?_) _ _ _
          have same := even settled
          omega

theorem outcome_follows {first second : Lookup α}
    (follows : Follows (book.memories late) first second) :
    outcomeOf second = outcomeOf first ∨ late ∧ outcomeOf second = .error .tooDeep := by
  have compared := follows.results {} {} ⟨fresh_faithful, fresh_faithful⟩
  unfold outcomeOf
  generalize first {} = one at compared
  generalize second {} = two at compared
  cases compared with
  | ok states => exact .inl rfl
  | error known states => exact .inl rfl
  | stopped stops => exact .inr ⟨stops.1, by rw [stops.2]; rfl⟩
  | excused excuse => exact excuse.elim

theorem settled_of_follows {lookup : Lookup α}
    (follows : Follows (book.memories False) lookup lookup) : book.Settled lookup := by
  intro memory faithful
  have compared := follows.results {} memory ⟨fresh_faithful, faithful⟩
  unfold outcomeOf
  generalize lookup {} = one at compared
  generalize lookup memory = two at compared
  cases compared with
  | ok states => exact ⟨_, states.2, rfl⟩
  | error known states => exact ⟨_, states.2, rfl⟩
  | stopped stops => exact stops.1.elim
  | excused excuse => exact excuse.elim

theorem raises_of_follows {lookup : Lookup α} {fault : Fault}
    (follows : Follows (book.memories False) lookup lookup)
    (failed : outcomeOf lookup = .error fault) : book.Raises fault ∨ fault = .tooDeep := by
  have compared := follows.results {} {} ⟨fresh_faithful, fresh_faithful⟩
  unfold outcomeOf at failed
  generalize lookup {} = result at compared failed
  cases compared with
  | ok states => cases failed
  | error known states => exact (Except.error.inj failed) ▸ known
  | stopped stops => exact stops.1.elim
  | excused excuse => exact excuse.elim

/-- What resolving a type finds out with some levels left. -/
def outcomeAt (book : Book) (levels : Nat) (call : Call) : Except Fault TypeRef :=
  outcomeOf (book.resolveWithin (levels + 1) levels call.table call.row call.hint)

theorem resolveWithin_settles {hops levels : Nat} (fits : levels < hops) (call : Call) :
    book.Settles (book.resolveWithin hops levels call.table call.row call.hint)
      (book.outcomeAt levels call) := by
  have follows {some : Nat} (others : levels < some) : Follows (book.memories False)
      (book.resolveWithin some levels call.table call.row call.hint)
      (book.resolveWithin hops levels call.table call.row call.hint) :=
    resolveWithin_follows others fits (Nat.le_refl _) (fun _ => rfl) _ _ _
  have settled := settled_of_follows (follows fits)
  obtain same | ⟨never, _⟩ := outcome_follows (follows (Nat.lt_succ_self levels))
  · unfold Settled at settled
    rwa [same] at settled
  · exact never.elim

/-- With fewer levels left nothing else is found out. -/
theorem outcomeAt_fewer {levels otherLevels : Nat} (fewer : otherLevels ≤ levels) (call : Call) :
    book.outcomeAt otherLevels call = book.outcomeAt levels call ∨
      book.outcomeAt otherLevels call = .error .tooDeep := by
  have follows : Follows (book.memories True)
      (book.resolveWithin (levels + 1) levels call.table call.row call.hint)
      (book.resolveWithin (otherLevels + 1) otherLevels call.table call.row call.hint) :=
    resolveWithin_follows (Nat.lt_succ_self levels) (Nat.lt_succ_self otherLevels) fewer
      (fun never => absurd trivial never) _ _ _
  exact (outcome_follows follows).imp_right And.right

theorem outcomeAt_raises {levels : Nat} {call : Call} {fault : Fault}
    (failed : book.outcomeAt levels call = .error fault) :
    book.Raises fault ∨ fault = .tooDeep :=
  raises_of_follows (resolveWithin_follows (Nat.lt_succ_self levels) (Nat.lt_succ_self levels)
    (Nat.le_refl _) (fun _ => rfl) call.table call.row call.hint) failed

theorem resolve_settles (call : Call) :
    book.Settles (book.resolve call.table call.row call.hint) (book.outcomeAt book.levels call) :=
  resolveWithin_settles (Nat.lt_succ_self book.levels) call

/-! Types of the book -/

theorem types_settled :
    Follows ((book.memories False).scan fun _ => True) (Reader.typeAt book.resolver book.levels)
      (Reader.typeAt book.resolver book.levels) :=
  typeAt_alike (fun _ _ => trivial) (Or.inr rfl) book.levels fun _ lower table index hint =>
    resolveWithin_follows (by omega) (by omega) (Nat.le_refl _) (fun _ => rfl) table index hint

theorem fieldSignature_settled (blob : List UInt8) :
    book.Settled (fieldSignature book.resolver book.levels blob) :=
  settled_of_follows (run_follows (fieldAt_follows types_settled) blob)

theorem methodSignature_settled (blob : List UInt8) :
    book.Settled (methodSignature book.resolver book.levels blob) :=
  settled_of_follows (run_follows (methodAt_follows types_settled) blob)

theorem propertySignature_settled (blob : List UInt8) :
    book.Settled (propertySignature book.resolver book.levels blob) :=
  settled_of_follows (run_follows (propertyAt_follows types_settled) blob)

theorem Settled.bind {lookup : Lookup α} {next : α → Lookup β} (start : book.Settled lookup)
    (rest : ∀ value, book.Settled (next value)) : book.Settled (lookup >>= next) :=
  (Settles.bind start fun value _ => rest value).settled

theorem pure_settled (value : α) : book.Settled (pure value) := (pure_settles value).settled

theorem lift_settled (outcome : Except Fault α) : book.Settled (lift outcome) :=
  (lift_settles outcome).settled

theorem mapM_settles {read : α → Lookup β} (settled : ∀ item, book.Settled (read item))
    (items : List α) :
    book.Settles (items.mapM read) (items.mapM fun item => outcomeOf (read item)) := by
  induction items with
  | nil => exact pure_settles []
  | cons item rest ih =>
    simp only [List.mapM_cons]
    exact Settles.bind (settled item) fun first _ => ih.bind fun others _ => pure_settles _

theorem readField_settled (owner : String) (index : Int) :
    book.Settled (book.readField owner index) :=
  (lift_settled _).bind fun _ => (fieldSignature_settled _).bind fun _ => pure_settled _

theorem readMethod_settled (owner : String) (index : Int) :
    book.Settled (book.readMethod owner index) :=
  (lift_settled _).bind fun _ => (methodSignature_settled _).bind fun _ =>
    (lift_settled _).bind fun _ => pure_settled _

theorem readProperty_settled (joins : Joins) (owner : String) (index : Int) :
    book.Settled (book.readProperty joins owner index) :=
  (lift_settled _).bind fun _ => (propertySignature_settled _).bind fun _ => pure_settled _

def baseFound (book : Book) (row : TypeDefRow) : Except Fault (Option TypeRef) := do
  match ← book.tables.follow row.base, row.base with
  | none, _ => return none
  | some (.typeDef _), some link =>
    return some (← book.outcomeAt book.levels ⟨.typeDef, link.index, .classType⟩)
  | some .typeSpec, some link =>
    return some (← book.outcomeAt book.levels ⟨.typeSpec, link.index, .classType⟩)
  | some (.typeRef base), _ => return some { name := base.name, space := stated (some base.space) }
  | some _, _ => .error .notAType

theorem baseOf_settles (row : TypeDefRow) :
    book.Settles (book.baseOf row) (book.baseFound row) := by
  refine (lift_settles _).bind fun target _ => ?_
  cases target with
  | none => exact pure_settles _
  | some target =>
    cases target with
    | typeDef =>
      cases row.base with
      | none => exact lift_settles (.error .notAType)
      | some link =>
        exact (resolve_settles ⟨.typeDef, link.index, .classType⟩).bind fun _ _ => pure_settles _
    | typeSpec =>
      cases row.base with
      | none => exact lift_settles (.error .notAType)
      | some link =>
        exact (resolve_settles ⟨.typeSpec, link.index, .classType⟩).bind fun _ _ => pure_settles _
    | typeRef => exact pure_settles _
    | field | property | other => exact lift_settles (.error .notAType)

def headFound (book : Book) (index : Int) (row : TypeDefRow) : Except Fault TypeDecl := do
  let space ← book.tables.spaceOf index
  let category ← book.categoryAt index
  let base ← book.baseFound row
  let head : TypeDecl :=
    { name := row.name, space := some space, category, base
      isNested := (book.tables.enclosing? index).isSome, source := book.source }
  match head.normalize with
  | .ok type => return type
  | .error _ => .error .badArity

theorem readHead_settles (index : Int) (row : TypeDefRow) :
    book.Settles (book.readHead index row) (book.headFound index row) := by
  refine (lift_settles _).bind fun space _ => (category_settles index).bind fun category _ =>
    (baseOf_settles row).bind fun base _ => ?_
  dsimp only
  generalize TypeDecl.normalize _ = kept
  cases kept with
  | ok type => exact pure_settles _
  | error _ => exact lift_settles (.error .badArity)

/-- A type as it is declared, read member by member. -/
def typeFound (book : Book) (joins : Joins) (index : Int) (row : TypeDefRow) :
    Except Fault TypeDecl := do
  let head ← book.headFound index row
  let owner := head.fullName
  let fields ← row.fields.mapM fun index => do
    return (index, ← outcomeOf (book.readField owner index))
  let methods ← row.methods.mapM fun index => outcomeOf (book.readMethod owner index)
  let properties ← (book.tables.propertiesOf index).mapM fun index =>
    outcomeOf (book.readProperty joins owner index)
  return { withFields joins head fields with methods, properties }

theorem readType_settles (joins : Joins) (index : Int) (row : TypeDefRow) :
    book.Settles (book.readType joins index row) (book.typeFound joins index row) := by
  have field (owner : String) (index : Int) :
      book.Settles (do return (index, ← book.readField owner index))
        (do return (index, ← outcomeOf (book.readField owner index))) :=
    Settles.bind (readField_settled owner index) fun _ _ => pure_settles _
  have fields (owner : String) := mapM_settles (fun index => (field owner index).settled) row.fields
  simp only [(field _ _).outcome] at fields
  exact (readHead_settles index row).bind fun head _ =>
    (fields head.fullName).bind fun _ _ =>
      (mapM_settles (readMethod_settled head.fullName) row.methods).bind fun _ _ =>
        (mapM_settles (readProperty_settled joins head.fullName) _).bind fun _ _ =>
          pure_settles _

/-- What a type adds to the types that are read: nothing if it is left out, and a fault if no
type can be read because of it. -/
def entryOf (book : Book) (joins : Joins) (index : Int) (row : TypeDefRow) :
    Except Fault (Option TypeDecl) :=
  match book.typeFound joins index row with
  | .ok type => .ok (some type)
  | .error fault => if fault.isLocal then .ok none else .error fault

theorem attempt_settles (joins : Joins) (index : Int) (row : TypeDefRow) :
    book.Settles (book.attempt joins index row) (book.entryOf joins index row) := by
  intro memory faithful
  obtain ⟨later, kept, same⟩ := readType_settles joins index row memory faithful
  unfold attempt entryOf
  rw [same]
  cases book.typeFound joins index row with
  | ok type => exact ⟨later, kept, rfl⟩
  | error fault =>
    by_cases own : fault.isLocal
    · exact ⟨{ later with skipped := later.skipped ++ [(row.name, fault)] }, kept,
        by simp [resultOf, own]⟩
    · exact ⟨later, kept, by simp [resultOf, own]⟩

theorem typeDef_of_numbered {index : Int} {row : TypeDefRow}
    (numbered : (index, row) ∈ book.numbered) : book.tables.typeDef index = .ok row := by
  obtain ⟨⟨row, place⟩, member, same⟩ := List.mem_map.mp numbered
  cases same
  have found := List.mem_zipIdx_iff_getElem?.mp member
  exact Tables.row_iff.mpr ⟨by omega, by simpa using found⟩

def listed (book : Book) : List (Int × TypeDefRow) :=
  book.numbered.filter (·.2.name != moduleType)

def entries (book : Book) : Except Fault (List (Option TypeDecl)) := do
  let joins ← book.tables.joins
  book.listed.mapM fun (index, row) => book.entryOf joins index row

theorem entryOf_fault {joins : Joins} {index : Int} {row : TypeDefRow} {fault : Fault}
    (failed : book.entryOf joins index row = .error fault) :
    fault = .tooDeep ∧ book.typeFound joins index row = .error .tooDeep := by
  unfold entryOf at failed
  cases found : book.typeFound joins index row with
  | ok type => simp [found] at failed
  | error own =>
    rw [found] at failed
    cases own <;> simp [Fault.isLocal] at failed
    exact ⟨failed.symm, rfl⟩

theorem entries_of_joins {joins : Joins} (joined : book.tables.joins = .ok joins) :
    book.entries = book.listed.mapM fun entry => book.entryOf joins entry.1 entry.2 := by
  unfold entries
  rw [joined]
  rfl

theorem entries_unread {joins : Joins} (joined : book.tables.joins = .ok joins) {index : Int}
    {row : TypeDefRow} (listed : (index, row) ∈ book.listed)
    (deep : book.typeFound joins index row = .error .tooDeep) :
    book.entries = .error .tooDeep := by
  rw [entries_of_joins joined]
  cases all : book.listed.mapM fun entry => book.entryOf joins entry.1 entry.2 with
  | ok types =>
    obtain ⟨type, read⟩ := mapM_each all _ listed
    simp [entryOf, deep, Fault.isLocal] at read
  | error fault =>
    obtain ⟨_, _, lost⟩ := mapM_fault all
    obtain rfl := (entryOf_fault lost).1
    rfl

theorem readTypes_settles :
    book.Settles book.readTypes (do return (← book.entries).filterMap id) := by
  have each (joins : Joins) : book.Settles (book.listed.mapM fun (index, row) =>
      book.attempt joins index row) (book.listed.mapM fun (index, row) =>
        book.entryOf joins index row) := by
    have settled := mapM_settles (fun entry : Int × TypeDefRow =>
      (@attempt_settles book joins entry.1 entry.2).settled) book.listed
    simpa only [(attempt_settles _ _ _).outcome] using settled
  unfold entries
  simp only [bind_assoc]
  exact (lift_settles _).bind fun joins _ => (each joins).bind fun types _ => pure_settles _

end Book

end ProxyHeaders.Metadata
