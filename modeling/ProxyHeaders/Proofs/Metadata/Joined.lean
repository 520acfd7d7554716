import ProxyHeaders.Proofs.Metadata.References

/-!
Joins between tables. A value, an accessor or a name goes to the row that it belongs to, by table
and number, and to no other, whatever the order of the rows that say so.
-/
namespace ProxyHeaders.Metadata

variable {α β : Type}

namespace Tables

/-- What is needed of rows beside their references: type names state numbers that can be read,
constants have bytes enough, no field has two constants, and no place of a method two names. -/
structure Tidy (tables : Tables) : Prop where
  names : ∀ row ∈ tables.typeDefs.getD [], ∀ suffix ∈ (Text.cutAt arityMark row.name).2,
    suffix.toList.all Char.isDigit ∧ suffix.length ≤ maxArityDigits
  stored : ∀ row ∈ tables.constants.getD [], ∀ form ∈ constantForms.lookup row.element,
    form.size ≤ row.value.length
  constants : (tables.constants.getD []).Pairwise fun first second =>
    ∀ link ∈ first.parent, link.table = .field → second.parent ≠ some link
  sequences : ∀ row ∈ tables.methods.getD [], row.params.Pairwise fun first second =>
    ∀ param other, Tables.row tables.params "Param" first = .ok param →
      Tables.row tables.params "Param" second = .ok other → param.sequence ≠ other.sequence

end Tables

/-! Lists of entries -/

theorem pairwise_of_forall₂ {related : α → β → Prop} {apart : α → α → Prop} {other : β → β → Prop}
    {items : List α} {values : List β} (all : List.Forall₂ related items values)
    (distinct : items.Pairwise apart)
    (carry : ∀ first second value next, related first value → related second next →
      apart first second → other value next) : values.Pairwise other := by
  induction all with
  | nil => exact .nil
  | cons here rest ih =>
    obtain ⟨beside, distinct⟩ := List.pairwise_cons.mp distinct
    refine List.pairwise_cons.mpr ⟨fun value member => ?_, ih distinct⟩
    obtain ⟨item, inside, there⟩ := forall₂_source rest value member
    exact carry _ _ _ _ here there (beside item inside)

theorem lastValue_iff {entries : List (Int × α)} {key : Int} {value : α}
    (distinct : entries.Pairwise fun first second => first.1 ≠ second.1) :
    Tables.lastValue entries key = some value ↔ (key, value) ∈ entries := by
  have backwards := List.pairwise_reverse.mpr (distinct.imp Ne.symm)
  rw [← List.mem_reverse, Tables.lastValue]
  generalize entries.reverse = entries at backwards
  induction entries with
  | nil => simp
  | cons entry rest ih =>
    obtain ⟨own, held⟩ := entry
    obtain ⟨beside, backwards⟩ := List.pairwise_cons.mp backwards
    by_cases same : key = own
    · subst same
      rw [List.lookup_cons, beq_self_eq_true]
      constructor
      · intro found
        cases found
        exact List.mem_cons_self
      · intro member
        obtain here | later := List.mem_cons.mp member
        · cases here
          rfl
        · exact (beside _ later rfl).elim
    · rw [List.lookup_cons, beq_false_of_ne same]
      simp [ih backwards, same]

namespace Tables

variable {tables : Tables}

/-! Constants -/

def constantPiece (row : ConstantRow) : List (Int × Int) :=
  match row.parent, constantValue row.element row.value with
  | some ⟨.field, index⟩, .ok (some value) => [(index, value)]
  | _, _ => []

theorem mem_constantPiece {row : ConstantRow} {index value : Int} :
    (index, value) ∈ constantPiece row ↔
      row.parent = some ⟨.field, index⟩ ∧
        constantValue row.element row.value = .ok (some value) := by
  unfold constantPiece
  split
  · rename_i own held parent stored
    simp [parent, stored, eq_comm]
  · rename_i other
    simp only [List.not_mem_nil, false_iff, not_and]
    exact fun parent stored => other _ _ parent stored

theorem constantValue_stored {row : ConstantRow}
    (stored : ∀ form, constantForms.lookup row.element = some form → form.size ≤ row.value.length) :
    ∃ value, constantValue row.element row.value = .ok value := by
  unfold constantValue
  cases held : constantForms.lookup row.element with
  | none => exact ⟨none, rfl⟩
  | some form =>
    simp only [if_neg (Nat.not_lt.mpr (stored form held))]
    exact ⟨_, rfl⟩

theorem constantOf_piece {row : ConstantRow}
    (inside : ∀ link, row.parent = some link → tables.InRange link)
    (stored : ∀ form, constantForms.lookup row.element = some form → form.size ≤ row.value.length) :
    tables.constantOf row = .ok (constantPiece row) := by
  obtain ⟨value, read⟩ := constantValue_stored stored
  unfold constantOf constantPiece
  obtain ⟨none, followed⟩ | ⟨⟨table, index⟩, target, parent, followed, reaches⟩ :=
    follow_sound inside
  · rw [followed, none]
    rfl
  · rw [followed, parent, read]
    dsimp only at reaches
    cases reaches with
    | field => cases value <;> rfl
    | typeDef | typeRef | typeSpec | property | other => rfl

/-! Accessors -/

def accessorPiece (row : SemanticsRow) : List (Int × SemanticsRow) :=
  match row.association with
  | some ⟨.property, index⟩ => [(index, row)]
  | _ => []

theorem mem_accessorPiece {row other : SemanticsRow} {index : Int} :
    (index, other) ∈ accessorPiece row ↔
      row.association = some ⟨.property, index⟩ ∧ other = row := by
  unfold accessorPiece
  split
  · rename_i own associated
    simp [associated, eq_comm]
  · rename_i other
    simp only [List.not_mem_nil, false_iff, not_and]
    exact fun associated => (other _ associated).elim

theorem accessorOf_piece {row : SemanticsRow}
    (inside : ∀ link, row.association = some link → tables.InRange link) :
    tables.accessorOf row = .ok (accessorPiece row) := by
  unfold accessorOf accessorPiece
  obtain ⟨none, followed⟩ | ⟨⟨table, index⟩, target, associated, followed, reaches⟩ :=
    follow_sound inside
  · rw [followed, none]
    rfl
  · rw [followed, associated]
    dsimp only at reaches
    cases reaches <;> rfl

/-! All joins -/

def joined (tables : Tables) : Joins :=
  let accessors := (tables.semantics.getD []).flatMap accessorPiece
  { constants := (tables.constants.getD []).flatMap constantPiece
    getters := (accessors.filter (·.2.isGetter)).map (·.1)
    setters := (accessors.filter (·.2.isSetter)).map (·.1) }

theorem joins_joined (sound : tables.Sound) (tidy : tables.Tidy) :
    tables.joins = .ok tables.joined := by
  have constants : (tables.constants.getD []).mapM tables.constantOf =
      .ok ((tables.constants.getD []).map constantPiece) :=
    mapM_map fun row member => constantOf_piece (sound.parents row member) (tidy.stored row member)
  have accessors : (tables.semantics.getD []).mapM tables.accessorOf =
      .ok ((tables.semantics.getD []).map accessorPiece) :=
    mapM_map fun row member => accessorOf_piece (sound.associations row member)
  unfold joins
  rw [constants, accessors]
  simp [bind, Except.bind, pure, Except.pure, joined, List.flatMap]

/-- A field's value, by the constant that belongs to that field and no other row. -/
def Valued (tables : Tables) (index value : Int) : Prop :=
  ∃ row ∈ tables.constants.getD [], row.parent = some ⟨.field, index⟩ ∧
    constantValue row.element row.value = .ok (some value)

/-- Whether a method says that it is a property's getter, or its setter. -/
def Accessed (tables : Tables) (role : SemanticsRow → Bool) (index : Int) : Prop :=
  ∃ row ∈ tables.semantics.getD [], row.association = some ⟨.property, index⟩ ∧ role row = true

/-- The name that the row of a place states. -/
def Named (tables : Tables) (method : MethodRow) (place : Nat) (name : String) : Prop :=
  name ≠ "" ∧ ∃ index ∈ method.params, ∃ param,
    Tables.row tables.params "Param" index = .ok param ∧ param.sequence = place ∧
      param.name = name

theorem joined_constant (tidy : tables.Tidy) {index value : Int} :
    lastValue tables.joined.constants index = some value ↔ tables.Valued index value := by
  have distinct : tables.joined.constants.Pairwise fun first second => first.1 ≠ second.1 := by
    refine List.pairwise_flatMap.mpr ⟨fun row _ => ?_, tidy.constants.imp ?_⟩
    · unfold constantPiece
      split <;> simp
    · rintro row other apart ⟨index, value⟩ member ⟨index', value'⟩ member' same
      dsimp only at same
      subst same
      exact apart _ (mem_constantPiece.mp member).1 rfl (mem_constantPiece.mp member').1
  rw [lastValue_iff distinct]
  simp only [joined, List.mem_flatMap, mem_constantPiece, Valued]

theorem joined_accessor (role : SemanticsRow → Bool) {index : Int} :
    index ∈ (((tables.semantics.getD []).flatMap accessorPiece).filter (role ·.2)).map (·.1) ↔
      tables.Accessed role index := by
  simp only [List.mem_map, List.mem_filter, List.mem_flatMap]
  constructor
  · rintro ⟨⟨own, other⟩, ⟨⟨row, member, piece⟩, said⟩, rfl⟩
    obtain ⟨associated, rfl⟩ := mem_accessorPiece.mp piece
    exact ⟨_, member, associated, said⟩
  · rintro ⟨row, member, associated, said⟩
    exact ⟨(index, row), ⟨⟨row, member, mem_accessorPiece.mpr ⟨associated, rfl⟩⟩, said⟩, rfl⟩

end Tables

namespace Book

variable {book : Book}

theorem parameterNames_named (sound : book.tables.Sound) (tidy : book.tables.Tidy)
    {row : MethodRow} (member : row ∈ book.tables.methods.getD []) :
    ∃ names, book.parameterNames row = .ok names ∧ ∀ (place : Nat) name,
      (Tables.lastValue names ((place : Int) + 1)).getD none = some name ↔
        book.tables.Named row (place + 1) name := by
  have each : ∀ index ∈ row.params, ∃ param,
      Tables.row book.tables.params "Param" index = .ok param := by
    intro index listed
    obtain ⟨param, _, found⟩ := Tables.row_of_within (sound.params row member index listed) "Param"
    exact ⟨param, found⟩
  obtain ⟨params, found⟩ := mapM_total each
  have rows := mapM_ok_iff.mp found
  -- No two parameters of a method have one sequence number, so the last entry is the only one.
  have apart : params.Pairwise fun first second => first.sequence ≠ second.sequence :=
    pairwise_of_forall₂ rows (tidy.sequences row member)
      fun first second value next here there distinct => distinct value next here there
  unfold parameterNames
  rw [found]
  refine ⟨_, rfl, fun place name => ?_⟩
  have distinct : ((params.filter (·.sequence != 0)).map fun param =>
      ((param.sequence : Int), stated (some param.name))).Pairwise fun first second =>
        first.1 ≠ second.1 := by
    refine List.pairwise_map.mpr ((apart.filter _).imp fun differ same => differ ?_)
    exact Int.ofNat.inj same
  rw [Option.getD_eq_iff]
  simp only [lastValue_iff distinct, reduceCtorEq, and_false, or_false]
  constructor
  · intro entry
    obtain ⟨param, kept, same⟩ := List.mem_map.mp entry
    obtain ⟨sequenced, named⟩ := Prod.mk.inj same
    obtain ⟨index, listed, stands⟩ := forall₂_source rows param (List.mem_filter.mp kept).1
    obtain ⟨same, filled⟩ := Option.filter_eq_some_iff.mp named
    cases same
    exact ⟨by simpa using filled, index, listed, param, stands, by omega, rfl⟩
  · rintro ⟨filled, index, listed, param, stands, sequenced, rfl⟩
    obtain ⟨value, inside, same⟩ := forall₂_source rows.flip index listed
    obtain rfl := Except.ok.inj (stands.symm.trans same)
    refine List.mem_map.mpr ⟨param, List.mem_filter.mpr ⟨inside, by simp [sequenced]⟩, ?_⟩
    simp [sequenced, stated, Option.filter, filled]

end Book

end ProxyHeaders.Metadata
