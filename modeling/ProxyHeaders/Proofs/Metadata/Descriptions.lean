import ProxyHeaders.Proofs.Metadata.Joined
import ProxyHeaders.Proofs.Metadata.Legend

/-!
Descriptions of types. Where references are in range and every signature has a meaning, each type
is described by its own rows: all its members, in order and with their types, and by no rows of
others.
-/
namespace ProxyHeaders.Metadata

open Book (mentionDepth)

variable {α β : Type}

/-! Outcomes that are right, or lost because something lies too deep -/

def Right (deep : Prop) (good : α → Prop) : Except Fault α → Prop
  | .ok value => good value
  | .error fault => fault = .tooDeep ∧ deep

variable {deep : Prop}

theorem Right.bind {good : α → Prop} {better : β → Prop} {outcome : Except Fault α}
    {next : α → Except Fault β} (right : Right deep good outcome)
    (rest : ∀ value, good value → Right deep better (next value)) :
    Right deep better (outcome >>= next) := by
  cases outcome with
  | ok value => exact rest value right
  | error fault => exact right

theorem Right.mapM {good : α → β → Prop} {items : List α} {read : α → Except Fault β}
    (each : ∀ item ∈ items, Right deep (good item) (read item)) :
    Right deep (List.Forall₂ good items) (items.mapM read) := by
  induction items with
  | nil => exact .nil
  | cons item rest ih =>
    rw [List.mapM_cons]
    refine (each item List.mem_cons_self).bind fun value here => ?_
    refine (ih fun item member => each item (List.mem_cons_of_mem _ member)).bind fun _ later => ?_
    exact .cons here later

theorem right_of_found {good : α → Prop} {outcome : Except Fault α} {value : α}
    (found : outcome = .ok value) (right : good value) : Right deep good outcome := by
  rw [found]
  exact right

/-! What a description says -/

namespace Tables

/-- What a type derives from, by the reference in its row. -/
inductive Derives (tables : Tables) (answer : Call → TypeRef) :
    Option Link → Option TypeRef → Prop
  | nothing : Derives tables answer none none
  | own (index : Int) : Derives tables answer (some ⟨.typeDef, index⟩)
      (some (answer ⟨.typeDef, index, .classType⟩))
  | constructed (index : Int) : Derives tables answer (some ⟨.typeSpec, index⟩)
      (some (answer ⟨.typeSpec, index, .classType⟩))
  | foreign {index : Int} {row : TypeRefRow}
      (found : Tables.row tables.typeRefs "TypeRef" index = .ok row) :
      Derives tables answer (some ⟨.typeRef, index⟩)
        (some { name := row.name, space := stated (some row.space) })

def isStorage (tables : Tables) (index : Int) : Bool :=
  match Tables.row tables.fields "Field" index with
  | .ok row => row.name == enumValueField && !row.isStatic
  | .error _ => false

def isMember (tables : Tables) (index : Int) : Bool :=
  match Tables.row tables.fields "Field" index with
  | .ok row => row.isLiteral && !tables.isStorage index
  | .error _ => false

theorem propertiesOf_within {tables : Tables} (sound : tables.Sound) {index property : Int}
    (listed : property ∈ tables.propertiesOf index) : Within tables.properties property := by
  obtain ⟨row, member, listed⟩ := List.mem_flatMap.mp listed
  exact sound.properties row (List.mem_filter.mp member).1 property listed

/-- A member of an enum; its value is zero where no constant tells it. -/
structure DescribesMember (tables : Tables) (index : Int) (member : EnumMember) : Prop where
  row : ∃ row, Tables.row tables.fields "Field" index = .ok row ∧ member.name = row.name
  value : tables.Valued index member.value ∨
    (∀ value, ¬ tables.Valued index value) ∧ member.value = 0

end Tables

namespace Legend

variable {book : Book} (legend : Legend book.tables) (answer : Call → TypeRef) (owner : String)

def DescribesField (index : Int) (field : Field) : Prop :=
  ∃ row, Tables.row book.tables.fields "Field" index = .ok row ∧ field = {
    name := row.name, type := (legend.fields index).type.type answer
    isStatic := row.isStatic, isReadonly := row.isReadonly, isLiteral := row.isLiteral
    declaringType := some owner }

/-- A parameter has the name that its own place states, if any. -/
structure DescribesParameters (index : Int) (row : MethodRow) (parameters : List Parameter) :
    Prop where
  types : parameters.map (·.type) = ((legend.methods index).signature answer).parameters
  names : ∀ place parameter, parameters[place]? = some parameter →
    ∀ name, parameter.name = some name ↔ book.tables.Named row (place + 1) name

def DescribesMethod (index : Int) (method : Method) : Prop :=
  ∃ row parameters, Tables.row book.tables.methods "MethodDef" index = .ok row ∧
    legend.DescribesParameters answer index row parameters ∧ method = {
      name := row.name, returnType := ((legend.methods index).signature answer).returnType
      parameters, isStatic := row.isStatic, isSpecialName := row.isSpecialName
      isConstructor := constructorNames.contains row.name
      genericArity := ((legend.methods index).signature answer).genericCount
      declaringType := some owner }

def DescribesProperty (index : Int) (property : Property) : Prop :=
  ∃ row hasGetter hasSetter, Tables.row book.tables.properties "Property" index = .ok row ∧
    (hasGetter = true ↔ book.tables.Accessed (·.isGetter) index) ∧
    (hasSetter = true ↔ book.tables.Accessed (·.isSetter) index) ∧ property = {
      name := row.name, type := ((legend.properties index).signature answer).type
      isStatic := !((legend.properties index).signature answer).hasThis, hasGetter, hasSetter
      indexParameterCount := ((legend.properties index).signature answer).parameters.length
      declaringType := some owner }

/-- A type with all its members, and an enum with its values, as their rows say. -/
structure Describes (index : Int) (row : TypeDefRow) (type : TypeDecl) : Prop where
  name : type.name = row.name
  space : ∃ space, book.tables.spaceOf index = .ok space ∧ type.space = stated (some space)
  category : book.categoryAt index = .ok type.category
  base : book.tables.Derives answer row.base type.base
  arity : statedArity row.name = .ok type.genericArity
  isNested : type.isNested = (book.tables.enclosing? index).isSome
  source : type.source = book.source
  fields : if type.isEnum then type.fields = []
    else List.Forall₂ (legend.DescribesField answer type.fullName) row.fields type.fields
  members : if type.isEnum then
      List.Forall₂ book.tables.DescribesMember (row.fields.filter book.tables.isMember)
        type.enumMembers
    else type.enumMembers = []
  storage : type.enumUnderlying = if type.isEnum then
      ((row.fields.filter book.tables.isStorage).map fun index =>
        ((legend.fields index).type.type answer).name).getLast?
    else none
  methods : List.Forall₂ (legend.DescribesMethod answer type.fullName) row.methods type.methods
  properties : List.Forall₂ (legend.DescribesProperty answer type.fullName)
    (book.tables.propertiesOf index) type.properties

end Legend

/-! Names that state their arity in a few plain digits -/

theorem decimalValue_plain {digits : List Char} (plain : digits.all Char.isDigit) :
    ∃ value, Text.decimalValue? digits = some value := by
  unfold Text.decimalValue?
  generalize 0 = value
  induction digits generalizing value with
  | nil => exact ⟨value, rfl⟩
  | cons digit rest ih =>
    rw [List.all_cons, Bool.and_eq_true] at plain
    have ascii : Text.isAscii digit := by
      have most := (Char.isDigit_iff_toNat.mp plain.1).2
      exact decide_eq_true (Nat.lt_of_le_of_lt most (by decide))
    rw [List.foldl_cons]
    simp only [Text.digitValue?, ascii, plain.1]
    exact ih plain.2 _

theorem statedArity_plain {name : String}
    (plain : ∀ suffix, (Text.cutAt arityMark name).2 = some suffix →
      suffix.toList.all Char.isDigit ∧ suffix.length ≤ maxArityDigits) :
    ∃ arity, statedArity name = .ok arity := by
  unfold statedArity
  cases cut : (Text.cutAt arityMark name).2 with
  | none => exact ⟨0, rfl⟩
  | some suffix =>
    obtain ⟨digits, short⟩ := plain suffix cut
    obtain ⟨value, read⟩ := decimalValue_plain digits
    simp only [read, if_neg (Nat.not_lt.mpr short)]
    split
    · exact ⟨0, rfl⟩
    · exact ⟨value, rfl⟩

namespace Legend

variable {book : Book} (sound : book.tables.Sound) (tidy : book.tables.Tidy)
  (elsewhere : ∀ assembly fullName, ∃ isEnum, book.isEnumElsewhere assembly fullName = .ok isEnum)
  (legend : Legend book.tables) {answer : Call → TypeRef} (agrees : book.Agrees answer)

include sound elsewhere agrees

theorem spelled_right {read : Reader (List Call × Unit) α} {other : Reader Memory α}
    {nesting : Nat} {bytes blob : List UInt8} {calls : List Call} {meaning : StateM Unit α}
    (follows : Follows ((book.consulting (book.levels - nesting) book.levels
      (book.levels < nesting)).scan fun _ => True) read other)
    (reads : Reads read bytes calls meaning) (spelled : bytes <+: blob)
    (inside : ∀ call ∈ calls, book.tables.InRange call.link)
    (fits : ∀ depth, legend.FitsWith depth → FitsIn depth nesting calls book.levels) :
    Right (¬ legend.Fits) (· = (meaning.run ()).1) (outcomeOf (other.run blob)) := by
  have settled : ∀ call ∈ calls, Settled book answer call := fun call member =>
    call_settled sound elsewhere legend agrees (inside call member)
  obtain found | ⟨unread, late⟩ :=
    Book.read_spelled follows reads spelled (fault_of_settled settled)
  · exact right_of_found found rfl
  · rw [unread]
    refine ⟨rfl, fun ⟨depth, fitting⟩ => ?_⟩
    exact fits_read sound elsewhere legend agrees fitting (fits depth fitting) inside late

theorem field_right {owner : String} {index : Int}
    (inside : Tables.Within book.tables.fields index) :
    Right (¬ legend.Fits) (legend.DescribesField answer owner index)
      (outcomeOf (book.readField owner index)) := by
  have same : outcomeOf (book.readField owner index) = _ :=
    (Book.Settles.bind (Book.lift_settles _) fun row _ =>
      Book.Settles.bind (Book.fieldSignature_settled row.signature) fun _ _ =>
        Book.pure_settles _).outcome
  rw [same]
  obtain ⟨row, _, found⟩ := Tables.row_of_within inside "Field"
  refine (right_of_found found rfl).bind fun _ same => ?_
  subst same
  have shallow := Nat.le_refl (legend.fields index).type.nesting
  refine (spelled_right sound elsewhere legend agrees
    (fieldAt_follows (Book.consulting_types agrees _ (Nat.le_succ book.levels)))
    (reads_field (steady answer) (legend.fields index) _ shallow)
    (legend.fields_spelled index row found) (legend.fields_mention index inside)
    fun depth fits => fits.fields index inside).bind fun type meant => ?_
  exact ⟨row, found, by rw [meant]; rfl⟩

theorem property_right {owner : String} {index : Int}
    (inside : Tables.Within book.tables.properties index) :
    Right (¬ legend.Fits) (legend.DescribesProperty answer owner index)
      (outcomeOf (book.readProperty book.tables.joined owner index)) := by
  have same : outcomeOf (book.readProperty book.tables.joined owner index) = _ :=
    (Book.Settles.bind (Book.lift_settles _) fun row _ =>
      Book.Settles.bind (Book.propertySignature_settled row.signature) fun _ _ =>
        Book.pure_settles _).outcome
  rw [same]
  obtain ⟨row, _, found⟩ := Tables.row_of_within inside "Property"
  refine (right_of_found found rfl).bind fun _ same => ?_
  subst same
  refine (spelled_right sound elsewhere legend agrees
    (propertyAt_follows (Book.consulting_types agrees _ (Nat.le_succ book.levels)))
    (reads_property (steady answer) _ _ (legend.properties index).fits)
    (legend.properties_spelled index row found) (legend.properties_mention index inside)
    fun depth fits => fits.properties index inside).bind fun signature meant => ?_
  subst meant
  refine ⟨row, _, _, found, ?_, ?_, rfl⟩
  · exact List.contains_iff_mem.trans (Tables.joined_accessor (·.isGetter))
  · exact List.contains_iff_mem.trans (Tables.joined_accessor (·.isSetter))

theorem method_right (tidy : book.tables.Tidy) {owner : String} {index : Int}
    (inside : Tables.Within book.tables.methods index) :
    Right (¬ legend.Fits) (legend.DescribesMethod answer owner index)
      (outcomeOf (book.readMethod owner index)) := by
  have same : outcomeOf (book.readMethod owner index) = _ :=
    (Book.Settles.bind (Book.lift_settles _) fun row _ =>
      Book.Settles.bind (Book.methodSignature_settled row.signature) fun _ _ =>
        Book.Settles.bind (Book.lift_settles _) fun _ _ => Book.pure_settles _).outcome
  rw [same]
  obtain ⟨row, member, found⟩ := Tables.row_of_within inside "MethodDef"
  refine (right_of_found found rfl).bind fun _ same => ?_
  subst same
  refine (spelled_right sound elsewhere legend agrees
    (methodAt_follows (Book.consulting_types agrees _ (Nat.le_succ book.levels)))
    (reads_method_signature (steady answer) _ _ (legend.methods index).fits)
    (legend.methods_spelled index row found) (legend.methods_mention index inside)
    fun depth fits => fits.methods index inside).bind fun signature meant => ?_
  subst meant
  obtain ⟨names, named, right⟩ := Book.parameterNames_named sound tidy member
  rw [named]
  refine ⟨row, _, found, ⟨?_, fun place parameter stands => ?_⟩, rfl⟩
  · rw [List.map_map]
    exact List.zipIdx_map_fst 0 _
  · rw [List.getElem?_map, List.getElem?_zipIdx] at stands
    simp only [Option.map_map, Option.map_eq_some_iff] at stands
    obtain ⟨type, _, rfl⟩ := stands
    simpa using right place

theorem spec_right {index : Int} {hint : Category}
    (inside : Tables.Within book.tables.typeSpecs index)
    (enough : ∀ depth, legend.FitsWith depth → mentionDepth + depth index ≤ book.levels) :
    Right (¬ legend.Fits) (· = answer ⟨.typeSpec, index, hint⟩)
      (book.outcomeAt book.levels ⟨.typeSpec, index, hint⟩) := by
  have settled : Settled book answer ⟨.typeSpec, index, hint⟩ :=
    call_settled sound elsewhere legend agrees inside
  obtain found | unread := settled.1 book.levels
  · exact right_of_found found rfl
  · rw [unread]
    refine ⟨rfl, fun ⟨depth, fits⟩ => ?_⟩
    exact spec_shallow sound elsewhere legend agrees fits inside (enough depth fits) unread

theorem base_right {row : TypeDefRow} (member : row ∈ book.tables.typeDefs.getD []) :
    Right (¬ legend.Fits) (book.tables.Derives answer row.base) (book.baseFound row) := by
  unfold Book.baseFound
  cases base : row.base with
  | none => exact .nothing
  | some link =>
    obtain ⟨table, index⟩ := link
    obtain ⟨inside, isType⟩ := sound.bases row member _ base
    simp only [List.mem_cons, List.not_mem_nil, or_false] at isType
    obtain rfl | rfl | rfl := isType
    · obtain ⟨own, _, found⟩ := Tables.row_of_within inside "TypeDef"
      have resolved := flat_found sound elsewhere agrees ⟨.typeDef, index, .classType⟩ inside
        (by simp) book.levels
      simp only [Tables.follow, Tables.followLink, Tables.pick_of_row found]
      exact (right_of_found resolved rfl).bind fun _ same => same ▸ .own index
    · obtain ⟨own, _, found⟩ := Tables.row_of_within inside "TypeRef"
      simp only [Tables.follow, Tables.followLink, Tables.pick_of_row found]
      exact .foreign found
    · obtain ⟨own, _, found⟩ := Tables.row_of_within inside "TypeSpec"
      simp only [Tables.follow, Tables.followLink, Tables.pick_of_row found]
      exact (spec_right sound elsewhere legend agrees inside fun depth fits =>
        fits.bases row member index base).bind fun _ same => same ▸ .constructed index

theorem head_right (tidy : book.tables.Tidy) {index : Int} {row : TypeDefRow}
    (found : book.tables.typeDef index = .ok row) :
    Right (¬ legend.Fits) (fun head => ∃ space category base arity,
      book.tables.spaceOf index = .ok space ∧ book.categoryAt index = .ok category ∧
      book.tables.Derives answer row.base base ∧ statedArity row.name = .ok arity ∧
      head = {
        name := row.name, space := stated (some space), category, base, genericArity := arity
        isNested := (book.tables.enclosing? index).isSome, source := book.source })
      (book.headFound index row) := by
  have member := Tables.mem_of_row found
  have inside : Tables.Within book.tables.typeDefs index := Tables.row_bounds found
  obtain ⟨space, placed⟩ := sound.spaceOf inside
  obtain ⟨category, named⟩ := Book.categoryAt_sound sound inside
  obtain ⟨arity, counted⟩ := statedArity_plain (tidy.names row member)
  unfold Book.headFound
  refine (right_of_found placed rfl).bind fun _ same => ?_
  subst same
  refine (right_of_found named rfl).bind fun _ same => ?_
  subst same
  refine (base_right sound elsewhere legend agrees member).bind fun base derives => ?_
  simp only [TypeDecl.normalize, if_pos, counted]
  exact ⟨_, _, base, arity, placed, named, derives, rfl, rfl⟩

omit sound elsewhere agrees

def DescribesEntry (legend : Legend book.tables) (answer : Call → TypeRef) (owner : String)
    (index : Int) (entry : Int × Field) : Prop :=
  entry.1 = index ∧ legend.DescribesField answer owner index entry.2

section Fields

variable {legend} {owner : String} {index : Int} {entry : Int × Field}

theorem DescribesEntry.isStorage (described : legend.DescribesEntry answer owner index entry) :
    book.tables.isStorage index = Book.isEnumStorage entry.2 := by
  obtain ⟨_, row, found, field⟩ := described
  simp only [Tables.isStorage, found, field, Book.isEnumStorage]

theorem DescribesEntry.isMember (described : legend.DescribesEntry answer owner index entry) :
    book.tables.isMember index = (entry.2.isLiteral && !Book.isEnumStorage entry.2) := by
  have storage := described.isStorage
  obtain ⟨_, row, found, field⟩ := described
  simp only [Tables.isMember, found, storage, field]

include tidy in
theorem DescribesEntry.member (described : legend.DescribesEntry answer owner index entry) :
    book.tables.DescribesMember index {
      name := entry.2.name
      value := (Tables.lastValue book.tables.joined.constants entry.1).getD 0 } := by
  obtain ⟨rfl, row, found, field⟩ := described
  refine ⟨⟨row, found, by rw [field]⟩, ?_⟩
  cases told : Tables.lastValue book.tables.joined.constants entry.1 with
  | some value => exact .inl ((Tables.joined_constant tidy).mp told)
  | none =>
    refine .inr ⟨fun value valued => ?_, rfl⟩
    rw [(Tables.joined_constant tidy).mpr valued] at told
    cases told

variable {indices : List Int} {fields : List (Int × Field)}
  (all : List.Forall₂ (legend.DescribesEntry answer owner) indices fields)

include all

theorem fields_described :
    List.Forall₂ (legend.DescribesField answer owner) indices (fields.map (·.2)) :=
  List.forall₂_map_right_iff.mpr (all.imp fun _ _ => And.right)

include tidy in
theorem members_described :
    List.Forall₂ book.tables.DescribesMember (indices.filter book.tables.isMember)
      ((fields.filter fun (_, field) => field.isLiteral && !Book.isEnumStorage field).map
        fun (index, field) =>
          { name := field.name,
            value := (Tables.lastValue book.tables.joined.constants index).getD 0 }) := by
  refine List.forall₂_map_right_iff.mpr ?_
  have kept := List.rel_filter (q := fun (_, field) =>
    field.isLiteral && !Book.isEnumStorage field)
    (fun _ _ described => iff_of_eq (congrArg (· = true) described.isMember)) all
  exact kept.imp fun _ _ described => described.member tidy

theorem storage_described :
    ((fields.filter (Book.isEnumStorage ·.2)).getLast?).map (·.2.type.name) =
      ((indices.filter book.tables.isStorage).map fun index =>
        ((legend.fields index).type.type answer).name).getLast? := by
  have kept := List.rel_filter (q := (Book.isEnumStorage ·.2))
    (fun _ _ described => iff_of_eq (congrArg (· = true) described.isStorage)) all
  rw [← List.getLast?_map]
  congr 1
  rw [← List.forall₂_eq_eq_eq, List.forall₂_map_left_iff, List.forall₂_map_right_iff]
  refine kept.flip.imp ?_
  rintro entry index ⟨_, row, _, field⟩
  rw [field]

end Fields

include sound elsewhere agrees

theorem type_right (tidy : book.tables.Tidy) {index : Int} {row : TypeDefRow}
    (found : book.tables.typeDef index = .ok row) :
    Right (¬ legend.Fits) (legend.Describes answer index row)
      (book.typeFound book.tables.joined index row) := by
  have member := Tables.mem_of_row found
  refine (head_right sound elsewhere legend agrees tidy found).bind ?_
  rintro _ ⟨space, category, base, arity, placed, named, derives, counted, rfl⟩
  have field (owner : String) (index : Int) (listed : index ∈ row.fields) :
      Right (¬ legend.Fits) (legend.DescribesEntry answer owner index)
        (do return (index, ← outcomeOf (book.readField owner index))) :=
    (field_right sound elsewhere legend agrees (sound.fields row member index listed)).bind
      fun field described => ⟨rfl, described⟩
  refine (Right.mapM (field _)).bind fun fields described => ?_
  refine (Right.mapM fun index listed => method_right sound elsewhere legend agrees tidy
    (sound.methods row member index listed)).bind fun methods methodsDescribed => ?_
  refine (Right.mapM fun index listed => property_right sound elsewhere legend agrees
    (Tables.propertiesOf_within sound listed)).bind fun properties propertiesDescribed => ?_
  unfold Book.withFields
  -- The fields of an enum are its storage and its members; those of other types stay fields.
  split
  case isTrue isEnum =>
    exact {
      name := rfl, space := ⟨space, placed, rfl⟩, category := named, base := derives
      arity := counted, isNested := rfl, source := rfl
      fields := by rw [if_pos (by exact isEnum)]
      members := by
        rw [if_pos (by exact isEnum)]
        exact members_described tidy described
      storage := by
        rw [if_pos (by exact isEnum)]
        exact storage_described described
      methods := methodsDescribed
      properties := propertiesDescribed }
  case isFalse plain =>
    exact {
      name := rfl, space := ⟨space, placed, rfl⟩, category := named, base := derives
      arity := counted, isNested := rfl, source := rfl
      fields := by
        rw [if_neg (by exact plain)]
        exact fields_described described
      members := by rw [if_neg (by exact plain)]
      storage := by rw [if_neg (by exact plain)]
      methods := methodsDescribed
      properties := propertiesDescribed }

theorem entry_right (tidy : book.tables.Tidy) {index : Int} {row : TypeDefRow}
    (found : book.tables.typeDef index = .ok row) :
    Right (¬ legend.Fits) (fun entry => ∃ type, entry = some type ∧
      legend.Describes answer index row type) (book.entryOf book.tables.joined index row) := by
  have right := type_right sound elsewhere legend agrees tidy found
  unfold Book.entryOf
  cases outcome : book.typeFound book.tables.joined index row with
  | ok type =>
    rw [outcome] at right
    exact ⟨type, rfl, right⟩
  | error fault =>
    rw [outcome] at right
    obtain ⟨rfl, deep⟩ := right
    exact ⟨rfl, deep⟩

end Legend

theorem filterMap_described {good : α → β → Prop} {items : List α} {entries : List (Option β)}
    (all : List.Forall₂ (fun item entry => ∃ value, entry = some value ∧ good item value)
      items entries) : List.Forall₂ good items (entries.filterMap id) := by
  induction all with
  | nil => exact .nil
  | cons here _ ih =>
    obtain ⟨value, rfl, right⟩ := here
    exact .cons right ih

namespace Book

/-- Reading tables loses and confuses nothing: every type is described by its own rows, in order,
and no type is left out. Only if something lies too deep it may be that no type is read. -/
theorem tables_read_exactly {book : Book} (legend : Legend book.tables)
    (sound : book.tables.Sound) (tidy : book.tables.Tidy)
    (elsewhere : ∀ assembly fullName, ∃ isEnum,
      book.isEnumElsewhere assembly fullName = .ok isEnum) :
    ∃ answer, legend.Sound answer ∧
      ((∃ types, outcomeOf book.readTypes = .ok types ∧
          List.Forall₂ (fun (index, row) => legend.Describes answer index row) book.listed types) ∨
        outcomeOf book.readTypes = .error .tooDeep ∧ ¬ legend.Fits) := by
  obtain ⟨answer, agrees⟩ := exists_agrees book
  refine ⟨answer, Legend.answers_sound sound elsewhere legend agrees, ?_⟩
  have each : Right (¬ legend.Fits) (List.Forall₂ (fun (index, row) entry => ∃ type,
      entry = some type ∧ legend.Describes answer index row type) book.listed) book.entries := by
    refine (right_of_found (Tables.joins_joined sound tidy) rfl).bind fun joins same => ?_
    subst same
    exact Right.mapM fun (index, row) member => Legend.entry_right sound elsewhere legend agrees
      tidy (typeDef_of_numbered (List.mem_of_mem_filter member))
  rw [readTypes_settles.outcome]
  cases found : book.entries with
  | ok entries =>
    rw [found] at each
    exact .inl ⟨_, rfl, filterMap_described each⟩
  | error fault =>
    rw [found] at each
    obtain ⟨rfl, deep⟩ := each
    exact .inr ⟨rfl, deep⟩

/-- An assembly whose types have members of every kind; rows of other tables have the numbers of
its fields and its property, and the names of parameters are not in order. -/
def gateBook : Book := { tables := {
  typeDefs := some [
    { name := "<Module>" },
    { name := "Mode", space := "Game", base := some ⟨.typeRef, 1⟩, fields := [1, 2] },
    { name := "Gate\x601", space := "Game", base := some ⟨.typeSpec, 1⟩, fields := [3]
      methods := [1] }]
  typeRefs := some [
    { name := "Enum", space := "System" }, { name := "List\x601", space := "Lists" }]
  typeSpecs := some [[0x15, 0x12, 0x09, 0x01, 0x11, 0x08]]
  fields := some [
    { name := "value__", signature := [0x06, 0x08] },
    { name := "Open", signature := [0x06, 0x11, 0x08], isStatic := true, isLiteral := true },
    { name := "modes", signature := [0x06, 0x12, 0x06] }]
  methods := some [
    { name := "Turn", signature := [0x20, 0x02, 0x01, 0x08, 0x0e], params := [1, 2] }]
  params := some [{ sequence := 2, name := "key" }, { sequence := 1, name := "angle" }]
  properties := some [{ name := "Current", signature := [0x28, 0x00, 0x11, 0x08] }]
  propertyMaps := some [{ parent := 3, properties := [1] }]
  semantics := some [
    { association := some ⟨.property, 1⟩, isGetter := true },
    { association := some ⟨.other "Event", 1⟩, isSetter := true }]
  constants := some [
    { parent := some ⟨.field, 2⟩, element := 0x08, value := [5, 0, 0, 0] },
    { parent := some ⟨.other "Param", 2⟩, element := 0x08, value := [9, 0, 0, 0] }]
  others := [("Event", [some "Opened"]), ("Param", [some "key", some "angle"])] } }

def voidTree : TypeTree := functionTower 0

def intTree : TypeTree := .leaf [] (.primitive 0x08 ⟨"Int32", .structType⟩ rfl)

def textTree : TypeTree := .leaf [] (.primitive 0x0e ⟨"String", .classType⟩ rfl)

def modeTree : TypeTree := .leaf [] (.valueType ⟨.typeDef, ⟨2, by decide⟩⟩)

def gateLegend : Legend gateBook.tables where
  specs _ := .generic [] 0x12 ⟨.typeRef, ⟨2, by decide⟩⟩ ⟨1, by decide⟩ fun _ => modeTree
  fields index :=
    if index = 1 then ⟨0x06, rfl, intTree⟩
    else if index = 2 then ⟨0x06, rfl, modeTree⟩
    else ⟨0x06, rfl, .leaf [] (.classType ⟨.typeSpec, ⟨1, by decide⟩⟩)⟩
  methods _ :=
    { head := ⟨0x20, ⟨0, by decide⟩⟩, returned := voidTree, count := ⟨2, by decide⟩
      sentinels := fun _ => 0
      parameters := fun place => if place.val = 0 then intTree else textTree }
  properties _ := ⟨0x28, rfl, modeTree, ⟨0, by decide⟩, fun _ => modeTree⟩
  rank _ := 0
  specs_spelled := Tables.each_row (by decide)
  fields_spelled := Tables.each_row (by decide)
  methods_spelled := Tables.each_row (by decide)
  properties_spelled := Tables.each_row (by decide)
  specs_mention := Tables.each_number (by decide)
  fields_mention := Tables.each_number (by decide)
  methods_mention := Tables.each_number (by decide)
  properties_mention := Tables.each_number (by decide)
  straight := Tables.each_number (by decide)

theorem gate_sound : gateBook.tables.Sound where
  bases := by decide
  scopes := by decide
  enclosing := by decide
  fields := by decide
  methods := by decide
  params := by decide
  properties := by decide
  parents := by decide
  associations := by decide

theorem gate_tidy : gateBook.tables.Tidy where
  names := by decide
  stored := by decide
  constants := by decide
  sequences := by
    intro row member
    obtain rfl := List.mem_singleton.mp member
    refine List.pairwise_pair.mpr ?_
    rintro param other ⟨⟩ ⟨⟩
    decide

theorem gate_fits : gateLegend.Fits := by
  refine ⟨fun _ => 2, ⟨Tables.each_number (by decide), ?_, Tables.each_number (by decide),
    Tables.each_number (by decide), Tables.each_number (by decide)⟩⟩
  intro _ _ _ _
  decide

theorem gate_read_exactly :
    gateBook.tables.Sound ∧ gateBook.tables.Tidy ∧
      (∀ assembly fullName, ∃ isEnum, gateBook.isEnumElsewhere assembly fullName = .ok isEnum) ∧
      ∃ answer types, gateLegend.Sound answer ∧ outcomeOf gateBook.readTypes = .ok types ∧
        List.Forall₂ (fun (index, row) => gateLegend.Describes answer index row) gateBook.listed
          types := by
  have elsewhere (assembly : Option String) (fullName : String) :
      ∃ isEnum, gateBook.isEnumElsewhere assembly fullName = .ok isEnum := ⟨false, rfl⟩
  refine ⟨gate_sound, gate_tidy, elsewhere, ?_⟩
  obtain ⟨answer, right, ⟨types, found, described⟩ | ⟨_, deep⟩⟩ :=
    tables_read_exactly gateLegend gate_sound gate_tidy elsewhere
  · exact ⟨answer, types, right, found, described⟩
  · exact absurd gate_fits deep

/-- An assembly with an enum whose storage claims to be a member, and whose member has a constant
that is no whole number; a parameter has an empty name. -/
def oddBook : Book := { tables := {
  typeDefs := some [
    { name := "Mode", space := "Game", base := some ⟨.typeRef, 1⟩, fields := [1, 2] },
    { name := "Door", space := "Game", methods := [1] }]
  typeRefs := some [{ name := "Enum", space := "System" }]
  fields := some [
    { name := "value__", signature := [0x06, 0x08], isLiteral := true },
    { name := "Half", signature := [0x06, 0x08], isStatic := true, isLiteral := true }]
  methods := some [{ name := "Turn", signature := [0x00, 0x01, 0x01, 0x08], params := [1] }]
  params := some [{ sequence := 1, name := "" }]
  constants := some [{ parent := some ⟨.field, 2⟩, element := 0x0c, value := [0, 0, 0, 0x3f] }] } }

def oddTypes : List TypeDecl := [
  { name := "Mode", space := some "Game", category := .enumType
    base := some { name := "Enum", space := some "System" }, enumUnderlying := some "Int32"
    enumMembers := [{ name := "Half", value := 0 }], source := "dnfile" },
  { name := "Door", space := some "Game"
    methods := [{
      name := "Turn"
      returnType := { name := "Void", space := some "System", category := .structType }
      parameters := [{
        name := none
        type := { name := "Int32", space := some "System", category := .structType } }]
      declaringType := some "Game.Door" }]
    source := "dnfile" }]

def oddLegend : Legend oddBook.tables where
  specs _ := intTree
  fields _ := ⟨0x06, rfl, intTree⟩
  methods _ :=
    { head := ⟨0x00, ⟨0, by decide⟩⟩, returned := voidTree, count := ⟨1, by decide⟩
      sentinels := fun _ => 0, parameters := fun _ => intTree }
  properties _ := ⟨0x28, rfl, intTree, ⟨0, by decide⟩, fun _ => intTree⟩
  rank _ := 0
  specs_spelled := Tables.each_row (by decide)
  fields_spelled := Tables.each_row (by decide)
  methods_spelled := Tables.each_row (by decide)
  properties_spelled := Tables.each_row (by decide)
  specs_mention := Tables.each_number (by decide)
  fields_mention := Tables.each_number (by decide)
  methods_mention := Tables.each_number (by decide)
  properties_mention := Tables.each_number (by decide)
  straight := Tables.each_number (by decide)

theorem odd_sound : oddBook.tables.Sound where
  bases := by decide
  scopes := by decide
  enclosing := by decide
  fields := by decide
  methods := by decide
  params := by decide
  properties := by decide
  parents := by decide
  associations := by decide

theorem odd_tidy : oddBook.tables.Tidy where
  names := by decide
  stored := by decide
  constants := by decide
  sequences row member := by
    obtain rfl := List.mem_singleton.mp member
    exact List.pairwise_singleton _ _

theorem tower_calls (height : Nat) : (functionTower height).calls = [] := by
  induction height with
  | zero => rfl
  | succ height ih => simp [functionTower, TypeTree.calls, ih, joined]

abbrev towerRow : TypeDefRow := { name := "Tower", space := "Game", fields := [1] }

def towerBook (height : Nat) : Book := { tables := {
  typeDefs := some [towerRow]
  fields := some [{ name := "top", signature := 0x06 :: (functionTower height).encode }] } }

def towerLegend (height : Nat) : Legend (towerBook height).tables where
  specs _ := intTree
  fields _ := ⟨0x06, rfl, functionTower height⟩
  methods _ :=
    { head := ⟨0x00, ⟨0, by decide⟩⟩, returned := voidTree, count := ⟨0, by decide⟩
      sentinels := fun _ => 0, parameters := fun _ => intTree }
  properties _ := ⟨0x28, rfl, intTree, ⟨0, by decide⟩, fun _ => intTree⟩
  rank _ := 0
  specs_spelled := Tables.each_row (by simp [towerBook])
  fields_spelled := Tables.each_row (by simp [towerBook, FieldTree.encode])
  methods_spelled := Tables.each_row (by simp [towerBook])
  properties_spelled := Tables.each_row (by simp [towerBook])
  specs_mention := Tables.each_number (by simp [towerBook])
  fields_mention := Tables.each_number (by simp [tower_calls])
  methods_mention := Tables.each_number (by simp [towerBook])
  properties_mention := Tables.each_number (by simp [towerBook])
  straight := Tables.each_number (by simp [towerBook])

theorem tower_sound (height : Nat) : (towerBook height).tables.Sound where
  bases := by simp [towerBook, towerRow]
  scopes := by simp [towerBook]
  enclosing := by simp [towerBook]
  fields := by simp [towerBook, towerRow, Tables.Within]
  methods := by simp [towerBook, towerRow]
  params := by simp [towerBook]
  properties := by simp [towerBook]
  parents := by simp [towerBook]
  associations := by simp [towerBook]

theorem tower_tidy (height : Nat) : (towerBook height).tables.Tidy where
  names row member := by
    obtain rfl := List.mem_singleton.mp member
    decide
  stored := by simp [towerBook]
  constants := by simp [towerBook]
  sequences := by simp [towerBook]

theorem tower_unread {height : Nat} (high : (towerBook height).levels ≤ height) :
    outcomeOf (towerBook height).readTypes = .error .tooDeep := by
  obtain ⟨scan, deep⟩ :=
    tower_too_deep (towerBook height).resolver (towerBook height).levels height high [] 1
      ({} : Memory)
  rw [List.append_nil] at deep
  have signature : outcomeOf (fieldSignature (towerBook height).resolver (towerBook height).levels
      (0x06 :: (functionTower height).encode)) = .error .tooDeep := by
    simp [outcomeOf, valueOf, fieldSignature, Reader.run, Reader.fieldAt, Reader.heading,
      Reader.byte, bind, EStateM.bind, pure, EStateM.pure, deep]
  have field (owner : String) :
      outcomeOf ((towerBook height).readField owner 1) = .error .tooDeep := by
    have same : outcomeOf ((towerBook height).readField owner 1) = _ :=
      (Settles.bind (lift_settles _) fun row _ =>
        Settles.bind (fieldSignature_settled row.signature) fun _ _ => pure_settles _).outcome
    have found : Tables.row (towerBook height).tables.fields "Field" 1 =
        .ok { name := "top", signature := 0x06 :: (functionTower height).encode } := rfl
    rw [same, found]
    simp only [bind, Except.bind, signature]
  have plain : statedArity "Tower" = .ok 0 := rfl
  have space : stated (some "Game") = some "Game" := rfl
  have head : (towerBook height).headFound 1 towerRow =
      .ok { name := "Tower", space := some "Game", source := "dnfile" } := by
    have placed : (towerBook height).tables.spaceOf 1 = .ok "Game" := rfl
    have named : (towerBook height).categoryAt 1 = .ok .classType := rfl
    have derived : (towerBook height).baseFound towerRow = .ok none := rfl
    simp only [headFound, placed, named, derived, TypeDecl.normalize, plain, space, bind,
      Except.bind]
    rfl
  have unread (joins : Joins) :
      (towerBook height).typeFound joins 1 towerRow = .error .tooDeep := by
    simp [typeFound, head, towerRow, field, bind, Except.bind]
  have joins : (towerBook height).tables.joins = .ok ⟨[], [], []⟩ := rfl
  have listed : (towerBook height).listed = [(1, towerRow)] := rfl
  rw [readTypes_settles.outcome, entries_unread joins (listed ▸ List.mem_cons_self) (unread _)]
  rfl

/-- Storage is no member even where it is a literal, only whole numbers count as values, an empty
name counts as none, and what lies too deep takes everything with it. -/
theorem limits_of_exactness :
    (oddBook.tables.Sound ∧ oddBook.tables.Tidy ∧ Nonempty (Legend oddBook.tables) ∧
      (oddBook.tables.fields.getD []).map (fun row => (row.name, row.isLiteral)) =
        [("value__", true), ("Half", true)] ∧
      outcomeOf oddBook.readTypes = .ok oddTypes) ∧
    ((towerBook 3000).tables.Sound ∧ (towerBook 3000).tables.Tidy ∧
      Nonempty (Legend (towerBook 3000).tables) ∧
      outcomeOf (towerBook 3000).readTypes = .error .tooDeep) :=
  ⟨⟨odd_sound, odd_tidy, ⟨oddLegend⟩, rfl, rfl⟩,
    tower_sound 3000, tower_tidy 3000, ⟨towerLegend 3000⟩, tower_unread (by decide)⟩

end Book

end ProxyHeaders.Metadata
