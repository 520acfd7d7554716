import ProxyHeaders.Proofs.Metadata.Remembering

/-!
What a malformed blob costs. Types are resolved without the blobs of members, so a blob that is
replaced changes at most the types that it belongs to; but all values of constants are read before
any type is, and a type that is nested too deep takes all others with it.
-/
namespace ProxyHeaders.Metadata

/-- The blob of a member, by its row, counted from 0: the signature of a field, a method or a
property, or the value of a constant. -/
inductive BlobPlace where
  | field (place : Nat)
  | method (place : Nat)
  | property (place : Nat)
  | constant (place : Nat)
  deriving DecidableEq, Repr

namespace Tables

def withBlob (tables : Tables) (bytes : List UInt8) : BlobPlace → Tables
  | .field place => { tables with
      fields := tables.fields.map (·.modify place fun row => { row with signature := bytes }) }
  | .method place => { tables with
      methods := tables.methods.map (·.modify place fun row => { row with signature := bytes }) }
  | .property place => { tables with
      properties := tables.properties.map (·.modify place fun row =>
        { row with signature := bytes }) }
  | .constant place => { tables with
      constants := tables.constants.map (·.modify place fun row => { row with value := bytes }) }

/-- Whether a blob belongs to a member of a type. -/
def Owns (tables : Tables) (index : Int) (row : TypeDefRow) : BlobPlace → Prop
  | .field place => (place : Int) + 1 ∈ row.fields
  | .method place => (place : Int) + 1 ∈ row.methods
  | .property place => (place : Int) + 1 ∈ tables.propertiesOf index
  | .constant place => ∃ constant link, (tables.constants.getD [])[place]? = some constant ∧
      constant.parent = some link ∧ link.table = .field ∧ link.index ∈ row.fields

/-- Bytes that are too few for the value of an integral constant of a field. -/
def CutsShort (tables : Tables) (place : BlobPlace) (bytes : List UInt8) (element : Nat) : Prop :=
  ∃ number constant field form, place = .constant number ∧
    (tables.constants.getD [])[number]? = some constant ∧
    tables.follow constant.parent = .ok (some (.field field)) ∧ constant.element = element ∧
    constantForms.lookup element = some form ∧ bytes.length < form.size

end Tables

namespace Book

def withBlob (book : Book) (bytes : List UInt8) (place : BlobPlace) : Book :=
  { book with tables := book.tables.withBlob bytes place }

/-! Types are resolved without the blobs of members. -/

/-- Two books that resolve types alike. -/
structure SameTypes (book other : Book) : Prop where
  typeDefs : other.tables.typeDefs = book.tables.typeDefs
  typeRefs : other.tables.typeRefs = book.tables.typeRefs
  typeSpecs : other.tables.typeSpecs = book.tables.typeSpecs
  nested : other.tables.nested = book.tables.nested
  follow : other.tables.follow = book.tables.follow
  elsewhere : other.isEnumElsewhere = book.isEnumElsewhere
  source : other.source = book.source
  levels : other.levels = book.levels

namespace SameTypes

variable {book other : Book} (same : book.SameTypes other)

include same

theorem typeDef (index : Int) : other.tables.typeDef index = book.tables.typeDef index := by
  simp only [Tables.typeDef, same.typeDefs]

theorem enclosing (index : Int) :
    other.tables.enclosing? index = book.tables.enclosing? index := by
  simp only [Tables.enclosing?, same.nested]

theorem outermostFrom (steps : Nat) (met : List Int) (index : Int) :
    other.tables.outermostFrom steps met index = book.tables.outermostFrom steps met index := by
  induction steps generalizing met index with
  | zero => rfl
  | succ steps ih => simp only [Tables.outermostFrom, same.enclosing, ih]

theorem spaceOf (index : Int) : other.tables.spaceOf index = book.tables.spaceOf index := by
  simp only [Tables.spaceOf, Tables.outermost, same.nested, same.outermostFrom, same.typeDef]

theorem categoryOfRow : other.categoryOfRow = book.categoryOfRow := by
  funext row
  simp only [Book.categoryOfRow, Tables.baseName, same.follow]

theorem category (index : Int) : other.category index = book.category index := by
  simp only [Book.category, same.typeDef, same.categoryOfRow]

theorem scopeFrom (steps : Nat) (scope : Option Link) :
    other.tables.scopeFrom steps scope = book.tables.scopeFrom steps scope := by
  induction steps generalizing scope with
  | zero => rw [Tables.scopeFrom, Tables.scopeFrom, same.follow]
  | succ steps ih =>
    rw [Tables.scopeFrom, Tables.scopeFrom, same.follow]
    simp only [ih]

theorem refCategory (row : TypeRefRow) (hint : Category) :
    other.refCategory row hint = book.refCategory row hint := by
  simp only [Book.refCategory, Book.isEnumIn, Tables.scopeAssembly, same.typeRefs, same.scopeFrom,
    same.elsewhere]

theorem resolveWithin (hops : Nat) : other.resolveWithin hops = book.resolveWithin hops := by
  induction hops with
  | zero => rfl
  | succ hops ih =>
    funext levels table index hint
    cases table with
    | typeDef =>
      simp only [Book.resolveWithin, Book.typeDefRef, same.typeDef, same.spaceOf, same.category]
    | typeRef => simp only [Book.resolveWithin, Book.typeRefRef, same.typeRefs, same.refCategory]
    | typeSpec => simp only [Book.resolveWithin, same.typeSpecs, ih]

theorem resolver : other.resolver = book.resolver := by
  simp only [Book.resolver, same.levels, same.resolveWithin]

theorem readHead (index : Int) (row : TypeDefRow) :
    other.readHead index row = book.readHead index row := by
  simp only [Book.readHead, Book.baseOf, Book.resolve, same.spaceOf, same.category, same.follow,
    same.resolver, same.levels, same.enclosing, same.source]

end SameTypes

end Book

/-! Rows other than the one that is changed are as before. -/

section Rows

variable {α : Type} {rows : Option (List α)} {place : Nat} (change : α → α)

theorem row_beside {table : String} {index : Int} (other : (place : Int) + 1 ≠ index) :
    Tables.row (rows.map (·.modify place change)) table index = Tables.row rows table index := by
  cases rows with
  | none => rfl
  | some rows =>
    simp only [Tables.row, Option.map_some, Option.getD_some]
    by_cases low : index < 1
    · rw [if_pos low, if_pos low]
    · rw [if_neg low, if_neg low, List.getElem?_modify]
      have beside : place ≠ (index - 1).toNat := by omega
      simp only [beside, if_false, id_map']

theorem pick_unchanged {target : α → Target} (kept : ∀ row, target (change row) = target row)
    (beyond : Nat → Int → Stray) (index : Int) :
    Tables.pick beyond (rows.map (·.modify place change)) index target =
      Tables.pick beyond rows index target := by
  cases rows with
  | none => rfl
  | some rows =>
    have same (near : Nat) : ((rows.modify place change)[near]?).map target =
        (rows[near]?).map target := by
      rw [List.getElem?_modify]
      by_cases here : place = near <;> cases rows[near]? <;> simp [here, kept]
    simp only [Tables.pick, Option.map_some, Tables.rowNear, List.length_modify]
    split
    · exact congrArg Except.ok (same _)
    · split
      · rfl
      · rfl
      · exact congrArg Except.ok (same _)

end Rows

theorem sameTypes_withBlob (book : Book) (bytes : List UInt8) (place : BlobPlace) :
    book.SameTypes (book.withBlob bytes place) := by
  cases place with
  | field place =>
    refine ⟨rfl, rfl, rfl, rfl, ?_, rfl, rfl, rfl⟩
    funext link
    match link with
    | none => rfl
    | some ⟨.field, index⟩ =>
      exact pick_unchanged (fun row : FieldRow => { row with signature := bytes })
        (fun _ => rfl) book.tables.beyond index
    | some ⟨.typeDef, _⟩ | some ⟨.typeRef, _⟩ | some ⟨.typeSpec, _⟩ | some ⟨.property, _⟩
    | some ⟨.other _, _⟩ => rfl
  | method place => exact ⟨rfl, rfl, rfl, rfl, rfl, rfl, rfl, rfl⟩
  | property place =>
    refine ⟨rfl, rfl, rfl, rfl, ?_, rfl, rfl, rfl⟩
    funext link
    match link with
    | none => rfl
    | some ⟨.property, index⟩ =>
      exact pick_unchanged (fun row : PropertyRow => { row with signature := bytes })
        (fun _ => rfl) book.tables.beyond index
    | some ⟨.typeDef, _⟩ | some ⟨.typeRef, _⟩ | some ⟨.typeSpec, _⟩ | some ⟨.field, _⟩
    | some ⟨.other _, _⟩ => rfl
  | constant place => exact ⟨rfl, rfl, rfl, rfl, rfl, rfl, rfl, rfl⟩

/-! The values of constants -/

theorem follow_field {tables : Tables} {link : Link} {name : String}
    (followed : tables.follow (some link) = .ok (some (.field name))) : link.table = .field := by
  obtain ⟨table, index⟩ := link
  have picked {α : Type} {rows : Option (List α)} {target : α → Target}
      (found : Tables.pick tables.beyond rows index target = .ok (some (.field name))) :
      ∃ row, target row = .field name := by
    cases rows with
    | none => cases found
    | some rows =>
      obtain ⟨near, _, made⟩ := bind_found found
      obtain ⟨row, _, same⟩ := Option.map_eq_some_iff.mp (Except.ok.inj made)
      exact ⟨row, same⟩
  cases table with
  | field => rfl
  | typeDef | typeRef | typeSpec | property | other =>
    obtain ⟨row, other⟩ := picked followed
    cases other

namespace Tables

variable {tables : Tables}

theorem constantOf_cases {constant : ConstantRow} {entries : List (Int × Int)}
    (read : tables.constantOf constant = .ok entries) :
    (∃ field link value, tables.follow constant.parent = .ok (some (.field field)) ∧
      constant.parent = some link ∧ link.table = .field ∧
      constantValue constant.element constant.value = .ok value ∧
      entries = value.toList.map fun value => (link.index, value)) ∨
    (∀ bytes, tables.constantOf { constant with value := bytes } = .ok []) ∧ entries = [] := by
  simp only [constantOf] at read ⊢
  cases followed : tables.follow constant.parent with
  | error fault => simp [followed, bind, Except.bind] at read
  | ok target =>
    simp only [followed, bind, Except.bind] at read ⊢
    split at read
    · rename_i field link parent
      have table : link.table = .field := follow_field (parent ▸ followed)
      cases value : constantValue constant.element constant.value with
      | error fault => simp [value] at read
      | ok value' =>
        refine .inl ⟨field, link, value', rfl, parent, table, rfl, ?_⟩
        cases value' <;> simp_all [pure, Except.pure]
    · exact .inr ⟨fun _ => rfl, (Except.ok.inj read).symm⟩

theorem constantOf_parent {constant : ConstantRow} {entries : List (Int × Int)}
    (read : tables.constantOf constant = .ok entries) :
    ∀ entry ∈ entries, ∃ link, constant.parent = some link ∧ link.table = .field ∧
      entry.1 = link.index := by
  intro entry member
  obtain ⟨field, link, value, _, parent, table, _, rfl⟩ | ⟨_, rfl⟩ := constantOf_cases read
  · obtain ⟨value, _, rfl⟩ := List.mem_map.mp member
    exact ⟨link, parent, table, rfl⟩
  · cases member

theorem constantOf_changed {constant : ConstantRow} {entries : List (Int × Int)}
    (read : tables.constantOf constant = .ok entries) (bytes : List UInt8) :
    (∃ changed, tables.constantOf { constant with value := bytes } = .ok changed) ∨
      tables.constantOf { constant with value := bytes } =
          .error (.signature (.shortConstant constant.element)) ∧
        ∃ field form, tables.follow constant.parent = .ok (some (.field field)) ∧
          constantForms.lookup constant.element = some form ∧ bytes.length < form.size := by
  obtain ⟨field, link, _, followed, parent, table, _, _⟩ | ⟨without, _⟩ := constantOf_cases read
  · rw [parent] at followed
    simp only [constantOf, parent, followed, bind, Except.bind, constantValue]
    cases stored : constantForms.lookup constant.element with
    | none => exact .inl ⟨_, rfl⟩
    | some form =>
      by_cases short : bytes.length < form.size
      · simp only [if_pos short]
        exact .inr ⟨trivial, field, form, rfl, rfl, short⟩
      · simp only [if_neg short]
        exact .inl ⟨_, rfl⟩
  · exact .inl ⟨[], without bytes⟩

theorem mapM_modify {α β : Type} {read : α → Except Fault β} {items : List α} {values : List β}
    (all : items.mapM read = .ok values) {place : Nat} {change : α → α} {value : β}
    (here : ∀ item, items[place]? = some item → read (change item) = .ok value) :
    (items.modify place change).mapM read = .ok (values.set place value) := by
  rw [mapM_ok_iff] at all ⊢
  induction all generalizing place with
  | nil => simp
  | cons first rest ih =>
    cases place with
    | zero => exact .cons (here _ rfl) rest
    | succ place => exact .cons first (ih fun item found => here item (by simpa using found))

theorem mapM_modify_fault {α β : Type} {read : α → Except Fault β} {items : List α}
    {values : List β} (all : items.mapM read = .ok values) {place : Nat} {change : α → α} {item : α}
    {fault : Fault} (here : items[place]? = some item)
    (failed : read (change item) = .error fault) :
    (items.modify place change).mapM read = .error fault := by
  rw [mapM_ok_iff] at all
  induction all generalizing place with
  | nil => cases here
  | cons first rest ih =>
    cases place with
    | zero =>
      cases here
      rw [List.modify_zero_cons, List.mapM_cons, failed]
      rfl
    | succ place =>
      rw [List.modify_succ_cons, List.mapM_cons, first, ih (by simpa using here)]
      rfl

end Tables

theorem lastValue_filter {α : Type} (entries : List (Int × α)) (key : Int) :
    Tables.lastValue (entries.filter (·.1 == key)) key = Tables.lastValue entries key := by
  unfold Tables.lastValue
  rw [← List.filter_reverse]
  induction entries.reverse with
  | nil => rfl
  | cons entry rest ih =>
    by_cases same : key = entry.1
    · subst same
      rw [List.filter_cons_of_pos (by simp), List.lookup_cons, List.lookup_cons,
        beq_self_eq_true]
    · have other : (key == entry.1) = false := beq_false_of_ne same
      have skipped : (entry.1 == key) = false := beq_false_of_ne (Ne.symm same)
      rw [List.filter_cons_of_neg (by simp [skipped]), ih, List.lookup_cons, other]

theorem lastValue_beside {α : Type} {pieces : List (List (Int × α))} {place : Nat}
    {piece : List (Int × α)} {key : Int} (old : ∀ entry ∈ pieces[place]?.getD [], entry.1 ≠ key)
    (new : ∀ entry ∈ piece, entry.1 ≠ key) :
    Tables.lastValue (pieces.set place piece).flatten key =
      Tables.lastValue pieces.flatten key := by
  have emptied {entries : List (Int × α)} (other : ∀ entry ∈ entries, entry.1 ≠ key) :
      entries.filter (·.1 == key) = [] := by
    simpa using other
  rw [← lastValue_filter, ← lastValue_filter pieces.flatten, List.filter_flatten,
    List.filter_flatten, List.map_set, emptied new]
  cases here : pieces[place]? with
  | none => rw [List.set_eq_of_length_le (by simpa using here)]
  | some piece =>
    have same : (pieces.map (List.filter (·.1 == key)))[place]? = some [] := by
      rw [List.getElem?_map, here]
      exact congrArg some (emptied (by simpa [here] using old))
    obtain ⟨inside, same⟩ := List.getElem?_eq_some_iff.mp same
    conv_lhs => rw [← same, List.set_getElem_self]

/-! What a type is read with -/

namespace Book

variable {book : Book} {bytes : List UInt8} {place : BlobPlace}

/-- Joins that read a type alike. -/
structure SameJoins (joins later : Joins) (row : TypeDefRow) : Prop where
  getters : later.getters = joins.getters
  setters : later.setters = joins.setters
  constants : ∀ key ∈ row.fields,
    Tables.lastValue later.constants key = Tables.lastValue joins.constants key

theorem constants_withBlob (book : Book) (bytes : List UInt8) (number : Nat) :
    (book.withBlob bytes (.constant number)).tables.constants.getD [] =
      (book.tables.constants.getD []).modify number fun row => { row with value := bytes } := by
  cases rows : book.tables.constants <;> simp [withBlob, Tables.withBlob, rows]

theorem constantOf_withBlob (book : Book) (bytes : List UInt8) (place : BlobPlace) :
    (book.withBlob bytes place).tables.constantOf = book.tables.constantOf := by
  funext constant
  simp only [Tables.constantOf, (sameTypes_withBlob book bytes place).follow]

theorem accessorOf_withBlob (book : Book) (bytes : List UInt8) (place : BlobPlace) :
    (book.withBlob bytes place).tables.accessorOf = book.tables.accessorOf := by
  funext row
  simp only [Tables.accessorOf, (sameTypes_withBlob book bytes place).follow]

theorem semantics_withBlob (book : Book) (bytes : List UInt8) (place : BlobPlace) :
    (book.withBlob bytes place).tables.semantics = book.tables.semantics := by
  cases place <;> rfl

theorem joins_cut {joins : Joins} {element : Nat} (read : book.tables.joins = .ok joins)
    (cut : book.tables.CutsShort place bytes element) :
    (book.withBlob bytes place).tables.joins = .error (.signature (.shortConstant element)) := by
  obtain ⟨number, constant, field, form, rfl, here, parent, rfl, stored, short⟩ := cut
  obtain ⟨pieces, all, _⟩ := bind_found read
  have failed : book.tables.constantOf { constant with value := bytes } =
      .error (.signature (.shortConstant constant.element)) := by
    cases linked : constant.parent with
    | none =>
      rw [linked] at parent
      cases parent
    | some link =>
      rw [linked] at parent
      simp [Tables.constantOf, parent, constantValue, stored, short, bind, Except.bind]
  unfold Tables.joins
  rw [constants_withBlob, constantOf_withBlob, Tables.mapM_modify_fault all here failed]
  rfl

theorem constant_kept {number : Nat} {pieces : List (List (Int × Int))}
    (all : (book.tables.constants.getD []).mapM book.tables.constantOf = .ok pieces)
    (uncut : ∀ element, ¬ book.tables.CutsShort (.constant number) bytes element) :
    ∃ piece, (∀ constant, (book.tables.constants.getD [])[number]? = some constant →
        book.tables.constantOf { constant with value := bytes } = .ok piece) ∧
      ∀ entry ∈ piece, ∃ constant link,
        (book.tables.constants.getD [])[number]? = some constant ∧
          constant.parent = some link ∧ link.table = .field ∧ entry.1 = link.index := by
  cases here : (book.tables.constants.getD [])[number]? with
  | none => exact ⟨[], by simp, by simp⟩
  | some constant =>
    obtain ⟨old, read⟩ := mapM_each all constant (List.mem_of_getElem? here)
    obtain ⟨piece, changed⟩ | ⟨_, field, form, parent, stored, short⟩ :=
      Tables.constantOf_changed read bytes
    · refine ⟨piece, fun _ same => Option.some.inj same ▸ changed, fun entry member => ?_⟩
      exact ⟨constant, (Tables.constantOf_parent changed entry member).imp fun link parent =>
        ⟨rfl, parent⟩⟩
    · exact (uncut constant.element
        ⟨number, constant, field, form, rfl, here, parent, rfl, stored, short⟩).elim

theorem constant_owned {number : Nat} {pieces : List (List (Int × Int))}
    (all : (book.tables.constants.getD []).mapM book.tables.constantOf = .ok pieces) :
    ∀ entry ∈ pieces[number]?.getD [], ∃ constant link,
      (book.tables.constants.getD [])[number]? = some constant ∧
        constant.parent = some link ∧ link.table = .field ∧ entry.1 = link.index := by
  intro entry stands
  cases old : pieces[number]? with
  | none => simp [old] at stands
  | some piece =>
    rw [old, Option.getD_some] at stands
    obtain ⟨inside, rfl⟩ := List.getElem?_eq_some_iff.mp old
    rw [mapM_ok_iff] at all
    have before : number < (book.tables.constants.getD []).length := all.length_eq ▸ inside
    exact ⟨_, (Tables.constantOf_parent (all.get before inside) entry stands).imp
      fun link parent => ⟨List.getElem?_eq_getElem before, parent⟩⟩

theorem joins_kept {joins : Joins} (read : book.tables.joins = .ok joins)
    (uncut : ∀ element, ¬ book.tables.CutsShort place bytes element) :
    ∃ later, (book.withBlob bytes place).tables.joins = .ok later ∧
      ∀ index row, ¬ book.tables.Owns index row place → SameJoins joins later row := by
  obtain ⟨pieces, all, rest⟩ := bind_found read
  obtain ⟨accessors, found, made⟩ := bind_found rest
  cases made
  have joined {rows : List ConstantRow} {values : List (List (Int × Int))}
      (changed : (book.withBlob bytes place).tables.constants.getD [] = rows)
      (read : rows.mapM book.tables.constantOf = .ok values) :
      (book.withBlob bytes place).tables.joins = .ok {
        constants := values.flatten
        getters := (accessors.flatten.filter (·.2.isGetter)).map (·.1)
        setters := (accessors.flatten.filter (·.2.isSetter)).map (·.1) } := by
    unfold Tables.joins
    rw [changed, constantOf_withBlob, accessorOf_withBlob, semantics_withBlob, read, found]
    rfl
  cases place with
  | field | method | property =>
    exact ⟨_, joined rfl all, fun _ _ _ => ⟨rfl, rfl, fun _ _ => rfl⟩⟩
  | constant number =>
    obtain ⟨piece, changed, sources⟩ := constant_kept all uncut
    refine ⟨_, joined (constants_withBlob book bytes number) (Tables.mapM_modify all changed),
      fun index row beside => ⟨rfl, rfl, fun key member => lastValue_beside ?_ ?_⟩⟩
    · intro entry stands same
      obtain ⟨constant, link, here, parent, table, key⟩ := constant_owned all entry stands
      exact beside ⟨constant, link, here, parent, table, key ▸ same ▸ member⟩
    · intro entry stands same
      obtain ⟨constant, link, here, parent, table, key⟩ := sources entry stands
      exact beside ⟨constant, link, here, parent, table, key ▸ same ▸ member⟩

theorem withFields_congr {joins later : Joins} {type : TypeDecl} {fields : List (Int × Field)}
    (same : ∀ entry ∈ fields, Tables.lastValue later.constants entry.1 =
      Tables.lastValue joins.constants entry.1) :
    withFields later type fields = withFields joins type fields := by
  unfold withFields
  split
  · congr 1
    refine List.map_congr_left fun entry member => ?_
    simp only [same entry (List.mem_of_mem_filter member)]
  · rfl

theorem resolver_beside : (book.withBlob bytes place).resolver = book.resolver :=
  (sameTypes_withBlob book bytes place).resolver

theorem levels_beside : (book.withBlob bytes place).levels = book.levels := rfl

section Beside

variable {joins later : Joins} {index : Int} {row : TypeDefRow} {key : Int}
  (beside : ¬ book.tables.Owns index row place)

include beside

theorem readField_beside (owner : String) (member : key ∈ row.fields) :
    (book.withBlob bytes place).readField owner key = book.readField owner key := by
  have beside : Tables.row (book.withBlob bytes place).tables.fields "Field" key =
      Tables.row book.tables.fields "Field" key := by
    cases place with
    | field number => exact row_beside _ fun here => beside (here.symm ▸ member :)
    | method | property | constant => rfl
  simp only [readField, beside, resolver_beside, levels_beside]

theorem readMethod_beside (owner : String) (member : key ∈ row.methods) :
    (book.withBlob bytes place).readMethod owner key = book.readMethod owner key := by
  have beside : Tables.row (book.withBlob bytes place).tables.methods "MethodDef" key =
      Tables.row book.tables.methods "MethodDef" key := by
    cases place with
    | method number => exact row_beside _ fun here => beside (here.symm ▸ member :)
    | field | property | constant => rfl
  have params : (book.withBlob bytes place).tables.params = book.tables.params := by
    cases place <;> rfl
  simp only [readMethod, parameterNames, beside, params, resolver_beside, levels_beside]

theorem readProperty_beside (alike : SameJoins joins later row) (owner : String)
    (member : key ∈ book.tables.propertiesOf index) :
    (book.withBlob bytes place).readProperty later owner key =
      book.readProperty joins owner key := by
  have beside : Tables.row (book.withBlob bytes place).tables.properties "Property" key =
      Tables.row book.tables.properties "Property" key := by
    cases place with
    | property number => exact row_beside _ fun here => beside (here.symm ▸ member :)
    | field | method | constant => rfl
  simp only [readProperty, beside, resolver_beside, levels_beside, alike.getters, alike.setters]

theorem typeFound_beside (alike : SameJoins joins later row) :
    (book.withBlob bytes place).typeFound later index row = book.typeFound joins index row := by
  have same := sameTypes_withBlob book bytes place
  have listed : (book.withBlob bytes place).tables.propertiesOf index =
      book.tables.propertiesOf index := by
    cases place <;> rfl
  unfold typeFound
  rw [← (readHead_settles index row).outcome, same.readHead, (readHead_settles index row).outcome]
  refine bind_congr fun head => ?_
  dsimp only
  rw [mapM_congr fun key member => by rw [readField_beside beside head.fullName member],
    mapM_congr fun key member => congrArg outcomeOf
      (readMethod_beside beside head.fullName member), listed,
    mapM_congr fun key member => congrArg outcomeOf
      (readProperty_beside beside alike head.fullName member)]
  refine bind_same fun fields found => bind_congr fun methods => bind_congr fun properties => ?_
  rw [withFields_congr fun entry member => alike.constants entry.1 ?_]
  obtain ⟨key, listed, read⟩ := mapM_sources found entry member
  obtain ⟨field, _, made⟩ := bind_found read
  cases made
  exact listed

theorem entryOf_beside (alike : SameJoins joins later row) :
    (book.withBlob bytes place).entryOf later index row = book.entryOf joins index row := by
  unfold entryOf
  rw [typeFound_beside beside alike]

end Beside

/-! All types -/

theorem listed_withBlob (book : Book) (bytes : List UInt8) (place : BlobPlace) :
    (book.withBlob bytes place).listed = book.listed := by
  simp only [listed, numbered, (sameTypes_withBlob book bytes place).typeDefs]

/-- A type that the blob belongs to is nested too deep with the new bytes. -/
def Overwhelms (book : Book) (bytes : List UInt8) (place : BlobPlace) : Prop :=
  ∃ joins, (book.withBlob bytes place).tables.joins = .ok joins ∧
    ∃ entry ∈ book.listed, book.tables.Owns entry.1 entry.2 place ∧
      outcomeOf ((book.withBlob bytes place).readType joins entry.1 entry.2) = .error .tooDeep

/-- Whatever a blob of a member is replaced by, every type that it does not belong to is read as
before, in the same place, unless the bytes are too few for a constant's value or nest a type too
deep; then no type is read. -/
theorem malformed_blob_contained (book : Book) (bytes : List UInt8) (place : BlobPlace)
    {types : List TypeDecl} (read : outcomeOf book.readTypes = .ok types) :
    (∀ element, book.tables.CutsShort place bytes element →
      outcomeOf (book.withBlob bytes place).readTypes =
        .error (.signature (.shortConstant element))) ∧
    ((∀ element, ¬ book.tables.CutsShort place bytes element) → book.Overwhelms bytes place →
      outcomeOf (book.withBlob bytes place).readTypes = .error .tooDeep) ∧
    ((∀ element, ¬ book.tables.CutsShort place bytes element) → ¬ book.Overwhelms bytes place →
      ∃ before after, book.entries = .ok before ∧ types = before.filterMap id ∧
        (book.withBlob bytes place).entries = .ok after ∧
        outcomeOf (book.withBlob bytes place).readTypes = .ok (after.filterMap id) ∧
        after.length = before.length ∧
        ∀ (position : Nat) index row, book.listed[position]? = some (index, row) →
          ¬ book.tables.Owns index row place → after[position]? = before[position]?) := by
  rw [readTypes_settles.outcome] at read ⊢
  obtain ⟨before, found, made⟩ := bind_found read
  cases made
  obtain ⟨joins, joined, _⟩ := bind_found found
  have each := entries_of_joins joined ▸ found
  refine ⟨fun element cut => ?_, fun uncut deep => ?_, fun uncut shallow => ?_⟩
  · unfold entries
    rw [joins_cut joined cut]
    rfl
  · obtain ⟨later, joins_eq, entry, member, _, deep⟩ := deep
    rw [(readType_settles _ _ _).outcome] at deep
    rw [entries_unread joins_eq (listed_withBlob book bytes place ▸ member) deep]
    rfl
  · obtain ⟨later, joins_eq, alike⟩ := joins_kept joined uncut
    have changed := @entries_of_joins (book.withBlob bytes place) later joins_eq
    rw [listed_withBlob] at changed
    cases all : (book.withBlob bytes place).entries with
    | error fault =>
      obtain ⟨⟨index, row⟩, member, failed⟩ := mapM_fault (changed.symm.trans all)
      have deep := (entryOf_fault failed).2
      rw [← (readType_settles _ _ _).outcome] at deep
      refine absurd ⟨later, joins_eq, (index, row), member, ?_, deep⟩ shallow
      by_contra beside
      obtain ⟨value, read⟩ := mapM_each each _ member
      simp only [entryOf_beside beside (alike _ _ beside)] at failed
      simp only [failed, reduceCtorEq] at read
    | ok after =>
      have first := mapM_ok_iff.mp each
      have second := mapM_ok_iff.mp (changed.symm.trans all)
      refine ⟨before, after, found, rfl, rfl, rfl,
        second.length_eq.symm.trans first.length_eq, fun position index row here beside => ?_⟩
      obtain ⟨inside, listed⟩ := List.getElem?_eq_some_iff.mp here
      have old := first.get inside (first.length_eq ▸ inside)
      have new := second.get inside (second.length_eq ▸ inside)
      simp only [List.get_eq_getElem, listed] at old new
      rw [entryOf_beside beside (alike _ _ beside), old] at new
      rw [List.getElem?_eq_getElem (second.length_eq ▸ inside),
        List.getElem?_eq_getElem (first.length_eq ▸ inside), Except.ok.inj new]

def tornBook : Book := { tables := {
  typeDefs := some [
    { name := "Torn", space := "Game", fields := [1] }, { name := "Whole", space := "Game" }]
  fields := some [{ name := "A", signature := [0x06, 0x08], isStatic := true, isLiteral := true }]
  constants := some [{ parent := some ⟨.field, 1⟩, element := 0x08, value := [7, 0, 0, 0] }] } }

def wholeType : TypeDecl := { name := "Whole", space := some "Game", source := "dnfile" }

def tornType : TypeDecl :=
  { name := "Torn", space := some "Game", source := "dnfile"
    fields := [{
      name := "A", type := { name := "Int32", space := some "System", category := .structType }
      isStatic := true, isLiteral := true, declaringType := some "Game.Torn" }] }

theorem torn_constant_uncontained :
    outcomeOf tornBook.readTypes = .ok [tornType, wholeType] ∧
      tornBook.tables.CutsShort (.constant 0) [7] 0x08 ∧
      outcomeOf (tornBook.withBlob [7] (.constant 0)).readTypes =
        .error (.signature (.shortConstant 0x08)) := by
  have read : outcomeOf tornBook.readTypes = .ok [tornType, wholeType] := rfl
  have cut : tornBook.tables.CutsShort (.constant 0) [7] 0x08 :=
    ⟨0, _, "A", .signed 4, rfl, rfl, rfl, rfl, rfl, by decide⟩
  exact ⟨read, cut, (malformed_blob_contained tornBook [7] (.constant 0) read).1 0x08 cut⟩

end Book

end ProxyHeaders.Metadata
