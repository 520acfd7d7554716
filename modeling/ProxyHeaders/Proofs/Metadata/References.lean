import ProxyHeaders.Proofs.Metadata.Remembering

/-!
References between tables. Where every reference is in range, none is dangling: bases, scopes and
namespaces are found, and every type that is mentioned by number has a name and a category.
-/
namespace ProxyHeaders.Metadata

namespace Tables

def Within {α : Type} (rows : Option (List α)) (index : Int) : Prop :=
  1 ≤ index ∧ index ≤ (rows.getD []).length

def InRange (tables : Tables) (link : Link) : Prop :=
  match link.table with
  | .typeDef => Within tables.typeDefs link.index
  | .typeRef => Within tables.typeRefs link.index
  | .typeSpec => Within tables.typeSpecs link.index
  | .field => Within tables.fields link.index
  | .property => Within tables.properties link.index
  | .other name => Within (tables.others.lookup name) link.index

instance {α : Type} (rows : Option (List α)) (index : Int) : Decidable (Within rows index) :=
  inferInstanceAs (Decidable (_ ∧ _))

instance (tables : Tables) : (link : Link) → Decidable (tables.InRange link)
  | ⟨.typeDef, index⟩ => inferInstanceAs (Decidable (Within tables.typeDefs index))
  | ⟨.typeRef, index⟩ => inferInstanceAs (Decidable (Within tables.typeRefs index))
  | ⟨.typeSpec, index⟩ => inferInstanceAs (Decidable (Within tables.typeSpecs index))
  | ⟨.field, index⟩ => inferInstanceAs (Decidable (Within tables.fields index))
  | ⟨.property, index⟩ => inferInstanceAs (Decidable (Within tables.properties index))
  | ⟨.other name, index⟩ => inferInstanceAs (Decidable (Within (tables.others.lookup name) index))

end Tables

def TokenTable.id : TokenTable → TableId
  | .typeDef => .typeDef
  | .typeRef => .typeRef
  | .typeSpec => .typeSpec

def Call.link (call : Call) : Link := ⟨call.table.id, call.row⟩

namespace Tables

/-- Every reference of one row to another is in range; a base is a type. -/
structure Sound (tables : Tables) : Prop where
  bases : ∀ row ∈ tables.typeDefs.getD [], ∀ link ∈ row.base,
    tables.InRange link ∧ link.table ∈ [.typeDef, .typeRef, .typeSpec]
  scopes : ∀ row ∈ tables.typeRefs.getD [], ∀ link ∈ row.scope, tables.InRange link
  enclosing : ∀ row ∈ tables.nested.getD [], Within tables.typeDefs row.enclosing
  fields : ∀ row ∈ tables.typeDefs.getD [], ∀ index ∈ row.fields, Within tables.fields index
  methods : ∀ row ∈ tables.typeDefs.getD [], ∀ index ∈ row.methods, Within tables.methods index
  params : ∀ row ∈ tables.methods.getD [], ∀ index ∈ row.params, Within tables.params index
  properties : ∀ row ∈ tables.propertyMaps.getD [], ∀ index ∈ row.properties,
    Within tables.properties index
  parents : ∀ row ∈ tables.constants.getD [], ∀ link ∈ row.parent, tables.InRange link
  associations : ∀ row ∈ tables.semantics.getD [], ∀ link ∈ row.association, tables.InRange link

variable {α : Type} {tables : Tables}

theorem row_of_within {rows : Option (List α)} {index : Int} (inside : Within rows index)
    (table : String) : ∃ row ∈ rows.getD [], Tables.row rows table index = .ok row := by
  have below : (index - 1).toNat < (rows.getD []).length := by
    obtain ⟨least, most⟩ := inside
    omega
  exact ⟨(rows.getD [])[(index - 1).toNat], List.getElem_mem below,
    row_iff.mpr ⟨inside.1, List.getElem?_eq_getElem below⟩⟩

theorem mem_of_row {rows : Option (List α)} {table : String} {index : Int} {row : α}
    (found : Tables.row rows table index = .ok row) : row ∈ rows.getD [] :=
  List.mem_of_getElem? (row_iff.mp found).2

theorem each_row {rows : Option (List α)} {table : String} {good : Int → α → Prop}
    (each : ∀ entry ∈ (rows.getD []).zipIdx, good (entry.2 + 1) entry.1) :
    ∀ index row, Tables.row rows table index = .ok row → good index row := by
  intro index row found
  obtain ⟨least, stands⟩ := row_iff.mp found
  have here := each (row, (index - 1).toNat) (List.mem_zipIdx_iff_getElem?.mpr stands)
  have same : ((index - 1).toNat : Int) + 1 = index := by omega
  exact same ▸ here

theorem each_number {rows : Option (List α)} {good : Int → Prop}
    (each : ∀ place < (rows.getD []).length, good (place + 1)) :
    ∀ index, Within rows index → good index := by
  rintro index ⟨least, most⟩
  have here := each (index - 1).toNat (by omega)
  have same : ((index - 1).toNat : Int) + 1 = index := by omega
  rwa [same] at here

theorem pick_of_within {rows : Option (List α)} {index : Int} (inside : Within rows index)
    (beyond : Nat → Int → Stray) (target : α → Target) :
    ∃ row ∈ rows.getD [], pick beyond rows index target = .ok (some (target row)) := by
  obtain ⟨row, member, found⟩ := row_of_within inside ""
  exact ⟨row, member, pick_of_row found beyond target⟩

/-- What a reference leads to is of the kind that its table says. -/
inductive Reaches (tables : Tables) : TableId → Target → Prop
  | typeDef {row} (member : row ∈ tables.typeDefs.getD []) : Reaches tables .typeDef (.typeDef row)
  | typeRef {row} (member : row ∈ tables.typeRefs.getD []) : Reaches tables .typeRef (.typeRef row)
  | typeSpec : Reaches tables .typeSpec .typeSpec
  | field {name} : Reaches tables .field (.field name)
  | property {name} : Reaches tables .property (.property name)
  | other {table name} : Reaches tables (.other table) (.other name)

theorem follow_inRange {link : Link} (inside : tables.InRange link) :
    ∃ target, tables.follow (some link) = .ok (some target) ∧ tables.Reaches link.table target := by
  obtain ⟨table, index⟩ := link
  cases table with
  | typeDef =>
    obtain ⟨row, member, picked⟩ := pick_of_within inside tables.beyond .typeDef
    exact ⟨.typeDef row, picked, .typeDef member⟩
  | typeRef =>
    obtain ⟨row, member, picked⟩ := pick_of_within inside tables.beyond .typeRef
    exact ⟨.typeRef row, picked, .typeRef member⟩
  | typeSpec =>
    obtain ⟨row, _, picked⟩ := pick_of_within inside tables.beyond fun _ => .typeSpec
    exact ⟨.typeSpec, picked, .typeSpec⟩
  | field =>
    obtain ⟨row, _, picked⟩ := pick_of_within inside tables.beyond fun row : FieldRow => .field row.name
    exact ⟨.field row.name, picked, .field⟩
  | property =>
    obtain ⟨row, _, picked⟩ := pick_of_within inside tables.beyond fun row : PropertyRow => .property row.name
    exact ⟨.property row.name, picked, .property⟩
  | other name =>
    obtain ⟨row, _, picked⟩ := pick_of_within inside tables.beyond .other
    exact ⟨.other row, picked, .other⟩

theorem follow_sound {link : Option Link} (inside : ∀ own, link = some own → tables.InRange own) :
    link = none ∧ tables.follow link = .ok none ∨
      ∃ own target, link = some own ∧ tables.follow link = .ok (some target) ∧
        tables.Reaches own.table target := by
  cases link with
  | none => exact .inl ⟨rfl, rfl⟩
  | some own =>
    obtain ⟨target, followed, reaches⟩ := follow_inRange (inside own rfl)
    exact .inr ⟨own, target, rfl, followed, reaches⟩

namespace Sound

variable (sound : tables.Sound)

include sound

theorem baseName {row : TypeDefRow} (member : row ∈ tables.typeDefs.getD []) :
    ∃ name, tables.baseName row = .ok name := by
  unfold Tables.baseName
  obtain ⟨_, followed⟩ | ⟨_, target, _, followed, _⟩ :=
    follow_sound fun link same => (sound.bases row member link same).1
  · rw [followed]
    exact ⟨none, rfl⟩
  · rw [followed]
    cases target <;> exact ⟨_, rfl⟩

theorem outermost {index : Int} (inside : Within tables.typeDefs index) :
    Within tables.typeDefs (tables.outermost index) := by
  unfold Tables.outermost
  generalize (tables.nested.getD []).length + 1 = steps
  generalize [] = met
  induction steps generalizing index met with
  | zero => exact inside
  | succ steps ih =>
    unfold outermostFrom
    split
    · exact inside
    cases outer : tables.enclosing? index with
    | none => exact inside
    | some outer' =>
      obtain ⟨row, found, rfl⟩ := Option.map_eq_some_iff.mp outer
      have member := List.mem_reverse.mp (List.mem_of_find?_eq_some found)
      exact ih (sound.enclosing row member) _

theorem spaceOf {index : Int} (inside : Within tables.typeDefs index) :
    ∃ space, tables.spaceOf index = .ok space := by
  obtain ⟨row, _, found⟩ := row_of_within (sound.outermost inside) "TypeDef"
  exact ⟨row.space, by rw [Tables.spaceOf, typeDef, found]; rfl⟩

theorem scopeFrom (steps : Nat) {scope : Option Link}
    (inside : ∀ link, scope = some link → tables.InRange link) :
    ∃ assembly, tables.scopeFrom steps scope = .ok assembly := by
  induction steps generalizing scope with
  | zero =>
    unfold Tables.scopeFrom
    obtain ⟨_, followed⟩ | ⟨_, target, _, followed, _⟩ := follow_sound inside
    · exact ⟨none, by rw [followed]; rfl⟩
    · cases target <;> exact ⟨_, by rw [followed]; rfl⟩
  | succ steps ih =>
    unfold Tables.scopeFrom
    obtain ⟨_, followed⟩ | ⟨⟨table, _⟩, target, _, followed, reaches⟩ := follow_sound inside
    · exact ⟨none, by rw [followed]; rfl⟩
    · rw [followed]
      dsimp only at reaches
      cases reaches with
      | typeRef member => exact ih (sound.scopes _ member)
      | typeDef | typeSpec | field | property | other => exact ⟨_, rfl⟩

theorem scopeAssembly {row : TypeRefRow} (member : row ∈ tables.typeRefs.getD []) :
    ∃ assembly, tables.scopeAssembly row = .ok assembly :=
  sound.scopeFrom _ (sound.scopes row member)

end Sound

end Tables

namespace Book

variable {book : Book} (sound : book.tables.Sound)
  (elsewhere : ∀ assembly fullName, ∃ isEnum, book.isEnumElsewhere assembly fullName = .ok isEnum)

include sound

theorem categoryAt_sound {index : Int} (inside : Tables.Within book.tables.typeDefs index) :
    ∃ category, book.categoryAt index = .ok category := by
  obtain ⟨row, member, found⟩ := Tables.row_of_within inside "TypeDef"
  obtain ⟨name, named⟩ := sound.baseName member
  unfold categoryAt categoryOfRow
  rw [Tables.typeDef, found]
  simp only [named, bind, Except.bind, pure, Except.pure]
  split
  · exact ⟨_, rfl⟩
  split
  · exact ⟨_, rfl⟩
  split <;> exact ⟨_, rfl⟩

theorem typeDefAt_sound {index : Int} (inside : Tables.Within book.tables.typeDefs index) :
    ∃ ref, book.typeDefAt index = .ok ref := by
  obtain ⟨row, _, found⟩ := Tables.row_of_within inside "TypeDef"
  obtain ⟨space, placed⟩ := sound.spaceOf inside
  obtain ⟨category, named⟩ := categoryAt_sound sound inside
  unfold typeDefAt
  rw [Tables.typeDef, found, placed, named]
  exact ⟨_, rfl⟩

include elsewhere

theorem foreignCategory_sound {row : TypeRefRow} (member : row ∈ book.tables.typeRefs.getD [])
    (hint : Category) : ∃ category, book.foreignCategory row hint = .ok category := by
  obtain ⟨assembly, led⟩ := sound.scopeAssembly member
  obtain ⟨isEnum, answered⟩ := elsewhere assembly (qualifiedName (some row.space) row.name)
  unfold foreignCategory
  simp only [led, answered, bind, Except.bind, pure, Except.pure]
  split
  · exact ⟨_, rfl⟩
  split
  · exact ⟨_, rfl⟩
  split <;> exact ⟨_, rfl⟩

theorem typeRefAt_sound {index : Int} (inside : Tables.Within book.tables.typeRefs index)
    (hint : Category) : ∃ ref, book.typeRefAt index hint = .ok ref := by
  obtain ⟨row, member, found⟩ := Tables.row_of_within inside "TypeRef"
  obtain ⟨category, named⟩ := foreignCategory_sound sound elsewhere member hint
  unfold typeRefAt
  rw [found]
  simp only [named, bind, Except.bind]
  exact ⟨_, rfl⟩

end Book

end ProxyHeaders.Metadata
