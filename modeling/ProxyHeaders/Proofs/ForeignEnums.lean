import ProxyHeaders.Load.Assembly
import ProxyHeaders.Proofs.Metadata.Enclosing

/-!
Enums of other assemblies. The scopes of the types that a referenced type is nested in lead to the
name of its assembly, and the file of that name in the same directory tells which types are enums.
There a nested type has the namespace of the outermost type around it, while a reference has its
own, so a nested enum is recognized where the two are the same.
-/
namespace ProxyHeaders.Metadata

open Relation (ReflTransGen)

namespace Tables

variable {tables : Tables} {assembly : String}

/-! The way from a reference to its assembly -/

/-- A scope that leads to an assembly, by the references to the types around. -/
inductive Leads (tables : Tables) (assembly : String) : Option Link → List TypeRefRow → Prop where
  | here {number : Int}
      (named : tables.follow (some ⟨.other "AssemblyRef", number⟩) =
        .ok (some (.other (some assembly)))) :
      Leads tables assembly (some ⟨.other "AssemblyRef", number⟩) []
  | out {scope : Option Link} {outer : TypeRefRow} {rest : List TypeRefRow}
      (around : tables.follow scope = .ok (some (.typeRef outer)))
      (more : Leads tables assembly outer.scope rest) : Leads tables assembly scope (outer :: rest)

variable {scope : Option Link} {way : List TypeRefRow}

theorem Leads.unique {other : List TypeRefRow} (leads : tables.Leads assembly scope way)
    (also : tables.Leads assembly scope other) : way = other := by
  induction leads generalizing other with
  | here named =>
    cases also with
    | here => rfl
    | out around => cases named.symm.trans around
  | out around _ ih =>
    cases also with
    | here named => cases around.symm.trans named
    | out same more =>
      cases around.symm.trans same
      rw [ih more]

theorem Leads.behind {outer : TypeRefRow} (leads : tables.Leads assembly scope way)
    (member : outer ∈ way) :
    ∃ rest, tables.Leads assembly outer.scope rest ∧ rest.length < way.length := by
  induction leads with
  | here => cases member
  | out _ more ih =>
    obtain rfl | inside := List.mem_cons.mp member
    · exact ⟨_, more, Nat.lt_succ_self _⟩
    · obtain ⟨rest, ends, shorter⟩ := ih inside
      exact ⟨rest, ends, Nat.lt_succ_of_lt shorter⟩

theorem Leads.nodup (leads : tables.Leads assembly scope way) : way.Nodup := by
  induction leads with
  | here => exact List.nodup_nil
  | out _ more ih =>
    refine List.nodup_cons.mpr ⟨fun again => ?_, ih⟩
    obtain ⟨rest, ends, shorter⟩ := more.behind again
    rw [more.unique ends] at shorter
    exact Nat.lt_irrefl _ shorter

theorem rowNear_mem {α : Type} {beyond : Nat → Int → Stray} {rows : List α} {index : Int} {row : α}
    (near : rowNear beyond rows index = .ok (some row)) : row ∈ rows := by
  unfold rowNear at near
  split at near
  · exact List.mem_of_getElem? (Except.ok.inj near)
  split at near
  · cases near
  · cases near
  · exact List.mem_of_getElem? (Except.ok.inj near)

theorem pick_mem {α : Type} {beyond : Nat → Int → Stray} {rows : Option (List α)} {index : Int}
    {target : α → Target} {found : Target}
    (picked : pick beyond rows index target = .ok (some found)) :
    ∃ row ∈ rows.getD [], target row = found := by
  cases rows with
  | none => cases picked
  | some rows =>
    obtain ⟨near, here, made⟩ := bind_found picked
    obtain ⟨row, rfl, same⟩ := Option.map_eq_some_iff.mp (Except.ok.inj made)
    exact ⟨row, rowNear_mem here, same⟩

theorem mem_of_follow {row : TypeRefRow}
    (followed : tables.follow scope = .ok (some (.typeRef row))) :
    row ∈ tables.typeRefs.getD [] := by
  cases scope with
  | none => cases followed
  | some link =>
    obtain ⟨table, index⟩ := link
    cases table with
    | typeRef =>
      obtain ⟨own, member, same⟩ := pick_mem followed
      cases same
      exact member
    | typeDef | typeSpec | field | property | other =>
      obtain ⟨own, _, same⟩ := pick_mem followed
      cases same

theorem Leads.listed (leads : tables.Leads assembly scope way) :
    way ⊆ tables.typeRefs.getD [] := by
  induction leads with
  | here => exact List.nil_subset _
  | out around _ ih => exact List.cons_subset.mpr ⟨mem_of_follow around, ih⟩

theorem scopeFrom_of_leads (leads : tables.Leads assembly scope way) {steps : Nat}
    (enough : way.length ≤ steps) :
    tables.scopeFrom steps scope = .ok (stated (some assembly)) := by
  induction leads generalizing steps with
  | here named =>
    rw [scopeFrom, named]
    rfl
  | out around _ ih =>
    cases steps with
    | zero => cases enough
    | succ steps =>
      rw [scopeFrom, around]
      exact ih (Nat.le_of_succ_le_succ enough)

theorem scopeAssembly_of_leads {row : TypeRefRow} (leads : tables.Leads assembly row.scope way) :
    tables.scopeAssembly row = .ok (stated (some assembly)) :=
  scopeFrom_of_leads leads (leads.nodup.subperm leads.listed).length_le

/-! What a reference means -/

/-- What a reference means in the tables of its assembly: a type of its name, either in none and in
the namespace that the reference has, or in the type that its scope means. -/
inductive Denotes (tables there : Tables) (assembly : String) : TypeRefRow → Int → Prop where
  | top {row : TypeRefRow} {decl : TypeDefRow} {number index : Int}
      (scope : row.scope = some ⟨.other "AssemblyRef", number⟩)
      (named : tables.follow row.scope = .ok (some (.other (some assembly))))
      (declared : there.typeDef index = .ok decl) (free : there.enclosing? index = none)
      (name : decl.name = row.name) (space : decl.space = row.space) :
      Denotes tables there assembly row index
  | inside {row outer : TypeRefRow} {decl : TypeDefRow} {index outerIndex : Int}
      (scope : tables.follow row.scope = .ok (some (.typeRef outer)))
      (around : Denotes tables there assembly outer outerIndex)
      (declared : there.typeDef index = .ok decl)
      (nested : there.enclosing? index = some outerIndex) (name : decl.name = row.name) :
      Denotes tables there assembly row index

variable {there : Tables} {row : TypeRefRow} {index : Int}

theorem Denotes.leads (denotes : tables.Denotes there assembly row index) :
    ∃ way, tables.Leads assembly row.scope way := by
  induction denotes with
  | top scope named =>
    rw [scope] at named ⊢
    exact ⟨[], .here named⟩
  | @inside _ outer _ _ _ scope _ _ _ _ ih =>
    obtain ⟨way, more⟩ := ih
    exact ⟨outer :: way, .out scope more⟩

theorem Denotes.declared (denotes : tables.Denotes there assembly row index) :
    ∃ decl, there.typeDef index = .ok decl ∧ decl.name = row.name := by
  cases denotes with
  | top _ _ declared _ name => exact ⟨_, declared, name⟩
  | inside _ _ declared _ name => exact ⟨_, declared, name⟩

/-- The outermost type around the one that is meant is found. Where that is the same, it is in the
namespace that the reference has. -/
theorem Denotes.outermost (denotes : tables.Denotes there assembly row index) :
    ∃ outer outerDecl, ReflTransGen there.NestedIn index outer ∧
      there.enclosing? outer = none ∧ there.typeDef outer = .ok outerDecl ∧
      (there.enclosing? index = none → outerDecl.space = row.space) := by
  induction denotes with
  | top _ _ declared free _ space => exact ⟨_, _, .refl, free, declared, fun _ => space⟩
  | inside _ _ _ nested _ ih =>
    obtain ⟨outer, outerDecl, reached, free, declared, _⟩ := ih
    exact ⟨outer, outerDecl, reached.head nested, free, declared,
      fun top => by cases nested.symm.trans top⟩

/-! The names of enums -/

/-- A type that derives from the base of all enums. -/
def DefinesEnum (tables : Tables) (index : Int) : Prop :=
  ∃ row, tables.typeDef index = .ok row ∧ tables.baseName row = .ok (some enumBaseName)

def nameOf (tables : Tables) (index : Int) : Except Fault String := do
  let space ← tables.spaceOf index
  let row ← tables.typeDef index
  return qualifiedName (some space) row.name

end Tables

namespace Book

theorem numbered_iff {book : Book} {index : Int} {row : TypeDefRow} :
    (index, row) ∈ book.numbered ↔ book.tables.typeDef index = .ok row := by
  refine ⟨typeDef_of_numbered, fun found => ?_⟩
  obtain ⟨least, stands⟩ := Tables.row_iff.mp found
  refine List.mem_map.mpr ⟨(row, (index - 1).toNat), List.mem_zipIdx_iff_getElem?.mpr stands, ?_⟩
  refine Prod.ext ?_ rfl
  dsimp only
  omega

def enumEntry (book : Book) (index : Int) (row : TypeDefRow) : Except Fault (List String) := do
  if (← book.tables.baseName row) == some enumBaseName then
    return [qualifiedName (some (← book.tables.spaceOf index)) row.name]
  else return []

theorem mem_enumEntry_iff {book : Book} {index : Int} {row : TypeDefRow} {entry : List String}
    {name : String} (declared : book.tables.typeDef index = .ok row)
    (read : book.enumEntry index row = .ok entry) :
    name ∈ entry ↔ book.tables.DefinesEnum index ∧ book.tables.nameOf index = .ok name := by
  obtain ⟨base, derived, rest⟩ := bind_found read
  have defines : book.tables.DefinesEnum index ↔ base = some enumBaseName := by
    constructor
    · rintro ⟨own, same, isEnum⟩
      cases declared.symm.trans same
      exact Except.ok.inj (derived.symm.trans isEnum)
    · rintro rfl
      exact ⟨row, declared, derived⟩
  rw [defines]
  by_cases isEnum : base = some enumBaseName
  · rw [if_pos (beq_iff_eq.mpr isEnum)] at rest
    obtain ⟨space, spaced, made⟩ := bind_found rest
    cases made
    have called : book.tables.nameOf index = .ok (qualifiedName (some space) row.name) := by
      unfold Tables.nameOf
      rw [spaced, declared]
      rfl
    rw [called, List.mem_singleton, Except.ok.injEq, eq_comm]
    exact (and_iff_right isEnum).symm
  · rw [if_neg (mt beq_iff_eq.mp isEnum)] at rest
    cases rest
    simp [isEnum]

theorem mem_enumNames_iff {book : Book} {names : List String} {name : String}
    (read : book.enumNames = .ok names) :
    name ∈ names ↔
      ∃ index, book.tables.DefinesEnum index ∧ book.tables.nameOf index = .ok name := by
  obtain ⟨entries, all, made⟩ := bind_found read
  cases made
  rw [List.mem_flatten]
  constructor
  · rintro ⟨entry, listed, member⟩
    obtain ⟨⟨index, row⟩, numbered, found⟩ := mapM_sources all entry listed
    exact ⟨index, (mem_enumEntry_iff (numbered_iff.mp numbered) found).mp member⟩
  · rintro ⟨index, ⟨row, declared, isEnum⟩, called⟩
    obtain ⟨entry, listed, found⟩ :=
      forall₂_source (mapM_ok_iff.mp all).flip (index, row) (numbered_iff.mpr declared)
    exact ⟨entry, listed, (mem_enumEntry_iff declared found).mpr ⟨⟨row, declared, isEnum⟩, called⟩⟩

/-- What a reader with a past answers about a type of another assembly. -/
def mentionForeign (book : Book) (earlier : List Request) (index : Int) (hint : Category) :
    Except Fault TypeRef :=
  valueOf (book.resolveTag 1 index hint (book.afterAll earlier))

theorem mentionForeign_eq {book : Book} (earlier : List Request) (index : Int) (hint : Category) :
    book.mentionForeign earlier index hint = book.typeRefAt index hint :=
  (typeRefRef_settles index hint).valueOf_after earlier

end Book

def TypeRefRow.asRef (row : TypeRefRow) (category : Category) : TypeRef :=
  { name := row.name, space := stated (some row.space), category }

def TypeRefRow.fullName (row : TypeRefRow) : String := qualifiedName (some row.space) row.name

end ProxyHeaders.Metadata

namespace ProxyHeaders.Load

open ProxyHeaders.Files ProxyHeaders.Metadata
open Relation (ReflTransGen)

variable {parse : Parser} {levels : Nat} {disk : Disk} {path : Path} {book : Book} {there : Tables}
  {names : List String} {assembly : String}

/-- An assembly that a parser reads: a file with tables in it. -/
structure Readable (parse : Parser) (disk : Disk) (path : Path) (tables : Tables) : Prop where
  isFile : disk.isFile path
  read : readTables parse disk path = .ok tables

theorem Readable.enumsIn (readable : Readable parse disk path there) :
    enumsIn parse disk path = ({ tables := there } : Book).enumNames := by
  unfold Load.enumsIn
  rw [readable.isFile, readable.read]
  rfl

theorem isEnumElsewhere_beside (opened : openBook parse levels disk path = .ok book)
    (beside : Readable parse disk (path.parent.join (assembly ++ assemblySuffix)) there)
    (readable : ({ tables := there } : Book).enumNames = .ok names) (named : assembly ≠ "")
    (fullName : String) :
    book.isEnumElsewhere (stated (some assembly)) fullName = .ok (names.contains fullName) := by
  have known : stated (some assembly) = some assembly := by simp [stated, named]
  unfold openBook at opened
  cases own : readTables parse disk path with
  | error reason =>
    rw [own] at opened
    cases opened
  | ok tables =>
    rw [own] at opened
    cases opened
    change isEnumBeside parse disk (some path.parent) (stated (some assembly)) fullName = _
    unfold isEnumBeside
    rw [known, known]
    dsimp only
    rw [beside.enumsIn, readable]
    rfl

/-- A value type of an assembly beside is taken for an enum if its own name is that of one. -/
theorem mentionForeign_beside (opened : openBook parse levels disk path = .ok book)
    (beside : Readable parse disk (path.parent.join (assembly ++ assemblySuffix)) there)
    (readable : ({ tables := there } : Book).enumNames = .ok names) (named : assembly ≠ "")
    {place : Int} {row : TypeRefRow} {way : List TypeRefRow}
    (found : Tables.row book.tables.typeRefs "TypeRef" place = .ok row)
    (leads : book.tables.Leads assembly row.scope way) (earlier : List Book.Request) :
    book.mentionForeign earlier place .structType =
      .ok (row.asRef (if row.fullName ∈ frameworkEnums ∨ row.fullName ∈ names then .enumType
        else .structType)) := by
  have category : book.foreignCategory row .structType =
      .ok (if row.fullName ∈ frameworkEnums ∨ row.fullName ∈ names then .enumType
        else .structType) := by
    unfold Book.foreignCategory
    rw [if_neg (by decide)]
    change (if frameworkEnums.contains row.fullName then _ else _) = _
    by_cases framework : row.fullName ∈ frameworkEnums
    · rw [if_pos (List.contains_iff_mem.mpr framework), if_pos (.inl framework)]
      rfl
    · rw [if_neg (mt List.contains_iff_mem.mp framework), Tables.scopeAssembly_of_leads leads]
      change (do if ← book.isEnumElsewhere (stated (some assembly)) row.fullName then _ else _) = _
      rw [isEnumElsewhere_beside opened beside readable named]
      by_cases listed : row.fullName ∈ names
      · simp [listed, bind, Except.bind, pure, Except.pure]
      · simp [listed, framework, bind, Except.bind, pure, Except.pure]
  rw [Book.mentionForeign_eq]
  unfold Book.typeRefAt
  rw [found]
  change (do return row.asRef (← book.foreignCategory row .structType)) = _
  rw [category]
  rfl

/-- Whatever parser reads the assemblies: a value type of a readable assembly beside, nested at any
depth, is mentioned as an enum if the name that the reference itself has is that of an enum, there
or in the framework. The enum that is meant goes by its own name in the namespace of the outermost
type around it. So it is recognized if it is nested in no type, or if that is the namespace that the
reference has. -/
theorem foreign_enum_recognized (opened : openBook parse levels disk path = .ok book)
    (beside : Readable parse disk (path.parent.join (assembly ++ assemblySuffix)) there)
    (readable : ({ tables := there } : Book).enumNames = .ok names) (named : assembly ≠ "")
    {place index : Int} {row : TypeRefRow}
    (found : Tables.row book.tables.typeRefs "TypeRef" place = .ok row)
    (denotes : book.tables.Denotes there assembly row index) (isEnum : there.DefinesEnum index) :
    (∀ earlier, book.mentionForeign earlier place .structType =
      .ok (row.asRef (if row.fullName ∈ frameworkEnums ∨ row.fullName ∈ names then .enumType
        else .structType))) ∧
    (there.enclosing? index = none → ∀ earlier,
      book.mentionForeign earlier place .structType = .ok (row.asRef .enumType)) ∧
    ∃ outer outerDecl, ReflTransGen there.NestedIn index outer ∧
      there.enclosing? outer = none ∧ there.typeDef outer = .ok outerDecl ∧
      qualifiedName (some outerDecl.space) row.name ∈ names ∧
      (stated (some outerDecl.space) = stated (some row.space) → ∀ earlier,
        book.mentionForeign earlier place .structType = .ok (row.asRef .enumType)) := by
  obtain ⟨way, leads⟩ := denotes.leads
  have mentioned := mentionForeign_beside opened beside readable named found leads
  obtain ⟨outer, outerDecl, reached, free, outermost, spaced⟩ := denotes.outermost
  have listed : qualifiedName (some outerDecl.space) row.name ∈ names := by
    obtain ⟨decl, declared, name⟩ := denotes.declared
    refine (Book.mem_enumNames_iff readable).mpr ⟨index, isEnum, ?_⟩
    unfold Tables.nameOf Tables.spaceOf
    rw [Tables.outermost_of_reached reached free, outermost, declared, ← name]
    rfl
  have recognized (same : stated (some outerDecl.space) = stated (some row.space))
      (earlier : List Book.Request) :
      book.mentionForeign earlier place .structType = .ok (row.asRef .enumType) := by
    have own : row.fullName ∈ names := by
      unfold TypeRefRow.fullName qualifiedName
      rw [← same]
      exact listed
    rw [mentioned, if_pos (.inr own)]
  refine ⟨mentioned, fun top => recognized ?_, outer, outerDecl, reached, free, outermost, listed,
    recognized⟩
  rw [spaced top]

/-! Two assemblies beside each other -/

def game : Tables where
  typeRefs := some [
    { name := "Kit", scope := some ⟨.other "AssemblyRef", 1⟩ },
    { name := "Kind", scope := some ⟨.typeRef, 1⟩ }]
  others := [("AssemblyRef", [some "Core"])]

def core : Tables where
  typeDefs := some [
    { name := "Kit", base := some ⟨.typeRef, 2⟩ },
    { name := "Kind", base := some ⟨.typeRef, 1⟩ }]
  typeRefs := some [{ name := "Enum", space := "System" }, { name := "Object", space := "System" }]
  nested := some [⟨2, 1⟩]

def shelf : Disk where
  entries := [(["Game.dll"], .file (.text "MZ game")), (["Core.dll"], .file (.text "MZ core"))]

def shelfParser : Parser := fun disk path =>
  match disk.content? path with
  | some (.text "MZ game") => .ok (some game)
  | some (.text "MZ core") => .ok (some core)
  | _ => .error "DOS Header magic not found."

def shelfPath : Path := ⟨"", ["Game.dll"]⟩

def gameBook : Book where
  tables := game
  isEnumElsewhere := isEnumBeside shelfParser shelf (some shelfPath.parent)

theorem game_opened : openBook shelfParser 980 shelf shelfPath = .ok gameBook := rfl

theorem core_readable :
    Readable shelfParser shelf (shelfPath.parent.join ("Core" ++ assemblySuffix)) core :=
  ⟨by decide, rfl⟩

theorem kind_denoted :
    game.Denotes core "Core" { name := "Kind", scope := some ⟨.typeRef, 1⟩ } 2 :=
  have kit : game.Denotes core "Core"
      { name := "Kit", scope := some ⟨.other "AssemblyRef", 1⟩ } 1 :=
    .top rfl rfl rfl rfl rfl rfl
  .inside rfl kit rfl rfl rfl

theorem kind_recognized :
    game.Denotes core "Core" { name := "Kind", scope := some ⟨.typeRef, 1⟩ } 2 ∧
      core.DefinesEnum 2 ∧
      ∀ earlier, gameBook.mentionForeign earlier 2 .structType =
        .ok { name := "Kind", category := .enumType } := by
  have isEnum : core.DefinesEnum 2 := ⟨_, rfl, rfl⟩
  have readable : ({ tables := core } : Book).enumNames = .ok ["Kind"] := rfl
  have found : Tables.row gameBook.tables.typeRefs "TypeRef" 2 =
    .ok { name := "Kind", scope := some ⟨.typeRef, 1⟩ } := rfl
  obtain ⟨_, _, outer, outerDecl, reached, free, declared, _, recognized⟩ :=
    foreign_enum_recognized game_opened core_readable readable (by decide) found kind_denoted
      isEnum
  have outermost : outer = 1 := (Tables.outermost_of_reached reached free).symm
  subst outermost
  cases declared
  exact ⟨kind_denoted, isEnum, recognized rfl⟩

end ProxyHeaders.Load
