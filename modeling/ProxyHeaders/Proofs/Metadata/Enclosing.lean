import Mathlib.Data.List.Perm.Subperm
import Mathlib.Logic.Relation
import ProxyHeaders.Proofs.Metadata.References

/-!
Nested types and the types around them. The way outwards from a type ends on its own, also where
types are nested in each other: the number of steps that is set for it is never what stops it. So a
type has one namespace, and it is mentioned by the name, namespace and category that it is described
with, in whatever order a reader is asked.
-/
namespace ProxyHeaders.Metadata

open Relation (ReflTransGen TransGen)

namespace Tables

variable {tables : Tables} {met : List Int} {index : Int}

/-- The way outwards from a type, however long. It ends at a type that it has met, or that is nested
in none. -/
inductive Outward (tables : Tables) : List Int → Int → Int → Prop where
  | met {met : List Int} {index : Int} (known : index ∈ met) : Outward tables met index index
  | top {met : List Int} {index : Int} (unmet : index ∉ met)
      (free : tables.enclosing? index = none) : Outward tables met index index
  | out {met : List Int} {index outer last : Int} (unmet : index ∉ met)
      (nested : tables.enclosing? index = some outer)
      (rest : Outward tables (index :: met) outer last) : Outward tables met index last

theorem Outward.unique {first second : Int} (one : tables.Outward met index first)
    (other : tables.Outward met index second) : first = second := by
  induction one generalizing second with
  | met known =>
    cases other with
    | met => rfl
    | top => rfl
    | out unmet => exact absurd known unmet
  | top unmet free =>
    cases other with
    | met => rfl
    | top => rfl
    | out _ nested => cases free.symm.trans nested
  | out unmet nested _ ih =>
    cases other with
    | met known => exact absurd known unmet
    | top _ free => cases free.symm.trans nested
    | out _ same rest =>
      cases nested.symm.trans same
      exact ih rest

theorem row_of_enclosing {outer : Int} (nested : tables.enclosing? index = some outer) :
    index ∈ (tables.nested.getD []).map (·.nested) := by
  obtain ⟨row, found, -⟩ := Option.map_eq_some_iff.mp nested
  have member := List.mem_reverse.mp (List.mem_of_find?_eq_some found)
  exact List.mem_map.mpr ⟨row, member, by simpa using List.find?_some found⟩

/-- The way goes on as long as it meets new nested types, and there are steps enough for all. -/
theorem outermostFrom_outward (steps : Nat) (once : met.Nodup)
    (passed : met ⊆ (tables.nested.getD []).map (·.nested))
    (enough : (tables.nested.getD []).length < steps + met.length) :
    tables.Outward met index (tables.outermostFrom steps met index) := by
  induction steps generalizing met index with
  | zero =>
    have bound := (once.subperm passed).length_le
    rw [List.length_map] at bound
    omega
  | succ steps ih =>
    unfold outermostFrom
    by_cases known : index ∈ met
    · rw [if_pos (List.contains_iff_mem.mpr known)]
      exact .met known
    · rw [if_neg (mt List.contains_iff_mem.mp known)]
      cases nested : tables.enclosing? index with
      | none => exact .top known nested
      | some outer =>
        refine .out known nested (ih (List.nodup_cons.mpr ⟨known, once⟩) ?_ ?_)
        · exact List.cons_subset.mpr ⟨row_of_enclosing nested, passed⟩
        · simp only [List.length_cons]
          omega

theorem outward_iff {outer : Int} :
    tables.Outward [] index outer ↔ outer = tables.outermost index := by
  have ends : tables.Outward [] index (tables.outermost index) :=
    outermostFrom_outward _ List.nodup_nil (List.nil_subset _) (by simp)
  constructor
  · exact fun walk => walk.unique ends
  · rintro rfl
    exact ends

/-! Types that are nested in each other -/

def NestedIn (tables : Tables) (inner outer : Int) : Prop := tables.enclosing? inner = some outer

/-- A type from which the way outwards leads into a circle. -/
def Encircled (tables : Tables) (index : Int) : Prop :=
  ∃ place, ReflTransGen tables.NestedIn index place ∧ TransGen tables.NestedIn place place

theorem Outward.ends {last : Int} (walk : tables.Outward met index last)
    (passed : ∀ place ∈ met, TransGen tables.NestedIn place index) :
    ReflTransGen tables.NestedIn index last ∧
      (tables.enclosing? last = none ∨ TransGen tables.NestedIn last last) := by
  induction walk with
  | met known => exact ⟨.refl, .inr (passed _ known)⟩
  | top _ free => exact ⟨.refl, .inl free⟩
  | @out met index outer last _ nested _ ih =>
    obtain ⟨reached, ended⟩ := ih <| List.forall_mem_cons.mpr
      ⟨.single nested, fun place member => (passed place member).tail nested⟩
    exact ⟨reached.head nested, ended⟩

theorem nestedIn_unique : Relator.RightUnique tables.NestedIn :=
  fun _ _ _ one other => Option.some.inj (one.symm.trans other)

theorem circle_kept {place last : Int} (circle : TransGen tables.NestedIn place place)
    (reached : ReflTransGen tables.NestedIn place last) :
    TransGen tables.NestedIn last last := by
  induction reached with
  | refl => exact circle
  | @tail middle last _ nested ih =>
    obtain ⟨next, first, rest⟩ := TransGen.head'_iff.mp ih
    cases nestedIn_unique first nested
    exact TransGen.tail' rest nested

theorem outermost_ends (tables : Tables) (index : Int) :
    ReflTransGen tables.NestedIn index (tables.outermost index) ∧
      (tables.enclosing? (tables.outermost index) = none ∨
        TransGen tables.NestedIn (tables.outermost index) (tables.outermost index)) := by
  have walk : tables.Outward [] index (tables.outermost index) := outward_iff.mpr rfl
  exact walk.ends (by simp)

theorem outermost_top (straight : ¬ tables.Encircled index) :
    ReflTransGen tables.NestedIn index (tables.outermost index) ∧
      tables.enclosing? (tables.outermost index) = none := by
  obtain ⟨reached, free | circle⟩ := tables.outermost_ends index
  · exact ⟨reached, free⟩
  · exact absurd ⟨_, reached, circle⟩ straight

theorem outermost_of_reached {outer : Int} (reached : ReflTransGen tables.NestedIn index outer)
    (free : tables.enclosing? outer = none) : tables.outermost index = outer := by
  have top {last : Int} (more : ReflTransGen tables.NestedIn outer last) : outer = last := by
    obtain same | ⟨next, nested, _⟩ := more.cases_head
    · exact same
    · cases free.symm.trans nested
  obtain ⟨ended, last⟩ := tables.outermost_ends index
  obtain back | forth := ended.total_of_right_unique nestedIn_unique reached
  · obtain none | circle := last
    · obtain same | ⟨next, nested, _⟩ := back.cases_head
      · exact same
      · cases none.symm.trans nested
    · obtain ⟨next, nested, _⟩ := TransGen.head'_iff.mp (circle_kept circle back)
      cases free.symm.trans nested
  · exact (top forth).symm

end Tables

namespace Book

/-! What a reader was asked before -/

/-- What a reader can be asked for. -/
inductive Request where
  | resolve (tag index : Int) (hint : Category)
  | field (blob : List UInt8)
  | method (blob : List UInt8)
  | property (blob : List UInt8)
  | type (joins : Joins) (index : Int) (row : TypeDefRow)
  | types

def remember (book : Book) (memory : Memory) : Request → Memory
  | .resolve tag index hint => lastState (book.resolveTag tag index hint memory)
  | .field blob => lastState (fieldSignature book.resolver book.levels blob memory)
  | .method blob => lastState (methodSignature book.resolver book.levels blob memory)
  | .property blob => lastState (propertySignature book.resolver book.levels blob memory)
  | .type joins index row => lastState (book.readType joins index row memory)
  | .types => lastState (book.readTypes memory)

def afterAll (book : Book) (requests : List Request) : Memory := requests.foldl book.remember {}

variable {book : Book} {index : Int} {row : TypeDefRow}

theorem Settles.lastState_faithful {α : Type} {lookup : Lookup α} {outcome : Except Fault α}
    (settles : book.Settles lookup outcome) {memory : Memory} (faithful : book.Faithful memory) :
    book.Faithful (lastState (lookup memory)) := by
  obtain ⟨later, kept, same⟩ := settles memory faithful
  rw [same]
  cases outcome <;> exact kept

theorem resolveTag_settled (tag index : Int) (hint : Category) :
    book.Settled (book.resolveTag tag index hint) := by
  unfold resolveTag
  split
  · exact (resolve_settles ⟨_, index, hint⟩).settled
  · exact lift_settled (.error (.signature (.unknownTag tag)))

theorem remember_faithful {memory : Memory} (faithful : book.Faithful memory)
    (request : Request) : book.Faithful (book.remember memory request) := by
  cases request with
  | resolve tag index hint => exact (resolveTag_settled tag index hint).lastState_faithful faithful
  | field blob => exact (fieldSignature_settled blob).lastState_faithful faithful
  | method blob => exact (methodSignature_settled blob).lastState_faithful faithful
  | property blob => exact (propertySignature_settled blob).lastState_faithful faithful
  | type joins index row => exact (readType_settles joins index row).lastState_faithful faithful
  | types => exact readTypes_settles.lastState_faithful faithful

theorem afterAll_faithful (requests : List Request) : book.Faithful (book.afterAll requests) := by
  unfold afterAll
  generalize start : ({} : Memory) = memory
  have faithful : book.Faithful memory := start ▸ fresh_faithful
  clear start
  induction requests generalizing memory with
  | nil => exact faithful
  | cons request rest ih => exact ih _ (remember_faithful faithful request)

theorem Settles.valueOf_after {α : Type} {lookup : Lookup α} {outcome : Except Fault α}
    (settles : book.Settles lookup outcome) (earlier : List Request) :
    valueOf (lookup (book.afterAll earlier)) = outcome := by
  obtain ⟨later, _, same⟩ := settles _ (afterAll_faithful earlier)
  rw [same]
  cases outcome <;> rfl

/-! Types of the book, by their numbers and as they are read -/

/-- What a reader with a past answers about a type of the book. -/
def mention (book : Book) (earlier : List Request) (index : Int) (hint : Category) :
    Except Fault TypeRef :=
  valueOf (book.resolveTag 0 index hint (book.afterAll earlier))

theorem mention_eq (earlier : List Request) (hint : Category) :
    book.mention earlier index hint = book.typeDefAt index :=
  (typeDefRef_settles index).valueOf_after earlier

theorem typeDefAt_found {ref : TypeRef} (found : book.tables.typeDef index = .ok row)
    (mentioned : book.typeDefAt index = .ok ref) :
    ∃ space category, book.tables.spaceOf index = .ok space ∧
      book.categoryAt index = .ok category ∧
      ref = { name := row.name, space := stated (some space), category } := by
  obtain ⟨_, same, rest⟩ := bind_found mentioned
  cases found.symm.trans same
  obtain ⟨space, spaced, rest⟩ := bind_found rest
  obtain ⟨category, categorized, made⟩ := bind_found rest
  exact ⟨space, category, spaced, categorized, (Except.ok.inj made).symm⟩

theorem normalize_asRef {head type : TypeDecl} (kept : head.normalize = .ok type) :
    type.asRef = { name := head.name, space := stated head.space, category := head.category } := by
  unfold TypeDecl.normalize at kept
  dsimp only at kept
  split at kept
  · cases arity : statedArity head.name with
    | error own =>
      rw [arity] at kept
      cases kept
    | ok number =>
      rw [arity] at kept
      cases kept
      rfl
  · cases kept
    rfl

theorem headFound_asRef {type : TypeDecl} (read : book.headFound index row = .ok type) :
    ∃ space category, book.tables.spaceOf index = .ok space ∧
      book.categoryAt index = .ok category ∧
      type.asRef = { name := row.name, space := stated (some space), category } := by
  obtain ⟨space, spaced, rest⟩ := bind_found read
  obtain ⟨category, categorized, rest⟩ := bind_found rest
  obtain ⟨base, _, rest⟩ := bind_found rest
  dsimp only at rest
  split at rest
  · rename_i kept
    cases rest
    exact ⟨space, category, spaced, categorized, normalize_asRef kept⟩
  · cases rest

theorem typeFound_asRef {joins : Joins} {type : TypeDecl}
    (found : book.tables.typeDef index = .ok row)
    (read : book.typeFound joins index row = .ok type) : book.typeDefAt index = .ok type.asRef := by
  obtain ⟨head, headed, rest⟩ := bind_found read
  obtain ⟨fields, _, rest⟩ := bind_found rest
  obtain ⟨methods, _, rest⟩ := bind_found rest
  obtain ⟨properties, _, made⟩ := bind_found rest
  obtain ⟨space, category, spaced, categorized, same⟩ := headFound_asRef headed
  have kept : type.asRef = head.asRef := by
    cases made
    unfold withFields
    split <;> rfl
  unfold typeDefAt
  rw [kept, same, found, spaced, categorized]
  rfl

/-- A type that others may be nested in, at any depth, is found in the namespace of the outermost
type around it, or of the one where the way outwards meets a type again. However a reader was used
before, and with any hint, it is mentioned as it is read. -/
theorem nested_type_mentioned_alike (found : book.tables.typeDef index = .ok row) :
    (∃ outer, book.tables.Outward [] index outer ∧
      book.tables.spaceOf index = (book.tables.typeDef outer).map (·.space)) ∧
    (∀ earlier hint fault, book.mention earlier index hint = .error fault →
      fault = .dangling ∨ ∃ own, fault = .signature own) ∧
    (∀ joins before type,
      valueOf (book.readType joins index row (book.afterAll before)) = .ok type →
      ∀ earlier hint, book.mention earlier index hint = .ok type.asRef) ∧
    (¬ book.tables.Encircled index →
      (∀ place, ReflTransGen book.tables.NestedIn index place →
        Tables.Within book.tables.typeDefs place) →
      ∃ outer outerRow, ReflTransGen book.tables.NestedIn index outer ∧
        book.tables.enclosing? outer = none ∧ book.tables.typeDef outer = .ok outerRow ∧
        ∀ earlier hint ref, book.mention earlier index hint = .ok ref →
          ref.space = stated (some outerRow.space)) := by
  refine ⟨⟨_, Tables.outward_iff.mpr rfl, ?_⟩, ?_, ?_, ?_⟩
  · unfold Tables.spaceOf
    cases book.tables.typeDef (book.tables.outermost index) <;> rfl
  · intro earlier hint fault failed
    rw [mention_eq] at failed
    exact typeDefAt_fault failed
  · intro joins before type read earlier hint
    rw [mention_eq]
    rw [(readType_settles joins index row).valueOf_after] at read
    exact typeFound_asRef found read
  · -- Outside a circle the walk outwards stops at a type that is nested in none.
    intro straight inside
    obtain ⟨reached, free⟩ := Tables.outermost_top straight
    obtain ⟨outerRow, _, outerFound⟩ := Tables.row_of_within (inside _ reached) "TypeDef"
    refine ⟨_, outerRow, reached, free, outerFound, fun earlier hint ref mentioned => ?_⟩
    rw [mention_eq] at mentioned
    obtain ⟨space, category, spaced, _, rfl⟩ := typeDefAt_found found mentioned
    have same : book.tables.spaceOf index = .ok outerRow.space := by
      unfold Tables.spaceOf Tables.typeDef
      rw [outerFound]
      rfl
    cases spaced.symm.trans same
    rfl

def threefold : Book where
  tables := {
    typeDefs := some [{ name := "Player", space := "Game" }, { name := "Bag" },
      { name := "Mode", base := some ⟨.typeRef, 1⟩ }]
    typeRefs := some [{ name := "Enum", space := "System" }]
    nested := some [⟨2, 1⟩, ⟨3, 2⟩] }

theorem innermost_mentioned :
    threefold.tables.typeDef 3 = .ok { name := "Mode", base := some ⟨.typeRef, 1⟩ } ∧
      ∀ earlier hint, threefold.mention earlier 3 hint =
        .ok { name := "Mode", space := some "Game", category := .enumType } :=
  ⟨rfl, (@nested_type_mentioned_alike threefold _ _ rfl).2.2.1
    { constants := [], getters := [], setters := [] } [.types]
    { name := "Mode", space := some "Game", category := .enumType, isNested := true
      base := some { name := "Enum", space := some "System" }, source := "dnfile" } rfl⟩

end Book

end ProxyHeaders.Metadata
