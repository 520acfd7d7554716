import ProxyHeaders.Proofs.Layout.Alike
import ProxyHeaders.Proofs.Layout.Partition

/-!
The order of the input does not show in the output. Types are laid out group by group and by name,
members by name; where nothing is left out for its name, it does not matter which comes first.
-/
namespace ProxyHeaders

open ProxyHeaders.Layout ProxyHeaders.Mapping ProxyHeaders.Names ProxyHeaders.Proxy
  ProxyHeaders.Template

theorem TypeDecl.normalize_space {raw type : TypeDecl} (kept : raw.normalize = .ok type) :
    stated type.space = type.space := by
  have written (arity : Nat) (kept : { raw with space := stated raw.space, genericArity := arity } =
      type) : stated type.space = type.space := by
    rw [← kept]
    simp [stated, Option.filter_filter]
  unfold TypeDecl.normalize at kept
  by_cases unstated : raw.genericArity = 0
  · simp only [if_pos unstated] at kept
    cases found : statedArity raw.name with
    | error fault =>
      rw [found] at kept
      cases kept
    | ok arity =>
      rw [found] at kept
      exact written arity (Except.ok.inj kept)
  · simp only [if_neg unstated] at kept
    exact written raw.genericArity (Except.ok.inj kept)

/-- Types that a run can tell apart by their full names, and within a namespace by the names of
their structs; and no namespace that is taken for the lack of one. -/
structure Tidy (sanitizer : Sanitizer) (types : List TypeDecl) : Prop where
  fullNames : (types.map (·.fullName)).Nodup
  structNames : (types.map fun type => (type.space, sanitizer.identifier type.cleanName)).Nodup
  kept : ∀ type ∈ types, ∃ raw : TypeDecl, raw.normalize = .ok type
  spaces : ∀ type ∈ types, type.space ≠ some globalGroup

/-- Items of different names in another order, or any items in the same. -/
def Shuffled {α : Type} (name : α → String) (first second : List α) : Prop :=
  first = second ∨ first.Perm second ∧ (first.map name).Nodup

/-- The same type with its fields and properties in another order, unless some of them share a name,
and its methods in another order in which those of one name keep theirs. -/
structure TypeDecl.Reordered (first second : TypeDecl) : Prop where
  bare : first.bare = second.bare
  fields : Shuffled (·.name) first.fields second.fields
  properties : Shuffled (·.name) first.properties second.properties
  methods : first.methods.Perm second.methods
  overloads : ∀ name, first.methods.filter (·.name == name) = second.methods.filter (·.name == name)

theorem Shuffled.same {α : Type} {name : α → String} {first second : List α}
    (shuffled : Shuffled name first second) : SameByName name first second := by
  rcases shuffled with rfl | ⟨moved, distinct⟩
  · exact .refl first
  · exact .of_perm moved distinct

namespace TypeDecl

theorem Reordered.rearranged {first second : TypeDecl} (reordered : first.Reordered second) :
    first.Rearranged second :=
  ⟨reordered.bare, reordered.fields.same, reordered.properties.same, reordered.overloads⟩

/-! The order of members -/

def arranged (type : TypeDecl) : TypeDecl :=
  { type.bare with
    fields := sortByName (·.name) type.fields
    properties := sortByName (·.name) type.properties
    methods := sortByName (·.name) type.methods }

theorem rearranged_arranged (type : TypeDecl) : type.Rearranged type.arranged := by
  refine ⟨rfl, ?_, ?_, ?_⟩
  · exact fun key => (sortByName_stable type.fields key).symm
  · exact fun key => (sortByName_stable type.properties key).symm
  · exact fun key => (sortByName_stable type.methods key).symm

theorem Rearranged.arranged_eq {first second : TypeDecl} (same : first.Rearranged second) :
    first.arranged = second.arranged := by
  simp only [arranged, same.bare, sortByName_congr same.fields,
    sortByName_congr same.properties, sortByName_congr same.methods]

theorem arrangedAll_eq {types others : List TypeDecl}
    (reordered : List.Forall₂ Reordered types others) :
    types.map arranged = others.map arranged := by
  induction reordered with
  | nil => rfl
  | cons first _ ih => rw [List.map_cons, List.map_cons, first.rearranged.arranged_eq, ih]

end TypeDecl

theorem generateWith_sorted (settings : Settings) (sanitizer : Sanitizer) (render : Renderer)
    (types : List TypeDecl) :
    generateWith settings sanitizer render (types.map TypeDecl.arranged) =
      generateWith settings sanitizer render types := by
  have same := TypeDecl.rearranged_arranged
  have jobs := jobFor_alike settings render (.refl sanitizer) fun name => by
    show (types.find? (·.fullName == name)).map (·.asRef) =
      ((types.map TypeDecl.arranged).find? (·.fullName == name)).map (·.asRef)
    rw [List.find?_map, Option.map_map]
    rfl
  exact generateOn_exchange jobs same (fun _ => rfl) (List.length_map _).symm
    (groups_exchange same jobs.map types)

/-! The order of types -/

namespace Tidy

variable {sanitizer : Sanitizer} {types : List TypeDecl} (tidy : Tidy sanitizer types)

include tidy

theorem space_of_key {first second : TypeDecl} (inFirst : first ∈ types)
    (inSecond : second ∈ types) (key : first.groupKey = second.groupKey) :
    first.space = second.space := by
  have named (type : TypeDecl) (member : type ∈ types) :
      type.groupKey = type.space.getD globalGroup := by
    obtain ⟨raw, kept⟩ := tidy.kept type member
    rw [TypeDecl.groupKey, TypeDecl.normalize_space kept]
  rw [named first inFirst, named second inSecond] at key
  have firstOther := tidy.spaces first inFirst
  have secondOther := tidy.spaces second inSecond
  cases here : first.space with
  | none =>
    cases there : second.space with
    | none => rfl
    | some space =>
      rw [here, there] at key
      rw [there] at secondOther
      exact absurd (congrArg some key.symm) secondOther
  | some space =>
    cases there : second.space with
    | none =>
      rw [here, there] at key
      rw [here] at firstOther
      exact absurd (congrArg some key) firstOther
    | some other =>
      rw [here, there] at key
      exact congrArg some key

theorem perm {others : List TypeDecl} (moved : types.Perm others) : Tidy sanitizer others where
  fullNames := (moved.map _).nodup_iff.mp tidy.fullNames
  structNames := (moved.map _).nodup_iff.mp tidy.structNames
  kept := fun type member => tidy.kept type (moved.mem_iff.mpr member)
  spaces := fun type member => tidy.spaces type (moved.mem_iff.mpr member)

end Tidy

namespace Layout

/-- Where no two types of a group share a generated name, only reserved names leave a type out. -/
theorem survivorsFrom_filter {map : TypeMap} {types : List TypeDecl}
    {seen : List (String × String)}
    (distinct : (types.map fun type => (type.groupKey, map.structName type.name)).Nodup)
    (unseen : ∀ type ∈ types, (type.groupKey, map.structName type.name) ∉ seen) :
    survivorsFrom map seen types = types.filter fun type => !map.isReservedName type.cleanName := by
  induction types generalizing seen with
  | nil => rfl
  | cons type rest ih =>
    obtain ⟨new, restDistinct, later⟩ := unseen_cons distinct unseen
    have unknown : seen.contains (type.groupKey, map.structName type.name) = false := by
      simpa using new
    rw [survivorsFrom, unknown, Bool.or_false, List.filter_cons]
    cases reserved : map.isReservedName type.cleanName with
    | true =>
      -- A type that is left out is not remembered.
      have still : ∀ other ∈ rest, (other.groupKey, map.structName other.name) ∉ seen :=
        fun other member known => later other member (List.mem_cons_of_mem _ known)
      exact ih restDistinct still
    | false => simpa using ih restDistinct later

theorem groupKeys_perm {types others : List TypeDecl} (moved : types.Perm others) :
    groupKeys types = groupKeys others := by
  have members : (groupKeys types).Perm (groupKeys others) := by
    have once (types : List TypeDecl) : (groupKeys types).Nodup :=
      (groupKeys_strict types).imp fun less => String.ne_of_lt less
    rw [List.perm_ext_iff_of_nodup (once types) (once others)]
    intro key
    simp only [mem_groupKeys, moved.mem_iff]
  refine members.eq_of_pairwise ?_ (groupKeys_strict types) (groupKeys_strict others)
  intro first second _ _ less greater
  exact absurd greater (String.lt_asymm less)

section Perm

variable {sanitizer : Sanitizer} {types others : List TypeDecl} (tidy : Tidy sanitizer types)
  (moved : types.Perm others)

include tidy

theorem survivors_filter {map : TypeMap} (own : map.sanitizer = sanitizer) :
    survivors map types = types.filter fun type => !map.isReservedName type.cleanName := by
  have distinct : (types.map fun type => (type.groupKey, map.structName type.name)).Nodup := by
    have names := tidy.structNames
    rw [List.Nodup, List.pairwise_map] at names ⊢
    refine names.imp_of_mem ?_
    -- Types of one group have one namespace, and within it their names differ.
    intro first second inFirst inSecond different same
    simp only [Prod.mk.injEq, TypeMap.structName, own] at same
    exact different (Prod.ext (tidy.space_of_key inFirst inSecond same.1) same.2)
  exact survivorsFrom_filter distinct (fun _ _ => List.not_mem_nil)

include moved

theorem groupOf_perm_eq (key : String) : groupOf types key = groupOf others key := by
  have members : (types.filter (·.groupKey == key)).Perm (others.filter (·.groupKey == key)) :=
    moved.filter _
  have inGroup : ∀ type ∈ types.filter (·.groupKey == key), type ∈ types ∧ type.groupKey = key := by
    intro type member
    simpa using member
  -- All types of the group have one namespace, so it does not matter which of them comes first.
  have space : (types.filter (·.groupKey == key)).head?.map (·.space) =
      (others.filter (·.groupKey == key)).head?.map (·.space) := by
    cases here : types.filter (·.groupKey == key) with
    | nil =>
      rw [here] at members
      rw [members.symm.eq_nil]
    | cons first rest =>
      cases there : others.filter (·.groupKey == key) with
      | nil =>
        rw [here, there] at members
        exact absurd members.eq_nil (List.cons_ne_nil first rest)
      | cons second later =>
        have inFirst := inGroup first (by rw [here]; exact List.mem_cons_self)
        have inSecond := inGroup second (by
          rw [members.mem_iff, there]
          exact List.mem_cons_self)
        have same := tidy.space_of_key inFirst.1 inSecond.1 (inFirst.2.trans inSecond.2.symm)
        simp only [List.head?_cons, Option.map_some, same]
  have names : ((types.filter (·.groupKey == key)).map (·.name)).Nodup := by
    have once : ((types.filter (·.groupKey == key)).map (·.fullName)).Nodup :=
      tidy.fullNames.sublist (List.filter_sublist.map _)
    rw [List.Nodup, List.pairwise_map] at once ⊢
    refine once.imp_of_mem ?_
    intro first second inFirst inSecond different same
    obtain ⟨memberFirst, keyFirst⟩ := inGroup first inFirst
    obtain ⟨memberSecond, keySecond⟩ := inGroup second inSecond
    apply different
    rw [TypeDecl.fullName, TypeDecl.fullName, same,
      tidy.space_of_key memberFirst memberSecond (keyFirst.trans keySecond.symm)]
  have sorted : sortByName (·.name) (types.filter (·.groupKey == key)) =
      sortByName (·.name) (others.filter (·.groupKey == key)) :=
    sortByName_congr (.of_perm members names)
  simp only [groupOf, space, sorted]

theorem groups_perm {first second : TypeMap} (alike : first.Alike second)
    (firstOwn : first.sanitizer = sanitizer) (secondOwn : second.sanitizer = sanitizer) :
    groups second others = groups first types := by
  have kept : (survivors first types).Perm (survivors second others) := by
    rw [survivors_filter tidy firstOwn, survivors_filter (tidy.perm moved) secondOwn]
    simp only [alike.isReservedName]
    exact moved.filter _
  have keptTidy : Tidy sanitizer (survivors first types) := by
    have part := survivors_sublist first types
    exact ⟨tidy.fullNames.sublist (part.map _), tidy.structNames.sublist (part.map _),
      fun type member => tidy.kept type (part.subset member),
      fun type member => tidy.spaces type (part.subset member)⟩
  rw [groups, groups, ← groupKeys_perm kept]
  refine List.map_congr_left fun key _ => ?_
  exact (groupOf_perm_eq keptTidy kept key).symm

end Perm

end Layout

theorem generateWith_perm (settings : Settings) (render : Renderer) {sanitizer : Sanitizer}
    {types others : List TypeDecl} (tidy : Tidy sanitizer types) (moved : types.Perm others) :
    generateWith settings sanitizer render others =
      generateWith settings sanitizer render types := by
  -- Where no full name repeats, the one type that has it is found in any order.
  have found (name : String) : types.find? (·.fullName == name) =
      others.find? (·.fullName == name) := by
    apply Option.ext
    intro type
    rw [find_fullName tidy.fullNames, find_fullName (tidy.perm moved).fullNames, moved.mem_iff]
  have jobs := jobFor_alike settings render (.refl sanitizer) fun name =>
    congrArg (Option.map (·.asRef)) (found name)
  have unchanged : ∀ type : TypeDecl, type.Rearranged (id type) := TypeDecl.Rearranged.refl
  have own (types : List TypeDecl) :
      (jobFor settings sanitizer render types).map.sanitizer = sanitizer :=
    (TypeMap.declareAll_rest _ types).1
  have grouped := groups_perm tidy moved jobs.map (own types) (own others)
  refine generateOn_exchange jobs unchanged (fun _ => rfl) moved.length_eq ?_
  rw [grouped, Group.exchange_id, List.map_id]

/-- The types of a run may come in any order, and so may the fields, properties and methods of each
of them, if methods of one name keep their order: with all settings and templates the run returns
the same headers, warnings and figures. -/
theorem output_order_independent (settings : Settings) (render : Renderer) {sanitizer : Sanitizer}
    {types moved others : List TypeDecl} (tidy : Tidy sanitizer types)
    (typesMoved : types.Perm moved) (membersMoved : List.Forall₂ TypeDecl.Reordered moved others) :
    generateWith settings sanitizer render others =
      generateWith settings sanitizer render types := by
  rw [← generateWith_perm settings render tidy typesMoved,
    ← generateWith_sorted settings sanitizer render moved,
    TypeDecl.arrangedAll_eq membersMoved,
    generateWith_sorted settings sanitizer render others]

/-! A lamp behind another type, and in front of it with its members the other way round. -/

def number : TypeRef := { name := "Int32", space := some "System", category := .structType }

def blink : Method := { name := "Blink", returnType := number }
def blinkFor : Method := { blink with parameters := [⟨some "seconds", number⟩] }
def dim : Method := { name := "Dim", returnType := number }

def lamp : TypeDecl :=
  { name := "Lamp", space := some "House"
    fields := [{ name := "power", type := number }, { name := "age", type := number }]
    methods := [blink, dim, blinkFor] }

def turnedLamp : TypeDecl :=
  { lamp with fields := lamp.fields.reverse, methods := [dim, blink, blinkFor] }

def door : TypeDecl := { name := "Door", space := some "House" }

theorem lamp_order_independent :
    Tidy Sanitizer.forHeaders [door, lamp] ∧ [door, lamp].Perm [lamp, door] ∧
    List.Forall₂ TypeDecl.Reordered [lamp, door] [turnedLamp, door] ∧
    ∀ singleFile : Bool,
      generateWith { singleFile } Sanitizer.forHeaders renderer [turnedLamp, door] =
        generateWith { singleFile } Sanitizer.forHeaders renderer [door, lamp] := by
  have tidy : Tidy Sanitizer.forHeaders [door, lamp] := by
    refine ⟨by decide, by decide, ?_, ?_⟩
    · simp only [List.forall_mem_cons, List.not_mem_nil, false_implies, implies_true, and_true]
      exact ⟨⟨door, rfl⟩, ⟨lamp, rfl⟩⟩
    · simp [door, lamp, globalGroup]
  have moved : [door, lamp].Perm [lamp, door] := List.Perm.swap lamp door []
  have turned : lamp.Reordered turnedLamp := by
    refine ⟨rfl, .inr ⟨(List.reverse_perm lamp.fields).symm, by decide⟩, .inl rfl,
      List.Perm.swap dim blink [blinkFor], ?_⟩
    -- Only the overloads of one name have an order to keep, and they keep it.
    intro name
    by_cases named : name = "Dim"
    · subst named
      rfl
    · have other : ("Dim" == name) = false := by simpa using Ne.symm named
      simp [lamp, turnedLamp, dim, List.filter_cons, other]
  have untouched : door.Reordered door := ⟨rfl, .inl rfl, .inl rfl, .refl _, fun _ => rfl⟩
  have reordered : List.Forall₂ TypeDecl.Reordered [lamp, door] [turnedLamp, door] :=
    .cons turned (.cons untouched .nil)
  refine ⟨tidy, moved, reordered, ?_⟩
  intro singleFile
  exact output_order_independent { singleFile } renderer tidy moved reordered

end ProxyHeaders
