import ProxyHeaders.Proofs.Layout.Transcript
import ProxyHeaders.Proofs.Mapping.Declared
import ProxyHeaders.Proofs.Proxy.Alike

/-!
Runs that give the same headers. Laying out reads of a type its names, its base and what it
contributes; so where the types of a run are exchanged one by one for others that are the same but
for the order of their members, and the maps give the same answers, nothing else changes. A
generator that runs again is such a case: it keeps answers of its sanitizer, and those are the
answers that it would give without them.
-/
namespace ProxyHeaders.Layout

open ProxyHeaders.Code ProxyHeaders.Mapping ProxyHeaders.Names ProxyHeaders.Proxy
  ProxyHeaders.Template

def Group.exchange (change : TypeDecl → TypeDecl) (group : Group) : Group :=
  { group with types := group.types.map change }

theorem Group.exchange_id : Group.exchange id = id := by
  funext group
  simp [Group.exchange]

def Entry.exchange (change : TypeDecl → TypeDecl) : Entry → Entry
  | .declares type => .declares (change type)
  | .defines type => .defines (change type)
  | entry => entry

section

variable (change : TypeDecl → TypeDecl)

theorem declarations_exchange (group : Group) :
    (group.exchange change).declarations = group.declarations.map (Entry.exchange change) := by
  unfold Group.declarations Group.exchange
  cases group.space with
  | none => simp [Entry.exchange]
  | some space => simp [Entry.exchange]

theorem definitions_exchange (group : Group) :
    (group.exchange change).definitions = group.definitions.map (Entry.exchange change) := by
  unfold Group.definitions Group.exchange
  cases group.space with
  | none => simp [Entry.exchange]
  | some space => simp [Entry.exchange]

theorem combinedEntries_exchange (groups : List Group) :
    combinedEntries (groups.map (Group.exchange change)) =
      (combinedEntries groups).map (Entry.exchange change) := by
  simp only [combinedEntries, List.map_cons, List.map_append, List.map_flatMap, List.flatMap_map,
    declarations_exchange, definitions_exchange, Entry.exchange]

theorem neighbourEntries_exchange (others : List TypeDecl) :
    neighbourEntries (others.map change) =
      (neighbourEntries others).map (Entry.exchange change) := by
  unfold neighbourEntries
  cases others with
  | nil => rfl
  | cons type rest => simp [Entry.exchange]

end

section Exchange

variable {change : TypeDecl → TypeDecl} (same : ∀ type : TypeDecl, type.Rearranged (change type))

include same

theorem groupKey_exchange (type : TypeDecl) : (change type).groupKey = type.groupKey := by
  simp only [TypeDecl.groupKey, (same type).space]

/-! Groups -/

theorem survivorsFrom_exchange {first second : TypeMap} (alike : first.Alike second)
    (seen : List (String × String)) (types : List TypeDecl) :
    survivorsFrom second seen (types.map change) =
      (survivorsFrom first seen types).map change := by
  induction types generalizing seen with
  | nil => rfl
  | cons type rest ih =>
    have struct : second.structName (change type).name = first.structName type.name := by
      rw [alike.structName, (same type).name]
    have clean : (change type).cleanName = type.cleanName := by
      simp only [TypeDecl.cleanName, (same type).name]
    rw [List.map_cons, survivorsFrom, survivorsFrom, struct, clean, groupKey_exchange same,
      ← alike.isReservedName]
    by_cases left : (first.isReservedName type.cleanName ||
        seen.contains (type.groupKey, first.structName type.name)) = true
    · rw [if_pos left, if_pos left]
      exact ih seen
    · rw [if_neg left, if_neg left, List.map_cons, ih]

theorem groupKeys_exchange (types : List TypeDecl) :
    groupKeys (types.map change) = groupKeys types := by
  have keys : (types.map change).map (·.groupKey) = types.map (·.groupKey) := by
    rw [List.map_map]
    exact List.map_congr_left fun type _ => groupKey_exchange same type
  rw [groupKeys, keys]
  rfl

theorem sortByName_exchange (types : List TypeDecl) :
    sortByName (·.name) (types.map change) = (sortByName (·.name) types).map change := by
  unfold sortByName
  rw [List.map_mergeSort]
  intro first _ second _
  simp only [← (same first).name, ← (same second).name]

theorem lineage_exchange {find other : String → Option TypeDecl}
    (found : ∀ name, other name = (find name).map change) (placed : List String) (steps : Nat)
    (met : List String) (type : TypeDecl) :
    lineage other placed steps met (change type) =
      (lineage find placed steps met type).map change := by
  induction steps generalizing met type with
  | zero => rfl
  | succ steps ih =>
    have base : ((change type).base.bind fun base => other base.fullName) =
        (type.base.bind fun base => find base.fullName).map change := by
      rw [(same type).base]
      cases (change type).base with
      | none => rfl
      | some base => exact found base.fullName
    -- The walk remembers types by their full names, which the exchange leaves as they are.
    rw [lineage, lineage, ← (same type).fullName, base]
    by_cases ends : (placed.contains type.fullName || met.contains type.fullName) = true
    · rw [if_pos ends, if_pos ends]
      rfl
    · rw [if_neg ends, if_neg ends]
      cases type.base.bind fun base => find base.fullName with
      | none => rfl
      | some above =>
        simp only [Option.map_some, List.map_append, List.map_cons, List.map_nil]
        rw [ih]

theorem fullNames_exchange (types : List TypeDecl) :
    (types.map change).map (·.fullName) = types.map (·.fullName) := by
  rw [List.map_map]
  exact List.map_congr_left fun type _ => (same type).fullName.symm

theorem placeAll_exchange {find other : String → Option TypeDecl}
    (found : ∀ name, other name = (find name).map change) (steps : Nat)
    (placed types : List TypeDecl) :
    placeAll other steps (placed.map change) (types.map change) =
      (placeAll find steps placed types).map change := by
  induction types generalizing placed with
  | nil => rfl
  | cons type rest ih =>
    simp only [List.map_cons, placeAll]
    rw [fullNames_exchange same, lineage_exchange same found, ← List.map_append]
    exact ih _

theorem basesFirst_exchange (types : List TypeDecl) :
    basesFirst (types.map change) = (basesFirst types).map change := by
  unfold basesFirst
  rw [List.length_map]
  refine placeAll_exchange same ?_ _ [] types
  intro name
  rw [← List.map_reverse, List.find?_map]
  congr 2
  funext type
  simp only [Function.comp_apply, (same type).fullName]

theorem groupOf_exchange (types : List TypeDecl) (key : String) :
    groupOf (types.map change) key = (groupOf types key).exchange change := by
  have members : (types.map change).filter (·.groupKey == key) =
      (types.filter (·.groupKey == key)).map change := by
    rw [List.filter_map]
    congr 2
    funext type
    simp only [Function.comp_apply, groupKey_exchange same]
  have space (types : List TypeDecl) :
      (types.map change).head?.map (·.space) = types.head?.map (·.space) := by
    cases types with
    | nil => rfl
    | cons type rest => simp only [List.map_cons, List.head?_cons, Option.map_some, (same type).space]
  simp only [groupOf, members, space, sortByName_exchange same, basesFirst_exchange same,
    Group.exchange]

theorem groups_exchange {first second : TypeMap} (alike : first.Alike second)
    (types : List TypeDecl) :
    groups second (types.map change) = (groups first types).map (Group.exchange change) := by
  have kept : survivors second (types.map change) = (survivors first types).map change :=
    survivorsFrom_exchange same alike [] types
  simp only [groups, kept, groupKeys_exchange same, List.map_map]
  exact List.map_congr_left fun key _ => groupOf_exchange same _ key

theorem singleEntries_exchange (group : Group) (type : TypeDecl) :
    singleEntries (group.exchange change) (change type) =
      (singleEntries group type).map (Entry.exchange change) := by
  have others : (group.types.map change).filter (·.fullName != (change type).fullName) =
      (group.types.filter (·.fullName != type.fullName)).map change := by
    rw [List.filter_map]
    congr 2
    funext other
    simp only [Function.comp_apply, (same other).fullName, (same type).fullName]
  unfold singleEntries
  cases space : group.space with
  | none =>
    simp only [Group.exchange, space, others, neighbourEntries_exchange, List.map_append,
      List.map_cons, List.map_nil, Entry.exchange]
  | some name =>
    simp only [Group.exchange, space, others, neighbourEntries_exchange, List.map_append,
      List.map_cons, List.map_nil, Entry.exchange]

/-! Where headers are, and what they include -/

theorem unitPath_exchange {first second : TypeMap} (alike : first.Alike second)
    (type : TypeDecl) : unitPath second (change type) = unitPath first type := by
  simp only [unitPath, ← (same type).space, ← (same type).name, alike.structName]

theorem baseInclude_exchange {first second : Job} (alike : first.Alike second)
    (type : TypeDecl) :
    baseInclude second.map (change type) = baseInclude first.map type := by
  unfold baseInclude
  rw [← (same type).isEnum, ← alike.resolveBase (same type)]
  cases (first.map.resolveBase type).target? with
  | none => rfl
  | some target =>
    simp only [Option.bind_some, unitPath_exchange same alike.map]
    rcases alike.map.declared_both target with ⟨one, other⟩ | ⟨one, other, found, known, name, space, -⟩
    · rw [one, other]
    · -- What both maps declare for the base may differ in its members, but not in its path.
      have path : unitPath first.map one = unitPath second.map other := by
        simp only [unitPath, name, space, alike.map.structName]
      simp only [found, known, path]

end Exchange

/-! What jobs that are alike lay out -/

section Jobs

variable {change : TypeDecl → TypeDecl} {first second : Job} (alike : first.Alike second)
  (same : ∀ type : TypeDecl, type.Rearranged (change type))
  (render : ∀ type, first.renderFor type = second.renderFor (change type))

include alike

theorem preamble_alike (includes : List String) :
    preamble second includes = preamble first includes := by
  simp only [preamble, alike.render, alike.style, alike.settings]

theorem startSheet_alike (opening : String) : startSheet second opening = startSheet first opening := by
  simp only [startSheet, alike.settings]

include same

theorem forwardDeclaration_exchange (type : TypeDecl) :
    forwardDeclaration second.map (change type) = forwardDeclaration first.map type := by
  unfold forwardDeclaration
  rw [← (same type).isEnum, ← (same type).enumUnderlying, ← alike.structName (same type)]

include render

theorem follow_exchange (sheet : Sheet) (entry : Entry) :
    sheet.follow second (entry.exchange change) = sheet.follow first entry := by
  cases entry with
  | comment text => rfl
  | blank => rfl
  | opens space => rfl
  | closes => rfl
  | declares type =>
    simp only [Entry.exchange, Sheet.follow, Sheet.declare, ← (same type).fullName,
      forwardDeclaration_exchange alike same]
  | defines type =>
    simp only [Entry.exchange, Sheet.follow, Sheet.define]
    rw [← alike.define (same type) (render type), ← (same type).fullName,
      ← appendTo_rearranged (same type), ← messages_rearranged (same type)]

theorem followAll_exchange (entries : List Entry) (sheet : Sheet) :
    (entries.map (Entry.exchange change)).foldl (Sheet.follow second) sheet =
      entries.foldl (Sheet.follow first) sheet := by
  rw [List.foldl_map]
  congr 1
  funext sheet entry
  exact follow_exchange alike same render sheet entry

theorem combine_exchange (groups : List Group) :
    combine second (groups.map (Group.exchange change)) = combine first groups := by
  simp only [combine, Sheet.combined_follows, combinedEntries_exchange,
    followAll_exchange alike same render, preamble_alike alike, startSheet_alike alike,
    alike.settings]

theorem addHeader_exchange (arranged : Arranged) (group : Group) (type : TypeDecl) :
    addHeader second arranged (group.exchange change) (change type) =
      addHeader first arranged group type := by
  simp only [addHeader, Sheet.single_follows, singleEntries_exchange same,
    followAll_exchange alike same render, preamble_alike alike, startSheet_alike alike,
    baseInclude_exchange same alike, unitPath_exchange same alike.map]

theorem split_exchange (groups : List Group) :
    split second (groups.map (Group.exchange change)) = split first groups := by
  have pairs : ((groups.map (Group.exchange change)).flatMap fun group =>
      group.types.map fun type => (group, type)) =
      (groups.flatMap fun group => group.types.map fun type => (group, type)).map
        fun pair => (pair.1.exchange change, change pair.2) := by
    simp only [List.flatMap_map, List.map_flatMap, Group.exchange, List.map_map]
    rfl
  rw [split, pairs, List.foldlM_map]
  simp only [addHeader_exchange alike same render]
  rfl

/-- Two runs give the same if their jobs are alike and their groups hold the same types, each
exchanged for one that differs in the order of its members. -/
theorem generateOn_exchange {types others : List TypeDecl} (count : types.length = others.length)
    (grouped : groups second.map others =
      (groups first.map types).map (Group.exchange change)) :
    generateOn second others = generateOn first types := by
  simp only [generateOn, arrange, grouped, combine_exchange alike same render,
    split_exchange alike same render, alike.settings, alike.image, count]

end Jobs

end ProxyHeaders.Layout

namespace ProxyHeaders

open ProxyHeaders.Mapping ProxyHeaders.Names ProxyHeaders.Template

theorem jobFor_alike (settings : Settings) (render : Renderer) {sanitizer other : Sanitizer}
    (alike : sanitizer.Alike other) {types others : List TypeDecl}
    (declared : ∀ name, (types.find? (·.fullName == name)).map (·.asRef) =
      (others.find? (·.fullName == name)).map (·.asRef)) :
    (jobFor settings sanitizer render types).Alike (jobFor settings other render others) := by
  let start (sanitizer : Sanitizer) : TypeMap := { allowed := settings.allowedSpaces, sanitizer }
  obtain ⟨firstSanitizer, firstAllowed, firstReserved⟩ :=
    TypeMap.declareAll_rest (start sanitizer) types
  obtain ⟨secondSanitizer, secondAllowed, secondReserved⟩ :=
    TypeMap.declareAll_rest (start other) others
  have map : ((start sanitizer).declareAll types).Alike ((start other).declareAll others) := by
    constructor
    · rw [firstAllowed, secondAllowed]
    · rw [firstReserved, secondReserved]
    · rw [firstSanitizer, secondSanitizer]
      exact alike
    · intro name
      rw [TypeMap.declareAll_finds, TypeMap.declareAll_finds]
      exact declared name
  exact ⟨rfl, map, rfl⟩

theorem generateWith_alike (settings : Settings) (render : Renderer) {sanitizer other : Sanitizer}
    (alike : sanitizer.Alike other) (types : List TypeDecl) :
    generateWith settings other render types = generateWith settings sanitizer render types := by
  have jobs := jobFor_alike settings render alike fun name =>
    Eq.refl ((types.find? (·.fullName == name)).map (·.asRef))
  -- The types stay what they are: each is exchanged for itself.
  have unchanged : ∀ type : TypeDecl, type.Rearranged (id type) := TypeDecl.Rearranged.refl
  have grouped := Layout.groups_exchange unchanged jobs.map types
  rw [List.map_id] at grouped
  exact Layout.generateOn_exchange jobs unchanged (fun _ => rfl) rfl grouped

/-! A generator keeps no history -/

namespace Generator

/-- What a generator returns for some lists of types that it is given one after the other. -/
def results (generator : Generator) : List (List TypeDecl) → List (Except RenderFailure Generation)
  | [] => []
  | types :: later => (generator.run types).1 :: (generator.run types).2.results later

/-- A generator with these settings and templates that has kept nothing but right answers. -/
structure Unspoiled (settings : Settings) (render : Renderer) (generator : Generator) : Prop where
  settings : generator.settings = settings
  render : generator.render = render
  faithful : generator.sanitizer.Faithful
  alike : generator.sanitizer.Alike Sanitizer.forHeaders

variable {settings : Settings} {render : Renderer} {generator : Generator}

theorem fresh_unspoiled (settings : Settings) (render : Renderer) :
    Unspoiled settings render { settings, render } :=
  ⟨rfl, rfl, Sanitizer.forget_faithful Sanitizer.forHeaders, .refl _⟩

theorem Unspoiled.keepAll (unspoiled : Unspoiled settings render generator) (names : List String) :
    Unspoiled settings render
      { generator with sanitizer := generator.sanitizer.keepAll names } := by
  obtain ⟨faithful, alike⟩ := Sanitizer.keepAll_faithful unspoiled.faithful names
  exact ⟨unspoiled.settings, unspoiled.render, faithful, alike.trans unspoiled.alike⟩

theorem Unspoiled.run (unspoiled : Unspoiled settings render generator) (types : List TypeDecl) :
    (generator.run types).1 = (Generator.run { settings, render } types).1 ∧
      Unspoiled settings render (generator.run types).2 := by
  constructor
  · simp only [Generator.run, unspoiled.settings, unspoiled.render]
    exact (generateWith_alike settings render unspoiled.alike types).symm
  · exact unspoiled.keepAll (types.flatMap namesIn)

theorem Unspoiled.results (unspoiled : Unspoiled settings render generator)
    (lists : List (List TypeDecl)) :
    generator.results lists =
      lists.map fun types => (Generator.run { settings, render } types).1 := by
  induction lists generalizing generator with
  | nil => rfl
  | cons types later ih =>
    obtain ⟨result, next⟩ := unspoiled.run types
    rw [Generator.results, result, ih next]
    rfl

/-- Whatever lists of types a generator is given one after the other, for each of them it returns
what a fresh generator with the same settings and templates returns for this list alone. -/
theorem results_independent (settings : Settings) (render : Renderer)
    (lists : List (List TypeDecl)) :
    Generator.results { settings, render } lists =
      lists.map fun types => (Generator.run { settings, render } types).1 :=
  (fresh_unspoiled settings render).results lists

end Generator

end ProxyHeaders
