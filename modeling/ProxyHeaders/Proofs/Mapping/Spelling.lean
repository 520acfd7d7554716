import ProxyHeaders.Proofs.Mapping.Reasons
import ProxyHeaders.Proofs.Names.Words

/-!
The spellings of mapped types and bases are plain code: no brackets, comments or literals. Where
references are plain, what a refusal says stays in its line.
-/
namespace ProxyHeaders

open ProxyHeaders.Check ProxyHeaders.Names

/-- A namespace of words between dots, or none. -/
def Dotted (space : Option String) : Prop :=
  ∀ text, stated space = some text → ∀ part ∈ Text.splitAtChar '.' text, IsWord part

instance (space : Option String) : Decidable (Dotted space) :=
  decidable_of_iff
    (∀ text ∈ (stated space).toList, ∀ part ∈ Text.splitAtChar '.' text, IsWord part)
    (by simp [Dotted])

/-- Every reference inside this one has a name without line breaks and a dotted namespace. -/
def TypeRef.Plain (ref : TypeRef) : Prop :=
  ∀ inner, TypeRef.Inside inner ref → Unbroken inner.name ∧ Dotted inner.space

namespace TypeRef.Plain

theorem element {ref element : TypeRef} (plain : ref.Plain) (found : ref.element = some element) :
    element.Plain := fun inner deeper => plain inner (.element found deeper)

theorem argument {ref argument : TypeRef} (plain : ref.Plain) (found : argument ∈ ref.arguments) :
    argument.Plain := fun inner deeper => plain inner (.argument found deeper)

theorem name {ref : TypeRef} (plain : ref.Plain) : Unbroken ref.name := (plain ref (.itself ref)).1

theorem space {ref : TypeRef} (plain : ref.Plain) : Dotted ref.space := (plain ref (.itself ref)).2

theorem alone {ref : TypeRef} (noElement : ref.element = none) (noArgument : ref.arguments = [])
    (name : Unbroken ref.name) (space : Dotted ref.space) : ref.Plain := by
  intro inner deeper
  rw [deeper.alone noElement noArgument]
  exact ⟨name, space⟩

end TypeRef.Plain

/-! Texts in one line -/

theorem neutral_unbroken {text : String} (neutral : Neutral text) : Unbroken text := by
  intro member
  have := neutral '\n' member
  revert this
  decide

theorem intercalate_neutral {separator : String} {texts : List String}
    (between : Neutral separator) (neutral : ∀ text ∈ texts, Neutral text) :
    Neutral (separator.intercalate texts) := by
  intro c member
  rcases mem_intercalate member with separating | ⟨text, listed, inside⟩
  · exact between c separating
  · exact neutral text listed c inside

theorem dotted_unbroken {space : Option String} {text : String} (dotted : Dotted space)
    (found : stated space = some text) : Unbroken text := by
  intro member
  rcases Text.separator_or_piece '.' member with same | ⟨piece, part, inside⟩
  · exact absurd same (by decide)
  · have word := dotted text found (String.ofList piece) (List.mem_map.mpr ⟨piece, part, rfl⟩)
    exact absurd (word '\n' (by simpa using inside)) (by decide)

theorem TypeRef.Plain.oneLine {ref : TypeRef} (plain : ref.Plain) : ref.OneLine := by
  intro inner inside
  obtain ⟨name, dotted⟩ := plain inner inside
  exact ⟨name, fun text found => dotted_unbroken dotted found⟩

namespace Mapping

theorem scopeOf_neutral {space : Option String} (dotted : Dotted space) :
    Neutral (scopeOf space) := by
  unfold scopeOf
  split
  · next text found =>
    refine intercalate_neutral (by decide) ?_
    intro part member
    exact word_neutral (dotted text found part member)
  · exact Neutral.empty

/-- An outcome whose spelling, if it has one, is plain code. -/
def Outcome.Spelled : Outcome → Prop
  | .mapped type _ => Neutral type.render
  | .refused _ _ _ => True

/-- An outcome whose spelling is plain code, or whose reason stays in its line. -/
def Outcome.Sound : Outcome → Prop
  | .mapped type _ => Neutral type.render
  | .refused _ reason _ => Unbroken reason.message

theorem Outcome.Spelled.sound {outcome : Outcome} {ref : TypeRef} (spelled : outcome.Spelled)
    (names : outcome.Names ref) (oneLine : ref.OneLine) : outcome.Sound := by
  cases outcome with
  | mapped type lossy => exact spelled
  | refused refusal reason lossy => exact Reason.Names.oneLine names oneLine

namespace TypeMap

variable {map : TypeMap}

theorem structName_word (wordy : map.sanitizer.Wordy) (name : String) :
    IsWord (map.structName name) := Sanitizer.identifier_word wordy (cleanName name)

theorem qualifiedStructName_neutral (wordy : map.sanitizer.Wordy) {space : Option String}
    (dotted : Dotted space) (name : String) : Neutral (map.qualifiedStructName space name) := by
  have struct := word_neutral (structName_word wordy name)
  simp only [qualifiedStructName]
  split
  · exact struct
  · exact ((scopeOf_neutral dotted).append (by decide)).append struct

theorem known_neutral {name spelling : String}
    (found : knownSpellings.lookup name = some spelling) : Neutral spelling := by
  have all : ∀ entry ∈ knownSpellings, Neutral entry.2 := by decide
  exact all (name, spelling) (mem_of_lookup found)

theorem mapEnum_spelled (wordy : map.sanitizer.Wordy) {ref : TypeRef} (plain : ref.Plain) :
    (map.mapEnum ref).Spelled := by
  unfold mapEnum
  split
  · exact qualifiedStructName_neutral wordy plain.space ref.name
  · split
    · trivial
    · show Neutral "int"
      decide

theorem mapGeneric_spelled {ref : TypeRef} {ofArgument : Option Outcome}
    (argument : ∀ outcome, ofArgument = some outcome → outcome.Spelled) :
    (mapGeneric ref ofArgument).Spelled := by
  have hidden : Outcome.Spelled (.mapped .hidden true) := by
    show Neutral "void*"
    decide
  unfold mapGeneric
  split
  · next element lossy =>
    split
    · have inner : Neutral element.render := argument _ rfl
      exact (Neutral.append (by decide) inner).append (by decide)
    · exact hidden
  · exact hidden

theorem classify_spelled (wordy : map.sanitizer.Wordy) (owner : Option String) {ref : TypeRef}
    {ofElement ofArgument : Option Outcome} (plain : ref.Plain)
    (element : ∀ outcome, ofElement = some outcome → outcome.Spelled)
    (argument : ∀ outcome, ofArgument = some outcome → outcome.Spelled) :
    (map.classify owner ref ofElement ofArgument).Spelled := by
  have known := @known_neutral (lookupName ref)
  -- One case for each kind of type, in the order in which they are tried.
  simp only [classify]
  split
  · next outcome found =>
    have spelled := element outcome (by grind)
    cases outcome with
    | mapped type lossy => exact Neutral.append spelled (by decide)
    | refused refusal reason lossy => trivial
  split
  · trivial
  split
  · next outcome found => exact argument outcome (by grind)
  split
  · trivial
  split
  · trivial
  split
  · split
    · trivial
    · next type lossy found =>
      have inner : Neutral type.render := element _ rfl
      exact (Neutral.append (by decide) inner).append (by decide)
    · next refused found => exact element _ rfl
  split
  · exact mapGeneric_spelled argument
  split
  · exact mapEnum_spelled wordy plain
  split
  · next spelling found => exact known found
  · trivial

theorem mapType_spelled (wordy : map.sanitizer.Wordy) (owner : Option String) :
    ∀ ref : TypeRef, ref.Plain → (map.mapType owner ref).Spelled
  | ⟨name, space, category, element, isArray, isByref, arguments⟩, plain => by
    unfold mapType
    refine classify_spelled wordy owner plain ?_ ?_
    · intro outcome found
      cases element with
      | none => cases found
      | some element =>
        rw [← Option.some_inj.mp found]
        exact mapType_spelled wordy owner element (plain.element rfl)
    · intro outcome found
      cases arguments with
      | nil => cases found
      | cons argument rest =>
        rw [← Option.some_inj.mp found]
        exact mapType_spelled wordy owner argument (plain.argument List.mem_cons_self)

theorem mapMember_sound (wordy : map.sanitizer.Wordy) (owner : Option String) {ref : TypeRef}
    (plain : ref.Plain) : (map.mapMember owner ref).Sound := by
  have spelled : (map.mapMember owner ref).Spelled := by
    simp only [mapMember]
    split
    · trivial
    · exact mapType_spelled wordy owner ref plain
  exact spelled.sound (mapMember_names owner ref) plain.oneLine

end TypeMap

/-! Bases -/

/-- A base that is plain code where it is inherited and stays in its line where it is quoted. -/
def BaseClass.Sound : BaseClass → Prop
  | .placeholder _ => True
  | .provided spelling _ => Neutral spelling
  | .itself source => Unbroken source
  | .generated spelling source _ => Neutral spelling ∧ Unbroken source
  | .missing source => Unbroken source

theorem BaseClass.Sound.oneLine {base : BaseClass} (sound : base.Sound) : base.OneLine := by
  cases base with
  | generated spelling source target => exact sound.2
  | missing source => exact sound
  | placeholder source | provided spelling source | itself source => trivial

theorem inheritable_neutral {name spelling : String}
    (found : inheritableBases.lookup name = some spelling) : Neutral spelling := by
  have all : ∀ entry ∈ inheritableBases, Neutral entry.2 := by decide
  exact all (name, spelling) (mem_of_lookup found)

theorem resolveBase_sound {map : TypeMap} (wordy : map.sanitizer.Wordy)
    (declared : ∀ type ∈ map.declared, Dotted type.space) {type : TypeDecl}
    (plain : ∀ base, type.base = some base → base.Plain) : (map.resolveBase type).Sound := by
  have inherited := @inheritable_neutral
  simp only [TypeMap.resolveBase]
  split
  · trivial
  · next base found =>
    have source := plain base found
    have full := fullName_oneLine base source.oneLine
    have clean := cleanName_unbroken source.name
    split
    · trivial
    · split
      · exact clean
      · split
        · next spelling listed => exact inherited listed
        · split
          · next target known =>
            have member := List.mem_of_find?_eq_some known
            split
            · have spelling :=
                TypeMap.qualifiedStructName_neutral wordy (declared target member) target.name
              exact ⟨spelling, clean⟩
            · exact full
          · exact full

theorem spelling_neutral {base : BaseClass} (sound : base.Sound) {placeholder spelling : String}
    (standIn : Neutral placeholder) (spelled : base.spelling? placeholder = some spelling) :
    Neutral spelling := by
  cases base with
  | placeholder source => exact Option.some_inj.mp spelled ▸ standIn
  | provided provided source => exact Option.some_inj.mp spelled ▸ sound
  | itself source => exact Option.some_inj.mp spelled ▸ standIn
  | generated generated source target => exact Option.some_inj.mp spelled ▸ sound.1
  | missing source => simp [BaseClass.spelling?] at spelled

theorem fullName_of_declared? {map : TypeMap} {name : String} {type : TypeDecl}
    (found : map.declared? name = some type) : type.fullName = name := by
  simpa using List.find?_some found

theorem scopeOf_oneLine {space : Option String}
    (outer : ∀ text, stated space = some text → Unbroken text) : Unbroken (scopeOf space) := by
  unfold scopeOf
  split
  · next text found =>
    intro broken
    rcases mem_intercalate broken with between | ⟨part, listed, inside⟩
    · exact absurd between (by decide)
    · exact outer text found (Text.mem_splitAtChar listed _ inside).1
  · decide

theorem space_of_fullName {space : Option String} {name : String}
    (whole : Unbroken (qualifiedName space name)) :
    ∀ text, stated space = some text → Unbroken text := by
  intro text found broken
  apply whole
  simp only [qualifiedName, found, String.toList_append, List.mem_append]
  exact .inl (.inl broken)

theorem qualifiedStructName_oneLine {map : TypeMap} (wordy : map.sanitizer.Wordy)
    {space : Option String} (outer : ∀ text, stated space = some text → Unbroken text)
    (name : String) : Unbroken (map.qualifiedStructName space name) := by
  have struct : Unbroken (map.structName name) :=
    neutral_unbroken (word_neutral (TypeMap.structName_word wordy name))
  simp only [TypeMap.qualifiedStructName]
  split
  · exact struct
  · exact unbroken_append (unbroken_append (scopeOf_oneLine outer) (by decide)) struct

theorem spelling_oneLine {map : TypeMap} (wordy : map.sanitizer.Wordy) {type : TypeDecl}
    (oneLine : ∀ base, type.base = some base → base.OneLine) {placeholder spelling : String}
    (standIn : Unbroken placeholder)
    (spelled : (map.resolveBase type).spelling? placeholder = some spelling) :
    Unbroken spelling := by
  have placed (spelled : some placeholder = some spelling) : Unbroken spelling := by
    rwa [← Option.some_inj.mp spelled]
  simp only [TypeMap.resolveBase] at spelled
  split at spelled
  · exact placed spelled
  · next base found =>
    split at spelled
    · exact placed spelled
    · split at spelled
      · exact placed spelled
      · split at spelled
        · next provided listed =>
          rw [← Option.some_inj.mp spelled]
          exact neutral_unbroken (inheritable_neutral listed)
        · split at spelled
          · next declared known =>
            split at spelled
            · rw [← Option.some_inj.mp spelled]
              -- The declared type has the full name of the base, and so a namespace in one line.
              have full : Unbroken declared.fullName := by
                rw [fullName_of_declared? known]
                exact fullName_oneLine base (oneLine base found)
              exact qualifiedStructName_oneLine wordy (space_of_fullName full) declared.name
            · cases spelled
          · cases spelled

end Mapping

end ProxyHeaders
