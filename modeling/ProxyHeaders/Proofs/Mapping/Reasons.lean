import ProxyHeaders.Mapping.Base

/-!
Why references are refused. A reason names a reference inside the one that it refuses, so the message
about it fits in a line if the names do; and so does what is said about a base.
-/
namespace ProxyHeaders

open ProxyHeaders.Mapping

/-! Texts in one line -/

/-- A text without line feeds. They alone end lines for the layout of a header and for its check; to a
compiler a carriage return ends one too. -/
def Unbroken (text : String) : Prop := '\n' ∉ text.toList

instance (text : String) : Decidable (Unbroken text) :=
  inferInstanceAs (Decidable ('\n' ∉ text.toList))

theorem of_stated {text : Option String} {value : String} (found : stated text = some value) :
    text = some value := (Option.filter_eq_some_iff.mp found).1

theorem unbroken_append {first second : String} (start : Unbroken first)
    (finish : Unbroken second) : Unbroken (first ++ second) := by
  simp only [Unbroken, String.toList_append, List.mem_append, not_or]
  exact ⟨start, finish⟩

theorem unbroken_sentence {opening subject link detail colon told : String}
    (words : Unbroken opening ∧ Unbroken link ∧ Unbroken colon) (first : Unbroken subject)
    (second : Unbroken detail) (third : Unbroken told) :
    Unbroken (opening ++ subject ++ link ++ detail ++ colon ++ told) := by
  obtain ⟨starts, links, ends⟩ := words
  have named : Unbroken (opening ++ subject ++ link) :=
    unbroken_append (unbroken_append starts first) links
  have detailed : Unbroken (opening ++ subject ++ link ++ detail ++ colon) :=
    unbroken_append (unbroken_append named second) ends
  exact unbroken_append detailed third

theorem cleanName_unbroken {name : String} (unbroken : Unbroken name) :
    Unbroken (cleanName name) := by
  simp only [cleanName, Text.cutAt]
  split
  · exact unbroken
  · intro member
    rw [String.toList_ofList] at member
    exact unbroken (List.takeWhile_subset _ member)

theorem mem_intercalate {separator : String} {texts : List String} {c : Char}
    (member : c ∈ (separator.intercalate texts).toList) :
    c ∈ separator.toList ∨ ∃ text ∈ texts, c ∈ text.toList := by
  induction texts with
  | nil => simp at member
  | cons text rest inner =>
    by_cases last : rest = []
    · exact .inr ⟨text, List.mem_cons_self, by simpa [last] using member⟩
    · rw [String.intercalate_cons_of_ne_nil last, String.toList_append, String.toList_append,
        List.mem_append, List.mem_append] at member
      rcases member with (first | between) | later
      · exact .inr ⟨text, List.mem_cons_self, first⟩
      · exact .inl between
      · rcases inner later with between | ⟨other, listed, inside⟩
        · exact .inl between
        · exact .inr ⟨other, List.mem_cons_of_mem text listed, inside⟩

/-! References in one line -/

/-- A reference inside another: itself, or one inside its element or an argument. -/
inductive TypeRef.Inside : TypeRef → TypeRef → Prop where
  | itself (ref : TypeRef) : Inside ref ref
  | element {inner element ref : TypeRef} (found : ref.element = some element)
    (deeper : Inside inner element) : Inside inner ref
  | argument {inner argument ref : TypeRef} (found : argument ∈ ref.arguments)
    (deeper : Inside inner argument) : Inside inner ref

theorem TypeRef.Inside.alone {inner ref : TypeRef} (inside : TypeRef.Inside inner ref)
    (noElement : ref.element = none) (noArgument : ref.arguments = []) : inner = ref := by
  cases inside with
  | itself => rfl
  | element found => simp [noElement] at found
  | argument found => simp [noArgument] at found

theorem TypeRef.Inside.trans {first second third : TypeRef} (one : TypeRef.Inside first second)
    (two : TypeRef.Inside second third) : TypeRef.Inside first third := by
  induction two with
  | itself => exact one
  | element found _ ih => exact .element found ih
  | argument found _ ih => exact .argument found ih

/-- Nothing in a reference has a line break, neither names nor namespaces. -/
def TypeRef.OneLine (ref : TypeRef) : Prop :=
  ∀ inner, TypeRef.Inside inner ref →
    Unbroken inner.name ∧ ∀ text, stated inner.space = some text → Unbroken text

theorem TypeRef.OneLine.inside {inner ref : TypeRef} (oneLine : ref.OneLine)
    (inside : TypeRef.Inside inner ref) : inner.OneLine :=
  fun other deeper => oneLine other (deeper.trans inside)

theorem qualifiedName_oneLine {space : Option String} {name : String}
    (outer : ∀ text, stated space = some text → Unbroken text) (own : Unbroken name) :
    Unbroken (qualifiedName space name) := by
  unfold qualifiedName
  cases found : stated space with
  | none => exact own
  | some text => exact unbroken_append (unbroken_append (outer text found) (by decide)) own

theorem fullName_oneLine : ∀ ref : TypeRef, ref.OneLine → Unbroken ref.fullName
  | ⟨name, space, category, some element, isArray, isByref, arguments⟩, oneLine => by
    have inner := fullName_oneLine element (oneLine.inside (.element rfl (.itself element)))
    obtain ⟨own, outer⟩ := oneLine _ (.itself _)
    unfold TypeRef.fullName
    split
    · exact unbroken_append inner (by decide)
    · split
      · exact unbroken_append inner (by decide)
      · exact qualifiedName_oneLine outer own
  | ⟨_, _, _, none, _, _, _⟩, oneLine => by
    obtain ⟨own, outer⟩ := oneLine _ (.itself _)
    exact qualifiedName_oneLine outer own

namespace Mapping

/-- A reason names one of the references inside the one that is refused. -/
inductive Reason.Names (ref : TypeRef) : Reason → Prop where
  | external {inner : TypeRef} (inside : TypeRef.Inside inner ref) :
    Names ref (.external inner.fullName)
  | selfReference {inner : TypeRef} (inside : TypeRef.Inside inner ref) :
    Names ref (.selfReference inner.cleanName)
  | crossReference {inner : TypeRef} (inside : TypeRef.Inside inner ref) :
    Names ref (.crossReference inner.fullName)
  | arrayOfNothing {inner : TypeRef} (inside : TypeRef.Inside inner ref) :
    Names ref (.arrayOfNothing inner.name)
  | undefinedEnum {inner : TypeRef} (inside : TypeRef.Inside inner ref) :
    Names ref (.undefinedEnum inner.cleanName)
  | unsupported {inner : TypeRef} (inside : TypeRef.Inside inner ref) :
    Names ref (.unsupported (if inner.cleanName.isEmpty then inner.name else inner.cleanName))
  | reserved {inner : TypeRef} (inside : TypeRef.Inside inner ref) :
    Names ref (.reserved inner.cleanName)

theorem Reason.Names.outer {inner ref : TypeRef} {reason : Reason} (names : reason.Names inner)
    (inside : TypeRef.Inside inner ref) : reason.Names ref := by
  cases names with
  | external deeper => exact .external (deeper.trans inside)
  | selfReference deeper => exact .selfReference (deeper.trans inside)
  | crossReference deeper => exact .crossReference (deeper.trans inside)
  | arrayOfNothing deeper => exact .arrayOfNothing (deeper.trans inside)
  | undefinedEnum deeper => exact .undefinedEnum (deeper.trans inside)
  | unsupported deeper => exact .unsupported (deeper.trans inside)
  | reserved deeper => exact .reserved (deeper.trans inside)

theorem Reason.Names.oneLine {ref : TypeRef} {reason : Reason} (names : reason.Names ref)
    (oneLine : ref.OneLine) : Unbroken reason.message := by
  have own {inner : TypeRef} (inside : TypeRef.Inside inner ref) : Unbroken inner.name :=
    (oneLine inner inside).1
  have clean {inner : TypeRef} (inside : TypeRef.Inside inner ref) : Unbroken inner.cleanName :=
    cleanName_unbroken (own inside)
  have full {inner : TypeRef} (inside : TypeRef.Inside inner ref) : Unbroken inner.fullName :=
    fullName_oneLine inner (oneLine.inside inside)
  cases names with
  | external inside => exact unbroken_append (by decide) (full inside)
  | selfReference inside => exact unbroken_append (by decide) (clean inside)
  | crossReference inside => exact unbroken_append (by decide) (full inside)
  | arrayOfNothing inside => exact unbroken_append (by decide) (own inside)
  | undefinedEnum inside => exact unbroken_append (by decide) (clean inside)
  | unsupported inside =>
    refine unbroken_append (by decide) ?_
    split
    · exact own inside
    · exact clean inside
  | reserved inside => exact unbroken_append (by decide) (clean inside)

/-- If an outcome is a refusal, its reason names a reference inside the given one. -/
def Outcome.Names (ref : TypeRef) : Outcome → Prop
  | .mapped _ _ => True
  | .refused _ reason _ => reason.Names ref

namespace TypeMap

variable {map : TypeMap}

theorem mapEnum_names (ref : TypeRef) : (map.mapEnum ref).Names ref := by
  unfold mapEnum
  split
  · trivial
  · split
    · exact Reason.Names.undefinedEnum (.itself ref)
    · trivial

theorem mapGeneric_names (ref : TypeRef) (ofArgument : Option Outcome) :
    (mapGeneric ref ofArgument).Names ref := by
  unfold mapGeneric
  split
  · split
    · trivial
    · trivial
  · trivial

theorem classify_names (owner : Option String) {ref : TypeRef}
    {ofElement ofArgument : Option Outcome}
    (element : ∀ outcome, ofElement = some outcome → outcome.Names ref)
    (argument : ∀ outcome, ofArgument = some outcome → outcome.Names ref) :
    (map.classify owner ref ofElement ofArgument).Names ref := by
  have inside := TypeRef.Inside.itself ref
  -- One case for each kind of type, in the order in which they are tried.
  simp only [classify]
  split
  · next outcome found =>
    have names := element outcome (by grind)
    cases outcome with
    | mapped type lossy => trivial
    | refused refusal reason lossy => exact names
  split
  · exact Reason.Names.external inside
  split
  · next outcome found => exact argument outcome (by grind)
  split
  · exact Reason.Names.selfReference inside
  split
  · exact Reason.Names.crossReference inside
  split
  · split
    · exact Reason.Names.arrayOfNothing inside
    · trivial
    · next refused found => exact element _ rfl
  split
  · exact mapGeneric_names ref ofArgument
  split
  · exact mapEnum_names ref
  split
  · trivial
  · exact Reason.Names.unsupported inside

theorem mapType_names (owner : Option String) : ∀ ref : TypeRef, (map.mapType owner ref).Names ref
  | ⟨name, space, category, element, isArray, isByref, arguments⟩ => by
    have outer {inner ref : TypeRef} {outcome : Outcome} (names : outcome.Names inner)
        (inside : TypeRef.Inside inner ref) : outcome.Names ref := by
      cases outcome with
      | mapped type lossy => trivial
      | refused refusal reason lossy => exact Reason.Names.outer names inside
    unfold mapType
    refine classify_names owner ?_ ?_
    · intro outcome found
      cases element with
      | none => cases found
      | some element =>
        rw [← Option.some_inj.mp found]
        exact outer (mapType_names owner element) (.element rfl (.itself element))
    · intro outcome found
      cases arguments with
      | nil => cases found
      | cons argument rest =>
        rw [← Option.some_inj.mp found]
        exact outer (mapType_names owner argument)
          (.argument List.mem_cons_self (.itself argument))

theorem unwrapNullable_inside (ref : TypeRef) : TypeRef.Inside ref.unwrapNullable ref := by
  unfold TypeRef.unwrapNullable
  split
  · cases found : ref.arguments with
    | nil => exact .itself ref
    | cons argument rest => exact .argument (by simp [found]) (.itself argument)
  · exact .itself ref

theorem shownRef_inside (ref : TypeRef) : TypeRef.Inside (shownRef ref) ref := by
  refine (unwrapNullable_inside _).trans ?_
  split
  · cases found : ref.element with
    | none => exact .itself ref
    | some element => exact .element found (.itself element)
  · exact .itself ref

theorem mapMember_names (owner : Option String) (ref : TypeRef) :
    (map.mapMember owner ref).Names ref := by
  simp only [mapMember]
  split
  · exact Reason.Names.reserved (shownRef_inside ref)
  · exact mapType_names owner ref

theorem mapMember_oneLine {owner : Option String} {ref : TypeRef} {refusal : Refusal}
    {reason : Reason} {lossy : Bool} (oneLine : ref.OneLine)
    (refused : map.mapMember owner ref = .refused refusal reason lossy) :
    Unbroken reason.message := by
  have names : (map.mapMember owner ref).Names ref := mapMember_names owner ref
  rw [refused] at names
  exact Reason.Names.oneLine names oneLine

end TypeMap

/-- A base whose name has no line break where a message gives it. -/
def BaseClass.OneLine : BaseClass → Prop
  | .generated _ source _ => Unbroken source
  | .missing source => Unbroken source
  | .placeholder _ | .provided _ _ | .itself _ => True

theorem resolveBase_oneLine {map : TypeMap} {type : TypeDecl}
    (oneLine : ∀ base, type.base = some base → base.OneLine) :
    (map.resolveBase type).OneLine := by
  simp only [TypeMap.resolveBase]
  split
  · trivial
  · next base found =>
    have full := fullName_oneLine base (oneLine base found)
    have clean : Unbroken base.cleanName :=
      cleanName_unbroken (oneLine base found base (.itself base)).1
    split
    · trivial
    · split
      · trivial
      · split
        · trivial
        · split
          · split
            · exact clean
            · exact full
          · exact full

end Mapping

end ProxyHeaders
