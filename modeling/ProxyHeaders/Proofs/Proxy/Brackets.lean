import ProxyHeaders.Proofs.Code.Buffer
import ProxyHeaders.Proofs.Mapping.Spelling
import ProxyHeaders.Proofs.Template.Brackets
import ProxyHeaders.Proxy.Definition

/-!
The brackets of a struct or an enum. Whatever a type's members are called and whatever becomes of
them, what is written of the type closes everything that it opens.
-/
namespace ProxyHeaders

open ProxyHeaders.Check ProxyHeaders.Code ProxyHeaders.Mapping ProxyHeaders.Names
  ProxyHeaders.Template

/-- A declaration whose comments stay in their lines: no member's name has a line break, and every
reference in it is plain. -/
structure TypeDecl.Plain (type : TypeDecl) : Prop where
  space : Dotted type.space
  base : ∀ base, type.base = some base → base.Plain
  fields : ∀ field ∈ type.fields, Unbroken field.name ∧ field.type.Plain
  properties : ∀ property ∈ type.properties, Unbroken property.name ∧ property.type.Plain
  methods : ∀ method ∈ type.methods, Unbroken method.name ∧ method.returnType.Plain
  parameters : ∀ method ∈ type.methods, ∀ parameter ∈ method.parameters,
    (∀ name, parameter.name = some name → Unbroken name) ∧ parameter.type.Plain

namespace Proxy

/-- A scene whose pieces are rendered from the shelf, with plain names to put into them. -/
structure Scene.Sound (scene : Scene) : Prop where
  render : scene.render = renderer
  macroName : Neutral scene.style.macroName
  indent : ∀ c ∈ scene.style.indent.toList, c = ' '
  struct : IsWord scene.structName
  wordy : scene.map.sanitizer.Wordy
  plain : scene.type.Plain

theorem spaces_neutral {text : String} (spaces : ∀ c ∈ text.toList, c = ' ') :
    Neutral text := by
  intro c member
  rw [spaces c member]
  decide

variable {scene : Scene} {opened : List Char}

/-- A draft whose lines leave the brackets `opened` open. -/
def Draft.Sound (opened : List Char) (draft : Draft) : Prop := Code.Sound [] opened draft.buffer

/-- A plan whose comment stays in its line, or whose pieces are sound. -/
def Plan.Sound (style : Style) : Plan → Prop
  | .skip => True
  | .reject message => Unbroken message
  | .write pieces => ∀ piece ∈ pieces, piece.fragment.Sound style

namespace Draft

theorem reject_sound {draft : Draft} (sound : draft.Sound opened) {message : String}
    (unbroken : Unbroken message) : (draft.reject scene message).Sound opened :=
  (sound.comment unbroken).blank

theorem claim_sound {draft : Draft} (sound : draft.Sound opened) (name : Option String) :
    (draft.claim name).Sound opened := by
  cases name <;> exact sound

theorem write_sound (valid : scene.Sound) {draft : Draft} (sound : draft.Sound opened)
    {pieces : List Piece} (pieceSound : ∀ piece ∈ pieces, piece.fragment.Sound scene.style) :
    ∃ after, draft.write scene pieces = (after, none) ∧ after.Sound opened := by
  induction pieces generalizing draft with
  | nil => exact ⟨draft, rfl, sound⟩
  | cons piece rest inner =>
    have first := pieceSound piece (by simp)
    have later := fun other member => pieceSound other (List.mem_cons_of_mem piece member)
    have claimed := claim_sound sound piece.claims
    have appended : ((draft.claim piece.claims).append
        (written (piece.fragment.lines scene.style))).Sound opened :=
      (claimed.block (Fragment.spans_written first opened)).blank
    obtain ⟨after, written, afterSound⟩ := inner appended later
    refine ⟨after, ?_, afterSound⟩
    simp only [write, valid.render, rendered]
    exact written

theorem perform_sound (valid : scene.Sound) {draft : Draft} (sound : draft.Sound opened)
    (what name : String) {plan : Plan} (planSound : plan.Sound scene.style) :
    (draft.perform scene what name plan).1.Sound opened := by
  cases plan with
  | skip => exact sound
  | reject message => exact reject_sound sound planSound
  | write pieces =>
    obtain ⟨after, written, afterSound⟩ := write_sound valid sound planSound
    simp only [perform, written]
    exact afterSound

end Draft

/-! Plans -/

theorem removal_unbroken {kind name : String} {reason : Reason} (kindUnbroken : Unbroken kind)
    (nameUnbroken : Unbroken name) (reasonUnbroken : Unbroken reason.message) :
    Unbroken (removal kind name reason) := by
  unfold removal
  exact unbroken_sentence (by decide) kindUnbroken nameUnbroken reasonUnbroken

theorem handleName_word {map : TypeMap} (wordy : map.sanitizer.Wordy) (member spelling : String) :
    IsWord (handleName map member spelling) := by
  refine firstFree_word ?_
  intro count
  refine (Sanitizer.identifier_word wordy member).append ?_
  intro c inside
  rw [String.toList_ofList] at inside
  rw [List.eq_of_mem_replicate inside]
  decide

theorem localName_word {sanitizer : Sanitizer} (wordy : sanitizer.Wordy) (name : String) :
    IsWord (localName sanitizer name) := by
  intro c inside
  rw [localName, String.toList_ofList] at inside
  exact Sanitizer.identifier_word wordy name c ((List.dropWhile_sublist _).subset inside)

theorem mem_of_sortByName {α : Type} {name : α → String} {items : List α} {item : α}
    (member : item ∈ sortByName name items) : item ∈ items := List.mem_mergeSort.mp member

namespace Scene.Sound

theorem macroBalanced (valid : scene.Sound) : Balanced scene.style.macroName :=
  valid.macroName.balanced

theorem indentBalanced (valid : scene.Sound) : Balanced scene.style.indent :=
  (spaces_neutral valid.indent).balanced

end Scene.Sound

theorem word_balanced {text : String} (word : IsWord text) : Balanced text :=
  (word_neutral word).balanced

theorem getterPlan_sound (valid : scene.Sound) (claimed : Claimed) {field : Field}
    (member : field ∈ scene.type.fields) :
    (getterPlan scene claimed field).Sound scene.style := by
  obtain ⟨name, type⟩ := valid.plain.fields field member
  have outcome := TypeMap.mapMember_sound valid.wordy (some scene.owner) type
  simp only [getterPlan]
  split
  · trivial
  · split
    · next refusal reason lossy mapped =>
      rw [mapped] at outcome
      exact removal_unbroken (by decide) name outcome
    · next type lossy mapped =>
      rw [mapped] at outcome
      simp only [Plan.Sound, List.forall_mem_singleton]
      exact Fragment.getter_sound valid.macroBalanced valid.indentBalanced
        (Neutral.balanced outcome)
        (word_balanced (Sanitizer.accessorName_word valid.wordy (by decide) field.name))
        (word_balanced (handleName_word valid.wordy _ _)) field.name field.isStatic

theorem setterPlan_sound (valid : scene.Sound) (claimed : Claimed) {field : Field}
    (member : field ∈ scene.type.fields) :
    (setterPlan scene claimed field).Sound scene.style := by
  obtain ⟨-, type⟩ := valid.plain.fields field member
  have outcome := TypeMap.mapMember_sound valid.wordy (some scene.owner) type
  simp only [setterPlan]
  split
  · trivial
  · split
    · trivial
    · next type lossy mapped =>
      rw [mapped] at outcome
      simp only [Plan.Sound, List.forall_mem_singleton]
      exact Fragment.setter_sound valid.macroBalanced valid.indentBalanced
        (Neutral.balanced outcome)
        (word_balanced (Sanitizer.accessorName_word valid.wordy (by decide) field.name))
        (word_balanced (handleName_word valid.wordy _ _)) field.name field.isStatic

theorem propertyPlan_sound (valid : scene.Sound) (claimed : Claimed) {property : Property}
    (member : property ∈ scene.type.properties) :
    (propertyPlan scene claimed property).Sound scene.style := by
  obtain ⟨name, type⟩ := valid.plain.properties property member
  have outcome := TypeMap.mapMember_sound valid.wordy (some scene.owner) type
  have shown := localName_word valid.wordy property.name
  simp only [propertyPlan]
  split
  · trivial
  · split
    · next refusal reason lossy mapped =>
      rw [mapped] at outcome
      exact removal_unbroken (by decide) name outcome
    · next type lossy mapped =>
      rw [mapped] at outcome
      have spelling : Neutral type.render := outcome
      have getter (managed : String) : (Fragment.method type.render
          ("get_" ++ localName scene.map.sanitizer property.name) managed [] []
          property.isStatic).Sound scene.style :=
        Fragment.method_sound valid.macroBalanced valid.indentBalanced spelling.balanced
          (word_balanced (IsWord.append (by decide) shown)) (by simpa using Neutral.empty.balanced)
          (by simpa using Neutral.empty.balanced) managed property.isStatic
      have setter (managed : String) : (Fragment.method "void"
          ("set_" ++ localName scene.map.sanitizer property.name) managed
          [type.render ++ " value"] ["value"] property.isStatic).Sound scene.style :=
        Fragment.method_sound valid.macroBalanced valid.indentBalanced
          (Neutral.balanced (by decide)) (word_balanced (IsWord.append (by decide) shown))
          (by simpa using (spelling.append (by decide)).balanced)
          (Neutral.balanced (by decide)) managed property.isStatic
      simp only [Plan.Sound, List.forall_mem_append]
      refine ⟨?_, ?_⟩
      · split
        · simpa using getter _
        · simp
      · split
        · simpa using setter _
        · simp

theorem parameterLabel_unbroken {parameter : Parameter}
    (named : ∀ name, parameter.name = some name → Unbroken name) (position : Nat) :
    Unbroken (parameterLabel parameter position) := by
  unfold parameterLabel
  split
  · next name found => exact named name (of_stated found)
  · exact unbroken_append (by decide) (neutral_unbroken (word_neutral (.number position)))

theorem mapParameters_sound (valid : scene.Sound) {method : Method}
    (name : Unbroken method.name) (position : Nat) {parameters : List Parameter}
    (plain : ∀ parameter ∈ parameters,
      (∀ name, parameter.name = some name → Unbroken name) ∧ parameter.type.Plain) :
    match mapParameters scene method position parameters with
    | .error message => Unbroken message
    | .ok spellings => ∀ spelling ∈ spellings, Neutral spelling := by
  induction parameters generalizing position with
  | nil => simp [mapParameters]
  | cons parameter rest inner =>
    obtain ⟨nameUnbroken, type⟩ := plain parameter (by simp)
    have later := inner (position + 1) fun other member => plain other (by simp [member])
    have outcome := TypeMap.mapMember_sound valid.wordy (some scene.owner) type
    have label := parameterLabel_unbroken nameUnbroken position
    unfold mapParameters
    cases mapped : scene.map.mapMember (some scene.owner) parameter.type with
    | refused refusal reason lossy =>
      rw [mapped] at outcome
      exact unbroken_sentence (by decide) name label outcome
    | mapped type lossy =>
      rw [mapped] at outcome
      cases found : mapParameters scene method (position + 1) rest with
      | error message => simpa [found, bind, Except.bind] using later
      | ok spellings =>
        rw [found] at later
        simp only [bind, Except.bind, pure, Except.pure, List.forall_mem_cons]
        exact ⟨outcome, later⟩

theorem methodPlan_sound (valid : scene.Sound) (claimed : Claimed) {method : Method}
    (member : method ∈ scene.type.methods) :
    (methodPlan scene claimed method).Sound scene.style := by
  obtain ⟨name, returned⟩ := valid.plain.methods method member
  have outcome := TypeMap.mapMember_sound valid.wordy (some scene.owner) returned
  have parameters := mapParameters_sound valid name 0 (valid.plain.parameters method member)
  simp only [methodPlan]
  split
  · trivial
  · split
    · next refusal reason lossy mapped =>
      rw [mapped] at outcome
      exact removal_unbroken (by decide) name outcome
    · next returned lossy mapped =>
      rw [mapped] at outcome
      split
      · next message found =>
        rw [found] at parameters
        exact parameters
      · next spellings found =>
        rw [found] at parameters
        have names := Sanitizer.parameterNames_word valid.wordy (method.parameters.map (·.name))
          (bodyLocals ++ typeIdentifiers (returned.render :: spellings))
        simp only [Plan.Sound, List.forall_mem_singleton]
        refine Fragment.method_sound valid.macroBalanced valid.indentBalanced
          (Neutral.balanced outcome)
          (word_balanced (Sanitizer.identifier_word valid.wordy method.name))
          (intercalate_neutral (by decide) ?_).balanced
          (intercalate_neutral (by decide) ?_).balanced method.name method.isStatic
        · intro stated listed
          obtain ⟨⟨type, name⟩, paired, rfl⟩ := List.mem_map.mp listed
          obtain ⟨typeListed, nameListed⟩ := List.of_mem_zip paired
          exact ((parameters type typeListed).append (by decide)).append
            (word_neutral (names name nameListed))
        · intro name listed
          exact word_neutral (names name listed)

end Proxy

end ProxyHeaders
