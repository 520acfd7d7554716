import ProxyHeaders.Proofs.Proxy.Passages

/-!
Remarks that fit in a line. Every remark is put together from names, from reasons that give names and
from the messages of failures; if none of them has a line feed, no remark has one.
-/
namespace ProxyHeaders

open ProxyHeaders.Code ProxyHeaders.Mapping ProxyHeaders.Names ProxyHeaders.Template

/-- A declaration without a line feed in any name that a remark may give. -/
structure TypeDecl.OneLine (type : TypeDecl) : Prop where
  name : Unbroken type.name
  base : ∀ base, type.base = some base → base.OneLine
  fields : ∀ field ∈ type.fields, Unbroken field.name ∧ field.type.OneLine
  properties : ∀ property ∈ type.properties, Unbroken property.name ∧ property.type.OneLine
  methods : ∀ method ∈ type.methods, Unbroken method.name ∧ method.returnType.OneLine
  parameters : ∀ method ∈ type.methods, ∀ parameter ∈ method.parameters,
    (∀ name, parameter.name = some name → Unbroken name) ∧ parameter.type.OneLine

namespace Proxy

/-- A renderer whose failures are told in one line. -/
def FailsInLine (render : Renderer) : Prop :=
  ∀ style fragment failure, render style fragment = .error failure → Unbroken failure.message

/-! Plans -/

/-- A plan that rejects, if it does, with one line. -/
def Plan.OneLine : Plan → Prop
  | .reject message => Unbroken message
  | .skip | .write _ => True

section Plans

variable {scene : Scene} (claimed : Claimed)

theorem getterPlan_oneLine {field : Field} (name : Unbroken field.name)
    (type : field.type.OneLine) : (getterPlan scene claimed field).OneLine := by
  simp only [getterPlan]
  split
  · trivial
  · split
    · next refusal reason lossy refused =>
      exact removal_unbroken (by decide) name (TypeMap.mapMember_oneLine type refused)
    · trivial

theorem setterPlan_oneLine (field : Field) : (setterPlan scene claimed field).OneLine := by
  simp only [setterPlan]
  split
  · trivial
  · split <;> trivial

theorem propertyPlan_oneLine {property : Property} (name : Unbroken property.name)
    (type : property.type.OneLine) : (propertyPlan scene claimed property).OneLine := by
  simp only [propertyPlan]
  split
  · trivial
  · split
    · next refusal reason lossy refused =>
      exact removal_unbroken (by decide) name (TypeMap.mapMember_oneLine type refused)
    · trivial

theorem mapParameters_oneLine {method : Method} (name : Unbroken method.name) (position : Nat)
    {parameters : List Parameter}
    (oneLine : ∀ parameter ∈ parameters,
      (∀ name, parameter.name = some name → Unbroken name) ∧ parameter.type.OneLine)
    (message : String) (rejected : mapParameters scene method position parameters = .error message) :
    Unbroken message := by
  induction parameters generalizing position with
  | nil => cases rejected
  | cons parameter rest ih =>
    obtain ⟨⟨named, type⟩, others⟩ := List.forall_mem_cons.mp oneLine
    have label := parameterLabel_unbroken named position
    unfold mapParameters at rejected
    cases mapped : scene.map.mapMember (some scene.owner) parameter.type with
    | refused refusal reason lossy =>
      simp only [mapped, Except.error.injEq] at rejected
      rw [← rejected]
      exact unbroken_sentence (by decide) name label (TypeMap.mapMember_oneLine type mapped)
    | mapped shape lossy =>
      cases later : mapParameters scene method (position + 1) rest with
      | error text =>
        simp only [mapped, later, bind, Except.bind, Except.error.injEq] at rejected
        rw [rejected] at later
        exact ih (position + 1) others later
      | ok spellings => simp [mapped, later, bind, Except.bind, pure, Except.pure] at rejected

theorem methodPlan_oneLine {method : Method} (name : Unbroken method.name)
    (returned : method.returnType.OneLine)
    (parameters : ∀ parameter ∈ method.parameters,
      (∀ name, parameter.name = some name → Unbroken name) ∧ parameter.type.OneLine) :
    (methodPlan scene claimed method).OneLine := by
  simp only [methodPlan]
  split
  · trivial
  · split
    · next refusal reason lossy refused =>
      exact removal_unbroken (by decide) name (TypeMap.mapMember_oneLine returned refused)
    · split
      · next message rejected => exact mapParameters_oneLine name 0 parameters message rejected
      · trivial

end Plans

/-! Members -/

/-- A member whose remarks fit in a line, unless a failure that they give does not. -/
structure Member.OneLine (member : Member) : Prop where
  what : Unbroken member.what
  name : Unbroken member.name
  plan : ∀ claimed, (member.plan claimed).OneLine

section Members

variable {scene : Scene}

theorem members_oneLine (oneLine : scene.type.OneLine) :
    ∀ member ∈ members scene, member.OneLine := by
  have fieldOf {field : Field} (listed : field ∈ emittableFields scene.type) :=
    oneLine.fields field (List.mem_filter.mp (mem_of_sortByName listed)).1
  simp only [members, List.forall_mem_append, List.forall_mem_map]
  refine ⟨⟨⟨?_, ?_⟩, ?_⟩, ?_⟩
  · intro field listed
    obtain ⟨name, type⟩ := fieldOf listed
    exact ⟨(by decide : Unbroken "getter"), name, fun claimed =>
      getterPlan_oneLine claimed name type⟩
  · intro field listed
    exact ⟨(by decide : Unbroken "setter"), (fieldOf listed).1, fun claimed =>
      setterPlan_oneLine claimed field⟩
  · intro property listed
    obtain ⟨name, type⟩ :=
      oneLine.properties property (List.mem_filter.mp (mem_of_sortByName listed)).1
    exact ⟨(by decide : Unbroken "property accessors"), name, fun claimed =>
      propertyPlan_oneLine claimed name type⟩
  · intro method listed
    have own := (List.mem_filter.mp (mem_of_sortByName listed)).1
    obtain ⟨name, returned⟩ := oneLine.methods method own
    exact ⟨(by decide : Unbroken "method"), name, fun claimed =>
      methodPlan_oneLine claimed name returned (oneLine.parameters method own)⟩

theorem Note.Comes.oneLine (oneLine : scene.type.OneLine) (fails : FailsInLine scene.render)
    {message : String} (comes : (Note.remark message).Comes scene) : Unbroken message := by
  cases comes with
  | @rejected member claimed _ listed planned =>
    have plan := (members_oneLine oneLine member listed).plan claimed
    rwa [planned] at plan
  | @failed member fragment failure listed stopped =>
    obtain ⟨what, name, -⟩ := members_oneLine oneLine member listed
    exact unbroken_sentence (by decide) what name (fails _ _ _ stopped)

end Members

/-! Types -/

variable {job : Job} {type : TypeDecl}

theorem failureMessage_oneLine (oneLine : type.OneLine) {failure : RenderFailure}
    (told : Unbroken failure.message) : Unbroken (failureMessage type failure) := by
  have kind : Unbroken (kindWord type) := by
    unfold kindWord
    split <;> decide
  exact unbroken_sentence (by decide) kind oneLine.name told

theorem firstFailure_failsInLine {render : Renderer} (fails : FailsInLine render) {style : Style}
    {fragments : List Fragment} {failure : RenderFailure}
    (failed : firstFailure render style fragments = some failure) : Unbroken failure.message := by
  induction fragments with
  | nil => cases failed
  | cons fragment rest ih =>
    unfold firstFailure at failed
    cases own : render style fragment with
    | ok code =>
      simp only [own] at failed
      exact ih failed
    | error first =>
      simp only [own, Option.some.injEq] at failed
      rw [← failed]
      exact fails _ _ _ own

/-- Whatever is remarked about a type fits in a line, if its names and the failures do. -/
theorem messages_oneLine (wordy : job.map.sanitizer.Wordy) (oneLine : type.OneLine)
    (fails : FailsInLine (job.renderFor type)) :
    ∀ message ∈ messagesOf (passagesOf job type), Unbroken message := by
  have struct := TypeMap.structName_word wordy type.name
  have base : (job.map.resolveBase type).OneLine := resolveBase_oneLine oneLine.base
  have said := baseMessage_unbroken struct base
  have alone {failure : RenderFailure} (told : Unbroken failure.message) :
      ∀ message ∈ messagesOf [.failure (failureMessage type failure)], Unbroken message := by
    simpa [messagesOf, Passage.message?] using failureMessage_oneLine oneLine told
  unfold passagesOf
  split
  · unfold enumPassages
    split
    · simp [messagesOf, Passage.message?]
    · next failure failed => exact alone (fails _ _ _ failed)
  · unfold classPassages
    simp only
    split
    · rw [messagesOf, List.filterMap_cons]
      cases found : baseMessage (job.map.structName type.name) (job.map.resolveBase type) with
      | none => simpa [Passage.message?] using (by decide : Unbroken "")
      | some message => simpa [Passage.message?] using said message found
    · next inherited base =>
      split
      · next failure failed => exact alone (firstFailure_failsInLine fails failed)
      · rw [structPassages_messages, List.forall_mem_append]
        constructor
        · intro message listed
          exact said message (Option.mem_toList.mp listed)
        · intro message told
          obtain ⟨note, listed, isRemark⟩ := List.mem_filterMap.mp told
          have comes := structNotes_comes job type inherited note listed
          cases note with
          | function fragment code => cases isRemark
          | remark text =>
            cases isRemark
            exact comes.oneLine oneLine fails

end Proxy

end ProxyHeaders
