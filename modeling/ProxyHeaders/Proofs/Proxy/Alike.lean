import ProxyHeaders.Proofs.Mapping.Alike
import ProxyHeaders.Proofs.Proxy.Order
import ProxyHeaders.Proofs.Proxy.Transcript
import ProxyHeaders.Proxy.Definition

/-!
Types that contribute the same. What a type contributes is sorted by name, so the order of its
members shows only among those of one name; and maps that give the same answers do so here too.
-/
namespace ProxyHeaders

open ProxyHeaders.Proxy

def TypeDecl.bare (type : TypeDecl) : TypeDecl :=
  { type with fields := [], properties := [], methods := [] }

/-- The same type with its members in another order; those of one name keep theirs. -/
structure TypeDecl.Rearranged (first second : TypeDecl) : Prop where
  bare : first.bare = second.bare
  fields : SameByName (·.name) first.fields second.fields
  properties : SameByName (·.name) first.properties second.properties
  methods : SameByName (·.name) first.methods second.methods

namespace TypeDecl.Rearranged

theorem refl (type : TypeDecl) : type.Rearranged type :=
  ⟨rfl, .refl _, .refl _, .refl _⟩

variable {first second : TypeDecl} (same : first.Rearranged second)

include same

theorem name : first.name = second.name := (congrArg TypeDecl.name same.bare :)

theorem space : first.space = second.space := (congrArg TypeDecl.space same.bare :)

theorem category : first.category = second.category := (congrArg TypeDecl.category same.bare :)

theorem base : first.base = second.base := (congrArg TypeDecl.base same.bare :)

theorem enumUnderlying : first.enumUnderlying = second.enumUnderlying :=
  (congrArg TypeDecl.enumUnderlying same.bare :)

theorem enumMembers : first.enumMembers = second.enumMembers :=
  (congrArg TypeDecl.enumMembers same.bare :)

theorem fullName : first.fullName = second.fullName := (congrArg TypeDecl.fullName same.bare :)

theorem isEnum : first.isEnum = second.isEnum := (congrArg TypeDecl.isEnum same.bare :)

end TypeDecl.Rearranged

namespace Proxy

open ProxyHeaders.Code ProxyHeaders.Mapping ProxyHeaders.Names ProxyHeaders.Template

section

variable {first second : TypeDecl} (same : first.Rearranged second)

include same

theorem failureMessage_rearranged : failureMessage first = failureMessage second := by
  funext failure
  unfold failureMessage kindWord
  rw [same.isEnum, same.name]

theorem appendTo_rearranged (definition : Definition) (buffer : Buffer) :
    definition.appendTo first buffer = definition.appendTo second buffer := by
  simp only [Definition.appendTo, failureMessage_rearranged same]

theorem messages_rearranged (definition : Definition) :
    definition.messages first = definition.messages second := by
  simp only [Definition.messages, failureMessage_rearranged same, same.fullName]

end

/-- Two scenes of one type in which the same is answered and rendered. -/
structure Scene.Alike (first second : Scene) : Prop where
  type : first.type.Rearranged second.type
  structName : first.structName = second.structName
  map : first.map.Alike second.map
  render : first.render = second.render
  style : first.style = second.style

namespace Scene.Alike

variable {first second : Scene} (alike : first.Alike second)

include alike

theorem owner : first.owner = second.owner := alike.type.fullName

/-! The plans for members -/

theorem handleName (member spelling : String) :
    Proxy.handleName first.map member spelling = Proxy.handleName second.map member spelling := by
  simp only [Proxy.handleName, alike.map.reservedNames, alike.map.sanitizer.identifier]

theorem accessorName (start name : String) :
    first.map.sanitizer.accessorName start name = second.map.sanitizer.accessorName start name :=
  alike.map.sanitizer.accessorName start name

theorem localName (name : String) :
    Proxy.localName first.map.sanitizer name = Proxy.localName second.map.sanitizer name := by
  simp only [Proxy.localName, alike.map.sanitizer.identifier, alike.map.sanitizer.escape]

theorem parameterNames (names : List (Option String)) (taken : List String) :
    first.map.sanitizer.parameterNames names taken =
      second.map.sanitizer.parameterNames names taken :=
  alike.map.sanitizer.parameterNames names taken

theorem mapParameters (method : Method) (position : Nat) (parameters : List Parameter) :
    Proxy.mapParameters first method position parameters =
      Proxy.mapParameters second method position parameters := by
  induction parameters generalizing position with
  | nil => rfl
  | cons parameter rest ih =>
    simp only [Proxy.mapParameters, alike.owner, alike.map.mapMember, ih]

theorem getterPlan (claimed : Claimed) (field : Field) :
    Proxy.getterPlan first claimed field = Proxy.getterPlan second claimed field := by
  simp only [Proxy.getterPlan, alike.accessorName, alike.owner, alike.map.mapMember,
    alike.handleName]

theorem setterPlan (claimed : Claimed) (field : Field) :
    Proxy.setterPlan first claimed field = Proxy.setterPlan second claimed field := by
  simp only [Proxy.setterPlan, alike.accessorName, alike.owner, alike.map.mapMember,
    alike.handleName]

theorem propertyPlan (claimed : Claimed) (property : Property) :
    Proxy.propertyPlan first claimed property = Proxy.propertyPlan second claimed property := by
  simp only [Proxy.propertyPlan, alike.localName, alike.owner, alike.map.mapMember]

theorem methodPlan (claimed : Claimed) (method : Method) :
    Proxy.methodPlan first claimed method = Proxy.methodPlan second claimed method := by
  simp only [Proxy.methodPlan, alike.map.sanitizer.identifier, alike.owner, alike.map.mapMember,
    alike.mapParameters, alike.parameterNames]

theorem bootstrapPieces (image : String) :
    Proxy.bootstrapPieces first image = Proxy.bootstrapPieces second image := by
  simp only [Proxy.bootstrapPieces, alike.type.space, alike.type.name]

theorem singletonPieces (claimed : Claimed) :
    Proxy.singletonPieces first claimed = Proxy.singletonPieces second claimed := by
  -- Members are only asked whether some of them is the instance, which no order changes.
  simp only [Proxy.singletonPieces, alike.structName, alike.type.properties.any_eq,
    alike.type.fields.any_eq]

/-! Which members there are, in which order -/

theorem emittableFields :
    Proxy.emittableFields first.type = Proxy.emittableFields second.type :=
  sortByName_congr (alike.type.fields.filter _)

theorem emittableProperties :
    Proxy.emittableProperties first = Proxy.emittableProperties second := by
  simp only [Proxy.emittableProperties, alike.map.isReservedName, alike.map.sanitizer.identifier]
  exact sortByName_congr (alike.type.properties.filter _)

theorem emittableMethods : Proxy.emittableMethods first = Proxy.emittableMethods second := by
  simp only [Proxy.emittableMethods, alike.map.isReservedName]
  exact sortByName_congr (alike.type.methods.filter _)

theorem members : Proxy.members first = Proxy.members second := by
  simp only [Proxy.members, alike.emittableFields, alike.emittableProperties,
    alike.emittableMethods, alike.getterPlan, alike.setterPlan, alike.propertyPlan,
    alike.methodPlan]

/-! What becomes of a draft -/

theorem write (draft : Draft) (pieces : List Piece) :
    draft.write first pieces = draft.write second pieces := by
  induction pieces generalizing draft with
  | nil => rfl
  | cons piece rest ih => simp only [Draft.write, alike.render, alike.style, ih]

theorem performMember (draft : Draft) (member : Member) :
    draft.performMember first member = draft.performMember second member := by
  unfold Draft.performMember
  cases member.plan draft.claimed with
  | skip => rfl
  | reject message => simp only [Draft.perform, Draft.reject, alike.owner]
  | write pieces => simp only [Draft.perform, Draft.reject, alike.write, alike.owner]

theorem addNamed (draft : Draft) : draft.addNamed first = draft.addNamed second := by
  have step : Draft.performMember first = Draft.performMember second := by
    funext draft member
    exact alike.performMember draft member
  rw [Draft.addNamed_members, Draft.addNamed_members, alike.members, step]

theorem addMembers (image : String) (draft : Draft) :
    draft.addMembers first image = draft.addMembers second image := by
  simp only [Draft.addMembers, Draft.addBootstrap, Draft.addSingletons, alike.bootstrapPieces,
    alike.singletonPieces, alike.write, alike.addNamed]

end Scene.Alike

/-- Two jobs of the same settings whose maps give the same answers. -/
structure Job.Alike (first second : Job) : Prop where
  settings : first.settings = second.settings
  map : first.map.Alike second.map
  render : first.render = second.render

namespace Job.Alike

variable {first second : Job} (alike : first.Alike second)

include alike

theorem style : first.style = second.style := by
  simp only [Job.style, alike.settings]

theorem image : first.image = second.image := by
  simp only [Job.image, alike.settings]

section

variable {type other : TypeDecl} (same : type.Rearranged other)

include same

theorem structName : first.map.structName type.name = second.map.structName other.name := by
  rw [same.name]
  exact alike.map.structName other.name

theorem resolveBase : first.map.resolveBase type = second.map.resolveBase other := by
  rw [alike.map.resolveBase type]
  simp only [TypeMap.resolveBase, same.base, same.fullName]

theorem enumEntries : Proxy.enumEntries first.map.sanitizer type =
    Proxy.enumEntries second.map.sanitizer other := by
  simp only [Proxy.enumEntries, same.enumMembers, same.enumUnderlying,
    alike.map.sanitizer.identifier]

theorem enumWarnings : Proxy.enumWarnings first.map.sanitizer type =
    Proxy.enumWarnings second.map.sanitizer other := by
  simp only [Proxy.enumWarnings, Sanitizer.isReserved, same.enumMembers, same.fullName,
    alike.map.sanitizer.identifier, alike.map.sanitizer.keywords, alike.map.sanitizer.macros]

theorem define (render : first.renderFor type = second.renderFor other) :
    Proxy.define first type = Proxy.define second other := by
  unfold Proxy.define
  rw [same.isEnum]
  by_cases isEnum : other.isEnum
  · rw [if_pos isEnum, if_pos isEnum]
    simp only [defineEnum, writeEnum, enumFragment, alike.structName same,
      alike.enumEntries same, alike.enumWarnings same, same.enumUnderlying, render, alike.style,
      alike.settings]
  · rw [if_neg isEnum, if_neg isEnum]
    -- A job may render each type in its own way, so the renderers are compared for these two only.
    let scene (job : Job) (type : TypeDecl) : Scene :=
      { type, structName := job.map.structName type.name, map := job.map
        render := job.renderFor type, style := job.style }
    have scenes : (scene first type).Alike (scene second other) :=
      ⟨same, alike.structName same, alike.map, render, alike.style⟩
    have members := scenes.addMembers second.image
    simp only [scene] at members
    simp only [defineClass, alike.structName same, alike.resolveBase same, same.fullName,
      alike.settings, alike.image] at members ⊢
    cases (second.map.resolveBase other).spelling? second.settings.placeholderBase with
    | none => rfl
    | some inherited => simp only [members]

end

end Job.Alike

end Proxy

end ProxyHeaders
