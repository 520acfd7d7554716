import ProxyHeaders.Proofs.Proxy.Transcript
import ProxyHeaders.Proxy.Definition

/-!
What becomes of a type when its pieces fail to render. The failure of a member is a comment in the
struct. The accessors of the class and of its instance have no such guard, nor has an enum: if one of
them fails, nothing of the type is written. Otherwise the whole of it is.
-/
namespace ProxyHeaders.Proxy

open ProxyHeaders.Code ProxyHeaders.Mapping ProxyHeaders.Names ProxyHeaders.Template

/-- The failure of the first of some fragments that fails. -/
def firstFailure (render : Renderer) (style : Style) : List Fragment → Option RenderFailure
  | [] => none
  | fragment :: rest =>
    match render style fragment with
    | .ok _ => firstFailure render style rest
    | .error failure => some failure

theorem firstFailure_append (render : Renderer) (style : Style) (first second : List Fragment) :
    firstFailure render style (first ++ second) =
      (firstFailure render style first).or (firstFailure render style second) := by
  induction first with
  | nil => rfl
  | cons fragment rest ih =>
    rw [List.cons_append, firstFailure, firstFailure]
    cases render style fragment with
    | ok code => exact ih
    | error failure => rfl

theorem rendering_failure (scene : Scene) (pieces : List Piece) :
    (rendering scene pieces).2 =
      firstFailure scene.render scene.style (pieces.map (·.fragment)) := by
  induction pieces with
  | nil => rfl
  | cons piece rest ih =>
    rw [rendering, List.map_cons, firstFailure]
    cases scene.render scene.style piece.fragment with
    | ok code => exact ih
    | error failure => rfl

/-- The pieces at the head of a struct whose failure no member's guard catches. -/
def unguardedPieces (scene : Scene) (image : String) (claimed : Claimed) : List Piece :=
  bootstrapPieces scene image ++ singletonPieces scene claimed

namespace Draft

variable (scene : Scene)

theorem failure_of_write {pieces : List Piece} {draft after : Draft}
    {failure : Option RenderFailure} (written : draft.write scene pieces = (after, failure)) :
    firstFailure scene.render scene.style (pieces.map (·.fragment)) = failure := by
  obtain ⟨notes, rendered, -⟩ := notes_of_write scene written
  rw [← rendering_failure, rendered]

theorem addMembers_failure (image : String) (draft : Draft) :
    (draft.addMembers scene image).2 = firstFailure scene.render scene.style
      ((unguardedPieces scene image draft.claimed).map (·.fragment)) := by
  rw [unguardedPieces, List.map_append, firstFailure_append]
  rcases draft.addMembers_cases scene image with
      ⟨after, failure, bootstrap, ended⟩ | ⟨started, bootstrap, onward⟩
  · rw [ended, failure_of_write scene bootstrap]
    rfl
  · obtain ⟨-, -, -, claimed⟩ := notes_of_write scene bootstrap
    rw [claimedBy_bootstrap] at claimed
    rw [failure_of_write scene bootstrap, Option.none_or, ← claimed]
    rcases onward with ⟨after, failure, singletons, ended⟩ | ⟨reached, singletons, ended⟩
    · rw [ended, failure_of_write scene singletons]
    · rw [ended, failure_of_write scene singletons]

/-! Whatever fails, a draft's messages are warnings. -/

theorem write_diagnostics (pieces : List Piece) (draft : Draft) :
    (draft.write scene pieces).1.diagnostics = draft.diagnostics := by
  induction pieces generalizing draft with
  | nil => rfl
  | cons piece rest ih =>
    have claim : (draft.claim piece.claims).diagnostics = draft.diagnostics := by
      cases piece.claims with
      | none => rfl
      | some name => rfl
    simp only [write]
    cases scene.render scene.style piece.fragment with
    | ok code =>
      simp only [ih, append]
      exact claim
    | error failure => exact claim

theorem diagnostics_of_write {pieces : List Piece} {draft after : Draft}
    {failure : Option RenderFailure} (written : draft.write scene pieces = (after, failure)) :
    after.diagnostics = draft.diagnostics := by
  have unchanged := write_diagnostics scene pieces draft
  rwa [written] at unchanged

theorem performMember_errors (member : Member) (draft : Draft) :
    (draft.performMember scene member).diagnostics.errors = draft.diagnostics.errors := by
  unfold performMember
  cases member.plan draft.claimed with
  | skip => rfl
  | reject message => rfl
  | write pieces =>
    simp only [perform]
    generalize written : draft.write scene pieces = result
    obtain ⟨after, failure⟩ := result
    rw [← diagnostics_of_write scene written]
    cases failure with
    | none => rfl
    | some failure => rfl

theorem addNamed_errors (draft : Draft) :
    (draft.addNamed scene).diagnostics.errors = draft.diagnostics.errors := by
  rw [addNamed_members]
  induction members scene generalizing draft with
  | nil => rfl
  | cons member rest ih => exact (ih _).trans (performMember_errors scene member draft)

theorem addMembers_errors (image : String) (draft : Draft) :
    (draft.addMembers scene image).1.diagnostics.errors = draft.diagnostics.errors := by
  rcases draft.addMembers_cases scene image with
      ⟨after, failure, bootstrap, ended⟩ | ⟨started, bootstrap, onward⟩
  · rw [ended, diagnostics_of_write scene bootstrap]
  · rw [← diagnostics_of_write scene bootstrap]
    rcases onward with ⟨after, failure, singletons, ended⟩ | ⟨reached, singletons, ended⟩
    · rw [ended, diagnostics_of_write scene singletons]
    · rw [ended, addNamed_errors, diagnostics_of_write scene singletons]

end Draft

/-! Types -/

section Types

variable (job : Job) (type : TypeDecl)

def enumOf : Fragment :=
  enumFragment job.map.sanitizer type (job.map.structName type.name)

def sceneOf : Scene :=
  { type, structName := job.map.structName type.name, map := job.map
    render := job.renderFor type, style := job.style }

def draftOf (inherited : String) : Draft :=
  let structName := job.map.structName type.name
  let message := baseMessage structName (job.map.resolveBase type)
  { buffer := (openStruct { unit := job.settings.indent } structName inherited message).indent
    claimed := Claimed.forStruct structName
    diagnostics := { warnings := (message.map (type.fullName ++ ": " ++ ·)).toList } }

def unguarded : List Fragment :=
  if type.isEnum then [enumOf job type]
  else match (job.map.resolveBase type).spelling? job.settings.placeholderBase with
  | none => []
  | some inherited =>
    (unguardedPieces (sceneOf job type) job.image (draftOf job type inherited).claimed).map
      (·.fragment)

/-- A struct from its first line to its last, with all that is written of its members. -/
def wholeStruct (inherited : String) : String :=
  let draft := draftOf job type inherited
  let notes := bootstrapNotes (sceneOf job type) job.image ++
    laterNotes (sceneOf job type) job.image draft.claimed
  (closeStruct (notes.foldl Note.write draft.buffer).dedent).text

/-- The complete block of a type: an enum, a struct, or a comment on the base that it lacks. -/
inductive WholeBlock : String → Prop where
  | enumeration (enum : type.isEnum) {code : String}
    (rendered : job.renderFor type job.style (enumOf job type) = .ok code) :
    WholeBlock ((({ unit := job.settings.indent } : Buffer).block code).blank).text
  | baseless (noEnum : ¬ type.isEnum)
    (missing : (job.map.resolveBase type).spelling? job.settings.placeholderBase = none)
    {message : String}
    (said : message = (baseMessage (job.map.structName type.name)
      (job.map.resolveBase type)).getD "") :
    WholeBlock ((({ unit := job.settings.indent } : Buffer).comment message).blank).text
  | struct (noEnum : ¬ type.isEnum) {inherited : String}
    (spelled : (job.map.resolveBase type).spelling? job.settings.placeholderBase =
      some inherited) :
    WholeBlock (wholeStruct job type inherited)

theorem defineClass_struct {inherited : String}
    (spelled : (job.map.resolveBase type).spelling? job.settings.placeholderBase =
      some inherited) :
    defineClass job type =
      match (draftOf job type inherited).addMembers (sceneOf job type) job.image with
      | (draft, none) =>
        .written (closeStruct draft.buffer.dedent).text draft.diagnostics true
      | (_, some failure) => .failed failure := by
  simp only [defineClass, spelled]
  rfl

theorem defineClass_baseless
    (missing : (job.map.resolveBase type).spelling? job.settings.placeholderBase = none) :
    ∃ messages : Diagnostics, messages.errors = [] ∧
      defineClass job type = .written ((({ unit := job.settings.indent } : Buffer).comment
        ((baseMessage (job.map.structName type.name) (job.map.resolveBase type)).getD "")).blank).text
        messages false := by
  refine ⟨_, ?_, by simp only [defineClass, missing]; rfl⟩
  rfl

theorem define_outcome :
    match firstFailure (job.renderFor type) job.style (unguarded job type) with
    | some failure => define job type = .failed failure
    | none => ∃ code messages complete,
        define job type = .written code messages complete ∧ WholeBlock job type code := by
  unfold define unguarded
  by_cases enum : type.isEnum
  · rw [if_pos enum, if_pos enum]
    simp only [firstFailure, defineEnum, writeEnum]
    cases rendered : job.renderFor type job.style (enumOf job type) with
    | error failure =>
      rw [enumOf] at rendered
      simp only [rendered]
      rfl
    | ok code =>
      have block := WholeBlock.enumeration enum rendered
      rw [enumOf] at rendered
      simp only [rendered]
      exact ⟨_, _, true, rfl, block⟩
  · rw [if_neg enum, if_neg enum]
    cases base : (job.map.resolveBase type).spelling? job.settings.placeholderBase with
    | none =>
      obtain ⟨messages, -, written⟩ := defineClass_baseless job type base
      exact ⟨_, messages, false, written, .baseless enum base rfl⟩
    | some inherited =>
      have whole := WholeBlock.struct enum base
      have noted := (draftOf job type inherited).addMembers_notes (sceneOf job type) job.image
      have failed := (draftOf job type inherited).addMembers_failure (sceneOf job type) job.image
      rw [wholeStruct, ← noted] at whole
      have render : (sceneOf job type).render = job.renderFor type := rfl
      have style : (sceneOf job type).style = job.style := rfl
      simp only [defineClass_struct job type base]
      rw [render, style] at failed
      rw [← failed]
      -- What a draft holds when it fails is dropped with it.
      generalize (draftOf job type inherited).addMembers (sceneOf job type) job.image = result
        at whole ⊢
      obtain ⟨after, failure⟩ := result
      cases failure with
      | some failure => rfl
      | none => exact ⟨_, after.diagnostics, true, rfl, whole⟩

theorem messages_errors : ((define job type).messages type).errors = [] := by
  unfold define
  by_cases enum : type.isEnum
  · rw [if_pos enum]
    simp only [defineEnum]
    cases writeEnum job.map.sanitizer (job.renderFor type) job.style type
      (job.map.structName type.name) { unit := job.settings.indent } with
    | error failure => rfl
    | ok buffer => rfl
  · rw [if_neg enum]
    cases base : (job.map.resolveBase type).spelling? job.settings.placeholderBase with
    | none =>
      obtain ⟨messages, none, written⟩ := defineClass_baseless job type base
      rw [written]
      exact none
    | some inherited =>
      have errors := (draftOf job type inherited).addMembers_errors (sceneOf job type) job.image
      rw [defineClass_struct job type base]
      generalize (draftOf job type inherited).addMembers (sceneOf job type) job.image = result
        at errors ⊢
      obtain ⟨after, failure⟩ := result
      cases failure with
      | some failure => rfl
      | none => exact errors

end Types

end ProxyHeaders.Proxy
