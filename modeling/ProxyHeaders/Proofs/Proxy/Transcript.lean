import ProxyHeaders.Proxy.Members

/-!
A struct's members as the list of what is written of them: functions, and comments on what is left
out or has failed. A renderer may fail on any piece; what was written before it fails stays.
-/
namespace ProxyHeaders.Proxy

open ProxyHeaders.Code ProxyHeaders.Names ProxyHeaders.Template

inductive Note where
  | function (fragment : Fragment) (code : String)
  | remark (message : String)

namespace Note

def function? : Note → Option Fragment
  | .function fragment _ => some fragment
  | .remark _ => none

def write (buffer : Buffer) : Note → Buffer
  | .function _ code => (buffer.block code).blank
  | .remark message => (buffer.comment message).blank

end Note

def functions (notes : List Note) : List Fragment := notes.filterMap Note.function?

variable (scene : Scene)

def rendering : List Piece → List Note × Option RenderFailure
  | [] => ([], none)
  | piece :: rest =>
    match scene.render scene.style piece.fragment with
    | .ok code => (.function piece.fragment code :: (rendering rest).1, (rendering rest).2)
    | .error failure => ([], some failure)

/-- What is claimed with some pieces; the one that fails is claimed for as well. -/
def claimedBy (claimed : Claimed) : List Piece → Claimed
  | [] => claimed
  | piece :: rest =>
    let claimed := (piece.claims.map claimed.claim).getD claimed
    match scene.render scene.style piece.fragment with
    | .ok _ => claimedBy claimed rest
    | .error _ => claimed

/-- A member that contributes by a plan, which depends on the names in use. -/
structure Member where
  what : String
  name : String
  plan : Claimed → Plan

namespace Member

def notes (claimed : Claimed) (member : Member) : List Note :=
  match member.plan claimed with
  | .skip => []
  | .reject message => [.remark message]
  | .write pieces =>
    match rendering scene pieces with
    | (notes, none) => notes
    | (notes, some failure) =>
      notes ++ [.remark
        ("Error generating " ++ member.what ++ " for " ++ member.name ++ ": " ++ failure.message)]

def claims (claimed : Claimed) (member : Member) : Claimed :=
  match member.plan claimed with
  | .write pieces => claimedBy scene claimed pieces
  | _ => claimed

end Member

def notesOf (claimed : Claimed) : List Member → List Note
  | [] => []
  | member :: rest => member.notes scene claimed ++ notesOf (member.claims scene claimed) rest

/-- All members, in the order in which every struct lists them. -/
def members : List Member :=
  (emittableFields scene.type).map (fun field =>
    ⟨"getter", field.name, fun claimed => getterPlan scene claimed field⟩) ++
  (emittableFields scene.type).map (fun field =>
    ⟨"setter", field.name, fun claimed => setterPlan scene claimed field⟩) ++
  (emittableProperties scene).map (fun property =>
    ⟨"property accessors", property.name, fun claimed => propertyPlan scene claimed property⟩) ++
  (emittableMethods scene).map fun method =>
    ⟨"method", method.name, fun claimed => methodPlan scene claimed method⟩

def bootstrapNotes (image : String) : List Note :=
  (rendering scene (bootstrapPieces scene image)).1

def memberNotes (claimed : Claimed) : List Note :=
  let pieces := singletonPieces scene claimed
  match rendering scene pieces with
  | (notes, some _) => notes
  | (notes, none) => notes ++ notesOf scene (claimedBy scene claimed pieces) (members scene)

def laterNotes (image : String) (claimed : Claimed) : List Note :=
  match (rendering scene (bootstrapPieces scene image)).2 with
  | some _ => []
  | none => memberNotes scene claimed

namespace Draft

theorem write_notes (pieces : List Piece) (draft : Draft) :
    (draft.write scene pieces).1.buffer =
      (rendering scene pieces).1.foldl Note.write draft.buffer ∧
    (draft.write scene pieces).1.claimed = claimedBy scene draft.claimed pieces ∧
    (draft.write scene pieces).2 = (rendering scene pieces).2 := by
  induction pieces generalizing draft with
  | nil => exact ⟨rfl, rfl, rfl⟩
  | cons piece rest ih =>
    have claim : (draft.claim piece.claims).buffer = draft.buffer ∧
        (draft.claim piece.claims).claimed =
          (piece.claims.map draft.claimed.claim).getD draft.claimed := by
      cases piece.claims with
      | none => exact ⟨rfl, rfl⟩
      | some name => exact ⟨rfl, rfl⟩
    simp only [write, rendering, claimedBy]
    -- A piece claims its name before it is rendered, and keeps it where that fails.
    cases scene.render scene.style piece.fragment with
    | error failure => exact ⟨claim.1, claim.2, rfl⟩
    | ok code =>
      have step := ih ((draft.claim piece.claims).append code)
      simp only [append, claim] at step ⊢
      rw [List.foldl_cons]
      exact step

theorem notes_of_write {pieces : List Piece} {draft after : Draft} {failure : Option RenderFailure}
    (written : draft.write scene pieces = (after, failure)) :
    ∃ notes, rendering scene pieces = (notes, failure) ∧
      after.buffer = notes.foldl Note.write draft.buffer ∧
      after.claimed = claimedBy scene draft.claimed pieces := by
  obtain ⟨buffer, claimed, failed⟩ := write_notes scene pieces draft
  rw [written] at buffer claimed failed
  exact ⟨_, Prod.ext rfl failed.symm, buffer, claimed⟩

def performMember (draft : Draft) (member : Member) : Draft :=
  (draft.perform scene member.what member.name (member.plan draft.claimed)).1

theorem performMember_notes (member : Member) (draft : Draft) :
    (draft.performMember scene member).buffer =
      (member.notes scene draft.claimed).foldl Note.write draft.buffer ∧
    (draft.performMember scene member).claimed = member.claims scene draft.claimed := by
  unfold performMember Member.notes Member.claims
  cases member.plan draft.claimed with
  | skip => exact ⟨rfl, rfl⟩
  | reject message => exact ⟨rfl, rfl⟩
  | write pieces =>
    simp only [perform]
    generalize written : draft.write scene pieces = result
    obtain ⟨after, failure⟩ := result
    obtain ⟨notes, rendered, buffer, claimed⟩ := notes_of_write scene written
    rw [rendered]
    -- A failure only adds the remark about it to what was written before.
    cases failure with
    | none => exact ⟨buffer, claimed⟩
    | some failure =>
      refine ⟨?_, claimed⟩
      simp only [List.foldl_append, ← buffer]
      rfl

theorem performAll_notes (list : List Member) (draft : Draft) :
    (list.foldl (performMember scene) draft).buffer =
      (notesOf scene draft.claimed list).foldl Note.write draft.buffer := by
  induction list generalizing draft with
  | nil => rfl
  | cons member rest ih =>
    obtain ⟨buffer, claimed⟩ := performMember_notes scene member draft
    rw [List.foldl_cons, ih, notesOf, List.foldl_append, buffer, claimed]

theorem addNamed_members (draft : Draft) :
    draft.addNamed scene = (members scene).foldl (performMember scene) draft := by
  simp only [members, List.foldl_append, List.foldl_map]
  rfl

theorem claimedBy_bootstrap (image : String) (claimed : Claimed) :
    claimedBy scene claimed (bootstrapPieces scene image) = claimed := by
  simp only [bootstrapPieces, claimedBy]
  cases scene.render scene.style _ <;> rfl

/-- The ways in which adding members ends: the accessors of the class fail, those of the instance
do, or the members are added behind both. -/
theorem addMembers_cases (image : String) (draft : Draft) :
    (∃ after failure,
      draft.write scene (bootstrapPieces scene image) = (after, some failure) ∧
      draft.addMembers scene image = (after, some failure)) ∨
    ∃ started, draft.write scene (bootstrapPieces scene image) = (started, none) ∧
      ((∃ after failure,
        started.write scene (singletonPieces scene started.claimed) = (after, some failure) ∧
        draft.addMembers scene image = (after, some failure)) ∨
      ∃ reached,
        started.write scene (singletonPieces scene started.claimed) = (reached, none) ∧
        draft.addMembers scene image = (reached.addNamed scene, none)) := by
  unfold addMembers addBootstrap addSingletons
  generalize draft.write scene (bootstrapPieces scene image) = written
  obtain ⟨started, failure⟩ := written
  cases failure with
  | some failure => exact .inl ⟨started, failure, rfl, rfl⟩
  | none =>
    refine .inr ⟨started, rfl, ?_⟩
    simp only
    generalize started.write scene (singletonPieces scene started.claimed) = written
    obtain ⟨reached, failure⟩ := written
    cases failure with
    | some failure => exact .inl ⟨reached, failure, rfl, rfl⟩
    | none => exact .inr ⟨reached, rfl, rfl⟩

theorem addMembers_notes (image : String) (draft : Draft) :
    (draft.addMembers scene image).1.buffer =
      (bootstrapNotes scene image ++ laterNotes scene image draft.claimed).foldl Note.write
        draft.buffer := by
  rw [List.foldl_append, bootstrapNotes, laterNotes]
  rcases draft.addMembers_cases scene image with
      ⟨after, failure, bootstrap, ended⟩ | ⟨started, bootstrap, onward⟩
  · obtain ⟨notes, rendered, buffer, -⟩ := notes_of_write scene bootstrap
    rw [ended, rendered]
    exact buffer
  · obtain ⟨notes, rendered, buffer, claimed⟩ := notes_of_write scene bootstrap
    rw [claimedBy_bootstrap] at claimed
    rw [rendered, ← buffer, memberNotes, ← claimed]
    rcases onward with ⟨after, failure, singletons, ended⟩ | ⟨reached, singletons, ended⟩
    · obtain ⟨notes, rendered, buffer, -⟩ := notes_of_write scene singletons
      rw [ended, rendered]
      exact buffer
    · obtain ⟨notes, rendered, buffer, claimed⟩ := notes_of_write scene singletons
      rw [ended, rendered]
      simp only [List.foldl_append, ← buffer, ← claimed]
      rw [addNamed_members, performAll_notes]

end Draft

end ProxyHeaders.Proxy
