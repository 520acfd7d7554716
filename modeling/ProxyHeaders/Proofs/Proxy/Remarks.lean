import ProxyHeaders.Proofs.Proxy.Failure

/-!
Remarks and warnings. A note is a function as the renderer gave it, or a remark by which a member is
rejected or has failed. A draft records the remarks as warnings and nothing else; so after all members
it holds what its remarks say, in their order, each behind the name of the type.
-/
namespace ProxyHeaders.Proxy

open ProxyHeaders.Code ProxyHeaders.Names ProxyHeaders.Template

def Note.remark? : Note → Option String
  | .function _ _ => none
  | .remark message => some message

def remarks (notes : List Note) : List String := notes.filterMap Note.remark?

theorem remarks_append (first second : List Note) :
    remarks (first ++ second) = remarks first ++ remarks second := List.filterMap_append

variable (scene : Scene)

theorem rendering_remarks (pieces : List Piece) : remarks (rendering scene pieces).1 = [] := by
  induction pieces with
  | nil => rfl
  | cons piece rest ih =>
    rw [rendering]
    cases scene.render scene.style piece.fragment with
    | ok code => exact ih
    | error failure => rfl

/-! Where the notes in a struct come from -/

/-- What a note in a struct can be. -/
inductive Note.Comes : Note → Prop where
  | rendered {fragment : Fragment} {code : String}
    (given : scene.render scene.style fragment = .ok code) : Comes (.function fragment code)
  | rejected {member : Member} {claimed : Claimed} {message : String}
    (listed : member ∈ members scene) (planned : member.plan claimed = .reject message) :
    Comes (.remark message)
  | failed {member : Member} {fragment : Fragment} {failure : RenderFailure}
    (listed : member ∈ members scene)
    (stopped : scene.render scene.style fragment = .error failure) :
    Comes (.remark
      ("Error generating " ++ member.what ++ " for " ++ member.name ++ ": " ++ failure.message))

theorem rendering_comes (pieces : List Piece) :
    (∀ note ∈ (rendering scene pieces).1, note.Comes scene) ∧
      ∀ failure, (rendering scene pieces).2 = some failure →
        ∃ fragment, scene.render scene.style fragment = .error failure := by
  induction pieces with
  | nil => exact ⟨fun _ member => (by cases member), fun _ found => (by cases found)⟩
  | cons piece rest ih =>
    rw [rendering]
    cases given : scene.render scene.style piece.fragment with
    | ok code =>
      rw [List.forall_mem_cons]
      exact ⟨⟨.rendered given, ih.1⟩, ih.2⟩
    | error failure =>
      refine ⟨fun _ member => (by cases member), ?_⟩
      intro other found
      cases found
      exact ⟨_, given⟩

theorem Member.notes_comes {member : Member} (listed : member ∈ members scene)
    (claimed : Claimed) : ∀ note ∈ member.notes scene claimed, note.Comes scene := by
  unfold notes
  cases planned : member.plan claimed with
  | skip => exact fun _ member => by cases member
  | reject message => exact List.forall_mem_singleton.mpr (.rejected listed planned)
  | write pieces =>
    obtain ⟨functions, stopped⟩ := rendering_comes scene pieces
    simp only
    generalize rendering scene pieces = result at functions stopped ⊢
    obtain ⟨notes, failure⟩ := result
    cases failure with
    | none => exact functions
    | some failure =>
      obtain ⟨fragment, stops⟩ := stopped failure rfl
      rw [List.forall_mem_append]
      exact ⟨functions, List.forall_mem_singleton.mpr (.failed listed stops)⟩

theorem notesOf_comes {list : List Member} (listed : ∀ member ∈ list, member ∈ members scene)
    (claimed : Claimed) : ∀ note ∈ notesOf scene claimed list, note.Comes scene := by
  induction list generalizing claimed with
  | nil => exact fun _ member => by cases member
  | cons member rest ih =>
    obtain ⟨own, others⟩ := List.forall_mem_cons.mp listed
    rw [notesOf, List.forall_mem_append]
    exact ⟨member.notes_comes scene own claimed, ih others _⟩

theorem laterNotes_comes (image : String) (claimed : Claimed) :
    ∀ note ∈ laterNotes scene image claimed, note.Comes scene := by
  have accessors := (rendering_comes scene (singletonPieces scene claimed)).1
  unfold laterNotes
  split
  · exact fun _ member => by cases member
  · simp only [memberNotes]
    generalize rendering scene (singletonPieces scene claimed) = result at accessors ⊢
    obtain ⟨notes, failure⟩ := result
    cases failure with
    | some failure => exact accessors
    | none =>
      rw [List.forall_mem_append]
      exact ⟨accessors, notesOf_comes scene (fun _ member => member) _⟩

/-! What a draft records -/

namespace Draft

theorem performMember_remarks (member : Member) (draft : Draft) :
    (draft.performMember scene member).diagnostics.warnings = draft.diagnostics.warnings ++
      (remarks (member.notes scene draft.claimed)).map (scene.owner ++ ": " ++ ·) := by
  unfold performMember Member.notes
  cases member.plan draft.claimed with
  | skip => exact (List.append_nil _).symm
  | reject message => rfl
  | write pieces =>
    simp only [perform]
    have silent := rendering_remarks scene pieces
    generalize written : draft.write scene pieces = result
    obtain ⟨after, failure⟩ := result
    obtain ⟨notes, rendered, -⟩ := notes_of_write scene written
    rw [rendered] at silent ⊢
    rw [← diagnostics_of_write scene written]
    cases failure with
    | none => simp only [silent, List.map_nil, List.append_nil]
    | some failure =>
      simp only [remarks_append, silent]
      rfl

theorem performAll_remarks (list : List Member) (draft : Draft) :
    (list.foldl (performMember scene) draft).diagnostics.warnings = draft.diagnostics.warnings ++
      (remarks (notesOf scene draft.claimed list)).map (scene.owner ++ ": " ++ ·) := by
  induction list generalizing draft with
  | nil => exact (List.append_nil _).symm
  | cons member rest ih =>
    have claimed := (performMember_notes scene member draft).2
    rw [List.foldl_cons, ih, performMember_remarks, claimed, notesOf, remarks_append,
      List.map_append, List.append_assoc]

theorem addMembers_remarks {image : String} {draft after : Draft}
    (added : draft.addMembers scene image = (after, none)) :
    after.diagnostics.warnings = draft.diagnostics.warnings ++
      (remarks (bootstrapNotes scene image ++ laterNotes scene image draft.claimed)).map
        (scene.owner ++ ": " ++ ·) := by
  rcases draft.addMembers_cases scene image with
      ⟨reached, failure, -, ended⟩ | ⟨started, bootstrap, ⟨reached, failure, -, ended⟩ |
        ⟨reached, singletons, ended⟩⟩
  · rw [ended] at added
    cases added
  · rw [ended] at added
    cases added
  · obtain ⟨notes, rendered, -, claimed⟩ := notes_of_write scene bootstrap
    obtain ⟨accessors, instanced, -, taken⟩ := notes_of_write scene singletons
    have silent := rendering_remarks scene (bootstrapPieces scene image)
    have alsoSilent := rendering_remarks scene (singletonPieces scene started.claimed)
    rw [claimedBy_bootstrap] at claimed
    rw [rendered] at silent
    rw [instanced] at alsoSilent
    rw [ended] at added
    cases added
    rw [addNamed_members, performAll_remarks, diagnostics_of_write scene singletons,
      diagnostics_of_write scene bootstrap, bootstrapNotes, laterNotes, rendered]
    simp only [memberNotes, ← claimed, instanced, remarks_append, silent, alsoSilent, taken,
      List.nil_append]

end Draft

end ProxyHeaders.Proxy
