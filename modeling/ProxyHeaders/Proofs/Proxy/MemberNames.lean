import Mathlib.Data.List.Nodup
import ProxyHeaders.Proofs.Names.Answers
import ProxyHeaders.Proofs.Proxy.Transcript

/-!
The names of the functions in one struct. Every plan takes the names of its functions, and plans for
none that is in use; so from one member to the next the functions written so far have names of their
own, all of them in use, whether or not the renderer fails on the way. As no two pieces have one
name, none is rendered twice: a renderer that fails at times is one that fails on some pieces.
-/
namespace ProxyHeaders.Proxy

open ProxyHeaders.Code ProxyHeaders.Mapping ProxyHeaders.Names ProxyHeaders.Template

/-- A piece takes the name of its function. -/
structure Piece.Takes (piece : Piece) (name : String) : Prop where
  claims : piece.claims = some name
  named : piece.fragment.name? = some name

/-- Pieces of which each takes a name that is not in use, also not by those before it. -/
inductive Fresh : Claimed → List Piece → Prop where
  | nil (claimed : Claimed) : Fresh claimed []
  | cons {claimed : Claimed} {piece : Piece} {rest : List Piece} {name : String}
    (takes : piece.Takes name) (free : ¬ claimed.contains name)
    (later : Fresh (claimed.claim name) rest) : Fresh claimed (piece :: rest)

/-- Between two states of a struct, functions of new names were written, which are now in use. -/
structure NewFunctions (before after : Claimed) (notes : List Note) : Prop where
  once : ((functions notes).map Fragment.name?).Nodup
  new : ∀ fragment ∈ functions notes, ∃ name, fragment.name? = some name ∧
    ¬ before.contains name ∧ after.contains name
  kept : ∀ name, before.contains name → after.contains name

namespace NewFunctions

variable {before middle after claimed : Claimed} {notes later : List Note}

theorem none (kept : ∀ name, before.contains name → after.contains name)
    (silent : functions notes = []) : NewFunctions before after notes := by
  constructor
  · rw [silent]
    exact List.nodup_nil
  · intro fragment member
    rw [silent] at member
    cases member
  · exact kept

/-- Where no function is written and nothing is claimed. -/
theorem silent (silent : functions notes = []) : NewFunctions claimed claimed notes :=
  .none (fun _ known => known) silent

theorem single {piece : Piece} {name : String} (takes : piece.Takes name)
    (free : ¬ claimed.contains name) (code : String) :
    NewFunctions claimed (claimed.claim name) [.function piece.fragment code] := by
  have only : functions [.function piece.fragment code] = [piece.fragment] := rfl
  constructor
  · rw [only]
    exact List.nodup_singleton _
  · intro fragment member
    rw [only, List.mem_singleton] at member
    rw [member]
    exact ⟨name, takes.named, free, Claimed.contains_claim.mpr (.inl rfl)⟩
  · exact fun other known => Claimed.contains_claim.mpr (.inr known)

theorem append (first : NewFunctions before middle notes)
    (second : NewFunctions middle after later) : NewFunctions before after (notes ++ later) := by
  have all : functions (notes ++ later) = functions notes ++ functions later :=
    List.filterMap_append
  constructor
  · rw [all, List.map_append, List.nodup_append]
    refine ⟨first.once, second.once, ?_⟩
    -- The names of the first functions are in use when the others are written.
    rintro _ early _ late rfl
    obtain ⟨fragment, member, same⟩ := List.mem_map.mp early
    obtain ⟨other, laterMember, otherSame⟩ := List.mem_map.mp late
    obtain ⟨name, named, -, used⟩ := first.new fragment member
    obtain ⟨otherName, otherNamed, free, -⟩ := second.new other laterMember
    rw [named] at same
    rw [otherNamed, ← same, Option.some_inj] at otherSame
    rw [otherSame] at free
    exact free used
  · intro fragment member
    rw [all] at member
    rcases List.mem_append.mp member with early | late
    · obtain ⟨name, named, free, used⟩ := first.new fragment early
      exact ⟨name, named, free, second.kept name used⟩
    · obtain ⟨name, named, free, used⟩ := second.new fragment late
      exact ⟨name, named, fun known => free (first.kept name known), used⟩
  · exact fun name known => second.kept name (first.kept name known)

end NewFunctions

/-! What fresh pieces write -/

theorem rendering_new (scene : Scene) {claimed : Claimed} {pieces : List Piece}
    (fresh : Fresh claimed pieces) :
    NewFunctions claimed (claimedBy scene claimed pieces) (rendering scene pieces).1 := by
  induction fresh with
  | nil claimed => exact .silent rfl
  | @cons claimed piece rest name takes free _ ih =>
    simp only [rendering, claimedBy, takes.claims, Option.map_some, Option.getD_some]
    cases scene.render scene.style piece.fragment with
    | error failure =>
      -- The name stays claimed, although no function has it.
      exact .none (fun _ known => Claimed.contains_claim.mpr (.inr known)) rfl
    | ok code => exact (NewFunctions.single takes free code).append ih

/-- A member whose plans are fresh. -/
def Member.Fresh (member : Member) : Prop :=
  ∀ claimed pieces, member.plan claimed = .write pieces → Proxy.Fresh claimed pieces

theorem Member.notes_new (scene : Scene) {member : Member} (fresh : member.Fresh)
    (claimed : Claimed) :
    NewFunctions claimed (member.claims scene claimed) (member.notes scene claimed) := by
  unfold notes claims
  cases plan : member.plan claimed with
  | skip => exact .silent rfl
  | reject message => exact .silent rfl
  | write pieces =>
    have rendered := rendering_new scene (fresh claimed pieces plan)
    simp only
    generalize rendering scene pieces = result at rendered ⊢
    obtain ⟨notes, failure⟩ := result
    cases failure with
    | none => exact rendered
    | some failure =>
      apply rendered.append
      exact .silent rfl

theorem notesOf_new (scene : Scene) {list : List Member} (fresh : ∀ member ∈ list, member.Fresh)
    (claimed : Claimed) : ∃ after, NewFunctions claimed after (notesOf scene claimed list) := by
  induction list generalizing claimed with
  | nil => exact ⟨claimed, .silent rfl⟩
  | cons member rest ih =>
    have first := member.notes_new scene (fresh member (by simp)) claimed
    obtain ⟨after, later⟩ :=
      ih (fun other listed => fresh other (by simp [listed])) (member.claims scene claimed)
    exact ⟨after, first.append later⟩

/-! The plans of all members are fresh. -/

section Plans

variable {scene : Scene} {claimed : Claimed} {pieces : List Piece}

theorem fresh_single {piece : Piece} {name : String} (takes : piece.Takes name)
    (free : ¬ claimed.contains name) : Fresh claimed [piece] :=
  .cons takes free (.nil _)

theorem fresh_optional {piece : Piece} {name : String} (takes : piece.Takes name) (asked : Bool) :
    Fresh claimed (if asked && !claimed.contains name then [piece] else []) := by
  cases wanted : asked && !claimed.contains name with
  | false => exact .nil claimed
  | true =>
    simp only [Bool.and_eq_true, Bool.not_eq_true'] at wanted
    exact fresh_single takes (by simp [wanted.2])

theorem fresh_pair {first second : Piece} {name other : String} {asked alsoAsked : Bool}
    (takes : first.Takes name) (alsoTakes : second.Takes other) (different : other ≠ name) :
    Fresh claimed ((if asked && !claimed.contains name then [first] else []) ++
      (if alsoAsked && !claimed.contains other then [second] else [])) := by
  cases wanted : asked && !claimed.contains name with
  | false => exact fresh_optional alsoTakes alsoAsked
  | true =>
    simp only [Bool.and_eq_true, Bool.not_eq_true'] at wanted
    apply Fresh.cons takes (by simp [wanted.2])
    -- The other name is as free behind the first piece as before it.
    have same : (claimed.claim name).contains other = claimed.contains other := by
      rw [Bool.eq_iff_iff, Claimed.contains_claim]
      simp [different]
    rw [← same]
    exact fresh_optional alsoTakes alsoAsked

theorem singletonPieces_fresh (scene : Scene) (claimed : Claimed) :
    Fresh claimed (singletonPieces scene claimed) :=
  fresh_pair ⟨rfl, rfl⟩ ⟨rfl, rfl⟩ (by decide)

theorem getterPlan_fresh {field : Field} (plan : getterPlan scene claimed field = .write pieces) :
    Fresh claimed pieces := by
  simp only [getterPlan] at plan
  split at plan
  · cases plan
  · next free =>
    split at plan
    · cases plan
    · cases plan
      exact fresh_single ⟨rfl, rfl⟩ free

theorem setterPlan_fresh {field : Field} (plan : setterPlan scene claimed field = .write pieces) :
    Fresh claimed pieces := by
  simp only [setterPlan] at plan
  split at plan
  · cases plan
  · next free =>
    split at plan
    · cases plan
    · cases plan
      apply fresh_single ⟨rfl, rfl⟩
      intro known
      exact free (by simp [known])

theorem getterName_ne_setterName (shown : String) : "set_" ++ shown ≠ "get_" ++ shown := by
  intro same
  have letters := congrArg String.toList same
  simp at letters

theorem propertyPlan_fresh {property : Property}
    (plan : propertyPlan scene claimed property = .write pieces) : Fresh claimed pieces := by
  simp only [propertyPlan] at plan
  split at plan
  · cases plan
  · split at plan
    · cases plan
    · cases plan
      exact fresh_pair ⟨rfl, rfl⟩ ⟨rfl, rfl⟩ (getterName_ne_setterName _)

theorem methodPlan_fresh {method : Method}
    (plan : methodPlan scene claimed method = .write pieces) : Fresh claimed pieces := by
  simp only [methodPlan] at plan
  split at plan
  · cases plan
  · next free =>
    split at plan
    · cases plan
    · split at plan
      · cases plan
      · cases plan
        exact fresh_single ⟨rfl, rfl⟩ free

theorem members_fresh : ∀ member ∈ members scene, member.Fresh := by
  simp only [members, List.forall_mem_append, List.forall_mem_map]
  refine ⟨⟨⟨?_, ?_⟩, ?_⟩, ?_⟩
  · exact fun field _ claimed pieces plan => getterPlan_fresh plan
  · exact fun field _ claimed pieces plan => setterPlan_fresh plan
  · exact fun property _ claimed pieces plan => propertyPlan_fresh plan
  · exact fun method _ claimed pieces plan => methodPlan_fresh plan

theorem memberNotes_new (scene : Scene) (claimed : Claimed) :
    ∃ after, NewFunctions claimed after (memberNotes scene claimed) := by
  have singletons := rendering_new scene (singletonPieces_fresh scene claimed)
  simp only [memberNotes]
  generalize rendering scene (singletonPieces scene claimed) = result at singletons ⊢
  obtain ⟨notes, failure⟩ := result
  cases failure with
  | some failure => exact ⟨_, singletons⟩
  | none =>
    obtain ⟨after, named⟩ := notesOf_new scene members_fresh
      (claimedBy scene claimed (singletonPieces scene claimed))
    exact ⟨after, singletons.append named⟩

theorem laterNotes_new (scene : Scene) (image : String) (claimed : Claimed) :
    ∃ after, NewFunctions claimed after (laterNotes scene image claimed) := by
  unfold laterNotes
  split
  · exact ⟨claimed, .silent rfl⟩
  · exact memberNotes_new scene claimed

end Plans

/-- In every struct the functions behind the accessors of the class have names of their own, none of
them the struct's or that of an implicit member; whatever the sanitizer was asked before, and
wherever the renderer fails. -/
theorem member_names_distinct (map : TypeMap) (questions : List (Option String × NameCase))
    (type : TypeDecl) (render : Renderer) (style : Style) (image : String) (buffer : Buffer)
    (messages : Diagnostics) :
    let known : TypeMap := { map with sanitizer := map.sanitizer.forget.askAll questions }
    let structName := known.structName type.name
    let scene : Scene := { type, structName, map := known, render, style }
    let draft : Draft :=
      { buffer, claimed := Claimed.forStruct structName, diagnostics := messages }
    let later := laterNotes scene image draft.claimed
    (draft.addMembers scene image).1.buffer =
        (bootstrapNotes scene image ++ later).foldl Note.write buffer ∧
      ((functions later).map Fragment.name?).Nodup ∧
      ∀ fragment ∈ functions later, ∃ name, fragment.name? = some name ∧
        name ≠ structName ∧ name ∉ implicitMembers := by
  intro known structName scene draft later
  have named : structName ≠ "" := by
    change known.sanitizer.identifier (cleanName type.name) ≠ ""
    apply Sanitizer.identifier_nonempty
    exact Sanitizer.askAll_neverEmpty questions map.sanitizer.forget_neverEmpty
  obtain ⟨after, new⟩ := laterNotes_new scene image draft.claimed
  refine ⟨Draft.addMembers_notes scene image draft, new.once, ?_⟩
  intro fragment written
  obtain ⟨name, named', free, -⟩ := new.new fragment written
  rw [Claimed.contains_forStruct named, not_or] at free
  exact ⟨name, named', free.1, free.2⟩

end ProxyHeaders.Proxy
