import ProxyHeaders.Proofs.Code.Buffer
import ProxyHeaders.Proofs.Proxy.Failure
import ProxyHeaders.Proofs.Proxy.MemberNames
import ProxyHeaders.Proofs.Proxy.Planned

/-!
What a failed emitter leaves in a struct. The guard around it adds one comment and one warning, but
it takes nothing back: what the emitter wrote before the failure stands in front of the comment, and
the names that it took stay in use, also the one whose function is not there. So a property may be
left with its getter alone, and a later member of a name that failed gets no function.
-/
namespace ProxyHeaders.Proxy

open ProxyHeaders.Code ProxyHeaders.Mapping ProxyHeaders.Names ProxyHeaders.Template

/-! Pieces up to the first that fails -/

/-- Some pieces are rendered one after the other, up to one that fails. What comes of them is some
code; tried are those that are rendered and the one that fails. -/
inductive Cut (scene : Scene) (failure : RenderFailure) :
    List Piece → List String → List Piece → Prop where
  | here {piece : Piece} {rest : List Piece}
    (fails : scene.render scene.style piece.fragment = .error failure) :
    Cut scene failure (piece :: rest) [] [piece]
  | later {piece : Piece} {rest tried : List Piece} {code : String} {codes : List String}
    (renders : scene.render scene.style piece.fragment = .ok code)
    (cut : Cut scene failure rest codes tried) :
    Cut scene failure (piece :: rest) (code :: codes) (piece :: tried)

def appendCode (buffer : Buffer) (code : String) : Buffer := (buffer.block code).blank

def namesOf (pieces : List Piece) : List String := pieces.filterMap (·.claims)

def claimAll (claimed : Claimed) (pieces : List Piece) : Claimed :=
  pieces.foldl (fun claimed piece => (piece.claims.map claimed.claim).getD claimed) claimed

namespace Cut

variable {scene : Scene} {failure : RenderFailure} {pieces tried : List Piece} {codes : List String}

theorem tried_front (cut : Cut scene failure pieces codes tried) : tried <+: pieces := by
  induction cut with
  | @here piece rest fails => exact ⟨rest, rfl⟩
  | later renders cut ih => exact (List.prefix_cons_inj _).mpr ih

theorem tried_length (cut : Cut scene failure pieces codes tried) :
    tried.length = codes.length + 1 := by
  induction cut with
  | here fails => rfl
  | later renders cut ih => rw [List.length_cons, List.length_cons, ih]

end Cut

theorem fresh_front {claimed : Claimed} {tried pieces : List Piece} (front : tried <+: pieces)
    (fresh : Fresh claimed pieces) : Fresh claimed tried := by
  induction fresh generalizing tried with
  | nil claimed => exact List.prefix_nil.mp front ▸ .nil claimed
  | cons takes free later ih =>
    rcases List.prefix_cons_iff.mp front with rfl | ⟨others, rfl, behind⟩
    · exact .nil _
    · exact .cons takes free (ih behind)

theorem names_of_fresh {claimed : Claimed} {pieces : List Piece} (fresh : Fresh claimed pieces) :
    (namesOf pieces).length = pieces.length ∧
    (claimAll claimed pieces).names = (namesOf pieces).reverse ++ claimed.names ∧
    ∀ name ∈ namesOf pieces, ¬ claimed.contains name := by
  induction fresh with
  | nil claimed => exact ⟨rfl, rfl, by simp [namesOf]⟩
  | @cons claimed piece rest name takes free later ih =>
    obtain ⟨length, names, others⟩ := ih
    have own : namesOf (piece :: rest) = name :: namesOf rest := by
      simp [namesOf, takes.claims]
    have claim : (claimed.claim name).names = name :: claimed.names := by
      rw [Claimed.claim, if_neg free]
    rw [own]
    refine ⟨by rw [List.length_cons, List.length_cons, length], ?_, ?_⟩
    · rw [claimAll, List.foldl_cons, takes.claims, Option.map_some, Option.getD_some, ← claimAll,
        names, claim, List.reverse_cons, List.append_assoc, List.singleton_append]
    · intro taken member
      rcases List.mem_cons.mp member with rfl | member
      · exact free
      · exact fun known => others taken member (Claimed.contains_claim.mpr (.inr known))

namespace Draft

variable (scene : Scene)

/-- A write that fails has written the pieces in front of the failing one, and claimed for that one
as well. -/
theorem write_cut {pieces : List Piece} {draft after : Draft} {failure : RenderFailure}
    (written : draft.write scene pieces = (after, some failure)) :
    ∃ codes tried, Cut scene failure pieces codes tried ∧
      after.buffer = codes.foldl appendCode draft.buffer ∧
      after.claimed = claimAll draft.claimed tried := by
  induction pieces generalizing draft with
  | nil => cases written
  | cons piece rest ih =>
    have claim : (draft.claim piece.claims).buffer = draft.buffer ∧
        (draft.claim piece.claims).claimed =
          (piece.claims.map draft.claimed.claim).getD draft.claimed := by
      cases piece.claims with
      | none => exact ⟨rfl, rfl⟩
      | some name => exact ⟨rfl, rfl⟩
    simp only [write] at written
    cases rendered : scene.render scene.style piece.fragment with
    | error own =>
      simp only [rendered, Prod.mk.injEq, Option.some.injEq] at written
      obtain ⟨rfl, rfl⟩ := written
      exact ⟨[], [piece], .here rendered, claim.1, claim.2⟩
    | ok code =>
      simp only [rendered] at written
      obtain ⟨codes, tried, cut, buffer, claimed⟩ := ih written
      refine ⟨code :: codes, piece :: tried, .later rendered cut, ?_, ?_⟩
      · rw [buffer, List.foldl_cons, append, claim.1, appendCode]
      · rw [claimed, append, claim.2]
        rfl

end Draft

/-! The emitters of members -/

/-- What is emitted for one member of a type. -/
inductive Emitter where
  | getter (field : Field)
  | setter (field : Field)
  | property (property : Property)
  | method (method : Method)

namespace Emitter

def emit (scene : Scene) (draft : Draft) : Emitter → Draft × Draft.Written
  | .getter field => draft.addGetter scene field
  | .setter field => draft.addSetter scene field
  | .property own => draft.addProperty scene own
  | .method own => draft.addMethod scene own

def what : Emitter → String
  | .getter _ => "getter"
  | .setter _ => "setter"
  | .property _ => "property accessors"
  | .method _ => "method"

def name : Emitter → String
  | .getter field => field.name
  | .setter field => field.name
  | .property own => own.name
  | .method own => own.name

def plan (scene : Scene) (claimed : Claimed) : Emitter → Plan
  | .getter field => getterPlan scene claimed field
  | .setter field => setterPlan scene claimed field
  | .property own => propertyPlan scene claimed own
  | .method own => methodPlan scene claimed own

/-- The names of the functions that the member may get. -/
def labels (scene : Scene) : Emitter → List String
  | .getter field => [scene.map.sanitizer.accessorName "Get" field.name]
  | .setter field => [scene.map.sanitizer.accessorName "Set" field.name]
  | .property own =>
    ["get_" ++ localName scene.map.sanitizer own.name,
      "set_" ++ localName scene.map.sanitizer own.name]
  | .method own => [scene.map.sanitizer.identifier own.name]

/-- What is said of the member if it fails. -/
def complaint (emitter : Emitter) (failure : RenderFailure) : String :=
  "Error generating " ++ emitter.what ++ " for " ++ emitter.name ++ ": " ++ failure.message

theorem emit_perform (scene : Scene) (draft : Draft) (emitter : Emitter) :
    emitter.emit scene draft =
      draft.perform scene emitter.what emitter.name (emitter.plan scene draft.claimed) := by
  cases emitter <;> rfl

variable {scene : Scene} {claimed : Claimed} {emitter : Emitter} {pieces : List Piece}

theorem plan_fresh (planned : emitter.plan scene claimed = .write pieces) :
    Fresh claimed pieces := by
  cases emitter with
  | getter field => exact getterPlan_fresh planned
  | setter field => exact setterPlan_fresh planned
  | property own => exact propertyPlan_fresh planned
  | method own => exact methodPlan_fresh planned

theorem plan_labels (planned : emitter.plan scene claimed = .write pieces) :
    (namesOf pieces).Sublist (emitter.labels scene) := by
  cases emitter with
  | getter field =>
    obtain ⟨-, -, -, -, rfl⟩ := getterPlan_writes planned
    exact .refl _
  | setter field =>
    obtain ⟨-, -, -, -, -, rfl⟩ := setterPlan_writes planned
    exact .refl _
  | property own =>
    simp only [plan, propertyPlan] at planned
    split at planned
    · cases planned
    split at planned
    · cases planned
    cases planned
    rw [namesOf, List.filterMap_append]
    change List.Sublist _ ([_] ++ [_])
    refine List.Sublist.append ?_ ?_
    · split
      · exact .refl _
      · exact List.nil_sublist _
    · split
      · exact .refl _
      · exact List.nil_sublist _
  | method own =>
    obtain ⟨-, -, -, -, -, rfl⟩ := methodPlan_writes planned
    exact .refl _

theorem plan_skips (inUse : ∀ label ∈ emitter.labels scene, claimed.contains label) :
    emitter.plan scene claimed = .skip := by
  cases emitter with
  | getter field => simp [plan, getterPlan, inUse _ (List.mem_singleton.mpr rfl)]
  | setter field => simp [plan, setterPlan, inUse _ (List.mem_singleton.mpr rfl)]
  | property own =>
    have getter := inUse _ (List.mem_cons_self ..)
    have setter := inUse _ (List.mem_cons_of_mem _ (List.mem_singleton.mpr rfl))
    simp [plan, propertyPlan, getter, setter]
  | method own => simp [plan, methodPlan, inUse _ (List.mem_singleton.mpr rfl)]

theorem property_of_labels (more : 1 < (emitter.labels scene).length) :
    ∃ own, emitter = .property own ∧ (emitter.labels scene).length = 2 := by
  cases emitter with
  | property own => exact ⟨own, rfl, rfl⟩
  | getter | setter | method => simp [labels] at more

end Emitter

/-! What is left -/

theorem appendCode_grows (buffer : Buffer) (code : String) :
    buffer.lines.size < (appendCode buffer code).lines.size := by
  have appended := congrArg List.length ((Buffer.Appends.block code).lines buffer)
  rw [List.length_append, Array.length_toList, Array.length_toList] at appended
  simp only [appendCode, Buffer.blank, Buffer.line, Array.size_push]
  omega

theorem appendCode_all_grows (buffer : Buffer) (codes : List String) :
    buffer.lines.size + codes.length ≤ (codes.foldl appendCode buffer).lines.size := by
  induction codes generalizing buffer with
  | nil => exact Nat.le_refl _
  | cons code rest ih =>
    have first := appendCode_grows buffer code
    have others := ih (appendCode buffer code)
    rw [List.foldl_cons, List.length_cons]
    omega

/-- What a failed emitter leaves in a struct, beside what was there before it: some code, and the
names that it took. -/
structure Aftermath (scene : Scene) (emitter : Emitter) (failure : RenderFailure)
    (codes names : List String) (before after : Draft) : Prop where
  /-- The code is that of the pieces in front of the one that failed. -/
  cut : ∃ pieces tried, emitter.plan scene before.claimed = .write pieces ∧
    Cut scene failure pieces codes tried ∧ names = namesOf tried
  /-- The comment with its empty line comes last. -/
  buffer : after.buffer =
    ((codes.foldl appendCode before.buffer).comment (emitter.complaint failure)).blank
  /-- There is one more warning, and nothing else to say. -/
  diagnostics : after.diagnostics =
    before.diagnostics.warn (scene.owner ++ ": " ++ emitter.complaint failure)
  /-- One name for each piece of code, and one for the piece that failed. -/
  taken : names.length = codes.length + 1
  own : names.Sublist (emitter.labels scene)
  free : ∀ name ∈ names, ¬ before.claimed.contains name
  /-- All that was taken stays in use. -/
  claimed : after.claimed.names = names.reverse ++ before.claimed.names

namespace Aftermath

variable {scene : Scene} {emitter : Emitter} {failure : RenderFailure} {codes names : List String}
  {before after : Draft}

theorem replaced_iff (left : Aftermath scene emitter failure codes names before after) :
    after.buffer = (before.buffer.comment (emitter.complaint failure)).blank ↔ codes = [] := by
  rw [left.buffer]
  constructor
  · intro same
    have size := congrArg (·.lines.size) same
    simp only [Buffer.blank, Buffer.comment, Buffer.line, Array.size_push] at size
    have grown := appendCode_all_grows before.buffer codes
    exact List.eq_nil_of_length_eq_zero (by omega)
  · rintro rfl
    rfl

theorem halved (left : Aftermath scene emitter failure codes names before after)
    (some : codes ≠ []) :
    ∃ own code, emitter = .property own ∧ codes = [code] ∧ names = emitter.labels scene := by
  have written := List.length_pos_iff.mpr some
  have taken := left.taken
  have within := left.own.length_le
  have more : 1 < (emitter.labels scene).length := by omega
  obtain ⟨own, isProperty, two⟩ := Emitter.property_of_labels more
  obtain ⟨code, only⟩ := List.length_eq_one_iff.mp (show codes.length = 1 by omega)
  exact ⟨own, code, isProperty, only, left.own.eq_of_length_le (by omega)⟩

theorem contains_iff (left : Aftermath scene emitter failure codes names before after)
    (name : String) :
    after.claimed.contains name ↔ name ∈ names ∨ before.claimed.contains name := by
  simp [Claimed.contains, left.claimed]

end Aftermath

/-- A member whose emitter fails leaves one comment and one warning, and nothing else is written of
it, unless it is a property whose setter fails behind its getter: then the getter stays in front of
the comment. Every name that the emitter took stays in use, so members that have no other names get
no function after it. -/
theorem failed_member_replaced {scene : Scene} {draft after : Draft} {emitter : Emitter}
    (failed : emitter.emit scene draft = (after, .failed)) :
    ∃ failure codes names, Aftermath scene emitter failure codes names draft after ∧
      (after.buffer = (draft.buffer.comment (emitter.complaint failure)).blank ↔ codes = []) ∧
      (codes ≠ [] →
        ∃ own code, emitter = .property own ∧ codes = [code] ∧ names = emitter.labels scene) ∧
      ∀ later : Emitter,
        (∀ label ∈ later.labels scene, label ∈ names ∨ draft.claimed.contains label) →
        later.emit scene after = (after, .pieces 0) := by
  rw [Emitter.emit_perform] at failed
  cases planned : emitter.plan scene draft.claimed with
  | skip => simp [planned, Draft.perform] at failed
  | reject message => simp [planned, Draft.perform] at failed
  | write pieces =>
    simp only [planned, Draft.perform] at failed
    generalize written : draft.write scene pieces = result at failed
    obtain ⟨middle, ended⟩ := result
    cases ended with
    | none => cases failed
    | some failure =>
      -- The pieces tried are a first part of the plan: what they wrote and claimed stays.
      obtain ⟨codes, tried, cut, buffer, claimed⟩ := Draft.write_cut scene written
      obtain ⟨length, names, free⟩ :=
        names_of_fresh (fresh_front cut.tried_front (Emitter.plan_fresh planned))
      have left : Aftermath scene emitter failure codes (namesOf tried) draft
          (middle.reject scene (emitter.complaint failure)) :=
        { cut := ⟨pieces, tried, planned, cut, rfl⟩
          buffer := by rw [← buffer]; rfl
          diagnostics := by rw [← Draft.diagnostics_of_write scene written]; rfl
          taken := by rw [length, cut.tried_length]
          own := (cut.tried_front.sublist.filterMap _).trans (Emitter.plan_labels planned)
          free
          claimed := by rw [← names, ← claimed]; rfl }
      obtain rfl : middle.reject scene (emitter.complaint failure) = after :=
        congrArg Prod.fst failed
      refine ⟨failure, codes, namesOf tried, left, left.replaced_iff, left.halved, ?_⟩
      intro later known
      -- Names that are claimed now are refused before anything is rendered, so no message follows.
      have skipped := Emitter.plan_skips fun label listed =>
        (left.contains_iff label).mpr (known label listed)
      rw [Emitter.emit_perform, skipped]
      rfl

/-! A property whose setter fails -/

def vitals : Property :=
  { name := "Health", type := { name := "Int32", space := some "System", category := .structType }
    hasSetter := true }

def tornRenderer : Renderer := fun _ fragment =>
  if fragment.name? = some "set_Health" then .error (.other "out of paper") else .ok "getter"

def tornScene : Scene :=
  { type := { name := "Player", properties := [vitals] }, structName := "Player", map := {}
    render := tornRenderer, style := {} }

def tornDraft : Draft := { buffer := {}, claimed := Claimed.forStruct "Player" }

/-- The getter is there without the setter, and the property is not tried again. -/
theorem vitals_halved :
    ∃ after failure code, (Emitter.property vitals).emit tornScene tornDraft = (after, .failed) ∧
      after.buffer = ((appendCode tornDraft.buffer code).comment
        ((Emitter.property vitals).complaint failure)).blank ∧
      after.claimed.names = ["set_Health", "get_Health"] ++ tornDraft.claimed.names ∧
      (Emitter.property vitals).emit tornScene after = (after, .pieces 0) := by
  let after := ((Emitter.property vitals).emit tornScene tornDraft).1
  have failed : (Emitter.property vitals).emit tornScene tornDraft = (after, .failed) :=
    Prod.ext rfl (by decide +kernel)
  obtain ⟨failure, codes, names, left, alone, halved, blocked⟩ := failed_member_replaced failed
  have some : codes ≠ [] := by
    intro none
    have size := congrArg (·.lines.size) (alone.mpr none)
    have four : after.buffer.lines.size = 4 := by decide +kernel
    simp [Buffer.blank, Buffer.comment, Buffer.line, four, tornDraft] at size
  obtain ⟨own, code, -, rfl, rfl⟩ := halved some
  have labels : (Emitter.property vitals).labels tornScene = ["get_Health", "set_Health"] := by
    decide +kernel
  refine ⟨after, failure, code, failed, left.buffer, ?_, blocked _ fun _ => .inl⟩
  rw [left.claimed, labels]
  rfl

end ProxyHeaders.Proxy
