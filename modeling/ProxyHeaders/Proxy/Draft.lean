import ProxyHeaders.Code.Buffer
import ProxyHeaders.Code.Diagnostics
import ProxyHeaders.Mapping.TypeMap
import ProxyHeaders.Names.Claimed
import ProxyHeaders.Template.Fragment

/-!
A struct while it is written. What a member contributes is planned first, without writing
anything: nothing, a comment that says why it is left out, or pieces of code with the names they
take. Carrying out a plan can fail only where a piece is rendered; what was written and claimed
before the failure stays.
-/
namespace ProxyHeaders.Proxy

open ProxyHeaders.Code ProxyHeaders.Mapping ProxyHeaders.Names ProxyHeaders.Template

/-- What stays the same while one struct is written. -/
structure Scene where
  type : TypeDecl
  structName : String
  map : TypeMap
  render : Renderer
  style : Style

/-- The full name of the type, by which its own mentions are recognized. -/
def Scene.owner (scene : Scene) : String := scene.type.fullName

structure Draft where
  buffer : Buffer
  claimed : Claimed
  diagnostics : Diagnostics := {}
  deriving Inhabited

structure Piece where
  claims : Option String
  fragment : Fragment
  deriving DecidableEq, Repr, Inhabited

inductive Plan where
  | skip
  | reject (message : String)
  | write (pieces : List Piece)
  deriving DecidableEq, Repr, Inhabited

namespace Draft

/-- Leaves a comment in the struct and records it as a warning. -/
def reject (scene : Scene) (draft : Draft) (message : String) : Draft :=
  { draft with
    buffer := (draft.buffer.comment message).blank
    diagnostics := draft.diagnostics.warn (scene.owner ++ ": " ++ message) }

def claim (draft : Draft) (name : Option String) : Draft :=
  match name with
  | some name => { draft with claimed := draft.claimed.claim name }
  | none => draft

def append (draft : Draft) (code : String) : Draft :=
  { draft with buffer := (draft.buffer.block code).blank }

/-- Claims and renders one piece after the other, up to the first that fails. -/
def write (scene : Scene) (draft : Draft) : List Piece → Draft × Option RenderFailure
  | [] => (draft, none)
  | piece :: rest =>
    let draft := draft.claim piece.claims
    match scene.render scene.style piece.fragment with
    | .ok code => write scene (draft.append code) rest
    | .error failure => (draft, some failure)

/-- What became of a member: how many pieces of it were written, or that rendering failed. -/
inductive Written where
  | pieces (count : Nat)
  | failed
  deriving DecidableEq, Repr

/-- Carries out the plan for a member. Failure to render leaves a comment and a warning. -/
def perform (scene : Scene) (draft : Draft) (what name : String) : Plan → Draft × Written
  | .skip => (draft, .pieces 0)
  | .reject message => (draft.reject scene message, .pieces 0)
  | .write pieces =>
    match draft.write scene pieces with
    | (draft, none) => (draft, .pieces pieces.length)
    | (draft, some failure) =>
      let message := "Error generating " ++ what ++ " for " ++ name ++ ": " ++ failure.message
      (draft.reject scene message, .failed)

end Draft

end ProxyHeaders.Proxy
