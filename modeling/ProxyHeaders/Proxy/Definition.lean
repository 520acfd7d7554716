import ProxyHeaders.Mapping.Base
import ProxyHeaders.Proxy.Enumeration
import ProxyHeaders.Proxy.Members
import ProxyHeaders.Settings.Basic

/-!
What a type contributes to its header: a struct with its members, an enum, or a comment on why
there is neither. A type is written apart from its header first, so a failure leaves nothing of
it behind but a comment.
-/
namespace ProxyHeaders.Proxy

open ProxyHeaders.Code ProxyHeaders.Mapping ProxyHeaders.Names ProxyHeaders.Template

/-- What all headers of a run are made from. No piece of a type is rendered twice, so a renderer
whose answers change from call to call is one that answers differently for different types. -/
structure Job where
  settings : Settings := {}
  map : TypeMap := {}
  render : Renderer := renderer
  renderFor : TypeDecl → Renderer := fun _ => render

namespace Job

def style (job : Job) : Style := ⟨job.settings.obfuscateMacro, job.settings.indent⟩

def defaultImage : String := "Assembly-CSharp.dll"

def image (job : Job) : String := (stated job.settings.imageName).getD defaultImage

end Job

inductive Definition where
  /-- The code of a type with its warnings; `complete` if the code has a body. -/
  | written (code : String) (messages : Diagnostics) (complete : Bool)
  | failed (failure : RenderFailure)

def kindWord (type : TypeDecl) : String := if type.isEnum then "enum" else "class"

def failureMessage (type : TypeDecl) (failure : RenderFailure) : String :=
  "Error generating " ++ kindWord type ++ " " ++ type.name ++ ": " ++ failure.message

def defineEnum (job : Job) (type : TypeDecl) : Definition :=
  let name := job.map.structName type.name
  match writeEnum job.map.sanitizer (job.renderFor type) job.style type name
      { unit := job.settings.indent } with
  | .ok buffer => .written buffer.text { warnings := enumWarnings job.map.sanitizer type } true
  | .error failure => .failed failure

def baseMessage (structName : String) : BaseClass → Option String
  | .missing source =>
    some ("REMOVED: Class '" ++ structName ++ "' inherits from removed base class '" ++ source ++
      "'")
  | .itself _ => some ("WARNING: Class '" ++ structName ++ "' inherits from its own class type")
  | .generated _ source _ =>
    some ("NOTE: Class '" ++ structName ++ "' inherits from other class type '" ++ source ++ "'")
  | .placeholder _ | .provided _ _ => none

def openStruct (buffer : Buffer) (structName base : String) (message : Option String) : Buffer :=
  let buffer := match message with
    | some message => buffer.comment message
    | none => buffer
  (buffer.line ("struct " ++ structName ++ " : " ++ base ++ " \x7b")).line "public:"

def closeStruct (buffer : Buffer) : Buffer := (buffer.line "\x7d;").blank

def defineClass (job : Job) (type : TypeDecl) : Definition :=
  let structName := job.map.structName type.name
  let base := job.map.resolveBase type
  let message := baseMessage structName base
  let messages : Diagnostics :=
    { warnings := (message.map (type.fullName ++ ": " ++ ·)).toList }
  let start : Buffer := { unit := job.settings.indent }
  match base.spelling? job.settings.placeholderBase with
  | none => .written ((start.comment (message.getD "")).blank).text messages false
  | some inherited =>
    let scene : Scene :=
      { type, structName, map := job.map, render := job.renderFor type, style := job.style }
    let draft : Draft :=
      { buffer := (openStruct start structName inherited message).indent
        claimed := Claimed.forStruct structName
        diagnostics := messages }
    match draft.addMembers scene job.image with
    | (draft, none) =>
      .written (closeStruct draft.buffer.dedent).text draft.diagnostics true
    | (_, some failure) => .failed failure

def define (job : Job) (type : TypeDecl) : Definition :=
  if type.isEnum then defineEnum job type else defineClass job type

namespace Definition

def isComplete : Definition → Bool
  | .written _ _ complete => complete
  | .failed _ => false

def messages (type : TypeDecl) : Definition → Diagnostics
  | .written _ messages _ => messages
  | .failed failure =>
    { warnings := [type.fullName ++ ": " ++ failureMessage type failure] }

def appendTo (type : TypeDecl) (buffer : Buffer) : Definition → Buffer
  | .written code _ _ => buffer.block code
  | .failed failure => (buffer.comment (failureMessage type failure)).blank

end Definition

end ProxyHeaders.Proxy
