import ProxyHeaders.Code.Format
import ProxyHeaders.Layout.Arrange

/-!
Generating the headers for the types of a run, as if calls could be nested as deeply as types lie inside
one another and bases behind one another.
-/
namespace ProxyHeaders

open ProxyHeaders.Layout ProxyHeaders.Mapping ProxyHeaders.Names ProxyHeaders.Proxy
  ProxyHeaders.Template

structure Generation where
  headers : List Header
  warnings : List String
  typeCount : Nat
  emittedCount : Nat
  singleFile : Bool
  imageName : String
  deriving DecidableEq, Repr, Inhabited

namespace Generation

def language : String := "cpp"

def unitCount (generation : Generation) : Nat := generation.headers.length

def layoutWord (generation : Generation) : String :=
  if generation.singleFile then "combined" else "split"

end Generation

/-- The job of a run: the types it is given are those that its headers declare. -/
def jobFor (settings : Settings) (sanitizer : Sanitizer) (render : Renderer)
    (types : List TypeDecl) : Job :=
  { settings, render
    map := ({ allowed := settings.allowedSpaces, sanitizer } : TypeMap).declareAll types }

def generateOn (job : Job) (types : List TypeDecl) : Except RenderFailure Generation := do
  let arranged ← arrange job types
  return {
    headers := arranged.headers.map fun header =>
      { header with content := Code.format header.content }
    warnings := arranged.sheet.diagnostics.lines
    typeCount := types.length
    emittedCount := arranged.sheet.bodies
    singleFile := job.settings.singleFile
    imageName := job.image }

def generateWith (settings : Settings) (sanitizer : Sanitizer) (render : Renderer)
    (types : List TypeDecl) : Except RenderFailure Generation :=
  generateOn (jobFor settings sanitizer render types) types

/-- A run whose renderer may answer differently for each type; `opening` renders the preambles. -/
def generateEach (settings : Settings) (sanitizer : Sanitizer) (opening : Renderer)
    (render : TypeDecl → Renderer) (types : List TypeDecl) : Except RenderFailure Generation :=
  generateOn { jobFor settings sanitizer opening types with renderFor := render } types

def generate (settings : Settings) (render : Renderer) (types : List TypeDecl) :
    Except RenderFailure Generation :=
  generateWith settings Sanitizer.forHeaders render types

def generationFailure (failure : RenderFailure) : String :=
  "Header generation failed: " ++ failure.message

/-! One generator for several runs keeps the identifiers that it has answered. -/

structure Generator where
  settings : Settings := {}
  render : Renderer := renderer
  sanitizer : Sanitizer := Sanitizer.forHeaders

/-- Every name that an identifier may be made of while a type's header is written. -/
def namesIn (type : TypeDecl) : List String :=
  [cleanName type.name] ++ type.enumMembers.map (·.name) ++ type.fields.map (·.name) ++
  type.properties.map (·.name) ++ type.methods.map (·.name) ++
  type.methods.flatMap fun method => Sanitizer.statedNames (method.parameters.map (·.name))

namespace Generator

def remember (generator : Generator) (types : List TypeDecl) : Generator :=
  { generator with sanitizer := generator.sanitizer.keepAll (types.flatMap namesIn) }

def run (generator : Generator) (types : List TypeDecl) :
    Except RenderFailure Generation × Generator :=
  (generateWith generator.settings generator.sanitizer generator.render types,
    generator.remember types)

end Generator

end ProxyHeaders
