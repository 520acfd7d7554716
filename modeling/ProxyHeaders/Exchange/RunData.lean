import ProxyHeaders.Exchange.TypeData
import ProxyHeaders.Run

/-!
Runs as data: readers that are told what to find, and what a finished run has to tell.
-/
namespace ProxyHeaders

open Value (ofText? ofNat ofTexts)

def Load.Loader.ofData (value : Value) : Load.Loader :=
  { name := (value.field "name").asText
    isAvailable := (value.field "available").boolOr true
    load := fun _ _ =>
      match (value.field "error").text?, (value.field "crash").text? with
      | some reason, _ => .error (.refused reason)
      | none, some reason => .error (.broken (.other reason))
      | none, none =>
        match TypeDecl.allOfData (value.field "types") with
        | .ok types => .ok types
        | .error _ => .error (.broken (.metadata .badArity)) }

namespace Summary

def pathData (path : Option Files.Path) : Value := ofText? (path.map (·.display))

def toEntries (summary : Summary) : List (String × Value) := [
  ("assembly", .text summary.assembly.display),
  ("output_dir", .text summary.outputDirectory.display),
  ("backends", ofTexts summary.backends),
  ("loaded_count", ofNat summary.loadedCount),
  ("type_count", ofNat summary.typeCount),
  ("emitted_count", ofNat summary.emittedCount),
  ("written", ofTexts (summary.written.map (·.display))),
  ("warnings", ofTexts summary.warnings),
  ("warnings_path", pathData summary.warningsPath),
  ("validation", ((summary.validation.map (ofTexts ·.lines)).getD .none)),
  ("validation_path", pathData summary.validationPath)]

end Summary

end ProxyHeaders
