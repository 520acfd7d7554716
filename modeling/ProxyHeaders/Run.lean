import ProxyHeaders.Check.Report
import ProxyHeaders.Files.Output
import ProxyHeaders.Generate
import ProxyHeaders.Load.Loader
import ProxyHeaders.Selection

/-!
A whole run: from the assembly on a disk to the headers on it. Everything that may fail before
the first write comes before the first write.
-/
namespace ProxyHeaders

open ProxyHeaders.Files

inductive RunFault where
  | noAssembly (path : Path)
  | unreadable (reasons : List String)
  | broken (breakdown : Load.Breakdown)
  | nothingToGenerate (path : Path)
  | generation (failure : Template.RenderFailure)
  | output (fault : OutputFault)
  | disk (failure : Failure)

def RunFault.message : RunFault → String
  | .noAssembly path => path.display ++ " not found."
  | .unreadable reasons =>
    "No metadata backend could read the assembly (" ++ "; ".intercalate reasons ++ ")"
  | .broken breakdown => breakdown.message
  | .nothingToGenerate path => "No valid types found to process in " ++ path.display
  | .generation failure => generationFailure failure
  | .output fault => fault.message
  | .disk failure => failure.message

/-- What goes wrong with the output is told as that, unless nobody foresaw it. -/
def RunFault.ofOutput : OutputFault → RunFault
  | .unforeseen failure => .disk failure
  | fault => .output fault

structure Summary where
  assembly : Path
  outputDirectory : Path
  backends : List String
  loadedCount : Nat
  typeCount : Nat
  emittedCount : Nat
  written : List Path
  warnings : List String
  warningsPath : Option Path
  validation : Option Check.Report
  validationPath : Option Path

namespace Settings

def outputPath (settings : Settings) : Path := .ofText settings.outputDir

def artifacts (settings : Settings) : List String :=
  [settings.warningsFile, settings.validationReportFile, settings.errorFile]

/-- The settings with the image name that an assembly gives where none is said. -/
def forAssembly (settings : Settings) (assembly : Path) : Settings :=
  { settings with imageName := some ((stated settings.imageName).getD assembly.name) }

end Settings

namespace Run

def findAssembly (disk : Disk) (text : String) : Except RunFault Path :=
  let path := Path.ofText text
  if disk.isFile path then .ok path else .error (.noAssembly path)

structure Plan where
  assembly : Path
  loaded : Load.Loaded
  types : List TypeDecl
  generation : Generation

def plan (settings : Settings) (render : Template.Renderer) (loaders : List Load.Loader)
    (disk : Disk) (input : String) : Except RunFault Plan := do
  let assembly ← findAssembly disk input
  let loaded ← match Load.gather (Load.answers disk assembly loaders) with
    | .ok loaded => .ok loaded
    | .error (.broken breakdown) => .error (.broken breakdown)
    | .error (.unreadable reasons) => .error (.unreadable reasons)
  let types := Selection.select loaded.types
  if types.isEmpty then throw (.nothingToGenerate assembly)
  match generate (settings.forAssembly assembly) render types with
  | .ok generation => return { assembly, loaded, types, generation }
  | .error failure => .error (.generation failure)

abbrev Step := EStateM RunFault Disk

def writeReport (settings : Settings) (name : String) (lines : List String) : Step Path := do
  let path := settings.outputPath.join name
  (Action.writeLines path lines).blame .disk
  return path

/-- Writes what is planned. Headers of their own replace those of the run before; one header for
everything replaces only itself. -/
def write (settings : Settings) (plan : Plan) : Step Summary := do
  let directory := settings.outputPath
  let headers := plan.generation.headers
  let warnings := plan.generation.warnings
  let blame {α : Type} (writing : Writing α) : Step α := fun disk =>
    match writing disk with
    | .ok result disk => .ok result disk
    | .error fault disk => .error (.ofOutput fault) disk
  blame (prepareOutput directory (!settings.singleFile) [plan.assembly] settings.artifacts)
  let written ← blame (writeHeaders directory headers)
  let warningsPath ← if warnings.isEmpty then pure none
    else some <$> writeReport settings settings.warningsFile warnings
  let validation := if settings.validateOutput
    then some (Check.checkHeaders settings.resolveHeader headers) else none
  let validationPath ← match validation with
    | none => pure none
    | some report => some <$> writeReport settings settings.validationReportFile report.lines
  return {
    assembly := plan.assembly, outputDirectory := directory, backends := plan.loaded.used
    loadedCount := plan.loaded.types.length, typeCount := plan.types.length
    emittedCount := plan.generation.emittedCount, written, warnings, warningsPath
    validation, validationPath }

def run (settings : Settings) (render : Template.Renderer) (loaders : List Load.Loader)
    (input : String) : Step Summary := fun disk =>
  match plan settings render loaders disk input with
  | .error fault => .error fault disk
  | .ok plan => write settings plan disk

/-- What a report says: the fault, and where it comes from, as the language traces it. -/
def faultReport (fault : RunFault) (trace : String) : String :=
  "Error processing assembly: " ++ fault.message ++ "\n\nFull Exception:\n" ++ trace

def reportPath (settings : Settings) : Path := settings.outputPath.join settings.errorFile

/-- Leaves a report on a fault in the output directory. Gives its path, or nothing if the system
does not let it be written. -/
def reportFault (settings : Settings) (fault : RunFault) (trace : String) :
    Action (Option Path) := fun disk =>
  let path := reportPath settings
  match Action.writeText path (faultReport fault trace) disk with
  | .ok _ disk => .ok (some path) disk
  | .error failure disk =>
    if failure.trouble.isSystem then .ok none disk else .error failure disk

end Run

end ProxyHeaders
