import ProxyHeaders.CommandLine.Help
import ProxyHeaders.Console.Figure
import ProxyHeaders.Console.Markup
import ProxyHeaders.Log
import ProxyHeaders.Run
import ProxyHeaders.Settings.Load

/-!
A command line from its arguments to its exit code: what is printed on the way, and what becomes
of the disk.
-/
namespace ProxyHeaders.CommandLine

open ProxyHeaders.Console ProxyHeaders.Files

/-- What ends a session without an exit code. -/
inductive Crash where
  /-- The log file cannot be opened. -/
  | log (failure : Failure)
  /-- The settings hold what nothing here expects. -/
  | settings (fault : Settings.Fault)
  /-- A text closes a style that it has not opened. -/
  | markup
  /-- The report on a fault cannot be written, for a reason that no system has. -/
  | report (failure : Failure)

structure Session where
  output : List String := []
  disk : Disk

abbrev Talk := EStateM Crash Session

/-- What a session depends on beside its arguments and the disk. -/
structure Surroundings where
  /-- The time that records in the log start with. -/
  time : String := Log.timeForm
  /-- How many calls may stand within one another. -/
  levels : Nat := 980
  render : Template.Renderer := Template.renderer
  /-- Where a fault comes from, as the language tells it. -/
  trace : RunFault → String := fun fault => fault.message ++ "\n"
  /-- The parser of executables, if there is one. -/
  parser : Option Load.Parser := none
  /-- The readers of a run. -/
  loaders : Settings → List Load.Loader := fun settings =>
    Load.Loader.standard levels parser settings.useReflection

namespace Talk

def printLines (lines : List String) : Talk Unit :=
  modify fun session => { session with output := session.output ++ lines }

def text (markup : String) : Talk String :=
  match plain? markup with
  | some text => return text
  | none => throw .markup

def print (markup : String) : Talk Unit := do printLines (wrap terminalWidth (← text markup))

def onDisk {α : Type} (change : Disk → α × Disk) : Talk α :=
  modifyGet fun session =>
    let (result, disk) := change session.disk
    (result, { session with disk })

end Talk

open Talk

/-- Opens the log file, which keeps what it holds. -/
def openLog (path : Path) : Talk Unit := do
  let disk := (← get).disk
  -- The path is settled first, whether or not there is anything on the way.
  let place : Path := ⟨"/", disk.resolve path⟩
  match disk.read place with
  | .ok _ => return
  | .error failure =>
    if failure.trouble != .missing then throw (.log failure)
    match disk.write place (.text "") with
    | .ok disk => modify fun session => { session with disk }
    | .error failure => throw (.log failure)

def record (surroundings : Surroundings) (log : Option Path) (record : Log.Record) : Talk Unit := do
  match log with
  | none => return
  | some path =>
    let disk := (← get).disk
    let place : Path := ⟨"/", disk.resolve path⟩
    let line := surroundings.time ++ " " ++ Log.fileLine record ++ "\n"
    let before := ((disk.content? place).bind Content.toText?).getD ""
    match disk.write place (.text (before ++ line)) with
    | .ok disk => modify fun session => { session with disk }
    | .error _ => return

def loadSettings (levels : Nat) (arguments : Arguments) :
    Talk (Except Settings.Refusal Settings) := do
  match Settings.load levels (← get).disk arguments.config arguments.overrides with
  | .ok settings => return .ok settings
  | .error (.refused refusal) => return .error refusal
  | .error fault => throw (.settings fault)

def listedWarnings : Nat := 10

def summaryTable (summary : Summary) : Talk (List String) := do
  let backends := (stated (", ".intercalate summary.backends)).getD "-"
  return table "📊 Generation Summary" ("Property", "Value") [
    ("Assembly", ← text summary.assembly.display),
    ("Backends", ← text backends),
    ("Types Loaded", toString summary.loadedCount),
    ("Types Processed", toString summary.typeCount),
    ("Types Emitted", toString summary.emittedCount),
    ("Files Written", toString summary.written.length),
    ("Warnings", toString summary.warnings.length)]

def displayPath (path : Option Path) : String := (path.map Path.display).getD "None"

def printWarnings (summary : Summary) : Talk Unit := do
  if summary.warnings.isEmpty then return
  print "\n[yellow]⚠️  Warnings:[/yellow]"
  (summary.warnings.take listedWarnings).forM fun warning =>
    print ("  [yellow]•[/yellow] " ++ escape warning)
  let remaining := summary.warnings.length - listedWarnings
  if remaining > 0 then print ("  [dim]... and " ++ toString remaining ++ " more[/dim]")
  print ("All warnings saved to: [cyan]" ++ displayPath summary.warningsPath ++ "[/cyan]")

def printValidation (summary : Summary) : Talk Unit := do
  match summary.validation with
  | none => return
  | some report =>
    if report.isClean then print "[green]✓[/green] Validation passed"
    else print ("[yellow]⚠️  Validation found " ++ toString report.issues.length ++
      " issue(s), see " ++ displayPath summary.validationPath ++ "[/yellow]")

def printSummary (summary : Summary) (settings : Settings) : Talk Unit := do
  let table ← summaryTable summary
  printLines ("" :: table)
  printWarnings summary
  printValidation summary
  let target := if settings.singleFile
    then summary.outputDirectory.join settings.combinedFileName else summary.outputDirectory
  let saved ← text ("[bold]C++ headers saved to:[/bold] [cyan]" ++ target.display ++ "[/cyan]")
  printLines ("" :: panel "✓ Done" saved)

def faultHeading : RunFault → String
  | .noAssembly _ | .unreadable _ | .nothingToGenerate _ => "Error:"
  | .generation _ | .output _ => "Generation failed:"
  | .broken _ | .disk _ => "Unexpected error:"

def leaveReport (surroundings : Surroundings) (settings : Settings) (fault : RunFault) :
    Talk (Option Path) := fun session =>
  match Run.reportFault settings fault (surroundings.trace fault) session.disk with
  | .ok report disk => .ok report { session with disk }
  | .error failure disk => .error (.report failure) { session with disk }

def printFault (surroundings : Surroundings) (settings : Settings) (fault : RunFault) :
    Talk Unit := do
  print ("[red]✗ " ++ faultHeading fault ++ "[/red] " ++ fault.message)
  if fault matches .noAssembly _ then
    print "[dim]Please make sure the assembly exists (default location: ./Files).[/dim]"
  match ← leaveReport surroundings settings fault with
  | some path => print ("[dim]Error details saved to: " ++ path.display ++ "[/dim]")
  | none => return

def generateAll (surroundings : Surroundings) (settings : Settings) (input : String) :
    Talk (Except RunFault Summary) :=
  onDisk fun disk =>
    match Run.run settings surroundings.render (surroundings.loaders settings) input disk with
    | .ok summary disk => (.ok summary, disk)
    | .error fault disk => (.error fault, disk)

def runWith (surroundings : Surroundings) (arguments : Arguments) (log : Option Path)
    (settings : Settings) : Talk Nat := do
  print ("Running in " ++ (if settings.singleFile then "single file" else "folder") ++ " mode...")
  record surroundings log
    { level := Log.debugLevel, logger := "utils"
      message := "Looking for assembly: " ++ (Path.ofText arguments.input).display }
  let result ← generateAll surroundings settings arguments.input
  printLines [""]
  match result with
  | .ok summary => do printSummary summary settings; return 0
  | .error fault => do printFault surroundings settings fault; return 1

def start (surroundings : Surroundings) (arguments : Arguments) : Talk Nat := do
  let log := (stated arguments.logFile).map Path.ofText
  match log with
  | some path => openLog path
  | none => pure ()
  match ← loadSettings surroundings.levels arguments with
  | .error refusal =>
    print ("[red]✗ Configuration error:[/red] " ++ refusal.message)
    return 1
  | .ok settings => runWith surroundings arguments log settings

end ProxyHeaders.CommandLine
