import ProxyHeaders.CommandLine.Session
import ProxyHeaders.Image.Rows
import Std.Time.Format

/-!
The program. It takes in what the arguments name on the disk, holds a session on that, and puts
what the session has changed back on the disk.
-/
namespace ProxyHeaders.Program

open CommandLine Files

def pathOf (place : Place) : String := "/" ++ "/".intercalate place

/-- Directories further down than this are left alone. -/
def deepest : Nat := 64

def takeFile (place : Place) (disk : Disk) : IO Disk := do
  return disk.put place (.file (.bytes (← IO.FS.readBinFile (pathOf place))))

def takeWay (place : Place) (disk : Disk) : IO Disk := do
  let mut disk := disk
  for size in List.range place.length do
    let above := place.take (size + 1)
    let entry : IO.FS.DirEntry := ⟨pathOf above.dropLast, above.getLastD ""⟩
    if ← entry.path.isDir then disk := disk.put above .directory
    else if ← entry.path.pathExists then disk ← takeFile above disk
  return disk

/-- Takes in what is in a directory, down to some depth. -/
def takeBelow (depth : Nat) (place : Place) (disk : Disk) : IO Disk := do
  match depth, disk.find? place with
  | depth + 1, some .directory =>
    let start : IO.FS.DirEntry := ⟨pathOf place, "."⟩
    let mut disk := disk
    for entry in ← start.path.readDir do
      let below := place ++ [entry.fileName]
      if ← entry.path.isDir then disk ← takeBelow depth below (disk.put below .directory)
      else disk ← takeFile below disk
    return disk
  | _, _ => return disk

def take (depth : Nat) (path : Path) (disk : Disk) : IO Disk := do
  let place := disk.resolve path
  takeBelow depth place (← takeWay place disk)

/-- All that a session with these arguments may ask for. -/
def diskFor (levels : Nat) (arguments : Arguments) : IO Disk := do
  let here := (Path.ofText (← IO.currentDir).toString).parts
  let mut disk : Disk ← takeWay here { here }
  for path in [arguments.config, arguments.logFile].filterMap id do
    disk ← take 0 (Path.ofText path) disk
  let input := Path.ofText arguments.input
  disk ← take 1 input.parent (← take 0 input disk)
  match Settings.load levels disk arguments.config arguments.overrides with
  | .ok settings => take deepest settings.outputPath disk
  | .error _ => return disk

def isKept (old : Option Entry) (entry : Entry) : Bool :=
  match old, entry with
  | some .directory, .directory => true
  | some (.file old), .file content => old.toBytes.toList == content.toBytes.toList
  | _, _ => false

/-- Puts back what has changed: what is gone goes first, the innermost before what it is in. -/
def putBack (before after : Disk) : IO Unit := do
  for (place, entry) in before.entries.reverse do
    if (after.find? place).isNone then
      match entry with
      | .file _ => IO.FS.removeFile (pathOf place)
      | .directory => IO.FS.removeDir (pathOf place)
  for (place, entry) in after.entries do
    if !isKept (before.find? place) entry then
      match entry with
      | .file content => IO.FS.writeBinFile (pathOf place) content.toBytes
      | .directory => IO.FS.createDir (pathOf place)

def crashText : Crash → String
  | .log failure | .report failure => failure.message
  | .settings _ => "The settings hold what cannot be used."
  | .markup => "A text ends a style that it has not begun."

def hold (arguments : Arguments) : IO UInt32 := do
  let now ← Std.Time.PlainDateTime.now
  let surroundings : Surroundings :=
    { time := now.format "uuuu-MM-dd HH:mm:ss,SSS", parser := some Image.parse }
  let before ← diskFor surroundings.levels arguments
  let (code, session, crash) := match start surroundings arguments { disk := before } with
    | .ok code session => (code, session, none)
    | .error crash session => (1, session, some crash)
  session.output.forM IO.println
  putBack before session.disk
  match crash with
  | some crash => IO.eprintln (crashText crash)
  | none => pure ()
  return code.toUInt32

end ProxyHeaders.Program

open ProxyHeaders.CommandLine in
def main (texts : List String) : IO UInt32 := do
  match parse texts with
  | .ok arguments => ProxyHeaders.Program.hold arguments
  | .error stop =>
    stop.output.forM IO.println
    stop.errors.forM IO.eprintln
    return stop.exitCode.toUInt32
