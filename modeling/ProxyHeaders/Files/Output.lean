import ProxyHeaders.Files.Disk
import ProxyHeaders.Layout.Arrange

/-!
The directory that receives headers: whether it may be cleaned, cleaning it of what an earlier
run left, and writing to it.
-/
namespace ProxyHeaders.Files

open ProxyHeaders.Layout

namespace Disk

/-- A directory is protected if it is the one that paths start from or holds it, or if it holds
one of the paths that have to survive. -/
def isProtected (disk : Disk) (directory : Path) (survivors : List Path) : Bool :=
  let target := disk.resolve directory
  target.isPrefixOf disk.here || survivors.any fun path => target.isPrefixOf (disk.resolve path)

def isBelow (root place : Place) : Bool := root.isPrefixOf place && root != place

def headersBelow (disk : Disk) (root : Place) : List Place :=
  (disk.entries.filter fun (place, entry) =>
    isBelow root place && !entry.isDirectory && Text.endsWith (place.getLastD "") headerSuffix).map
    (·.1)

def directoriesBelow (disk : Disk) (root : Place) : List Place :=
  ((disk.entries.filter fun (place, entry) => isBelow root place && entry.isDirectory).map
    (·.1)).mergeSort fun first second => second.length ≤ first.length

def beneath (disk : Disk) (directory : Path) (place : Place) : Path :=
  { directory with parts := directory.parts ++ place.drop (disk.resolve directory).length }

def dropIfEmpty (disk : Disk) (path : Path) : Except Failure Disk :=
  match disk.locate path with
  | .error trouble => .error ⟨trouble, path⟩
  | .ok place =>
    match disk.find? place with
    | some .directory =>
      .ok (if disk.entries.any fun (other, _) => isBelow place other then disk else disk.drop place)
    | some (.file _) => .error ⟨.notDirectory, path⟩
    | none => .error ⟨.missing, path⟩

end Disk

namespace Action

def dropAllEmpty : List Path → Action Unit
  | [] => pure ()
  | path :: rest => do
    change fun disk => disk.dropIfEmpty path
    dropAllEmpty rest

/-- Removes all headers below a directory and the artifacts named, then empty directories.
Gives how many files were to go. -/
def removeGenerated (directory : Path) (artifacts : List String) : Action Nat := do
  let disk ← get
  let root := disk.resolve directory
  let headers := if disk.isDirectory directory then disk.headersBelow root else []
  let stale := headers.map (disk.beneath directory) ++
    (artifacts.map directory.join).filter disk.isFile
  unlinkAll stale
  let disk ← get
  let inside := if disk.isDirectory directory then disk.directoriesBelow root else []
  dropAllEmpty (inside.map (disk.beneath directory))
  return stale.length

def prepare (directory : Path) (clean : Bool) (survivors : List Path)
    (artifacts : List String) : Action Unit := do
  let disk ← get
  if clean && disk.isPresent directory && !disk.isProtected directory survivors then
    let _ ← removeGenerated directory artifacts
  makeDirectories directory

end Action

inductive OutputFault where
  | notPrepared (directory : Path) (failure : Failure)
  | notWritten (path : Path) (failure : Failure)
  /-- Nothing that a system says. -/
  | unforeseen (failure : Failure)
  deriving DecidableEq, Repr

namespace OutputFault

def message : OutputFault → String
  | .notPrepared directory failure =>
    "Cannot prepare output directory " ++ directory.display ++ ": " ++ failure.message
  | .notWritten path failure => "Error writing " ++ path.display ++ ": " ++ failure.message
  | .unforeseen failure => failure.message

/-- A failure as the fault of what it happened to, if it is one that a system tells. -/
def expecting (tell : Failure → OutputFault) (failure : Failure) : OutputFault :=
  if failure.trouble.isSystem then tell failure else .unforeseen failure

end OutputFault

abbrev Writing := EStateM OutputFault Disk

def prepareOutput (directory : Path) (clean : Bool) (survivors : List Path)
    (artifacts : List String) : Writing Unit :=
  (Action.prepare directory clean survivors artifacts).blame (.expecting (.notPrepared directory))

def writeHeaders (directory : Path) : List Header → Writing (List Path)
  | [] => return []
  | header :: rest => do
    let path := directory.join header.path
    (Action.writeText path header.content).blame (.expecting (.notWritten path))
    return path :: (← writeHeaders directory rest)

end ProxyHeaders.Files
