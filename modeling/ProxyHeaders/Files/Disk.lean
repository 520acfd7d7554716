import ProxyHeaders.Files.Path
import ProxyHeaders.Text.Quoted
import ProxyHeaders.Text.Utf8

/-!
A tree of files, and what programs do to it. Everything is found by its place, the names on the
way down from the root.
-/
namespace ProxyHeaders.Files

abbrev Place := List String

inductive Content where
  | text (text : String)
  | bytes (bytes : ByteArray)
  deriving Inhabited

def Content.toBytes : Content → ByteArray
  | .text written => written.toUTF8
  | .bytes raw => raw

def Content.toText? : Content → Option String
  | .text written => some written
  | .bytes raw => Text.decodeUtf8? raw.toList

inductive Entry where
  | directory
  | file (content : Content)
  deriving Inhabited

def Entry.isDirectory : Entry → Bool
  | .directory => true
  | .file _ => false

structure Disk where
  entries : List (Place × Entry) := []
  here : Place := []
  deriving Inhabited

inductive Trouble where
  | missing
  | exists_
  | notDirectory
  | isDirectory
  /-- A path with a null character, which no system is asked about. -/
  | nullCharacter
  deriving DecidableEq, Repr, Inhabited

def Trouble.text : Trouble → String
  | .missing => "[Errno 2] No such file or directory"
  | .exists_ => "[Errno 17] File exists"
  | .notDirectory => "[Errno 20] Not a directory"
  | .isDirectory => "[Errno 21] Is a directory"
  | .nullCharacter => "embedded null byte"

def Trouble.isSystem : Trouble → Bool
  | .nullCharacter => false
  | _ => true

structure Failure where
  trouble : Trouble
  path : Path
  deriving DecidableEq, Repr, Inhabited

def Failure.message (failure : Failure) : String :=
  if failure.trouble.isSystem
    then failure.trouble.text ++ ": " ++ Text.quoted failure.path.display
    else failure.trouble.text

/-- Actions on a disk; one that fails leaves what it has done so far. -/
abbrev Action := EStateM Failure Disk

namespace Disk

def find? (disk : Disk) (place : Place) : Option Entry :=
  if place.isEmpty then some .directory else disk.entries.lookup place

def origin (disk : Disk) (path : Path) : Place := if path.isAbsolute then [] else disk.here

def walk (disk : Disk) : Place → List String → Except Trouble Place
  | place, [] => .ok place
  | place, name :: rest =>
    if name == ".." then walk disk place.dropLast rest
    else match disk.find? (place ++ [name]) with
    | some .directory => walk disk (place ++ [name]) rest
    | some (.file _) => .error .notDirectory
    | none => .error .missing

def locate (disk : Disk) (path : Path) : Except Trouble Place := do
  let above ← disk.walk (disk.origin path) path.parts.dropLast
  match path.parts.getLast? with
  | none => return above
  | some name => return if name == ".." then above.dropLast else above ++ [name]

def entryAt (disk : Disk) (path : Path) : Option Entry :=
  match disk.locate path with
  | .ok place => disk.find? place
  | .error _ => none

def isPresent (disk : Disk) (path : Path) : Bool := (disk.entryAt path).isSome

def isDirectory (disk : Disk) (path : Path) : Bool :=
  (disk.entryAt path).any Entry.isDirectory

def content? (disk : Disk) (path : Path) : Option Content :=
  match disk.entryAt path with
  | some (.file content) => some content
  | _ => none

def isFile (disk : Disk) (path : Path) : Bool := (disk.content? path).isSome

/-- The place of a path by its segments alone, whether or not there is anything. -/
def resolve (disk : Disk) (path : Path) : Place :=
  path.parts.foldl (fun place name => if name == ".." then place.dropLast else place ++ [name])
    (disk.origin path)

def put (disk : Disk) (place : Place) (entry : Entry) : Disk :=
  if (disk.entries.lookup place).isSome then
    { disk with entries := disk.entries.map fun (other, old) =>
        (other, if other == place then entry else old) }
  else { disk with entries := disk.entries ++ [(place, entry)] }

def drop (disk : Disk) (place : Place) : Disk :=
  { disk with entries := disk.entries.filter (·.1 != place) }

/-! Reading and changing. -/

def read (disk : Disk) (path : Path) : Except Failure Content :=
  match disk.locate path with
  | .error trouble => .error ⟨trouble, path⟩
  | .ok place =>
    match disk.find? place with
    | some (.file content) => .ok content
    | some .directory => .error ⟨.isDirectory, path⟩
    | none => .error ⟨.missing, path⟩

def makeDirectory (disk : Disk) (path : Path) : Except Failure Disk :=
  if path.hasNull then .error ⟨.nullCharacter, path⟩
  else match disk.locate path with
  | .error trouble => .error ⟨trouble, path⟩
  | .ok place =>
    if (disk.find? place).isSome then .error ⟨.exists_, path⟩
    else .ok (disk.put place .directory)

def write (disk : Disk) (path : Path) (content : Content) : Except Failure Disk :=
  if path.hasNull then .error ⟨.nullCharacter, path⟩
  else match disk.locate path with
  | .error trouble => .error ⟨trouble, path⟩
  | .ok place =>
    if (disk.find? place).any Entry.isDirectory then .error ⟨.isDirectory, path⟩
    else .ok (disk.put place (.file content))

def unlink (disk : Disk) (path : Path) : Except Failure Disk :=
  match disk.locate path with
  | .error trouble => .error ⟨trouble, path⟩
  | .ok place =>
    match disk.find? place with
    | some (.file _) => .ok (disk.drop place)
    | some .directory => .error ⟨.isDirectory, path⟩
    | none => .error ⟨.missing, path⟩

/-- Makes a directory if there is none; fails where there is something else. What the system says
against it does not matter where the directory is there. -/
def haveDirectory (disk : Disk) (path : Path) : Except Failure Disk :=
  match disk.makeDirectory path with
  | .ok disk => .ok disk
  | .error failure =>
    if failure.trouble.isSystem && failure.trouble != .missing && disk.isDirectory path then .ok disk
    else .error failure

end Disk

namespace Action

def blame {ε α : Type} (tell : Failure → ε) (action : Action α) : EStateM ε Disk α := fun disk =>
  match action disk with
  | .ok result disk => .ok result disk
  | .error failure disk => .error (tell failure) disk

def change (step : Disk → Except Failure Disk) : Action Unit := fun disk =>
  match step disk with
  | .ok disk => .ok () disk
  | .error failure => .error failure disk

/-- Makes a directory and all above it. The segments come last first. -/
def haveAll (anchor : String) : List String → Action Unit
  | [] => change fun disk => disk.haveDirectory ⟨anchor, []⟩
  | last :: above => fun disk =>
    let path : Path := ⟨anchor, (last :: above).reverse⟩
    match disk.haveDirectory path with
    | .ok disk => .ok () disk
    | .error failure =>
      if failure.trouble == .missing then
        (do haveAll anchor above; change fun disk => disk.haveDirectory path) disk
      else .error failure disk

def makeDirectories (path : Path) : Action Unit := haveAll path.anchor path.parts.reverse

def writeText (path : Path) (text : String) : Action Unit := do
  makeDirectories path.parent
  change fun disk => disk.write path (.text text)

def writeLines (path : Path) (lines : List String) : Action Unit :=
  writeText path (String.join (lines.map (· ++ "\n")))

def unlinkAll : List Path → Action Unit
  | [] => pure ()
  | path :: rest => do
    change fun disk => disk.unlink path
    unlinkAll rest

end Action

end ProxyHeaders.Files
