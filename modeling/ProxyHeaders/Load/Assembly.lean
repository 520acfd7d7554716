import ProxyHeaders.Files.Disk
import ProxyHeaders.Metadata.Types

/-!
Assemblies on a disk, as far as a parser of executables can read them. All assemblies of a program
are in one directory, so whether a type of another assembly is an enum is found out by reading the
file of that name beside the first.
-/
namespace ProxyHeaders.Load

open ProxyHeaders.Files ProxyHeaders.Metadata

/-- A parser of executables, which opens the file at a path on its own. It says why it cannot parse
the file, or gives the tables of the managed code in it, if there is any. -/
abbrev Parser := Disk → Path → Except String (Option Tables)

inductive Unreadable where
  | unparsed (path : Path) (reason : String)
  | notManaged (path : Path)
  deriving DecidableEq, Repr

def Unreadable.message : Unreadable → String
  | .unparsed path reason => "dnfile could not parse " ++ path.display ++ ": " ++ reason
  | .notManaged path => path.display ++ " has no .NET metadata"

variable (parse : Parser)

def readTables (disk : Disk) (path : Path) : Except Unreadable Tables :=
  match parse disk path with
  | .error reason => .error (.unparsed path reason)
  | .ok none => .error (.notManaged path)
  | .ok (some tables) => .ok tables

def enumsIn (disk : Disk) (path : Path) : Except Metadata.Fault (List String) :=
  if !disk.isFile path then .ok []
  else match readTables parse disk path with
  | .error _ => .ok []
  | .ok tables => ({ tables } : Book).enumNames

def assemblySuffix : String := ".dll"

def isEnumBeside (disk : Disk) (directory : Option Path) (assembly : Option String)
    (fullName : String) : Except Metadata.Fault Bool :=
  match stated assembly, directory with
  | some assembly, some directory => do
    let enums ← enumsIn parse disk (directory.join (assembly ++ assemblySuffix))
    return enums.contains fullName
  | _, _ => .ok false

/-- What is needed to read the types of an assembly, with the calls that are left for signatures. -/
def openBook (levels : Nat) (disk : Disk) (path : Path) : Except Unreadable Book := do
  return { tables := ← readTables parse disk path
           isEnumElsewhere := isEnumBeside parse disk (some path.parent), levels }

end ProxyHeaders.Load
