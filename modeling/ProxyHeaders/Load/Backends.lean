import ProxyHeaders.Text.Case

/-!
The readers of assemblies that can be asked for by name. Names differ in more than case.
-/
namespace ProxyHeaders.Load

inductive Backend where
  /-- Reads the tables of the file itself. -/
  | tables
  /-- Asks the managed runtime about the types that it has loaded. -/
  | reflection
  /-- What every reader has in common; there is no reader that is nothing else. -/
  | common
  /-- Something that is no kind of reader. -/
  | unsuitable
  deriving DecidableEq, Repr, Inhabited

inductive BackendFault where
  | unsuitable
  | unknown (name : String) (available : List String)
  | notConcrete
  deriving DecidableEq, Repr

def BackendFault.message : BackendFault → String
  | .unsuitable => "Loader class must inherit from MetadataLoader"
  | .unknown name available =>
    "No metadata backend registered as: " ++ name ++ ". Available: " ++ ", ".intercalate available
  | .notConcrete => ""

abbrev Backends := List (String × Backend)

namespace Backends

/-- Puts a reader under a name; one that is there already stays unless it is to be replaced. -/
def register (backends : Backends) (name : String) (backend : Backend) (replace : Bool) :
    Except BackendFault Backends :=
  let key := Text.lower name
  if backend == .unsuitable then .error .unsuitable
  else if (List.lookup key backends).isNone then .ok (backends ++ [(key, backend)])
  else if replace then
    .ok (backends.map fun (other, old) => (other, if other == key then backend else old))
  else .ok backends

def names (backends : Backends) : List String :=
  (List.map Prod.fst backends).mergeSort fun a b => !(b < a)

def get (backends : Backends) (name : String) : Except BackendFault Backend :=
  match List.lookup (Text.lower name) backends with
  | some backend => .ok backend
  | none => .error (.unknown name backends.names)

def create (backends : Backends) (name : String) : Except BackendFault Backend := do
  let backend ← backends.get name
  if backend == .common then .error .notConcrete else return backend

def provided : Backends := [("dnfile", .tables), ("reflection", .reflection)]

end Backends

def Backend.name : Backend → String
  | .tables => "dnfile"
  | .reflection => "reflection"
  | .common | .unsuitable => ""

def backendsOf (useReflection : Bool) : List Backend :=
  if useReflection then [.reflection, .tables] else [.tables]

end ProxyHeaders.Load
