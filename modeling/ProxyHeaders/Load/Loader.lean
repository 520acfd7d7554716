import ProxyHeaders.Load.Assembly
import ProxyHeaders.Load.Backends
import ProxyHeaders.Reflection.Convert

/-!
Reading one assembly with several readers. What each of them finds counts; one that cannot read
the assembly is passed over unless all of them are.
-/
namespace ProxyHeaders.Load

open ProxyHeaders.Files

inductive Breakdown where
  | metadata (fault : Metadata.Fault)
  | reflection (fault : Reflection.Fault)
  | other (reason : String)
  deriving DecidableEq, Repr

def Breakdown.message : Breakdown → String
  | .metadata (.signature fault) => fault.message
  | .metadata .dangling => "list index out of range"
  | .metadata .tooDeep => "maximum recursion depth exceeded"
  | .metadata _ | .reflection _ => ""
  | .other reason => reason

inductive LoadFault where
  /-- The reader cannot read this assembly; another may. -/
  | refused (reason : String)
  | broken (breakdown : Breakdown)
  deriving DecidableEq, Repr

structure Loader where
  name : String
  isAvailable : Bool := true
  load : Disk → Path → Except LoadFault (List TypeDecl)

namespace Loader

def installFault : String := "dnfile is not installed"

variable (levels : Nat)

/-- Reads the tables of the file itself, if there is a parser for it. -/
def ofTables (parser : Option Parser) : Loader :=
  { name := Backend.tables.name, isAvailable := parser.isSome
    load := fun disk path =>
      match parser with
      | none => .error (.refused installFault)
      | some parse =>
        match openBook parse levels disk path with
        | .error fault => .error (.refused fault.message)
        | .ok book =>
          match book.readTypes {} with
          | .ok types _ => .ok types
          | .error fault _ => .error (.broken (.metadata fault)) }

def ofRuntime (runtime : Reflection.Availability) (offer : Path → Reflection.Offer) : Loader :=
  { name := Backend.reflection.name, isAvailable := runtime.isReady
    load := fun _ path =>
      match Reflection.offered runtime path.display (offer path) with
      | .error fault => .error (.refused fault.message)
      | .ok types =>
        match Reflection.convertTypes levels types [] with
        | .ok types _ => .ok types
        | .error fault _ => .error (.broken (.reflection fault)) }

def ofBackend (parser : Option Parser) : Backend → Loader
  | .reflection => ofRuntime levels .notInstalled fun _ => {}
  | _ => ofTables levels parser

def standard (parser : Option Parser) (useReflection : Bool) : List Loader :=
  (backendsOf useReflection).map (ofBackend levels parser)

end Loader

/-- What a reader has to say about an assembly. -/
inductive Answer where
  | unavailable
  | refused (reason : String)
  | found (types : List TypeDecl)
  | broken (breakdown : Breakdown)

def Loader.ask (loader : Loader) (disk : Disk) (path : Path) : Answer :=
  if !loader.isAvailable then .unavailable
  else match loader.load disk path with
  | .ok types => .found types
  | .error (.refused reason) => .refused reason
  | .error (.broken breakdown) => .broken breakdown

namespace Answer

def types? : Answer → Option (List TypeDecl)
  | .found types => some types
  | _ => none

def reason? : Answer → Option String
  | .unavailable => some "not available"
  | .refused reason => some reason
  | _ => none

def breakdown? : Answer → Option Breakdown
  | .broken breakdown => some breakdown
  | _ => none

end Answer

/-- The answers of readers by name, up to the first breakdown. -/
def answers (disk : Disk) (path : Path) : List Loader → List (String × Answer)
  | [] => []
  | loader :: rest =>
    let answer := loader.ask disk path
    (loader.name, answer) ::
      if answer.breakdown?.isSome then [] else answers disk path rest

structure Loaded where
  types : List TypeDecl
  used : List String

inductive LoadFailure where
  | broken (breakdown : Breakdown)
  /-- All readers were passed over, for these reasons. -/
  | unreadable (reasons : List String)
  deriving DecidableEq, Repr

def gather (answers : List (String × Answer)) : Except LoadFailure Loaded :=
  let reasons := answers.filterMap fun (name, answer) =>
    answer.reason?.map fun reason => name ++ ": " ++ reason
  match answers.findSome? (·.2.breakdown?) with
  | some breakdown => .error (.broken breakdown)
  | none =>
    if !reasons.isEmpty && reasons.length == answers.length then .error (.unreadable reasons)
    else .ok {
      types := answers.flatMap fun (_, answer) => answer.types?.getD []
      used := (answers.filter (·.2.types?.isSome)).map (·.1) }

end ProxyHeaders.Load
