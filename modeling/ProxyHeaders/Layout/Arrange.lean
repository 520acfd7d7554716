import ProxyHeaders.Layout.Sheet
import ProxyHeaders.Layout.UnitPath

/-!
The two ways to lay a run out: one header with everything, all declarations before all definitions;
or one header for each type, which declares the other types of its namespace.
-/
namespace ProxyHeaders.Layout

open ProxyHeaders.Code ProxyHeaders.Mapping ProxyHeaders.Proxy ProxyHeaders.Template

structure Header where
  path : String
  content : String
  deriving DecidableEq, Repr, Inhabited

def preamble (job : Job) (includes : List String) : Except RenderFailure String :=
  job.render job.style
    (.preamble job.settings.usingSpaces job.settings.resolveHeader includes)

def startSheet (job : Job) (opening : String) : Buffer :=
  (({ unit := job.settings.indent } : Buffer).block opening).blank

namespace Sheet

def declareGroup (job : Job) (sheet : Sheet) (group : Group) : Sheet :=
  match group.space with
  | none => ((sheet.comment "Global namespace types").declareAll job group.types).blank
  | some space => (sheet.inside space fun sheet => sheet.declareAll job group.types).blank

def defineGroup (job : Job) (sheet : Sheet) (group : Group) : Sheet :=
  match group.space with
  | none => (sheet.defineAll job group.types).blank
  | some space => (sheet.inside space fun sheet => sheet.defineAll job group.types).blank

def combined (job : Job) (groups : List Group) (sheet : Sheet) : Sheet :=
  let sheet := groups.foldl (declareGroup job) (sheet.comment "Forward declarations")
  groups.foldl (defineGroup job) sheet

def declareOthers (job : Job) (sheet : Sheet) (others : List TypeDecl) : Sheet :=
  if others.isEmpty then sheet
  else
    ((sheet.comment "Forward declarations for other types in this namespace").declareAll job
      others).blank

def single (job : Job) (group : Group) (type : TypeDecl) (sheet : Sheet) : Sheet :=
  let others := group.types.filter (·.fullName != type.fullName)
  match group.space with
  | none => (sheet.declareOthers job others).define job type
  | some space => sheet.inside space fun sheet => (sheet.blank.declareOthers job others).define job type

end Sheet

/-- What has been laid out: the headers, and the sheet of the last one with the run's messages. -/
structure Arranged where
  headers : List Header := []
  sheet : Sheet := {}
  deriving Inhabited

def combine (job : Job) (groups : List Group) : Except RenderFailure Arranged := do
  let opening ← preamble job []
  let sheet := Sheet.combined job groups { buffer := startSheet job opening }
  return { headers := [⟨job.settings.combinedFileName, sheet.buffer.text⟩], sheet }

/-- Adds the header of one type. What has been defined stays so, declarations start anew. -/
def addHeader (job : Job) (arranged : Arranged) (group : Group) (type : TypeDecl) :
    Except RenderFailure Arranged := do
  let opening ← preamble job (baseInclude job.map type).toList
  let start := { arranged.sheet with buffer := startSheet job opening, declared := [] }
  let sheet := start.single job group type
  return { headers := arranged.headers ++ [⟨unitPath job.map type, sheet.buffer.text⟩], sheet }

def split (job : Job) (groups : List Group) : Except RenderFailure Arranged :=
  (groups.flatMap fun group => group.types.map fun type => (group, type)).foldlM
    (fun arranged (group, type) => addHeader job arranged group type) {}

def arrange (job : Job) (types : List TypeDecl) : Except RenderFailure Arranged :=
  let groups := groups job.map types
  if job.settings.singleFile then combine job groups else split job groups

end ProxyHeaders.Layout
