import ProxyHeaders.Layout.Group
import ProxyHeaders.Proxy.Definition

/-!
A header while it is laid out. A type is declared once in a header and defined once in a run.
-/
namespace ProxyHeaders.Layout

open ProxyHeaders.Code ProxyHeaders.Mapping ProxyHeaders.Proxy

structure Sheet where
  buffer : Buffer := {}
  /-- The types declared in this header, and those that the run has defined, by full name. -/
  declared : List String := []
  defined : List String := []
  diagnostics : Diagnostics := {}
  /-- How many of the types have a body. -/
  bodies : Nat := 0
  deriving Inhabited

def forwardDeclaration (map : TypeMap) (type : TypeDecl) : String :=
  let name := map.structName type.name
  if type.isEnum then
    "enum class " ++ name ++ " : " ++ underlyingSpelling type.enumUnderlying ++ ";"
  else "struct " ++ name ++ ";"

namespace Sheet

def blank (sheet : Sheet) : Sheet := { sheet with buffer := sheet.buffer.blank }

def line (sheet : Sheet) (text : String) : Sheet := { sheet with buffer := sheet.buffer.line text }

def comment (sheet : Sheet) (text : String) : Sheet :=
  { sheet with buffer := sheet.buffer.comment text }

def declare (job : Job) (sheet : Sheet) (type : TypeDecl) : Sheet :=
  if sheet.declared.contains type.fullName then sheet
  else
    { sheet with
      buffer := sheet.buffer.line (forwardDeclaration job.map type)
      declared := type.fullName :: sheet.declared }

def define (job : Job) (sheet : Sheet) (type : TypeDecl) : Sheet :=
  if sheet.defined.contains type.fullName then sheet
  else
    let definition := Proxy.define job type
    { sheet with
      buffer := definition.appendTo type sheet.buffer
      defined := type.fullName :: sheet.defined
      diagnostics := sheet.diagnostics.extend (definition.messages type)
      bodies := sheet.bodies + (if definition.isComplete then 1 else 0) }

def declareAll (job : Job) (sheet : Sheet) (types : List TypeDecl) : Sheet :=
  types.foldl (declare job) sheet

def defineAll (job : Job) (sheet : Sheet) (types : List TypeDecl) : Sheet :=
  types.foldl (define job) sheet

def opening (space : String) : String := "namespace " ++ scopeOf (some space) ++ " \x7b"

def inside (sheet : Sheet) (space : String) (write : Sheet → Sheet) : Sheet :=
  let sheet := sheet.line (opening space)
  let sheet := write { sheet with buffer := sheet.buffer.indent }
  { sheet with buffer := sheet.buffer.dedent.line "\x7d" }

end Sheet

end ProxyHeaders.Layout
