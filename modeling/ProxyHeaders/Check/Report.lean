import ProxyHeaders.Check.Balance
import ProxyHeaders.Layout.Arrange

/-!
What there is to say against generated headers. Nothing of it stops a run.
-/
namespace ProxyHeaders.Check

open ProxyHeaders.Layout

/-- A remark about a header; line 0 stands for the whole of it. -/
structure Issue where
  path : String
  message : String
  line : Nat := 0
  deriving DecidableEq, Repr, Inhabited

def Issue.display (issue : Issue) : String :=
  (if issue.line = 0 then issue.path else issue.path ++ ":" ++ toString issue.line) ++ ": " ++
    issue.message

structure Report where
  filesChecked : Nat
  issues : List Issue
  deriving DecidableEq, Repr, Inhabited

namespace Report

def isClean (report : Report) : Bool := report.issues.isEmpty

def lines (report : Report) : List String :=
  ["Files checked: " ++ toString report.filesChecked,
    "Issues: " ++ toString report.issues.length] ++
  if report.isClean then [] else "" :: report.issues.map Issue.display

end Report

def checkHeader (resolveHeader path source : String) : List Issue :=
  if Text.isAllBlank source then [{ path, message := "file is empty" }]
  else
    (if Text.contains source "#pragma once" then []
      else [{ path, message := "missing '#pragma once'" }]) ++
    (if Text.contains source ("#include \"" ++ resolveHeader ++ "\"") then []
      else [{ path, message := "missing include of " ++ resolveHeader }]) ++
    (balance source).map fun problem => { path, message := problem.message, line := problem.line }

/-- The headers in the order of their paths; of two with one path the last counts. -/
def headersByPath (headers : List Header) : List Header :=
  let paths := (headers.map (·.path)).eraseDups.mergeSort fun a b => !(b < a)
  paths.filterMap fun path => headers.reverse.find? (·.path == path)

def checkHeaders (resolveHeader : String) (headers : List Header) : Report :=
  let headers := headersByPath headers
  if headers.isEmpty then
    { filesChecked := 0
      issues := [{ path := "<output>", message := "no headers were generated" }] }
  else
    { filesChecked := headers.length
      issues := headers.flatMap fun header =>
        checkHeader resolveHeader header.path header.content }

end ProxyHeaders.Check
