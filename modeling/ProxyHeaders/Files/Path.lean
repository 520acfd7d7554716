import ProxyHeaders.Text.Lines

/-!
Paths as they are written. Empty segments and `.` vanish, `..` stays until a disk is asked.
-/
namespace ProxyHeaders.Files

structure Path where
  anchor : String := ""
  parts : List String := []
  deriving DecidableEq, Repr, Inhabited

namespace Path

/-- Two slashes at the start stay two; any other number of them is one. -/
def anchorOf (text : String) : String :=
  if Text.startsWith text "//" && !Text.startsWith text "///" then "//"
  else if Text.startsWith text "/" then "/"
  else ""

def partsOf (text : String) : List String :=
  (Text.splitAtChar '/' text).filter fun part => !part.isEmpty && part != "."

def ofText (text : String) : Path := ⟨anchorOf text, partsOf text⟩

def display (path : Path) : String :=
  if path.anchor.isEmpty && path.parts.isEmpty then "."
  else path.anchor ++ "/".intercalate path.parts

def isAbsolute (path : Path) : Bool := !path.anchor.isEmpty

/-- What a text names from a directory; an absolute text needs no directory. -/
def join (path : Path) (text : String) : Path :=
  let below := ofText text
  if below.isAbsolute then below else { path with parts := path.parts ++ below.parts }

def parent (path : Path) : Path := { path with parts := path.parts.dropLast }

def hasNull (path : Path) : Bool := path.parts.any (·.toList.contains '\x00')

def name (path : Path) : String := path.parts.getLastD ""

/-- The end of a name from its last dot on, unless the dot is at either end of the name. -/
def suffixOf (name : List Char) : List Char :=
  let after := (name.reverse.takeWhile (· != '.')).reverse
  let before := name.length - after.length
  if before ≤ 1 || after.isEmpty then [] else '.' :: after

def suffix (path : Path) : String := String.ofList (suffixOf path.name.toList)

end Path

end ProxyHeaders.Files
