import ProxyHeaders.Text.Lines

/-!
Text that is written line by line behind an indentation.
-/
namespace ProxyHeaders.Code

structure Buffer where
  unit : String := "    "
  level : Int := 0
  lines : Array String := #[]
  deriving Repr, Inhabited

namespace Buffer

/-- What stands in front of every line that is not empty. -/
def margin (buffer : Buffer) : String :=
  String.join (List.replicate buffer.level.toNat buffer.unit)

def line (buffer : Buffer) (text : String) : Buffer :=
  let written := if text.isEmpty then "" else buffer.margin ++ text
  { buffer with lines := buffer.lines.push written }

def blank (buffer : Buffer) : Buffer := buffer.line ""

/-- Appends every line of a text, each trimmed at its end; line breaks at the text's end go. -/
def block (buffer : Buffer) (text : String) : Buffer :=
  (Text.splitLines (Text.dropEndBreaks text)).foldl
    (fun buffer written => buffer.line (Text.trimEnd written)) buffer

def comment (buffer : Buffer) (text : String) : Buffer := buffer.line ("// " ++ text)

def indent (buffer : Buffer) (levels : Int := 1) : Buffer :=
  { buffer with level := buffer.level + levels }

def dedent (buffer : Buffer) (levels : Int := 1) : Buffer := buffer.indent (-levels)

def text (buffer : Buffer) : String :=
  if buffer.lines.isEmpty then "" else Text.joinLines buffer.lines.toList ++ "\n"

end Buffer

end ProxyHeaders.Code
