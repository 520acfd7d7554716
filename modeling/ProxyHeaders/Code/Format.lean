import ProxyHeaders.Text.Lines

/-!
The normal form of generated code: no blanks at the end of a line, no two empty lines in a row,
none at either end, and one line break at the end of the text.
-/
namespace ProxyHeaders.Code

/-- Trims every line at its end and keeps one line of every run of blank ones. -/
def collapse (afterBlank : Bool) : List String → List String
  | [] => []
  | line :: rest =>
    let trimmed := Text.trimEnd line
    if trimmed.isEmpty then
      if afterBlank then collapse true rest else "" :: collapse true rest
    else trimmed :: collapse false rest

def dropOuterBreaks (text : String) : String :=
  Text.dropEndBreaks (String.ofList (text.toList.dropWhile (· == '\n')))

def format (code : String) : String :=
  dropOuterBreaks (Text.joinLines (collapse false (Text.splitLines code))) ++ "\n"

end ProxyHeaders.Code
