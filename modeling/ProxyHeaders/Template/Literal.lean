import ProxyHeaders.Text.Lines

/-!
The inside of a string literal of the header language: backslashes, quotation marks and line
feeds are escaped, and nothing else is. `unescapeLiteral` undoes the escapes.
-/
namespace ProxyHeaders.Template

def escapeChar (c : Char) : List Char :=
  if c == '\\' then ['\\', '\\']
  else if c == '"' then ['\\', '"']
  else if c == '\n' then ['\\', 'n']
  else [c]

def escapeLiteral (text : String) : String := String.ofList (text.toList.flatMap escapeChar)

/-- What stands behind the escapes; none where one of the three characters is not escaped. -/
def unescapeChars : List Char → Option (List Char)
  | [] => some []
  | '\\' :: '\\' :: rest => (unescapeChars rest).map ('\\' :: ·)
  | '\\' :: '"' :: rest => (unescapeChars rest).map ('"' :: ·)
  | '\\' :: 'n' :: rest => (unescapeChars rest).map ('\n' :: ·)
  | c :: rest =>
    if c == '\\' || c == '"' || c == '\n' then none else (unescapeChars rest).map (c :: ·)

def unescapeLiteral (text : String) : Option String :=
  (unescapeChars text.toList).map String.ofList

end ProxyHeaders.Template
