import ProxyHeaders.Text.Case
import ProxyHeaders.Text.Blank

/-!
Text with tags for its style in square brackets. Here only the text remains; a closing tag without
an opening one is a fault. A bracket behind a backslash is text.
-/
namespace ProxyHeaders.Console

def opensTag (c : Char) : Bool :=
  ('a' ≤ c && c ≤ 'z') || c == '#' || c == '/' || c == '@'

/-- The inside of a tag up to its closing bracket, and what follows; a tag holds no opening one. -/
def tagInside : List Char → Option (List Char × List Char)
  | [] => none
  | '[' :: _ => none
  | ']' :: rest => some ([], rest)
  | c :: rest => do
    let (inside, behind) ← tagInside rest
    return (c :: inside, behind)

/-- The tag that starts with the bracket in front of a text, and what follows it. -/
def tagAt : List Char → Option (List Char × List Char)
  | '[' :: c :: rest => do
    guard (opensTag c)
    let (inside, behind) ← tagInside rest
    return (c :: inside, behind)
  | _ => none

inductive Piece where
  | text (chars : List Char)
  | tag (inside : List Char)
  deriving DecidableEq, Repr

/-- Cuts a text into tags and what stands between them. Of backslashes in front of a tag every two
are one, and one that is left over makes the tag text. `skip` characters belong to a tag that has
been cut off, `slashes` backslashes have been read, and `read` are characters of a text, latest
first. -/
def cut (skip slashes : Nat) (read : List Char) : List Char → List Piece
  | [] => [.text (List.replicate slashes '\\' ++ read).reverse]
  | c :: rest =>
    if skip > 0 then cut (skip - 1) 0 read rest
    else if c == '\\' then cut 0 (slashes + 1) read rest
    else match tagAt (c :: rest) with
    | none => cut 0 0 (c :: (List.replicate slashes '\\' ++ read)) rest
    | some (inside, _) =>
      -- Text that is about to be cut off ends here; escapes are pieces of their own.
      let before := [Piece.text read.reverse, Piece.text (List.replicate (slashes / 2) '\\')]
      if slashes % 2 == 1 then
        before ++ .text (['['] ++ inside ++ [']']) :: cut (inside.length + 1) 0 [] rest
      else before ++ .tag inside :: cut (inside.length + 1) 0 [] rest

/-- Two characters that make one bracket in what is left as text. -/
def unescape : List Char → List Char
  | '\\' :: '[' :: rest => '[' :: unescape rest
  | c :: rest => c :: unescape rest
  | [] => []

def isControl (c : Char) : Bool := [7, 8, 11, 12, 13].contains c.toNat

def plainOf (chars : List Char) : List Char := (unescape chars).filter (!isControl ·)

def styleName (inside : List Char) : String :=
  Text.lower (Text.trim (String.ofList (inside.takeWhile (· != '='))))

/-- The text of pieces, if every closing tag closes one that is open. `opened` are the names of the
open tags, latest first. -/
def join (opened : List String) : List Piece → Option (List Char)
  | [] => some []
  | .text chars :: rest => do return plainOf chars ++ (← join opened rest)
  | .tag inside :: rest =>
    match inside with
    | '/' :: name =>
      let name := styleName name
      if name.isEmpty then
        match opened with
        | [] => none
        | _ :: opened => join opened rest
      else if opened.contains name then join (opened.erase name) rest else none
    | inside => join (styleName inside :: opened) rest

def plain? (markup : String) : Option String := (join [] (cut 0 0 [] markup.toList)).map String.ofList

/-- Puts a backslash in front of what would be a tag, and doubles those in front of it. -/
def escapeTags (skip slashes : Nat) : List Char → List Char
  | [] => []
  | c :: rest =>
    if skip > 0 then c :: escapeTags (skip - 1) 0 rest
    else if c == '\\' then c :: escapeTags 0 (slashes + 1) rest
    else match tagAt (c :: rest) with
    | none => c :: escapeTags 0 0 rest
    | some (inside, _) =>
      List.replicate (slashes + 1) '\\' ++ c :: escapeTags (inside.length + 1) 0 rest

/-- A single backslash at the end would escape whatever comes next. -/
def escapeEnd (chars : List Char) : List Char :=
  match chars.reverse with
  | '\\' :: '\\' :: _ => chars
  | '\\' :: _ => chars ++ ['\\']
  | _ => chars

/-- A text as markup that stands for that text. -/
def escape (text : String) : String := String.ofList (escapeEnd (escapeTags 0 0 text.toList))

end ProxyHeaders.Console
