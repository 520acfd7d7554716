import ProxyHeaders.Text.Blank

/-!
Cutting texts at a character, joining them again, and looking for one text inside another.
-/
namespace ProxyHeaders.Text

def splitAtChar (separator : Char) (text : String) : List String :=
  (text.toList.splitOn separator).map String.ofList

/-- The pieces between line breaks; a text that ends in a break has an empty last piece. -/
def splitLines (text : String) : List String := splitAtChar '\n' text

def joinLines (lines : List String) : String := "\n".intercalate lines

def dropEndBreaks (text : String) : String := String.ofList (dropEnd (· == '\n') text.toList)

/-- Whether `pattern` stands at the head of some tail of `text`. -/
def occursIn (pattern text : List Char) : Bool :=
  match text with
  | [] => pattern.isEmpty
  | c :: rest => pattern.isPrefixOf (c :: rest) || occursIn pattern rest

def contains (text pattern : String) : Bool := occursIn pattern.toList text.toList

def startsWith (text start : String) : Bool := start.toList.isPrefixOf text.toList

def endsWith (text ending : String) : Bool := ending.toList.isSuffixOf text.toList

/-- The text before the first `marker` and, if there is one, the text after it. -/
def cutAt (marker : Char) (text : String) : String × Option String :=
  let chars := text.toList
  match chars.dropWhile (· != marker) with
  | [] => (text, none)
  | _ :: rest => (String.ofList (chars.takeWhile (· != marker)), some (String.ofList rest))

end ProxyHeaders.Text
