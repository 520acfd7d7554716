import ProxyHeaders.Mapping.TypeMap
import ProxyHeaders.Names.Unique

/-!
Names inside the bodies of generated functions. A body's own names may hide nothing that the
body refers to: its locals, the implicit members, reserved types and the types it spells.
-/
namespace ProxyHeaders.Proxy

open ProxyHeaders.Mapping ProxyHeaders.Names

/-- Names that the bodies declare themselves, and the one keyword they could be mistaken for. -/
def bodyLocals : List String := ["bound", "value", "method", "field", "klass", "this"]

def isWordStart (c : Char) : Bool := c.isAlpha || c == '_' || c == '$'

/-- The identifiers in a text; `word` is the one being read, latest character first. -/
def identifiersFrom (word : List Char) : List Char → List String
  | [] => if word.isEmpty then [] else [String.ofList word.reverse]
  | c :: rest =>
    if !word.isEmpty && isWordChar c then identifiersFrom (c :: word) rest
    else
      let before := if word.isEmpty then [] else [String.ofList word.reverse]
      before ++ identifiersFrom (if isWordStart c then [c] else []) rest

def typeIdentifiers (spellings : List String) : List String :=
  spellings.flatMap fun spelling => identifiersFrom [] spelling.toList

/-- The name of the handle that a function keeps, lengthened until it hides nothing. -/
def handleName (map : TypeMap) (member spelling : String) : String :=
  let taken := bodyLocals ++ implicitMembers ++ map.reservedNames ++ typeIdentifiers [spelling]
  let base := map.sanitizer.identifier member
  firstFree taken fun count => base ++ String.ofList (List.replicate count '_')

end ProxyHeaders.Proxy
