import ProxyHeaders.TypeDecl

/-!
Which of the loaded types get a header, and which of several with one full name.
-/
namespace ProxyHeaders.Selection

/-- Collections of the framework, and whatever mentions their namespace, make no useful proxy. -/
def excludedSpacePart : String := "System.Collections"

def excludedNameParts : List String :=
  ["IEnumerator", "IEnumerable", "ICollection", "IList", "IDictionary"]

def isGeneratable (type : TypeDecl) : Bool :=
  (type.isClass || type.isEnum) && !type.isNested && !Text.contains type.name "<" &&
    !Text.contains type.fullName excludedSpacePart &&
    !excludedNameParts.any (Text.contains type.name)

/-- The first item of each key; `seen` lists the keys met before. -/
def firstsFrom {α : Type} (key : α → String) (seen : List String) : List α → List α
  | [] => []
  | item :: rest =>
    if seen.contains (key item) then firstsFrom key seen rest
    else item :: firstsFrom key (key item :: seen) rest

def firsts {α : Type} (key : α → String) (items : List α) : List α := firstsFrom key [] items

def select (types : List TypeDecl) : List TypeDecl :=
  firsts (·.fullName) (types.filter isGeneratable)

end ProxyHeaders.Selection
