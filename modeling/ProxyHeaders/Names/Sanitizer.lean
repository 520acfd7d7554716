import ProxyHeaders.Names.Unique
import ProxyHeaders.Names.Words
import ProxyHeaders.Text.Blank
import ProxyHeaders.Text.Case
import ProxyHeaders.Text.Digit

/-!
Turning metadata names, which may hold any character, into identifiers of the header language.
A sanitizer keeps what it answered; an answer that it keeps is given again without computing it.
-/
namespace ProxyHeaders.Names

inductive NameCase where
  | asIs | pascal | camel
  deriving DecidableEq, Repr, Inhabited

def NameCase.word : NameCase → String
  | .asIs => "original"
  | .pascal => "pascal"
  | .camel => "camel"

/-- The character that stands for what an identifier cannot hold, and marks escaped keywords.
The compilers these headers are for accept it in identifiers. -/
def escapeMark : String := "$"

def isWordChar (c : Char) : Bool := c.isAlphanum || c == '_' || c == '$'

def capitalize : List Char → List Char
  | [] => []
  | c :: rest => Text.upperChar c ++ rest

/-- Every part between underscores with its first letter raised, and no underscores. -/
def pascal (name : String) : String :=
  String.ofList ((name.toList.splitOn '_').flatMap capitalize)

/-- The Pascal spelling with its first letter lowered. -/
def camel (name : String) : String :=
  match (pascal name).toList with
  | [] => ""
  | c :: rest => String.ofList (Text.lowerChar c ++ rest)

def inCase (style : NameCase) (name : String) : String :=
  match style with
  | .asIs => name
  | .pascal => pascal name
  | .camel => camel name

/-- An identifier is not empty and starts with no digit. -/
def withValidStart (name : String) : String :=
  match name.toList with
  | [] => "_"
  | c :: _ => if Text.isDigit c then "_" ++ name else name

structure Sanitizer where
  keywords : List String := []
  macros : List String := []
  escape : String := escapeMark
  kept : List (String × String) := []
  deriving Repr, Inhabited

namespace Sanitizer

def forHeaders : Sanitizer :=
  { keywords := headerKeywords ++ managedKeywords, macros := macroNames }

def isReserved (sanitizer : Sanitizer) (name : String) : Bool :=
  sanitizer.keywords.contains name || sanitizer.macros.contains name

/-- The name with the escape in place of every character that no identifier holds. -/
def replaceForeign (sanitizer : Sanitizer) (name : String) : String :=
  String.ofList (name.toList.flatMap fun c =>
    if isWordChar c then [c] else sanitizer.escape.toList)

/-- The identifier for a name, computed anew. A missing name is read as an empty one. -/
def compute (sanitizer : Sanitizer) (name : Option String) (style : NameCase) : String :=
  let valid := withValidStart (inCase style (sanitizer.replaceForeign (name.getD "")))
  if sanitizer.isReserved valid then sanitizer.escape ++ valid else valid

/-- What an answer is kept under: the name and the word for its spelling, in one text. A missing
name and the name `None` share their entry. -/
def key (name : Option String) (style : NameCase) : String :=
  name.getD "None" ++ "_" ++ style.word

def sanitize (sanitizer : Sanitizer) (name : Option String)
    (style : NameCase := .asIs) : String :=
  (sanitizer.kept.lookup (key name style)).getD (sanitizer.compute name style)

/-- The sanitizer after it answered for a name: it keeps its first answer for each entry. -/
def keep (sanitizer : Sanitizer) (name : Option String)
    (style : NameCase := .asIs) : Sanitizer :=
  let entry := key name style
  if (sanitizer.kept.lookup entry).isSome then sanitizer
  else { sanitizer with kept := (entry, sanitizer.compute name style) :: sanitizer.kept }

def keepAll (sanitizer : Sanitizer) (names : List String) : Sanitizer :=
  names.foldl (fun sanitizer name => sanitizer.keep (some name)) sanitizer

def forget (sanitizer : Sanitizer) : Sanitizer := { sanitizer with kept := [] }

def identifier (sanitizer : Sanitizer) (name : String) : String := sanitizer.sanitize (some name)

/-- The name of an accessor, such as `GetHealth`. The prefix makes it valid as it stands. -/
def accessorName (sanitizer : Sanitizer) (start name : String) : String :=
  let raised := pascal (sanitizer.replaceForeign name)
  start ++ (if raised.isEmpty then "_" else raised)

/-- What a parameter is called before repeats are numbered; a blank name goes by its position. -/
def parameterBase (sanitizer : Sanitizer) (name : Option String) (index : Nat) : String :=
  match name with
  | some name =>
    if Text.isAllBlank name then "param" ++ toString index else sanitizer.identifier name
  | none => "param" ++ toString index

def statedNames (names : List (Option String)) : List String :=
  (names.filterMap id).filter (!Text.isAllBlank ·)

/-- One identifier for each parameter, all different and none taken. -/
def parameterNames (sanitizer : Sanitizer) (names : List (Option String))
    (taken : List String) : List String :=
  spread taken (names.zipIdx.map fun (name, index) => sanitizer.parameterBase name index)

end Sanitizer

end ProxyHeaders.Names
