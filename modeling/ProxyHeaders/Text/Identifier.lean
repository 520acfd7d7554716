import ProxyHeaders.Text.IdentifierTable
import ProxyHeaders.Text.Ranges

/-!
Unicode identifiers: a start character or underscore, then start characters, marks, digits and
connectors (XID_Start, XID_Continue).
-/
namespace ProxyHeaders.Text

def isIdentifierStart (c : Char) : Bool :=
  if isAscii c then c.isAlpha || c == '_' else inRanges identifierStartRanges c

def isIdentifierPart (c : Char) : Bool :=
  if isAscii c then c.isAlphanum || c == '_' else inRanges identifierPartRanges c

def isIdentifier (text : String) : Bool :=
  match text.toList with
  | [] => false
  | c :: rest => isIdentifierStart c && rest.all isIdentifierPart

end ProxyHeaders.Text
