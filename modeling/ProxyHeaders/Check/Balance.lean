/-!
Whether the brackets of a header are well nested, by a stack of those that are open. Comments and
literals are left out.
-/
namespace ProxyHeaders.Check

/-! A header without its comments and literals -/

inductive Mode where
  | code
  | lineComment
  | blockComment
  | literal (quote : Char)
  deriving DecidableEq, Repr, Inhabited

def isQuote (c : Char) : Bool := c == '"' || c == '\''

/-- A literal leaves one blank, a comment its line breaks. A literal ends at its quotation mark or
with its line; an escaped character never ends it. -/
def stripFrom : Mode → List Char → List Char
  | _, [] => []
  | .code, '/' :: '/' :: rest => stripFrom .lineComment rest
  | .code, '/' :: '*' :: rest => stripFrom .blockComment rest
  | .code, c :: rest =>
    if isQuote c then ' ' :: stripFrom (.literal c) rest else c :: stripFrom .code rest
  | .lineComment, c :: rest =>
    if c == '\n' then c :: stripFrom .code rest else stripFrom .lineComment rest
  | .blockComment, '*' :: '/' :: rest => stripFrom .code rest
  | .blockComment, c :: rest =>
    if c == '\n' then c :: stripFrom .blockComment rest else stripFrom .blockComment rest
  | .literal quote, '\\' :: _ :: rest => stripFrom (.literal quote) rest
  | .literal quote, c :: rest =>
    if c == quote || c == '\n' then stripFrom .code rest else stripFrom (.literal quote) rest

def strip (source : String) : String := String.ofList (stripFrom .code source.toList)

/-! The brackets that are left -/

/-- The opening bracket that a closing one belongs to. -/
def openerOf : Char → Option Char
  | '\x7d' => some '\x7b'
  | ')' => some '('
  | ']' => some '['
  | _ => none

def isOpener (c : Char) : Bool := c == '\x7b' || c == '(' || c == '['

inductive Unbalanced where
  | unmatched (bracket : Char) (line : Nat)
  | unclosed (bracket : Char) (line : Nat)
  deriving DecidableEq, Repr, Inhabited

namespace Unbalanced

def line : Unbalanced → Nat
  | .unmatched _ line => line
  | .unclosed _ line => line

def bracket : Unbalanced → Char
  | .unmatched bracket _ => bracket
  | .unclosed bracket _ => bracket

def message : Unbalanced → String
  | .unmatched bracket _ => "unmatched '" ++ bracket.toString ++ "'"
  | .unclosed bracket _ => "unclosed '" ++ bracket.toString ++ "'"

end Unbalanced

abbrev Open := Char × Nat

def leftOpen (stack : List Open) : List Unbalanced :=
  stack.reverse.map fun (bracket, line) => .unclosed bracket line

/-- A closing bracket that does not fit leaves the stack as it is. -/
def balanceFrom : Nat → List Open → List Char → List Unbalanced
  | _, stack, [] => leftOpen stack
  | line, stack, c :: rest =>
    if c == '\n' then balanceFrom (line + 1) stack rest
    else if isOpener c then balanceFrom line ((c, line) :: stack) rest
    else match openerOf c, stack with
    | none, stack => balanceFrom line stack rest
    | some _, [] => .unmatched c line :: balanceFrom line [] rest
    | some opener, (top, opened) :: below =>
      if top == opener then balanceFrom line below rest
      else .unmatched c line :: balanceFrom line ((top, opened) :: below) rest

def balance (source : String) : List Unbalanced := balanceFrom 1 [] (strip source).toList

end ProxyHeaders.Check
