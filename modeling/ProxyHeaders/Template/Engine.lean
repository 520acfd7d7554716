import ProxyHeaders.Data.Value
import ProxyHeaders.Template.Literal

/-!
Templates: text with variables, conditions and loops. Filling one in evaluates its nodes in
document order and fails at the first variable that is not there.
-/
namespace ProxyHeaders.Template

inductive Expr where
  | var (name : String)
  | attribute (name field : String)
  /-- The value inside a string literal; no value is empty text there. -/
  | literal (inner : Expr)
  | joined (name separator : String)
  | count (name : String)
  deriving Repr, Inhabited

inductive Node where
  | text (written : String)
  | print (expr : Expr)
  | choose (condition : String) (whenTrue whenFalse : List Node)
  | each (item list : String) (body : List Node)
  deriving Repr, Inhabited

inductive Fault where
  | undefined (name : String)
  | noAttribute (kind field : String)
  | notIterable (kind : String)
  | noLength (kind : String)
  deriving DecidableEq, Repr

def Fault.message : Fault → String
  | .undefined name => "'" ++ name ++ "' is undefined"
  | .noAttribute kind field => "'" ++ kind ++ "' has no attribute '" ++ field ++ "'"
  | .notIterable kind => "'" ++ kind ++ "' object is not iterable"
  | .noLength kind => "object of type '" ++ kind ++ "' has no len()"

abbrev Context := List (String × Value)

def predefined : Context := [("namespace", .text "<class 'jinja2.utils.Namespace'>")]

def kindOf : Value → String
  | .none => "NoneType"
  | .bool _ => "bool"
  | .int _ => "int"
  | .real _ => "float"
  | .text _ | .torn _ => "str"
  | .list _ => "list"
  | .record _ => "dict"

def lookup (context : Context) (name : String) : Except Fault Value :=
  match (context.lookup name).or (predefined.lookup name) with
  | some value => .ok value
  | none => .error (.undefined name)

def attributeOf (value : Value) (field : String) : Except Fault Value :=
  match value with
  | .record entries =>
    match entries.lookup (.text field) with
    | some value => .ok value
    | none => .error (.noAttribute "dict object" field)
  | .none => .error (.noAttribute "None" field)
  | value => .error (.noAttribute (kindOf value ++ " object") field)

def itemsOf : Value → Except Fault (List Value)
  | .list items => .ok items
  | .text written => .ok (written.toList.map fun c => .text c.toString)
  | .torn codes => .ok (codes.map fun code => .ofCodes [code])
  | .record entries => .ok (entries.map fun (key, _) => key.toValue)
  | value => .error (.notIterable (kindOf value))

def countOf (value : Value) : Except Fault Nat :=
  (itemsOf value).map List.length |>.mapError fun _ => .noLength (kindOf value)

def literalText : Value → String
  | .none => ""
  | value => escapeLiteral value.display

def Expr.eval (context : Context) : Expr → Except Fault Value
  | .var name => lookup context name
  | .attribute name field => do attributeOf (← lookup context name) field
  | .literal inner => do return .text (literalText (← inner.eval context))
  | .joined name separator => do
    let items ← itemsOf (← lookup context name)
    return .text (separator.intercalate (items.map Value.display))
  | .count name => do return .int (← countOf (← lookup context name))

mutual

def fill (context : Context) : Node → Except Fault String
  | .text written => .ok written
  | .print expr => do return (← expr.eval context).display
  | .choose condition whenTrue whenFalse => do
    if (← lookup context condition).isTrue then fillAll context whenTrue
    else fillAll context whenFalse
  | .each item list body => do
    let items ← itemsOf (← lookup context list)
    let parts ← items.mapM fun value => fillAll ((item, value) :: context) body
    return String.join parts

def fillAll (context : Context) : List Node → Except Fault String
  | [] => .ok ""
  | node :: rest => do return (← fill context node) ++ (← fillAll context rest)

end

end ProxyHeaders.Template
