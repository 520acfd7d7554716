import ProxyHeaders.Template.Engine

/-!
The templates of the generated headers.
-/
namespace ProxyHeaders.Template

def obfuscated (name : String) : List Node :=
  [.print (.var "macro"), .text "(\"", .print (.literal (.var name)), .text "\")"]

/-- A line of a body, behind the unit of indentation. -/
def bodyLine (nodes : List Node) : List Node :=
  [.print (.var "indent")] ++ nodes ++ [.text "\n"]

def staticMark : Node := .choose "is_static" [.text "static "] []

def bootstrap : List Node :=
  [.text "static Class GetClass() \x7b\n"] ++
  bodyLine ([.text "static BNM::Class klass = Class("] ++ obfuscated "namespace" ++
    [.text ", "] ++ obfuscated "name" ++ [.text ", Image("] ++ obfuscated "image" ++
    [.text "));"]) ++
  bodyLine [.text "return klass;"] ++
  [.text "\x7d\n\nstatic MonoType* GetType() \x7b\n"] ++
  bodyLine [.text "return GetClass().GetMonoType();"] ++
  [.text "\x7d\n"]

def enumeration : List Node :=
  [.text "enum class ", .print (.var "name"), .text " : ", .print (.var "underlying"),
    .text " \x7b\n",
    .each "entry" "entries" (bodyLine [.print (.attribute "entry" "name"), .text " = ",
      .print (.attribute "entry" "literal"), .text ","]),
    .text "\x7d;\n"]

/-- The handle of the field that an accessor is for, kept for all calls. -/
def fieldHandle : List Node :=
  bodyLine ([.text "static Field<", .print (.var "type"), .text "> ", .print (.var "handle"),
    .text " = GetClass().GetField("] ++ obfuscated "original" ++ [.text ");"])

/-- The handle bound to the object that the accessor is called on. -/
def boundField : List Node :=
  bodyLine [.text "Field<", .print (.var "type"), .text "> bound = ", .print (.var "handle"),
    .text ";"] ++
  bodyLine [.text "bound.SetInstance(this);"]

def fieldGetter : List Node :=
  [staticMark, .print (.var "type"), .text " ", .print (.var "name"), .text "() \x7b\n"] ++
  fieldHandle ++
  [.choose "is_static"
    (bodyLine [.text "return ", .print (.var "handle"), .text "();"])
    (boundField ++ bodyLine [.text "return bound();"]),
    .text "\x7d\n"]

def fieldSetter : List Node :=
  [staticMark, .text "void ", .print (.var "name"), .text "(", .print (.var "type"),
    .text " value) \x7b\n"] ++
  fieldHandle ++
  [.choose "is_static"
    (bodyLine [.print (.var "handle"), .text " = value;"])
    (boundField ++ bodyLine [.text "bound = value;"]),
    .text "\x7d\n"]

def method : List Node :=
  [staticMark, .print (.var "return_type"), .text " ", .print (.var "name"), .text "(",
    .print (.joined "parameters" ", "), .text ") \x7b\n"] ++
  bodyLine ([.text "static Method<", .print (.var "return_type"),
    .text "> method = GetClass().GetMethod("] ++ obfuscated "original" ++
    [.text ", ", .print (.count "arguments"), .text ");"]) ++
  [.choose "is_static"
    (bodyLine [.text "return method(", .print (.joined "arguments" ", "), .text ");"])
    (bodyLine [.text "Method<", .print (.var "return_type"), .text "> bound = method;"] ++
      bodyLine [.text "bound.SetInstance(this);"] ++
      bodyLine [.text "return bound(", .print (.joined "arguments" ", "), .text ");"]),
    .text "\x7d\n"]

def preamble : List Node :=
  [.text "#pragma once\n",
    .each "namespace" "using_namespaces"
      [.text "using namespace ", .print (.var "namespace"), .text ";\n"],
    .text "#define ", .print (.var "macro"), .text "(str) BNM_OBFUSCATE(str)\n#include \"",
    .print (.var "resolve_header"), .text "\"\n",
    .each "include" "includes"
      [.text "#include \"", .print (.var "include"), .text "\"\n"]]

def singleton : List Node :=
  [.text "static ", .print (.var "type"), .text " ", .print (.var "name"), .text "() \x7b\n",
    .choose "via_field"
      (bodyLine ([.text "static Field<", .print (.var "type"),
          .text "> field = GetClass().GetField("] ++ obfuscated "original" ++ [.text ");"]) ++
        bodyLine [.text "return field();"])
      (bodyLine ([.text "static Method<", .print (.var "type"),
          .text "> method = GetClass().GetMethod("] ++ obfuscated "original" ++
          [.text ", 0);"]) ++
        bodyLine [.text "return method();"]),
    .text "\x7d\n"]

def shelf : List (String × List Node) := [
  ("bootstrap.hpp.j2", bootstrap), ("enum.hpp.j2", enumeration),
  ("field_getter.hpp.j2", fieldGetter), ("field_setter.hpp.j2", fieldSetter),
  ("method.hpp.j2", method), ("preamble.hpp.j2", preamble), ("singleton.hpp.j2", singleton)]

inductive RenderFault where
  /-- There is no such template. -/
  | unknown (name : String)
  /-- The name leads out of the place where templates are kept, or there is no such place. -/
  | unreachable (name : String)
  | unfilled (name : String) (fault : Fault)
  deriving DecidableEq, Repr

def RenderFault.message : RenderFault → String
  | .unknown name => "Failed to render template " ++ name
  | .unreachable name => "Failed to render template " ++ name ++ ": " ++ name
  | .unfilled name fault => "Failed to render template " ++ name ++ ": " ++ fault.message

/-- Finds a template by a path whose empty and `.` segments do not matter. -/
def find (templates : List (String × List Node)) (name : String) :
    Except RenderFault (List Node) :=
  let segments := Text.splitAtChar '/' name
  if segments.contains ".." then .error (.unreachable name)
  else match segments.filter (fun segment => !segment.isEmpty && segment != ".") with
    | [file] =>
      match templates.lookup file with
      | some nodes => .ok nodes
      | none => .error (.unknown name)
    | _ => .error (.unknown name)

def render (templates : List (String × List Node)) (name : String) (context : Context) :
    Except RenderFault String := do
  let nodes ← find templates name
  match fillAll context nodes with
  | .ok text => return text
  | .error fault => .error (.unfilled name fault)

end ProxyHeaders.Template
