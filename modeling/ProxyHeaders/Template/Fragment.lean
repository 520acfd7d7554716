import ProxyHeaders.Template.Headers

/-!
The pieces of header text that templates write, with everything they say, and how one is rendered.
-/
namespace ProxyHeaders.Template

/-- What the settings decide about every piece: the obfuscation macro and one indentation. -/
structure Style where
  macroName : String := "O"
  indent : String := "    "
  deriving DecidableEq, Repr, Inhabited

inductive Fragment where
  /-- The accessors of the class handle, which every struct begins with. -/
  | bootstrap (space name image : String)
  /-- The accessor of a type's only instance, through a field or through a method. -/
  | singleton (type name managed : String) (viaField : Bool)
  | getter (type name handle managed : String) (isStatic : Bool)
  | setter (type name handle managed : String) (isStatic : Bool)
  | method (returnType name managed : String) (parameters arguments : List String)
    (isStatic : Bool)
  | enumeration (name underlying : String) (entries : List (String × String))
  | preamble (spaces : List String) (resolveHeader : String) (includes : List String)
  deriving DecidableEq, Repr, Inhabited

namespace Fragment

def template : Fragment → String
  | .bootstrap .. => "bootstrap.hpp.j2"
  | .singleton .. => "singleton.hpp.j2"
  | .getter .. => "field_getter.hpp.j2"
  | .setter .. => "field_setter.hpp.j2"
  | .method .. => "method.hpp.j2"
  | .enumeration .. => "enum.hpp.j2"
  | .preamble .. => "preamble.hpp.j2"

def name? : Fragment → Option String
  | .bootstrap _ name _ => some name
  | .singleton _ name _ _ => some name
  | .getter _ name _ _ _ => some name
  | .setter _ name _ _ _ => some name
  | .method _ name _ _ _ _ => some name
  | .enumeration name _ _ => some name
  | .preamble .. => none

def context (style : Style) (fragment : Fragment) : Context :=
  [("macro", .text style.macroName), ("indent", .text style.indent)] ++
  match fragment with
  | .bootstrap space name image =>
    [("namespace", .text space), ("name", .text name), ("image", .text image)]
  | .singleton type name managed viaField =>
    [("type", .text type), ("name", .text name), ("original", .text managed),
      ("via_field", .bool viaField)]
  | .getter type name handle managed isStatic
  | .setter type name handle managed isStatic =>
    [("type", .text type), ("name", .text name), ("handle", .text handle),
      ("original", .text managed), ("is_static", .bool isStatic)]
  | .method returnType name managed parameters arguments isStatic =>
    [("return_type", .text returnType), ("name", .text name), ("original", .text managed),
      ("parameters", .ofTexts parameters), ("arguments", .ofTexts arguments),
      ("is_static", .bool isStatic)]
  | .enumeration name underlying entries =>
    [("name", .text name), ("underlying", .text underlying),
      ("entries", .list (entries.map fun (entry, literal) =>
        .record [("name", .text entry), ("literal", .text literal)]))]
  | .preamble spaces resolveHeader includes =>
    [("using_namespaces", .ofTexts spaces), ("resolve_header", .text resolveHeader),
      ("includes", .ofTexts includes)]

end Fragment

inductive RenderFailure where
  | template (fault : RenderFault)
  | other (text : String)
  deriving DecidableEq, Repr

def RenderFailure.message : RenderFailure → String
  | .template fault => fault.message
  | .other text => text

/-- Writes pieces as text. Generation works with any renderer, also with one that fails. -/
abbrev Renderer := Style → Fragment → Except RenderFailure String

def renderer : Renderer := fun style fragment =>
  (render shelf fragment.template (fragment.context style)).mapError .template

end ProxyHeaders.Template
