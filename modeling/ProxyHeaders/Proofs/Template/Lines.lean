import ProxyHeaders.Proofs.Text.Lines
import ProxyHeaders.Template.Fragment

/-!
The lines that every piece of header text consists of, with what is put into them kept apart from
what is the same in every header. Rendering a piece through its template writes these lines.
-/
namespace ProxyHeaders.Template

/-- A stretch of a line of generated code. -/
inductive Part where
  /-- Code that is the same in every header. -/
  | code (text : String)
  /-- A name or a type that is put in. -/
  | hole (text : String)
  /-- A name as a literal, whatever its characters. -/
  | quoted (name : String)
  /-- A path as a literal, as it stands. -/
  | path (text : String)
  deriving DecidableEq, Repr, Inhabited

def Part.text : Part → String
  | .code text => text
  | .hole text => text
  | .quoted name => "\"" ++ escapeLiteral name ++ "\""
  | .path text => "\"" ++ text ++ "\""

abbrev Line := List Part

def Line.text (line : Line) : String := String.join (line.map Part.text)

def written (lines : List Line) : String := Text.unlines (lines.map Line.text)

namespace Fragment

def obfuscated (style : Style) (name : String) : Line :=
  [.hole style.macroName, .code "(", .quoted name, .code ")"]

def inner (style : Style) (line : Line) : Line := .hole style.indent :: line

def staticMark (isStatic : Bool) : Line := if isStatic then [.code "static "] else []

def classHandle (style : Style) (space name image : String) : Line :=
  [.code "static BNM::Class klass = Class("] ++ obfuscated style space ++ [.code ", "] ++
    obfuscated style name ++ [.code ", Image("] ++ obfuscated style image ++ [.code "));"]

def fieldHandle (style : Style) (type handle managed : String) : Line :=
  [.code "static Field<", .hole type, .code "> ", .hole handle, .code " = GetClass().GetField("] ++
    obfuscated style managed ++ [.code ");"]

def methodHandle (style : Style) (type managed : String) (arity : Nat) : Line :=
  [.code "static Method<", .hole type, .code "> method = GetClass().GetMethod("] ++
    obfuscated style managed ++ [.code ", ", .hole (toString arity), .code ");"]

/-- The lines that bind a field's handle to the object. -/
def boundField (style : Style) (type handle : String) : List Line :=
  [inner style [.code "Field<", .hole type, .code "> bound = ", .hole handle, .code ";"],
    inner style [.code "bound.SetInstance(this);"]]

def boundMethod (style : Style) (type : String) : List Line :=
  [inner style [.code "Method<", .hole type, .code "> bound = method;"],
    inner style [.code "bound.SetInstance(this);"]]

def lines (style : Style) : Fragment → List Line
  | .bootstrap space name image =>
    [[.code "static Class GetClass() \x7b"],
      inner style (classHandle style space name image),
      inner style [.code "return klass;"],
      [.code "\x7d"],
      [],
      [.code "static MonoType* GetType() \x7b"],
      inner style [.code "return GetClass().GetMonoType();"],
      [.code "\x7d"]]
  | .singleton type name managed viaField =>
    [[.code "static ", .hole type, .code " ", .hole name, .code "() \x7b"]] ++
    (if viaField then
      [inner style (fieldHandle style type "field" managed), inner style [.code "return field();"]]
    else
      [inner style (methodHandle style type managed 0), inner style [.code "return method();"]]) ++
    [[.code "\x7d"]]
  | .getter type name handle managed isStatic =>
    [staticMark isStatic ++ [.hole type, .code " ", .hole name, .code "() \x7b"],
      inner style (fieldHandle style type handle managed)] ++
    (if isStatic then [inner style [.code "return ", .hole handle, .code "();"]]
    else boundField style type handle ++ [inner style [.code "return bound();"]]) ++
    [[.code "\x7d"]]
  | .setter type name handle managed isStatic =>
    [staticMark isStatic ++
      [.code "void ", .hole name, .code "(", .hole type, .code " value) \x7b"],
      inner style (fieldHandle style type handle managed)] ++
    (if isStatic then [inner style [.hole handle, .code " = value;"]]
    else boundField style type handle ++ [inner style [.code "bound = value;"]]) ++
    [[.code "\x7d"]]
  | .method returnType name managed parameters arguments isStatic =>
    [staticMark isStatic ++ [.hole returnType, .code " ", .hole name, .code "(",
      .hole (", ".intercalate parameters), .code ") \x7b"],
      inner style (methodHandle style returnType managed arguments.length)] ++
    (if isStatic then
      [inner style [.code "return method(", .hole (", ".intercalate arguments), .code ");"]]
    else
      boundMethod style returnType ++
        [inner style [.code "return bound(", .hole (", ".intercalate arguments), .code ");"]]) ++
    [[.code "\x7d"]]
  | .enumeration name underlying entries =>
    [[.code "enum class ", .hole name, .code " : ", .hole underlying, .code " \x7b"]] ++
    (entries.map fun (entry, literal) =>
      inner style [.hole entry, .code " = ", .hole literal, .code ","]) ++
    [[.code "\x7d;"]]
  | .preamble spaces resolveHeader includes =>
    [[.code "#pragma once"]] ++
    (spaces.map fun space => [.code "using namespace ", .hole space, .code ";"]) ++
    [[.code "#define ", .hole style.macroName, .code "(str) BNM_OBFUSCATE(str)"],
      [.code "#include ", .path resolveHeader]] ++
    (includes.map fun target => [.code "#include ", .path target])

end Fragment

theorem rendered_of_filled {style : Style} {fragment : Fragment} {nodes : List Node}
    {text : String} (found : find shelf fragment.template = .ok nodes)
    (filled : fillAll (fragment.context style) nodes = .ok text)
    (same : text.toList = (written (fragment.lines style)).toList) :
    renderer style fragment = .ok (written (fragment.lines style)) := by
  have equal : text = written (fragment.lines style) := String.toList_inj.mp same
  rw [renderer, render, found]
  simp [filled, equal, bind, Except.bind, pure, Except.pure, Except.mapError]

/-! The path of each template leads to its nodes. -/

theorem found_bootstrap : find shelf "bootstrap.hpp.j2" = .ok bootstrap := by rfl
theorem found_singleton : find shelf "singleton.hpp.j2" = .ok singleton := by rfl
theorem found_getter : find shelf "field_getter.hpp.j2" = .ok fieldGetter := by rfl
theorem found_setter : find shelf "field_setter.hpp.j2" = .ok fieldSetter := by rfl
theorem found_method : find shelf "method.hpp.j2" = .ok method := by rfl
theorem found_enumeration : find shelf "enum.hpp.j2" = .ok enumeration := by rfl
theorem found_preamble : find shelf "preamble.hpp.j2" = .ok preamble := by rfl

attribute [local simp] Fragment.context fillAll fill Expr.eval lookup predefined List.lookup_cons List.lookup_nil
  bodyLine obfuscated staticMark Value.display Value.isTrue literalText itemsOf countOf
  bind Except.bind pure Except.pure Except.map Except.mapError

attribute [local simp] written Text.unlines Fragment.lines Fragment.inner Fragment.obfuscated
  Fragment.staticMark Fragment.classHandle Fragment.fieldHandle Fragment.methodHandle
  Fragment.boundField Fragment.boundMethod Line.text Part.text

theorem rendered_bootstrap (style : Style) (space name image : String) :
    renderer style (.bootstrap space name image) =
      .ok (written ((Fragment.bootstrap space name image).lines style)) := by
  refine rendered_of_filled found_bootstrap (by simp [bootstrap]; rfl) ?_
  simp

theorem rendered_singleton (style : Style) (type name managed : String) (viaField : Bool) :
    renderer style (.singleton type name managed viaField) =
      .ok (written ((Fragment.singleton type name managed viaField).lines style)) := by
  cases viaField with
  | false =>
    refine rendered_of_filled found_singleton (by simp [singleton]; rfl) ?_
    simp
  | true =>
    refine rendered_of_filled found_singleton (by simp [singleton]; rfl) ?_
    simp

theorem rendered_getter (style : Style) (type name handle managed : String) (isStatic : Bool) :
    renderer style (.getter type name handle managed isStatic) =
      .ok (written ((Fragment.getter type name handle managed isStatic).lines style)) := by
  cases isStatic with
  | false =>
    refine rendered_of_filled found_getter (by simp [fieldGetter, fieldHandle, boundField]; rfl) ?_
    simp
  | true =>
    refine rendered_of_filled found_getter (by simp [fieldGetter, fieldHandle]; rfl) ?_
    simp

theorem rendered_setter (style : Style) (type name handle managed : String) (isStatic : Bool) :
    renderer style (.setter type name handle managed isStatic) =
      .ok (written ((Fragment.setter type name handle managed isStatic).lines style)) := by
  cases isStatic with
  | false =>
    refine rendered_of_filled found_setter (by simp [fieldSetter, fieldHandle, boundField]; rfl) ?_
    simp
  | true =>
    refine rendered_of_filled found_setter (by simp [fieldSetter, fieldHandle]; rfl) ?_
    simp

theorem repr_count (count : Nat) : (count : Int).repr = toString count := rfl

theorem rendered_method (style : Style) (returnType name managed : String)
    (parameters arguments : List String) (isStatic : Bool) :
    renderer style (.method returnType name managed parameters arguments isStatic) =
      .ok (written
        ((Fragment.method returnType name managed parameters arguments isStatic).lines style)) := by
  cases isStatic with
  | false =>
    refine rendered_of_filled found_method
      (by simp [method, Value.ofTexts, Value.literal, Key.literal, Function.comp_def]; rfl) ?_
    simp [repr_count]
  | true =>
    refine rendered_of_filled found_method
      (by simp [method, Value.ofTexts, Value.literal, Key.literal, Function.comp_def]; rfl) ?_
    simp [repr_count]

theorem fill_each {α : Type} (context : Context) (item list : String) (body : List Node)
    (source : List α) (value : α → Value) (result : α → String)
    (found : lookup context list = .ok (.list (source.map value)))
    (filled : ∀ entry, fillAll ((item, value entry) :: context) body = .ok (result entry)) :
    fill context (.each item list body) = .ok (String.join (source.map result)) := by
  have same : (fun value => fillAll ((item, value) :: context) body) ∘ value =
      fun entry => pure (result entry) := funext filled
  rw [fill, found]
  simp only [itemsOf, bind, Except.bind]
  rw [List.mapM_map, same, List.mapM_pure]
  rfl

theorem rendered_enumeration (style : Style) (name underlying : String)
    (entries : List (String × String)) :
    renderer style (.enumeration name underlying entries) =
      .ok (written ((Fragment.enumeration name underlying entries).lines style)) := by
  have loop := fill_each ((Fragment.enumeration name underlying entries).context style)
    "entry" "entries"
    (bodyLine [.print (.attribute "entry" "name"), .text " = ",
      .print (.attribute "entry" "literal"), .text ","]) entries
    (fun entry => .record [("name", .text entry.1), ("literal", .text entry.2)])
    (fun entry => style.indent ++ (entry.1 ++ (" = " ++ (entry.2 ++ ",\n"))))
    (by simp) (by simp [attributeOf])
  have filled : fillAll ((Fragment.enumeration name underlying entries).context style)
      enumeration = .ok ("enum class " ++ (name ++ (" : " ++ (underlying ++ (" \x7b\n" ++
        (String.join (entries.map fun entry =>
          style.indent ++ (entry.1 ++ (" = " ++ (entry.2 ++ ",\n")))) ++ "\x7d;\n")))))) := by
    simp only [enumeration, fillAll, loop]
    simp
  refine rendered_of_filled found_enumeration filled ?_
  simp [Function.comp_def, List.flatMap_map]

theorem rendered_preamble (style : Style) (spaces : List String) (resolveHeader : String)
    (includes : List String) :
    renderer style (.preamble spaces resolveHeader includes) =
      .ok (written ((Fragment.preamble spaces resolveHeader includes).lines style)) := by
  have spaceLoop := fill_each ((Fragment.preamble spaces resolveHeader includes).context style)
    "namespace" "using_namespaces"
    [.text "using namespace ", .print (.var "namespace"), .text ";\n"] spaces Value.text
    (fun space => "using namespace " ++ (space ++ ";\n")) (by simp [Value.ofTexts]) (by simp)
  have includeLoop := fill_each ((Fragment.preamble spaces resolveHeader includes).context style)
    "include" "includes"
    [.text "#include \"", .print (.var "include"), .text "\"\n"] includes Value.text
    (fun target => "#include \"" ++ (target ++ "\"\n")) (by simp [Value.ofTexts]) (by simp)
  have filled : fillAll ((Fragment.preamble spaces resolveHeader includes).context style)
      preamble = .ok ("#pragma once\n" ++
        (String.join (spaces.map fun space => "using namespace " ++ (space ++ ";\n")) ++
        ("#define " ++ (style.macroName ++ ("(str) BNM_OBFUSCATE(str)\n#include \"" ++
        (resolveHeader ++ ("\"\n" ++
          String.join (includes.map fun target => "#include \"" ++ (target ++ "\"\n"))))))))) := by
    simp only [preamble, fillAll, spaceLoop, includeLoop]
    simp
  refine rendered_of_filled found_preamble filled ?_
  simp [Function.comp_def, List.flatMap_map]

/-- Rendering never fails on the templates of the shelf, and it writes the lines of the piece. -/
theorem rendered (style : Style) (fragment : Fragment) :
    renderer style fragment = .ok (written (fragment.lines style)) := by
  cases fragment with
  | bootstrap space name image => exact rendered_bootstrap style space name image
  | singleton type name managed viaField =>
    exact rendered_singleton style type name managed viaField
  | getter type name handle managed isStatic =>
    exact rendered_getter style type name handle managed isStatic
  | setter type name handle managed isStatic =>
    exact rendered_setter style type name handle managed isStatic
  | method returnType name managed parameters arguments isStatic =>
    exact rendered_method style returnType name managed parameters arguments isStatic
  | enumeration name underlying entries =>
    exact rendered_enumeration style name underlying entries
  | preamble spaces resolveHeader includes =>
    exact rendered_preamble style spaces resolveHeader includes

end ProxyHeaders.Template
