import ProxyHeaders.Proofs.Names.Numbering
import ProxyHeaders.Proofs.Proxy.Planned
import ProxyHeaders.Proofs.Template.Lines

/-!
The names in the functions of a struct. Each function is laid out again as the stretches of its lines,
with what each stretch does with names: some are declared there, some refer to what stands around the
function, and types are spelled of such names. A function captures a name that it refers to if it
declares one that is the same.
-/
namespace ProxyHeaders.Proxy

open ProxyHeaders.Mapping ProxyHeaders.Names ProxyHeaders.Template

/-- A stretch of a function. -/
inductive Stretch where
  | indent (text : String)
  /-- Punctuation, keywords, and members of what stands in front of them. -/
  | plain (text : String)
  /-- The name of the function itself, which belongs to the struct. -/
  | heads (name : String)
  /-- A parameter or a local variable where it is declared. -/
  | declares (name : String)
  /-- The same where it is used. -/
  | uses (name : String)
  /-- A name that is declared outside of the function. -/
  | refers (name : String)
  | spells (type : String)
  | quoted (name : String)
  | number (value : Nat)
  deriving DecidableEq, Repr

namespace Stretch

def text : Stretch → String
  | .indent text | .plain text => text
  | .heads name | .declares name | .uses name | .refers name => name
  | .spells type => type
  | .quoted name => "\"" ++ escapeLiteral name ++ "\""
  | .number value => toString value

def declared? : Stretch → Option String
  | .declares name => some name
  | _ => none

def used? : Stretch → Option String
  | .uses name => some name
  | _ => none

def referred? : Stretch → Option String
  | .refers name => some name
  | _ => none

def spelled? : Stretch → Option String
  | .spells type => some type
  | _ => none

def plain? : Stretch → Option String
  | .plain text => some text
  | _ => none

end Stretch

abbrev Body := List (List Stretch)

def lineText (line : List Stretch) : String := String.join (line.map Stretch.text)

/-! What a body does with names -/

namespace Body

variable (body : Body)

def declared : List String := body.flatten.filterMap Stretch.declared?

def used : List String := body.flatten.filterMap Stretch.used?

def referred : List String := body.flatten.filterMap Stretch.referred?

def types : List String := body.flatten.filterMap Stretch.spelled?

/-- The names in the types that a body spells. -/
def spelled : List String := typeIdentifiers body.types

def plainCode : List String := body.flatten.filterMap Stretch.plain?

/-- No name that the body declares is declared twice or stands for anything else in it. -/
structure CapturesNothing : Prop where
  once : body.declared.Nodup
  noReference : ∀ name ∈ body.declared, name ∉ body.referred
  noType : ∀ name ∈ body.declared, name ∉ body.spelled

end Body

/-! The functions of a struct -/

/-- What a function looks up: the runtime's template for it, and the member that finds it. -/
inductive Handle where
  | field | method
  deriving DecidableEq, Repr

def Handle.template : Handle → String
  | .field => "Field"
  | .method => "Method"

def Handle.finder : Handle → String
  | .field => "().GetField("
  | .method => "().GetMethod("

section Functions

variable (style : Style)

/-- The line that keeps the handle. -/
def keeps (kind : Handle) (type name managed : String) (further : List Stretch) : List Stretch :=
  [.indent style.indent, .plain "static ", .refers kind.template, .plain "<", .spells type,
    .plain "> ", .declares name, .plain " = ", .refers "GetClass", .plain kind.finder,
    .refers style.macroName, .plain "(", .quoted managed, .plain ")"] ++ further ++ [.plain ");"]

/-- The lines that bind a copy of the handle to the object. -/
def binds (kind : Handle) (type name : String) : Body :=
  [[.indent style.indent, .refers kind.template, .plain "<", .spells type, .plain "> ",
      .declares "bound", .plain " = ", .uses name, .plain ";"],
    [.indent style.indent, .uses "bound", .plain ".SetInstance(this);"]]

def static? (isStatic : Bool) : List Stretch := if isStatic then [.plain "static "] else []

/-- A function around a handle: its first line, and the line that keeps the handle; then the line that
uses it, or those that bind a copy and the line that uses the copy. -/
def around (kind : Handle) (type handle managed : String) (further : List Stretch)
    (isStatic : Bool) (first : List Stretch) (use : String → List Stretch) : Body :=
  [static? isStatic ++ first, keeps style kind type handle managed further] ++
  (if isStatic then [use handle] else binds style kind type handle ++ [use "bound"]) ++
  [[.plain "\x7d"]]

def getterBody (type name handle managed : String) (isStatic : Bool) : Body :=
  around style .field type handle managed [] isStatic
    [.spells type, .plain " ", .heads name, .plain "() \x7b"]
    fun source => [.indent style.indent, .plain "return ", .uses source, .plain "();"]

def setterBody (type name handle managed : String) (isStatic : Bool) : Body :=
  around style .field type handle managed [] isStatic
    [.plain "void ", .heads name, .plain "(", .spells type, .plain " ", .declares "value",
      .plain ") \x7b"]
    fun target => [.indent style.indent, .uses target, .plain " = ", .uses "value", .plain ";"]

def separated : List (List Stretch) → List Stretch
  | [] => []
  | [item] => item
  | item :: rest => item ++ .plain ", " :: separated rest

def parameter (type name : String) : List Stretch := [.spells type, .plain " ", .declares name]

def methodBody (returned name managed : String) (types names : List String) (isStatic : Bool) :
    Body :=
  around style .method returned "method" managed [.plain ", ", .number names.length] isStatic
    (.spells returned :: .plain " " :: .heads name :: .plain "(" ::
      (separated (List.zipWith parameter types names)).concat (.plain ") \x7b"))
    fun called => .indent style.indent :: .plain "return " :: .uses called :: .plain "(" ::
      (separated (names.map fun name => [.uses name])).concat (.plain ");")

end Functions

/-- The functions of fields, properties and methods with their bodies. -/
inductive BodyOf (style : Style) : Fragment → Body → Prop where
  | getter (type name handle managed : String) (isStatic : Bool) :
    BodyOf style (.getter type name handle managed isStatic)
      (getterBody style type name handle managed isStatic)
  | setter (type name handle managed : String) (isStatic : Bool) :
    BodyOf style (.setter type name handle managed isStatic)
      (setterBody style type name handle managed isStatic)
  | method (returned name managed : String) {types names : List String} (isStatic : Bool)
    (typed : types.length = names.length) :
    BodyOf style (.method returned name managed
        ((types.zip names).map fun (type, name) => type ++ " " ++ name) names isStatic)
      (methodBody style returned name managed types names isStatic)

theorem around_flatten (style : Style) (kind : Handle) (type handle managed : String)
    (further : List Stretch) (isStatic : Bool) (first : List Stretch)
    (use : String → List Stretch) :
    (around style kind type handle managed further isStatic first use).flatten =
      static? isStatic ++ first ++ keeps style kind type handle managed further ++
        (if isStatic then use handle else (binds style kind type handle).flatten ++ use "bound") ++
        [.plain "\x7d"] := by
  cases isStatic <;> simp [around]

/-! A body is what is rendered -/

@[simp]
theorem lineText_nil : lineText [] = "" := rfl

@[simp]
theorem lineText_cons (stretch : Stretch) (rest : List Stretch) :
    lineText (stretch :: rest) = stretch.text ++ lineText rest := by
  simp [lineText]

@[simp]
theorem lineText_append (first second : List Stretch) :
    lineText (first ++ second) = lineText first ++ lineText second := by
  simp [lineText]

theorem lineText_separated (items : List (List Stretch)) :
    lineText (separated items) = ", ".intercalate (items.map lineText) := by
  induction items with
  | nil => rfl
  | cons item rest ih =>
    cases rest with
    | nil => simp [separated]
    | cons next rest =>
      have cut : separated (item :: next :: rest) =
          item ++ .plain ", " :: separated (next :: rest) := rfl
      rw [cut, lineText_append, lineText_cons, ih, List.map_cons, List.map_cons, List.map_cons,
        String.intercalate_cons_cons, String.append_assoc]
      rfl

attribute [local simp] Line.text Stretch.text Part.text

section Rendered

variable (style : Style) (type name handle managed : String) (isStatic : Bool)

theorem static?_text : lineText (static? isStatic) = Line.text (Fragment.staticMark isStatic) := by
  cases isStatic <;> rfl

theorem keeps_field : lineText (keeps style .field type handle managed []) =
    Line.text (Fragment.inner style (Fragment.fieldHandle style type handle managed)) := by
  simp [keeps, Handle.template, Handle.finder, Fragment.inner, Fragment.fieldHandle,
    Fragment.obfuscated, ← String.toList_inj]

theorem keeps_method (arity : Nat) :
    lineText (keeps style .method type "method" managed [.plain ", ", .number arity]) =
      Line.text (Fragment.inner style (Fragment.methodHandle style type managed arity)) := by
  simp [keeps, Handle.template, Handle.finder, Fragment.inner, Fragment.methodHandle,
    Fragment.obfuscated, ← String.toList_inj]

theorem binds_field : (binds style .field type handle).map lineText =
    (Fragment.boundField style type handle).map Line.text := by
  simp [binds, Handle.template, Fragment.boundField, Fragment.inner, ← String.toList_inj]

theorem binds_method : (binds style .method type "method").map lineText =
    (Fragment.boundMethod style type).map Line.text := by
  simp [binds, Handle.template, Fragment.boundMethod, Fragment.inner, ← String.toList_inj]

theorem around_text (kind : Handle) (further first : List Stretch)
    (use : String → List Stretch) :
    (around style kind type handle managed further isStatic first use).map lineText =
      [Line.text (Fragment.staticMark isStatic) ++ lineText first,
        lineText (keeps style kind type handle managed further)] ++
      (if isStatic then [lineText (use handle)]
      else (binds style kind type handle).map lineText ++ [lineText (use "bound")]) ++
      ["\x7d"] := by
  rw [← static?_text]
  cases isStatic <;> simp [around]

theorem getterBody_text : (getterBody style type name handle managed isStatic).map lineText =
    ((Fragment.getter type name handle managed isStatic).lines style).map Line.text := by
  rw [getterBody, around_text, keeps_field, binds_field]
  cases isStatic <;> simp [Fragment.lines, Fragment.inner]

theorem setterBody_text : (setterBody style type name handle managed isStatic).map lineText =
    ((Fragment.setter type name handle managed isStatic).lines style).map Line.text := by
  rw [setterBody, around_text, keeps_field, binds_field]
  cases isStatic <;> simp [Fragment.lines, Fragment.inner]

theorem parameters_text (types names : List String) :
    lineText (separated (List.zipWith parameter types names)) =
      ", ".intercalate ((types.zip names).map fun (type, name) => type ++ " " ++ name) := by
  rw [lineText_separated, List.map_zipWith, List.zip, List.map_zipWith]
  simp [parameter, String.append_assoc]

theorem arguments_text (names : List String) :
    lineText (separated (names.map fun name => [Stretch.uses name])) = ", ".intercalate names := by
  rw [lineText_separated, List.map_map]
  simp [Function.comp_def]

theorem methodBody_text (types names : List String) :
    (methodBody style type name managed types names isStatic).map lineText =
      ((Fragment.method type name managed
        ((types.zip names).map fun (type, name) => type ++ " " ++ name) names isStatic).lines
          style).map Line.text := by
  rw [methodBody, around_text, keeps_method, binds_method]
  cases isStatic <;>
    simp [Fragment.lines, Fragment.inner, parameters_text, arguments_text, ← String.toList_inj]

end Rendered

/-- The lines of a body are those that the function is rendered as. -/
theorem BodyOf.text {style : Style} {fragment : Fragment} {body : Body}
    (bodied : BodyOf style fragment body) :
    body.map lineText = (fragment.lines style).map Line.text := by
  cases bodied with
  | getter type name handle managed isStatic =>
    exact getterBody_text style type name handle managed isStatic
  | setter type name handle managed isStatic =>
    exact setterBody_text style type name handle managed isStatic
  | method returned name managed isStatic =>
    exact methodBody_text style returned name managed isStatic _ _

/-! The names in a body -/

theorem mem_typeIdentifiers {spellings : List String} {name : String} :
    name ∈ typeIdentifiers spellings ↔
      ∃ spelling ∈ spellings, name ∈ typeIdentifiers [spelling] := by
  simp [typeIdentifiers]

theorem collected_separated {β : Type} (collect : Stretch → Option β)
    (comma : collect (.plain ", ") = none) (items : List (List Stretch)) :
    (separated items).filterMap collect = items.flatMap (List.filterMap collect) := by
  induction items with
  | nil => rfl
  | cons item rest ih =>
    cases rest with
    | nil => simp [separated]
    | cons next rest =>
      have cut : separated (item :: next :: rest) =
          item ++ .plain ", " :: separated (next :: rest) := rfl
      rw [cut, List.filterMap_append, List.filterMap_cons_none comma, ih]
      rfl

theorem mem_separated {items : List (List Stretch)} {stretch : Stretch}
    (member : stretch ∈ separated items) :
    stretch = .plain ", " ∨ ∃ item ∈ items, stretch ∈ item := by
  induction items with
  | nil => cases member
  | cons item rest ih =>
    cases rest with
    | nil => exact .inr ⟨item, List.mem_cons_self, member⟩
    | cons next rest =>
      rcases List.mem_append.mp (show stretch ∈ item ++ .plain ", " :: separated (next :: rest)
        from member) with own | later
      · exact .inr ⟨item, List.mem_cons_self, own⟩
      · rcases List.mem_cons.mp later with comma | later
        · exact .inl comma
        · rcases ih later with comma | ⟨found, listed, inside⟩
          · exact .inl comma
          · exact .inr ⟨found, List.mem_cons_of_mem item listed, inside⟩

section Parameters

variable {types names : List String} (typed : types.length = names.length)

include typed

theorem parameters_declared :
    (List.zipWith parameter types names).flatMap (List.filterMap Stretch.declared?) = names := by
  induction types generalizing names with
  | nil =>
    rw [List.length_nil] at typed
    rw [List.length_eq_zero_iff.mp typed.symm]
    rfl
  | cons type types ih =>
    cases names with
    | nil => cases typed
    | cons name names =>
      rw [List.zipWith_cons_cons, List.flatMap_cons, ih (Nat.succ.inj typed)]
      rfl

theorem parameters_types :
    (List.zipWith parameter types names).flatMap (List.filterMap Stretch.spelled?) = types := by
  induction types generalizing names with
  | nil => rfl
  | cons type types ih =>
    cases names with
    | nil => cases typed
    | cons name names =>
      rw [List.zipWith_cons_cons, List.flatMap_cons, ih (Nat.succ.inj typed)]
      rfl

end Parameters

theorem mem_parameters {types names : List String} {item : List Stretch}
    (listed : item ∈ List.zipWith parameter types names) :
    ∃ type name, item = parameter type name := by
  rw [← List.map_uncurry_zip_eq_zipWith] at listed
  obtain ⟨⟨type, name⟩, -, rfl⟩ := List.mem_map.mp listed
  exact ⟨type, name, rfl⟩

theorem parameters_collect {β : Type} (types names : List String) (collect : Stretch → Option β)
    (none : ∀ type name, (parameter type name).filterMap collect = []) :
    (List.zipWith parameter types names).flatMap (List.filterMap collect) = [] := by
  rw [List.flatMap_eq_nil_iff]
  intro item listed
  obtain ⟨type, name, rfl⟩ := mem_parameters listed
  exact none type name

section Collected

variable (style : Style) (type name handle managed : String) (isStatic : Bool)

theorem getterBody_declared : (getterBody style type name handle managed isStatic).declared =
    handle :: if isStatic then [] else ["bound"] := by
  cases isStatic <;> rfl

theorem getterBody_types : (getterBody style type name handle managed isStatic).types =
    type :: type :: if isStatic then [] else [type] := by
  cases isStatic <;> rfl

theorem getterBody_used : (getterBody style type name handle managed isStatic).used =
    handle :: if isStatic then [] else ["bound", "bound"] := by
  cases isStatic <;> rfl

theorem getterBody_referred : (getterBody style type name handle managed isStatic).referred =
    ["Field", "GetClass", style.macroName] ++ if isStatic then [] else ["Field"] := by
  cases isStatic <;> rfl

theorem setterBody_declared : (setterBody style type name handle managed isStatic).declared =
    "value" :: handle :: if isStatic then [] else ["bound"] := by
  cases isStatic <;> rfl

theorem setterBody_types : (setterBody style type name handle managed isStatic).types =
    type :: type :: if isStatic then [] else [type] := by
  cases isStatic <;> rfl

theorem setterBody_used : (setterBody style type name handle managed isStatic).used =
    handle :: (if isStatic then [] else ["bound", "bound"]) ++ ["value"] := by
  cases isStatic <;> rfl

theorem setterBody_referred : (setterBody style type name handle managed isStatic).referred =
    ["Field", "GetClass", style.macroName] ++ if isStatic then [] else ["Field"] := by
  cases isStatic <;> rfl

attribute [local simp] Body.declared Body.used Body.referred Body.types methodBody around_flatten
  static? keeps binds Stretch.declared? Stretch.used? Stretch.referred? Stretch.spelled? List.filterMap_cons
  List.flatMap_map Handle.template

theorem methodBody_used (types names : List String) :
    (methodBody style type name managed types names isStatic).used =
      (if isStatic then ["method"] else ["method", "bound", "bound"]) ++ names := by
  have apart := collected_separated Stretch.used? rfl
  have none := parameters_collect types names Stretch.used? fun _ _ => rfl
  cases isStatic <;> simp [apart, none]

theorem methodBody_referred (types names : List String) :
    (methodBody style type name managed types names isStatic).referred =
      ["Method", "GetClass", style.macroName] ++ if isStatic then [] else ["Method"] := by
  have apart := collected_separated Stretch.referred? rfl
  have none := parameters_collect types names Stretch.referred? fun _ _ => rfl
  cases isStatic <;> simp [apart, none]

variable {types names : List String} (typed : types.length = names.length)

include typed

theorem methodBody_declared :
    (methodBody style type name managed types names isStatic).declared =
      names ++ "method" :: if isStatic then [] else ["bound"] := by
  have apart := collected_separated Stretch.declared? rfl
  cases isStatic <;> simp [apart, parameters_declared typed]

theorem methodBody_types :
    (methodBody style type name managed types names isStatic).types =
      type :: types ++ type :: if isStatic then [] else [type] := by
  have apart := collected_separated Stretch.spelled? rfl
  cases isStatic <;> simp [apart, parameters_types typed]

end Collected

/-! The code that is the same in every function -/

def plainTexts : List String :=
  ["static ", "<", "> ", " = ", "().GetField(", "().GetMethod(", "(", ")", ");", ";",
    ".SetInstance(this);", " ", "() \x7b", "return ", "();", "\x7d", "void ", ") \x7b", ", "]

/-- Keywords, and members of what stands in front of them. -/
def plainWords : List String :=
  ["static", "return", "void", "this", "GetField", "GetMethod", "SetInstance"]

theorem plainTexts_words : ∀ word ∈ typeIdentifiers plainTexts, word ∈ plainWords := by decide

def Stretch.Known : Stretch → Prop
  | .plain text => text ∈ plainTexts
  | _ => True

theorem separated_known {items : List (List Stretch)}
    (known : ∀ item ∈ items, ∀ stretch ∈ item, stretch.Known) :
    ∀ stretch ∈ separated items, stretch.Known := by
  intro stretch member
  rcases mem_separated member with rfl | ⟨item, listed, inside⟩
  · simp [Stretch.Known, plainTexts]
  · exact known item listed stretch inside

section Known

attribute [local simp] Stretch.Known plainTexts

theorem keeps_known (style : Style) (kind : Handle) (type name managed : String)
    {further : List Stretch} (known : ∀ stretch ∈ further, stretch.Known) :
    ∀ stretch ∈ keeps style kind type name managed further, stretch.Known := by
  cases kind <;> simpa [keeps, Handle.finder, or_imp, forall_and] using known

theorem binds_known (style : Style) (kind : Handle) (type name : String) :
    ∀ stretch ∈ (binds style kind type name).flatten, stretch.Known := by
  simp [binds]

theorem around_known (style : Style) (kind : Handle) (type handle managed : String)
    {further : List Stretch} (isStatic : Bool) {first : List Stretch} {use : String → List Stretch}
    (knownFurther : ∀ stretch ∈ further, stretch.Known)
    (knownFirst : ∀ stretch ∈ first, stretch.Known)
    (knownUse : ∀ source, ∀ stretch ∈ use source, stretch.Known) :
    ∀ stretch ∈ (around style kind type handle managed further isStatic first use).flatten,
      stretch.Known := by
  have opens : ∀ stretch ∈ static? isStatic, stretch.Known := by
    cases isStatic <;> simp [static?]
  have closes : ∀ stretch ∈ [Stretch.plain "\x7d"], stretch.Known := by simp
  rw [around_flatten]
  simp only [List.forall_mem_append]
  refine ⟨⟨⟨⟨opens, knownFirst⟩, keeps_known style kind type handle managed knownFurther⟩, ?_⟩,
    closes⟩
  cases isStatic with
  | true => exact knownUse handle
  | false =>
    exact List.forall_mem_append.mpr ⟨binds_known style kind type handle, knownUse "bound"⟩

theorem BodyOf.known {style : Style} {fragment : Fragment} {body : Body}
    (bodied : BodyOf style fragment body) : ∀ stretch ∈ body.flatten, stretch.Known := by
  cases bodied with
  | getter type name handle managed isStatic =>
    apply around_known
    · simp
    · simp
    · simp
  | setter type name handle managed isStatic =>
    apply around_known
    · simp
    · simp
    · simp
  | @method returned name managed types names isStatic typed =>
    have parameters : ∀ stretch ∈ separated (List.zipWith parameter types names),
        stretch.Known := by
      apply separated_known
      intro item listed
      obtain ⟨type, name, rfl⟩ := mem_parameters listed
      simp [parameter]
    have arguments : ∀ stretch ∈ separated (names.map fun name => [Stretch.uses name]),
        stretch.Known := by
      apply separated_known
      intro item listed
      obtain ⟨argument, -, rfl⟩ := List.mem_map.mp listed
      simp
    rw [methodBody]
    apply around_known
    · simp
    · simpa [or_imp, forall_and] using parameters
    · intro called
      simpa [or_imp, forall_and] using arguments

end Known

theorem BodyOf.plainCode_words {style : Style} {fragment : Fragment} {body : Body}
    (bodied : BodyOf style fragment body) :
    ∀ word ∈ typeIdentifiers body.plainCode, word ∈ plainWords := by
  intro word member
  obtain ⟨text, plain, inside⟩ := mem_typeIdentifiers.mp member
  obtain ⟨stretch, listed, isPlain⟩ := List.mem_filterMap.mp plain
  have known := bodied.known stretch listed
  cases stretch with
  | plain other =>
    cases isPlain
    exact plainTexts_words word (mem_typeIdentifiers.mpr ⟨text, known, inside⟩)
  | indent | heads | declares | uses | refers | spells | quoted | number => cases isPlain

end ProxyHeaders.Proxy
