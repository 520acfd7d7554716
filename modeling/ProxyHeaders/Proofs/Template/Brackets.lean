import ProxyHeaders.Proofs.Check.Lines
import ProxyHeaders.Proofs.Names.Words
import ProxyHeaders.Proofs.Template.Lines

/-!
The brackets in every piece of header text. The parts that are the same in every header are
followed by computation; what is put in only has to be balanced by itself.
-/
namespace ProxyHeaders.Template

open ProxyHeaders.Check ProxyHeaders.Text

def Part.Sound : Part → Prop
  | .code _ | .quoted _ => True
  | .hole text => Balanced text
  | .path text => '\n' ∉ text.toList ∧ Enclosed text.toList

namespace Line

/-- The brackets open behind a line, as its fixed parts say. -/
def follow : List Char → Line → Option (List Char)
  | opened, [] => some opened
  | opened, .code text :: rest =>
    if text.toList.all isCopied then (nest opened text.toList).bind fun after => follow after rest
    else none
  | opened, _ :: rest => follow opened rest

/-- Whether a line ends in something that trimming does not shorten. -/
def endsSolid (line : Line) : Bool :=
  match line.getLast? with
  | some (.code text) => (text.toList.getLast?.map fun c => !isBlank c).getD false
  | some (.quoted _) | some (.path _) => true
  | _ => false

def followAll : List Char → List Line → Option (List Char)
  | opened, [] => some opened
  | opened, [] :: rest => followAll opened rest
  | opened, line :: rest =>
    if endsSolid line then (follow opened line).bind fun after => followAll after rest else none

end Line

theorem follow_passes {before after : List Char} {line : Line}
    (followed : line.follow before = some after) (sound : ∀ part ∈ line, part.Sound) :
    Passes before line.text after := by
  induction line generalizing before with
  | nil =>
    have same : before = after := by simpa [Line.follow] using followed
    rw [same]
    exact Neutral.empty.balanced after
  | cons part rest inner =>
    have later := fun {middle : List Char} (followed : Line.follow middle rest = some after) =>
      inner followed fun other member => sound other (by simp [member])
    have partSound := sound part (by simp)
    have shape : Line.text (part :: rest) = part.text ++ Line.text rest := by
      simp [Line.text, String.join_cons]
    rw [shape]
    cases part with
    | code text =>
      by_cases copied : text.toList.all isCopied
      · simp only [Line.follow, copied, if_true] at followed
        cases nested : nest before text.toList with
        | none => simp [nested] at followed
        | some middle =>
          rw [nested] at followed
          have start : Passes before text middle :=
            passes_copied (by simpa using copied) nested
          exact start.append (later followed)
      · simp [Line.follow, copied] at followed
    | hole text => exact (partSound before).append (later followed)
    | quoted name => exact (balanced_quoted name before).append (later followed)
    | path text =>
      exact (balanced_literal partSound.1 partSound.2 before).append (later followed)

theorem endsSolid_last {line : Line} (solid : line.endsSolid) :
    ∃ c, line.text.toList.getLast? = some c ∧ isBlank c = false := by
  cases last : line.getLast? with
  | none => simp [Line.endsSolid, last] at solid
  | some part =>
    obtain ⟨start, rfl⟩ := List.getLast?_eq_some_iff.mp last
    cases part with
    | code text =>
      cases ending : text.toList.getLast? with
      | none => simp [Line.endsSolid, ending] at solid
      | some c =>
        refine ⟨c, ?_, by simpa [Line.endsSolid, ending] using solid⟩
        simp [Line.text, Part.text, ending]
    | hole text => simp [Line.endsSolid] at solid
    | quoted name => exact ⟨'"', by simp [Line.text, Part.text, List.getLast?_cons], by decide⟩
    | path text => exact ⟨'"', by simp [Line.text, Part.text, List.getLast?_cons], by decide⟩

theorem followAll_spans {before after : List Char} {lines : List Line}
    (followed : Line.followAll before lines = some after)
    (sound : ∀ line ∈ lines, ∀ part ∈ line, part.Sound) :
    Spans before (lines.map Line.text) after := by
  induction lines generalizing before with
  | nil =>
    have same : before = after := by simpa [Line.followAll] using followed
    rw [same]
    exact .done after
  | cons line rest inner =>
    have later := fun {middle : List Char} (followed : Line.followAll middle rest = some after) =>
      inner followed fun other member => sound other (by simp [member])
    cases line with
    | nil => exact .next (turns_empty before) (later followed)
    | cons part parts =>
      by_cases solid : Line.endsSolid (part :: parts)
      · simp only [Line.followAll, solid, if_true] at followed
        cases first : Line.follow before (part :: parts) with
        | none => simp [first] at followed
        | some middle =>
          rw [first] at followed
          have passes := follow_passes first (sound _ (by simp))
          obtain ⟨c, last, notBlank⟩ := endsSolid_last solid
          exact .next (turns_code passes last notBlank) (later followed)
      · simp [Line.followAll, solid] at followed

theorem turns_line {before after : List Char} {line : Line}
    (followed : Line.followAll before [line] = some after) (sound : ∀ part ∈ line, part.Sound) :
    Turns before line.text after := by
  have spans := followAll_spans followed (by simpa using sound)
  cases spans with
  | next turn later =>
    cases later with
    | done => exact turn

theorem followAll_append (opened : List Char) (first second : List Line) :
    Line.followAll opened (first ++ second) =
      (Line.followAll opened first).bind fun after => Line.followAll after second := by
  induction first generalizing opened with
  | nil => rfl
  | cons line rest inner =>
    cases line with
    | nil => exact inner opened
    | cons part parts =>
      by_cases solid : Line.endsSolid (part :: parts)
      · cases followed : Line.follow opened (part :: parts) with
        | none => simp [Line.followAll, solid, followed]
        | some after => simp [Line.followAll, solid, followed, inner]
      · simp [Line.followAll, solid]

theorem followAll_each {α : Type} (opened : List Char) (items : List α) (line : α → Line)
    (same : ∀ item, Line.followAll opened [line item] = some opened) :
    Line.followAll opened (items.map line) = some opened := by
  induction items with
  | nil => rfl
  | cons item rest inner =>
    rw [List.map_cons, ← List.singleton_append, followAll_append, same item]
    exact inner

namespace Fragment

/-- Everything put into a piece leaves the brackets around it alone. -/
def Sound (style : Style) (fragment : Fragment) : Prop :=
  ∀ line ∈ fragment.lines style, ∀ part ∈ line, part.Sound

theorem followed (style : Style) (fragment : Fragment) :
    Line.followAll [] (fragment.lines style) = some [] := by
  cases fragment with
  | bootstrap space name image => rfl
  | singleton type name managed viaField => cases viaField <;> rfl
  | getter type name handle managed isStatic => cases isStatic <;> rfl
  | setter type name handle managed isStatic => cases isStatic <;> rfl
  | method returnType name managed parameters arguments isStatic => cases isStatic <;> rfl
  -- With a list inside, a piece does not compute: its entries are followed by induction.
  | enumeration name underlying entries =>
    have opening : Line.followAll []
        [[.code "enum class ", .hole name, .code " : ", .hole underlying, .code " \x7b"]] =
        some ['\x7b'] := rfl
    simp only [lines, followAll_append, opening, Option.bind_some]
    rw [followAll_each ['\x7b'] entries _ fun _ => rfl]
    rfl
  | preamble spaces resolveHeader includes =>
    have spaceLines := followAll_each [] spaces
      (fun space => [.code "using namespace ", .hole space, .code ";"]) fun _ => rfl
    have includeLines := followAll_each [] includes
      (fun target => [.code "#include ", .path target]) fun _ => rfl
    have pragma : Line.followAll [] [[.code "#pragma once"]] = some [] := rfl
    have macroLines : Line.followAll []
        [[.code "#define ", .hole style.macroName, .code "(str) BNM_OBFUSCATE(str)"],
          [.code "#include ", .path resolveHeader]] = some [] := rfl
    simp only [lines, followAll_append, pragma, Option.bind_some, spaceLines, macroLines,
      includeLines]

theorem spans_written {style : Style} {fragment : Fragment} (sound : fragment.Sound style)
    (outer : List Char) : Spans outer (splitLines (written (fragment.lines style))) outer := by
  have spans := followAll_spans (fragment.followed style) sound
  have solid : solidLines (written (fragment.lines style)) =
      solidOf ((fragment.lines style).map Line.text) := solidLines_unlines spans.unbroken
  rw [← Spans.solid, ← solidLines, solid, Spans.solid]
  simpa using spans.under outer

/-! Pieces are sound if the names and types put into their code are balanced. -/

section Pieces

variable {style : Style} (macroName : Balanced style.macroName) (indent : Balanced style.indent)
include macroName indent

attribute [local simp] Fragment.Sound Fragment.lines Part.Sound Fragment.inner Fragment.obfuscated
  Fragment.staticMark Fragment.classHandle Fragment.fieldHandle Fragment.methodHandle
  Fragment.boundField Fragment.boundMethod

theorem bootstrap_sound (space name image : String) :
    (Fragment.bootstrap space name image).Sound style := by
  simp [macroName, indent]

theorem singleton_sound {type name : String} (typeBalanced : Balanced type)
    (nameBalanced : Balanced name) (managed : String) (viaField : Bool) :
    (Fragment.singleton type name managed viaField).Sound style := by
  have field : Balanced "field" := Neutral.balanced (by decide)
  have zero : Balanced (toString 0) := Neutral.balanced (by decide)
  cases viaField with
  | false => simpa [macroName, indent, typeBalanced, nameBalanced] using zero
  | true => simp [macroName, indent, typeBalanced, nameBalanced, field]

theorem getter_sound {type name handle : String} (typeBalanced : Balanced type)
    (nameBalanced : Balanced name) (handleBalanced : Balanced handle) (managed : String)
    (isStatic : Bool) : (Fragment.getter type name handle managed isStatic).Sound style := by
  cases isStatic <;> simp [macroName, indent, typeBalanced, nameBalanced, handleBalanced]

theorem setter_sound {type name handle : String} (typeBalanced : Balanced type)
    (nameBalanced : Balanced name) (handleBalanced : Balanced handle) (managed : String)
    (isStatic : Bool) : (Fragment.setter type name handle managed isStatic).Sound style := by
  cases isStatic <;> simp [macroName, indent, typeBalanced, nameBalanced, handleBalanced]

theorem method_sound {returnType name : String} {parameters arguments : List String}
    (returnBalanced : Balanced returnType) (nameBalanced : Balanced name)
    (parametersBalanced : Balanced (", ".intercalate parameters))
    (argumentsBalanced : Balanced (", ".intercalate arguments)) (managed : String)
    (isStatic : Bool) :
    (Fragment.method returnType name managed parameters arguments isStatic).Sound style := by
  have arity : Balanced arguments.length.repr := (Names.word_neutral (.number _)).balanced
  cases isStatic <;> simp [macroName, indent, returnBalanced, nameBalanced, parametersBalanced,
    argumentsBalanced, arity]

omit macroName in
theorem enumeration_sound {name underlying : String} {entries : List (String × String)}
    (nameBalanced : Balanced name) (underlyingBalanced : Balanced underlying)
    (entriesBalanced : ∀ entry ∈ entries, Balanced entry.1 ∧ Balanced entry.2) :
    (Fragment.enumeration name underlying entries).Sound style := by
  simp only [Sound, lines, List.forall_mem_append, List.forall_mem_map, List.forall_mem_singleton]
  refine ⟨⟨?_, ?_⟩, ?_⟩
  · simp [nameBalanced, underlyingBalanced]
  · intro entry listed
    simp [indent, entriesBalanced entry listed]
  · simp

omit indent in
theorem preamble_sound {spaces includes : List String} {resolveHeader : String}
    (spacesBalanced : ∀ space ∈ spaces, Balanced space)
    (paths : ∀ path ∈ resolveHeader :: includes, '\n' ∉ path.toList ∧ Enclosed path.toList) :
    (Fragment.preamble spaces resolveHeader includes).Sound style := by
  obtain ⟨header, others⟩ := List.forall_mem_cons.mp paths
  simp only [Sound, lines, List.forall_mem_append, List.forall_mem_map, List.forall_mem_singleton,
    List.forall_mem_cons]
  refine ⟨⟨⟨?_, ?_⟩, ?_⟩, ?_⟩
  · simp
  · intro space listed
    simp [spacesBalanced space listed]
  · simp [macroName, header]
  · intro path listed
    simp [others path listed]

end Pieces

end Fragment

end ProxyHeaders.Template
