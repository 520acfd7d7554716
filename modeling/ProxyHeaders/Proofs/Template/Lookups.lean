import ProxyHeaders.Proofs.Check.Nesting
import ProxyHeaders.Proofs.Code.Shown
import ProxyHeaders.Proofs.Mapping.Reasons
import ProxyHeaders.Proofs.Mapping.Spelling
import ProxyHeaders.Proofs.Template.Lines
import ProxyHeaders.Template.Literal

/-!
Names as literals. What is escaped is read back as it was, whatever its characters. The literal ends
where its inside does, in the line in which it began, unless a carriage return is in the name: that is
not escaped, and a compiler ends the line there. By such literals the functions of a struct look up
their members, each in one line of the header; and a method passes on its arguments in one line. A
type in front of them may break the line that it stands in, so what is shown of such a line is its
end.
-/
namespace ProxyHeaders.Template

/-! Escaping and reading back -/

theorem unescapeChars_plain {c : Char} {rest : List Char} (backslash : c ≠ '\\') (quote : c ≠ '"')
    (newline : c ≠ '\n') : unescapeChars (c :: rest) = (unescapeChars rest).map (c :: ·) := by
  rw [unescapeChars.eq_5 _ _ (by simp_all) (by simp_all) (by simp_all)]
  simp [backslash, quote, newline]

/-- Each character is escaped by itself: an escape in front never changes how one behind it is read. -/
theorem unescapeChars_escape (c : Char) (rest : List Char) :
    unescapeChars (escapeChar c ++ rest) = (unescapeChars rest).map (c :: ·) := by
  unfold escapeChar
  by_cases backslash : c = '\\'
  · simp [backslash, unescapeChars]
  by_cases quote : c = '"'
  · simp [quote, unescapeChars]
  by_cases newline : c = '\n'
  · simp [newline, unescapeChars]
  · simpa [backslash, quote, newline] using unescapeChars_plain backslash quote newline

theorem unescapeChars_flatMap (text : List Char) :
    unescapeChars (text.flatMap escapeChar) = some text := by
  induction text with
  | nil => rfl
  | cons c rest ih => rw [List.flatMap_cons, unescapeChars_escape, ih, Option.map_some]

theorem unescape_escape (text : String) : unescapeLiteral (escapeLiteral text) = some text := by
  rw [unescapeLiteral, escapeLiteral, String.toList_ofList, unescapeChars_flatMap, Option.map_some,
    String.ofList_toList]

/-! Where a literal ends -/

/-- The character that stands behind a backslash for another one. -/
def escapedBy : Char → Option Char
  | '\\' => some '\\'
  | '"' => some '"'
  | 'n' => some '\n'
  | _ => none

/-- Reads a literal as a compiler does, behind its opening quotation mark: the text that it denotes, and
what follows its closing mark. There is none if the line ends first, at a line feed or at a carriage
return, or if a backslash escapes nothing. -/
def readLiteral : List Char → Option (List Char × List Char)
  | [] => none
  | '"' :: rest => some ([], rest)
  | '\n' :: _ => none
  | '\r' :: _ => none
  | ['\\'] => none
  | '\\' :: c :: rest => do
    let meant ← escapedBy c
    let (text, behind) ← readLiteral rest
    return (meant :: text, behind)
  | c :: rest => do
    let (text, behind) ← readLiteral rest
    return (c :: text, behind)

/-- The inside of a well-formed literal in one line, which denotes a text and ends where the inside
does. -/
structure Denotes (inside text : String) : Prop where
  oneLine : Unbroken inside ∧ '\r' ∉ inside.toList
  decodes : unescapeLiteral inside = some text
  closes : ∀ behind, readLiteral (inside.toList ++ '"' :: behind) = some (text.toList, behind)

/-- The inside of a literal that is made for a text: in one line of the header, and read back as the
text. It is well formed if the text has no carriage return, else the line ends inside it. -/
structure Quotes (inside text : String) : Prop where
  unbroken : Unbroken inside
  decodes : unescapeLiteral inside = some text
  denotes_iff : Denotes inside text ↔ '\r' ∉ text.toList
  torn : '\r' ∈ text.toList → ∀ behind, readLiteral (inside.toList ++ '"' :: behind) = none

theorem readLiteral_escape {c : Char} (inLine : c ≠ '\r') (rest : List Char) :
    readLiteral (escapeChar c ++ rest) =
      (readLiteral rest).map fun read => (c :: read.1, read.2) := by
  unfold escapeChar
  by_cases backslash : c = '\\'
  · cases found : readLiteral rest <;> simp [backslash, readLiteral, escapedBy, found]
  by_cases quote : c = '"'
  · cases found : readLiteral rest <;> simp [quote, readLiteral, escapedBy, found]
  by_cases newline : c = '\n'
  · cases found : readLiteral rest <;> simp [newline, readLiteral, escapedBy, found]
  · have plain : readLiteral (c :: rest) = (do
        let (text, behind) ← readLiteral rest
        return (c :: text, behind)) :=
      readLiteral.eq_7 c rest quote newline inLine (fun same => absurd same backslash)
        (fun _ _ same => absurd same backslash)
    cases found : readLiteral rest <;> simp [backslash, quote, newline, plain, found]

theorem readLiteral_escaped {text : List Char} (inLine : '\r' ∉ text) (behind : List Char) :
    readLiteral (text.flatMap escapeChar ++ '"' :: behind) = some (text, behind) := by
  induction text with
  | nil => rfl
  | cons c rest ih =>
    obtain ⟨own, later⟩ := not_or.mp (mt List.mem_cons.mpr inLine)
    rw [List.flatMap_cons, List.append_assoc, readLiteral_escape (Ne.symm own), ih later]
    rfl

theorem readLiteral_torn {text : List Char} (torn : '\r' ∈ text) (behind : List Char) :
    readLiteral (text.flatMap escapeChar ++ behind) = none := by
  induction text with
  | nil => cases torn
  | cons c rest ih =>
    rw [List.flatMap_cons, List.append_assoc]
    by_cases own : c = '\r'
    · rw [own]
      rfl
    · have later : '\r' ∈ rest := (List.mem_cons.mp torn).resolve_left (Ne.symm own)
      rw [readLiteral_escape own, ih later, Option.map_none]

theorem return_mem_escape {text : List Char} :
    '\r' ∈ text.flatMap escapeChar ↔ '\r' ∈ text := by
  have own (c : Char) : '\r' ∈ escapeChar c ↔ '\r' = c := by
    unfold escapeChar
    split
    · next backslash => simp_all
    · split
      · next quote => simp_all
      · split
        · next newline => simp_all
        · exact List.mem_singleton
  simp [List.mem_flatMap, own]

theorem escape_quotes (text : String) : Quotes (escapeLiteral text) text where
  unbroken := by simpa [Unbroken, escapeLiteral] using Check.escaped_unbroken text.toList
  decodes := unescape_escape text
  denotes_iff := by
    have characters : (escapeLiteral text).toList = text.toList.flatMap escapeChar :=
      String.toList_ofList
    constructor
    · intro denotes
      rw [← return_mem_escape, ← characters]
      exact denotes.oneLine.2
    · intro inLine
      refine ⟨⟨?_, ?_⟩, unescape_escape text, ?_⟩
      · simpa [Unbroken, escapeLiteral] using Check.escaped_unbroken text.toList
      · rwa [characters, return_mem_escape]
      · rw [characters]
        exact readLiteral_escaped inLine
  torn := by
    intro torn behind
    rw [escapeLiteral, String.toList_ofList]
    exact readLiteral_torn torn _

/-! The lines that look a name up -/

open ProxyHeaders.Code ProxyHeaders.Mapping ProxyHeaders.Names ProxyHeaders.Text

def literalCall (macroName inside : String) : String := macroName ++ "(\"" ++ inside ++ "\")"

/-- The end of the line in which a function looks up what it stands for, by literals made for the
managed names. -/
inductive LooksUp (macroName : String) : Fragment → String → Prop where
  | bootstrap {space name image first second third : String} (ofSpace : Quotes first space)
    (ofName : Quotes second name) (ofImage : Quotes third image) :
    LooksUp macroName (.bootstrap space name image)
      ("static BNM::Class klass = Class(" ++ literalCall macroName first ++ ", " ++
        literalCall macroName second ++ ", Image(" ++ literalCall macroName third ++ "));")
  | instanceField {type name managed inside : String} (quotes : Quotes inside managed) :
    LooksUp macroName (.singleton type name managed true)
      (" = GetClass().GetField(" ++ literalCall macroName inside ++ ");")
  | instanceMethod {type name managed inside : String} (quotes : Quotes inside managed) :
    LooksUp macroName (.singleton type name managed false)
      (" = GetClass().GetMethod(" ++ literalCall macroName inside ++ ", " ++ toString 0 ++ ");")
  | getter {type name handle managed inside : String} {isStatic : Bool}
    (quotes : Quotes inside managed) :
    LooksUp macroName (.getter type name handle managed isStatic)
      (" = GetClass().GetField(" ++ literalCall macroName inside ++ ");")
  | setter {type name handle managed inside : String} {isStatic : Bool}
    (quotes : Quotes inside managed) :
    LooksUp macroName (.setter type name handle managed isStatic)
      (" = GetClass().GetField(" ++ literalCall macroName inside ++ ");")
  | method {returnType name managed inside : String} {parameters arguments : List String}
    {isStatic : Bool} (quotes : Quotes inside managed) :
    LooksUp macroName (.method returnType name managed parameters arguments isStatic)
      (" = GetClass().GetMethod(" ++ literalCall macroName inside ++ ", " ++
        toString arguments.length ++ ");")

namespace Fragment

def isFunction : Fragment → Bool
  | .enumeration .. | .preamble .. => false
  | _ => true

/-- The statement in which a method calls the managed one; a static one is called unbound. -/
def call? : Fragment → Option String
  | .method _ _ _ _ arguments isStatic =>
    some ((if isStatic then "return method(" else "return bound(") ++
      ", ".intercalate arguments ++ ");")
  | _ => none

def HasEnd (style : Style) (fragment : Fragment) (tail : String) : Prop :=
  ∃ line ∈ fragment.lines style, ∃ front, line.text = front ++ tail

end Fragment

/-! The lines of a function -/

theorem text_append (first second : Line) :
    Line.text (first ++ second) = Line.text first ++ Line.text second := by
  simp [Line.text]

theorem text_inner (style : Style) (line : Line) :
    Line.text (Fragment.inner style line) = style.indent ++ Line.text line := by
  simp [Fragment.inner, Line.text, Part.text]

theorem text_code (text : String) : Line.text [.code text] = text := by
  simp [Line.text, Part.text]

theorem text_obfuscated (style : Style) (name : String) :
    Line.text (Fragment.obfuscated style name) =
      literalCall style.macroName (escapeLiteral name) := by
  simp [Fragment.obfuscated, Line.text, Part.text, literalCall, ← String.toList_inj]

theorem fieldHandle_end (style : Style) (type handle managed : String) :
    ∃ front, Line.text (Fragment.inner style (Fragment.fieldHandle style type handle managed)) =
      front ++ (" = GetClass().GetField(" ++
        literalCall style.macroName (escapeLiteral managed) ++ ");") := by
  refine ⟨style.indent ++ ("static Field<" ++ type ++ "> " ++ handle), ?_⟩
  rw [text_inner, Fragment.fieldHandle, text_append, text_append, text_obfuscated]
  simp [Line.text, Part.text, String.append_assoc]

theorem methodHandle_end (style : Style) (type managed : String) (arity : Nat) :
    ∃ front, Line.text (Fragment.inner style (Fragment.methodHandle style type managed arity)) =
      front ++ (" = GetClass().GetMethod(" ++
        literalCall style.macroName (escapeLiteral managed) ++ ", " ++ toString arity ++ ");") := by
  refine ⟨style.indent ++ ("static Method<" ++ type ++ "> method"), ?_⟩
  rw [text_inner, Fragment.methodHandle, text_append, text_append, text_obfuscated]
  simp [Line.text, Part.text, ← String.toList_inj]

theorem classHandle_end (style : Style) (space name image : String) :
    Line.text (Fragment.inner style (Fragment.classHandle style space name image)) =
      style.indent ++ ("static BNM::Class klass = Class(" ++
        literalCall style.macroName (escapeLiteral space) ++ ", " ++
        literalCall style.macroName (escapeLiteral name) ++ ", Image(" ++
        literalCall style.macroName (escapeLiteral image) ++ "));") := by
  rw [text_inner, Fragment.classHandle]
  simp only [text_append, text_obfuscated, text_code]

theorem looks_up (style : Style) {fragment : Fragment} (function : fragment.isFunction) :
    ∃ tail, LooksUp style.macroName fragment tail ∧ fragment.HasEnd style tail := by
  have second {first line : Line} {rest : List Line} : line ∈ first :: line :: rest := by simp
  cases fragment with
  | bootstrap space name image =>
    refine ⟨_, .bootstrap (escape_quotes space) (escape_quotes name) (escape_quotes image), ?_⟩
    exact ⟨_, second, _, classHandle_end style space name image⟩
  | singleton type name managed viaField =>
    cases viaField with
    | true =>
      refine ⟨_, .instanceField (escape_quotes managed), ?_⟩
      exact ⟨_, second, fieldHandle_end style type "field" managed⟩
    | false =>
      refine ⟨_, .instanceMethod (escape_quotes managed), ?_⟩
      exact ⟨_, second, methodHandle_end style type managed 0⟩
  | getter type name handle managed isStatic =>
    refine ⟨_, .getter (escape_quotes managed), ?_⟩
    exact ⟨_, second, fieldHandle_end style type handle managed⟩
  | setter type name handle managed isStatic =>
    refine ⟨_, .setter (escape_quotes managed), ?_⟩
    exact ⟨_, second, fieldHandle_end style type handle managed⟩
  | method returnType name managed parameters arguments isStatic =>
    refine ⟨_, .method (escape_quotes managed), ?_⟩
    exact ⟨_, second, methodHandle_end style returnType managed arguments.length⟩
  | enumeration name underlying entries => cases function
  | preamble spaces resolveHeader includes => cases function

theorem calls (style : Style) {fragment : Fragment} {call : String}
    (called : fragment.call? = some call) :
    ∃ line ∈ fragment.lines style, line.text = style.indent ++ call := by
  cases fragment with
  | method returnType name managed parameters arguments isStatic =>
    cases called
    cases isStatic with
    | true =>
      refine ⟨Fragment.inner style [.code "return method(", .hole (", ".intercalate arguments),
        .code ");"], by simp [Fragment.lines], ?_⟩
      rw [text_inner]
      simp [Line.text, Part.text, String.append_assoc]
    | false =>
      refine ⟨Fragment.inner style [.code "return bound(", .hole (", ".intercalate arguments),
        .code ");"], by simp [Fragment.lines], ?_⟩
      rw [text_inner]
      simp [Line.text, Part.text, String.append_assoc]
  | bootstrap | singleton | getter | setter | enumeration | preamble => cases called

/-! What is shown of these lines -/

/-- An unbroken text that ends a statement. -/
structure IsStatement (text : String) : Prop where
  oneLine : Unbroken text
  ends : text.toList.getLast? = some ';'

theorem literalCall_unbroken {macroName inside text : String} (oneLine : Unbroken macroName)
    (quotes : Quotes inside text) : Unbroken (literalCall macroName inside) :=
  unbroken_append (unbroken_append (unbroken_append oneLine (by decide)) quotes.unbroken)
    (by decide)

theorem IsStatement.closed {front finish : String} (oneLine : Unbroken front)
    (statement : IsStatement finish) : IsStatement (front ++ finish) where
  oneLine := unbroken_append oneLine statement.oneLine
  ends := by rw [String.toList_append, List.getLast?_append, statement.ends, Option.some_or]

theorem LooksUp.statement {macroName tail : String} {fragment : Fragment}
    (oneLine : Unbroken macroName) (looks : LooksUp macroName fragment tail) :
    IsStatement tail := by
  have close : IsStatement ");" := ⟨by decide, by decide⟩
  have field {inside managed : String} (quotes : Quotes inside managed) :
      IsStatement (" = GetClass().GetField(" ++ literalCall macroName inside ++ ");") :=
    .closed (unbroken_append (by decide) (literalCall_unbroken oneLine quotes)) close
  have method {inside managed : String} (quotes : Quotes inside managed) (arity : Nat) :
      IsStatement (" = GetClass().GetMethod(" ++ literalCall macroName inside ++ ", " ++
        toString arity ++ ");") := by
    have called : Unbroken (" = GetClass().GetMethod(" ++ literalCall macroName inside) :=
      unbroken_append (by decide) (literalCall_unbroken oneLine quotes)
    have counted : Unbroken (toString arity) := neutral_unbroken (word_neutral (.number arity))
    exact .closed (unbroken_append (unbroken_append called (by decide)) counted) close
  cases looks with
  | bootstrap ofSpace ofName ofImage =>
    have comma : Unbroken ", " := by decide
    have opening : Unbroken ", Image(" := by decide
    have called : Unbroken "static BNM::Class klass = Class(" := by decide
    have spaced := unbroken_append called (literalCall_unbroken oneLine ofSpace)
    have named := unbroken_append (unbroken_append spaced comma)
      (literalCall_unbroken oneLine ofName)
    have imaged := unbroken_append (unbroken_append named opening)
      (literalCall_unbroken oneLine ofImage)
    exact .closed imaged ⟨by decide, by decide⟩
  | instanceField quotes => exact field quotes
  | instanceMethod quotes => exact method quotes 0
  | getter quotes => exact field quotes
  | setter quotes => exact field quotes
  | method quotes => exact method quotes _

theorem IsStatement.shown_at_end {style : Style} {fragment : Fragment} {tail : String}
    (statement : IsStatement tail) (ends : fragment.HasEnd style tail) :
    ∃ start, start ++ tail ∈ shown (written (fragment.lines style)) := by
  obtain ⟨line, listed, front, whole⟩ := ends
  obtain ⟨start, seen⟩ := shown_end front statement.oneLine statement.ends (by decide)
  refine ⟨start, ?_⟩
  rw [written, shown_unlines, List.flatMap_map, List.mem_flatMap]
  exact ⟨line, listed, by rwa [whole]⟩

theorem IsStatement.shown_behind {margin statement : String} (own : IsStatement statement)
    (valid : IsMargin margin) : margin ++ statement ∈ Code.shown (margin ++ statement) := by
  have whole : IsStatement (margin ++ statement) := .closed valid.unbroken own
  rw [shown_whole whole.oneLine whole.ends (by decide)]
  exact List.mem_singleton_self _

end ProxyHeaders.Template
