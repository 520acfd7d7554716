import ProxyHeaders.Proofs.Mapping.Reasons
import ProxyHeaders.Proofs.Proxy.Brackets
import ProxyHeaders.Proofs.Proxy.Transcript
import ProxyHeaders.Proofs.Template.Lines
import ProxyHeaders.Proxy.Definition

/-!
What is written of a whole type: a struct, an enum, or a comment. With the templates of the shelf
no piece fails to render, so a class lacks its body only where its base is missing; and the code of
a type can stand inside any namespace.
-/
namespace ProxyHeaders.Proxy

open ProxyHeaders.Check ProxyHeaders.Code ProxyHeaders.Mapping ProxyHeaders.Names
  ProxyHeaders.Template

/-! Which types get a body -/

namespace Draft

variable {scene : Scene} (render : scene.render = renderer)

include render

theorem write_renders (draft : Draft) (pieces : List Piece) :
    (draft.write scene pieces).2 = none := by
  induction pieces generalizing draft with
  | nil => rfl
  | cons piece rest ih =>
    rw [write, render, rendered]
    exact ih _

theorem addMembers_renders (image : String) (draft : Draft) :
    (draft.addMembers scene image).2 = none := by
  rcases draft.addMembers_cases scene image with
      ⟨after, failure, bootstrap, -⟩ | ⟨started, -, onward⟩
  · have none := write_renders render draft (bootstrapPieces scene image)
    rw [bootstrap] at none
    cases none
  · rcases onward with ⟨after, failure, singletons, -⟩ | ⟨reached, -, ended⟩
    · have none := write_renders render started (singletonPieces scene started.claimed)
      rw [singletons] at none
      cases none
    · rw [ended]

end Draft

theorem define_isComplete {job : Job} {type : TypeDecl} (render : job.renderFor type = renderer) :
    (define job type).isComplete ↔
      type.isEnum ∨ ∀ source, job.map.resolveBase type ≠ .missing source := by
  unfold define
  by_cases enum : type.isEnum
  · rw [if_pos enum, defineEnum, writeEnum, render, rendered]
    exact ⟨fun _ => .inl enum, fun _ => rfl⟩
  · rw [if_neg enum]
    simp only [enum, Bool.false_eq_true, false_or]
    cases base : job.map.resolveBase type with
    | missing source =>
      simp only [defineClass, base, BaseClass.spelling?]
      simp [Definition.isComplete]
    | placeholder source | provided spelling source | itself source
        | generated spelling source target =>
      simp only [defineClass, base, BaseClass.spelling?]
      split
      · next draft added => simp [Definition.isComplete]
      · next draft failure added =>
        rw [Prod.ext_iff, Draft.addMembers_renders render] at added
        exact absurd added.2 (by simp)

/-! What their code leaves open -/

namespace Draft

variable {scene : Scene} {opened : List Char}

theorem foldl_sound {α : Type} {items : List α} {add : Draft → α → Draft} {draft : Draft}
    (sound : draft.Sound opened)
    (step : ∀ item ∈ items, ∀ draft : Draft,
      draft.Sound opened → (add draft item).Sound opened) :
    (items.foldl add draft).Sound opened := by
  induction items generalizing draft with
  | nil => exact sound
  | cons item rest inner =>
    exact inner (step item (by simp) draft sound) fun other member =>
      step other (List.mem_cons_of_mem item member)

theorem addNamed_sound (valid : scene.Sound) {draft : Draft} (sound : draft.Sound opened) :
    (draft.addNamed scene).Sound opened := by
  have fields : ∀ field ∈ emittableFields scene.type, field ∈ scene.type.fields :=
    fun field member => (List.mem_filter.mp (mem_of_sortByName member)).1
  refine foldl_sound (foldl_sound (foldl_sound (foldl_sound sound ?_) ?_) ?_) ?_
  · intro field member draft sound
    exact perform_sound valid sound _ _ (getterPlan_sound valid draft.claimed (fields field member))
  · intro field member draft sound
    exact perform_sound valid sound _ _ (setterPlan_sound valid draft.claimed (fields field member))
  · intro property member draft sound
    have own := (List.mem_filter.mp (mem_of_sortByName member)).1
    exact perform_sound valid sound _ _ (propertyPlan_sound valid draft.claimed own)
  · intro method member draft sound
    have own := (List.mem_filter.mp (mem_of_sortByName member)).1
    exact perform_sound valid sound _ _ (methodPlan_sound valid draft.claimed own)

theorem singletonPieces_sound (valid : scene.Sound) (claimed : Claimed) :
    ∀ piece ∈ singletonPieces scene claimed, piece.fragment.Sound scene.style := by
  have pointer : Balanced (scene.structName ++ "*") :=
    ((word_neutral valid.struct).append (by decide)).balanced
  have accessor {name : String} (word : IsWord name) (managed : String) (viaField : Bool) :
      (Fragment.singleton (scene.structName ++ "*") name managed viaField).Sound scene.style :=
    Fragment.singleton_sound valid.macroBalanced valid.indentBalanced pointer
      (word_balanced word) managed viaField
  simp only [singletonPieces, List.forall_mem_append]
  refine ⟨?_, ?_⟩
  · split
    · simpa using accessor (by decide) ("get_" ++ instanceProperty) false
    · simp
  · split
    · simpa using accessor (by decide) instanceField true
    · simp

theorem addMembers_sound (valid : scene.Sound) (image : String) {draft : Draft}
    (sound : draft.Sound opened) :
    ∃ after, draft.addMembers scene image = (after, none) ∧ after.Sound opened := by
  have bootstrap : ∀ piece ∈ bootstrapPieces scene image, piece.fragment.Sound scene.style := by
    simpa [bootstrapPieces] using
      Fragment.bootstrap_sound valid.macroBalanced valid.indentBalanced _ _ image
  obtain ⟨started, bootstrapped, startedSound⟩ := write_sound valid sound bootstrap
  obtain ⟨reached, instanced, reachedSound⟩ :=
    write_sound valid startedSound (singletonPieces_sound valid started.claimed)
  refine ⟨reached.addNamed scene, ?_, addNamed_sound valid reachedSound⟩
  simp only [addMembers, addBootstrap, bootstrapped, addSingletons, instanced]

end Draft

/-- A job with the shelf's templates, an indentation of spaces and names that are plain code. -/
structure Job.Sound (job : Job) : Prop where
  render : job.render = renderer
  renderFor : ∀ type, job.renderFor type = renderer
  macroName : Neutral job.settings.obfuscateMacro
  placeholder : Neutral job.settings.placeholderBase
  wordy : job.map.sanitizer.Wordy
  declared : ∀ type ∈ job.map.declared, Dotted type.space

theorem indent_spaces (settings : Settings) : ∀ c ∈ settings.indent.toList, c = ' ' := by
  intro c member
  rw [Settings.indent, String.toList_ofList] at member
  exact List.eq_of_mem_replicate member

/-- Code whose brackets are closed in every line it ends with, wherever it stands. -/
def Closed (code : String) : Prop := ∀ outer, Spans outer (Text.splitLines code) outer

theorem enumLiteral_balanced (value : Int) (underlying : Option String) :
    Balanced (enumLiteral value underlying) := by
  have number (value : Int) : Neutral (toString value) := by
    cases value with
    | ofNat value => exact word_neutral (.number value)
    | negSucc value => exact Neutral.append (by decide) (word_neutral (.number (value + 1)))
  have bracketed (text : String) (copied : text.toList.all isCopied)
      (closed : nest [] text.toList = some []) : Balanced text :=
    balanced_of_empty (passes_copied (by simpa using copied) closed)
  simp only [enumLiteral]
  split
  · refine ((number _).append ?_).balanced
    split <;> decide
  · split
    · split
      · exact bracketed _ (by decide) (by decide)
      · exact ((number _).append (by decide)).balanced
    · split
      · exact bracketed _ (by decide) (by decide)
      · exact (number _).balanced

theorem underlyingSpelling_neutral (underlying : Option String) :
    Neutral (underlyingSpelling underlying) := by
  unfold underlyingSpelling
  cases found : knownSpellings.lookup ("System." ++ underlyingName underlying) with
  | none => simp only [Option.getD_none]; decide
  | some spelling => exact TypeMap.known_neutral found

theorem enumFragment_sound {sanitizer : Sanitizer} (wordy : sanitizer.Wordy) (style : Style)
    (indent : ∀ c ∈ style.indent.toList, c = ' ') (type : TypeDecl) {name : String}
    (word : IsWord name) : (enumFragment sanitizer type name).Sound style := by
  refine Fragment.enumeration_sound (spaces_neutral indent).balanced (word_balanced word)
    (underlyingSpelling_neutral type.enumUnderlying).balanced ?_
  intro entry listed
  obtain ⟨name, literal⟩ := entry
  obtain ⟨nameListed, literalListed⟩ := List.of_mem_zip listed
  refine ⟨word_balanced (spread_word ?_ name nameListed), ?_⟩
  · intro source found
    obtain ⟨member, -, rfl⟩ := List.mem_map.mp found
    exact Sanitizer.identifier_word wordy member.name
  · obtain ⟨member, -, rfl⟩ := List.mem_map.mp literalListed
    exact enumLiteral_balanced member.value type.enumUnderlying

theorem defineEnum_closed {job : Job} (valid : job.Sound) (type : TypeDecl) :
    ∃ code messages, defineEnum job type = .written code messages true ∧ Closed code := by
  have spaces := indent_spaces job.settings
  have fragment := enumFragment_sound valid.wordy job.style spaces type
    (TypeMap.structName_word valid.wordy type.name)
  have buffer := ((Code.Sound.start spaces).block (Fragment.spans_written fragment [])).blank
  refine ⟨_, { warnings := enumWarnings job.map.sanitizer type }, ?_, buffer.spans_text⟩
  simp only [defineEnum, writeEnum, valid.renderFor, rendered]
  rfl

theorem baseMessage_unbroken {structName : String} {base : BaseClass} (word : IsWord structName)
    (oneLine : base.OneLine) (message : String) (said : baseMessage structName base = some message) :
    Unbroken message := by
  have struct := neutral_unbroken (word_neutral word)
  have quoting {opening source : String} (start : Unbroken opening) (text : String)
      (between : Unbroken text) (quoted : Unbroken source) :
      Unbroken (opening ++ structName ++ text ++ source ++ "'") :=
    unbroken_append (unbroken_append (unbroken_append (unbroken_append start struct) between)
      quoted) (by decide)
  cases base with
  | placeholder source => simp [baseMessage] at said
  | provided spelling source => simp [baseMessage] at said
  | itself source =>
    rw [← Option.some_inj.mp said]
    exact unbroken_append (unbroken_append (by decide) struct) (by decide)
  | generated spelling source target =>
    rw [← Option.some_inj.mp said]
    exact quoting (by decide) _ (by decide) oneLine
  | missing source =>
    rw [← Option.some_inj.mp said]
    exact quoting (by decide) _ (by decide) oneLine

theorem openStruct_sound {buffer : Buffer} (sound : Code.Sound [] [] buffer)
    {structName base : String} {message : Option String} (struct : IsWord structName)
    (spelling : Neutral base) (unbroken : ∀ text, message = some text → Unbroken text) :
    Code.Sound [] ['\x7b'] (openStruct buffer structName base message) := by
  have opening : Turns [] ("struct " ++ structName ++ " : " ++ base ++ " \x7b") ['\x7b'] := by
    have line : Line.followAll [] [[.code "struct ", .hole structName, .code " : ", .hole base,
        .code " \x7b"]] = some ['\x7b'] := rfl
    have turn := turns_line line (by simp [Part.Sound, word_balanced struct, spelling.balanced])
    simpa [Line.text, Part.text, String.append_assoc] using turn
  have publicLine : Turns ['\x7b'] "public:" ['\x7b'] := by
    have line : Line.followAll ['\x7b'] [[.code "public:"]] = some ['\x7b'] := rfl
    simpa [Line.text, Part.text] using turns_line line (by simp [Part.Sound])
  cases message with
  | none => exact (sound.line opening).line publicLine
  | some text => exact ((sound.comment (unbroken text rfl)).line opening).line publicLine

theorem closeStruct_sound {buffer : Buffer} (sound : Code.Sound [] ['\x7b'] buffer) :
    Code.Sound [] [] (closeStruct buffer) := by
  have closing : Turns ['\x7b'] "\x7d;" [] := by
    have line : Line.followAll ['\x7b'] [[.code "\x7d;"]] = some [] := rfl
    simpa [Line.text, Part.text] using turns_line line (by simp [Part.Sound])
  exact (sound.line closing).blank

theorem members_closed {scene : Scene} (valid : scene.Sound) {image : String} {draft : Draft}
    (sound : draft.Sound ['\x7b']) :
    ∃ code messages complete,
      (match draft.addMembers scene image with
      | (draft, none) =>
        Definition.written (closeStruct draft.buffer.dedent).text draft.diagnostics true
      | (_, some failure) => .failed failure) = .written code messages complete ∧
      Closed code := by
  obtain ⟨after, added, afterSound⟩ := Draft.addMembers_sound valid image sound
  rw [added]
  exact ⟨_, _, _, rfl, (closeStruct_sound (afterSound.dedent 1)).spans_text⟩

theorem defineClass_closed {job : Job} (valid : job.Sound) {type : TypeDecl}
    (plain : type.Plain) :
    ∃ code messages complete,
      defineClass job type = .written code messages complete ∧ Closed code := by
  have spaces := indent_spaces job.settings
  have struct := TypeMap.structName_word valid.wordy type.name
  have base := resolveBase_sound valid.wordy valid.declared plain.base
  have start : Code.Sound [] [] ({ unit := job.settings.indent } : Buffer) := .start spaces
  have said := baseMessage_unbroken struct base.oneLine
  simp only [defineClass]
  split
  · next missing =>
    have message : Unbroken
        ((baseMessage (job.map.structName type.name) (job.map.resolveBase type)).getD "") := by
      cases found : baseMessage (job.map.structName type.name) (job.map.resolveBase type) with
      | none => simp only [Option.getD_none]; decide
      | some message => exact said message found
    exact ⟨_, _, _, rfl, (start.comment message).blank.spans_text⟩
  · next inherited spelled =>
    have spelling := spelling_neutral base valid.placeholder spelled
    have opened := openStruct_sound start struct spelling said
    exact members_closed ⟨valid.renderFor type, valid.macroName, spaces, struct, valid.wordy, plain⟩
      (opened.indent 1)

theorem define_closed {job : Job} (valid : job.Sound) {type : TypeDecl} (plain : type.Plain) :
    ∃ code messages complete,
      define job type = .written code messages complete ∧ Closed code := by
  unfold define
  split
  · obtain ⟨code, messages, written, closed⟩ := defineEnum_closed valid type
    exact ⟨code, messages, true, written, closed⟩
  · exact defineClass_closed valid plain

end ProxyHeaders.Proxy
