import ProxyHeaders.Proofs.Code.Shown
import ProxyHeaders.Proofs.Proxy.Definition
import ProxyHeaders.Proofs.Proxy.Remarks

/-!
A type's text in passages: code, remarks between its lines, or the one remark that is left of a type
that fails. A header shows the passages of a type one after the other, and the warnings about a class
are what its remarks say.
-/
namespace ProxyHeaders.Proxy

open ProxyHeaders.Code ProxyHeaders.Mapping ProxyHeaders.Names ProxyHeaders.Template
  ProxyHeaders.Text

/-- A passage of a type's text behind a margin of its own; a failure has none. -/
inductive Passage where
  | code (margin text : String)
  | remark (margin message : String)
  | failure (message : String)

namespace Passage

def message? : Passage → Option String
  | .code _ _ => none
  | .remark _ message => some message
  | .failure message => some message

/-- What a header shows of a passage behind the margin of the type. A remark belongs to the type's
block, so every line of it has that margin; a failure is written in the place of the block. -/
def behind (outer : String) : Passage → List String
  | .code margin text => (shown text).map (outer ++ margin ++ ·)
  | .remark margin message => (shown (margin ++ ("// " ++ message))).map (outer ++ ·)
  | .failure message => shown (outer ++ ("// " ++ message))

end Passage

def messagesOf (passages : List Passage) : List String := passages.filterMap Passage.message?

def Note.passage (margin : String) : Note → Passage
  | .function _ code => .code margin code
  | .remark message => .remark margin message

theorem messagesOf_append (first second : List Passage) :
    messagesOf (first ++ second) = messagesOf first ++ messagesOf second := List.filterMap_append

theorem messagesOf_notes (margin : String) (notes : List Note) :
    messagesOf (notes.map (Note.passage margin)) = remarks notes := by
  rw [messagesOf, List.filterMap_map, remarks]
  congr 1
  funext note
  cases note <;> rfl

/-! The passages of a type -/

section Types

variable (job : Job) (type : TypeDecl)

def structNotes (inherited : String) : List Note :=
  bootstrapNotes (sceneOf job type) job.image ++
    laterNotes (sceneOf job type) job.image (draftOf job type inherited).claimed

theorem structNotes_comes (inherited : String) :
    ∀ note ∈ structNotes job type inherited, note.Comes (sceneOf job type) := by
  rw [structNotes, List.forall_mem_append]
  exact ⟨(rendering_comes _ _).1, laterNotes_comes _ _ _⟩

def structOpening (inherited : String) : String :=
  "struct " ++ job.map.structName type.name ++ " : " ++ inherited ++ " \x7b"

/-- What a struct says about its base, its own lines and the notes between them. -/
def structPassages (inherited : String) : List Passage :=
  (baseMessage (job.map.structName type.name) (job.map.resolveBase type)).toList.map
    (.remark "") ++
  [.code "" (structOpening job type inherited), .code "" "public:"] ++
  (structNotes job type inherited).map (Note.passage job.settings.indent) ++ [.code "" "\x7d;"]

theorem structPassages_cases {inherited : String} {passage : Passage}
    (member : passage ∈ structPassages job type inherited) :
    (∃ message, passage = .remark "" message) ∨
    (∃ line ∈ [structOpening job type inherited, "public:", "\x7d;"], passage = .code "" line) ∨
    ∃ note ∈ structNotes job type inherited, passage = note.passage job.settings.indent := by
  simp only [structPassages, List.mem_append, List.mem_cons, List.not_mem_nil, or_false] at member
  rcases member with ((base | rfl | rfl) | noted) | rfl
  · obtain ⟨message, -, rfl⟩ := List.mem_map.mp base
    exact .inl ⟨message, rfl⟩
  · exact .inr (.inl ⟨_, List.mem_cons_self, rfl⟩)
  · exact .inr (.inl ⟨_, List.mem_cons_of_mem _ List.mem_cons_self, rfl⟩)
  · obtain ⟨note, listed, rfl⟩ := List.mem_map.mp noted
    exact .inr (.inr ⟨note, listed, rfl⟩)
  · exact .inr (.inl ⟨_, by simp, rfl⟩)

/-- What a struct has to say: about its base, and what its members remark. -/
theorem structPassages_messages (inherited : String) :
    messagesOf (structPassages job type inherited) =
      (baseMessage (job.map.structName type.name) (job.map.resolveBase type)).toList ++
        remarks (structNotes job type inherited) := by
  simp only [structPassages, messagesOf_append, messagesOf_notes]
  cases baseMessage (job.map.structName type.name) (job.map.resolveBase type) with
  | none => simp [messagesOf, Passage.message?, List.filterMap_cons]
  | some message => simp [messagesOf, Passage.message?, List.filterMap_cons]

def classPassages : List Passage :=
  let base := job.map.resolveBase type
  match base.spelling? job.settings.placeholderBase with
  | none => [.remark "" ((baseMessage (job.map.structName type.name) base).getD "")]
  | some inherited =>
    match firstFailure (job.renderFor type) job.style (unguarded job type) with
    | some failure => [.failure (failureMessage type failure)]
    | none => structPassages job type inherited

def enumPassages : List Passage :=
  match job.renderFor type job.style (enumOf job type) with
  | .ok code => [.code "" code]
  | .error failure => [.failure (failureMessage type failure)]

def passagesOf : List Passage :=
  if type.isEnum then enumPassages job type else classPassages job type

end Types

/-! What is shown of notes, of a struct and of a type -/

section Shown

theorem Note.write_same (buffer : Buffer) (note : Note) :
    (note.write buffer).unit = buffer.unit ∧ (note.write buffer).level = buffer.level := by
  cases note with
  | remark message => exact ⟨rfl, rfl⟩
  | function fragment code =>
    have unit : (buffer.block code).unit = buffer.unit := (Buffer.Appends.block code).unit buffer
    simp only [write, Buffer.blank, Buffer.line]
    exact ⟨unit, buffer.block_level code⟩

theorem Note.write_shows {buffer : Buffer} (spaced : buffer.Spaced) (note : Note) :
    (note.write buffer).shows = buffer.shows ++ (note.passage buffer.margin).behind "" := by
  cases note with
  | remark message =>
    simp [write, passage, Passage.behind, Buffer.shows_blank, spaced.shows_comment]
  | function fragment code =>
    simp [write, passage, Passage.behind, Buffer.shows_blank, spaced.shows_block]

theorem notes_shows {buffer : Buffer} (spaced : buffer.Spaced) (notes : List Note) :
    (notes.foldl Note.write buffer).shows = buffer.shows ++
        (notes.map (Note.passage buffer.margin)).flatMap (Passage.behind "") ∧
      (notes.foldl Note.write buffer).unit = buffer.unit ∧
      (notes.foldl Note.write buffer).level = buffer.level := by
  induction notes generalizing buffer with
  | nil => simp
  | cons note rest ih =>
    obtain ⟨unit, level⟩ := note.write_same buffer
    have same : (note.write buffer).margin = buffer.margin := by
      simp only [Buffer.margin, unit, level]
    have stays : (note.write buffer).Spaced := by
      rwa [Buffer.Spaced, unit]
    obtain ⟨shows, lastUnit, lastLevel⟩ := ih stays
    rw [List.foldl_cons, shows, note.write_shows spaced, same]
    refine ⟨?_, lastUnit.trans unit, lastLevel.trans level⟩
    simp

variable (job : Job) (type : TypeDecl)

theorem start_spaced : ({ unit := job.settings.indent } : Buffer).Spaced :=
  indent_spaces job.settings

theorem outermost_margin {buffer : Buffer} (outermost : buffer.level = 0) : buffer.margin = "" := by
  simp [Buffer.margin, outermost]

theorem line_shows {buffer : Buffer} (spaced : buffer.Spaced) (outermost : buffer.level = 0)
    (text : String) :
    (buffer.line text).shows = buffer.shows ++ (Passage.code "" text).behind "" := by
  rw [spaced.shows_line, outermost_margin outermost]
  simp [Passage.behind]

theorem openStruct_shows (structName inherited : String) (message : Option String) :
    (openStruct { unit := job.settings.indent } structName inherited message).shows =
      (message.toList.map (Passage.remark "") ++
        [Passage.code "" ("struct " ++ structName ++ " : " ++ inherited ++ " \x7b"),
          Passage.code "" "public:"]).flatMap (Passage.behind "") := by
  have spaced := start_spaced job
  have empty : ({ unit := job.settings.indent } : Buffer).shows = [] := rfl
  have opened {buffer : Buffer} (spaced : buffer.Spaced) (outermost : buffer.level = 0)
      (text : String) : ((buffer.line text).line "public:").shows = buffer.shows ++
        ((Passage.code "" text).behind "" ++ (Passage.code "" "public:").behind "") := by
    have level : (buffer.line text).level = 0 := outermost
    have own : (buffer.line text).Spaced := spaced
    rw [line_shows own level, line_shows spaced outermost, List.append_assoc]
  cases message with
  | none =>
    simp only [openStruct, opened spaced rfl, empty]
    simp
  | some message =>
    have own : (({ unit := job.settings.indent } : Buffer).comment message).shows =
        (Passage.remark "" message).behind "" := by
      rw [spaced.shows_comment, empty, outermost_margin rfl]
      simp [Passage.behind]
    have commented : (({ unit := job.settings.indent } : Buffer).comment message).Spaced := spaced
    simp only [openStruct, opened commented rfl, own]
    simp

theorem openStruct_same (buffer : Buffer) (structName inherited : String)
    (message : Option String) :
    (openStruct buffer structName inherited message).unit = buffer.unit ∧
      (openStruct buffer structName inherited message).level = buffer.level := by
  cases message with
  | none => exact ⟨rfl, rfl⟩
  | some message => exact ⟨rfl, rfl⟩

theorem wholeStruct_shows (inherited : String) :
    shown (wholeStruct job type inherited) =
      (structPassages job type inherited).flatMap (Passage.behind "") := by
  let draft := draftOf job type inherited
  let notes := bootstrapNotes (sceneOf job type) job.image ++
    laterNotes (sceneOf job type) job.image draft.claimed
  obtain ⟨openUnit, openLevel⟩ := openStruct_same { unit := job.settings.indent }
    (job.map.structName type.name) inherited
    (baseMessage (job.map.structName type.name) (job.map.resolveBase type))
  have draftUnit : draft.buffer.unit = job.settings.indent := openUnit
  have draftLevel : draft.buffer.level = 1 := congrArg (· + 1) openLevel
  have draftSpaced : draft.buffer.Spaced := by
    rw [Buffer.Spaced, draftUnit]
    exact indent_spaces job.settings
  have draftMargin : draft.buffer.margin = job.settings.indent := by
    simp [Buffer.margin, draftUnit, draftLevel]
  obtain ⟨shows, unit, level⟩ := notes_shows draftSpaced notes
  have closingSpaced : (notes.foldl Note.write draft.buffer).dedent.Spaced := by
    show ∀ c ∈ (notes.foldl Note.write draft.buffer).unit.toList, c = ' '
    rw [unit]
    exact draftSpaced
  have closingLevel : (notes.foldl Note.write draft.buffer).dedent.level = 0 := by
    show (notes.foldl Note.write draft.buffer).level + -1 = 0
    rw [level, draftLevel]
    rfl
  have opening : draft.buffer.shows = _ := openStruct_shows job
    (job.map.structName type.name) inherited
    (baseMessage (job.map.structName type.name) (job.map.resolveBase type))
  have body : (notes.foldl Note.write draft.buffer).dedent.shows = _ := shows
  rw [wholeStruct, Buffer.shown_text, closeStruct, Buffer.shows_blank,
    line_shows closingSpaced closingLevel, body, opening, draftMargin, structPassages]
  simp only [List.flatMap_append, List.flatMap_cons, List.flatMap_nil, List.append_nil]
  rfl

/-- Passages of one block. -/
def InBlock (passages : List Passage) : Prop :=
  ∀ passage ∈ passages, ∀ message, passage ≠ .failure message

theorem behind_inBlock {passages : List Passage} (inBlock : InBlock passages) (outer : String) :
    (passages.flatMap (Passage.behind "")).map (outer ++ ·) =
      passages.flatMap (Passage.behind outer) := by
  rw [List.map_flatMap]
  apply List.flatMap_congr
  intro passage member
  cases passage with
  | code margin text => simp [Passage.behind, Function.comp_def, String.append_assoc]
  | remark margin message => simp [Passage.behind]
  | failure message => exact absurd rfl (inBlock _ member message)

theorem structPassages_inBlock (inherited : String) :
    InBlock (structPassages job type inherited) := by
  intro passage member message
  rcases structPassages_cases job type member with ⟨text, rfl⟩ | ⟨line, -, rfl⟩ | ⟨note, -, rfl⟩
  · exact Passage.noConfusion
  · exact Passage.noConfusion
  · cases note <;> exact Passage.noConfusion

end Shown

/-! What becomes of a type, in passages -/

section Outcome

variable (job : Job) (type : TypeDecl)

/-- The warnings of a class, each behind the name of the type. -/
def Warned (passages : List Passage) (messages : Diagnostics) : Prop :=
  ¬ type.isEnum → messages.warnings = (messagesOf passages).map (type.fullName ++ ": " ++ ·)

/-- A type is written as a block of its passages, or its only passage is a failure. -/
inductive WrittenIn (passages : List Passage) : Definition → Prop where
  | written {code : String} {messages : Diagnostics} {complete : Bool}
    (inBlock : InBlock passages) (whole : shown code = passages.flatMap (Passage.behind ""))
    (warned : Warned type passages messages) : WrittenIn passages (.written code messages complete)
  | failed {failure : RenderFailure} (only : passages = [.failure (failureMessage type failure)]) :
    WrittenIn passages (.failed failure)

theorem defineEnum_written (enum : type.isEnum) :
    WrittenIn type (enumPassages job type) (defineEnum job type) := by
  unfold enumPassages
  cases rendered : job.renderFor type job.style (enumOf job type) with
  | error failure =>
    have failed : defineEnum job type = .failed failure := by
      rw [enumOf] at rendered
      simp only [defineEnum, writeEnum, rendered]
      rfl
    rw [failed]
    exact .failed rfl
  | ok code =>
    have written : defineEnum job type = .written
        ((({ unit := job.settings.indent } : Buffer).block code).blank).text
        { warnings := enumWarnings job.map.sanitizer type } true := by
      rw [enumOf] at rendered
      simp only [defineEnum, writeEnum, rendered]
      rfl
    rw [written]
    refine .written ?_ ?_ fun noEnum => absurd enum noEnum
    · intro passage member message
      rw [List.mem_singleton.mp member]
      exact Passage.noConfusion
    · rw [Buffer.shown_text, Buffer.shows_blank, (start_spaced job).shows_block,
        outermost_margin rfl]
      simp [Buffer.shows, Passage.behind]

theorem unguarded_struct (noEnum : ¬ type.isEnum) {inherited : String}
    (spelled : (job.map.resolveBase type).spelling? job.settings.placeholderBase =
      some inherited) :
    unguarded job type = (unguardedPieces (sceneOf job type) job.image
      (draftOf job type inherited).claimed).map (·.fragment) := by
  simp only [unguarded, noEnum, spelled]
  rfl

theorem defineClass_written (noEnum : ¬ type.isEnum) :
    WrittenIn type (classPassages job type) (defineClass job type) := by
  unfold classPassages
  cases base : (job.map.resolveBase type).spelling? job.settings.placeholderBase with
  | none =>
    -- Only a base that is missing has no spelling, and there is something to say about it.
    cases missing : job.map.resolveBase type with
    | missing source =>
      simp only [defineClass, missing, baseMessage, BaseClass.spelling?, Option.getD_some]
      refine .written ?_ ?_ fun _ => rfl
      · intro passage member message
        rw [List.mem_singleton.mp member]
        exact Passage.noConfusion
      · rw [Buffer.shown_text, Buffer.shows_blank, (start_spaced job).shows_comment,
          outermost_margin rfl]
        simp [Buffer.shows, Passage.behind]
    | placeholder source | provided spelling source | itself source
        | generated spelling source target => simp [missing, BaseClass.spelling?] at base
  | some inherited =>
    have render : (sceneOf job type).render = job.renderFor type := rfl
    have style : (sceneOf job type).style = job.style := rfl
    have noted := (draftOf job type inherited).addMembers_notes (sceneOf job type) job.image
    have failed := (draftOf job type inherited).addMembers_failure (sceneOf job type) job.image
    rw [render, style, ← unguarded_struct job type noEnum base] at failed
    rw [defineClass_struct job type base]
    simp only [base, ← failed]
    generalize added : (draftOf job type inherited).addMembers (sceneOf job type) job.image = result
      at noted ⊢
    obtain ⟨after, failure⟩ := result
    cases failure with
    | some failure => exact .failed rfl
    | none =>
      refine .written (structPassages_inBlock job type inherited) ?_ fun _ => ?_
      · rw [← wholeStruct_shows, wholeStruct, ← noted]
      · rw [Draft.addMembers_remarks _ added, structPassages_messages, List.map_append,
          ← Option.toList_map]
        rfl

theorem define_written : WrittenIn type (passagesOf job type) (define job type) := by
  unfold passagesOf define
  by_cases enum : type.isEnum
  · rw [if_pos enum, if_pos enum]
    exact defineEnum_written job type enum
  · rw [if_neg enum, if_neg enum]
    exact defineClass_written job type enum

variable {job type}

theorem appendTo_shows {buffer : Buffer} (spaced : buffer.Spaced) {passages : List Passage}
    {definition : Definition} (written : WrittenIn type passages definition) :
    (definition.appendTo type buffer).shows =
      buffer.shows ++ passages.flatMap (Passage.behind buffer.margin) := by
  cases written with
  | written inBlock whole =>
    rw [Definition.appendTo, spaced.shows_block, whole, behind_inBlock inBlock]
  | failed only =>
    rw [Definition.appendTo, Buffer.shows_blank, spaced.shows_comment, only]
    simp [Passage.behind]

theorem warnings_passages {passages : List Passage} {definition : Definition}
    (written : WrittenIn type passages definition) (noEnum : ¬ type.isEnum) :
    (definition.messages type).warnings =
      (messagesOf passages).map (type.fullName ++ ": " ++ ·) := by
  cases written with
  | written inBlock whole warned => exact warned noEnum
  | failed only =>
    rw [only]
    rfl

end Outcome

/-! The comments among what is shown -/

namespace Passage

def margin : Passage → String
  | .code margin _ | .remark margin _ => margin
  | .failure _ => ""

/-- The comments that a header shows of a passage: those that a code has of its own, or the first
line of a remark with the comments that happen to stand behind its line breaks. -/
def comments : Passage → List String
  | .code _ text => Code.comments (shown text)
  | .remark _ message | .failure message =>
    trimEnd (firstLine message) :: Code.comments (laterLines message)

theorem comments_behind {outer : String} (valid : IsMargin outer) {passage : Passage}
    (own : IsMargin passage.margin) : Code.comments (passage.behind outer) = passage.comments := by
  have told {margin : String} (valid : IsMargin margin) (message : String) :
      Code.comments (shown (margin ++ ("// " ++ message))) =
        trimEnd (firstLine message) :: Code.comments (laterLines message) := by
    have first : commentText? (margin ++ trimEnd ("// " ++ firstLine message)) =
        some (trimEnd (firstLine message)) := by
      rw [commentText_margin valid, commentText_mark]
    rw [shown_comment valid, Code.comments, List.filterMap_cons_some first]
    rfl
  cases passage with
  | code margin text => exact comments_margin (valid.append own) (shown text)
  | remark margin message => exact (comments_margin valid _).trans (told own message)
  | failure message => exact told valid message

theorem comments_unbroken {passage : Passage} {message : String}
    (said : passage.message? = some message) (unbroken : Unbroken message) :
    passage.comments = [trimEnd message] := by
  cases passage with
  | code margin text => cases said
  | remark margin text | failure text =>
    cases said
    rw [comments, firstLine_unbroken unbroken, laterLines_unbroken unbroken]
    rfl

end Passage

theorem passages_isMargin (job : Job) (type : TypeDecl) :
    ∀ passage ∈ passagesOf job type, IsMargin passage.margin := by
  have alone {passage : Passage} (outermost : passage.margin = "") :
      ∀ other ∈ [passage], IsMargin other.margin := by
    rw [List.forall_mem_singleton, outermost]
    exact .empty
  unfold passagesOf
  split
  · unfold enumPassages
    split
    · exact alone rfl
    · exact alone rfl
  · unfold classPassages
    simp only
    split
    · exact alone rfl
    · split
      · exact alone rfl
      · intro passage member
        rcases structPassages_cases job type member with ⟨text, rfl⟩ | ⟨line, -, rfl⟩ |
            ⟨note, -, rfl⟩
        · exact .empty
        · exact .empty
        · have indented : IsMargin job.settings.indent := .spaces (indent_spaces job.settings)
          cases note <;> exact indented

theorem passages_comments (job : Job) (type : TypeDecl) {outer : String} (valid : IsMargin outer) :
    comments ((passagesOf job type).flatMap (Passage.behind outer)) =
      (passagesOf job type).flatMap Passage.comments := by
  rw [comments_flatMap]
  exact List.flatMap_congr fun passage member =>
    Passage.comments_behind valid (passages_isMargin job type passage member)

end ProxyHeaders.Proxy
