import ProxyHeaders.Proofs.Proxy.OneLine

/-!
What is removed from a class is reported twice, as a comment and as a warning. Both channels tell the
same in the same order; a renderer whose own text holds comments adds to the first one only. A field
is visited twice and its removal reported once: by its getter, unless the getter's name is in use.
-/
namespace ProxyHeaders.Proxy

open ProxyHeaders.Code ProxyHeaders.Mapping ProxyHeaders.Names ProxyHeaders.Template
  ProxyHeaders.Text

/-! Code without comments -/

/-- A renderer whose text shows no comments. -/
def WritesNoComments (render : Renderer) : Prop :=
  ∀ style fragment code, render style fragment = .ok code → comments (shown code) = []

/-- A line that begins with a solid character other than a slash is no comment. -/
theorem comments_solid {text : String} {start : Char} {rest : List Char}
    (begins : text.toList = start :: rest) (solid : isBlank start = false) (other : start ≠ '/')
    (unbroken : Unbroken text) : comments (shown text) = [] := by
  have kept : ∃ tail, dropEnd isBlank (start :: rest) = start :: tail := by
    rw [← List.singleton_append, dropEnd_append]
    split
    · exact ⟨[], by simp [dropEnd, solid]⟩
    · exact ⟨_, rfl⟩
  obtain ⟨tail, trimmed⟩ := kept
  have noComment : commentText? (String.ofList (start :: tail)) = none := by
    rw [commentText?, String.toList_ofList, List.dropWhile_cons_of_neg (by simp [solid])]
    split
    · next same => exact absurd (List.cons.inj same).1 other
    · next same => exact absurd (List.cons.inj same).1 other
    · rfl
  rw [shown_alone unbroken, trimEnd, begins, trimmed, solidOf, List.filter_cons_of_pos (by simp),
    List.filter_nil, comments, List.filterMap_cons_none noComment, List.filterMap_nil]

section Silent

variable {job : Job} {type : TypeDecl} (wordy : job.map.sanitizer.Wordy) (oneLine : type.OneLine)
  (placeholder : Unbroken job.settings.placeholderBase)

include wordy oneLine placeholder

theorem opening_silent {inherited : String}
    (spelled : (job.map.resolveBase type).spelling? job.settings.placeholderBase =
      some inherited) :
    comments (shown (structOpening job type inherited)) = [] := by
  have struct := neutral_unbroken (word_neutral (TypeMap.structName_word wordy type.name))
  have base := spelling_oneLine wordy oneLine.base placeholder spelled
  have opening : Unbroken (structOpening job type inherited) :=
    unbroken_append (unbroken_append (unbroken_append (unbroken_append (by decide) struct)
      (by decide)) base) (by decide)
  have begins : (structOpening job type inherited).toList =
      's' :: ("truct " ++ job.map.structName type.name ++ " : " ++ inherited ++
        " \x7b").toList := by
    simp [structOpening]
  exact comments_solid begins (by decide) (by decide) opening

variable (silent : WritesNoComments (job.renderFor type))

include silent

theorem code_silent {margin text : String} (written : .code margin text ∈ passagesOf job type) :
    comments (shown text) = [] := by
  unfold passagesOf at written
  split at written
  · unfold enumPassages at written
    split at written
    · next code rendered =>
      cases List.mem_singleton.mp written
      exact silent _ _ _ rendered
    · cases List.mem_singleton.mp written
  · unfold classPassages at written
    simp only at written
    split at written
    · cases List.mem_singleton.mp written
    · next inherited spelled =>
      split at written
      · cases List.mem_singleton.mp written
      · rcases structPassages_cases job type written with ⟨message, same⟩ |
            ⟨line, own, same⟩ | ⟨note, listed, same⟩
        · cases same
        · cases same
          simp only [List.mem_cons, List.not_mem_nil, or_false] at own
          rcases own with rfl | rfl | rfl
          · exact opening_silent wordy oneLine placeholder spelled
          · decide
          · decide
        · have comes := structNotes_comes job type inherited note listed
          cases comes with
          | rendered given =>
            cases same
            exact silent _ _ _ given
          | rejected => cases same
          | failed => cases same

end Silent

/-! Fields, which are visited twice -/

def getterOf (scene : Scene) (field : Field) : Member :=
  ⟨"getter", field.name, fun inUse => getterPlan scene inUse field⟩

def setterOf (scene : Scene) (field : Field) : Member :=
  ⟨"setter", field.name, fun inUse => setterPlan scene inUse field⟩

theorem members_fields (scene : Scene) :
    (emittableFields scene.type).map (getterOf scene) ++
      (emittableFields scene.type).map (setterOf scene) <+: members scene := by
  unfold members
  rw [List.append_assoc (_ ++ _)]
  exact List.prefix_append _ _

section Unmappable

variable {scene : Scene} {field : Field} {refusal : Refusal} {reason : Reason} {lossy : Bool}
  (refused : scene.map.mapMember (some scene.owner) field.type = .refused refusal reason lossy)

include refused

theorem unmappable_getter (inUse : Claimed) :
    (getterOf scene field).notes scene inUse =
      if inUse.contains (scene.map.sanitizer.accessorName "Get" field.name) then []
      else [.remark (removal "Field" field.name reason)] := by
  simp only [Member.notes, getterOf, getterPlan, refused]
  by_cases taken : inUse.contains (scene.map.sanitizer.accessorName "Get" field.name)
  · rw [if_pos taken, if_pos taken]
  · rw [if_neg taken, if_neg taken]

theorem unmappable_setter (inUse : Claimed) : (setterOf scene field).notes scene inUse = [] := by
  simp only [Member.notes, setterOf, setterPlan, refused, ite_self]

end Unmappable

/-- The names in use when the turn of a struct's first member comes: the struct's own, the implicit
members' and the instance's accessors. -/
def namesAtStart (job : Job) (type : TypeDecl) : Claimed :=
  let claimed := Claimed.forStruct (job.map.structName type.name)
  claimedBy (sceneOf job type) claimed (singletonPieces (sceneOf job type) claimed)

theorem struct_messages {job : Job} {type : TypeDecl} (noEnum : ¬ type.isEnum) {inherited : String}
    (spelled : (job.map.resolveBase type).spelling? job.settings.placeholderBase = some inherited)
    (whole : firstFailure (job.renderFor type) job.style (unguarded job type) = none) :
    messagesOf (passagesOf job type) =
      (baseMessage (job.map.structName type.name) (job.map.resolveBase type)).toList ++
        remarks (notesOf (sceneOf job type) (namesAtStart job type)
          (members (sceneOf job type))) := by
  have passages : passagesOf job type = structPassages job type inherited := by
    simp only [passagesOf, if_neg noEnum, classPassages, spelled, whole]
  rw [unguarded_struct job type noEnum spelled, unguardedPieces, List.map_append,
    firstFailure_append, Option.or_eq_none_iff] at whole
  have bootstrapped : (rendering (sceneOf job type)
      (bootstrapPieces (sceneOf job type) job.image)).2 = none :=
    (rendering_failure _ _).trans whole.1
  have instanced : (rendering (sceneOf job type)
      (singletonPieces (sceneOf job type) (draftOf job type inherited).claimed)).2 = none :=
    (rendering_failure _ _).trans whole.2
  have silent := rendering_remarks (sceneOf job type)
    (singletonPieces (sceneOf job type) (draftOf job type inherited).claimed)
  have later : remarks (laterNotes (sceneOf job type) job.image
      (draftOf job type inherited).claimed) = remarks (notesOf (sceneOf job type)
        (namesAtStart job type) (members (sceneOf job type))) := by
    simp only [laterNotes, bootstrapped, memberNotes]
    generalize rendering (sceneOf job type) (singletonPieces (sceneOf job type)
      (draftOf job type inherited).claimed) = result at instanced silent ⊢
    obtain ⟨notes, failure⟩ := result
    cases instanced
    rw [remarks_append, silent]
    rfl
  rw [passages, structPassages_messages, structNotes, remarks_append, bootstrapNotes,
    rendering_remarks, later, List.nil_append]

/-! Both channels -/

/-- The warnings about a class and the comments that it leaves in a buffer. -/
structure Reported (job : Job) (type : TypeDecl) (buffer : Buffer) : Prop where
  /-- The warnings are what the remarks say, each behind the full name of the class. -/
  warnings : ((define job type).messages type).warnings =
    (messagesOf (passagesOf job type)).map (type.fullName ++ ": " ++ ·)
  /-- Every remark is one comment, in its place among what the code itself has of comments. -/
  comments : comments ((define job type).appendTo type buffer).shows =
    comments buffer.shows ++ (passagesOf job type).flatMap fun passage =>
      match passage.message? with
      | some message => [trimEnd message]
      | none => passage.comments
  /-- Where the code has none, the comments are what the remarks say and nothing else. -/
  only : Unbroken job.settings.placeholderBase → WritesNoComments (job.renderFor type) →
    Code.comments ((define job type).appendTo type buffer).shows =
      Code.comments buffer.shows ++ (messagesOf (passagesOf job type)).map trimEnd

/-- What is reported of the fields of a class. -/
structure FieldsReported (job : Job) (type : TypeDecl) : Prop where
  /-- A struct that is written reports on its base and then on its members in turn. -/
  inTurn : ∀ inherited,
    (job.map.resolveBase type).spelling? job.settings.placeholderBase = some inherited →
    firstFailure (job.renderFor type) job.style (unguarded job type) = none →
    messagesOf (passagesOf job type) =
      (baseMessage (job.map.structName type.name) (job.map.resolveBase type)).toList ++
        remarks (notesOf (sceneOf job type) (namesAtStart job type) (members (sceneOf job type)))
  /-- The getters of all fields are the first of the members, and their setters follow. -/
  twice : (emittableFields type).map (getterOf (sceneOf job type)) ++
    (emittableFields type).map (setterOf (sceneOf job type)) <+: members (sceneOf job type)
  /-- A field that cannot be mapped is reported by its getter, unless the name of that is in use;
  its setter says nothing. -/
  once : ∀ field ∈ emittableFields type, ∀ refusal reason lossy,
    job.map.mapMember (some type.fullName) field.type = .refused refusal reason lossy →
    ∀ inUse : Claimed,
      (getterOf (sceneOf job type) field).notes (sceneOf job type) inUse =
        (if inUse.contains (job.map.sanitizer.accessorName "Get" field.name) then []
        else [.remark (removal "Field" field.name reason)]) ∧
      (setterOf (sceneOf job type) field).notes (sceneOf job type) inUse = []

/-- A class whose names have no line break reports every removal and every failure by one comment and
one warning, whatever its renderer does as long as its failures are told in one line. A field that
cannot be mapped is reported once, although it is visited for its getter and for its setter; it is
passed over if the name of its getter is in use. -/
theorem removals_reported {job : Job} (wordy : job.map.sanitizer.Wordy) {type : TypeDecl}
    (noEnum : ¬ type.isEnum) (oneLine : type.OneLine) (fails : FailsInLine (job.renderFor type))
    {buffer : Buffer} (spaced : buffer.Spaced) :
    Reported job type buffer ∧ FieldsReported job type := by
  have written := define_written job type
  have unbroken := messages_oneLine wordy oneLine fails
  have all : comments ((define job type).appendTo type buffer).shows =
      comments buffer.shows ++ (passagesOf job type).flatMap Passage.comments := by
    rw [appendTo_shows spaced written, comments_append, passages_comments job type spaced.margin]
  have own : ∀ passage ∈ passagesOf job type, ∀ message, passage.message? = some message →
      passage.comments = [trimEnd message] := by
    intro passage member message said
    exact Passage.comments_unbroken said
      (unbroken message (List.mem_filterMap.mpr ⟨passage, member, said⟩))
  refine ⟨⟨warnings_passages written noEnum, ?_, ?_⟩, ⟨?_, members_fields _, ?_⟩⟩
  · rw [all]
    congr 1
    apply List.flatMap_congr
    intro passage member
    cases said : passage.message? with
    | none => rfl
    | some message => exact own passage member message said
  · intro placeholder silent
    rw [all, messagesOf, List.map_filterMap, List.filterMap_eq_flatMap_toList]
    congr 1
    apply List.flatMap_congr
    intro passage member
    cases said : passage.message? with
    | some message => exact own passage member message said
    | none =>
      cases passage with
      | code margin text => exact code_silent wordy oneLine placeholder silent member
      | remark margin text => cases said
      | failure text => cases said
  · exact fun inherited spelled whole => struct_messages noEnum spelled whole
  · intro field _ refusal reason lossy refused inUse
    exact ⟨unmappable_getter refused inUse, unmappable_setter refused inUse⟩

/-! A player with a field of a type from elsewhere and a method that fails. -/

def hunted : Field := { name := "x", type := { name := "Enemy", space := some "Game" } }

def player : TypeDecl :=
  { name := "Player", fields := [hunted]
    methods := [{ name := "Run", returnType := { name := "Void", space := some "System" } }] }

def methodless : Renderer
  | _, .method .. => .error (.other "no methods")
  | _, _ => .ok "void f();"

theorem player_oneLine : player.OneLine := by
  have enemy : hunted.type.Plain := .alone rfl rfl (by decide) (by decide)
  have nothing : TypeRef.Plain { name := "Void", space := some "System" } :=
    .alone rfl rfl (by decide) (by decide)
  constructor
  · decide
  · intro base found
    cases found
  · exact List.forall_mem_singleton.mpr ⟨by decide, enemy.oneLine⟩
  · simp [player]
  · exact List.forall_mem_singleton.mpr ⟨by decide, nothing.oneLine⟩
  · simp [player]

theorem player_reported :
    Reported { render := methodless } player {} ∧
    FieldsReported { render := methodless } player ∧
    messagesOf (passagesOf { render := methodless } player) =
      ["REMOVED: Field 'x' uses unsupported external type Game.Enemy",
        "Error generating method for Run: no methods"] := by
  have fails : FailsInLine methodless := by
    intro style fragment failure failed
    unfold methodless at failed
    split at failed
    · cases failed
      decide
    · cases failed
  have spaced : ({} : Buffer).Spaced := by
    have unit : ({} : Buffer).unit.toList = List.replicate 4 ' ' := by decide
    intro c member
    rw [unit] at member
    exact List.eq_of_mem_replicate member
  have noEnum : ¬ player.isEnum := by decide
  let job : Job := { render := methodless }
  have wordy : job.map.sanitizer.Wordy := Sanitizer.wordy_forHeaders
  have inLine : FailsInLine (job.renderFor player) := fails
  obtain ⟨reported, fields⟩ := removals_reported wordy noEnum player_oneLine inLine spaced
  exact ⟨reported, fields, by decide +kernel⟩

/-! A field of such a type whose getter would be called like a member that every object has, and a
renderer that writes a comment of its own. -/

def masked : Field := { name := "type", type := { name := "Enemy", space := some "Game" } }

def hunter : TypeDecl := { name := "Hunter", fields := [masked] }

theorem masked_unreported :
    let quiet : Job := { render := fun _ _ => .ok "void f();" }
    let chatty : Job := { render := fun _ _ => .ok "// as rendered" }
    masked ∈ emittableFields hunter ∧
    quiet.map.mapMember (some hunter.fullName) masked.type =
      .refused .removed (.external "Game.Enemy") false ∧
    ((define quiet hunter).messages hunter).warnings = [] ∧
    comments ((define quiet hunter).appendTo hunter {}).shows = [] ∧
    ((define chatty hunter).messages hunter).warnings = [] ∧
    comments ((define chatty hunter).appendTo hunter {}).shows = ["as rendered"] := by
  intro quiet chatty
  have listed : emittableFields hunter = [masked] := List.mergeSort_singleton masked
  refine ⟨?_, rfl, by decide +kernel, by decide +kernel, by decide +kernel, by decide +kernel⟩
  rw [listed]
  exact List.mem_singleton_self masked

end ProxyHeaders.Proxy
