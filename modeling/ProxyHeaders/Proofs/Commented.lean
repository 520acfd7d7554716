import ProxyHeaders.Proofs.Isolation
import ProxyHeaders.Proofs.Layouts
import ProxyHeaders.Proofs.Proxy.OneLine

/-!
Remarks in headers. A header shows the passages of every type that it defines where its group stands.
Of a remark it shows a comment up to the first line feed in what it says; anything solid behind that
stands in the header as it is, behind no comment mark. A remark without line feeds is one comment line
of the header. A compiler ends a line at a carriage return as well, and the comment line holds one if
and only if what it says does.
-/
namespace ProxyHeaders

open ProxyHeaders.Code ProxyHeaders.Layout ProxyHeaders.Mapping ProxyHeaders.Names
  ProxyHeaders.Proxy ProxyHeaders.Template ProxyHeaders.Text

namespace Layout

def marginIn (job : Job) (scopes : List String) : String :=
  String.join (List.replicate scopes.length job.settings.indent)

theorem marginIn_isMargin (job : Job) (scopes : List String) : IsMargin (marginIn job scopes) := by
  have spaced : ({ unit := job.settings.indent, level := scopes.length } : Buffer).Spaced :=
    indent_spaces job.settings
  exact spaced.margin

theorem defines_shown (job : Job) (scopes : List String) (type : TypeDecl) :
    ((Entry.defines type).lines job scopes).flatMap shown =
      (passagesOf job type).flatMap (Passage.behind (marginIn job scopes)) := by
  have spaced : ({ unit := job.settings.indent, level := scopes.length } : Buffer).Spaced :=
    indent_spaces job.settings
  exact appendTo_shows spaced (define_written job type)

end Layout

namespace Proxy

/-- The margin of the lines of a remark that are not its first: that of the type's block, of which a
failure is no part. -/
def Passage.hang (outer : String) : Passage → String
  | .code _ _ | .remark _ _ => outer
  | .failure _ => ""

/-- What a header shows of a remark: a comment that holds what is said up to the first line feed,
its carriage returns too, and what is said behind it in lines without a comment mark. -/
def Passage.CommentedTo (outer message : String) (passage : Passage) : Prop :=
  ∃ line, passage.behind outer = line :: (laterLines message).map (passage.hang outer ++ ·) ∧
    commentText? line = some (trimEnd (firstLine message)) ∧
    ('\r' ∈ line.toList ↔ '\r' ∈ (trimEnd (firstLine message)).toList)

/-- What a header shows of a remark in one line: a comment that holds all of it. It is one line for a
compiler too unless what is said holds a carriage return. -/
def Passage.Commented (outer message : String) (passage : Passage) : Prop :=
  ∃ line, passage.behind outer = [line] ∧ commentText? line = some (trimEnd message) ∧
    ('\r' ∈ line.toList ↔ '\r' ∈ (trimEnd message).toList)

theorem message_commentedTo {outer : String} (valid : IsMargin outer) {passage : Passage}
    (own : IsMargin passage.margin) {message : String} (said : passage.message? = some message) :
    passage.CommentedTo outer message := by
  cases passage with
  | code margin text => cases said
  | remark margin text =>
    cases said
    have own : IsMargin margin := own
    refine ⟨outer ++ (margin ++ trimEnd ("// " ++ firstLine message)), ?_, ?_, ?_⟩
    · rw [Passage.behind, shown_comment own, List.map_cons]
      rfl
    · rw [commentText_margin valid, commentText_margin own, commentText_mark]
    · rw [← String.append_assoc, comment_returns (valid.append own)]
  | failure text =>
    cases said
    refine ⟨outer ++ trimEnd ("// " ++ firstLine message), ?_, ?_, comment_returns valid _⟩
    · rw [Passage.behind, shown_comment valid]
      simp [Passage.hang]
    · rw [commentText_margin valid, commentText_mark]

theorem commented_of_unbroken {outer message : String} {passage : Passage}
    (commented : passage.CommentedTo outer message) (unbroken : Unbroken message) :
    passage.Commented outer message := by
  obtain ⟨line, shows, comment, returns⟩ := commented
  rw [laterLines_unbroken unbroken] at shows
  rw [firstLine_unbroken unbroken] at comment returns
  exact ⟨line, shows, comment, returns⟩

end Proxy

/-- If no preamble fails, a run gives headers that show every type that they define in passages, and all
that is remarked about a type is among them. A remark is shown as a comment up to the first line feed in
what it says; it is one comment line if the names of the type and the failures of its renderer have no
line feeds. -/
theorem remarks_commented (settings : Settings) (sanitizer : Sanitizer) {opening : Renderer}
    (opens : ∀ style spaces resolveHeader includes, ∃ text,
      opening style (.preamble spaces resolveHeader includes) = .ok text)
    (types : List TypeDecl) (render : TypeDecl → Renderer) :
    let job := jobEach settings sanitizer opening types render
    ∃ generation, generateEach settings sanitizer opening render types = .ok generation ∧
      List.Forall₂ (Page.Reads job) (keptPages [] (pages job types)) generation.headers ∧
      ∀ type ∈ types,
        (∀ scopes, ((Entry.defines type).lines job scopes).flatMap shown =
          (passagesOf job type).flatMap (Passage.behind (marginIn job scopes))) ∧
        (¬ type.isEnum → warningsOf job type =
          (messagesOf (passagesOf job type)).map (type.fullName ++ ": " ++ ·)) ∧
        ∀ passage ∈ passagesOf job type, ∀ message, passage.message? = some message →
          ∀ scopes, passage.CommentedTo (marginIn job scopes) message ∧
            (sanitizer.Wordy → type.OneLine → FailsInLine (render type) →
              passage.Commented (marginIn job scopes) message) := by
  intro job
  have opened (includes : List String) : ∃ text, preamble job includes = .ok text :=
    opens _ _ _ _
  obtain ⟨generation, generated, shown, -, -⟩ := generateOn_kept opened types
  refine ⟨generation, generated, shown.imp fun _ _ shows => shows.reads, ?_⟩
  intro type _
  refine ⟨fun scopes => defines_shown job scopes type,
    fun noEnum => warnings_passages (define_written job type) noEnum, ?_⟩
  intro passage member message said scopes
  have commented := message_commentedTo (marginIn_isMargin job scopes)
    (passages_isMargin job type passage member) said
  refine ⟨commented, ?_⟩
  intro wordy oneLine fails
  have known : job.map.sanitizer = sanitizer := (TypeMap.declareAll_rest _ types).1
  have told : job.map.sanitizer.Wordy := by rwa [known]
  have unbroken := messages_oneLine told oneLine fails message
    (List.mem_filterMap.mpr ⟨passage, member, said⟩)
  exact commented_of_unbroken commented unbroken

theorem header_of_page {fits : Page → Header → Prop} {pages : List Page} {headers : List Header}
    (all : List.Forall₂ fits pages headers) {page : Page} (listed : page ∈ pages) :
    ∃ header ∈ headers, fits page header :=
  forall₂_source all.flip page listed

theorem Layout.Page.Reads.entry {job : Job} {page : Page} {header : Header}
    (reads : page.Reads job header) {front back : List Entry} {entry : Entry}
    (split : page.entries = front ++ entry :: back) :
    (entry.lines job (front.foldl Entry.scopes [])).flatMap shown ⊆
      solidLines header.content := by
  obtain ⟨-, opening, -, lines⟩ := reads
  rw [lines, split, segments_append, segments, List.flatMap_append, List.flatMap_cons]
  intro line inside
  simp only [List.mem_append, inside, true_or, or_true]

theorem emitted_read {job : Job} {types : List TypeDecl} {headers : List Header}
    (reads : List.Forall₂ (Page.Reads job) (keptPages [] (pages job types)) headers)
    {type : TypeDecl} (present : type ∈ emitted job.map types) :
    ∃ header ∈ headers, ∃ scopes, (scopes, type) ∈ emittedIn job.map types ∧
      ((Entry.defines type).lines job scopes).flatMap shown ⊆ solidLines header.content := by
  obtain ⟨left, page, right, front, back, -, -, written, entries, situated, -, -, -⟩ :=
    emitted_beside present
  have listed : page ∈ keptPages [] (pages job types) := by simp [written]
  obtain ⟨header, present, shows⟩ := header_of_page reads listed
  exact ⟨header, present, _, situated, shows.entry entries⟩

/-! A player with a field whose name has a line break. -/

def torn : TypeDecl :=
  { name := "Player"
    fields := [{ name := "x\nint y;", type := { name := "Enemy", space := some "Game" } }] }

def tornJob : Job :=
  jobEach {} Sanitizer.forHeaders renderer [torn] fun _ => renderer

theorem torn_uncommented :
    (∀ style spaces resolveHeader includes, ∃ text,
      renderer style (.preamble spaces resolveHeader includes) = .ok text) ∧
    ∃ generation, ∃ header ∈ generation.headers,
      generateEach {} Sanitizer.forHeaders renderer (fun _ => renderer) [torn] =
        .ok generation ∧
      "int y;' uses unsupported external type Game.Enemy" ∈ solidLines header.content ∧
      commentText? "int y;' uses unsupported external type Game.Enemy" = none := by
  have opens : ∀ style spaces resolveHeader includes, ∃ text,
      renderer style (.preamble spaces resolveHeader includes) = .ok text :=
    fun style spaces resolveHeader includes => ⟨_, rendered style _⟩
  refine ⟨opens, ?_⟩
  obtain ⟨generation, generated, reads, remarked⟩ := remarks_commented {}
    Sanitizer.forHeaders opens [torn] fun _ => renderer
  have distinct : ([torn].map (·.fullName)).Nodup := List.nodup_singleton _
  have stays : survivors tornJob.map [torn] = [torn] := rfl
  have present : torn ∈ emitted tornJob.map [torn] := by
    rw [mem_emitted distinct, stays]
    exact List.mem_singleton_self torn
  obtain ⟨header, listed, scopes, situated, shows⟩ := emitted_read reads present
  rw [emittedIn_eq distinct, mem_groupedTypes distinct] at situated
  obtain ⟨-, rfl⟩ := situated
  have messages : messagesOf (passagesOf tornJob torn) =
      ["REMOVED: Field 'x\nint y;' uses unsupported external type Game.Enemy"] := by
    decide +kernel
  obtain ⟨passage, written, said⟩ : ∃ passage ∈ passagesOf tornJob torn, passage.message? =
      some "REMOVED: Field 'x\nint y;' uses unsupported external type Game.Enemy" := by
    rw [← List.mem_filterMap, ← messagesOf, messages]
    exact List.mem_singleton_self _
  have commented : passage.CommentedTo (marginIn tornJob []) _ :=
    ((remarked torn (List.mem_singleton_self torn)).2.2 passage written _ said []).1
  obtain ⟨line, lines, -⟩ := commented
  have later : laterLines "REMOVED: Field 'x\nint y;' uses unsupported external type Game.Enemy" =
      ["int y;' uses unsupported external type Game.Enemy"] := by decide
  have bare : passage.hang (marginIn tornJob []) = "" := by cases passage <;> rfl
  have outermost : (groupOf (survivors tornJob.map [torn]) torn.groupKey).scopes = [] := rfl
  rw [later, bare] at lines
  refine ⟨generation, header, listed, generated, shows ?_, by decide⟩
  show _ ∈ ((Entry.defines torn).lines tornJob
    (groupOf (survivors tornJob.map [torn]) torn.groupKey).scopes).flatMap shown
  rw [outermost, defines_shown]
  exact List.mem_flatMap.mpr ⟨passage, written, by simp [lines]⟩

end ProxyHeaders
