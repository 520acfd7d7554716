import ProxyHeaders.Proofs.Commented
import ProxyHeaders.Proofs.Proxy.Managed
import ProxyHeaders.Text.Identifier

/-!
Proxies look up the managed names. Whatever characters the names of a type and of its members have,
each function of its struct shows one line in a header that ends in the lookup of what the function
stands for, by literals that are read back as the managed names; and what a method passes on are its
own parameters, in order. A literal is well formed exactly if its name has no carriage return.
-/
namespace ProxyHeaders

open ProxyHeaders.Code ProxyHeaders.Layout ProxyHeaders.Mapping ProxyHeaders.Names
  ProxyHeaders.Proxy ProxyHeaders.Template ProxyHeaders.Text

theorem identifier_unbroken {text : String} (identifier : isIdentifier text) : Unbroken text := by
  have foreign : isIdentifierStart '\n' = false ∧ isIdentifierPart '\n' = false := by decide
  intro member
  unfold isIdentifier at identifier
  split at identifier
  · cases identifier
  · next first rest split =>
    rw [Bool.and_eq_true, List.all_eq_true] at identifier
    rw [split] at member
    rcases List.mem_cons.mp member with same | later
    · rw [← same, foreign.1] at identifier
      cases identifier.1
    · have part := identifier.2 _ later
      rw [foreign.2] at part
      cases part

namespace Proxy

theorem firstFailure_renderer (style : Style) (fragments : List Fragment) :
    firstFailure renderer style fragments = none := by
  induction fragments with
  | nil => rfl
  | cons fragment rest ih => rw [firstFailure, rendered, ih]

theorem passagesOf_struct {job : Job} {type : TypeDecl} (shelf : job.renderFor type = renderer)
    (noEnum : ¬ type.isEnum) {inherited : String}
    (spelled : (job.map.resolveBase type).spelling? job.settings.placeholderBase =
      some inherited) :
    passagesOf job type = structPassages job type inherited := by
  simp only [passagesOf, if_neg noEnum, classPassages, spelled, shelf, firstFailure_renderer]

theorem function_shown {job : Job} {type : TypeDecl} (shelf : job.renderFor type = renderer)
    {inherited : String} (passages : passagesOf job type = structPassages job type inherited)
    {fragment : Fragment} (member : fragment ∈ functions (structNotes job type inherited))
    (outer : String) {line : String} (shows : line ∈ shown (written (fragment.lines job.style))) :
    outer ++ job.settings.indent ++ line ∈
      (passagesOf job type).flatMap (Passage.behind outer) := by
  obtain ⟨note, listed, isFunction⟩ := List.mem_filterMap.mp member
  have comes := structNotes_comes job type inherited note listed
  have passage : note.passage job.settings.indent ∈ passagesOf job type := by
    rw [passages, structPassages, List.mem_append, List.mem_append]
    exact .inl (.inr (List.mem_map_of_mem listed))
  refine List.mem_flatMap.mpr ⟨_, passage, ?_⟩
  cases comes with
  | rejected | failed => cases isFunction
  | @rendered source code given =>
    cases isFunction
    have lines : renderer job.style fragment = .ok code := by rwa [← shelf]
    rw [rendered, Except.ok.injEq] at lines
    rw [Note.passage, Passage.behind, ← lines]
    exact List.mem_map_of_mem shows

end Proxy

/-- A header shows a function: all its lines behind one margin, among them one that ends in the lookup
of what the function stands for, and of a method the call of the managed one. -/
structure Layout.Header.Shows (header : Header) (style : Style) (fragment : Fragment) : Prop where
  whole : ∃ margin, IsMargin margin ∧ ∀ line ∈ shown (written (fragment.lines style)),
    margin ++ line ∈ solidLines header.content
  lookup : ∃ tail, LooksUp style.macroName fragment tail ∧
    ∃ start, start ++ tail ∈ solidLines header.content
  call : ∀ call, fragment.call? = some call →
    ∃ margin, IsMargin margin ∧ margin ++ call ∈ solidLines header.content

/-- Reading back undoes the escaping of every text, and what is escaped is the inside of a well-formed
literal exactly if the text has no carriage return. A run always gives headers; each function of a
struct among them stands for the type or for one of its members, and a header shows the function with
the lookup by literals made for the managed names and, if it stands for a method, the call with its
own parameters. -/
theorem managed_names_looked_up (settings : Settings)
    (macroName : isIdentifier settings.obfuscateMacro) {sanitizer : Sanitizer}
    (wordy : sanitizer.Wordy) (types : List TypeDecl) :
    let job := jobFor settings sanitizer renderer types
    (∀ text, unescapeLiteral (escapeLiteral text) = some text ∧
      (Denotes (escapeLiteral text) text ↔ '\r' ∉ text.toList)) ∧
    ∃ generation, generateWith settings sanitizer renderer types = .ok generation ∧
      ∀ type ∈ emitted job.map types, ¬ type.isEnum → ∀ inherited,
        (job.map.resolveBase type).spelling? job.settings.placeholderBase = some inherited →
        ∀ fragment ∈ functions (structNotes job type inherited),
          StandsFor (sceneOf job type) job.image fragment ∧
          ∃ header ∈ generation.headers, header.Shows job.style fragment := by
  intro job
  have opened (includes : List String) : ∃ text, preamble job includes = .ok text :=
    ⟨_, rendered _ _⟩
  obtain ⟨generation, generated, pages, -, -⟩ := generateOn_kept opened types
  have reads := pages.imp fun _ _ shows => shows.reads
  refine ⟨fun text => ⟨unescape_escape text, (escape_quotes text).denotes_iff⟩, generation, generated,
    ?_⟩
  intro type present noEnum inherited spelled fragment member
  have stands : StandsFor (sceneOf job type) job.image fragment := struct_standsFor member
  obtain ⟨header, listed, scopes, -, shows⟩ := emitted_read reads present
  refine ⟨stands, header, listed, ?_⟩
  rw [defines_shown] at shows
  have lines {line : String} (own : line ∈ shown (written (fragment.lines job.style))) :
      marginIn job scopes ++ job.settings.indent ++ line ∈ solidLines header.content :=
    shows (function_shown rfl (passagesOf_struct rfl noEnum spelled) member _ own)
  have margin : IsMargin (marginIn job scopes ++ job.settings.indent) :=
    (marginIn_isMargin job scopes).append (.spaces (indent_spaces job.settings))
  constructor
  · exact ⟨_, margin, fun line own => lines own⟩
  · obtain ⟨tail, looks, ends⟩ := looks_up job.style stands.isFunction
    obtain ⟨start, seen⟩ := (looks.statement (identifier_unbroken macroName)).shown_at_end ends
    refine ⟨tail, looks, marginIn job scopes ++ job.settings.indent ++ start, ?_⟩
    rw [String.append_assoc]
    exact lines seen
  · intro call called
    have same : job.map.sanitizer = sanitizer := (TypeMap.declareAll_rest _ types).1
    have known : (sceneOf job type).map.sanitizer.Wordy := same ▸ wordy
    have indented : IsMargin job.style.indent := .spaces (indent_spaces job.settings)
    obtain ⟨line, own, text⟩ := calls job.style called
    have seen : job.style.indent ++ call ∈ shown (written (fragment.lines job.style)) := by
      rw [written, shown_unlines, List.flatMap_map, List.mem_flatMap]
      refine ⟨line, own, ?_⟩
      rw [text]
      exact (stands.call_statement known called).shown_behind indented
    refine ⟨_, margin.append indented, ?_⟩
    rw [String.append_assoc]
    exact lines seen

/-! A type and a method with marks, a line feed and a carriage return in their names. -/

def speech : Method :=
  { name := "Say\r\"hi\"\n"
    returnType := { name := "Void", space := some "System" }
    parameters := [{ name := some "to", type := { name := "Int32", space := some "System" } }] }

def speaker : TypeDecl :=
  { name := "Sp\"eaker", space := some "Odd\\Space", methods := [speech] }

def speakerJob : Job := jobFor {} Sanitizer.forHeaders renderer [speaker]

def speechFragment : Fragment :=
  .method "void" "Say$$hi$$" speech.name ["int to"] ["to"] false

theorem speech_looked_up :
    isIdentifier ({} : Settings).obfuscateMacro ∧ Sanitizer.forHeaders.Wordy ∧
    ∃ generation, generateWith {} Sanitizer.forHeaders renderer [speaker] = .ok generation ∧
      ∃ header ∈ generation.headers, ∃ start inside,
        unescapeLiteral inside = some "Say\r\"hi\"\n" ∧ ¬ Denotes inside "Say\r\"hi\"\n" ∧
        start ++ (" = GetClass().GetMethod(" ++ literalCall "O" inside ++ ", " ++ toString 1 ++
          ");") ∈ solidLines header.content := by
  have macroName : isIdentifier ({} : Settings).obfuscateMacro := by decide
  refine ⟨macroName, Sanitizer.wordy_forHeaders, ?_⟩
  obtain ⟨-, generation, generated, shows⟩ := managed_names_looked_up {} macroName
    Sanitizer.wordy_forHeaders [speaker]
  have distinct : ([speaker].map (·.fullName)).Nodup := List.nodup_singleton _
  have present : speaker ∈ emitted speakerJob.map [speaker] := by
    rw [mem_emitted distinct]
    exact List.mem_singleton_self speaker
  have written : speechFragment ∈ functions (structNotes speakerJob speaker "Behaviour") := by
    decide +kernel
  obtain ⟨-, header, listed, shown⟩ :=
    shows speaker present (by decide) "Behaviour" rfl speechFragment written
  obtain ⟨tail, looks, start, seen⟩ := shown.lookup
  refine ⟨generation, generated, header, listed, start, ?_⟩
  cases looks with
  | @method _ _ _ inside _ _ _ quotes =>
    have torn : ¬ Denotes inside "Say\r\"hi\"\n" :=
      fun denotes => quotes.denotes_iff.mp denotes (by decide)
    exact ⟨inside, quotes.decodes, torn, seen⟩

end ProxyHeaders
