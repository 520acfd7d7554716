import ProxyHeaders.Proofs.Names.Answers
import ProxyHeaders.Proofs.Names.Identifiers
import ProxyHeaders.Proofs.Names.Memory

/-!
Where the memory of a sanitizer shows. It keeps its answers by name and spelling, and a missing name
shares the entries of the name `None`. Whichever of the two is looked up first has the entry until
the sanitizer forgets, and the other is answered by it, wrongly. Every other answer, after any
history of questions, is the one that a sanitizer gives which was asked nothing before.
-/
namespace ProxyHeaders.Names

/-- Questions share an entry if they are for one spelling of one name, where a missing name counts
as the name `None`. -/
theorem key_eq_iff {name other : Option String} {style otherStyle : NameCase} :
    Sanitizer.key name style = Sanitizer.key other otherStyle ↔
      name.getD "None" = other.getD "None" ∧ style = otherStyle := by
  have stated (name : Option String) (style : NameCase) :
      Sanitizer.key name style = Sanitizer.key (some (name.getD "None")) style := rfl
  rw [stated name, stated other, key_inj]

namespace Sanitizer

/-! What was looked up -/

def Question.lookups : Question → List (Option String × NameCase)
  | .identifier name style => [(name, style)]
  | .accessor _ _ => []
  | .parameters names _ => (statedNames names).map fun name => (some name, .asIs)
  | .forgetting => []

def Question.behind (earlier : List (Option String × NameCase)) :
    Question → List (Option String × NameCase)
  | .forgetting => []
  | question => earlier ++ question.lookups

/-- All that was looked up since the sanitizer last forgot. -/
def lookedUp (history : List Question) : List (Option String × NameCase) :=
  history.foldl Question.behind []

/-- Which of a missing name and the name `None` has the entry for a spelling, if one of them has:
the first that was looked up. -/
def holder (history : List Question) (style : NameCase) : Option (Option String) :=
  ((lookedUp history).find? fun (name, spelled) =>
    (name == none || name == some "None") && spelled == style).map (·.1)

/-- The one of the two is looked up while the other has their entry. -/
def Displaced (history : List Question) (name : Option String) (style : NameCase) : Prop :=
  name = none ∧ holder history style = some (some "None") ∨
    name = some "None" ∧ holder history style = some none

def Question.Misled (history : List Question) (question : Question) : Prop :=
  ∃ asked ∈ question.lookups, Displaced history asked.1 asked.2

inductive Answer where
  | name (text : String)
  | names (texts : List String)
  /-- What there is to say to being told to forget. -/
  | nothing
  deriving DecidableEq, Repr

def answer (sanitizer : Sanitizer) : Question → Answer
  | .identifier name style => .name (sanitizer.sanitize name style)
  | .accessor start name => .name (sanitizer.accessorName start name)
  | .parameters names taken => .names (sanitizer.parameterNames names taken)
  | .forgetting => .nothing

/-- What a sanitizer keeps under an entry is computed for the first name that was looked up there. -/
structure Remembers (fresh sanitizer : Sanitizer) (earlier : List (Option String × NameCase)) :
    Prop where
  settings : sanitizer.forget = fresh.forget
  kept : ∀ entry, sanitizer.kept.lookup entry =
    (earlier.find? fun asked => key asked.1 asked.2 == entry).map fun asked =>
      fresh.compute asked.1 asked.2

namespace Remembers

variable {fresh sanitizer : Sanitizer} {earlier : List (Option String × NameCase)}

theorem start (sanitizer : Sanitizer) : sanitizer.Remembers sanitizer.forget [] :=
  ⟨rfl, fun _ => rfl⟩

section Later

variable (remembers : fresh.Remembers sanitizer earlier)

include remembers

theorem compute (name : Option String) (style : NameCase) :
    sanitizer.compute name style = fresh.compute name style := by
  have forgotten (sanitizer : Sanitizer) :
      sanitizer.compute name style = sanitizer.forget.compute name style := rfl
  rw [forgotten sanitizer, remembers.settings, ← forgotten fresh]

theorem keep (name : Option String) (style : NameCase) :
    fresh.Remembers (sanitizer.keep name style) (earlier ++ [(name, style)]) := by
  constructor
  · rw [← remembers.settings]
    simp only [Sanitizer.keep]
    split
    · rfl
    · rfl
  · intro entry
    have kept := remembers.kept entry
    rw [List.find?_append, Option.map_or, ← kept]
    by_cases own : key name style = entry
    · subst own
      cases known : sanitizer.kept.lookup (key name style) with
      | some answer => simp [Sanitizer.keep, known]
      | none => simp [Sanitizer.keep, known, remembers.compute]
    · have other : (entry == key name style) = false := by simpa using Ne.symm own
      have unasked : [(name, style)].find? (fun asked => key asked.1 asked.2 == entry) = none := by
        simp [own]
      rw [unasked, Option.map_none, Option.or_none]
      simp only [Sanitizer.keep]
      split
      · rfl
      · rw [List.lookup_cons, other]

theorem askAll (questions : List (Option String × NameCase)) :
    fresh.Remembers (sanitizer.askAll questions) (earlier ++ questions) := by
  induction questions generalizing sanitizer earlier with
  | nil => rwa [List.append_nil]
  | cons asked rest ih =>
    have later := ih (remembers.keep asked.1 asked.2)
    rwa [List.append_assoc] at later

theorem after (question : Question) :
    fresh.Remembers (sanitizer.after question) (question.behind earlier) := by
  cases question with
  | identifier name style => exact remembers.keep name style
  | accessor start name =>
    have unasked := remembers.askAll []
    exact unasked
  | parameters names taken =>
    have asked := remembers.askAll ((statedNames names).map fun name => (some name, .asIs))
    rw [Sanitizer.askAll, List.foldl_map] at asked
    exact asked
  | forgetting => exact ⟨remembers.settings, fun _ => rfl⟩

theorem afterAll (history : List Question) :
    fresh.Remembers (sanitizer.afterAll history) (history.foldl Question.behind earlier) := by
  unfold Sanitizer.afterAll
  induction history generalizing sanitizer earlier with
  | nil => exact remembers
  | cons question rest ih => exact ih (remembers.after question)

theorem sanitize (name : Option String) (style : NameCase) :
    let first := (earlier.find? fun asked => key asked.1 asked.2 == key name style).getD (name, style)
    sanitizer.sanitize name style = fresh.compute first.1 first.2 := by
  intro first
  rw [Sanitizer.sanitize, remembers.kept, remembers.compute]
  cases found : earlier.find? fun asked => key asked.1 asked.2 == key name style with
  | none => simp [first, found]
  | some asked => simp [first, found]

end Later

end Remembers

/-! What is computed for the two names -/

theorem compute_missing_last (sanitizer : Sanitizer) (style : NameCase) :
    (sanitizer.compute none style).toList.getLast? = some '_' := by
  have word : IsWord "" := by decide
  have valid : withValidStart (inCase style "") = "_" := by
    cases style <;> decide
  simp only [compute, Option.getD_none, replaceForeign_of_word sanitizer word, valid]
  split
  · simp
  · rfl

theorem compute_none_last (sanitizer : Sanitizer) (style : NameCase) :
    (sanitizer.compute (some "None") style).toList.getLast? = some 'e' := by
  have word : IsWord "None" := by decide
  have valid : (withValidStart (inCase style "None")).toList.getLast? = some 'e' := by
    cases style <;> decide
  simp only [compute, Option.getD_some, replaceForeign_of_word sanitizer word]
  split
  · rw [String.toList_append, List.getLast?_append, valid]
    rfl
  · exact valid

theorem compute_apart (sanitizer : Sanitizer) (style : NameCase) :
    sanitizer.compute none style ≠ sanitizer.compute (some "None") style := by
  intro same
  have last := sanitizer.compute_missing_last style
  rw [same, compute_none_last] at last
  cases last

/-! Answers after a history -/

theorem shared_entry {name : Option String} (shared : name.getD "None" = "None") (style : NameCase)
    (asked : Option String × NameCase) :
    (key asked.1 asked.2 == key name style) =
      ((asked.1 == none || asked.1 == some "None") && asked.2 == style) := by
  rw [Bool.eq_iff_iff, beq_iff_eq, key_eq_iff, shared]
  cases asked.1 <;> simp

theorem own_entry {name : Option String} (own : name.getD "None" ≠ "None") {style : NameCase}
    {asked : Option String × NameCase} (same : key asked.1 asked.2 = key name style) :
    asked = (name, style) := by
  obtain ⟨names, styles⟩ := key_eq_iff.mp same
  refine Prod.ext ?_ styles
  cases name with
  | none => exact absurd rfl own
  | some name =>
    cases earlier : asked.1 with
    | none => exact absurd (by simpa [earlier] using names.symm) own
    | some other => simpa [earlier] using names

/-- The name that an answer is given for. -/
def owner (history : List Question) (name : Option String) (style : NameCase) : Option String :=
  if name.getD "None" = "None" then (holder history style).getD name else name

theorem holder_either {history : List Question} {style : NameCase} {name : Option String}
    (holds : holder history style = some name) : name = none ∨ name = some "None" := by
  obtain ⟨asked, found, rfl⟩ := Option.map_eq_some_iff.mp holds
  have either := List.find?_some found
  simp only [Bool.and_eq_true, Bool.or_eq_true, beq_iff_eq] at either
  exact either.1

theorem sanitize_owner (sanitizer : Sanitizer) (history : List Question) (name : Option String)
    (style : NameCase) :
    (sanitizer.forget.afterAll history).sanitize name style =
      sanitizer.compute (owner history name style) style := by
  have answered := ((Remembers.start sanitizer).afterAll history).sanitize name style
  rw [answered, owner]
  by_cases shared : name.getD "None" = "None"
  · simp only [shared_entry shared, if_pos shared, holder, lookedUp]
    cases found : (history.foldl Question.behind []).find? fun asked =>
        (asked.1 == none || asked.1 == some "None") && asked.2 == style with
    | none => rfl
    | some asked =>
      have spelled := List.find?_some found
      simp only [Bool.and_eq_true, beq_iff_eq] at spelled
      rw [Option.getD_some, Option.map_some, Option.getD_some, spelled.2]
  · rw [if_neg shared]
    cases found : (history.foldl Question.behind []).find? fun asked =>
        key asked.1 asked.2 == key name style with
    | none => rfl
    | some asked =>
      have same := List.find?_some found
      rw [Option.getD_some, own_entry shared (beq_iff_eq.mp same)]

theorem displaced_iff {history : List Question} {name : Option String} {style : NameCase} :
    Displaced history name style ↔ owner history name style ≠ name := by
  unfold Displaced owner
  cases holds : holder history style with
  | none => simp
  | some given =>
    rcases holder_either holds with rfl | rfl
    · cases name with
      | none => simp
      | some name => simp [eq_comm]
    · cases name with
      | none => simp
      | some name => simp [eq_comm]

/-- A name is answered for as if nothing had been asked before, unless another has its entry. -/
theorem sanitize_afresh_iff (sanitizer : Sanitizer) (history : List Question)
    (name : Option String) (style : NameCase) :
    (sanitizer.forget.afterAll history).sanitize name style = sanitizer.compute name style ↔
      ¬ Displaced history name style := by
  rw [sanitize_owner, displaced_iff, not_not]
  refine ⟨fun same => ?_, fun own => by rw [own]⟩
  by_contra other
  have apart := sanitizer.compute_apart style
  -- Where another name answers, one of the two answers for the other.
  rcases displaced_iff.mpr other with ⟨rfl, holds⟩ | ⟨rfl, holds⟩
  · simp only [owner, holds, Option.getD_none, Option.getD_some, if_true] at same
    exact apart same.symm
  · simp only [owner, holds, Option.getD_some, if_true] at same
    exact apart same

/-! Parameters -/

theorem compute_undigited (sanitizer : Sanitizer) {name : Option String}
    (either : name = none ∨ name = some "None") (style : NameCase) :
    ¬ (sanitizer.compute name style).toList.getLast?.any Char.isDigit := by
  rcases either with rfl | rfl
  · rw [compute_missing_last]
    decide
  · rw [compute_none_last]
    decide

theorem parameterBase_afresh_iff (sanitizer : Sanitizer) (history : List Question)
    (name : Option String) (index : Nat) :
    (sanitizer.forget.afterAll history).parameterBase name index =
        sanitizer.forget.parameterBase name index ↔
      ∀ text, name = some text → ¬ Text.isAllBlank text → ¬ Displaced history name .asIs := by
  cases name with
  | none => simp [parameterBase]
  | some text =>
    by_cases blank : Text.isAllBlank text
    · simp [parameterBase, blank]
    · simp only [parameterBase, blank, Bool.false_eq_true, if_false, Option.some.injEq, forall_eq',
        not_false_eq_true, forall_true_left]
      exact sanitize_afresh_iff sanitizer history (some text) .asIs

theorem parameterBase_apart (sanitizer : Sanitizer) (history : List Question)
    (name : Option String) (index : Nat) :
    let base := (sanitizer.forget.afterAll history).parameterBase name index
    let fresh := sanitizer.forget.parameterBase name index
    base = fresh ∨ ∀ number again, numbered base number ≠ numbered fresh again := by
  intro base fresh
  refine or_iff_not_imp_left.mpr fun changed => ?_
  have misled := changed
  simp only [base, fresh, parameterBase_afresh_iff, not_forall, not_not] at misled
  obtain ⟨text, rfl, stated, missing | ⟨none, holds⟩⟩ := misled
  · cases missing.1
  · cases none
    have given : base = sanitizer.compute .none .asIs := by
      have answered := sanitizer.sanitize_owner history (some "None") .asIs
      simp only [owner, holds, Option.getD_some, if_true] at answered
      simp only [base, parameterBase, stated, Bool.false_eq_true, if_false]
      exact answered
    have computed : fresh = sanitizer.compute (some "None") .asIs := by
      simp only [fresh, parameterBase, stated, Bool.false_eq_true, if_false]
      rfl
    apply numbered_apart
    · rw [given]
      exact sanitizer.compute_undigited (.inl rfl) .asIs
    · rw [computed]
      exact sanitizer.compute_undigited (.inr rfl) .asIs
    · exact changed

theorem mem_statedNames {names : List (Option String)} {text : String} :
    text ∈ statedNames names ↔ some text ∈ names ∧ ¬ Text.isAllBlank text := by
  simp [statedNames]

theorem parameterNames_afresh_iff (sanitizer : Sanitizer) (history : List Question)
    (names : List (Option String)) (taken : List String) :
    (sanitizer.forget.afterAll history).parameterNames names taken =
        sanitizer.forget.parameterNames names taken ↔
      ∀ text ∈ statedNames names, ¬ Displaced history (some text) .asIs := by
  constructor
  · intro same text stated displaced
    obtain ⟨listed, solid⟩ := mem_statedNames.mp stated
    have bases := spread_determines (by
      rw [List.forall₂_map_left_iff, List.forall₂_map_right_iff, List.forall₂_same]
      exact fun entry _ => sanitizer.parameterBase_apart history entry.1 entry.2) same
    obtain ⟨index, place⟩ := List.mem_iff_getElem?.mp listed
    have base := List.map_inj_left.mp bases (some text, index)
      (List.mk_mem_zipIdx_iff_getElem?.mpr place)
    exact (parameterBase_afresh_iff ..).mp base text rfl solid displaced
  · intro undisplaced
    refine congrArg (spread taken) (List.map_congr_left ?_)
    rintro ⟨name, index⟩ place
    refine (parameterBase_afresh_iff ..).mpr ?_
    rintro text rfl solid
    exact undisplaced text (mem_statedNames.mpr ⟨List.fst_mem_of_mem_zipIdx place, solid⟩)

/-- After every history of questions a sanitizer answers every question as one that was asked
nothing does, unless it looks up a missing name whose entry the name `None` has, or that name where
a missing one has it. -/
theorem answered_afresh_iff (sanitizer : Sanitizer) (history : List Question)
    (question : Question) :
    (sanitizer.forget.afterAll history).answer question = sanitizer.forget.answer question ↔
      ¬ question.Misled history := by
  cases question with
  | identifier name style =>
    simp only [answer, Answer.name.injEq, Question.Misled, Question.lookups, List.mem_singleton,
      exists_eq_left]
    exact sanitize_afresh_iff sanitizer history name style
  | accessor start name =>
    have settings := ((Remembers.start sanitizer).afterAll history).settings
    have forgotten (sanitizer : Sanitizer) :
        sanitizer.accessorName start name = sanitizer.forget.accessorName start name := rfl
    have same : (sanitizer.forget.afterAll history).accessorName start name =
        sanitizer.forget.accessorName start name := by
      rw [forgotten, settings]
    simp [answer, Question.Misled, Question.lookups, same]
  | parameters names taken =>
    simp only [answer, Answer.names.injEq, Question.Misled, Question.lookups]
    rw [parameterNames_afresh_iff]
    simp
  | forgetting => simp [answer, Question.Misled, Question.lookups]

end Sanitizer

end ProxyHeaders.Names
