import ProxyHeaders.Names.Sanitizer

/-!
What a sanitizer remembers. An answer that it keeps for a name is the one that computing it anew
would give, whichever names it was asked before; so it answers like a sanitizer that remembers
nothing, after any history of questions. Only a missing name can leave something else behind, in
the entry of the name `None`.
-/
namespace ProxyHeaders.Names

/-! The entries of different questions are different, although a name may end like a spelling. -/

theorem key_reversed (name : String) (style : NameCase) :
    (Sanitizer.key (some name) style).toList.reverse =
      style.word.toList.reverse ++ '_' :: name.toList.reverse := by
  simp [Sanitizer.key]

theorem word_unmarked (style : NameCase) : ∀ c ∈ style.word.toList.reverse, c ≠ '_' := by
  have plain : style.word.toList.all (· != '_') = true := by cases style <;> rfl
  simpa using plain

theorem word_of_key (name : String) (style : NameCase) :
    (Sanitizer.key (some name) style).toList.reverse.takeWhile (· != '_') =
      style.word.toList.reverse := by
  rw [key_reversed, List.takeWhile_append_of_pos (by simpa using word_unmarked style)]
  simp

theorem word_inj : ∀ {style other : NameCase}, style.word = other.word → style = other := by
  intro style other
  cases style <;> cases other <;> decide

theorem key_inj {name other : String} {style otherStyle : NameCase} :
    Sanitizer.key (some name) style = Sanitizer.key (some other) otherStyle ↔
      name = other ∧ style = otherStyle := by
  constructor
  · intro same
    -- Equal keys end in the same word, and what is left of them is the name.
    have words : style.word.toList.reverse = otherStyle.word.toList.reverse := by
      rw [← word_of_key name, ← word_of_key other, same]
    have sameStyle : style = otherStyle :=
      word_inj (String.toList_inj.mp (List.reverse_inj.mp words))
    subst sameStyle
    have letters := congrArg String.toList same
    simp only [Sanitizer.key, String.toList_append, List.append_cancel_right_eq] at letters
    exact ⟨String.toList_inj.mp letters, rfl⟩
  · rintro ⟨rfl, rfl⟩
    rfl

namespace Sanitizer

/-- What is kept for a name is what computing gives. -/
def Faithful (sanitizer : Sanitizer) : Prop :=
  ∀ name style answer, sanitizer.kept.lookup (key (some name) style) = some answer →
    answer = sanitizer.compute (some name) style

/-- Two sanitizers that differ at most in how they come by their answers. -/
structure Alike (first second : Sanitizer) : Prop where
  keywords : first.keywords = second.keywords
  macros : first.macros = second.macros
  escape : first.escape = second.escape
  identifier : ∀ name, first.identifier name = second.identifier name

variable {sanitizer : Sanitizer}

theorem forget_faithful (sanitizer : Sanitizer) : sanitizer.forget.Faithful := by
  intro name style answer found
  cases found

theorem sanitize_faithful (faithful : sanitizer.Faithful) (name : String) (style : NameCase) :
    sanitizer.sanitize (some name) style = sanitizer.compute (some name) style := by
  unfold sanitize
  cases found : sanitizer.kept.lookup (key (some name) style) with
  | none => rfl
  | some answer => exact faithful name style answer found

namespace Alike

theorem refl (sanitizer : Sanitizer) : sanitizer.Alike sanitizer :=
  ⟨rfl, rfl, rfl, fun _ => rfl⟩

theorem trans {first second third : Sanitizer} (before : first.Alike second)
    (after : second.Alike third) : first.Alike third :=
  ⟨before.keywords.trans after.keywords, before.macros.trans after.macros,
    before.escape.trans after.escape,
    fun name => (before.identifier name).trans (after.identifier name)⟩

section Answers

variable {first second : Sanitizer} (alike : first.Alike second)

include alike

theorem compute (name : Option String) (style : NameCase) :
    first.compute name style = second.compute name style := by
  obtain ⟨keywords, macros, escape, -⟩ := alike
  cases first
  cases second
  cases keywords
  cases macros
  cases escape
  rfl

theorem accessorName (start name : String) :
    first.accessorName start name = second.accessorName start name := by
  have replaced : first.replaceForeign name = second.replaceForeign name := by
    rw [replaceForeign, alike.escape]
    rfl
  rw [Sanitizer.accessorName, replaced]
  rfl

theorem parameterNames (names : List (Option String)) (taken : List String) :
    first.parameterNames names taken = second.parameterNames names taken := by
  simp only [Sanitizer.parameterNames, parameterBase, alike.identifier]

end Answers

end Alike

theorem lookup_entry {kept : List (String × String)} {name other answer : String}
    {style otherStyle : NameCase} :
    ((key (some name) style, answer) :: kept).lookup (key (some other) otherStyle) =
      if name = other ∧ style = otherStyle then some answer
      else kept.lookup (key (some other) otherStyle) := by
  rw [List.lookup_cons]
  by_cases same : name = other ∧ style = otherStyle
  · obtain ⟨rfl, rfl⟩ := same
    simp
  · have different : key (some other) otherStyle ≠ key (some name) style := by
      intro equal
      exact same (key_inj.mp equal.symm)
    rw [if_neg same, beq_eq_false_iff_ne.mpr different]

theorem keep_identifier (sanitizer : Sanitizer) (name other : String) (style : NameCase) :
    (sanitizer.keep (some name) style).identifier other = sanitizer.identifier other := by
  simp only [keep]
  split
  · rfl
  · next unknown =>
    simp only [identifier, sanitize, lookup_entry]
    split
    · next same =>
      -- The entry that was missing holds what was computed in its place.
      obtain ⟨rfl, rfl⟩ := same
      rw [Option.not_isSome_iff_eq_none.mp unknown]
      rfl
    · rfl

theorem keep_alike (sanitizer : Sanitizer) (name : String) (style : NameCase) :
    (sanitizer.keep (some name) style).Alike sanitizer := by
  refine ⟨?_, ?_, ?_, fun other => keep_identifier sanitizer name other style⟩
  all_goals simp only [keep]
  all_goals split
  all_goals rfl

theorem keepAll_alike (sanitizer : Sanitizer) (names : List String) :
    (sanitizer.keepAll names).Alike sanitizer := by
  unfold keepAll
  induction names generalizing sanitizer with
  | nil => exact .refl sanitizer
  | cons name rest ih => exact (ih (sanitizer.keep (some name))).trans (keep_alike ..)

theorem keep_faithful (faithful : sanitizer.Faithful) (name : String) (style : NameCase) :
    (sanitizer.keep (some name) style).Faithful ∧
      (sanitizer.keep (some name) style).Alike sanitizer := by
  refine ⟨?_, keep_alike sanitizer name style⟩
  simp only [keep]
  split
  · -- The question was asked before.
    exact faithful
  · -- The new entry is found for this name in this spelling, and for no other question.
    intro other otherStyle answer found
    simp only [lookup_entry] at found
    split at found
    · next same =>
      obtain ⟨rfl, rfl⟩ := same
      exact (Option.some_inj.mp found).symm
    · exact faithful other otherStyle answer found

theorem keepAll_faithful (faithful : sanitizer.Faithful) (names : List String) :
    (sanitizer.keepAll names).Faithful ∧ (sanitizer.keepAll names).Alike sanitizer := by
  refine ⟨?_, keepAll_alike sanitizer names⟩
  unfold keepAll
  induction names generalizing sanitizer with
  | nil => exact faithful
  | cons name rest ih => exact ih (keep_faithful faithful name .asIs).1

/-! A missing name has the entry of the name `None`, but another identifier. -/

example : (forHeaders.keep none).identifier "None" = "_" ∧ forHeaders.identifier "None" = "None" := by
  decide

/-! Whole histories of questions. -/

/-- What a sanitizer can be asked, and that it can be told to forget. -/
inductive Question where
  | identifier (name : Option String) (style : NameCase)
  | accessor (start name : String)
  | parameters (names : List (Option String)) (taken : List String)
  | forgetting
  deriving DecidableEq, Repr

def Question.IsNamed : Question → Prop
  | .identifier none _ => False
  | _ => True

instance : DecidablePred Question.IsNamed
  | .identifier none _ => .isFalse id
  | .identifier (some _) _ => .isTrue trivial
  | .accessor _ _ => .isTrue trivial
  | .parameters _ _ => .isTrue trivial
  | .forgetting => .isTrue trivial

def after (sanitizer : Sanitizer) : Question → Sanitizer
  | .identifier name style => sanitizer.keep name style
  | .accessor _ _ => sanitizer
  | .parameters names _ => sanitizer.keepAll (statedNames names)
  | .forgetting => sanitizer.forget

def afterAll (sanitizer : Sanitizer) (history : List Question) : Sanitizer :=
  history.foldl after sanitizer

theorem forget_alike (faithful : sanitizer.Faithful) : sanitizer.forget.Alike sanitizer := by
  refine ⟨rfl, rfl, rfl, ?_⟩
  intro name
  rw [identifier, identifier, sanitize_faithful (forget_faithful sanitizer),
    sanitize_faithful faithful]
  rfl

theorem after_faithful (faithful : sanitizer.Faithful) {question : Question}
    (named : question.IsNamed) :
    (sanitizer.after question).Faithful ∧ (sanitizer.after question).Alike sanitizer := by
  cases question with
  | identifier name style =>
    cases name with
    | none => exact named.elim
    | some name => exact keep_faithful faithful name style
  | accessor start name => exact ⟨faithful, .refl sanitizer⟩
  | parameters names taken => exact keepAll_faithful faithful (statedNames names)
  | forgetting => exact ⟨forget_faithful sanitizer, forget_alike faithful⟩

theorem afterAll_faithful (faithful : sanitizer.Faithful) {history : List Question}
    (named : ∀ question ∈ history, question.IsNamed) :
    (sanitizer.afterAll history).Faithful ∧ (sanitizer.afterAll history).Alike sanitizer := by
  unfold afterAll
  induction history generalizing sanitizer with
  | nil => exact ⟨faithful, .refl sanitizer⟩
  | cons question rest ih =>
    obtain ⟨kept, alike⟩ := after_faithful faithful (named question List.mem_cons_self)
    obtain ⟨keptAll, alikeAll⟩ :=
      ih kept fun other later => named other (List.mem_cons_of_mem question later)
    exact ⟨keptAll, alikeAll.trans alike⟩

/-- Whatever names it was asked before, a sanitizer answers what it would compute at the start. -/
theorem afterAll_sanitize (faithful : sanitizer.Faithful) {history : List Question}
    (named : ∀ question ∈ history, question.IsNamed) (name : String) (style : NameCase) :
    (sanitizer.afterAll history).sanitize (some name) style =
      sanitizer.compute (some name) style := by
  obtain ⟨kept, alike⟩ := afterAll_faithful faithful named
  rw [sanitize_faithful kept, alike.compute]

end Sanitizer

end ProxyHeaders.Names
