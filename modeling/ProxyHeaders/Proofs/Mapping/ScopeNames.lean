import ProxyHeaders.Mapping.TypeMap
import ProxyHeaders.Proofs.Names.Identifiers

/-!
The segments of a scope, which double colons separate. A scope is made of the parts of a namespace as
they are, so its segments are identifiers exactly if those of every part are; the name of a type
behind the scope adds an identifier.
-/
namespace ProxyHeaders.Mapping

open ProxyHeaders.Names

/-- The pieces between the double colons of a text, which are found from its start; `piece` is the
one being read, latest character first. -/
def cutFrom (piece : List Char) : List Char → List (List Char)
  | ':' :: ':' :: rest => piece.reverse :: cutFrom [] rest
  | c :: rest => cutFrom (c :: piece) rest
  | [] => [piece.reverse]

def scopeSegments (text : String) : List String := (cutFrom [] text.toList).map String.ofList

theorem cutFrom_starts (piece chars : List Char) :
    ∃ further rest, cutFrom piece chars = (piece.reverse ++ further) :: rest := by
  fun_induction cutFrom piece chars with
  | case1 piece rest ih => exact ⟨[], _, by rw [List.append_nil]⟩
  | case2 piece c rest _ ih =>
    obtain ⟨further, others, cut⟩ := ih
    exact ⟨c :: further, others, by simp [cut]⟩
  | case3 piece => exact ⟨[], [], by rw [List.append_nil]⟩

theorem cutFrom_undivided {chars : List Char} (undivided : ':' ∉ chars) (piece : List Char) :
    cutFrom piece chars = [piece.reverse ++ chars] := by
  fun_induction cutFrom piece chars with
  | case1 piece rest ih => simp at undivided
  | case2 piece c rest _ ih => simp [ih (fun later => undivided (List.mem_cons_of_mem c later))]
  | case3 piece => simp

section Sound

variable (sound : List Char → Prop) (noEmpty : ¬ sound [])
  (undivided : ∀ piece, sound piece → ':' ∉ piece)

include noEmpty undivided

theorem cutFrom_colon (chars : List Char) : ∃ found ∈ cutFrom [] (':' :: chars), ¬ sound found := by
  by_cases double : ∃ rest, chars = ':' :: rest
  · obtain ⟨rest, rfl⟩ := double
    exact ⟨[], List.mem_cons_self, noEmpty⟩
  · have single : cutFrom [] (':' :: chars) = cutFrom [':'] chars :=
      cutFrom.eq_2 [] ':' chars fun rest _ same => double ⟨rest, same⟩
    obtain ⟨further, others, cut⟩ := cutFrom_starts [':'] chars
    rw [single, cut]
    refine ⟨_, List.mem_cons_self, ?_⟩
    exact fun isSound => undivided _ isSound List.mem_cons_self

/-- A double colon parts the pieces in front of it from those behind it. Only where the text in front
ends in a colon it is found one character early, and then neither side is sound. -/
theorem cutFrom_append (piece front back : List Char) :
    (∀ found ∈ cutFrom piece (front ++ ':' :: ':' :: back), sound found) ↔
      (∀ found ∈ cutFrom piece front, sound found) ∧ ∀ found ∈ cutFrom [] back, sound found := by
  fun_induction cutFrom piece front with
  | case1 piece rest ih => simp [cutFrom, ih, and_assoc]
  | case2 piece c rest single ih =>
    by_cases early : c = ':' ∧ rest = []
    · -- Three colons in a row: the last one is left for the pieces behind.
      obtain ⟨rfl, rfl⟩ := early
      obtain ⟨found, listed, unsound⟩ := cutFrom_colon sound noEmpty undivided back
      constructor
      · intro all
        exact absurd (all found (List.mem_cons_of_mem _ listed)) unsound
      · rintro ⟨front, -⟩
        exact absurd (by simp) (undivided _ (front _ (List.mem_singleton_self _)))
    · have later : cutFrom piece (c :: (rest ++ ':' :: ':' :: back)) =
          cutFrom (c :: piece) (rest ++ ':' :: ':' :: back) := by
        apply cutFrom.eq_2
        intro further colon same
        cases rest with
        | nil => exact early ⟨colon, rfl⟩
        | cons next rest =>
          rw [List.cons_append, List.cons.injEq] at same
          exact single rest colon (by rw [same.1])
      rw [List.cons_append, later]
      exact ih
  | case3 piece => simp [cutFrom]

end Sound

/-! Scopes of identifiers -/

/-- Every segment of the text is an identifier that is no reserved word. -/
def SafeScope (sanitizer : Sanitizer) (text : String) : Prop :=
  ∀ segment ∈ scopeSegments text, sanitizer.Safe segment

instance (sanitizer : Sanitizer) (text : String) : Decidable (SafeScope sanitizer text) :=
  inferInstanceAs (Decidable (∀ segment ∈ scopeSegments text, sanitizer.Safe segment))

section Scopes

variable {sanitizer : Sanitizer}

theorem IsIdentifier.undivided {name : String} (identifier : IsIdentifier name) :
    ':' ∉ name.toList := fun listed => absurd (identifier.word ':' listed) (by decide)

theorem safeScope_undivided {text : String} (undivided : ':' ∉ text.toList) :
    SafeScope sanitizer text ↔ sanitizer.Safe text := by
  simp [SafeScope, scopeSegments, cutFrom_undivided undivided]

theorem safeScope_append {front back : String} :
    SafeScope sanitizer (front ++ "::" ++ back) ↔
      SafeScope sanitizer front ∧ SafeScope sanitizer back := by
  have noEmpty : ¬ sanitizer.Safe (String.ofList []) :=
    fun safe => absurd safe.identifier (by decide)
  have undivided (piece : List Char) (safe : sanitizer.Safe (String.ofList piece)) :
      ':' ∉ piece := by
    simpa using IsIdentifier.undivided safe.identifier
  have cut := cutFrom_append (fun piece => sanitizer.Safe (String.ofList piece)) noEmpty undivided
    [] front.toList back.toList
  simpa [SafeScope, scopeSegments] using cut

example : scopeSegments ("a:" ++ "::" ++ "b") = ["a", ":b"] := by decide

theorem safeScope_intercalate {parts : List String} (nonempty : parts ≠ []) :
    SafeScope sanitizer ("::".intercalate parts) ↔ ∀ part ∈ parts, SafeScope sanitizer part := by
  induction parts with
  | nil => exact absurd rfl nonempty
  | cons part rest ih =>
    cases rest with
    | nil => simp
    | cons next rest =>
      rw [String.intercalate_cons_cons, safeScope_append, ih (List.cons_ne_nil next rest),
        List.forall_mem_cons (a := part)]

/-! What a map spells -/

theorem scopeOf_some (space : String) :
    scopeOf (some space) = "::".intercalate (Text.splitAtChar '.' space) := by
  by_cases empty : space = ""
  · subst empty
    rfl
  · have isStated : stated (some space) = some space := by simp [stated, empty]
    rw [scopeOf, isStated]

theorem scopeOf_nonempty {space : String} (nonempty : space ≠ "") : scopeOf (some space) ≠ "" := by
  have joined : ['.'].intercalate (space.toList.splitOn '.') = space.toList :=
    List.intercalate_splitOn '.'
  rw [scopeOf_some, Text.splitAtChar]
  cases pieces : space.toList.splitOn '.' with
  | nil => exact absurd pieces (List.splitOn_ne_nil _ _)
  | cons piece rest =>
    cases rest with
    | nil =>
      -- A single piece is the namespace itself.
      rw [pieces, List.intercalate_singleton] at joined
      simpa [joined] using nonempty
    | cons next rest => simp [String.intercalate_cons_cons]

/-- The scope of a namespace is safe exactly if every part of the namespace is. -/
theorem scopeOf_safe (space : String) :
    SafeScope sanitizer (scopeOf (some space)) ↔
      ∀ part ∈ Text.splitAtChar '.' space, SafeScope sanitizer part := by
  have nonempty : Text.splitAtChar '.' space ≠ [] := by
    simp [Text.splitAtChar, List.splitOn_ne_nil]
  rw [scopeOf_some, safeScope_intercalate nonempty]

/-- A namespace whose scope is safe, or none. -/
def SafeSpace (sanitizer : Sanitizer) (space : Option String) : Prop :=
  ∀ text, stated space = some text →
    ∀ part ∈ Text.splitAtChar '.' text, SafeScope sanitizer part

theorem qualifiedStructName_safe {map : TypeMap} {name : String}
    (safe : sanitizer.Safe (map.structName name)) (space : Option String) :
    SafeScope sanitizer (map.qualifiedStructName space name) ↔ SafeSpace sanitizer space := by
  have plain : SafeScope sanitizer (map.structName name) :=
    (safeScope_undivided (IsIdentifier.undivided safe.identifier)).mpr safe
  unfold SafeSpace
  cases found : stated space with
  | none => simp [TypeMap.qualifiedStructName, scopeOf, found, plain]
  | some text =>
    obtain ⟨rfl, nonempty⟩ := Option.filter_eq_some_iff.mp found
    have scope : (scopeOf (some text)).isEmpty = false := by
      simpa using scopeOf_nonempty (by simpa using nonempty)
    simp only [TypeMap.qualifiedStructName, scope, Bool.false_eq_true, if_false, safeScope_append,
      scopeOf_safe, plain, and_true, Option.some.injEq, forall_eq']

end Scopes

end ProxyHeaders.Mapping
