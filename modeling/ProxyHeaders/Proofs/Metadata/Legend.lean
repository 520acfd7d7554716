import ProxyHeaders.Proofs.Metadata.Consulting
import ProxyHeaders.Proofs.Metadata.References
import ProxyHeaders.Proofs.Metadata.SignatureDecoding

/-!
Blobs with a meaning. A legend says which tree every signature of an assembly spells; where
constructed types mention no others in circles, every type has a meaning, and resolving finds it
unless it lies too deep.
-/
namespace ProxyHeaders.Metadata

open Book (mentionDepth)

variable {α : Type}

/-! What trees denote, with answers that depend on the questions alone -/

abbrev steady (answer : Call → TypeRef) : Call → StateM Unit TypeRef := fun call =>
  pure (answer call)

def TypeTree.type (answer : Call → TypeRef) (tree : TypeTree) : TypeRef :=
  ((tree.denote (steady answer)).run ()).1

def MethodTree.signature (answer : Call → TypeRef) (method : MethodTree) : MethodSignature :=
  ((method.denote (steady answer)).run ()).1

def PropertyTree.signature (answer : Call → TypeRef) (property : PropertyTree) :
    PropertySignature :=
  ((property.denote (steady answer)).run ()).1

def MethodTree.nesting (method : MethodTree) : Nat :=
  max method.returned.nesting (Finset.univ.sup fun index => (method.parameters index).nesting)

def PropertyTree.nesting (property : PropertyTree) : Nat :=
  max property.type.nesting (Finset.univ.sup fun index => (property.parameters index).nesting)

theorem MethodTree.fits (method : MethodTree) : method.FitsIn method.nesting :=
  ⟨Nat.le_max_left _ _, fun index =>
    Nat.le_trans (Finset.le_sup (f := fun index => (method.parameters index).nesting)
      (Finset.mem_univ index)) (Nat.le_max_right _ _)⟩

theorem PropertyTree.fits (property : PropertyTree) : property.FitsIn property.nesting :=
  ⟨Nat.le_max_left _ _, fun index =>
    Nat.le_trans (Finset.le_sup (f := fun index => (property.parameters index).nesting)
      (Finset.mem_univ index)) (Nat.le_max_right _ _)⟩

/-- The trees that the signatures of an assembly spell, by the numbers of their rows. What follows
a signature in its blob does not matter. A constructed type mentions others of lower rank only. -/
structure Legend (tables : Tables) where
  specs : Int → TypeTree
  fields : Int → FieldTree
  methods : Int → MethodTree
  properties : Int → PropertyTree
  rank : Int → Nat
  specs_spelled : ∀ index blob, Tables.row tables.typeSpecs "TypeSpec" index = .ok blob →
    (specs index).encode <+: blob
  fields_spelled : ∀ index row, Tables.row tables.fields "Field" index = .ok row →
    (fields index).encode <+: row.signature
  methods_spelled : ∀ index row, Tables.row tables.methods "MethodDef" index = .ok row →
    (methods index).encode <+: row.signature
  properties_spelled : ∀ index row, Tables.row tables.properties "Property" index = .ok row →
    (properties index).encode <+: row.signature
  specs_mention : ∀ index, Tables.Within tables.typeSpecs index →
    ∀ call ∈ (specs index).calls, tables.InRange call.link
  fields_mention : ∀ index, Tables.Within tables.fields index →
    ∀ call ∈ (fields index).type.calls, tables.InRange call.link
  methods_mention : ∀ index, Tables.Within tables.methods index →
    ∀ call ∈ (methods index).calls, tables.InRange call.link
  properties_mention : ∀ index, Tables.Within tables.properties index →
    ∀ call ∈ (properties index).calls, tables.InRange call.link
  straight : ∀ index, Tables.Within tables.typeSpecs index →
    ∀ call ∈ (specs index).calls, call.table = .typeSpec → rank call.row < rank index

/-- Answers that give every mentioned type its meaning. -/
structure Legend.Sound {book : Book} (legend : Legend book.tables) (answer : Call → TypeRef) :
    Prop where
  typeDef : ∀ index hint, Tables.Within book.tables.typeDefs index →
    book.typeDefAt index = .ok (answer ⟨.typeDef, index, hint⟩)
  typeRef : ∀ index hint, Tables.Within book.tables.typeRefs index →
    book.typeRefAt index hint = .ok (answer ⟨.typeRef, index, hint⟩)
  typeSpec : ∀ index hint, Tables.Within book.tables.typeSpecs index →
    answer ⟨.typeSpec, index, hint⟩ = (legend.specs index).type answer

/-! Reading what is spelled -/

namespace Book

variable {book : Book} {answer : Call → TypeRef} {least most : Nat} {late : Prop}

/-- What is spelled is read, unless it or something that it mentions lies too deep. -/
theorem read_spelled {read : Reader (List Call × Unit) α} {other : Reader Memory α}
    (follows : Follows ((book.consulting least most late).scan fun _ => True) read other)
    {bytes blob : List UInt8} {calls : List Call} {meaning : StateM Unit α}
    (reads : Reads read bytes calls meaning) (spelled : bytes <+: blob)
    (answered : ∀ call ∈ calls, ∀ levels fault, book.outcomeAt levels call = .error fault →
      fault = .tooDeep) :
    outcomeOf (other.run blob) = .ok (meaning.run ()).1 ∨
      outcomeOf (other.run blob) = .error .tooDeep ∧
        (late ∨ ∃ call ∈ calls, book.FailsAt least most call .tooDeep) := by
  obtain ⟨rest, rfl⟩ := spelled
  have recorded : read.run (bytes ++ rest) ([], ()) = .ok (meaning.run ()).1 (calls, ()) := by
    simp only [Reader.run, reads rest 0 [] (), List.nil_append]
  have shallow : valueOf (read.run (bytes ++ rest) ([], ())) ≠ .error .tooDeep := by
    rw [recorded]
    simp [valueOf]
  obtain ⟨same, _⟩ | ⟨late, deep⟩ | ⟨fault, failed, before, call, after, asked, _, fails⟩ :=
    consulted follows (bytes ++ rest) shallow
  · rw [recorded] at same
    exact .inl same
  · exact .inr ⟨deep, .inl late⟩
  · rw [recorded] at asked
    have member : call ∈ calls := by
      rw [show calls = before ++ call :: after from asked]
      simp
    obtain ⟨levels, above, below, fails⟩ := fails
    obtain rfl := answered call member levels fault fails
    exact .inr ⟨failed, .inr ⟨call, member, levels, above, below, fails⟩⟩

end Book

namespace Legend

variable {book : Book} (sound : book.tables.Sound)
  (elsewhere : ∀ assembly fullName, ∃ isEnum, book.isEnumElsewhere assembly fullName = .ok isEnum)
  (legend : Legend book.tables) {answer : Call → TypeRef} (agrees : book.Agrees answer)

/-- Resolving a type finds its meaning, unless it lies too deep; with enough levels none does. -/
def Settled (book : Book) (answer : Call → TypeRef) (call : Call) : Prop :=
  (∀ levels, book.outcomeAt levels call = .ok (answer call) ∨
    book.outcomeAt levels call = .error .tooDeep) ∧ book.Ends call

theorem settled_of_found {call : Call}
    (found : ∀ levels, book.outcomeAt levels call = .ok (answer call)) :
    Settled book answer call :=
  ⟨fun levels => .inl (found levels), 0, by rw [found]; simp⟩

theorem fault_of_settled {calls : List Call}
    (settled : ∀ call ∈ calls, Settled book answer call) :
    ∀ call ∈ calls, ∀ levels fault, book.outcomeAt levels call = .error fault →
      fault = .tooDeep := by
  intro call member levels fault failed
  obtain found | deep := (settled call member).1 levels
  · rw [found] at failed
    cases failed
  · exact Except.error.inj (failed.symm.trans deep)

include agrees

theorem spec_read {index : Int} {hint : Category}
    (inside : Tables.Within book.tables.typeSpecs index)
    (settled : ∀ call ∈ (legend.specs index).calls, Settled book answer call) (levels : Nat) :
    book.outcomeAt levels ⟨.typeSpec, index, hint⟩ = .ok ((legend.specs index).type answer) ∨
      book.outcomeAt levels ⟨.typeSpec, index, hint⟩ = .error .tooDeep ∧
        (levels - mentionDepth < (legend.specs index).nesting ∨
          ∃ call ∈ (legend.specs index).calls,
            book.FailsAt (levels - mentionDepth - (legend.specs index).nesting)
              (levels - mentionDepth) call .tooDeep) := by
  obtain ⟨blob, _, found⟩ := Tables.row_of_within inside "TypeSpec"
  rw [Book.outcomeAt_typeSpec, found]
  exact Book.read_spelled (Book.consulting_types agrees _ (Nat.sub_le levels mentionDepth))
    (reads_tree (steady answer) (legend.specs index) _ (Nat.le_refl _))
    (legend.specs_spelled index blob found) (fault_of_settled settled)

theorem spec_settled {index : Int} {hint : Category}
    (inside : Tables.Within book.tables.typeSpecs index)
    (settled : ∀ call ∈ (legend.specs index).calls, Settled book answer call) :
    Settled book answer ⟨.typeSpec, index, hint⟩ ∧
      answer ⟨.typeSpec, index, hint⟩ = (legend.specs index).type answer := by
  have read := @spec_read book legend answer agrees index hint inside settled
  obtain ⟨most, enough⟩ := Book.exists_enough book (legend.specs index).calls
  have ends : book.outcomeAt (mentionDepth + (most + (legend.specs index).nesting))
      ⟨.typeSpec, index, hint⟩ = .ok ((legend.specs index).type answer) := by
    refine (read _).resolve_right ?_
    rintro ⟨_, few | ⟨call, member, levels, above, _, deep⟩⟩
    · omega
    · have here := enough call member (settled call member).2
      rw [Book.outcomeAt_more (show most ≤ levels by omega) here] at deep
      exact here deep
  have right := agrees _ _ _ ends
  refine ⟨⟨fun levels => ?_, _, by rw [ends]; simp⟩, right⟩
  rw [right]
  exact (read levels).imp_right And.left

include sound elsewhere

theorem flat_found (call : Call) (inside : book.tables.InRange call.link)
    (flat : call.table ≠ .typeSpec) (levels : Nat) :
    book.outcomeAt levels call = .ok (answer call) := by
  obtain ⟨table, index, hint⟩ := call
  cases table with
  | typeDef =>
    obtain ⟨ref, found⟩ := Book.typeDefAt_sound sound inside
    have same := (Book.outcomeAt_typeDef levels index hint).trans found
    rw [same, agrees _ _ _ same]
  | typeRef =>
    obtain ⟨ref, found⟩ := Book.typeRefAt_sound sound elsewhere inside hint
    have same := (Book.outcomeAt_typeRef levels index hint).trans found
    rw [same, agrees _ _ _ same]
  | typeSpec => exact (flat rfl).elim

theorem flat_settled {call : Call} (inside : book.tables.InRange call.link)
    (flat : call.table ≠ .typeSpec) : Settled book answer call :=
  settled_of_found (flat_found sound elsewhere agrees call inside flat)

include legend

theorem call_settled {call : Call} (inside : book.tables.InRange call.link) :
    Settled book answer call := by
  by_cases flat : call.table ≠ .typeSpec
  · exact flat_settled sound elsewhere agrees inside flat
  obtain ⟨table, index, hint⟩ := call
  obtain rfl : table = .typeSpec := not_not.mp flat
  -- The rank goes down from a constructed type to those that it mentions.
  induction rank : legend.rank index using Nat.strong_induction_on generalizing index hint with
  | _ own ih =>
    refine (spec_settled legend agrees inside fun call member => ?_).1
    have mentioned := legend.specs_mention index inside call member
    by_cases flat : call.table ≠ .typeSpec
    · exact flat_settled sound elsewhere agrees mentioned flat
    · have constructed := not_not.mp flat
      have lower := legend.straight index inside call member constructed
      obtain ⟨table, other, hint⟩ := call
      cases constructed
      exact ih _ (rank ▸ lower) other hint mentioned (fun flat => flat rfl) rfl

theorem answers_sound : legend.Sound answer where
  typeDef index hint inside :=
    (Book.outcomeAt_typeDef 0 index hint).symm.trans
      (flat_found sound elsewhere agrees ⟨.typeDef, index, hint⟩ inside (by simp) 0)
  typeRef index hint inside :=
    (Book.outcomeAt_typeRef 0 index hint).symm.trans
      (flat_found sound elsewhere agrees ⟨.typeRef, index, hint⟩ inside (by simp) 0)
  typeSpec index hint inside :=
    (spec_settled legend agrees inside fun call member =>
      call_settled sound elsewhere legend agrees (legend.specs_mention index inside call member)).2

omit sound elsewhere legend agrees

/-! Levels that are enough -/

/-- A signature does not lie deeper than levels are left, and no type that it mentions does. -/
def FitsIn (depth : Int → Nat) (nesting : Nat) (calls : List Call) (levels : Nat) : Prop :=
  nesting ≤ levels ∧ ∀ call ∈ calls, call.table = .typeSpec →
    nesting + mentionDepth + depth call.row ≤ levels

instance (depth : Int → Nat) (nesting : Nat) (calls : List Call) (levels : Nat) :
    Decidable (FitsIn depth nesting calls levels) :=
  inferInstanceAs (Decidable (_ ∧ _))

/-- Constructed types lie no deeper than it is said, and nothing deeper than can be read. -/
structure FitsWith (legend : Legend book.tables) (depth : Int → Nat) : Prop where
  specs : ∀ index, Tables.Within book.tables.typeSpecs index →
    FitsIn depth (legend.specs index).nesting (legend.specs index).calls (depth index)
  bases : ∀ row ∈ book.tables.typeDefs.getD [], ∀ index, row.base = some ⟨.typeSpec, index⟩ →
    mentionDepth + depth index ≤ book.levels
  fields : ∀ index, Tables.Within book.tables.fields index →
    FitsIn depth (legend.fields index).type.nesting (legend.fields index).type.calls book.levels
  methods : ∀ index, Tables.Within book.tables.methods index →
    FitsIn depth (legend.methods index).nesting (legend.methods index).calls book.levels
  properties : ∀ index, Tables.Within book.tables.properties index →
    FitsIn depth (legend.properties index).nesting (legend.properties index).calls book.levels

/-- No type lies too deep to be read. -/
def Fits (legend : Legend book.tables) : Prop := ∃ depth, legend.FitsWith depth

include sound elsewhere agrees

theorem shallow_read {depth : Int → Nat} {nesting most : Nat} {calls : List Call}
    (fits : FitsIn depth nesting calls most)
    (inside : ∀ call ∈ calls, book.tables.InRange call.link)
    (shallow : ∀ call ∈ calls, call.table = .typeSpec → ∀ levels,
      mentionDepth + depth call.row ≤ levels → book.outcomeAt levels call ≠ .error .tooDeep) :
    ¬ (most < nesting ∨ ∃ call ∈ calls, book.FailsAt (most - nesting) most call .tooDeep) := by
  rintro (few | ⟨call, member, levels, above, _, deep⟩)
  · exact absurd fits.1 (Nat.not_le.mpr few)
  · by_cases flat : call.table ≠ .typeSpec
    · rw [flat_found sound elsewhere agrees call (inside call member) flat] at deep
      cases deep
    · have enough := fits.2 call member (not_not.mp flat)
      exact shallow call member (not_not.mp flat) levels (by omega) deep

include legend

theorem spec_shallow {depth : Int → Nat} (fits : legend.FitsWith depth) {index : Int}
    {hint : Category} (inside : Tables.Within book.tables.typeSpecs index) {levels : Nat}
    (enough : mentionDepth + depth index ≤ levels) :
    book.outcomeAt levels ⟨.typeSpec, index, hint⟩ ≠ .error .tooDeep := by
  induction rank : legend.rank index using Nat.strong_induction_on
    generalizing index hint levels with
  | _ own ih =>
    have mentioned := legend.specs_mention index inside
    obtain ⟨least, most⟩ := fits.specs index inside
    intro deep
    obtain found | ⟨_, unread⟩ := @spec_read book legend answer agrees index hint inside
      (fun call member => call_settled sound elsewhere legend agrees (mentioned call member)) levels
    · rw [found] at deep
      cases deep
    have fitting : FitsIn depth (legend.specs index).nesting (legend.specs index).calls
        (levels - mentionDepth) := by
      refine ⟨by omega, fun call member constructed => ?_⟩
      have := most call member constructed
      omega
    refine shallow_read sound elsewhere agrees fitting mentioned ?_ unread
    rintro ⟨table, other, hint⟩ member rfl levels enough
    exact ih _ (rank ▸ legend.straight index inside _ member rfl) (mentioned _ member) enough rfl

theorem fits_read {depth : Int → Nat} (fits : legend.FitsWith depth) {nesting most : Nat}
    {calls : List Call} (here : FitsIn depth nesting calls most)
    (inside : ∀ call ∈ calls, book.tables.InRange call.link) :
    ¬ (most < nesting ∨ ∃ call ∈ calls, book.FailsAt (most - nesting) most call .tooDeep) := by
  refine shallow_read sound elsewhere agrees here inside ?_
  rintro ⟨table, index, hint⟩ member rfl levels enough
  exact spec_shallow sound elsewhere legend agrees fits (inside _ member) enough

end Legend

end ProxyHeaders.Metadata
