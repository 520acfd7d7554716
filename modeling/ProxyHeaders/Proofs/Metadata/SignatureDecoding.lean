import ProxyHeaders.Proofs.Metadata.SignatureTree

/-!
Decoding undoes encoding: whatever follows a signature, reading it consumes its bytes and no
others, asks once for each type it mentions, from left to right, and gives what it denotes. The
levels of nesting that a reader has left only have to be enough for the tree.
-/
namespace ProxyHeaders.Metadata

open Reader (typeFrom typeAt fieldAt methodAt propertyAt)

variable {σ : Type} (answer : Call → StateM σ TypeRef)

theorem tag_lt (table : TokenTable) : table.tag < 3 := by
  cases table <;> decide

theorem of_tag (table : TokenTable) : TokenTable.ofTag (table.tag : Nat) = some table := by
  cases table <;> rfl

theorem reads_token (levels : Nat) (token : Token) (hint : Category) :
    Reads (Reader.token (recording answer) levels hint) token.encode [token.call hint]
      (answer (token.call hint)) := by
  have tag := tag_lt token.table
  have row := token.row.isLt
  have fits : token.row * 4 + token.table.tag < 0x20000000 := by omega
  rw [show token.encode = encodeNumber (token.row * 4 + token.table.tag) ++ [] from
    (List.append_nil _).symm]
  refine reads_then (reads_number ⟨_, fits⟩) ?_
  rw [show (token.row * 4 + token.table.tag) % 4 = token.table.tag by omega,
    show (token.row * 4 + token.table.tag) / 4 = token.row by omega, of_tag]
  intro suffix offset before outer
  simp [Reader.ask, recording, Token.call]

/-! What stands before a type -/

/-- Bytes that begin a type, and neither a modifier nor a sentinel. -/
def BeginsType (first : UInt8) : Prop := (elementOf first.toNat).isSome

theorem begins_type_ne {first : UInt8} {other : Nat} (begins : BeginsType first)
    (none : elementOf other = none) : first.toNat ≠ other := by
  rintro rfl
  simp [BeginsType, none] at begins

theorem reads_modifiers (levels : Nat) (modifiers : List Modifier) (first : UInt8)
    (begins : BeginsType first) (tries : Nat) (enough : modifiers.length ≤ tries) :
    Reads (Reader.pastModifiers (recording answer) levels tries)
      (modifiers.flatMap Modifier.encode ++ [first]) (modifiers.flatMap Modifier.calls)
      (do Modifier.askAll answer modifiers; return first.toNat) := by
  -- The reader may try once for every byte that is left; the modifiers need one try each.
  induction modifiers generalizing tries with
  | nil =>
    cases tries with
    | zero => exact reads_byte first
    | succ tries =>
      have required : first.toNat ≠ requiredModifier := begins_type_ne begins rfl
      have optional : first.toNat ≠ optionalModifier := begins_type_ne begins rfl
      have notPinned : first.toNat ≠ pinned := begins_type_ne begins rfl
      refine reads_lead ?_
      rw [if_neg (by simp [required, optional]), if_neg (by simp [notPinned])]
      exact reads_pure first.toNat
  | cons modifier rest ih =>
    cases tries with
    | zero => simp at enough
    | succ tries =>
      have later := ih tries (by simpa using enough)
      have named := fun token =>
        reads_bind (reads_token answer levels token .classType) fun _ => later
      simp only [List.flatMap_cons, List.append_assoc]
      cases modifier with
      | required token => exact reads_lead (named token)
      | optional token => exact reads_lead (named token)
      | pinned => exact reads_lead later

theorem modifiers_length_le (modifiers : List Modifier) :
    modifiers.length ≤ (modifiers.flatMap Modifier.encode).length := by
  induction modifiers with
  | nil => simp
  | cons modifier rest ih =>
    cases modifier <;> simp [Modifier.encode] at ih ⊢ <;> omega

theorem reads_element (levels : Nat) (modifiers : List Modifier) {first : UInt8}
    (begins : BeginsType first) :
    Reads (Reader.elementByte (recording answer) levels)
      (modifiers.flatMap Modifier.encode ++ [first]) (modifiers.flatMap Modifier.calls)
      (do Modifier.askAll answer modifiers; return first.toNat) := by
  intro suffix offset before outer
  have length := modifiers_length_le modifiers
  refine reads_modifiers answer levels modifiers first begins _ ?_ suffix offset before outer
  simp only [List.length_append]
  omega

/-! Arrays and methods -/

theorem in_order_pure {α : Type} {count : Nat} (values : Fin count → α) :
    inOrder (fun index => (pure (values index) : StateM σ α)) = pure (List.ofFn values) := by
  induction count with
  | zero => rfl
  | succ count ih => simp [inOrder, ih fun index => values index.succ]

theorem joined_nil {γ : Type} {count : Nat} :
    joined (fun _ : Fin count => ([] : List γ)) = [] := by
  simp [joined]

theorem reads_values {α : Type} {read : Reader (List Call × σ) α} {count : Nat}
    {bytes : Fin count → List UInt8} {values : Fin count → α}
    (each : ∀ index, Reads read (bytes index) [] (pure (values index))) :
    Reads (Reader.times count read) (joined bytes) [] (pure (List.ofFn values)) := by
  have all := reads_times each
  rwa [in_order_pure, joined_nil] at all

theorem reads_shape (rank sizeCount boundCount : Number) (sizes : Fin sizeCount → Number)
    (bounds : Fin boundCount → SignedNumber) :
    Reads (σ := σ) Reader.shape
      (Wrapper.array rank sizeCount boundCount sizes bounds).encodeShape [] (pure rank.val) := by
  have allSizes := reads_values fun index => reads_number (σ := σ) (sizes index)
  have allBounds := reads_values fun index => reads_signed (σ := σ) (bounds index)
  unfold Reader.shape Wrapper.encodeShape
  simp only [List.append_assoc]
  rw [← List.append_nil (joined fun index => encodeSigned (bounds index).value)]
  refine reads_then (reads_number rank) (reads_then (reads_number sizeCount)
    (reads_then allSizes (reads_then (reads_number boundCount) (reads_then allBounds ?_))))
  exact reads_pure rank.val

theorem sentinels_skipped {first : UInt8} (other : first ≠ sentinel) (count : Nat)
    (rest : List UInt8) (offset : Nat) (outer : σ) :
    Reader.skip sentinel { rest := encodeSentinels count ++ first :: rest, offset, outer } =
      .ok () { rest := first :: rest, offset := offset + count, outer } := by
  have passed : (List.replicate count sentinel ++ first :: rest).takeWhile (· == sentinel) =
      List.replicate count sentinel := by
    simp [other]
  have left : (List.replicate count sentinel ++ first :: rest).dropWhile (· == sentinel) =
      first :: rest := by
    simp [other]
  simp only [Reader.skip, encodeSentinels, passed, left]
  simp

theorem reads_skipping {α : Type} {type : Reader (List Call × σ) α} {first : UInt8}
    {rest : List UInt8} {calls : List Call} {meaning : StateM σ α} (count : Nat)
    (other : first ≠ sentinel) (reads : Reads type (first :: rest) calls meaning) :
    Reads (do Reader.skip sentinel; type) (encodeSentinels count ++ first :: rest) calls
      meaning := by
  intro suffix offset before outer
  have finish := reads suffix (offset + count) before outer
  simp only [bind, EStateM.bind, List.append_assoc, List.cons_append, sentinels_skipped other]
  simpa [encodeSentinels, Nat.add_assoc] using finish

theorem reads_method {type : Reader (List Call × σ) TypeRef} (method : MethodTree)
    (returned : Reads type method.returned.encode method.returned.calls
      (method.returned.denote answer))
    (parameters : ∀ index, Reads (do Reader.skip sentinel; type)
      (encodeSentinels (method.sentinels index) ++ (method.parameters index).encode)
      (method.parameters index).calls ((method.parameters index).denote answer)) :
    Reads (Reader.methodOf type) method.encode method.calls (method.denote answer) := by
  have listed := reads_times parameters
  have made := fun genericCount returnType => reads_map (fun parameters =>
    ({ hasThis := method.head.flags.toNat / 0x20 % 2 == 1, returnType, parameters, genericCount } :
      MethodSignature)) listed
  unfold Reader.methodOf MethodTree.denote
  simp only [MethodTree.encode, MethodHead.encode, List.cons_append]
  apply reads_lead
  by_cases generic : method.head.flags.toNat / 0x10 % 2 = 1 <;>
    simp only [MethodHead.isGeneric, MethodHead.genericCount, beq_iff_eq, generic, ↓reduceIte]
  · exact reads_then (reads_number method.head.typeParameters)
      (reads_then (reads_number method.count) (reads_bind returned (made _)))
  · exact reads_then (reads_pure 0)
      (reads_then (reads_number method.count) (reads_bind returned (made 0)))

/-! Types -/

theorem modifier_begins (modifier : Modifier) :
    ∃ first rest, modifier.encode = first :: rest ∧ first ≠ sentinel := by
  cases modifier with
  | required token => exact ⟨0x1f, _, rfl, by decide⟩
  | optional token => exact ⟨0x20, _, rfl, by decide⟩
  | pinned => exact ⟨0x45, _, rfl, by decide⟩

theorem leaf_begins (type : Leaf) :
    ∃ first rest, type.encode = first :: rest ∧ first ≠ sentinel := by
  cases type with
  | primitive code named listed =>
    refine ⟨code, _, rfl, ?_⟩
    rintro rfl
    exact absurd listed (by decide +revert)
  | valueType token => exact ⟨0x11, _, rfl, by decide⟩
  | classType token => exact ⟨0x12, _, rfl, by decide⟩
  | typeParameter number => exact ⟨0x13, _, rfl, by decide⟩
  | methodParameter number => exact ⟨0x1e, _, rfl, by decide⟩

theorem encode_begins (tree : TypeTree) :
    ∃ first rest, tree.encode = first :: rest ∧ first ≠ sentinel := by
  have behind (modifiers : List Modifier) (core : List UInt8)
      (begins : ∃ first rest, core = first :: rest ∧ first ≠ sentinel) :
      ∃ first rest, modifiers.flatMap Modifier.encode ++ core = first :: rest ∧
        first ≠ sentinel := by
    cases modifiers with
    | nil => exact begins
    | cons modifier others =>
      obtain ⟨first, rest, spelled, other⟩ := modifier_begins modifier
      exact ⟨first, _, by rw [List.flatMap_cons, spelled]; rfl, other⟩
  cases tree with
  | leaf modifiers type => exact behind modifiers _ (leaf_begins type)
  | wrapped modifiers wrapper inner =>
    have other : wrapper.code ≠ sentinel := by
      cases wrapper <;> simp [Wrapper.code, sentinel]
    exact behind modifiers _ ⟨wrapper.code, _, rfl, other⟩
  | generic modifiers kind definition count arguments =>
    exact behind modifiers _ ⟨0x15, _, rfl, by decide⟩
  | function modifiers head returned count sentinels parameters =>
    exact behind modifiers _ ⟨0x1b, _, rfl, by decide⟩

theorem reads_parameter {levels : Nat} {tree : TypeTree} (count : Nat)
    (reads : Reads (typeAt (recording answer) levels) tree.encode tree.calls
      (tree.denote answer)) :
    Reads (do Reader.skip sentinel; typeAt (recording answer) levels)
      (encodeSentinels count ++ tree.encode) tree.calls (tree.denote answer) := by
  obtain ⟨first, rest, spelled, other⟩ := encode_begins tree
  rw [spelled] at reads ⊢
  exact reads_skipping count other reads

theorem reads_type {levels : Nat} (modifiers : List Modifier) {first : UInt8} {element : Element}
    {rest : List UInt8} {calls : List Call} {meaning : StateM σ TypeRef}
    (begins : elementOf first.toNat = some element)
    (reads : Reads (typeFrom (recording answer) levels (typeAt (recording answer) levels)
      first.toNat) rest calls meaning) :
    Reads (typeAt (recording answer) (levels + 1))
      (modifiers.flatMap Modifier.encode ++ first :: rest)
      (modifiers.flatMap Modifier.calls ++ calls)
      (do Modifier.askAll answer modifiers; meaning) := by
  have plain : BeginsType first := by simp [BeginsType, begins]
  have whole := reads_known (Modifier.askAll answer modifiers)
    (reads_element answer levels modifiers plain) reads
  rwa [List.append_assoc] at whole

theorem reads_leaf (levels : Nat) (modifiers : List Modifier) (type : Leaf) :
    Reads (typeAt (recording answer) (levels + 1)) (TypeTree.leaf modifiers type).encode
      (TypeTree.leaf modifiers type).calls ((TypeTree.leaf modifiers type).denote answer) := by
  cases type with
  | primitive code named listed =>
    have begins : elementOf code.toNat = some (.primitive named) := by simp [elementOf, listed]
    apply reads_type answer modifiers begins
    simp only [typeFrom, begins]
    exact reads_pure named.ref
  | valueType token =>
    have begins : elementOf (0x11 : UInt8).toNat = some .valueType := rfl
    apply reads_type answer modifiers begins
    simp only [typeFrom, begins]
    exact reads_token answer levels token .structType
  | classType token =>
    have begins : elementOf (0x12 : UInt8).toNat = some .classType := rfl
    apply reads_type answer modifiers begins
    simp only [typeFrom, begins]
    exact reads_token answer levels token .classType
  | typeParameter number =>
    have begins : elementOf (0x13 : UInt8).toNat = some .typeParameter := rfl
    apply reads_type answer modifiers begins
    simp only [typeFrom, begins]
    exact reads_made (parameterNamed "!") (reads_number number)
  | methodParameter number =>
    have begins : elementOf (0x1e : UInt8).toNat = some .methodParameter := rfl
    apply reads_type answer modifiers begins
    simp only [typeFrom, begins]
    exact reads_made (parameterNamed "!!") (reads_number number)

theorem reads_wrapped {levels : Nat} (modifiers : List Modifier) (wrapper : Wrapper)
    {inner : TypeTree} (reads : Reads (typeAt (recording answer) levels) inner.encode inner.calls
      (inner.denote answer)) :
    Reads (typeAt (recording answer) (levels + 1)) (TypeTree.wrapped modifiers wrapper inner).encode
      (TypeTree.wrapped modifiers wrapper inner).calls
      ((TypeTree.wrapped modifiers wrapper inner).denote answer) := by
  simp only [TypeTree.encode]
  cases wrapper with
  | byref =>
    have begins : elementOf (0x10 : UInt8).toNat = some .byref := rfl
    apply reads_type answer modifiers begins
    simp only [typeFrom, begins, Wrapper.encodeShape, List.append_nil]
    exact reads_map byrefTo reads
  | pointer =>
    have begins : elementOf (0x0f : UInt8).toNat = some .pointer := rfl
    apply reads_type answer modifiers begins
    simp only [typeFrom, begins, Wrapper.encodeShape, List.append_nil]
    exact reads_map pointerTo reads
  | vector =>
    have begins : elementOf (0x1d : UInt8).toNat = some .vector := rfl
    apply reads_type answer modifiers begins
    simp only [typeFrom, begins, Wrapper.encodeShape, List.append_nil]
    exact reads_map (arrayOf · 1) reads
  | array rank sizeCount boundCount sizes bounds =>
    have begins : elementOf (0x14 : UInt8).toNat = some .array := rfl
    have shape := reads_shape (σ := σ) rank sizeCount boundCount sizes bounds
    have whole := reads_bind reads fun element => reads_map (arrayOf element) shape
    rw [List.append_nil] at whole
    apply reads_type answer modifiers begins
    simp only [typeFrom, begins]
    exact whole

theorem reads_generic {levels : Nat} (modifiers : List Modifier) (kind : UInt8)
    (definition : Token) (count : Number) {arguments : Fin count → TypeTree}
    (reads : ∀ index, Reads (typeAt (recording answer) levels) (arguments index).encode
      (arguments index).calls ((arguments index).denote answer)) :
    Reads (typeAt (recording answer) (levels + 1))
      (TypeTree.generic modifiers kind definition count arguments).encode
      (TypeTree.generic modifiers kind definition count arguments).calls
      ((TypeTree.generic modifiers kind definition count arguments).denote answer) := by
  have begins : elementOf (0x15 : UInt8).toNat = some .instance_ := rfl
  have listed := reads_times reads
  apply reads_type answer modifiers begins
  simp only [typeFrom, begins]
  exact reads_lead (reads_bind (reads_token answer levels definition (kindHint kind))
    fun definition => reads_then (reads_number count) (reads_map (instanceOf definition) listed))

theorem reads_function {levels : Nat} (modifiers : List Modifier) (head : MethodHead)
    {returned : TypeTree} (count : Number) (sentinels : Fin count → Nat)
    {parameters : Fin count → TypeTree}
    (result : Reads (typeAt (recording answer) levels) returned.encode returned.calls
      (returned.denote answer))
    (reads : ∀ index, Reads (typeAt (recording answer) levels) (parameters index).encode
      (parameters index).calls ((parameters index).denote answer)) :
    Reads (typeAt (recording answer) (levels + 1))
      (TypeTree.function modifiers head returned count sentinels parameters).encode
      (TypeTree.function modifiers head returned count sentinels parameters).calls
      ((TypeTree.function modifiers head returned count sentinels parameters).denote answer) := by
  have begins : elementOf (0x1b : UInt8).toNat = some .function := rfl
  have method := reads_method answer ⟨head, returned, count, sentinels, parameters⟩ result
    fun index => reads_parameter answer (sentinels index) (reads index)
  apply reads_type answer modifiers begins
  simp only [typeFrom, begins]
  exact reads_map (fun _ => addressType) method

theorem reads_tree (tree : TypeTree) (levels : Nat) (enough : tree.nesting ≤ levels) :
    Reads (typeAt (recording answer) levels) tree.encode tree.calls (tree.denote answer) := by
  -- Every constructor takes one level, and nothing but the type of a tree takes any.
  induction tree generalizing levels with
  | leaf modifiers type =>
    cases levels with
    | zero => simp [TypeTree.nesting] at enough
    | succ levels => exact reads_leaf answer levels modifiers type
  | wrapped modifiers wrapper inner ih =>
    cases levels with
    | zero => simp [TypeTree.nesting] at enough
    | succ levels =>
      exact reads_wrapped answer modifiers wrapper (ih levels (Nat.le_of_succ_le_succ enough))
  | generic modifiers kind definition count arguments ih =>
    cases levels with
    | zero => simp [TypeTree.nesting] at enough
    | succ levels =>
      have inside := Finset.sup_le_iff.mp (Nat.le_of_succ_le_succ enough)
      exact reads_generic answer modifiers kind definition count
        fun index => ih index levels (inside index (Finset.mem_univ index))
  | function modifiers head returned count sentinels parameters result ih =>
    cases levels with
    | zero => simp [TypeTree.nesting] at enough
    | succ levels =>
      have both := max_le_iff.mp (Nat.le_of_succ_le_succ enough)
      have inside := Finset.sup_le_iff.mp both.2
      exact reads_function answer modifiers head count sentinels (result levels both.1)
        fun index => ih index levels (inside index (Finset.mem_univ index))

/-! Signatures -/

theorem reads_heading {kind : Nat} {fault : Nat → SignatureFault} {head : UInt8}
    (sound : head.toNat % 0x10 = kind) :
    Reads (σ := σ) (Reader.heading kind fault) [head] [] (pure head.toNat) := by
  apply reads_lead
  simp only [sound, beq_self_eq_true, ↓reduceIte]
  exact reads_pure head.toNat

theorem reads_field (field : FieldTree) (levels : Nat) (enough : field.type.nesting ≤ levels) :
    Reads (fieldAt (recording answer) levels) field.encode field.type.calls
      (field.type.denote answer) :=
  reads_then (reads_heading field.isField) (reads_tree answer field.type levels enough)

theorem reads_method_signature (method : MethodTree) (levels : Nat)
    (enough : method.FitsIn levels) :
    Reads (methodAt (recording answer) levels) method.encode method.calls
      (method.denote answer) :=
  reads_method answer method (reads_tree answer method.returned levels enough.1) fun index =>
    reads_parameter answer (method.sentinels index)
      (reads_tree answer (method.parameters index) levels (enough.2 index))

theorem reads_property (property : PropertyTree) (levels : Nat)
    (enough : property.FitsIn levels) :
    Reads (propertyAt (recording answer) levels) property.encode property.calls
      (property.denote answer) := by
  have type := reads_tree answer property.type levels enough.1
  have listed := reads_times fun index =>
    reads_tree answer (property.parameters index) levels (enough.2 index)
  have made := fun type => reads_map (fun parameters =>
    ({ hasThis := property.head.toNat / 0x20 % 2 == 1, type, parameters } : PropertySignature))
    listed
  exact reads_then (reads_heading property.isProperty)
    (reads_then (reads_number property.count) (reads_bind type made))

/-- Types and the signatures of fields, methods and properties are read exactly, however they are
modified and whatever is between their parameters, where they are nested no deeper than levels
are left. -/
theorem signature_decoding_exact (levels : Nat) :
    (∀ tree : TypeTree, tree.nesting ≤ levels →
      Reads (typeAt (recording answer) levels) tree.encode tree.calls (tree.denote answer)) ∧
    (∀ field : FieldTree, field.type.nesting ≤ levels →
      Reads (fieldAt (recording answer) levels) field.encode field.type.calls
        (field.type.denote answer)) ∧
    (∀ method : MethodTree, method.FitsIn levels →
      Reads (methodAt (recording answer) levels) method.encode method.calls
        (method.denote answer)) ∧
    (∀ property : PropertyTree, property.FitsIn levels →
      Reads (propertyAt (recording answer) levels) property.encode property.calls
        (property.denote answer)) :=
  ⟨fun tree => reads_tree answer tree levels, fun field => reads_field answer field levels,
    fun method => reads_method_signature answer method levels,
    fun property => reads_property answer property levels⟩

def modifiedInstance : TypeTree :=
  .generic [.optional ⟨.typeRef, 3⟩] 0x12 ⟨.typeRef, 1⟩ 1 fun _ =>
    .wrapped [.pinned] (.array 2 1 1 (fun _ => 300) fun _ => ⟨-65, by decide, by decide⟩)
      (.function [] ⟨0x05, 0⟩ (.leaf [] (.primitive 0x01 ⟨"Void", .structType⟩ rfl)) 1 (fun _ => 2)
        fun _ => .leaf [] (.valueType ⟨.typeSpec, 5⟩))

def countingAnswer (call : Call) : StateM Nat TypeRef := do
  modify (· + 1)
  return { name := "T" ++ toString call.row, category := call.hint }

theorem modified_instance_decoded :
    modifiedInstance.encode =
      [0x20, 0x0d, 0x15, 0x12, 0x05, 0x01, 0x45, 0x14, 0x1b, 0x05, 0x01, 0x01, 0x41, 0x41, 0x11,
        0x16, 0x02, 0x01, 0x81, 0x2c, 0x01, 0xbf, 0x7f] ∧
    modifiedInstance.nesting ≤ 980 ∧
    Reads (typeAt (recording countingAnswer) 980) modifiedInstance.encode
      [⟨.typeRef, 3, .classType⟩, ⟨.typeRef, 1, .classType⟩, ⟨.typeSpec, 5, .structType⟩]
      (modifiedInstance.denote countingAnswer) := by
  have shallow : modifiedInstance.nesting ≤ 980 := by decide
  exact ⟨by decide, shallow,
    (signature_decoding_exact countingAnswer 980).1 modifiedInstance shallow⟩

/-! Levels run out: each function inside another takes one. -/

/-- A function without parameters that returns one, and so on; the last returns nothing. -/
def functionTower : Nat → TypeTree
  | 0 => .leaf [] (.primitive 0x01 ⟨"Void", .structType⟩ rfl)
  | height + 1 =>
    .function [] ⟨0, 0⟩ (functionTower height) 0 (fun _ => 0) fun index => index.elim0

theorem tower_too_deep (resolve : Resolver σ) (levels height : Nat) (higher : levels ≤ height)
    (suffix : List UInt8) (offset : Nat) (outer : σ) :
    ∃ scan, typeAt resolve levels
      { rest := (functionTower height).encode ++ suffix, offset, outer } =
        .error .tooDeep scan := by
  induction levels generalizing height offset with
  | zero => exact ⟨_, rfl⟩
  | succ levels ih =>
    cases height with
    | zero => omega
    | succ height =>
      -- Behind its three bytes, the tower one lower runs out of the levels that are left.
      obtain ⟨scan, deep⟩ := ih height (by omega) (offset + 1 + 1 + 1)
      have spelled : (functionTower (height + 1)).encode ++ suffix =
          0x1b :: 0 :: 0 :: ((functionTower height).encode ++ suffix) := by
        simp [functionTower, TypeTree.encode, MethodHead.encode, MethodHead.isGeneric, encodeNumber,
          packed, joined]
      have opened : Reader.elementByte resolve levels
          { rest := 0x1b :: 0 :: 0 :: ((functionTower height).encode ++ suffix), offset, outer } =
            .ok 0x1b
              { rest := 0 :: 0 :: ((functionTower height).encode ++ suffix), offset := offset + 1,
                outer } := rfl
      have begins : elementOf 0x1b = some .function := rfl
      refine ⟨scan, ?_⟩
      rw [spelled]
      simp [typeAt, bind, EStateM.bind, opened, typeFrom, begins, Reader.methodOf, Reader.byte,
        Reader.number, Reader.compressed, pure, EStateM.pure, deep]

theorem deep_type_unread :
    ¬ Reads (typeAt (recording countingAnswer) 980) (functionTower 3000).encode
      (functionTower 3000).calls ((functionTower 3000).denote countingAnswer) := by
  intro reads
  obtain ⟨scan, deep⟩ :=
    tower_too_deep (recording countingAnswer) 980 3000 (by decide) [] 0 ([], 0)
  rw [reads] at deep
  cases deep

end ProxyHeaders.Metadata
