import ProxyHeaders.Proofs.Entries
import ProxyHeaders.Proofs.Metadata.Depth
import ProxyHeaders.Reflection.Convert

/-!
The two ways to a type: through the bytes of a signature, and through the managed runtime. A type
that both can express is described to the one by an encoding, and to the other by an object whose
parts are asked for one by one. Where both have the same to say about the types that have names,
both ways lead to one reference, unless the type lies too deep for one of them.
-/
namespace ProxyHeaders

open Metadata Reflection

variable {σ α β : Type}

/-! Types with names -/

inductive NamedKind where
  | class_
  | struct
  | enum
  | interface
  deriving DecidableEq

namespace NamedKind

def category : NamedKind → Category
  | .class_ => .classType
  | .struct => .structType
  | .enum => .enumType
  | .interface => .interfaceType

/-- Signatures tell types whose values are stored in place from those that are referred to. -/
def isValue (kind : NamedKind) : Bool := kind == .struct || kind == .enum

end NamedKind

/-- What there is to say about a type that has a name. Types outside all namespaces have none. -/
structure NamedType where
  name : String
  space : Option String
  kind : NamedKind
  stated : stated space = space

namespace NamedType

def ref (type : NamedType) : TypeRef :=
  { name := type.name, space := type.space, category := type.kind.category }

def reflected (type : NamedType) : RuntimeRef :=
  { name := some type.name, space := type.space
    isEnum := type.kind == .enum
    isInterface := type.kind == .interface
    isValueType := type.kind.isValue }

end NamedType

/-! Types made of them -/

/-- Arrays of one dimension have a code of their own; others state how many they have. -/
def Metadata.Wrapper.IsUsual : Wrapper → Prop
  | .array rank _ _ _ _ => 2 ≤ rank.val
  | _ => True

/-- A type that both a signature and the runtime can describe. -/
inductive TypeShape where
  | primitive (code : UInt8) (type : Primitive) (listed : primitives.lookup code.toNat = some type)
  | named (token : Token)
  | wrapped (wrapper : Wrapper) (usual : wrapper.IsUsual) (inner : TypeShape)
  | instance_ (definition : Token) (count : Number) (arguments : Fin count → TypeShape)

def primitiveType (type : Primitive) : NamedType :=
  { name := type.name, space := some "System"
    kind := if type.category == .structType then .struct else .class_
    stated := rfl }

namespace TypeShape

-- What the numbers of types in signatures stand for.
variable (meaning : Token → NamedType)

def tree : TypeShape → TypeTree
  | .primitive code type listed => .leaf [] (.primitive code type listed)
  | .named token =>
    .leaf [] (if (meaning token).kind.isValue then .valueType token else .classType token)
  | .wrapped wrapper _ inner => .wrapped [] wrapper inner.tree
  | .instance_ definition count arguments =>
    .generic [] (if (meaning definition).kind.isValue then 0x11 else 0x12) definition count
      fun index => (arguments index).tree

/-- An array's name is that of its element, with brackets behind it and a comma between any two
dimensions. -/
def arrayAround (rank : Nat) (element : RuntimeRef) : RuntimeRef :=
  { name := written element.name ++ "[" ++ String.ofList (List.replicate (rank - 1) ',') ++ "]"
    space := element.space, isArray := true, element }

/-- The runtime's description of a wrapper, given that of the type inside. -/
def reflectedAround (inner : RuntimeRef) : Wrapper → RuntimeRef
  | .byref =>
    { name := written inner.name ++ "&", space := inner.space, isByref := true, element := inner }
  | .pointer =>
    { name := written inner.name ++ "*", space := inner.space, isPointer := true, element := inner }
  | .vector => arrayAround 1 inner
  | .array rank _ _ _ _ => arrayAround rank inner

def reflected : TypeShape → RuntimeRef
  | .primitive _ type _ => (primitiveType type).reflected
  | .named token => (meaning token).reflected
  | .wrapped wrapper _ inner => reflectedAround inner.reflected wrapper
  | .instance_ definition _ arguments =>
    { (meaning definition).reflected with
      isGeneric := true
      arguments := List.ofFn fun index => some (arguments index).reflected }

/-- The reference that both ways lead to. -/
def ref : TypeShape → TypeRef
  | .primitive _ type _ => type.ref
  | .named token => (meaning token).ref
  | .wrapped wrapper _ inner => wrapper.apply inner.ref
  | .instance_ definition _ arguments =>
    instanceOf (meaning definition).ref (List.ofFn fun index => (arguments index).ref)

/-- How many types stand inside one another. -/
def nesting : TypeShape → Nat
  | .primitive _ _ _ | .named _ => 1
  | .wrapped _ _ inner => inner.nesting + 1
  | .instance_ _ _ arguments => (Finset.univ.sup fun index => (arguments index).nesting) + 1

theorem tree_nesting (shape : TypeShape) : (shape.tree meaning).nesting = shape.nesting := by
  induction shape with
  | primitive code type listed => rfl
  | named token => rfl
  | wrapped wrapper usual inner ih => simp only [tree, TypeTree.nesting, nesting, ih]
  | instance_ definition count arguments ih => simp only [tree, TypeTree.nesting, nesting, ih]

/-! What the runtime's description leads to -/

theorem category_reflected (type : NamedType) :
    categoryOf type.reflected = .ok type.kind.category := by
  obtain ⟨name, space, kind, _⟩ := type
  cases kind <;> rfl

theorem convert_zero (type : RuntimeRef) : convert 0 type = .error .tooDeep := by
  rw [convert]

theorem convert_named (levels : Nat) (type : NamedType) :
    convert (levels + 1) type.reflected = .ok type.ref := by
  have asked : convert (levels + 1) type.reflected = (do
      return { name := type.name, space := ProxyHeaders.stated type.space
               category := ← categoryOf type.reflected }) := rfl
  rw [asked, category_reflected, type.stated]
  rfl

theorem primitives_stored_or_referred :
    ∀ entry ∈ primitives, entry.2.category = .structType ∨ entry.2.category = .classType := by
  decide

theorem primitive_type_ref {code : UInt8} {type : Primitive}
    (listed : primitives.lookup code.toNat = some type) : (primitiveType type).ref = type.ref := by
  obtain ⟨name, category⟩ := type
  obtain rfl | rfl : category = .structType ∨ category = .classType :=
    primitives_stored_or_referred _ (mem_of_lookup listed)
  all_goals rfl

theorem convert_primitive (levels : Nat) {code : UInt8} {type : Primitive}
    (listed : primitives.lookup code.toNat = some type) :
    convert (levels + 1) (primitiveType type).reflected = .ok type.ref := by
  rw [convert_named, primitive_type_ref listed]

theorem convertAll_ofFn {levels count : Nat} {types : Fin count → RuntimeRef}
    {refs : Fin count → TypeRef} {fits : Fin count → Prop} [DecidablePred fits]
    (each : ∀ index, convert levels (types index) =
      if fits index then .ok (refs index) else .error .tooDeep) :
    convertAll levels (List.ofFn fun index => some (types index)) =
      if ∀ index, fits index then .ok (List.ofFn refs) else .error .tooDeep := by
  induction count with
  | zero => simp [convertAll]
  | succ count ih =>
    simp only [List.ofFn_succ, convertAll, each, ih fun index => each index.succ, Fin.forall_fin_succ]
    by_cases first : fits 0
    · simp only [first, if_true, true_and]
      split <;> rfl
    · simp only [first, if_false, false_and]
      rfl

theorem convert_instance (levels : Nat) (definition : NamedType)
    (arguments : List (Option RuntimeRef)) :
    convert (levels + 1) { definition.reflected with isGeneric := true, arguments } =
      (convertAll levels arguments).map (instanceOf definition.ref) := by
  have asked : convert (levels + 1) { definition.reflected with isGeneric := true, arguments } = (do
      let arguments ← convertAll levels arguments
      return { name := definition.name, space := ProxyHeaders.stated definition.space
               category := ← categoryOf definition.reflected, arguments }) := rfl
  rw [asked, category_reflected, definition.stated]
  cases convertAll levels arguments <;> rfl

theorem convert_array {levels rank : Nat} {element : RuntimeRef} {ref : TypeRef}
    (converted : convert levels element = .ok ref) (named : written element.name = ref.name) :
    convert (levels + 1) (arrayAround rank element) = .ok (arrayOf ref rank) := by
  have asked : convert (levels + 1) (arrayAround rank element) = (do
      let inner ← convert levels element
      return {
        name := written element.name ++ "[" ++ String.ofList (List.replicate (rank - 1) ',') ++ "]"
        space := inner.space, element := some inner, isArray := true }) := rfl
  rw [asked, converted, named]
  rfl

theorem convert_around {levels : Nat} {inner : RuntimeRef} {ref : TypeRef}
    (converted : convert levels inner = .ok ref) (named : written inner.name = ref.name)
    (wrapper : Wrapper) :
    convert (levels + 1) (reflectedAround inner wrapper) = .ok (wrapper.apply ref) := by
  cases wrapper with
  | byref =>
    have asked : convert (levels + 1) (reflectedAround inner .byref) =
      (do return byrefTo (← convert levels inner)) := rfl
    rw [asked, converted]
    rfl
  | pointer =>
    have asked : convert (levels + 1) (reflectedAround inner .pointer) =
      (do return pointerTo (← convert levels inner)) := rfl
    rw [asked, converted]
    rfl
  | vector => exact convert_array converted named
  | array rank _ _ _ _ => exact convert_array converted named

theorem convert_around_deep {levels : Nat} {inner : RuntimeRef}
    (deep : convert levels inner = .error .tooDeep) (wrapper : Wrapper) :
    convert (levels + 1) (reflectedAround inner wrapper) = .error .tooDeep := by
  have asked {α : Type} (make : TypeRef → α) :
      (do return make (← convert levels inner)) = Except.error Reflection.Fault.tooDeep := by
    rw [deep]
    rfl
  cases wrapper with
  | byref => exact asked byrefTo
  | pointer => exact asked pointerTo
  | vector | array => exact asked _

theorem around_name {inner : RuntimeRef} {ref : TypeRef} (named : written inner.name = ref.name)
    (wrapper : Wrapper) :
    written (reflectedAround inner wrapper).name = (wrapper.apply ref).name := by
  cases wrapper with
  | byref => exact congrArg (· ++ "&") named
  | pointer => exact congrArg (· ++ "*") named
  | vector => exact congrArg (· ++ "[" ++ _ ++ "]") named
  | array rank _ _ _ _ => exact congrArg (· ++ "[" ++ _ ++ "]") named

theorem reflected_name (shape : TypeShape) :
    written (shape.reflected meaning).name = (shape.ref meaning).name := by
  induction shape with
  | primitive code type listed => rfl
  | named token => rfl
  | wrapped wrapper usual inner ih => exact around_name ih wrapper
  | instance_ definition count arguments ih => rfl

/-- A type is converted exactly if calls enough are left for the types in it. -/
theorem convert_shape (levels : Nat) (shape : TypeShape) :
    convert levels (shape.reflected meaning) =
      if shape.nesting ≤ levels then .ok (shape.ref meaning) else .error .tooDeep := by
  induction shape generalizing levels with
  | primitive code type listed =>
    cases levels with
    | zero => rfl
    | succ levels => exact convert_primitive levels listed
  | named token =>
    cases levels with
    | zero => rfl
    | succ levels => exact convert_named levels (meaning token)
  | wrapped wrapper usual inner ih =>
    cases levels with
    | zero =>
      rw [convert_zero, nesting, if_neg (Nat.not_succ_le_zero _)]
    | succ levels =>
      have inside := ih levels
      simp only [nesting, Nat.add_le_add_iff_right]
      by_cases fits : inner.nesting ≤ levels
      · rw [if_pos fits] at inside ⊢
        exact convert_around inside (reflected_name meaning inner) wrapper
      · rw [if_neg fits] at inside ⊢
        exact convert_around_deep inside wrapper
  | instance_ definition count arguments ih =>
    cases levels with
    | zero => exact (if_neg (Nat.not_succ_le_zero _)).symm
    | succ levels =>
      have made := convertAll_ofFn fun index => ih index levels
      simp only [nesting, Nat.add_le_add_iff_right, Finset.sup_le_iff, Finset.mem_univ, true_implies]
      simp only [reflected, convert_instance, made]
      split <;> rfl

/-! What the bytes of a signature lead to -/

variable {meaning} {answer : Call → StateM σ TypeRef}

/-- Someone who tells about every type with a name what the runtime does. -/
def Knows (answer : Call → StateM σ TypeRef) (meaning : Token → NamedType) : Prop :=
  ∀ token hint outer, ((answer (token.call hint)).run outer).1 = (meaning token).ref

theorem inOrder_values {count : Nat} {parts : Fin count → StateM σ α} {values : Fin count → α}
    (each : ∀ index outer, ((parts index).run outer).1 = values index) (outer : σ) :
    ((inOrder parts).run outer).1 = List.ofFn values := by
  induction count generalizing outer with
  | zero => rfl
  | succ count ih =>
    have rest := ih (fun index => each index.succ) ((parts 0).run outer).2
    rw [List.ofFn_succ, ← each 0 outer, ← rest]
    rfl

theorem denote_shape (knows : Knows answer meaning) (shape : TypeShape) (outer : σ) :
    (((shape.tree meaning).denote answer).run outer).1 = shape.ref meaning := by
  induction shape generalizing outer with
  | primitive code type listed => rfl
  | named token =>
    simp only [tree, ref]
    split
    · exact knows token .structType outer
    · exact knows token .classType outer
  | wrapped wrapper usual inner ih => exact congrArg wrapper.apply (ih outer)
  | instance_ definition count arguments ih =>
    simp only [tree, ref]
    generalize (if (meaning definition).kind.isValue then 0x11 else 0x12 : UInt8) = kind
    let asked := (answer (definition.call (kindHint kind))).run outer
    have arguments := inOrder_values ih asked.2
    have definition : asked.1 = (meaning definition).ref := knows _ _ _
    rw [← definition, ← arguments]
    rfl

end TypeShape

/-- Both ways to a type lead to one reference: the runtime's description and, whatever follows it,
the signature, of which no byte is left or taken too much. Each way has its own levels. -/
def Agree (answer : Call → StateM σ TypeRef) (meaning : Token → NamedType) (ownLevels levels : Nat)
    (shape : TypeShape) : Prop :=
  ∃ ref, convert ownLevels (shape.reflected meaning) = .ok ref ∧ ∀ suffix offset outer, ∃ after,
    Reader.typeAt (recording answer) levels
        { rest := (shape.tree meaning).encode ++ suffix, offset, outer } =
      .ok ref { rest := suffix, offset := offset + (shape.tree meaning).encode.length,
                outer := after }

/-- Someone who tells about the types with names what the runtime does makes both ways agree on
all types made of them for which both have levels enough. Where one of them has too few, that way
ends without a reference. -/
theorem backends_agree {answer : Call → StateM σ TypeRef} {meaning : Token → NamedType}
    (knows : TypeShape.Knows answer meaning) (ownLevels levels : Nat) (shape : TypeShape) :
    (shape.nesting ≤ ownLevels → shape.nesting ≤ levels →
        Agree answer meaning ownLevels levels shape) ∧
      (ownLevels < shape.nesting →
        convert ownLevels (shape.reflected meaning) = .error .tooDeep) ∧
      (levels < shape.nesting →
        RunsOut (Reader.typeAt (recording answer) levels) (shape.tree meaning).encode) := by
  have converted := TypeShape.convert_shape meaning ownLevels shape
  refine ⟨fun enough enoughToRead => ?_, fun few => ?_, fun few => ?_⟩
  · rw [if_pos enough] at converted
    refine ⟨shape.ref meaning, converted, ?_⟩
    rw [← TypeShape.tree_nesting meaning] at enoughToRead
    rintro suffix offset ⟨before, outer⟩
    have reads := reads_tree answer (shape.tree meaning) levels enoughToRead suffix offset before outer
    rw [TypeShape.denote_shape knows] at reads
    exact ⟨_, reads⟩
  · rwa [if_neg (Nat.not_le.mpr few)] at converted
  · rw [← TypeShape.tree_nesting meaning] at few
    exact tree_runs_out answer (shape.tree meaning) levels few

/-- The first type of every table is a dictionary, all others are modes. -/
def gameType (row : Nat) : NamedType :=
  if row = 1 then ⟨"Dictionary`2", some "System.Collections.Generic", .class_, rfl⟩
  else ⟨"Mode", some "Game", .enum, rfl⟩

def gameTypes (token : Token) : NamedType := gameType token.row

def gameAnswer (call : Call) : StateM Nat TypeRef := do
  modify (· + 1)
  return (gameType call.row.toNat).ref

theorem game_answer_knows : TypeShape.Knows gameAnswer gameTypes := fun _ _ _ => rfl

theorem text_listed :
    primitives.lookup (0x0e : UInt8).toNat = some ⟨"String", .classType⟩ := rfl

theorem two_fits : 2 < 0x20000000 := by decide

theorem none_fits : 0 < 0x20000000 := by decide

def grid : Wrapper := .array ⟨2, two_fits⟩ ⟨0, none_fits⟩ ⟨0, none_fits⟩ Fin.elim0 Fin.elim0

theorem grid_usual : grid.IsUsual := Nat.le_refl 2

theorem first_row : 1 < 0x8000000 := by decide

theorem second_row : 2 < 0x8000000 := by decide

def modeGrids : TypeShape :=
  .wrapped .byref trivial (.instance_ ⟨.typeRef, ⟨1, first_row⟩⟩ ⟨2, two_fits⟩ fun index =>
    if index.val = 0 then .primitive 0x0e _ text_listed
    else .wrapped grid grid_usual (.named ⟨.typeRef, ⟨2, second_row⟩⟩))

theorem mode_grids_agree :
    (modeGrids.tree gameTypes).encode =
      [0x10, 0x15, 0x12, 0x05, 0x02, 0x0e, 0x14, 0x11, 0x09, 0x02, 0x00, 0x00] ∧
    Agree gameAnswer gameTypes 4 980 modeGrids :=
  ⟨by decide, (backends_agree game_answer_knows 4 980 modeGrids).1 (by decide) (by decide)⟩

theorem number_listed :
    primitives.lookup (0x08 : UInt8).toNat = some ⟨"Int32", .structType⟩ := rfl

/-- A pointer to a pointer, and so on; the last points to a number. -/
def pointerTower : Nat → TypeShape
  | 0 => .primitive 0x08 _ number_listed
  | height + 1 => .wrapped .pointer trivial (pointerTower height)

theorem tower_nesting (height : Nat) : (pointerTower height).nesting = height + 1 := by
  induction height with
  | zero => rfl
  | succ height ih => simp only [pointerTower, TypeShape.nesting, ih]

/-- Neither way leads to a reference for a type that lies too deep for both. -/
theorem deep_pointers_unread :
    convert 980 ((pointerTower 3000).reflected gameTypes) = .error .tooDeep ∧
      RunsOut (Reader.typeAt (recording gameAnswer) 980)
        ((pointerTower 3000).tree gameTypes).encode ∧
      ¬ Agree gameAnswer gameTypes 980 980 (pointerTower 3000) := by
  have tall : 980 < (pointerTower 3000).nesting := by
    rw [tower_nesting]
    decide
  have converted := TypeShape.convert_shape gameTypes 980 (pointerTower 3000)
  rw [if_neg (Nat.not_le.mpr tall)] at converted
  have tallTree := tall
  rw [← TypeShape.tree_nesting gameTypes] at tallTree
  refine ⟨converted, tree_runs_out gameAnswer _ _ tallTree, ?_⟩
  rintro ⟨ref, found, _⟩
  rw [converted] at found
  cases found

end ProxyHeaders
