import ProxyHeaders.Metadata.Constant
import ProxyHeaders.Metadata.Element
import ProxyHeaders.Proofs.Entries
import ProxyHeaders.Proofs.Proxy.Constants

/-!
Enum values from metadata to headers. A literal denotes the one number of its type's width that its
value stands for; a value that its type holds is read back from its bytes and written as itself.
-/
namespace ProxyHeaders

open ProxyHeaders.Metadata

namespace Proxy

/-! Numbers of a width -/

namespace Width

variable {width : Width}

theorem pow_halves (bits : 0 < width.bits) :
    Nat.pow 2 width.bits = 2 * Nat.pow 2 (width.bits - 1) := by
  have split : width.bits = width.bits - 1 + 1 := by omega
  rw [split]
  exact Nat.pow_succ'

theorem wrap_holds (bits : 0 < width.bits) (value : Int) : width.Holds (width.wrap value) := by
  have halves := pow_halves bits
  have positive : 0 < Nat.pow 2 width.bits := Nat.two_pow_pos _
  unfold Holds wrap
  by_cases signed : width.signed = true
  · have lower := Int.le_bmod (x := value) positive
    have upper := Int.bmod_lt (x := value) positive
    rw [if_pos signed]
    simp only [if_pos signed]
    omega
  · have lower := Int.emod_nonneg value (Int.natCast_ne_zero.mpr (Nat.ne_of_gt positive))
    have upper := Int.emod_lt_of_pos value (Int.natCast_pos.mpr positive)
    rw [if_neg signed]
    simp only [if_neg signed]
    exact ⟨lower, upper⟩

theorem dvd_wrap_sub (width : Width) (value : Int) :
    ((Nat.pow 2 width.bits : Nat) : Int) ∣ width.wrap value - value := by
  unfold wrap
  cases width.signed with
  | true => exact Int.dvd_bmod_sub_self
  | false => exact Int.dvd_emod_sub_self

/-- Two numbers of a width that differ by a multiple of its size are the same. -/
theorem holds_unique (bits : 0 < width.bits) {first second : Int} (one : width.Holds first)
    (other : width.Holds second)
    (apart : ((Nat.pow 2 width.bits : Nat) : Int) ∣ first - second) : first = second := by
  have halves := pow_halves bits
  have close : (first - second).natAbs < ((Nat.pow 2 width.bits : Nat) : Int).natAbs := by
    unfold Holds at one other
    by_cases signed : width.signed = true
    · rw [if_pos signed] at one other
      omega
    · rw [if_neg signed] at one other
      omega
  have same := Int.eq_zero_of_dvd_of_natAbs_lt_natAbs apart close
  omega

theorem wrap_unique (bits : 0 < width.bits) {value other : Int} (holds : width.Holds other)
    (apart : ((Nat.pow 2 width.bits : Nat) : Int) ∣ other - value) : other = width.wrap value := by
  refine holds_unique bits holds (wrap_holds bits value) ?_
  have both := Int.dvd_sub apart (dvd_wrap_sub width value)
  rwa [show other - value - (width.wrap value - value) = other - width.wrap value by omega] at both

theorem wrap_of_holds (bits : 0 < width.bits) {value : Int} (holds : width.Holds value) :
    width.wrap value = value :=
  (wrap_unique bits holds (by simp)).symm

end Width

/-! Literals -/

theorem widthOf_some (name : String) :
    widthOf (some name) = (underlyingWidths.lookup name).getD ⟨32, true⟩ := by
  by_cases empty : name = ""
  · subst empty
    rfl
  · have named : underlyingName (some name) = name := by simp [underlyingName, empty]
    rw [widthOf, named]

/-- The widths that there are. -/
theorem widthOf_cases (underlying : Option String) :
    ∃ signed, ∃ bits ∈ [8, 16, 32, 64], widthOf underlying = ⟨bits, signed⟩ := by
  have listed : ∀ entry ∈ underlyingWidths,
      ∃ signed, ∃ bits ∈ [8, 16, 32, 64], entry.2 = ⟨bits, signed⟩ := by
    simp [underlyingWidths]
  unfold widthOf
  cases found : underlyingWidths.lookup (underlyingName underlying) with
  | none => exact ⟨true, 32, by simp, rfl⟩
  | some width =>
    exact listed (_, width) (mem_of_lookup found)

theorem widthOf_positive (underlying : Option String) : 0 < (widthOf underlying).bits := by
  obtain ⟨signed, bits, listed, width⟩ := widthOf_cases underlying
  rw [width]
  revert listed
  simp only [List.mem_cons, List.not_mem_nil, or_false]
  omega

theorem denoted?_int {value : Int} (lower : -0x80000000 < value) (upper : value < 0x80000000) :
    Constant.denoted? (toString value) = some value := by
  have denoted := @Constant.denoted?_signed [] _ (by decide) rfl 32 rfl value lower upper
  rwa [String.ofList_nil, String.append_empty] at denoted

theorem denoted?_uint {value : Int} (lower : 0 ≤ value) (upper : value < 0x100000000) :
    Constant.denoted? (toString value ++ "u") = some value :=
  @Constant.denoted?_unsigned ['u'] _ (by decide) rfl 32 rfl value lower upper

theorem enumLiteral_denotes (value : Int) (underlying : Option String) :
    Constant.denoted? (enumLiteral value underlying) = some ((widthOf underlying).wrap value) := by
  obtain ⟨signed, bits, listed, width⟩ := widthOf_cases underlying
  have held := Width.wrap_holds (widthOf_positive underlying) value
  rw [width] at held
  simp only [enumLiteral, width]
  generalize (⟨bits, signed⟩ : Width).wrap value = wrapped at held ⊢
  simp only [List.mem_cons, List.not_mem_nil, or_false] at listed
  cases signed with
  | false =>
    rcases listed with rfl | rfl | rfl | rfl
    · have range : 0 ≤ wrapped ∧ wrapped < 0x100 := held
      exact denoted?_uint range.1 (by omega)
    · have range : 0 ≤ wrapped ∧ wrapped < 0x10000 := held
      exact denoted?_uint range.1 (by omega)
    · exact denoted?_uint held.1 held.2
    · exact @Constant.denoted?_unsigned ['u', 'l', 'l'] _ (by decide) rfl 64 rfl _ held.1 held.2
  | true =>
    rcases listed with rfl | rfl | rfl | rfl
    · have range : -0x80 ≤ wrapped ∧ wrapped < 0x80 := held
      exact denoted?_int (by omega) (by omega)
    · have range : -0x8000 ≤ wrapped ∧ wrapped < 0x8000 := held
      exact denoted?_int (by omega) (by omega)
    · -- The least value has no literal of its own and is written as a difference.
      have range : -0x80000000 ≤ wrapped ∧ wrapped < 0x80000000 := held
      by_cases least : wrapped = -0x80000000
      · subst least
        decide +kernel
      · simpa [least] using denoted?_int (by omega) range.2
    · have range : -0x8000000000000000 ≤ wrapped ∧ wrapped < 0x8000000000000000 := held
      by_cases least : wrapped = -0x8000000000000000
      · subst least
        decide +kernel
      · have more : -0x8000000000000000 < wrapped := by omega
        simpa [least] using
          @Constant.denoted?_signed ['l', 'l'] _ (by decide) rfl 64 rfl _ more range.2

end Proxy

/-! Constants in the metadata -/

namespace Metadata

def leastFirst : Nat → Nat → List UInt8
  | 0, _ => []
  | size + 1, number => (number % 0x100).toUInt8 :: leastFirst size (number / 0x100)

theorem leastFirst_length (size number : Nat) : (leastFirst size number).length = size := by
  induction size generalizing number with
  | zero => rfl
  | succ size ih => simp [leastFirst, ih]

theorem littleEndian_leastFirst {size number : Nat} (fits : number < Nat.pow 2 (8 * size)) :
    littleEndian (leastFirst size number) = number := by
  induction size generalizing number with
  | zero =>
    have none : number < 1 := fits
    simp [leastFirst, littleEndian]
    omega
  | succ size ih =>
    have more : Nat.pow 2 (8 * (size + 1)) = 0x100 * Nat.pow 2 (8 * size) := by
      rw [Nat.mul_add, Nat.add_comm]
      exact Nat.pow_add 2 8 (8 * size)
    have rest := @ih (number / 0x100) (by omega)
    have byte : (number % 0x100).toUInt8.toNat = number % 0x100 := by simp
    rw [leastFirst, littleEndian, byte, rest]
    omega

namespace ConstantForm

def width : ConstantForm → Proxy.Width
  | .truth => ⟨8, false⟩
  | .unsigned bytes => ⟨8 * bytes, false⟩
  | .signed bytes => ⟨8 * bytes, true⟩

def Holds : ConstantForm → Int → Prop
  | .truth, value => value = 0 ∨ value = 1
  | form, value => form.width.Holds value

theorem width_holds {form : ConstantForm} {value : Int} (holds : form.Holds value) :
    form.width.Holds value := by
  cases form with
  | truth =>
    rcases holds with rfl | rfl
    · decide
    · decide
  | unsigned bytes => exact holds
  | signed bytes => exact holds

/-- The bytes of a value; a negative one is stored modulo the power of two that just does not fit. -/
def store (form : ConstantForm) (value : Int) : List UInt8 :=
  leastFirst form.size (value % (Nat.pow 2 (8 * form.size) : Nat)).toNat

theorem littleEndian_store (form : ConstantForm) (value : Int) :
    (littleEndian (form.store value) : Int) = value % (Nat.pow 2 (8 * form.size) : Nat) := by
  have positive : 0 < Nat.pow 2 (8 * form.size) := Nat.two_pow_pos _
  have lower := Int.emod_nonneg value (Int.natCast_ne_zero.mpr (Nat.ne_of_gt positive))
  have upper := Int.emod_lt_of_pos value (Int.natCast_pos.mpr positive)
  rw [store, littleEndian_leastFirst (by omega)]
  omega

theorem read_store {form : ConstantForm} (sized : 0 < form.size) {value : Int}
    (holds : form.Holds value) : form.read (form.store value) = value := by
  have stored := form.littleEndian_store value
  unfold read
  cases form with
  | truth =>
    rcases holds with rfl | rfl
    · decide
    · decide
  | unsigned bytes =>
    simp only [stored]
    exact Int.emod_eq_of_lt holds.1 holds.2
  | signed bytes =>
    simp only [stored]
    refine (Int.emod_bmod value _).trans ?_
    exact Proxy.Width.wrap_of_holds (Nat.mul_pos (by decide) sized) holds

end ConstantForm

/-- A value that its form holds is read back, whatever follows it. -/
theorem constantValue_stored {element : Nat} {form : ConstantForm}
    (listed : constantForms.lookup element = some form) (sized : 0 < form.size) {value : Int}
    (holds : form.Holds value) (trailing : List UInt8) :
    constantValue element (form.store value ++ trailing) = .ok (some value) := by
  have length : (form.store value).length = form.size := leastFirst_length _ _
  have enough : ¬ (form.store value ++ trailing).length < form.size := by
    rw [List.length_append]
    omega
  have taken : (form.store value ++ trailing).take form.size = form.store value := by
    rw [← length, List.take_left]
  rw [constantValue, listed]
  simp only [if_neg enough, taken, ConstantForm.read_store sized holds]

/-- Every integral element type has a name, and enums over the type of that name are as wide as its
constants. -/
theorem forms_named : ∀ entry ∈ constantForms, 0 < entry.2.size ∧
    (primitives.lookup entry.1).map (fun primitive => Proxy.widthOf (some primitive.name)) =
      some entry.2.width := by
  decide +kernel

theorem form_named {element : Nat} {form : ConstantForm}
    (listed : constantForms.lookup element = some form) :
    0 < form.size ∧ ∃ primitive, primitives.lookup element = some primitive ∧
      Proxy.widthOf (some primitive.name) = form.width := by
  have named := forms_named (element, form) (mem_of_lookup listed)
  exact ⟨named.1, Option.map_eq_some_iff.mp named.2⟩

end Metadata

open ProxyHeaders.Proxy

/-- A literal denotes the one number of its type's width that its value stands for. A value of an
integral type is read back from its bytes, whatever follows them, and denoted as it is. -/
theorem enum_values_survive :
    (∀ (value : Int) (underlying : Option String), ∃ number,
      Constant.denoted? (enumLiteral value underlying) = some number ∧
      ((widthOf underlying).Holds number ∧
        ((Nat.pow 2 (widthOf underlying).bits : Nat) : Int) ∣ number - value) ∧
      ∀ other, (widthOf underlying).Holds other →
        ((Nat.pow 2 (widthOf underlying).bits : Nat) : Int) ∣ other - value → other = number) ∧
    (widthOf none = ⟨32, true⟩ ∧
      ∀ name, widthOf (some name) = (underlyingWidths.lookup name).getD ⟨32, true⟩) ∧
    ∀ (element : Nat) (form : ConstantForm), constantForms.lookup element = some form →
      ∃ primitive, primitives.lookup element = some primitive ∧
        ∀ (value : Int) (trailing : List UInt8), form.Holds value →
          constantValue element (form.store value ++ trailing) = .ok (some value) ∧
          Constant.denoted? (enumLiteral value (some primitive.name)) = some value := by
  refine ⟨?_, ⟨rfl, widthOf_some⟩, ?_⟩
  · intro value underlying
    have positive := widthOf_positive underlying
    exact ⟨_, enumLiteral_denotes value underlying,
      ⟨Width.wrap_holds positive value, Width.dvd_wrap_sub _ value⟩,
      fun other holds apart => Width.wrap_unique positive holds apart⟩
  · intro element form listed
    obtain ⟨sized, primitive, named, width⟩ := form_named listed
    refine ⟨primitive, named, ?_⟩
    intro value trailing holds
    refine ⟨constantValue_stored listed sized holds trailing, ?_⟩
    have held : (widthOf (some primitive.name)).Holds value := width ▸ form.width_holds holds
    rw [enumLiteral_denotes, Width.wrap_of_holds (widthOf_positive _) held]

/-- The least number of eight bytes, which has no literal of its own. -/
theorem least_value_survives :
    constantForms.lookup 0x0a = some (.signed 8) ∧
    ConstantForm.Holds (.signed 8) (-0x8000000000000000) ∧
    constantValue 0x0a ([0, 0, 0, 0, 0, 0, 0, 0x80] ++ [0x2a]) = .ok (some (-0x8000000000000000)) ∧
    Constant.denoted? (enumLiteral (-0x8000000000000000) (some "Int64")) =
      some (-0x8000000000000000) := by
  have listed : constantForms.lookup 0x0a = some (.signed 8) := rfl
  have holds : ConstantForm.Holds (.signed 8) (-0x8000000000000000) := ⟨by decide, by decide⟩
  have stored : ConstantForm.store (.signed 8) (-0x8000000000000000) =
      [0, 0, 0, 0, 0, 0, 0, 0x80] := by decide
  obtain ⟨primitive, named, survives⟩ := enum_values_survive.2.2 0x0a (.signed 8) listed
  obtain rfl : (⟨"Int64", .structType⟩ : Primitive) = primitive := Option.some.inj named
  have both := survives _ [0x2a] holds
  rw [stored] at both
  exact ⟨listed, holds, both⟩

end ProxyHeaders
