import Mathlib
import ProxyHeaders.Proofs.Metadata.Reading

/-!
Compressed numbers, bit by bit. A number stands in a field of seven, fourteen or twenty-nine bits,
the shortest that holds it, behind the bits that say which field it is. A signed number stands there
in two's complement, turned left by one, so that its sign is the lowest bit. The readers give back
what a field holds, and fail on just those bytes that begin with no such bits or end too early.
-/
namespace ProxyHeaders.Metadata

variable {σ α β : Type}

/-! Fields -/

/-- So many bytes of a word, the highest first. -/
def bigEndian (count : Nat) {width : Nat} (word : BitVec width) : List UInt8 :=
  (List.range count).reverse.map fun place => .ofBitVec (word.extractLsb' (8 * place) 8)

inductive NumberForm where
  | short
  | medium
  | long
  deriving DecidableEq, Repr

namespace NumberForm

def width : NumberForm → Nat
  | short => 7
  | medium => 14
  | long => 29

def size : NumberForm → Nat
  | short => 1
  | medium => 2
  | long => 4

/-- The field behind the bits that say which it is. -/
def spell : (form : NumberForm) → BitVec form.width → List UInt8
  | short, field => bigEndian 1 (0b0#1 ++ field)
  | medium, field => bigEndian 2 (0b10#2 ++ field)
  | long, field => bigEndian 4 (0b110#3 ++ field)

def Holds (number : Nat) (form : NumberForm) : Prop :=
  number < 2 ^ form.width

def HoldsSigned (value : Int) (form : NumberForm) : Prop :=
  -2 ^ (form.width - 1) ≤ value ∧ value < 2 ^ (form.width - 1)

instance (number : Nat) : DecidablePred (Holds number) :=
  fun form => inferInstanceAs (Decidable (number < 2 ^ form.width))

instance (value : Int) : DecidablePred (HoldsSigned value) :=
  fun form => inferInstanceAs
    (Decidable (-2 ^ (form.width - 1) ≤ value ∧ value < 2 ^ (form.width - 1)))

/-- The shortest form that fits; the long one if none does. -/
def shortest (fits : NumberForm → Prop) [DecidablePred fits] : NumberForm :=
  if fits short then short else if fits medium then medium else long

theorem shortest_fits {fits : NumberForm → Prop} [DecidablePred fits] (last : fits long) :
    fits (shortest fits) := by
  unfold shortest
  split
  · assumption
  split
  · assumption
  · exact last

end NumberForm

open NumberForm

def spellNumber (number : Nat) : List UInt8 :=
  (shortest (Holds number)).spell (BitVec.ofNat _ number)

def spellSigned (value : Int) : List UInt8 :=
  (shortest (HoldsSigned value)).spell ((BitVec.ofInt _ value).rotateLeft 1)

/-! The numbers that words are, as they stand and turned -/

theorem toNat_behind {lead width : Nat} (mark : BitVec lead) (field : BitVec width) :
    (mark ++ field).toNat = mark.toNat * 2 ^ width + field.toNat := by
  rw [BitVec.toNat_append, ← Nat.shiftLeft_add_eq_or_of_lt field.isLt, Nat.shiftLeft_eq]

theorem byte_of_word {width : Nat} (word : BitVec width) (place : Nat) {value : Nat}
    (same : word.toNat / 2 ^ (8 * place) % 0x100 = value % 0x100) :
    UInt8.ofBitVec (word.extractLsb' (8 * place) 8) = value.toUInt8 := by
  apply UInt8.toNat_inj.mp
  simpa [BitVec.extractLsb'_toNat, Nat.shiftRight_eq_div_pow] using same

theorem word_lt {width : Nat} (word : BitVec (width + 2)) :
    word.toNat < 2 ^ (width + 1) * 2 := by
  rw [← Nat.pow_succ]
  exact word.isLt

theorem rotateLeft_one_toNat {width : Nat} (word : BitVec (width + 2)) :
    (word.rotateLeft 1).toNat =
      2 * (word.toNat % 2 ^ (width + 1)) + word.toNat / 2 ^ (width + 1) := by
  -- The sign is one bit, and the others leave room for it, so that it is added to them.
  have sign : word.toNat / 2 ^ (width + 1) < 2 ^ 1 := Nat.div_lt_of_lt_mul (word_lt word)
  have others : word.toNat <<< 1 % 2 ^ (width + 2) = (word.toNat % 2 ^ (width + 1)) <<< 1 := by
    rw [Nat.shiftLeft_eq, Nat.shiftLeft_eq, Nat.pow_succ 2 (width + 1), Nat.pow_one,
      Nat.mul_mod_mul_right]
  rw [BitVec.toNat_rotateLeft, Nat.mod_eq_of_lt (by omega : 1 < width + 2), others,
    Nat.shiftRight_eq_div_pow, Nat.add_succ_sub_one, ← Nat.shiftLeft_add_eq_or_of_lt sign,
    Nat.shiftLeft_eq, Nat.pow_one, Nat.mul_comm]

theorem rotateLeft_rotated {width : Nat} (word : BitVec (width + 2)) :
    (word.rotateLeft 1).toNat = rotated (2 ^ (width + 1)) word.toInt := by
  have bound := word_lt word
  rw [rotateLeft_one_toNat, BitVec.toInt_eq_toNat_cond, Nat.pow_succ 2 (width + 1)]
  generalize 2 ^ (width + 1) = half at bound ⊢
  generalize word.toNat = bits at bound ⊢
  rcases Nat.lt_or_ge bits half with plain | negative
  · rw [if_pos (by omega), rotated, if_neg (by omega), Nat.mod_eq_of_lt plain,
      Nat.div_eq_of_lt plain]
    omega
  · have sign : bits / half = 1 := Nat.div_eq_of_lt_le (by omega) (by omega)
    rw [if_neg (by omega), rotated, if_pos (by omega), sign, Nat.mod_eq_sub_mod negative,
      Nat.mod_eq_of_lt (by omega)]
    omega

/-! Reading a field -/

namespace NumberForm

variable (form : NumberForm)

theorem spell_packed (field : BitVec form.width) :
    form.spell field = packed form.size field.toNat := by
  cases form with
  | short =>
    refine congrArg₂ List.cons (byte_of_word _ 0 ?_) rfl
    rw [toNat_behind]
    simp
  | medium =>
    refine congrArg₂ List.cons (byte_of_word _ 1 ?_)
      (congrArg₂ List.cons (byte_of_word _ 0 ?_) rfl)
    all_goals rw [toNat_behind]
    all_goals simp only [width, BitVec.toNat_ofNat]
    all_goals omega
  | long =>
    refine congrArg₂ List.cons (byte_of_word _ 3 ?_) (congrArg₂ List.cons (byte_of_word _ 2 ?_)
      (congrArg₂ List.cons (byte_of_word _ 1 ?_) (congrArg₂ List.cons (byte_of_word _ 0 ?_) rfl)))
    all_goals rw [toNat_behind]
    all_goals simp only [width, BitVec.toNat_ofNat]
    all_goals omega

theorem width_pos : 0 < form.width := by
  cases form <;> decide

theorem size_packed : isPackedSize form.size := by
  cases form
  · exact .inl rfl
  · exact .inr (.inl rfl)
  · exact .inr (.inr rfl)

theorem limit_width : packedLimit form.size = 2 ^ form.width := by
  cases form <;> rfl

theorem half_width : signedHalf form.size = 2 ^ (form.width - 1) := by
  cases form <;> rfl

theorem takes_field (field : BitVec form.width) :
    Takes (σ := σ) Reader.number (form.spell field) field.toNat := by
  rw [spell_packed]
  exact takes_packed form.size_packed (form.limit_width ▸ field.isLt)

theorem field_turned (field : BitVec form.width) :
    (field.rotateLeft 1).toNat = rotated (signedHalf form.size) field.toInt := by
  cases form with
  | short => exact @rotateLeft_rotated 5 field
  | medium => exact @rotateLeft_rotated 12 field
  | long => exact @rotateLeft_rotated 27 field

theorem takes_turned (field : BitVec form.width) :
    Takes (σ := σ) Reader.signedNumber (form.spell (field.rotateLeft 1)) field.toInt := by
  have lower := BitVec.le_toInt field
  have upper := BitVec.toInt_lt (x := field)
  rw [spell_packed, field_turned]
  apply takes_rotated form.size_packed
  · rw [half_width]
    exact_mod_cast lower
  · rw [half_width]
    exact_mod_cast upper

end NumberForm

theorem takes_number {number : Nat} (bound : number < 2 ^ 29) :
    Takes (σ := σ) Reader.number (spellNumber number) number := by
  have fits : Holds number (shortest (Holds number)) := shortest_fits bound
  have taken := (shortest (Holds number)).takes_field (σ := σ) (BitVec.ofNat _ number)
  rwa [BitVec.toNat_ofNat, Nat.mod_eq_of_lt fits] at taken

theorem takes_signed {value : Int} (lower : -2 ^ 28 ≤ value) (upper : value < 2 ^ 28) :
    Takes (σ := σ) Reader.signedNumber (spellSigned value) value := by
  have fits : HoldsSigned value (shortest (HoldsSigned value)) := shortest_fits ⟨lower, upper⟩
  have taken := (shortest (HoldsSigned value)).takes_turned (σ := σ) (BitVec.ofInt _ value)
  rwa [BitVec.toInt_ofInt_eq_self (width_pos _) fits.1 fits.2] at taken

/-! Bytes that begin with no number -/

/-- The form that the first byte announces, if there is one. -/
def NumberForm.announcedBy (first : UInt8) : Option NumberForm :=
  if first.toNat < 0x80 then some short
  else if first.toNat < 0xc0 then some medium
  else if first.toNat < 0xe0 then some long
  else none

/-- What is wrong with bytes, from an offset on, that do not begin with a number. -/
inductive Flawed (offset : Nat) : List UInt8 → SignatureFault → Prop
  | nothing : Flawed offset [] (.truncated offset)
  | lead {first : UInt8} {rest : List UInt8} (high : 0xe0 ≤ first.toNat) :
    Flawed offset (first :: rest) (.badLead first.toNat)
  | early {first : UInt8} {rest : List UInt8} {form : NumberForm}
    (announced : announcedBy first = some form)
    (less : (first :: rest).length < form.size) :
    Flawed offset (first :: rest) (.truncated (offset + (first :: rest).length))

theorem announced_high {first : UInt8} (unknown : announcedBy first = none) :
    0xe0 ≤ first.toNat := by
  by_contra low
  rw [announcedBy] at unknown
  split_ifs at unknown
  omega

section Lead

variable {first : UInt8} (rest : List UInt8) (offset : Nat) (outer : σ)

theorem compressed_high (high : 0xe0 ≤ first.toNat) :
    Reader.compressed { rest := first :: rest, offset, outer } =
      .error (.signature (.badLead first.toNat)) { rest, offset := offset + 1, outer } := by
  simp only [Reader.compressed, bind, EStateM.bind, Reader.byte]
  rw [if_neg (by omega), if_neg (by omega), if_neg (by omega)]
  rfl

/-- What the first byte announces is there and is read, or it is not and the bytes are at fault. -/
theorem compressed_announced {form : NumberForm}
    (announced : announcedBy first = some form) :
    ((first :: rest).length < form.size ∧
        ∃ after, Reader.compressed { rest := first :: rest, offset, outer } =
          .error (.signature (.truncated (offset + (first :: rest).length))) after) ∨
      form.size ≤ (first :: rest).length ∧
        ∃ value after, Reader.compressed { rest := first :: rest, offset, outer } =
          .ok value after := by
  simp only [Reader.compressed, bind, EStateM.bind, Reader.byte]
  -- The form says how many bytes are taken, so the rest is split that far.
  rw [announcedBy] at announced
  split_ifs at announced <;> cases announced
  next short =>
    rw [if_pos short]
    exact .inr ⟨by simp [size], _, _, rfl⟩
  next notShort medium =>
    rw [if_neg notShort, if_pos medium]
    rcases rest with - | ⟨second, rest⟩
    · exact .inl ⟨by simp [size], _, rfl⟩
    · exact .inr ⟨by simp [size], _, _, rfl⟩
  next notShort notMedium long =>
    rw [if_neg notShort, if_neg notMedium, if_pos long]
    rcases rest with - | ⟨second, - | ⟨third, - | ⟨fourth, rest⟩⟩⟩
    · exact .inl ⟨by simp [size], _, rfl⟩
    · exact .inl ⟨by simp [size], _, rfl⟩
    · exact .inl ⟨by simp [size], _, rfl⟩
    · exact .inr ⟨by simp [size], _, _, rfl⟩

end Lead

theorem compressed_error_iff (scan : Scan σ) (fault : Fault) :
    (∃ after, Reader.compressed scan = .error fault after) ↔
      ∃ flaw, Flawed scan.offset scan.rest flaw ∧ fault = .signature flaw := by
  obtain ⟨bytes, offset, outer⟩ := scan
  constructor
  · rintro ⟨after, fails⟩
    cases bytes with
    | nil =>
      cases fails
      exact ⟨_, .nothing, rfl⟩
    | cons first rest =>
      cases announced : announcedBy first with
      | none =>
        have high := announced_high announced
        cases (compressed_high rest offset outer high).symm.trans fails
        exact ⟨_, .lead high, rfl⟩
      | some form =>
        obtain ⟨less, other, early⟩ | ⟨-, value, other, gives⟩ :=
          compressed_announced rest offset outer announced
        · cases early.symm.trans fails
          exact ⟨_, .early announced less, rfl⟩
        · cases gives.symm.trans fails
  · rintro ⟨flaw, flawed, rfl⟩
    cases flawed with
    | nothing => exact ⟨_, rfl⟩
    | @lead first rest high => exact ⟨_, compressed_high rest offset outer high⟩
    | @early first rest form announced less =>
      obtain ⟨-, early⟩ | ⟨enough, -⟩ := compressed_announced rest offset outer announced
      · exact early
      · exact absurd enough (Nat.not_le.mpr less)

/-- What is made of a value fails just where there is no value. -/
theorem made_error_iff {read : Reader σ α} {next : α → Reader σ β}
    (makes : ∀ value, ∃ made, next value = pure made) (scan : Scan σ) (fault : Fault) :
    (∃ after, (read >>= next) scan = .error fault after) ↔
      ∃ after, read scan = .error fault after := by
  simp only [bind, EStateM.bind]
  cases reached : read scan with
  | ok value after =>
    obtain ⟨made, same⟩ := makes value
    simp [same, pure, EStateM.pure]
  | error own after => simp

/-- Whatever follows, a number is read back from the shortest field that holds it, and so is a signed
number, and the readers consume that field and no more; they fail on just those bytes that start
with too high a byte, or end before the length that the first one announces, and with a fault of the
signature's own. -/
theorem compressed_numbers_exact :
    (∀ number < 2 ^ 29, Takes (σ := σ) Reader.number (spellNumber number) number) ∧
    (∀ value : Int, -2 ^ 28 ≤ value → value < 2 ^ 28 →
      Takes (σ := σ) Reader.signedNumber (spellSigned value) value) ∧
    ∀ (scan : Scan σ) (fault : Fault),
      ((∃ after, Reader.number scan = .error fault after) ↔
        ∃ flaw, Flawed scan.offset scan.rest flaw ∧ fault = .signature flaw) ∧
      ((∃ after, Reader.signedNumber scan = .error fault after) ↔
        ∃ flaw, Flawed scan.offset scan.rest flaw ∧ fault = .signature flaw) := by
  refine ⟨fun number bound => takes_number bound,
    fun value lower upper => takes_signed lower upper, ?_⟩
  intro scan fault
  rw [← compressed_error_iff]
  exact ⟨made_error_iff (fun _ => ⟨_, rfl⟩) scan fault, made_error_iff (fun _ => ⟨_, rfl⟩) scan fault⟩

/-- The least number of four bytes, and the least signed one of two bytes, which is short without its
sign; and the first of two bytes alone. -/
theorem least_numbers_read :
    (0x4000 < 2 ^ 29 ∧ spellNumber 0x4000 = [0xc0, 0x00, 0x40, 0x00] ∧
      Reader.number { rest := [0xc0, 0x00, 0x40, 0x00, 0x7b], outer := () } =
        .ok 0x4000 { rest := [0x7b], offset := 4, outer := () }) ∧
    ((-2 ^ 28 : Int) ≤ -0x2000 ∧ (-0x2000 : Int) < 2 ^ 28 ∧ spellSigned (-0x2000) = [0x80, 0x01] ∧
      Reader.signedNumber { rest := [0x80, 0x01, 0x7b], outer := () } =
        .ok (-0x2000) { rest := [0x7b], offset := 2, outer := () }) ∧
    ∃ after, Reader.signedNumber { rest := [0x80], outer := () } =
      .error (.signature (.truncated 1)) after := by
  obtain ⟨numbers, signed, faults⟩ := compressed_numbers_exact (σ := Unit)
  have bound : 0x4000 < 2 ^ 29 := by norm_num
  have lower : (-2 ^ 28 : Int) ≤ -0x2000 := by norm_num
  have upper : (-0x2000 : Int) < 2 ^ 28 := by norm_num
  have spelled : spellNumber 0x4000 = [0xc0, 0x00, 0x40, 0x00] := by decide
  have spelledSigned : spellSigned (-0x2000) = [0x80, 0x01] := by decide
  have twoBytes : announcedBy 0x80 = some .medium := by decide
  have early : Flawed 0 [0x80] (.truncated 1) := .early twoBytes (by decide)
  have number := numbers 0x4000 bound
  have signedNumber := signed (-0x2000) lower upper
  rw [spelled] at number
  rw [spelledSigned] at signedNumber
  exact ⟨⟨bound, spelled, number [0x7b] 0 ()⟩,
    ⟨lower, upper, spelledSigned, signedNumber [0x7b] 0 ()⟩,
    (faults { rest := [0x80], outer := () } _).2.mpr ⟨_, early, rfl⟩⟩

end ProxyHeaders.Metadata
