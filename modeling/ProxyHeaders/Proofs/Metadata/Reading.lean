import Mathlib.Tactic.Common
import ProxyHeaders.Metadata.Signature

/-!
Exact reading. A reader reads some bytes exactly if, whatever follows them, it consumes these bytes
and no others, asks for the listed types in the listed order, and gives what the bytes mean.
Reading exactly is kept by sequencing, so a decoder is exact once its parts are.
-/
namespace ProxyHeaders.Metadata

variable {σ α β : Type}

/-- One question to whoever knows the types. -/
structure Call where
  table : TokenTable
  row : Int
  hint : Category
  deriving DecidableEq, Repr

/-- A resolver that always answers, at any depth, and keeps a list of what it was asked. The
answer may depend on a state of the resolver's own. -/
def recording (answer : Call → StateM σ TypeRef) : Resolver (List Call × σ) :=
  fun _ table row hint (calls, outer) =>
    let answered := (answer ⟨table, row, hint⟩).run outer
    .ok answered.1 (calls ++ [⟨table, row, hint⟩], answered.2)

def Reads (read : Reader (List Call × σ) α) (bytes : List UInt8) (calls : List Call)
    (meaning : StateM σ α) : Prop :=
  ∀ suffix offset before outer,
    read { rest := bytes ++ suffix, offset, outer := (before, outer) } =
      .ok (meaning.run outer).1
        { rest := suffix, offset := offset + bytes.length,
          outer := (before ++ calls, (meaning.run outer).2) }

theorem reads_pure (value : α) :
    Reads (σ := σ) (pure value) [] [] (pure value) := by
  intro suffix offset before outer
  simp only [List.nil_append, List.length_nil, Nat.add_zero, List.append_nil]
  rfl

theorem reads_bind {read : Reader (List Call × σ) α} {next : α → Reader (List Call × σ) β}
    {bytes more : List UInt8} {calls later : List Call}
    {meaning : StateM σ α} {nextMeaning : α → StateM σ β}
    (first : Reads read bytes calls meaning)
    (second : ∀ value, Reads (next value) more later (nextMeaning value)) :
    Reads (read >>= next) (bytes ++ more) (calls ++ later) (meaning >>= nextMeaning) := by
  intro suffix offset before outer
  have start := first (more ++ suffix) offset before outer
  have finish := second (meaning.run outer).1 suffix (offset + bytes.length) (before ++ calls)
    (meaning.run outer).2
  have sequenced : (meaning >>= nextMeaning).run outer =
      (nextMeaning (meaning.run outer).1).run (meaning.run outer).2 := rfl
  rw [sequenced]
  simp only [bind, EStateM.bind, List.append_assoc, start, finish, List.length_append,
    Nat.add_assoc]

theorem reads_known {read : Reader (List Call × σ) α} {next : α → Reader (List Call × σ) β}
    {bytes more : List UInt8} {calls later : List Call} {value : α} (asking : StateM σ Unit)
    {meaning : StateM σ β}
    (first : Reads read bytes calls (do asking; return value))
    (second : Reads (next value) more later meaning) :
    Reads (read >>= next) (bytes ++ more) (calls ++ later) (do asking; meaning) := by
  intro suffix offset before outer
  have start := first (more ++ suffix) offset before outer
  have finish := second suffix (offset + bytes.length) (before ++ calls) (asking.run outer).2
  have asked : (do asking; return value : StateM σ α).run outer =
      (value, (asking.run outer).2) := rfl
  have sequenced : (do asking; meaning).run outer = meaning.run (asking.run outer).2 := rfl
  rw [asked] at start
  rw [sequenced]
  simp only [bind, EStateM.bind, List.append_assoc, start, finish, List.length_append,
    Nat.add_assoc]

theorem reads_then {read : Reader (List Call × σ) α} {next : α → Reader (List Call × σ) β}
    {bytes more : List UInt8} {later : List Call} {value : α} {meaning : StateM σ β}
    (first : Reads read bytes [] (pure value)) (second : Reads (next value) more later meaning) :
    Reads (read >>= next) (bytes ++ more) later meaning :=
  reads_known (pure ()) first second

theorem reads_map {read : Reader (List Call × σ) α} {bytes : List UInt8} {calls : List Call}
    {meaning : StateM σ α} (make : α → β) (first : Reads read bytes calls meaning) :
    Reads (do return make (← read)) bytes calls (do return make (← meaning)) := by
  have both := reads_bind first fun value => reads_pure (make value)
  simpa using both

theorem reads_made {read : Reader (List Call × σ) α} {bytes : List UInt8} {value : α}
    (make : α → β) (first : Reads read bytes [] (pure value)) :
    Reads (do return make (← read)) bytes [] (pure (make value)) :=
  reads_map make first

theorem reads_byte (first : UInt8) :
    Reads (σ := σ) Reader.byte [first] [] (pure first.toNat) := by
  intro suffix offset before outer
  simp only [Reader.byte, List.singleton_append, List.length_singleton, List.append_nil]
  rfl

theorem reads_lead {next : Nat → Reader (List Call × σ) β} {first : UInt8} {more : List UInt8}
    {calls : List Call} {meaning : StateM σ β}
    (rest : Reads (next first.toNat) more calls meaning) :
    Reads (Reader.byte >>= next) (first :: more) calls meaning :=
  reads_then (reads_byte first) rest

/-! Lists of parts, read one after the other -/

/-- The meanings of some parts, in order. -/
def inOrder : {count : Nat} → (Fin count → StateM σ α) → StateM σ (List α)
  | 0, _ => pure []
  | _ + 1, part => do
    let first ← part 0
    let rest ← inOrder fun index => part index.succ
    return first :: rest

/-- What some parts contribute, in order. -/
def joined {γ : Type} {count : Nat} (part : Fin count → List γ) : List γ :=
  (List.ofFn part).flatten

theorem reads_times {count : Nat} {read : Reader (List Call × σ) α}
    {bytes : Fin count → List UInt8} {calls : Fin count → List Call}
    {meaning : Fin count → StateM σ α}
    (each : ∀ index, Reads read (bytes index) (calls index) (meaning index)) :
    Reads (Reader.times count read) (joined bytes) (joined calls) (inOrder meaning) := by
  induction count with
  | zero => exact reads_pure []
  | succ count ih =>
    have rest := ih fun index => each index.succ
    simp only [Reader.times, joined, List.ofFn_succ, List.flatten_cons, inOrder]
    exact reads_bind (each 0) fun first => reads_map (first :: ·) rest

/-! Readers that ask nobody -/

/-- Whatever follows them, a reader takes these bytes and no others for the value, and leaves
whoever knows the types alone. -/
def Takes (read : Reader σ α) (bytes : List UInt8) (value : α) : Prop :=
  ∀ suffix offset outer,
    read { rest := bytes ++ suffix, offset, outer } =
      .ok value { rest := suffix, offset := offset + bytes.length, outer }

theorem takes_pure (value : α) : Takes (σ := σ) (pure value) [] value :=
  fun _ _ _ => rfl

theorem takes_lead {next : Nat → Reader σ β} {first : UInt8} {more : List UInt8} {value : β}
    (rest : Takes (next first.toNat) more value) :
    Takes (Reader.byte >>= next) (first :: more) value := by
  intro suffix offset outer
  have finish := rest suffix (offset + 1) outer
  simp only [bind, EStateM.bind, Reader.byte, List.cons_append, finish, List.length_cons,
    Nat.add_assoc, Nat.add_comm 1]

theorem takes_then {read : Reader σ α} {next : α → Reader σ β} {bytes : List UInt8} {value : α}
    {made : β} (first : Takes read bytes value) (rest : Takes (next value) [] made) :
    Takes (read >>= next) bytes made := by
  intro suffix offset outer
  simp only [bind, EStateM.bind, first suffix offset outer]
  exact rest suffix (offset + bytes.length) outer

theorem Takes.reads {read : Reader (List Call × σ) α} {bytes : List UInt8} {value : α}
    (takes : Takes read bytes value) : Reads read bytes [] (pure value) := by
  intro suffix offset before outer
  rw [takes suffix offset (before, outer), List.append_nil]
  rfl

/-! Compressed numbers -/

/-- A number in one, two or four bytes, the first of which says how many there are. -/
def packed (size number : Nat) : List UInt8 :=
  if size = 1 then [number.toUInt8]
  else if size = 2 then [(0x80 + number / 0x100).toUInt8, (number % 0x100).toUInt8]
  else [(0xc0 + number / 0x1000000).toUInt8, (number / 0x10000 % 0x100).toUInt8,
    (number / 0x100 % 0x100).toUInt8, (number % 0x100).toUInt8]

def packedLimit (size : Nat) : Nat :=
  if size = 1 then 0x80 else if size = 2 then 0x4000 else 0x20000000

def isPackedSize (size : Nat) : Prop := size = 1 ∨ size = 2 ∨ size = 4

theorem byte_value {number : Nat} (small : number < 0x100) : number.toUInt8.toNat = number := by
  simp [Nat.mod_eq_of_lt small]

theorem takes_compressed {size number : Nat} (sound : isPackedSize size)
    (fits : number < packedLimit size) :
    Takes (σ := σ) Reader.compressed (packed size number) (number, size) := by
  rcases sound with rfl | rfl | rfl
  · have lead : number < 0x80 := by simpa [packedLimit] using fits
    refine takes_lead ?_
    rw [byte_value (by omega), if_pos lead]
    exact takes_pure _
  · have bound : number < 0x4000 := by simpa [packedLimit] using fits
    have lead : 0x80 + number / 0x100 < 0x100 := by omega
    refine takes_lead ?_
    rw [byte_value lead, if_neg (by omega), if_pos (by omega)]
    refine takes_lead ?_
    rw [byte_value (by omega),
      show (0x80 + number / 0x100) % 0x40 * 0x100 + number % 0x100 = number by omega]
    exact takes_pure _
  · have bound : number < 0x20000000 := by simpa [packedLimit] using fits
    have lead : 0xc0 + number / 0x1000000 < 0x100 := by omega
    refine takes_lead ?_
    rw [byte_value lead, if_neg (by omega), if_neg (by omega), if_pos (by omega)]
    refine takes_lead (takes_lead (takes_lead ?_))
    simp only [byte_value (Nat.mod_lt _ (by decide : 0 < 0x100))]
    rw [show (((0xc0 + number / 0x1000000) % 0x20 * 0x100 + number / 0x10000 % 0x100) * 0x100 +
      number / 0x100 % 0x100) * 0x100 + number % 0x100 = number by omega]
    exact takes_pure _

theorem takes_packed {size number : Nat} (sound : isPackedSize size)
    (fits : number < packedLimit size) :
    Takes (σ := σ) Reader.number (packed size number) number :=
  takes_then (takes_compressed sound fits) (takes_pure number)

abbrev Number := Fin 0x20000000

/-- A number in the fewest bytes that hold it. -/
def encodeNumber (number : Nat) : List UInt8 :=
  packed (if number < 0x80 then 1 else if number < 0x4000 then 2 else 4) number

theorem reads_number (number : Number) :
    Reads (σ := σ) Reader.number (encodeNumber number) [] (pure number.val) := by
  have bound := number.isLt
  let size := if number.val < 0x80 then 1 else if number.val < 0x4000 then 2 else 4
  have sound : isPackedSize size := by
    unfold isPackedSize
    grind
  have fits : number.val < packedLimit size := by
    unfold packedLimit
    grind
  exact (takes_packed sound fits).reads

/-! Signed numbers, which are stored with their sign in the lowest bit -/

/-- The signed numbers that signatures can hold. -/
structure SignedNumber where
  value : Int
  lower : -0x10000000 ≤ value := by decide
  upper : value < 0x10000000 := by decide

/-- A number from `-half` up to `half` without a sign: negative ones are counted from `-half` on
and are the odd ones. -/
def rotated (half : Nat) (value : Int) : Nat :=
  if value < 0 then 2 * (value + half).toNat + 1 else 2 * value.toNat

theorem rotated_lt {half : Nat} {value : Int} (lower : -half ≤ value) (upper : value < half) :
    rotated half value < 2 * half := by
  unfold rotated
  split <;> omega

theorem rotated_back {half : Nat} {value : Int} (lower : -half ≤ value) :
    (if rotated half value % 2 = 1 then ((rotated half value / 2 : Nat) : Int) - half
      else ((rotated half value / 2 : Nat) : Int)) = value := by
  by_cases negative : value < 0
  · have raw : rotated half value = 2 * (value + half).toNat + 1 := by simp [rotated, negative]
    rw [raw, if_pos (by omega)]
    omega
  · have raw : rotated half value = 2 * value.toNat := by simp [rotated, negative]
    rw [raw, if_neg (by omega)]
    omega

/-- How many of the signed numbers of a size are not negative. -/
def signedHalf (size : Nat) : Nat := Nat.pow 2 (Reader.signedBits size)

def encodeSigned (value : Int) : List UInt8 :=
  let size := if -0x40 ≤ value ∧ value < 0x40 then 1
    else if -0x2000 ≤ value ∧ value < 0x2000 then 2 else 4
  packed size (rotated (signedHalf size) value)

theorem signed_half_limit {size : Nat} (sound : isPackedSize size) :
    2 * signedHalf size = packedLimit size := by
  rcases sound with rfl | rfl | rfl <;> rfl

theorem takes_rotated {size : Nat} {value : Int} (sound : isPackedSize size)
    (lower : -signedHalf size ≤ value) (upper : value < signedHalf size) :
    Takes (σ := σ) Reader.signedNumber (packed size (rotated (signedHalf size) value)) value := by
  have fits : rotated (signedHalf size) value < packedLimit size :=
    signed_half_limit sound ▸ rotated_lt lower upper
  refine takes_then (takes_compressed sound fits) ?_
  change Takes (pure (if rotated (signedHalf size) value % 2 = 1 then
      ((rotated (signedHalf size) value / 2 : Nat) : Int) - signedHalf size
    else ((rotated (signedHalf size) value / 2 : Nat) : Int))) [] value
  rw [rotated_back lower]
  exact takes_pure value

theorem reads_signed (number : SignedNumber) :
    Reads (σ := σ) Reader.signedNumber (encodeSigned number.value) [] (pure number.value) := by
  have lower := number.lower
  have upper := number.upper
  have one : signedHalf 1 = 0x40 := rfl
  have two : signedHalf 2 = 0x2000 := rfl
  have four : signedHalf 4 = 0x10000000 := rfl
  unfold encodeSigned
  split
  · exact (takes_rotated (.inl rfl) (by omega) (by omega)).reads
  split
  · exact (takes_rotated (.inr (.inl rfl)) (by omega) (by omega)).reads
  · exact (takes_rotated (.inr (.inr rfl)) (by omega) (by omega)).reads

end ProxyHeaders.Metadata
