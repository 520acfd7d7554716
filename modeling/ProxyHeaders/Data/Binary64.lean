/-!
Numbers of the 64-bit binary format: rounding a decimal to the nearest one, and writing one with
the fewest digits that read back. All arithmetic is exact, on natural numbers.
-/
namespace ProxyHeaders.Data

/-- A double: `finite` stands for `significand · 2 ^ exponent`. -/
inductive Binary64 where
  | nan
  | infinite (negative : Bool)
  | finite (negative : Bool) (significand : Nat) (exponent : Int)
  deriving DecidableEq, Repr, Inhabited

namespace Binary64

def leastWide : Nat := 0x10000000000000

def leastExponent : Int := -1074
def greatestExponent : Int := 971

/-- `base ^ exponent` as a fraction. -/
def power (base : Nat) (exponent : Int) : Nat × Nat :=
  if exponent ≥ 0 then (Nat.pow base exponent.toNat, 1)
  else (1, Nat.pow base (-exponent).toNat)

/-- The nearest integer to a fraction; a half goes to the even neighbour. -/
def nearest (numerator denominator : Nat) : Nat :=
  let whole := numerator / denominator
  let twice := 2 * (numerator % denominator)
  if twice > denominator || (twice == denominator && whole % 2 == 1) then whole + 1 else whole

def ofFraction (negative : Bool) (numerator denominator : Nat) : Binary64 :=
  let guess : Int := (numerator.log2 : Int) - denominator.log2 - 52
  let scaled (exponent : Int) : Nat × Nat :=
    let (up, down) := power 2 exponent
    (numerator * down, denominator * up)
  let (top, bottom) := scaled guess
  let exponent := max (if top < bottom * leastWide then guess - 1 else guess) leastExponent
  let (top, bottom) := scaled exponent
  let significand := nearest top bottom
  let (significand, exponent) :=
    if significand = 2 * leastWide then (leastWide, exponent + 1) else (significand, exponent)
  if exponent > greatestExponent then .infinite negative
  else .finite negative significand exponent

/-- The double nearest to `digits · 10 ^ scale`. Far beyond either end the exact value no longer
matters, so it is not computed. -/
def ofDecimal (negative : Bool) (digits : Nat) (scale : Int) : Binary64 :=
  let size : Int := (Nat.toDigits 10 digits).length + scale
  if digits = 0 || size < -400 then .finite negative 0 leastExponent
  else if size > 400 then .infinite negative
  else
    let (up, down) := power 10 scale
    ofFraction negative (digits * up) down

def isZero : Binary64 → Bool
  | .finite _ significand _ => significand == 0
  | _ => false

/-- The number as an integer, if it is one. -/
def integer? : Binary64 → Option Int
  | .finite negative significand exponent =>
    let (up, down) := power 2 exponent
    let size := significand * up / down
    if size * down = significand * up then some (if negative then -(size : Int) else size) else none
  | _ => none

/-- Decimal digits and the place of the point before them: `0.d₁d₂… · 10 ^ place`. -/
structure Digits where
  digits : Nat
  place : Int

def placeFrom (numerator denominator : Nat) : Nat → Int → Int
  | 0, place => place
  | tries + 1, place =>
    let (up, down) := power 10 place
    if numerator * down < denominator * up then place
    else placeFrom numerator denominator tries (place + 1)

/-- The decimal of `count` digits nearest to the value, if it lies between the bounds that round
to the value; all three are numerators over one denominator. -/
def digitsOfLength (low value high denominator : Nat) (closed : Bool) (place : Int)
    (count : Nat) : Option Digits :=
  let (up, down) := power 10 (place - count)
  let inside (digits : Nat) : Bool :=
    let point := digits * up * denominator
    let (low, high) := (low * down, high * down)
    if closed then low ≤ point && point ≤ high else low < point && point < high
  let below := value * down / (denominator * up)
  let above := below + 1
  let distanceBelow := value * down - below * up * denominator
  let distanceAbove := above * up * denominator - value * down
  let preferAbove := distanceAbove < distanceBelow ||
    (distanceAbove == distanceBelow && below % 2 == 1)
  let (first, second) := if preferAbove then (above, below) else (below, above)
  -- rounding up to the next power of ten moves the point
  let placed (digits : Nat) : Digits :=
    if digits = Nat.pow 10 count then ⟨Nat.pow 10 (count - 1), place + 1⟩ else ⟨digits, place⟩
  if inside first && first != 0 then some (placed first)
  else if inside second && second != 0 then some (placed second)
  else none

/-- The shortest decimal that reads back as `significand · 2 ^ exponent`, which is not zero. -/
def shortest (significand : Nat) (exponent : Int) : Digits :=
  let (up, down) := power 2 (exponent - 2)
  let narrow := significand == leastWide && exponent > leastExponent
  let low := (4 * significand - (if narrow then 1 else 2)) * up
  let value := 4 * significand * up
  let high := (4 * significand + 2) * up
  let place := placeFrom value down 700 (-330)
  let lengths := (List.range 17).map (· + 1)
  (lengths.findSome? (digitsOfLength low value high down (significand % 2 == 0) place)).getD
    ⟨significand, 0⟩

def trimZeros (digits : List Char) : List Char :=
  (digits.reverse.dropWhile (· == '0')).reverse

/-- Positional notation for points from four places before the first digit to sixteen after it,
else one digit, a fraction and a signed exponent of two digits or more. -/
def render (digits : List Char) (place : Int) : List Char :=
  if -4 < place && place ≤ 16 then
    if place ≤ 0 then ['0', '.'] ++ List.replicate (-place).toNat '0' ++ digits
    else if digits.length ≤ place.toNat then
      digits ++ List.replicate (place.toNat - digits.length) '0' ++ ['.', '0']
    else digits.take place.toNat ++ ['.'] ++ digits.drop place.toNat
  else
    let exponent := place - 1
    let size := Nat.toDigits 10 exponent.natAbs
    let size := if size.length < 2 then '0' :: size else size
    digits.take 1 ++ (if digits.length > 1 then '.' :: digits.drop 1 else []) ++
      ['e', if exponent < 0 then '-' else '+'] ++ size

def display : Binary64 → String
  | .nan => "nan"
  | .infinite negative => if negative then "-inf" else "inf"
  | .finite negative significand exponent =>
    let sign := if negative then "-" else ""
    if significand = 0 then sign ++ "0.0"
    else
      let short := shortest significand exponent
      sign ++ String.ofList (render (trimZeros (Nat.toDigits 10 short.digits)) short.place)

end Binary64

end ProxyHeaders.Data
