import PcmOutput.Decimal.Binary64

/-!
# The shortest decimal of a double

Of all decimals that are read back as a given double, the ones with the fewest digits, and of those
the nearest to it. Every comparison is between whole numbers, so nothing is rounded on the way.
-/

set_option autoImplicit false

namespace PcmOutput.Decimal

/-- A decimal: a whole number times a power of ten. -/
structure Scaled where
  digits : Nat
  exponent : Int
deriving DecidableEq, Repr

/-- The same decimal with no zero at the end of its digits; at most `limit` zeros are taken off. -/
def Scaled.stripZeros (decimal : Scaled) : (limit : Nat) → Scaled
  | 0 => decimal
  | limit + 1 =>
    if decimal.digits ≠ 0 ∧ decimal.digits % 10 = 0 then
      Scaled.stripZeros ⟨decimal.digits / 10, decimal.exponent + 1⟩ limit
    else decimal

/--
The numbers that are rounded to a double, in quarters of its last place: a half place up, and a half
place down unless the grid becomes finer below. The ends belong to it if the significand is even.
-/
structure RoundingInterval where
  low : Nat
  value : Nat
  high : Nat
  closed : Bool
  exponent : Int

/-- The rounding interval of `significand * 2 ^ exponent`. -/
def RoundingInterval.of (significand : Nat) (exponent : Int) : RoundingInterval where
  low := if significand = Nat.pow 2 52 ∧ exponent ≠ leastExponent then 4 * significand - 1 else 4 * significand - 2
  value := 4 * significand
  high := 4 * significand + 2
  closed := significand % 2 == 0
  exponent := exponent - 2

/-- `quarters * 2 ^ binary / 10 ^ decimal` as a numerator over `gridDenominator`. -/
def gridNumerator (quarters : Nat) (binary decimal : Int) : Nat :=
  quarters * Nat.pow 2 binary.toNat * Nat.pow 10 (-decimal).toNat

@[inherit_doc gridNumerator] def gridDenominator (binary decimal : Int) : Nat :=
  Nat.pow 2 (-binary).toNat * Nat.pow 10 decimal.toNat

/-- The count of decimal places before the point, or minus the count of zeros after it. -/
def leadingPower (interval : RoundingInterval) : Int :=
  let numerator := gridNumerator interval.value interval.exponent 0
  let denominator := gridDenominator interval.exponent 0
  if denominator ≤ numerator then (Nat.toDigits 10 (numerator / denominator)).length
  else
    let shifts := (List.range 400).find? fun zeros => denominator ≤ numerator * Nat.pow 10 (zeros + 1)
    Int.negOfNat (shifts.getD 0)

/-- Whether `multiple * 10 ^ decimal` is rounded to the double of the interval. -/
def RoundingInterval.contains (interval : RoundingInterval) (multiple : Nat) (decimal : Int) : Bool :=
  let denominator := gridDenominator interval.exponent decimal
  let low := gridNumerator interval.low interval.exponent decimal
  let high := gridNumerator interval.high interval.exponent decimal
  let scaled := multiple * denominator
  if interval.closed then low ≤ scaled && scaled ≤ high else low < scaled && scaled < high

/--
The multiple of `10 ^ decimal` that lies in the interval and is nearest to its value; only the two
neighbours of the value can be that. Of two equally near ones the greater is taken.
-/
def RoundingInterval.nearest? (interval : RoundingInterval) (decimal : Int) : Option Scaled :=
  let numerator := gridNumerator interval.value interval.exponent decimal
  let denominator := gridDenominator interval.exponent decimal
  let below := numerator / denominator
  let above := below + 1
  match interval.contains below decimal, interval.contains above decimal with
  | true, true =>
    if 2 * (numerator - below * denominator) < denominator then some ⟨below, decimal⟩
    else some ⟨above, decimal⟩
  | true, false => some ⟨below, decimal⟩
  | false, true => some ⟨above, decimal⟩
  | false, false => none

/-- The shortest decimal of the positive number `significand * 2 ^ exponent`: at most 17 digits. -/
def shortest (significand : Nat) (exponent : Int) : Scaled :=
  let interval := RoundingInterval.of significand exponent
  let power := leadingPower interval
  let found := (List.range 17).findSome? fun count => interval.nearest? (power - (count + 1 : Nat))
  (found.getD ⟨0, 0⟩).stripZeros 400

/-- A decimal written without an exponent, with at least one digit on each side of the point. -/
def Scaled.positional (decimal : Scaled) : String :=
  let digits := Nat.toDigits 10 decimal.digits
  if 0 ≤ decimal.exponent then
    String.ofList (digits ++ List.replicate decimal.exponent.toNat '0') ++ ".0"
  else
    let places := (-decimal.exponent).toNat
    let padded := List.replicate (places + 1 - digits.length) '0' ++ digits
    let (whole, fraction) := padded.splitAt (padded.length - places)
    String.ofList whole ++ "." ++ String.ofList fraction

end PcmOutput.Decimal
