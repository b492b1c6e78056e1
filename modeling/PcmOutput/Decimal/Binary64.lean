/-!
# Doubles as exact numbers

A double of 64 bits stands for a whole number times a power of two, for an infinity, or for no
number. Printing and taking remainders work on that exact number.
-/

set_option autoImplicit false

namespace PcmOutput.Decimal

/-- What a double stands for: `finite` is the significand times two to the exponent. -/
inductive Binary64
  | notNumber
  | infinite (negative : Bool)
  | finite (negative : Bool) (significand : Nat) (exponent : Int)
deriving DecidableEq, Repr

/-- The exponent of the last place of the numbers nearest to zero. -/
def leastExponent : Int := -1074

/-- Reads the three fields of a double: one bit of sign, eleven of exponent, fifty-two of fraction. -/
def Binary64.ofBits (bits : Nat) : Binary64 :=
  let negative := decide (Nat.pow 2 63 ≤ bits)
  let biased : Nat := bits / Nat.pow 2 52 % Nat.pow 2 11
  let fraction := bits % Nat.pow 2 52
  if biased = Nat.pow 2 11 - 1 then
    if fraction = 0 then .infinite negative else .notNumber
  else if biased = 0 then .finite negative fraction leastExponent
  else .finite negative (Nat.pow 2 52 + fraction) (leastExponent + (biased : Int) - 1)

def Binary64.ofFloat (value : Float) : Binary64 :=
  Binary64.ofBits value.toBits.toNat

def exactFloat (negative : Bool) (significand : Nat) (exponent : Int) : Float :=
  let magnitude := Float.scaleB (Float.ofNat significand) exponent
  if negative then -magnitude else magnitude

/-- A double that is no number. -/
def notNumber : Float := 0.0 / 0.0

/--
The remainder of a division that is cut off toward zero. It has the sign of the dividend, is nearer
to zero than the divisor, and is exact: on the finer of the two grids both numbers are whole, and so
is the remainder, which is no larger than the number that is on the finer grid.
-/
def remainder (dividend divisor : Float) : Float :=
  match Binary64.ofFloat dividend, Binary64.ofFloat divisor with
  | .notNumber, _ | _, .notNumber | .infinite _, _ => notNumber
  | .finite .., .infinite _ => dividend
  | .finite negative significand exponent, .finite _ significand' exponent' =>
    if significand' = 0 then notNumber
    else
      let grid := min exponent exponent'
      let whole := significand * Nat.pow 2 (exponent - grid).toNat
      let whole' := significand' * Nat.pow 2 (exponent' - grid).toNat
      exactFloat negative (whole % whole') grid

end PcmOutput.Decimal
