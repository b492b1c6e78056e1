/-!
# Numerals

Whole numbers written with ASCII digits and a sign. A numeral has at least one digit, may have
leading zeros, and is refused as a whole when its value leaves the range asked for. A plus sign is
always allowed; a minus sign only where the range admits negative numbers.
-/

set_option autoImplicit false

namespace PcmOutput.Text

def digit? (character : Char) : Option Nat :=
  if '0' ≤ character ∧ character ≤ '9' then some (character.toNat - '0'.toNat) else none

/-- The value of a hexadecimal digit, of either case. -/
def hexDigit? (character : Char) : Option Nat :=
  if '0' ≤ character ∧ character ≤ '9' then some (character.toNat - '0'.toNat)
  else if 'a' ≤ character ∧ character ≤ 'f' then some (character.toNat - 'a'.toNat + 10)
  else if 'A' ≤ character ∧ character ≤ 'F' then some (character.toNat - 'A'.toNat + 10)
  else none

/-- The value of decimal digits read after the digits of `value`. -/
def digitsFrom? (value : Nat) : List Char → Option Nat
  | [] => some value
  | character :: rest =>
    match digit? character with
    | some digit => digitsFrom? (10 * value + digit) rest
    | none => none

def digits? : List Char → Option Nat
  | [] => none
  | characters => digitsFrom? 0 characters

/-- A number from 0 to `high`: an optional plus sign, then digits. -/
def natural? (high : Nat) (characters : List Char) : Option Nat :=
  let unsigned := match characters with
    | '+' :: rest => rest
    | _ => characters
  (digits? unsigned).filter (· ≤ high)

/-- A number from `low` to `high`: an optional sign, then digits. -/
def integer? (low high : Int) (characters : List Char) : Option Int :=
  let value := match characters with
    | '+' :: rest => (digits? rest).map Int.ofNat
    | '-' :: rest => (digits? rest).map fun magnitude => -Int.ofNat magnitude
    | _ => (digits? characters).map Int.ofNat
  value.filter fun number => decide (low ≤ number ∧ number ≤ high)

/-- The least and the greatest number of 32 bits with a sign. -/
def int32Low : Int := -2147483648
@[inherit_doc int32Low] def int32High : Int := 2147483647

/-- A numeral in the range of 32 bits with a sign. -/
def int32? (text : String) : Option Int :=
  integer? int32Low int32High text.toList

/-- A numeral in the range of 64 bits without a sign. -/
def natural64? (text : String) : Option Nat :=
  natural? 18446744073709551615 text.toList

theorem natural?_le {high : Nat} {characters : List Char} {number : Nat}
    (read : natural? high characters = some number) : number ≤ high := by
  simpa using (Option.filter_eq_some_iff.mp read).2

theorem integer?_range {low high : Int} {characters : List Char} {number : Int}
    (read : integer? low high characters = some number) : low ≤ number ∧ number ≤ high := by
  simpa using (Option.filter_eq_some_iff.mp read).2

end PcmOutput.Text
