import PcmOutput.Text.Numeral

/-!
# Reading decimal fractions

The texts that stand for a double: an optional sign, then digits with an optional point and an
optional exponent, with a digit on at least one side of the point; or, in any case of letters, `inf`,
`infinity` or `nan`. The value is the double nearest to the decimal.
-/

set_option autoImplicit false

namespace PcmOutput.Decimal

/-- The characters of a run of digits, and what follows it. -/
def digitRun (characters : List Char) : List Char × List Char :=
  characters.span fun character => (Text.digit? character).isSome

/--
The double nearest to `digits * 10 ^ exponent`. Beyond four hundred places the answer is infinite or
zero whatever the digits are, so no larger power of ten is computed.
-/
def nearestFloat (digits : Nat) (exponent : Int) : Float :=
  let places : Int := (Nat.toDigits 10 digits).length + exponent
  if digits = 0 then 0.0
  else if 400 < places then 1.0 / 0.0
  else if places < -400 then 0.0
  else if 0 ≤ exponent then Float.ofScientific digits false exponent.toNat
  else Float.ofScientific digits true (-exponent).toNat

/-- The exponent part: nothing, or `e`, an optional sign and digits up to the end. -/
def exponent? : List Char → Option Int
  | [] => some 0
  | 'e' :: rest | 'E' :: rest =>
    match rest with
    | '+' :: digits => (Text.digits? digits).map Int.ofNat
    | '-' :: digits => (Text.digits? digits).map fun magnitude => -Int.ofNat magnitude
    | digits => (Text.digits? digits).map Int.ofNat
  | _ => none

def unsignedFloat? (characters : List Char) : Option Float :=
  let (whole, afterWhole) := digitRun characters
  let (fraction, afterFraction) := match afterWhole with
    | '.' :: rest => digitRun rest
    | _ => ([], afterWhole)
  do
    let digits ← Text.digits? (whole ++ fraction)
    let exponent ← exponent? afterFraction
    return nearestFloat digits (exponent - fraction.length)

/-- The named values, in lower case. -/
def namedFloat? (name : String) : Option Float :=
  match name with
  | "inf" | "infinity" => some (1.0 / 0.0)
  | "nan" => some (0.0 / 0.0)
  | _ => none

def float? (text : String) : Option Float :=
  let characters := text.toList
  let (negative, unsigned) := match characters with
    | '-' :: rest => (true, rest)
    | '+' :: rest => (false, rest)
    | _ => (false, characters)
  let magnitude := (namedFloat? (String.ofList (unsigned.map Char.toLower))).or (unsignedFloat? unsigned)
  magnitude.map fun value => if negative then -value else value

end PcmOutput.Decimal
