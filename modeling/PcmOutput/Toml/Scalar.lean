import PcmOutput.Decimal.Reader
import PcmOutput.Toml.Lexeme
import PcmOutput.Toml.Value

/-!
# Numbers and moments

Whole numbers of 64 bits in four bases, floating point numbers, and points in time. Single low lines may
stand between the digits of a number.
-/

set_option autoImplicit false

namespace PcmOutput.Toml

def isDigit (character : Char) : Bool :=
  (Text.digit? character).isSome

/-- The least and the greatest whole number of a profile. -/
def leastInteger : Int := -9223372036854775808
@[inherit_doc leastInteger] def greatestInteger : Int := 9223372036854775807

/-- The nanoseconds of a fraction of a second; digits after the ninth do not count. -/
def nanoseconds (digits : List Char) : Nat :=
  let kept := digits.take 9
  (Text.digits? kept).getD 0 * Nat.pow 10 (9 - kept.length)

namespace Reader

/-- Digits of some base, with single low lines between them, which are left out. -/
def digitGroups (test : Char → Bool) : Reader (List Char) := do
  let first ← many1 test
  let limit := (← rest).length
  let groups ← repeated (do only '_'; many1 test) limit
  return first ++ groups.flatten

/-- A sign, if there is one. -/
def sign : Reader (Option Char) :=
  opt (one fun character => character == '+' || character == '-')

/-- Decimal digits that do not start with a zero, or a zero alone. -/
def wholePart : Reader (List Char) := do
  if (← peek?) == some '0' then
    only '0'
    return ['0']
  digitGroups isDigit

def based (mark : String) (base : Nat) (test : Char → Bool) : Reader Int := do
  exactly mark
  let digits ← digitGroups test
  let values ← found (digits.mapM Text.hexDigit?)
  let number : Int := (values.foldl (fun number digit => base * number + digit) 0 : Nat)
  require (number ≤ greatestInteger)
  return number

def decimalInteger : Reader Int := do
  let negative := (← sign) == some '-'
  let magnitude : Nat ← found (Text.digits? (← wholePart))
  let number : Int := if negative then -magnitude else magnitude
  require (leastInteger ≤ number && number ≤ greatestInteger)
  return number

def integer : Reader Int :=
  based "0x" 16 (fun character => (Text.hexDigit? character).isSome) <|>
    based "0o" 8 (fun character => '0' ≤ character && character ≤ '7') <|>
    based "0b" 2 (fun character => '0' ≤ character && character ≤ '1') <|>
    decimalInteger

/-- The exponent of a floating point number, with its letter. -/
def exponentPart : Reader (List Char) := do
  let letter ← one fun character => character == 'e' || character == 'E'
  let exponentSign ← sign
  return letter :: (exponentSign.toList ++ (← digitGroups isDigit))

/-- A point and the digits after it. -/
def fractionPart : Reader (List Char) := do
  only '.'
  return '.' :: (← digitGroups isDigit)

/-- A number with a fraction or an exponent; one too great for a double is refused. -/
def decimalFloat : Reader Float := do
  let numberSign ← sign
  let whole ← wholePart
  let fraction ← opt fractionPart
  let exponent ← if fraction.isSome then opt exponentPart else some <$> exponentPart
  let characters := numberSign.toList ++ whole ++ fraction.getD [] ++ exponent.getD []
  let value ← found (Decimal.float? (String.ofList characters))
  require (value != 1.0 / 0.0)
  return value

/-- An infinity, or what is no number. -/
def namedFloat : Reader Float := do
  let negative := (← sign) == some '-'
  let infinite : Reader Float := do exactly "inf"; return 1.0 / 0.0
  let undefined : Reader Float := do exactly "nan"; return 0.0 / 0.0
  let value ← infinite <|> undefined
  return if negative then -value else value

def float : Reader Float :=
  decimalFloat <|> namedFloat

/-- A number of exactly `count` digits. -/
def fixedDigits (count : Nat) : Reader Nat := do
  let digits := (← rest).take count
  require (digits.length == count)
  let number ← found (Text.digits? digits)
  set ((← rest).drop count)
  return number

def date : Reader Date := do
  let year ← fixedDigits 4
  only '-'
  let month ← fixedDigits 2
  require (1 ≤ month && month ≤ 12)
  only '-'
  let day ← fixedDigits 2
  require (1 ≤ day && day ≤ daysInMonth year month)
  return ⟨year, month, day⟩

/-- A time of the day; the last second of a minute may be a leap second. -/
def time : Reader Time := do
  let hour ← fixedDigits 2
  only ':'
  let minute ← fixedDigits 2
  only ':'
  let second ← fixedDigits 2
  require (hour ≤ 23 && minute ≤ 59 && second ≤ 60)
  let fraction ← opt (do only '.'; many1 isDigit)
  return ⟨hour, minute, second, nanoseconds (fraction.getD [])⟩

def offset : Reader Offset := do
  match ← one fun _ => true with
  | 'Z' | 'z' => return .universal
  | '+' => return .minutes (← distance)
  | '-' => return .minutes (-(← distance))
  | _ => failure
where
  distance : Reader Int := do
    let hours ← fixedDigits 2
    only ':'
    let minutes ← fixedDigits 2
    require (hours ≤ 23 && minutes ≤ 59)
    return (60 * hours + minutes : Nat)

/-- A day with a time of the day after a `T` or a space. -/
def dateAndTime : Reader Moment := do
  let day ← date
  let _ ← one fun character => character == 'T' || character == 't' || character == ' '
  let hours ← time
  return .both day hours (← opt offset)

def moment : Reader Moment :=
  dateAndTime <|> (Moment.date <$> date) <|> (Moment.time <$> time)

def boolean : Reader Bool :=
  (do exactly "true"; return true) <|> (do exactly "false"; return false)

/-- A value that holds no others. -/
def scalar : Reader Value :=
  (Value.text <$> text) <|> (Value.moment <$> moment) <|> (Value.float <$> float) <|>
    (Value.integer <$> integer) <|> (Value.boolean <$> boolean)

end Reader

end PcmOutput.Toml
