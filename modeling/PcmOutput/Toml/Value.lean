/-!
# Values of a profile

What a profile in the TOML format holds: texts, numbers, truth values, moments, arrays and tables. The
entries of a table stand in the order in which they were set.
-/

set_option autoImplicit false

namespace PcmOutput.Toml

/-- A day of the calendar. -/
structure Date where
  year : Nat
  month : Nat
  day : Nat
deriving DecidableEq, Repr

/-- A time of the day. -/
structure Time where
  hour : Nat
  minute : Nat
  second : Nat
  nanosecond : Nat
deriving DecidableEq, Repr

/-- The distance of a local time from universal time. -/
inductive Offset
  | universal
  | minutes (east : Int)
deriving DecidableEq, Repr

/-- A day, a time of the day, or both with or without an offset. -/
inductive Moment
  | date (date : Date)
  | time (time : Time)
  | both (date : Date) (time : Time) (offset : Option Offset)
deriving DecidableEq, Repr

/-- A value of a profile. -/
inductive Value
  | text (text : String)
  | integer (number : Int)
  | float (number : Float)
  | boolean (truth : Bool)
  | moment (moment : Moment)
  | array (items : List Value)
  | table (entries : List (String × Value))

/-- The days of a month, in a leap year where the year is one. -/
def daysInMonth (year month : Nat) : Nat :=
  let leap := year % 4 == 0 && (year % 100 != 0 || year % 400 == 0)
  if month = 2 then (if leap then 29 else 28)
  else if month = 4 ∨ month = 6 ∨ month = 9 ∨ month = 11 then 30
  else 31

end PcmOutput.Toml
