import PcmOutput.Decimal.Shortest
import PcmOutput.Toml.Canonical

/-!
# Values as text

How a value of a profile is written on one line, for the message that refuses it. A text is written in
the first of these ways that can hold it: between double quotes, between single quotes, between three
double quotes, between three single quotes; where none can, it is written with escapes.
-/

set_option autoImplicit false

namespace PcmOutput.Toml

/-- The number with zeros in front, at least `width` digits wide. -/
def padded (width number : Nat) : String :=
  let digits := Nat.toDigits 10 number
  String.ofList (List.replicate (width - digits.length) '0' ++ digits)

def Date.render (date : Date) : String :=
  padded 4 date.year ++ "-" ++ padded 2 date.month ++ "-" ++ padded 2 date.day

/-- The written form of a time of the day; zeros at the end of a fraction are left out. -/
def Time.render (time : Time) : String :=
  let whole := padded 2 time.hour ++ ":" ++ padded 2 time.minute ++ ":" ++ padded 2 time.second
  if time.nanosecond = 0 then whole
  else
    let digits := (padded 9 time.nanosecond).toList.reverse.dropWhile (· == '0')
    whole ++ "." ++ String.ofList digits.reverse

def Offset.render : Offset → String
  | .universal => "Z"
  | .minutes east =>
    let mark := if east < 0 then "-" else "+"
    mark ++ padded 2 (east.natAbs / 60) ++ ":" ++ padded 2 (east.natAbs % 60)

def Moment.render : Moment → String
  | .date day => day.render
  | .time hours => hours.render
  | .both day hours offset =>
    day.render ++ "T" ++ hours.render ++ (offset.map Offset.render).getD ""

/-- The written form of a floating point number, which always has a point. -/
def renderFloat (number : Float) : String :=
  match Decimal.Binary64.ofFloat number with
  | .notNumber => "nan"
  | .infinite negative => if negative then "-inf" else "inf"
  | .finite negative significand exponent =>
    let magnitude := (Decimal.shortest significand exponent).positional
    if negative then "-" ++ magnitude else magnitude

def longestRun (wanted : Char) (characters : List Char) : Nat :=
  (characters.foldl
    (fun (run : Nat × Nat) character =>
      if character = wanted then (run.1 + 1, max run.2 (run.1 + 1)) else (0, run.2))
    (0, 0)).2

/-- Whether the character can be written by an escape only. -/
def isControl (character : Char) : Bool :=
  !isPlain character && character != '\n'

/-- The code point of a character in four capital digits or more, after a backslash. -/
def codeEscape (character : Char) : List Char :=
  let digits := (Nat.toDigits 16 character.toNat).map Char.toUpper
  '\\' :: 'u' :: (List.replicate (4 - digits.length) '0' ++ digits)

/-- The escape of a character that has one of its own. -/
def shortEscape? (character : Char) : Option (List Char) :=
  match character with
  | '\x08' => some ['\\', 'b']
  | '\t' => some ['\\', 't']
  | '\n' => some ['\\', 'n']
  | '\x0c' => some ['\\', 'f']
  | '\x0d' => some ['\\', 'r']
  | '\\' => some ['\\', '\\']
  | _ => none

/--
The characters of a text between double quotes. Up to `allowed` quotes in a row stand as they are, and
the next one is escaped; an escape starts the counting anew. Line feeds stand as they are if `long`.
-/
def escapedFrom (allowed : Nat) (long : Bool) (quotes : Nat) : List Char → List Char
  | [] => []
  | character :: rest =>
    if character = '"' then
      if quotes < allowed then '"' :: escapedFrom allowed long (quotes + 1) rest
      else '\\' :: '"' :: escapedFrom allowed long 0 rest
    else if character = '\n' ∧ long then '\n' :: escapedFrom allowed long 0 rest
    else
      match shortEscape? character with
      | some escape => escape ++ escapedFrom allowed long 0 rest
      | none =>
        let written := if isControl character then codeEscape character else [character]
        written ++ escapedFrom allowed long 0 rest

def basic (characters : List Char) : String :=
  "\"" ++ String.ofList (escapedFrom 0 false 0 characters) ++ "\""

/-- A line end after the first quotes of a long text, which holds line ends itself. -/
def longStart (characters : List Char) : String :=
  if characters.contains '\n' then "\n" else ""

def longBasic (characters : List Char) : String :=
  "\"\"\"" ++ longStart characters ++ String.ofList (escapedFrom 2 true 0 characters) ++ "\"\"\""

def literal (characters : List Char) : String :=
  "'" ++ String.ofList characters ++ "'"

def longLiteral (characters : List Char) : String :=
  "'''" ++ longStart characters ++ String.ofList characters ++ "'''"

def renderText (text : String) : String :=
  let characters := text.toList
  let control := characters.any isControl
  let backslash := characters.contains '\\'
  let lines := characters.contains '\n'
  let double := longestRun '"' characters
  let single := longestRun '\'' characters
  if !control && !backslash && double == 0 && !lines then basic characters
  else if !control && single == 0 && !lines then literal characters
  else if !control && !backslash && double ≤ 2 then longBasic characters
  else if !control && single ≤ 2 then longLiteral characters
  else if lines then longBasic characters
  else basic characters

/-- The written form of a key, without quotes where it needs none. -/
def renderKey (key : String) : String :=
  let characters := key.toList
  let control := characters.any isControl || characters.contains '\n'
  if !characters.isEmpty && characters.all isBare then key
  else if !control && !characters.contains '\\' && !characters.contains '"' then basic characters
  else if !control && !characters.contains '\'' then literal characters
  else basic characters

/-- Items between marks, with commas between them. -/
def enclosed (opening closing : String) (items : List String) : String :=
  opening ++ ", ".intercalate items ++ closing

mutual

def Value.render : Value → String
  | .text content => renderText content
  | .integer number => toString number
  | .float number => renderFloat number
  | .boolean truth => if truth then "true" else "false"
  | .moment point => point.render
  | .array items => enclosed "[" "]" (renderItems items)
  | .table [] => "\x7b\x7d"
  | .table entries => enclosed "\x7b " " \x7d" (renderEntries entries)

def renderItems : List Value → List String
  | [] => []
  | value :: rest => value.render :: renderItems rest

def renderEntries : List (String × Value) → List String
  | [] => []
  | (key, value) :: rest => (renderKey key ++ " = " ++ value.render) :: renderEntries rest

end

/-- The written form of a value that stands alone: a moment is written as a table of its text. -/
def Value.renderAlone : Value → String
  | .moment point => enclosed "\x7b " " \x7d" [renderKey momentKey ++ " = " ++ renderText point.render]
  | value => value.render

end PcmOutput.Toml
