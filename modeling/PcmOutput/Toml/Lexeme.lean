import PcmOutput.Text.Numeral
import PcmOutput.Toml.Reader

/-!
# Lexemes of a profile

Blanks, comments, line ends, keys and texts. A control character other than the tab stands nowhere but
at the end of a line, and a carriage return only before a line feed.
-/

set_option autoImplicit false

namespace PcmOutput.Toml

def isSpace (character : Char) : Bool :=
  character == ' ' || character == '\t'

/-- A tab, or a character that is no control. -/
def isPlain (character : Char) : Bool :=
  character == '\t' || (' ' ≤ character && character != '\x7f')

def isBare (character : Char) : Bool :=
  character.isAlphanum || character == '_' || character == '-'

/-- What the parts of a key, and the arrays and tables that lie in each other, have to be fewer than. -/
def depthLimit : Nat := 80

namespace Reader

def spaces : Reader Unit := do
  let _ ← many isSpace

/-- A line feed, with or without a carriage return before it. -/
def newline : Reader Unit :=
  exactly "\n" <|> exactly "\x0d\n"

def endOfText : Reader Unit := do
  require (← rest).isEmpty

/-- A number sign and the rest of the line. -/
def comment : Reader Unit := do
  only '#'
  let _ ← many isPlain

def lineEnd : Reader Unit := do
  spaces
  let _ ← opt comment
  newline <|> endOfText

/-- Blanks, line ends and comments, as they may stand inside an array. -/
def layout : Reader Unit := do
  let limit := (← rest).length
  let blank : Reader Unit := do let _ ← many1 isSpace
  let _ ← repeated (blank <|> newline <|> (do comment; newline)) limit

/-- The code point written with exactly `count` hexadecimal digits. -/
def codePoint (count : Nat) : Reader Char := do
  let digits := (← rest).take count
  require (digits.length == count)
  let values ← found (digits.mapM Text.hexDigit?)
  let code := values.foldl (fun number digit => 16 * number + digit) 0
  set ((← rest).drop count)
  if code.isValidChar then return Char.ofNat code else failure

/-- The character an escape stands for, after its backslash. -/
def escape : Reader Char := do
  match ← one fun _ => true with
  | 'b' => return '\x08'
  | 't' => return '\t'
  | 'n' => return '\n'
  | 'f' => return '\x0c'
  | 'r' => return '\x0d'
  | '"' => return '"'
  | '\\' => return '\\'
  | 'u' => codePoint 4
  | 'U' => codePoint 8
  | _ => failure

def basicPart : Reader Char :=
  one (fun character => isPlain character && character != '"' && character != '\\') <|>
    (do only '\\'; escape)

/-- A text between double quotes, on one line. -/
def basicText : Reader String := do
  only '"'
  let limit := (← rest).length
  let characters ← repeated basicPart limit
  only '"'
  return String.ofList characters

/-- A text between single quotes, on one line and without escapes. -/
def literalText : Reader String := do
  only '\''
  let characters ← many fun character => isPlain character && character != '\''
  only '\''
  return String.ofList characters

/-- A backslash at the end of a line takes the line end and all blanks after it away. -/
def foldedLine : Reader Unit := do
  only '\\'
  spaces
  newline
  let limit := (← rest).length
  let blank : Reader Unit := do let _ ← many1 isSpace
  let _ ← repeated (blank <|> newline) limit

/-- One or two quotes that something other than a quote follows. -/
def innerQuotes (quote : Char) : Reader (List Char) := do
  let quotes ← many1 (· == quote)
  require (quotes.length ≤ 2 && !(← rest).isEmpty)
  return quotes

/-- A part of a text that may go over several lines. -/
def longPart (quote : Char) : Reader (List Char) :=
  let plain := one fun character =>
    isPlain character && character != quote && (quote != '"' || character != '\\')
  let folded : Reader (List Char) := do foldedLine; return []
  let escaped : Reader (List Char) := do only '\\'; return [← escape]
  let lineFeed : Reader (List Char) := do newline; return ['\n']
  let backslash := if quote == '"' then folded <|> escaped else failure
  (List.singleton <$> plain) <|> backslash <|> lineFeed <|> innerQuotes quote

/--
A text between three quotes on each side. A line end right after the first ones does not count, and up
to two more quotes may stand right before the last ones.
-/
def longText (quote : Char) : Reader String := do
  let fence := String.ofList [quote, quote, quote]
  exactly fence
  let _ ← opt newline
  let limit := (← rest).length
  let parts ← repeated (longPart quote) limit
  let quotes ← many1 (· == quote)
  require (3 ≤ quotes.length && quotes.length ≤ 5)
  return String.ofList (parts.flatten ++ quotes.drop 3)

/-- A text in any of the four ways to write one. -/
def text : Reader String :=
  longText '"' <|> basicText <|> longText '\'' <|> literalText

def keyPart : Reader String :=
  basicText <|> literalText <|> (String.ofList <$> many1 isBare)

/-- A key: its parts between points, with blanks around any of them. -/
def key : Reader (List String) := do
  let parts ← separated '.' do
    spaces
    let part ← keyPart
    spaces
    return part
  require (parts.length < depthLimit)
  return parts

end Reader

end PcmOutput.Toml
