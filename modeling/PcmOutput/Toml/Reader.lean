/-!
# Readers

A reader takes characters from the front of a text and gives a value, or refuses the text. Readers are
put together in order and as alternatives, and an alternative starts where the one before it did.
-/

set_option autoImplicit false

namespace PcmOutput.Toml

/-- Takes characters from the front, or refuses. -/
abbrev Reader := StateT (List Char) Option

namespace Reader

/-- What is left of the text. -/
def rest : Reader (List Char) := get

/-- The next character, which stays where it is. -/
def peek? : Reader (Option Char) := fun characters => some (characters.head?, characters)

def one (test : Char → Bool) : Reader Char
  | character :: rest => if test character then some (character, rest) else none
  | [] => none

/-- Takes exactly this character. -/
def only (expected : Char) : Reader Unit := do
  let _ ← one (· == expected)

/-- Takes exactly these characters. -/
def exactly (expected : String) : Reader Unit := fun characters =>
  let wanted := expected.toList
  if wanted.isPrefixOf characters then some ((), characters.drop wanted.length) else none

/-- Takes all characters up to the first that fails the test. -/
def many (test : Char → Bool) : Reader (List Char) := fun characters =>
  some (characters.span test)

/-- Takes one character or more, up to the first that fails the test. -/
def many1 (test : Char → Bool) : Reader (List Char) := do
  let first ← one test
  return first :: (← many test)

/-- Takes what the reader takes, or nothing. -/
def opt {value : Type} (reader : Reader value) : Reader (Option value) :=
  (some <$> reader) <|> pure none

/-- Refuses unless the condition holds. -/
def require (condition : Bool) : Reader Unit :=
  if condition then pure () else failure

/-- Gives the value that a partial function found. -/
def found {value : Type} : Option value → Reader value
  | some value => pure value
  | none => failure

/-- Uses the reader again and again while it takes something, at most `limit` times. -/
def repeated {value : Type} (reader : Reader value) : (limit : Nat) → Reader (List value)
  | 0 => pure []
  | limit + 1 => do
    match ← opt reader with
    | some first => return first :: (← repeated reader limit)
    | none => pure []

/-- Uses the reader once, and again after every separator. -/
def separated {value : Type} (separator : Char) (reader : Reader value) : Reader (List value) := do
  let first ← reader
  let limit := (← rest).length
  return first :: (← repeated (do only separator; reader) limit)

end Reader

end PcmOutput.Toml
