import PcmOutput.Toml.Scalar
import PcmOutput.Toml.Tree

/-!
# Profiles

A profile is a list of statements, one to a line: keys with their values, and headers that open the
table in which the keys after them are set.
-/

set_option autoImplicit false

namespace PcmOutput.Toml

/-- A key before its last part, and the last part. -/
def splitKey (path : List String) : Option (List String × String) :=
  match path.reverse with
  | last :: before => some (before.reverse, last)
  | [] => none

def inlineEntries : List (List String × String × Value) → Branch → Option Branch
  | [], entries => some entries
  | (path, last, value) :: rest, entries => do
    inlineEntries rest (← Branch.assign? path last value .stated entries)

/-- One statement of a profile. -/
inductive Statement
  | assign (path : List String) (key : String) (value : Value)
  | header (path : List String) (key : String)
  | seriesHeader (path : List String) (key : String)

namespace Reader

/-- A key and the value that `value` reads after the equals sign. -/
def keyValue (value : Reader Value) : Reader (List String × String × Value) := do
  let (path, last) ← found (splitKey (← key))
  only '='
  spaces
  return (path, last, ← value)

/-- A value, with at most `depth` arrays and tables in each other. -/
def value : (depth : Nat) → Reader Value
  | 0 => scalar
  | depth + 1 => do
    match ← peek? with
    | some '[' =>
      only '['
      let item : Reader Value := do
        layout
        let found ← value depth
        layout
        return found
      let items ← opt (separated ',' item)
      if items.isSome then
        let _ ← opt (only ',')
      layout
      only ']'
      return .array (items.getD [])
    | some '{' =>
      only '\x7b'
      spaces
      let pair : Reader (List String × String × Value) := do
        let read ← keyValue (value depth)
        spaces
        return read
      let pairs ← opt (separated ',' pair)
      only '\x7d'
      let entries ← found (inlineEntries (pairs.getD []) [])
      return .table (finishEntries entries)
    | _ => scalar

/-- A header, with the mark that opens it and the one that closes it. -/
def headerKey (opening closing : String) : Reader (List String × String) := do
  exactly opening
  let (path, last) ← found (splitKey (← key))
  exactly closing
  lineEnd
  return (path, last)

/-- A header or a key with its value, up to the end of the line. -/
def statement : Reader Statement := do
  if (← rest).take 2 == ['[', '['] then
    let (path, last) ← headerKey "[[" "]]"
    return .seriesHeader path last
  if (← peek?) == some '[' then
    let (path, last) ← headerKey "[" "]"
    return .header path last
  let (path, last, read) ← keyValue (value (depthLimit - 1))
  lineEnd
  return .assign path last read

/-- A line: a statement, or nothing but blanks and a comment. -/
def line : Reader (Option Statement) := do
  spaces
  let read ← match ← peek? with
    | none => failure
    | some '\n' | some '\x0d' => do newline; return none
    | some '#' => do comment; (newline <|> endOfText); return none
    | some _ => some <$> statement
  return read

/-- The statements of a whole text; a byte order mark in front does not count. -/
def statements : Reader (List Statement) := do
  let _ ← opt (only '\ufeff')
  let limit := (← rest).length
  let lines ← repeated line limit
  spaces
  endOfText
  return lines.filterMap id

end Reader

/-- The table that is open, and all that is set so far. -/
structure Progress where
  table : List String
  root : Branch

def Progress.step? (progress : Progress) : Statement → Option Progress
  | .header path last => do
    return ⟨path ++ [last], ← Branch.state? path last progress.root⟩
  | .seriesHeader path last => do
    return ⟨path ++ [last], ← Branch.extend? path last progress.root⟩
  | .assign path last value => do
    let root ← Branch.descend? .implied (Branch.assign? path last value) progress.table .stated
      progress.root
    return { progress with root := root }

/-- The table a text stands for; nothing if the text is no profile. -/
def parse? (text : String) : Option (List (String × Value)) := do
  let (read, _) ← Reader.statements.run text.toList
  let finished ← read.foldlM Progress.step? ⟨[], []⟩
  return finishEntries finished.root

end PcmOutput.Toml
