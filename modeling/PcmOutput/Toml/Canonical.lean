import PcmOutput.Toml.Scalar

/-!
# Canonical values

In canonical form every table is sorted by its keys, and a table that carries a moment is that moment. A
table carries a moment if the key for moments is the first that was set in it; no other entry of such a
table counts.
-/

set_option autoImplicit false

namespace PcmOutput.Toml

/-- The key under which a table carries a moment. -/
def momentKey : String := "$__toml_private_datetime"

/-- The moment that a whole text is the written form of. -/
def moment? (text : String) : Option Moment :=
  let whole : Reader Moment := do
    let found ← Reader.moment
    Reader.endOfText
    return found
  (whole.run text.toList).map Prod.fst

/-- What stands for the moment in a table that carries one. -/
def carried? : List (String × Value) → Option Value
  | (key, value) :: _ => if key = momentKey then some value else none
  | [] => none

/-- Puts an entry where its key belongs in the order of keys. -/
def insertSorted (entry : String × Value) : List (String × Value) → List (String × Value)
  | [] => [entry]
  | first :: rest =>
    if entry.1 < first.1 then entry :: first :: rest else first :: insertSorted entry rest

/-- Nothing is lost and nothing comes in beside the entry. -/
theorem insertSorted_perm (entry : String × Value) (entries : List (String × Value)) :
    (insertSorted entry entries).Perm (entry :: entries) := by
  induction entries with
  | nil => exact .refl _
  | cons first rest inner =>
    unfold insertSorted
    split
    · exact .refl _
    · exact (inner.cons first).trans (.swap entry first rest)

mutual

/-- The canonical form of a value; there is none if a table carries anything but the text of a moment. -/
def Value.canonical? : Value → Option Value
  | .array items => (canonicalItems? items).map .array
  | .table entries =>
    match carried? entries with
    | some (.text text) => (moment? text).map .moment
    | some _ => none
    | none => (canonicalEntries? entries).map .table
  | value => some value

def canonicalItems? : List Value → Option (List Value)
  | [] => some []
  | value :: rest => do
    let item ← value.canonical?
    return item :: (← canonicalItems? rest)

/-- The entries of a table with canonical values, sorted by key. -/
def canonicalEntries? : List (String × Value) → Option (List (String × Value))
  | [] => some []
  | (key, value) :: rest => do
    let item ← value.canonical?
    return insertSorted (key, item) (← canonicalEntries? rest)

end

end PcmOutput.Toml
