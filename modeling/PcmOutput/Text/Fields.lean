/-!
# Fields of a text

A text is cut at every separator, or once at the first one, or at a leading mark.
-/

set_option autoImplicit false

namespace PcmOutput.Text

/-- The pieces between the separators: always one more than there are separators. -/
def fields (separator : Char) : List Char → List (List Char)
  | [] => [[]]
  | character :: rest =>
    if character = separator then [] :: fields separator rest
    else
      match fields separator rest with
      | [] => [[character]]
      | piece :: pieces => (character :: piece) :: pieces

/-- What stands before and after the first separator, if there is one. -/
def cutAtFirst? (separator : Char) : List Char → Option (List Char × List Char)
  | [] => none
  | character :: rest =>
    if character = separator then some ([], rest)
    else (cutAtFirst? separator rest).map fun (before, after) => (character :: before, after)

/-- What follows `mark` at the start of the characters, if they start with it. -/
def after? (mark : List Char) (characters : List Char) : Option (List Char) :=
  if mark.isPrefixOf characters then some (characters.drop mark.length) else none

/-- The text without one leading `mark`. -/
def withoutMark (mark : String) (text : String) : String :=
  match after? mark.toList text.toList with
  | some rest => String.ofList rest
  | none => text

theorem fields_ne_nil (separator : Char) (characters : List Char) :
    fields separator characters ≠ [] := by
  cases characters with
  | nil => simp [fields]
  | cons character rest =>
    simp only [fields]
    split
    · simp
    · split <;> simp

/-- Without a separator the characters are the only field. -/
theorem fields_eq_singleton {separator : Char} {characters : List Char}
    (absent : separator ∉ characters) : fields separator characters = [characters] := by
  induction characters with
  | nil => rfl
  | cons character rest previous =>
    simp only [List.mem_cons, not_or] at absent
    have different : ¬ character = separator := fun same => absent.1 same.symm
    simp [fields, different, previous absent.2]

/-- A field without separators, a separator and more characters: the field comes first. -/
theorem fields_append {separator : Char} {piece : List Char} (rest : List Char)
    (absent : separator ∉ piece) :
    fields separator (piece ++ separator :: rest) = piece :: fields separator rest := by
  induction piece with
  | nil => simp [fields]
  | cons character others previous =>
    simp only [List.mem_cons, not_or] at absent
    have different : ¬ character = separator := fun same => absent.1 same.symm
    simp [fields, different, previous absent.2]

/-- Pieces without separators are the fields of the text that they make up between separators. -/
theorem fields_intercalate {separator : Char} {pieces : List (List Char)} (nonempty : pieces ≠ [])
    (absent : ∀ piece ∈ pieces, separator ∉ piece) :
    fields separator ([separator].intercalate pieces) = pieces := by
  induction pieces with
  | nil => contradiction
  | cons piece rest previous =>
    have first : separator ∉ piece := absent piece List.mem_cons_self
    cases rest with
    | nil => simpa using fields_eq_singleton first
    | cons next others =>
      rw [List.intercalate_cons_cons, List.append_assoc, List.singleton_append, fields_append _ first,
        previous (List.cons_ne_nil next others) fun piece among => absent piece (List.mem_cons_of_mem _ among)]

end PcmOutput.Text
