import Mathlib.Data.Nat.Digits.Defs
import PcmOutput.Text.Blank
import PcmOutput.Text.Numeral

/-!
# Literals, and the ends of a text

What is read as a numeral, by its digits and its sign, and what is left of a text without the blanks at its ends. Both
are told by the characters alone, apart from how they are looked for.
-/

set_option autoImplicit false

namespace PcmOutput.Text

/-! ## Numerals -/

def Digits (characters : List Char) : Prop :=
  characters ≠ [] ∧ ∀ character ∈ characters, character.isDigit = true

/-- Decimal digits with or without a sign, and their value. -/
inductive Numeral : List Char → Int → Prop
  | unsigned {digits} : Digits digits → Numeral digits (Nat.ofDigitChars 10 digits 0)
  | plus {digits} : Digits digits → Numeral ('+' :: digits) (Nat.ofDigitChars 10 digits 0)
  | minus {digits} : Digits digits → Numeral ('-' :: digits) (-Nat.ofDigitChars 10 digits 0)

theorem digit?_eq (character : Char) :
    digit? character = if character.isDigit then some (character.toNat - '0'.toNat) else none := by
  have same : ('0' ≤ character ∧ character ≤ '9') ↔ character.isDigit = true := by
    simp only [Char.isDigit, Bool.and_eq_true, decide_eq_true_eq, Char.le_def, ge_iff_le]
  simp only [digit?, same]

theorem digitsFrom?_eq (value : Nat) (characters : List Char) :
    digitsFrom? value characters =
      if characters.all Char.isDigit then some (Nat.ofDigitChars 10 characters value) else none := by
  induction characters generalizing value with
  | nil => rfl
  | cons character rest ih =>
      rw [digitsFrom?, digit?_eq, List.all_cons, Nat.ofDigitChars_cons]
      cases character.isDigit with
      | false => rfl
      | true => simpa using ih _

theorem digits?_eq_some_iff {characters : List Char} {number : Nat} :
    digits? characters = some number ↔ Digits characters ∧ Nat.ofDigitChars 10 characters 0 = number := by
  cases characters with
  | nil => simp [digits?, Digits]
  | cons first rest =>
      change digitsFrom? 0 (first :: rest) = some number ↔ _
      rw [digitsFrom?_eq]
      simp [Digits]

theorem Digits.unsigned {first : Char} {rest : List Char} (digits : Digits (first :: rest)) :
    first ≠ '+' ∧ first ≠ '-' := by
  have digit : first.isDigit = true := digits.2 first List.mem_cons_self
  constructor
  · intro same
    subst same
    contradiction
  · intro same
    subst same
    contradiction

theorem integer?_eq_some_iff {low high number : Int} {characters : List Char} :
    integer? low high characters = some number ↔ Numeral characters number ∧ low ≤ number ∧ number ≤ high := by
  unfold integer?
  rw [Option.filter_eq_some_iff, decide_eq_true_eq]
  apply and_congr_left
  intro _
  constructor
  · intro read
    split at read
    · obtain ⟨value, digits, rfl⟩ := Option.map_eq_some_iff.mp read
      obtain ⟨sound, rfl⟩ := digits?_eq_some_iff.mp digits
      exact .plus sound
    · obtain ⟨value, digits, rfl⟩ := Option.map_eq_some_iff.mp read
      obtain ⟨sound, rfl⟩ := digits?_eq_some_iff.mp digits
      exact .minus sound
    · obtain ⟨value, digits, rfl⟩ := Option.map_eq_some_iff.mp read
      obtain ⟨sound, rfl⟩ := digits?_eq_some_iff.mp digits
      exact .unsigned sound
  · intro numeral
    have valued {digits : List Char} (sound : Digits digits) :
        digits? digits = some (Nat.ofDigitChars 10 digits 0) := digits?_eq_some_iff.mpr ⟨sound, rfl⟩
    cases numeral with
    | unsigned sound =>
        split
        · exact absurd rfl sound.unsigned.1
        · exact absurd rfl sound.unsigned.2
        · rw [valued sound]
          rfl
    | plus sound =>
        change (digits? _).map _ = _
        rw [valued sound]
        rfl
    | minus sound =>
        change (digits? _).map _ = _
        rw [valued sound]
        rfl

/-- A numeral whose value fits 32 bits with a sign. -/
def Int32Literal (text : String) (number : Int) : Prop :=
  Numeral text.toList number ∧ -2 ^ 31 ≤ number ∧ number ≤ 2 ^ 31 - 1

theorem int32?_eq_some_iff {text : String} {number : Int} :
    int32? text = some number ↔ Int32Literal text number := by
  rw [int32?, integer?_eq_some_iff]
  rfl

theorem int32?_eq_none_iff {text : String} : int32? text = none ↔ ∀ number, ¬ Int32Literal text number := by
  simp only [Option.eq_none_iff_forall_ne_some, ne_eq, int32?_eq_some_iff]

/-- Decimal digits with or without a plus sign, whose value fits 64 bits without a sign. -/
def Natural64Literal (text : String) (number : Nat) : Prop :=
  ∃ digits, Digits digits ∧ (text.toList = digits ∨ text.toList = '+' :: digits) ∧
    Nat.ofDigitChars 10 digits 0 = number ∧ number ≤ 2 ^ 64 - 1

theorem natural64?_eq_some_iff {text : String} {number : Nat} :
    natural64? text = some number ↔ Natural64Literal text number := by
  unfold natural64? natural? Natural64Literal
  rw [Option.filter_eq_some_iff, decide_eq_true_eq]
  constructor
  · rintro ⟨read, within⟩
    split at read
    · rename_i rest signed
      obtain ⟨sound, valued⟩ := digits?_eq_some_iff.mp read
      exact ⟨rest, sound, .inr signed, valued, within⟩
    · obtain ⟨sound, valued⟩ := digits?_eq_some_iff.mp read
      exact ⟨text.toList, sound, .inl rfl, valued, within⟩
  · rintro ⟨digits, sound, written, valued, within⟩
    refine ⟨?_, within⟩
    have read : digits? digits = some number := digits?_eq_some_iff.mpr ⟨sound, valued⟩
    cases written with
    | inl plain =>
        rw [plain]
        split
        · -- Digits do not begin with a sign.
          exact absurd rfl sound.unsigned.1
        · exact read
    | inr signed =>
        rw [signed]
        exact read

/-! ## Ends of a text -/

/-- What is left of a text when as many blanks as possible are taken off both of its ends. -/
structure IsCore (text core : String) : Prop where
  within : ∃ before after : String, text = before ++ core ++ after ∧
    (∀ character ∈ before.toList, isBlank character = true) ∧ ∀ character ∈ after.toList, isBlank character = true
  begins : ∀ first, core.toList.head? = some first → isBlank first = false
  ends : ∀ last, core.toList.getLast? = some last → isBlank last = false

theorem head?_dropWhile_isBlank {characters : List Char} {first : Char}
    (begins : (characters.dropWhile isBlank).head? = some first) : isBlank first = false := by
  have stops := List.head?_dropWhile_not isBlank characters
  rw [begins] at stops
  simpa using stops

theorem trim_core (text : String) : IsCore text (trim text) := by
  let left := text.toList.dropWhile isBlank
  let core := trimCharacters text.toList
  let after := (left.reverse.takeWhile isBlank).reverse
  have front : text.toList.takeWhile isBlank ++ left = text.toList := List.takeWhile_append_dropWhile
  have back : core ++ after = left := by
    change (left.reverse.dropWhile isBlank).reverse ++ (left.reverse.takeWhile isBlank).reverse = left
    rw [← List.reverse_append, List.takeWhile_append_dropWhile, List.reverse_reverse]
  constructor
  · refine ⟨String.ofList (text.toList.takeWhile isBlank), String.ofList after, ?_, ?_, ?_⟩
    · rw [trim, ← String.ofList_append, ← String.ofList_append, List.append_assoc, back, front, String.ofList_toList]
    · intro character among
      rw [String.toList_ofList] at among
      exact List.all_eq_true.mp List.all_takeWhile character among
    · intro character among
      rw [String.toList_ofList, List.mem_reverse] at among
      exact List.all_eq_true.mp List.all_takeWhile character among
  · intro first begins
    rw [trim, String.toList_ofList] at begins
    have same : left.head? = some first := by
      rw [← back, List.head?_append, begins]
      rfl
    exact head?_dropWhile_isBlank same
  · intro last ends
    rw [trim, String.toList_ofList, trimCharacters, List.getLast?_reverse] at ends
    exact head?_dropWhile_isBlank ends

end PcmOutput.Text
