/-!
# Blank characters

Blank means the Unicode property White_Space. Keys, option values and channel maps are read
after their blank ends are taken off; nothing else counts as blank, so a zero width space stays.
-/

set_option autoImplicit false

namespace PcmOutput.Text

/-- The Unicode property White_Space: twenty-five code points. -/
def isBlank (character : Char) : Bool :=
  let code := character.toNat
  (0x09 ≤ code && code ≤ 0x0D) || code == 0x20 || code == 0x85 || code == 0xA0 || code == 0x1680 ||
    (0x2000 ≤ code && code ≤ 0x200A) || code == 0x2028 || code == 0x2029 || code == 0x202F ||
    code == 0x205F || code == 0x3000

/-- The characters from the first one that is not blank to the last one that is not. -/
def trimCharacters (characters : List Char) : List Char :=
  ((characters.dropWhile isBlank).reverse.dropWhile isBlank).reverse

def trim (text : String) : String :=
  String.ofList (trimCharacters text.toList)

/-- A character that is not blank is where taking off blanks ends. -/
theorem dropWhile_isBlank_of_forall {characters : List Char}
    (sound : ∀ character ∈ characters, isBlank character = false) :
    characters.dropWhile isBlank = characters := by
  cases characters with
  | nil => rfl
  | cons first rest => simp [sound first List.mem_cons_self]

/-- Of characters between blanks, those without blanks are left. -/
theorem trimCharacters_padded {before characters after : List Char}
    (leading : ∀ character ∈ before, isBlank character = true)
    (sound : ∀ character ∈ characters, isBlank character = false)
    (trailing : ∀ character ∈ after, isBlank character = true) :
    trimCharacters (before ++ characters ++ after) = characters := by
  have fromFront : (before ++ characters ++ after).dropWhile isBlank = (characters ++ after).dropWhile isBlank := by
    rw [List.append_assoc, List.dropWhile_append_of_pos leading]
  cases characters with
  | nil =>
    have nothing : after.dropWhile isBlank = [] := by
      simpa using @List.dropWhile_append_of_pos _ isBlank after [] trailing
    rw [trimCharacters, fromFront, List.nil_append, nothing]
    rfl
  | cons first rest =>
    have stays : (first :: rest ++ after).dropWhile isBlank = first :: rest ++ after := by
      simp [sound first List.mem_cons_self]
    have fromBack : (after.reverse ++ (first :: rest).reverse).dropWhile isBlank = (first :: rest).reverse := by
      rw [List.dropWhile_append_of_pos fun character among => trailing character (List.mem_reverse.mp among)]
      exact dropWhile_isBlank_of_forall fun character among => sound character (List.mem_reverse.mp among)
    rw [trimCharacters, fromFront, stays, List.reverse_append, fromBack, List.reverse_reverse]

theorem trim_of_forall {text : String} (sound : ∀ character ∈ text.toList, isBlank character = false) :
    trim text = text := by
  have backward : ∀ character ∈ text.toList.reverse, isBlank character = false :=
    fun character among => sound character (List.mem_reverse.mp among)
  rw [trim, trimCharacters, dropWhile_isBlank_of_forall sound, dropWhile_isBlank_of_forall backward,
    List.reverse_reverse, String.ofList_toList]

/-- What is left begins with a character that is not blank, and ends with one. -/
theorem trimCharacters_trimCharacters (characters : List Char) :
    trimCharacters (trimCharacters characters) = trimCharacters characters := by
  have again (characters : List Char) :
      (characters.dropWhile isBlank).dropWhile isBlank = characters.dropWhile isBlank := by
    have stops := List.head?_dropWhile_not isBlank characters
    cases left : characters.dropWhile isBlank with
    | nil => rfl
    | cons first rest =>
      rw [left] at stops
      rw [List.dropWhile_cons_of_neg (by simpa using stops)]
  have begins : (trimCharacters characters).dropWhile isBlank = trimCharacters characters := by
    have stops := List.head?_dropWhile_not isBlank characters
    have leading : trimCharacters characters <+: characters.dropWhile isBlank := by
      rw [← List.reverse_reverse (characters.dropWhile isBlank), trimCharacters, List.reverse_prefix]
      exact List.dropWhile_suffix _
    obtain ⟨after, whole⟩ := leading
    cases left : trimCharacters characters with
    | nil => rfl
    | cons first rest =>
      rw [← whole, left] at stops
      rw [List.dropWhile_cons_of_neg (by simpa using stops)]
  rw [trimCharacters, begins, trimCharacters, List.reverse_reverse, again]

theorem trim_trim (text : String) : trim (trim text) = trim text := by
  rw [trim, trim, String.toList_ofList, trimCharacters_trimCharacters]

theorem trim_padded {before text after : String}
    (leading : ∀ character ∈ before.toList, isBlank character = true)
    (sound : ∀ character ∈ text.toList, isBlank character = false)
    (trailing : ∀ character ∈ after.toList, isBlank character = true) :
    trim (before ++ text ++ after) = text := by
  rw [trim, String.toList_append, String.toList_append, trimCharacters_padded leading sound trailing,
    String.ofList_toList]

end PcmOutput.Text
