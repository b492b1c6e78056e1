import PcmOutput.Text.Unprintable

/-!
# Quoted text

A text between double quotes, as the player writes the cause of its failure. The quote and the
backslash get a backslash in front, the common controls have short escapes, and any other character
without a visible form is written as its code point in braces. A single quote stands as it is.
-/

set_option autoImplicit false

namespace PcmOutput.Text

/-- The code point of a character in lower-case hexadecimal digits between braces, after its mark. -/
def codeInBraces (character : Char) : List Char :=
  '\\' :: 'u' :: '\x7b' :: (Nat.toDigits 16 character.toNat ++ ['\x7d'])

def quoteCharacter (character : Char) : List Char :=
  match character with
  | '\x00' => ['\\', '0']
  | '\t' => ['\\', 't']
  | '\r' => ['\\', 'r']
  | '\n' => ['\\', 'n']
  | '"' => ['\\', '"']
  | '\\' => ['\\', '\\']
  | _ =>
    if isUnprintable character then codeInBraces character else [character]

def quoted (text : String) : String :=
  String.ofList ('"' :: (text.toList.flatMap quoteCharacter ++ ['"']))

end PcmOutput.Text
