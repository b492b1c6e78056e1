import PcmOutput.Text.Quoted

/-!
# Text for a terminal

Some controls steer a terminal rather than appear on it. A text that is shown names their codes in
place of them, and keeps every other character, so that it cannot change what else is on the screen.
-/

set_option autoImplicit false

namespace PcmOutput.Text

/-- Whether the character is a control of the second set, which some terminals obey. -/
def isHighControl (character : Char) : Bool :=
  0x80 ≤ character.toNat && character.toNat ≤ 0x9f

def shownCharacter (character : Char) : List Char :=
  match character with
  | '\x07' => ['\\', 'x', '0', '7']
  | '\x08' => ['\\', 'x', '0', '8']
  | '\x0c' => ['\\', 'x', '0', 'c']
  | '\x1b' => ['\\', 'x', '1', 'b']
  | '\x7f' => ['\\', 'x', '7', 'f']
  | _ => if isHighControl character then codeInBraces character else [character]

def shown (text : String) : String :=
  String.ofList (text.toList.flatMap shownCharacter)

end PcmOutput.Text
