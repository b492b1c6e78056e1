import PcmOutput.Decimal.Reader

/-!
# Frequencies

How often a tone swings. The sign is kept beside the number, since a double that is no number carries a
sign as well but does not tell it.
-/

set_option autoImplicit false

namespace PcmOutput

/-- A frequency in hertz, and whether it carries a minus sign. -/
structure Frequency where
  hertz : Float
  negative : Bool := false

def Frequency.ofText? (text : String) : Option Frequency :=
  (Decimal.float? text).map fun hertz =>
    { hertz := hertz, negative := text.toList.head? == some '-' }

end PcmOutput
