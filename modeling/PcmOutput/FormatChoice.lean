import PcmOutput.DeviceCode
import PcmOutput.SampleFormat

/-!
# The format of a stream

Which format a device is asked for, and in which format the source then delivers: a compressed stream
as it is where the device takes one, else floating point numbers for floating point numbers, else wide
whole numbers where the device takes them, else whole numbers of sixteen bits.
-/

set_option autoImplicit false

namespace PcmOutput

/-- The format code a device is asked for, and the sample format that goes with it. -/
structure FormatChoice where
  code : Int
  granted : SampleFormat
deriving DecidableEq, Repr

def passthroughLevel : Int := 34

def wideIntegerLevel : Int := 31

/-- The format for what is requested, at an API level. -/
def FormatChoice.select (requested : SampleFormat) (apiLevel : Int) : FormatChoice :=
  if passthroughLevel ≤ apiLevel ∧ requested.isPassthrough then ⟨FormatCode.compressed, requested⟩
  else if requested.isFloat then ⟨FormatCode.float, .float⟩
  else if requested.isInteger ∧ 2 < requested.bytes ∧ wideIntegerLevel ≤ apiLevel then
    ⟨FormatCode.int32, .s32⟩
  else ⟨FormatCode.int16, .s16⟩

end PcmOutput
