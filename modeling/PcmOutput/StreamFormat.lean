import PcmOutput.ChannelMap.Basic
import PcmOutput.SampleFormat

/-!
# Stream formats

What a stream plays once it is open: the format of its samples, the speaker of each channel and the
frames it takes in a second.
-/

set_option autoImplicit false

namespace PcmOutput

/-- The format, the channels and the rate of an open stream. -/
structure StreamFormat where
  format : SampleFormat
  channels : ChannelMap
  sampleRate : Nat
deriving DecidableEq, Repr

namespace StreamFormat

/-- The bytes of one frame: a sample for every channel. -/
def frameBytes (format : StreamFormat) : Nat :=
  format.format.bytes * format.channels.size

theorem frameBytes_pos (format : StreamFormat) : 0 < format.frameBytes :=
  Nat.mul_pos format.format.bytes_pos (List.length_pos_iff.mpr format.channels.nonempty)

end StreamFormat

end PcmOutput
