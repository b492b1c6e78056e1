import PcmOutput.StreamFormat

/-!
# Sources

Where the samples come from. A source is told the format of the stream before it is read, and fills a
buffer each time the device wants frames.
-/

set_option autoImplicit false

namespace PcmOutput

/-- What a read gave: the frames of sound in it, and whether the source has ended. -/
structure Pull where
  frames : Nat
  eof : Bool
deriving DecidableEq, Repr

/-- The outcome of a read: the filled buffer, what it holds, and the source afterwards. -/
structure Reading (τ : Type) where
  buffer : List UInt8
  pull : Pull
  source : τ

/-- A source with states `τ`. -/
class AudioSource (τ : Type) where
  prepare : StreamFormat → τ → τ
  /-- Fills a buffer for some frames, the last of which becomes audible at the deadline. -/
  read : (buffer : List UInt8) → (frames : Nat) → (deadline : Int) → τ → Reading τ

end PcmOutput
