/-!
# Presentation deadlines

The monotonic time, in nanoseconds, at which the last frame of a buffer becomes audible: the present
time, plus the duration of the buffer, plus the duration of what is still queued in the device. Times
are kept within 64 bits with a sign: a time that would leave them stays at the end it passed.
-/

set_option autoImplicit false

namespace PcmOutput

def nanosPerSecond : Int := 1000000000

def earliest : Int := -9223372036854775808

def latest : Int := 9223372036854775807

/-- The nearest number between `earliest` and `latest`. -/
def clampTime (time : Int) : Int :=
  max earliest (min time latest)

/-- The duration of some frames at a rate, cut off toward zero; at the rate zero it is zero. -/
def framesToNanos (frames : Int) (rate : Nat) : Int :=
  if rate = 0 then 0 else clampTime ((frames * nanosPerSecond).tdiv rate)

/-- What a reading of the monotonic clock gives. -/
inductive ClockReading
  | time (seconds nanoseconds : Int)
  | unavailable
deriving DecidableEq, Repr

/-- The reading in nanoseconds; without a reading it is zero. -/
def ClockReading.nanos : ClockReading → Int
  | .time seconds nanoseconds => clampTime (clampTime (seconds * nanosPerSecond) + nanoseconds)
  | .unavailable => 0

/-- The frames that were written and not presented; a presentation ahead of the writing counts as none. -/
def backlog (written presented : Int) : Int :=
  max (clampTime (written - presented)) 0

/-- The time at which the last of `frames` frames becomes audible. -/
def presentationDeadline (now frames written presented : Int) (rate : Nat) : Int :=
  clampTime (clampTime (now + framesToNanos frames rate) + framesToNanos (backlog written presented) rate)

theorem earliest_le_clampTime (time : Int) : earliest ≤ clampTime time :=
  Int.le_max_left ..

theorem clampTime_le_latest (time : Int) : clampTime time ≤ latest := by
  simp only [clampTime, earliest, latest]
  omega

theorem clampTime_mono {first second : Int} (ordered : first ≤ second) :
    clampTime first ≤ clampTime second := by
  simp only [clampTime, earliest, latest]
  omega

theorem clampTime_of_mem {time : Int} (low : earliest ≤ time) (high : time ≤ latest) :
    clampTime time = time := by
  simp only [clampTime, earliest, latest] at *
  omega

end PcmOutput
