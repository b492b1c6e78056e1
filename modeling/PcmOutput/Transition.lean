import PcmOutput.DeviceCode

/-!
# Transitions of a stream

A stream is asked to start or to pause. It passes through a transient state and is done in a final one.
-/

set_option autoImplicit false

namespace PcmOutput

/-- A change of state that a stream can be asked for. -/
inductive Transition
  | start | pause
deriving DecidableEq, Repr

namespace Transition

/-- The name of the operation, as error texts use it. -/
def name : Transition → String
  | .start => "start"
  | .pause => "pause"

/-- The state a stream passes through on its way. -/
def transient : Transition → Int
  | .start => StateCode.starting
  | .pause => StateCode.pausing

/-- The state in which the change is done. -/
def target : Transition → Int
  | .start => StateCode.started
  | .pause => StateCode.paused

/-- How often a stream is waited for before a change counts as failed. -/
def maxWaits : Nat := 8

theorem transient_ne_target (transition : Transition) : transition.transient ≠ transition.target := by
  cases transition <;> decide

end Transition

end PcmOutput
