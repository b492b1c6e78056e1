import PcmOutput.Proofs.Watched

/-!
# The course of a transition

What passes between an output and its device while a stream is brought through a transition: the request,
and after an accepted one the waits, all but the last of which report the transient state.
-/

set_option autoImplicit false

namespace PcmOutput

variable {δ τ : Type}

abbrev Transition.waited (transition : Transition) (stream : StreamHandle) (timeoutNanos : Int)
    (answer : Except Int Int) : DeviceEvent :=
  .answered (.waitForChange stream transition.transient timeoutNanos) answer

abbrev Transition.requested (transition : Transition) (stream : StreamHandle) (code : Int) : DeviceEvent :=
  .answered (.request stream transition) code

/-- The waits for the final state, at most a number of them, and what they come to. -/
inductive Confirmation (stream : StreamHandle) (transition : Transition) (timeoutNanos : Int) :
    Nat → List DeviceEvent → Except OutputError Unit → Prop where
  | exhausted {text} : Confirmation stream transition timeoutNanos 0 [] (.error (.transport transition.name text))
  | failed {waits code text} :
      Confirmation stream transition timeoutNanos (waits + 1)
        [transition.waited stream timeoutNanos (.error code)] (.error (.transport transition.name text))
  | reached {waits} :
      Confirmation stream transition timeoutNanos (waits + 1)
        [transition.waited stream timeoutNanos (.ok transition.target)] (.ok ())
  | elsewhere {waits state text} : state ≠ transition.target → state ≠ transition.transient →
      Confirmation stream transition timeoutNanos (waits + 1)
        [transition.waited stream timeoutNanos (.ok state)] (.error (.transport transition.name text))
  | again {waits rest result} : Confirmation stream transition timeoutNanos waits rest result →
      Confirmation stream transition timeoutNanos (waits + 1)
        (transition.waited stream timeoutNanos (.ok transition.transient) :: rest) result

/-- The request of a transition with the waits after it, and what they come to. -/
inductive Transit (stream : StreamHandle) (transition : Transition) (timeoutNanos : Int) :
    List DeviceEvent → Except OutputError Unit → Prop where
  | refused {code text} : ResultCode.succeeded code = false →
      Transit stream transition timeoutNanos [transition.requested stream code]
        (.error (.transport transition.name text))
  | accepted {code waits result} : ResultCode.succeeded code = true →
      Confirmation stream transition timeoutNanos Transition.maxWaits waits result →
      Transit stream transition timeoutNanos (transition.requested stream code :: waits) result

variable {api : DeviceApi (WatchedDevice δ)} {stream : StreamHandle} {transition : Transition}
  {timeoutNanos : Int}

theorem confirm_course (reports : api.Reports) (waits : Nat) (before : Output (WatchedDevice δ) τ) :
    Ends (confirm api stream transition timeoutNanos waits).run before fun result after =>
      ∃ events, Dealt before events after ∧
        Confirmation stream transition timeoutNanos waits events result := by
  induction waits generalizing before with
  | zero =>
      apply Ends.always (stateText_dealt api _ before)
      intro text after quiet
      exact Ends.failed ⟨[], quiet, .exhausted⟩
  | succ waits ih =>
      apply Ends.always (call_dealt reports _ before)
      intro answer heard asked
      cases answer with
      | error code =>
          apply Ends.always (resultText_dealt api code heard)
          intro text after quiet
          exact Ends.failed ⟨_, asked.silently quiet, .failed⟩
      | ok state =>
          simp only
          split
          · rename_i reached
            subst reached
            apply Ends.always (stateText_dealt api _ heard)
            intro text told quiet
            apply Ends.alwaysDone (note_dealt _ _ told)
            intro _ after noted
            exact ⟨_, (asked.silently quiet).silently noted, .reached⟩
          · rename_i unreached
            split
            · rename_i passing
              subst passing
              apply (ih heard).weaken
              intro result after course
              obtain ⟨events, dealt, rest⟩ := course
              exact ⟨_, asked.trans dealt, .again rest⟩
            · rename_i elsewhere
              apply Ends.always (stateText_dealt api state heard)
              intro text after quiet
              exact Ends.failed ⟨_, asked.silently quiet, .elsewhere unreached elsewhere⟩

theorem transit_course (reports : api.Reports) (before : Output (WatchedDevice δ) τ) :
    Ends (transit api stream transition timeoutNanos (pure ())).run before fun result after =>
      ∃ events, Dealt before events after ∧ Transit stream transition timeoutNanos events result := by
  apply Ends.always (call_dealt reports _ before)
  intro code heard asked
  split
  · rename_i accepted
    change Ends (confirm api stream transition timeoutNanos Transition.maxWaits).run heard _
    apply (confirm_course reports _ heard).weaken
    intro result after course
    obtain ⟨waits, dealt, confirmation⟩ := course
    exact ⟨_, asked.trans dealt, .accepted accepted confirmation⟩
  · rename_i refused
    apply Ends.always (resultText_dealt api code heard)
    intro text after quiet
    exact Ends.failed ⟨_, asked.silently quiet, .refused (by simpa using refused)⟩

end PcmOutput
