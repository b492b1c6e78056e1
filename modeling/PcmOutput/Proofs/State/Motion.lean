import Mathlib.Data.List.Induction
import PcmOutput.Proofs.Handles.Discipline

/-!
# The motion of a stream

What the device last agreed to do with its open stream, as its own events tell: which request it accepted
last, whether the final state was reported since, and whether a data callback stopped the stream.
-/

set_option autoImplicit false

namespace PcmOutput

inductive Motion
  /-- Nothing was accepted since the stream was opened. -/
  | untouched
  | accepted (transition : Transition)
  | confirmed (transition : Transition)
  /-- A data callback ended what the last request began. -/
  | stopped
deriving DecidableEq

namespace Motion

def after (stream : StreamHandle) (motion : Motion) : DeviceEvent → Motion
  | .answered (.request asked transition) code =>
    if asked = stream ∧ ResultCode.succeeded code = true then .accepted transition else motion
  | .answered (.waitForChange asked ..) (.ok state) =>
    match motion with
    | .accepted transition => if asked = stream ∧ state = transition.target then .confirmed transition else motion
    | _ => motion
  | .calledBack asked .stop => if asked = some stream then .stopped else motion
  | _ => motion

/-- A start was accepted last, and nothing stopped the stream since. -/
def plays : Motion → Bool
  | .accepted .start | .confirmed .start => true
  | _ => false

end Motion

/-- The open stream, which is the one opened last, with its motion. -/
structure Track where
  stream : StreamHandle
  motion : Motion
deriving DecidableEq

def tracked : Option Track → DeviceEvent → Option Track
  | _, .answered (.openStream _) (.ok stream) => some ⟨stream, .untouched⟩
  | some track, .answered (.closeStream stream) _ => if stream = track.stream then none else some track
  | some track, event => some { track with motion := track.motion.after track.stream event }
  | none, _ => none

def track? (events : List DeviceEvent) : Option Track :=
  events.foldl tracked none

/-- The device plays its open stream. -/
def playing (events : List DeviceEvent) : Bool :=
  (track? events).any fun track => track.motion.plays

/-- What the open stream was asked for last is accepted, but neither confirmed nor undone. -/
def unconfirmed (transition : Transition) (events : List DeviceEvent) : Bool :=
  (track? events).any fun track => track.motion = .accepted transition

/-- An event that ends what an accepted request began. -/
def DeviceEvent.supersedes (stream : StreamHandle) : DeviceEvent → Bool
  | .answered (.openStream _) (.ok _) => true
  | .answered (.closeStream closed) _ => closed = stream
  | .answered (.request asked _) code => asked = stream && ResultCode.succeeded code
  | .calledBack called .stop => called = some stream
  | _ => false

variable {stream : StreamHandle} {motion : Motion} {event : DeviceEvent} {events : List DeviceEvent}

theorem track?_append (event : DeviceEvent) : track? (events ++ [event]) = tracked (track? events) event := by
  simp [track?]

theorem tracked_unsuperseded (other : event.supersedes stream = false) :
    ∃ motion', tracked (some ⟨stream, motion⟩) event = some ⟨stream, motion'⟩ ∧ motion'.plays = motion.plays := by
  cases event with
  | answered call answer =>
      cases call with
      | openStream builder =>
          cases answer with
          | error code => exact ⟨_, rfl, rfl⟩
          | ok opened => simp [DeviceEvent.supersedes] at other
      | closeStream closed =>
          have open' : closed ≠ stream := by simpa [DeviceEvent.supersedes] using other
          exact ⟨motion, by simp [tracked, open'], rfl⟩
      | request asked transition =>
          have refused : ¬(asked = stream ∧ ResultCode.succeeded answer = true) := by
            simpa [DeviceEvent.supersedes] using other
          exact ⟨motion, by simp [tracked, Motion.after, refused], rfl⟩
      | waitForChange asked state timeoutNanos =>
          cases answer with
          | error code => exact ⟨_, rfl, rfl⟩
          | ok reached =>
              refine ⟨_, rfl, ?_⟩
              cases motion with
              | accepted transition =>
                  simp only [Motion.after]
                  split
                  · cases transition <;> rfl
                  · rfl
              | _ => rfl
      | _ => exact ⟨_, rfl, rfl⟩
  | calledBack called result =>
      cases result with
      | «continue» => exact ⟨_, rfl, rfl⟩
      | stop =>
          have another : called ≠ some stream := by simpa [DeviceEvent.supersedes] using other
          exact ⟨motion, by simp [tracked, Motion.after, another], rfl⟩

/-- An event that leaves a stream playing either supersedes nothing, or is the start itself. -/
theorem tracked_plays {track : Track} (reached : tracked (some track) event = some ⟨stream, motion⟩)
    (plays : motion.plays = true) : track.stream = stream ∧
      (event.supersedes stream = false ∨
        ∃ code, event = .answered (.request stream .start) code ∧ ResultCode.succeeded code = true) := by
  obtain ⟨tracked', motion'⟩ := track
  cases event with
  | answered call answer =>
      cases call with
      | openStream builder =>
          cases answer with
          | error code =>
              simp [tracked] at reached
              exact ⟨reached.1, .inl rfl⟩
          | ok opened =>
              simp [tracked] at reached
              obtain ⟨_, same⟩ := reached
              subst same
              cases plays
      | closeStream closed =>
          simp [tracked] at reached
          obtain ⟨other, same, _⟩ := reached
          subst same
          exact ⟨rfl, .inl (by simpa [DeviceEvent.supersedes] using other)⟩
      | request asked transition =>
          simp [tracked, Motion.after] at reached
          obtain ⟨same, moved⟩ := reached
          subst same
          refine ⟨rfl, ?_⟩
          split at moved
          · rename_i accepted
            obtain ⟨same, accepted⟩ := accepted
            subst same
            subst moved
            cases transition with
            | start => exact .inr ⟨answer, rfl, accepted⟩
            | pause => cases plays
          · rename_i refused
            exact .inl (by simpa [DeviceEvent.supersedes] using refused)
      | waitForChange asked state timeoutNanos =>
          cases answer with
          | error code =>
              simp [tracked] at reached
              exact ⟨reached.1, .inl rfl⟩
          | ok state =>
              simp [tracked] at reached
              exact ⟨reached.1, .inl rfl⟩
      | _ =>
          simp [tracked] at reached
          exact ⟨reached.1, .inl rfl⟩
  | calledBack called result =>
      cases result with
      | «continue» =>
          simp [tracked] at reached
          exact ⟨reached.1, .inl rfl⟩
      | stop =>
          simp [tracked, Motion.after] at reached
          obtain ⟨same, moved⟩ := reached
          subst same
          refine ⟨rfl, .inl ?_⟩
          split at moved
          · subst moved
            cases plays
          · rename_i other
            simpa [DeviceEvent.supersedes] using other

theorem tracked_none_plays (reached : tracked none event = some ⟨stream, motion⟩) : motion = .untouched := by
  cases event with
  | answered call answer =>
      cases call with
      | openStream builder =>
          cases answer with
          | error code => cases reached
          | ok opened =>
              cases reached
              rfl
      | _ => cases reached
  | calledBack called result => cases reached

theorem started_of_plays (reached : track? events = some ⟨stream, motion⟩) (plays : motion.plays = true) :
    ∃ before code rest, events = before ++ .answered (.request stream .start) code :: rest ∧
      ResultCode.succeeded code = true ∧ (track? before).map Track.stream = some stream ∧
        ∀ event ∈ rest, event.supersedes stream = false := by
  induction events using List.reverseRecOn generalizing motion with
  | nil => cases reached
  | append_singleton earlier event ih =>
      rw [track?_append] at reached
      cases before : track? earlier with
      | none =>
          rw [before] at reached
          rw [tracked_none_plays reached] at plays
          cases plays
      | some track =>
          rw [before] at reached
          obtain ⟨same, course⟩ := tracked_plays reached plays
          rcases course with undisturbed | ⟨code, started, accepted⟩
          · obtain ⟨motion', onward, unchanged⟩ : ∃ motion', tracked (some ⟨stream, track.motion⟩) event =
                some ⟨stream, motion'⟩ ∧ motion'.plays = track.motion.plays := tracked_unsuperseded undisturbed
            have whole : track = ⟨stream, track.motion⟩ := by rw [← same]
            rw [whole, onward] at reached
            cases reached
            obtain ⟨start, code, rest, split, accepted, opened, quiet⟩ :=
              ih (before.trans (congrArg some whole)) (unchanged ▸ plays)
            refine ⟨start, code, rest ++ [event], by simp [split], accepted, opened, ?_⟩
            intro later member
            rcases List.mem_append.mp member with member | member
            · exact quiet later member
            · exact List.mem_singleton.mp member ▸ undisturbed
          · subst started
            exact ⟨earlier, code, [], rfl, accepted, by rw [before, ← same]; rfl, by simp⟩

theorem plays_of_undisturbed (plays : motion.plays = true) (quiet : ∀ event ∈ events, event.supersedes stream = false) :
    ∃ motion', events.foldl tracked (some ⟨stream, motion⟩) = some ⟨stream, motion'⟩ ∧ motion'.plays = true := by
  induction events generalizing motion with
  | nil => exact ⟨motion, rfl, plays⟩
  | cons event rest ih =>
      obtain ⟨motion', onward, unchanged⟩ : ∃ motion', tracked (some ⟨stream, motion⟩) event =
          some ⟨stream, motion'⟩ ∧ motion'.plays = motion.plays :=
        tracked_unsuperseded (quiet event List.mem_cons_self)
      rw [List.foldl_cons, onward]
      exact ih (unchanged.trans plays) fun later member => quiet later (List.mem_cons_of_mem _ member)

/--
The device plays when the last request it accepted on the stream that is open now is a start, and the stream was
neither closed nor stopped by a data callback since.
-/
theorem playing_iff : playing events = true ↔ ∃ stream before code rest,
    events = before ++ .answered (.request stream .start) code :: rest ∧ ResultCode.succeeded code = true ∧
      (track? before).map Track.stream = some stream ∧ ∀ event ∈ rest, event.supersedes stream = false := by
  constructor
  · intro plays
    obtain ⟨⟨stream, motion⟩, reached, plays⟩ := (Option.any_eq_true _ _).mp plays
    exact ⟨stream, started_of_plays reached plays⟩
  · intro started
    obtain ⟨stream, before, code, rest, split, accepted, opened, quiet⟩ := started
    obtain ⟨⟨stream', motion⟩, reached, same⟩ := Option.map_eq_some_iff.mp opened
    cases same
    have asked : (Motion.accepted .start).plays = true := rfl
    obtain ⟨motion', onward, plays⟩ := plays_of_undisturbed asked quiet
    have tracks : track? events = some ⟨stream', motion'⟩ := by
      rw [split, track?, List.foldl_append, ← track?, reached]
      simpa [tracked, Motion.after, accepted] using onward
    simp [playing, tracks, plays]

end PcmOutput
