import Mathlib.Logic.Function.Iterate
import PcmOutput.Proofs.Course.Transit

/-!
# Waiting for a transition

A device that is waited for again and again gives an endless sequence of answers. The sequence alone settles how many
waits a transition takes and what they come to: the first answer that is not the transient state is the last one that
is asked for, and there are at most eight.
-/

set_option autoImplicit false

namespace PcmOutput

variable {δ τ : Type}

/-! ## Answers without end -/

namespace DeviceApi

variable (api : DeviceApi δ) (stream : StreamHandle) (transition : Transition) (timeoutNanos : Int)

/-- What a device answers to the request of a transition. -/
def requestCode (device : δ) : Int :=
  (api.respond (.request stream transition) device).1

def afterRequest (device : δ) : δ :=
  (api.respond (.request stream transition) device).2

/-- The device after it was waited for a number of times. -/
def afterWaits (waits : Nat) (device : δ) : δ :=
  (fun device => (api.respond (.waitForChange stream transition.transient timeoutNanos) device).2)^[waits] device

theorem afterWaits_succ (waits : Nat) (device : δ) :
    api.afterWaits stream transition timeoutNanos (waits + 1) device =
      (api.respond (.waitForChange stream transition.transient timeoutNanos)
        (api.afterWaits stream transition timeoutNanos waits device)).2 :=
  Function.iterate_succ_apply' _ waits device

/-- What a device answers to each of the waits for it, from the first one on. -/
def waitAnswers (device : δ) (turn : Nat) : Except Int Int :=
  (api.respond (.waitForChange stream transition.transient timeoutNanos)
    (api.afterWaits stream transition timeoutNanos turn device)).1

/-- What is made of the last report: done only if it is the final state. -/
def verdict (device : δ) : Except Int Int → Except OutputError Unit
  | .error code => .error (.transport transition.name (api.resultText device code))
  | .ok state =>
    if state = transition.target then .ok ()
    else if state = transition.transient then
      .error (.transport transition.name s!"stream still {api.stateText device transition.transient}")
    else .error (.transport transition.name s!"stream is {api.stateText device state}")

end DeviceApi

namespace Transition

variable (transition : Transition) (answers : Nat → Except Int Int)

/-- The report a wait goes on from: the transient state before the first wait, and then the answer to the last one. -/
def report : Nat → Except Int Int
  | 0 => .ok transition.transient
  | waits + 1 => answers waits

/-- Of all the waits that a limit allows those are made before which only the transient state was reported. -/
def Takes (limit waits : Nat) : Prop :=
  ∀ turn, turn < waits ↔ turn < limit ∧ ∀ earlier < turn, answers earlier = .ok transition.transient

namespace Takes

variable {transition answers} {limit waits others : Nat}

theorem none : transition.Takes answers 0 0 := by
  intro turn
  simp

theorem once (passed : answers 0 ≠ .ok transition.transient) : transition.Takes answers (limit + 1) 1 := by
  intro turn
  cases turn with
  | zero => simp
  | succ turn =>
      constructor
      · intro first
        omega
      · intro allowed
        exact absurd (allowed.2 0 turn.succ_pos) passed

theorem again (passing : answers 0 = .ok transition.transient)
    (rest : transition.Takes (fun turn => answers (turn + 1)) limit waits) :
    transition.Takes answers (limit + 1) (waits + 1) := by
  intro turn
  cases turn with
  | zero => simp
  | succ turn =>
      rw [Nat.add_lt_add_iff_right, Nat.add_lt_add_iff_right, rest turn, Nat.forall_lt_succ_left]
      simp [passing]

theorem unique (first : transition.Takes answers limit waits) (second : transition.Takes answers limit others) :
    waits = others := by
  apply Nat.le_antisymm
  · exact Nat.le_of_not_lt fun more => Nat.lt_irrefl _ ((second others).mpr ((first others).mp more))
  · exact Nat.le_of_not_lt fun more => Nat.lt_irrefl _ ((first waits).mpr ((second waits).mp more))

theorem passing (takes : transition.Takes answers limit waits) (turn : Nat) (earlier : turn + 1 < waits) :
    answers turn = .ok transition.transient :=
  ((takes (turn + 1)).mp earlier).2 turn (Nat.lt_succ_self turn)

/-- The last wait reports the final state exactly if that state follows on transient states within the limit. -/
theorem reports_target_iff (takes : transition.Takes answers limit waits) :
    transition.report answers waits = .ok transition.target ↔
      ∃ passing < limit, (∀ earlier < passing, answers earlier = .ok transition.transient) ∧
        answers passing = .ok transition.target := by
  have apart : (.ok transition.transient : Except Int Int) ≠ .ok transition.target :=
    fun same => transition.transient_ne_target (Except.ok.inj same)
  constructor
  · intro reached
    cases waits with
    | zero => exact absurd reached apart
    | succ waits =>
        obtain ⟨within, before⟩ := (takes waits).mp (Nat.lt_succ_self waits)
        exact ⟨waits, within, before, reached⟩
  · intro happens
    obtain ⟨passing, within, before, reached⟩ := happens
    have made : passing < waits := (takes passing).mpr ⟨within, before⟩
    -- one wait more would have gone on from the final state
    have last : ¬ passing + 1 < waits := fun more => apart ((takes.passing passing more).symm.trans reached)
    obtain rfl : waits = passing + 1 := by omega
    exact reached

end Takes

end Transition

section Confirming

variable (api : DeviceApi δ) (stream : StreamHandle) (transition : Transition) (timeoutNanos : Int)

theorem verdict_ok_iff (device : δ) (last : Except Int Int) :
    api.verdict transition device last = .ok () ↔ last = .ok transition.target := by
  cases last with
  | error code => simp [DeviceApi.verdict]
  | ok state =>
      simp only [DeviceApi.verdict, Except.ok.injEq]
      split
      · rename_i reached
        simp [reached]
      · rename_i elsewhere
        split <;> simp [elsewhere]

theorem verdict_transport (device : δ) (last : Except Int Int) :
    api.verdict transition device last = .ok () ∨
      ∃ text, api.verdict transition device last = .error (.transport transition.name text) := by
  cases last with
  | error code => exact .inr ⟨_, rfl⟩
  | ok state =>
      simp only [DeviceApi.verdict]
      split
      · exact .inl rfl
      · split
        · exact .inr ⟨_, rfl⟩
        · exact .inr ⟨_, rfl⟩

theorem call_answered (request : Call) (before : Output δ τ) :
    Ends (call api request) before fun answer after =>
      answer = (api.respond request before.device).1 ∧ after.device = (api.respond request before.device).2 :=
  ⟨rfl, rfl⟩

/-- The answers settle how often the device is waited for, and the last one settles what it comes to. -/
theorem confirm_settles (limit : Nat) (before : Output δ τ) :
    Ends (confirm api stream transition timeoutNanos limit).run before fun result after =>
      ∃ waits, transition.Takes (api.waitAnswers stream transition timeoutNanos before.device) limit waits ∧
        after.device = api.afterWaits stream transition timeoutNanos waits before.device ∧
        result = api.verdict transition after.device
          (transition.report (api.waitAnswers stream transition timeoutNanos before.device) waits) := by
  induction limit generalizing before with
  | zero =>
      refine ⟨0, .none, rfl, ?_⟩
      simp only [DeviceApi.verdict, Transition.report, transition.transient_ne_target, if_false, if_true]
      rfl
  | succ limit ih =>
      apply Ends.always (call_answered api _ before)
      intro answer heard asked
      obtain ⟨first, moved⟩ := asked
      change answer = api.waitAnswers stream transition timeoutNanos before.device 0 at first
      cases answer with
      | error code =>
          refine ⟨1, .once (by simp [← first]), moved, ?_⟩
          simp only [Transition.report, ← first]
          rfl
      | ok state =>
          simp only
          split
          · rename_i reached
            refine ⟨1, .once (by simp [← first, reached, transition.transient_ne_target.symm]), moved, ?_⟩
            simp only [Transition.report, ← first, DeviceApi.verdict, reached, if_true]
            rfl
          · rename_i unreached
            split
            · rename_i passing
              apply (ih heard).weaken
              intro result after course
              obtain ⟨waits, takes, left, settled⟩ := course
              rw [passing] at first
              rw [moved] at takes left settled
              refine ⟨waits + 1, takes.again first.symm, left, ?_⟩
              rw [settled]
              cases waits with
              | zero => simp only [Transition.report, ← first]
              | succ waits => rfl
            · rename_i elsewhere
              refine ⟨1, .once (by simp [← first, elsewhere]), moved, ?_⟩
              simp only [Transition.report, ← first, DeviceApi.verdict, unreached, elsewhere, if_false]
              rfl

/-- After an accepted request the waits settle the transition; a refused one is not waited for. -/
theorem transit_settles (before : Output δ τ) :
    let code := api.requestCode stream transition before.device
    let requested := api.afterRequest stream transition before.device
    let answers := api.waitAnswers stream transition timeoutNanos requested
    Ends (transit api stream transition timeoutNanos (pure ())).run before fun result after =>
      ∃ waits, transition.Takes answers (if 0 ≤ code then Transition.maxWaits else 0) waits ∧
        after.device = api.afterWaits stream transition timeoutNanos waits requested ∧
        result = api.verdict transition after.device
          (if 0 ≤ code then transition.report answers waits else .error code) := by
  intro code requested answers
  apply Ends.always (call_answered api _ before)
  intro _ heard asked
  obtain ⟨rfl, moved⟩ := asked
  split
  · rename_i accepted
    have positive : 0 ≤ code := of_decide_eq_true accepted
    rw [if_pos positive]
    change Ends (confirm api stream transition timeoutNanos Transition.maxWaits).run heard _
    apply (confirm_settles api stream transition timeoutNanos _ heard).weaken
    intro result after course
    obtain ⟨waits, takes, left, settled⟩ := course
    rw [moved] at takes left settled
    refine ⟨waits, takes, left, ?_⟩
    rw [if_pos positive]
    exact settled
  · rename_i refused
    have negative : ¬ 0 ≤ code := fun positive => refused (show ResultCode.succeeded code from decide_eq_true positive)
    rw [if_neg negative]
    refine ⟨0, .none, moved, ?_⟩
    rw [if_neg negative]
    rfl

/-! ## Waits on a watched device -/

theorem watched_afterWaits (waits : Nat) (device : WatchedDevice δ) :
    (api.watched.afterWaits stream transition timeoutNanos waits device).subject =
        api.afterWaits stream transition timeoutNanos waits device.subject ∧
      (api.watched.afterWaits stream transition timeoutNanos waits device).events = device.events ++
        (List.range waits).map fun turn => transition.waited stream timeoutNanos
          (api.waitAnswers stream transition timeoutNanos device.subject turn) := by
  induction waits with
  | zero => exact ⟨rfl, (List.append_nil _).symm⟩
  | succ waits ih =>
      obtain ⟨subject, events⟩ := ih
      rw [DeviceApi.afterWaits_succ, DeviceApi.afterWaits_succ, ← subject, List.range_succ, List.map_append, ← List.append_assoc, ← events,
        List.map_singleton, DeviceApi.waitAnswers, ← subject]
      exact ⟨rfl, rfl⟩

theorem watched_waitAnswers (device : WatchedDevice δ) :
    api.watched.waitAnswers stream transition timeoutNanos device =
      api.waitAnswers stream transition timeoutNanos device.subject := by
  funext turn
  rw [DeviceApi.waitAnswers, DeviceApi.waitAnswers, ← (watched_afterWaits api stream transition timeoutNanos turn device).1]
  rfl

theorem watched_verdict (device : WatchedDevice δ) (last : Except Int Int) :
    api.watched.verdict transition device last = api.verdict transition device.subject last := by
  cases last <;> rfl

/-- How the waits go on from the result of the request: none at all after a refused one. -/
theorem takes_iff {answers : Nat → Except Int Int} {code : Int} {limit waits : Nat} :
    transition.Takes answers (if 0 ≤ code then limit else 0) waits ↔ ∀ turn, turn < waits ↔
      0 ≤ code ∧ turn < limit ∧ ∀ earlier < turn, answers earlier = .ok transition.transient := by
  unfold Transition.Takes
  split
  · rename_i accepted
    simp only [accepted, true_and]
  · rename_i refused
    simp only [refused, Nat.not_lt_zero, false_and]

theorem reached_iff {answers : Nat → Except Int Int} {code : Int} {limit waits : Nat} (device : δ)
    (takes : transition.Takes answers (if 0 ≤ code then limit else 0) waits) :
    api.verdict transition device (if 0 ≤ code then transition.report answers waits else .error code) = .ok () ↔
      0 ≤ code ∧ ∃ passing < limit, (∀ earlier < passing, answers earlier = .ok transition.transient) ∧
        answers passing = .ok transition.target := by
  rw [verdict_ok_iff]
  split at takes
  · rename_i accepted
    rw [if_pos accepted, takes.reports_target_iff]
    simp only [accepted, true_and]
  · rename_i refused
    rw [if_neg refused]
    simp only [refused, false_and, reduceCtorEq]

end Confirming

/-! ## Scripts -/

/-- A device that answers a request with a code, and each wait with the next answer of a script. -/
def DeviceApi.scripted (code : Int) (answers : Nat → Except Int Int) : DeviceApi Nat where
  level := 0
  hasTier _ := false
  resultText _ := ResultCode.name
  stateText _ := StateCode.name
  respond
    | .request .., turn => (code, turn)
    | .waitForChange .., turn => (answers turn, turn + 1)
    | .createBuilder, turn | .openStream _, turn | .timestamp .., turn => (.error ResultCode.missingHandle, turn)
    | .configure .., turn => (false, turn)
    | .registerData _, turn | .registerError _, turn => ((), turn)
    | .deleteBuilder _, turn | .closeStream _, turn | .query .., turn | .framesWritten _, turn => ((0 : Int), turn)
  farewell := []

/-- So all codes and all sequences of answers are those of some device. -/
theorem scripted_answers (code : Int) (answers : Nat → Except Int Int) (stream : StreamHandle)
    (transition : Transition) (timeoutNanos : Int) :
    let api := DeviceApi.scripted code answers
    api.requestCode stream transition 0 = code ∧
      api.waitAnswers stream transition timeoutNanos (api.afterRequest stream transition 0) = answers := by
  intro api
  have waited : ∀ turn, api.afterWaits stream transition timeoutNanos turn 0 = turn := by
    intro turn
    induction turn with
    | zero => rfl
    | succ turn ih =>
        rw [DeviceApi.afterWaits_succ, ih]
        rfl
  refine ⟨rfl, ?_⟩
  funext turn
  have played : api.waitAnswers stream transition timeoutNanos (api.afterRequest stream transition 0) turn =
      answers (api.afterWaits stream transition timeoutNanos turn 0) := rfl
  rw [played, waited]

/--
Whatever a device answers, a transition is requested once, and after an accepted request the device is waited for once for
each answer up to the first that is not the transient state, but eight times at most. The transition has happened exactly
if the request was accepted and the answers begin with at most seven transient states and then the final state; otherwise
there is a transport error of the operation. Watching the device has no part in it.
-/
theorem transit_script (api : DeviceApi δ) (stream : StreamHandle) (transition : Transition) (timeoutNanos : Int)
    (before : Output (WatchedDevice δ) τ) :
    let code := api.requestCode stream transition before.device.subject
    let answers := api.waitAnswers stream transition timeoutNanos
      (api.afterRequest stream transition before.device.subject)
    let ended := (transit api.watched stream transition timeoutNanos (pure ())).run before
    (∃ waits,
      ended.2.device.events = before.device.events ++ transition.requested stream code ::
        (List.range waits).map (fun turn => transition.waited stream timeoutNanos (answers turn)) ∧
      (∀ turn, turn < waits ↔ 0 ≤ code ∧ turn < 8 ∧ ∀ earlier < turn, answers earlier = .ok transition.transient) ∧
      ended.1 = api.verdict transition ended.2.device.subject
        (if 0 ≤ code then transition.report answers waits else .error code)) ∧
    (ended.1 = .ok () ↔ 0 ≤ code ∧ ∃ passing ≤ 7,
      (∀ earlier < passing, answers earlier = .ok transition.transient) ∧ answers passing = .ok transition.target) ∧
    (ended.1 = .ok () ∨ ∃ text, ended.1 = .error (.transport transition.name text)) ∧
    (∀ bare : Output δ τ, bare.device = before.device.subject →
      ((transit api stream transition timeoutNanos (pure ())).run bare).1 = ended.1) := by
  intro code answers ended
  obtain ⟨waits, takes, left, settled⟩ := transit_settles api.watched stream transition timeoutNanos before
  rw [watched_waitAnswers] at takes settled
  rw [watched_verdict] at settled
  change transition.Takes answers (if 0 ≤ code then Transition.maxWaits else 0) waits at takes
  change ended.1 = api.verdict transition ended.2.device.subject
    (if 0 ≤ code then transition.report answers waits else .error code) at settled
  obtain ⟨subject, events⟩ := watched_afterWaits api stream transition timeoutNanos waits
    (api.watched.afterRequest stream transition before.device)
  rw [← left] at subject events
  refine ⟨⟨waits, ?_, (takes_iff transition).mp takes, settled⟩, ?_, ?_, ?_⟩
  · rw [show ended.2.device.events = _ from events]
    change (before.device.events ++ [transition.requested stream code]) ++ _ = _
    rw [List.append_assoc, List.singleton_append]
    rfl
  · rw [settled, reached_iff api transition _ takes]
    simp only [Transition.maxWaits, Nat.lt_succ_iff]
  · rw [settled]
    exact verdict_transport api transition _ _
  · intro bare same
    obtain ⟨others, takes', left', settled'⟩ := transit_settles api stream transition timeoutNanos bare
    rw [same] at takes' left' settled'
    obtain rfl : others = waits := takes'.unique takes
    rw [settled, show ended.2.device.subject = _ from subject]
    exact settled'.trans (by rw [left']; rfl)

end PcmOutput
