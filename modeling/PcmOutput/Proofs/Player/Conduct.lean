import PcmOutput.Player.Performance
import PcmOutput.Simulation.Recorder

/-!
# What devices do to a player

While a stream starts and plays, its device calls back: it wants frames, or reports a failure, as often as it likes and
each time as it sees fit by then. Such conduct is a tree, with a branch for every answer and every state of the device.
It comes to work on an output whatever the source is, as long as there is a tone in it.
-/

set_option autoImplicit false

namespace PcmOutput.Player

/-- How a device goes on. -/
inductive Conduct (δ : Type)
  | rest
  | data (request : DataRequest) (next : DataAnswer → Conduct δ)
  | error (code : Int) (next : Conduct δ)
  | look (next : δ → Option StreamFormat → Tone → Conduct δ)
  | change (step : δ → δ) (next : Conduct δ)

variable {δ τ : Type} [AudioSource τ]

def Conduct.work (content : τ → Tone) : Conduct δ → Work δ τ Unit
  | .rest => pure ()
  | .data request next => do
    let answer ← dataCallback request
    (next answer).work content
  | .error code next => do
    errorCallback code
    next.work content
  | .look next => do
    let output ← get
    (next output.device output.streamFormat? (content output.source)).work content
  | .change step next => do
    modify fun output => { output with device := step output.device }
    next.work content

/-- A place to play at: a way to come by device APIs, and the conduct of the devices. -/
structure Venue (δ : Type) where
  load : Loader δ
  starting : Conduct δ
  playing : Conduct δ := .rest

def Venue.host (venue : Venue δ) (content : τ → Tone) : Host δ τ where
  load := venue.load
  whileStarting := venue.starting.work content
  whilePlaying := venue.playing.work content

end PcmOutput.Player

/-! ## The recorder as a device of that kind -/

namespace PcmOutput.Recorder

open Player

def pullThen (next : CallbackResult → Conduct Recorder) : Conduct Recorder :=
  .look fun recorder format _ =>
    let frames := recorder.script.burst
    let bytes := (format.map fun format => format.bufferBytes frames).getD 0
    .data { stream := recorder.stream, buffer := some (List.replicate bytes 0), frames := frames, now := .unavailable }
      fun answer =>
        .change (fun recorder => { recorder with tally := recorder.tally.add frames.toNat (answer.buffer.getD []) })
          (next answer.result)

def pullBurstsThen (next : Bool → Conduct Recorder) : (most : Nat) → Conduct Recorder
  | 0 => next false
  | most + 1 => pullThen fun
    | .stop => next true
    | .continue => pullBurstsThen next most

def starting : Conduct Recorder :=
  .look fun recorder _ tone =>
    if recorder.starts ≤ recorder.script.failingStarts then
      pullBurstsThen (fun stopped => if !stopped then .error ResultCode.disconnected .rest else .rest)
        recorder.script.failingPulls
    else pullBurstsThen (fun _ => .rest) (burstsOf tone recorder.script.burst)

theorem pullThen_work (next : CallbackResult → Conduct Recorder) :
    (pullThen next).work id = (do let result ← pull; (next result).work id : Work Recorder Tone Unit) :=
  rfl

theorem pullBurstsThen_work (next : Bool → Conduct Recorder) (most : Nat) :
    (pullBurstsThen next most).work id =
      (do let stopped ← pullBursts most; (next stopped).work id : Work Recorder Tone Unit) := by
  induction most with
  | zero => rfl
  | succ most ih =>
      rw [pullBurstsThen, pullThen_work, pullBursts, bind_assoc]
      congr 1
      funext result
      cases result with
      | stop => rfl
      | «continue» => exact ih

/-- All that the recorder does while a stream starts is conduct. -/
theorem whileStarting_eq : whileStarting = starting.work id := by
  unfold whileStarting starting
  rw [Conduct.work]
  congr 1
  funext output
  dsimp only [id]
  split
  · rw [pullBurstsThen_work]
    congr 1
    funext stopped
    cases stopped <;> rfl
  · rw [pullBurstsThen_work]
    rfl

/-- A player with a recorder plays at such a place. -/
theorem host_eq (load : Loader Recorder) :
    ({ load := load, whileStarting := whileStarting } : Host Recorder Tone) =
      Venue.host { load := load, starting := starting } id := by
  rw [whileStarting_eq]
  rfl

end PcmOutput.Recorder
