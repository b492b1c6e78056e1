import PcmOutput.Library
import PcmOutput.Output.Callback
import PcmOutput.Tone

/-!
# A recording device

A device without hardware for the player. While a stream starts it pulls burst after burst until the
source has ended, and it keeps a digest of the bytes it was given. Some of its starts can be made to
fail: then it pulls a few bursts only and reports that the device is gone.
-/

set_option autoImplicit false

namespace PcmOutput

/-- How a recorder behaves. -/
structure RecorderScript where
  /-- The channels of a stream that was not given a mask, if they are not the ones asked for. -/
  channels : Option Int := none
  /-- The rate of a stream, if it is not the one that was set. -/
  rate : Option Int := none
  createResult : Int := 0
  openResult : Int := 0
  startResult : Int := 0
  /-- The state that an accepted start leads to. -/
  startState : Int := StateCode.started
  burst : Int := 192
  /-- How many of the first starts fail. -/
  failingStarts : Nat := 0
  /-- How many bursts are pulled by a start that fails. -/
  failingPulls : Nat := 0

/-- What was pulled: the counts, and a hash of the bytes in their order. -/
structure Tally where
  frames : Nat := 0
  bytes : Nat := 0
  /-- The hash of Fowler, Noll and Vo with 64 bits: each byte is added by exclusive or, then multiplied in. -/
  hash : UInt64 := 14695981039346656037
deriving DecidableEq, Repr

namespace Tally

def mix (hash : UInt64) (byte : UInt8) : UInt64 :=
  (hash ^^^ byte.toUInt64) * 1099511628211

def add (frames : Nat) (buffer : List UInt8) (tally : Tally) : Tally where
  frames := tally.frames + frames
  bytes := tally.bytes + buffer.length
  hash := buffer.foldl mix tally.hash

def hex16 (number : UInt64) : String :=
  let digits := Nat.toDigits 16 number.toNat
  String.ofList (List.replicate (16 - digits.length) '0' ++ digits)

def text (tally : Tally) : String :=
  s!"frames={tally.frames} bytes={tally.bytes} fnv={hex16 tally.hash}"

end Tally

/-- A device that records what it is given. -/
structure Recorder where
  script : RecorderScript := {}
  builders : Nat := 0
  streams : Nat := 0
  stream : Option StreamHandle := none
  format : Int := 0
  rate : Int := 0
  channels : Int := 0
  mask : Option Int := none
  streamState : Int := 0
  starts : Nat := 0
  /-- What was pulled for the present builder. -/
  tally : Tally := {}
  /-- What had been pulled each time a stream was closed. -/
  recordings : List Tally := []

namespace Recorder

def bitCount (mask : Int) : Nat :=
  ((List.range 32).filter fun place => mask.toNat.testBit place).length

def grantedChannels (recorder : Recorder) : Int :=
  match recorder.mask with
  | some mask => bitCount mask
  | none => recorder.script.channels.getD recorder.channels

def learn (setting : BuilderSetting) (value : Int) (recorder : Recorder) : Recorder :=
  match setting with
  | .format => { recorder with format := value }
  | .sampleRate => { recorder with rate := value }
  | .channelCount => { recorder with channels := value }
  | .channelMask => { recorder with mask := some value }
  | _ => recorder

/-- Creates a builder, with nothing set and nothing pulled yet. -/
def createBuilder (recorder : Recorder) : Except Int BuilderHandle × Recorder :=
  let code := recorder.script.createResult
  if !ResultCode.succeeded code then (.error code, recorder)
  else
    let builder : BuilderHandle := ⟨recorder.builders + 1⟩
    (.ok builder, { recorder with
      builders := builder.number, format := 0, rate := 0, channels := 0, mask := none, tally := {} })

def openStream (recorder : Recorder) : Except Int StreamHandle × Recorder :=
  let code := recorder.script.openResult
  if !ResultCode.succeeded code then (.error code, recorder)
  else
    let stream : StreamHandle := ⟨recorder.streams + 1⟩
    (.ok stream, { recorder with
      streams := stream.number, stream := some stream, streamState := StateCode.opened })

/-- Requests a transition; a start that is not refused leads to the state of the script. -/
def request (transition : Transition) (recorder : Recorder) : Int × Recorder :=
  match transition with
  | .pause => (0, { recorder with streamState := StateCode.paused })
  | .start =>
    let code := recorder.script.startResult
    if !ResultCode.succeeded code then (code, recorder)
    else
      (code, { recorder with
        streamState := recorder.script.startState, starts := recorder.starts + 1 })

def property (recorder : Recorder) : StreamProperty → Int
  | .state => recorder.streamState
  | .bufferCapacity => 3840
  | .framesPerBurst => 192
  | .xrunCount => 0
  | .sampleRate => recorder.script.rate.getD recorder.rate
  | .channelCount => recorder.grantedChannels
  | .format => recorder.format

def respond : (call : Call) → Recorder → call.Answer × Recorder
  | .createBuilder, recorder => recorder.createBuilder
  | .deleteBuilder _, recorder => ((0 : Int), recorder)
  | .configure _ setting value, recorder => (true, recorder.learn setting value)
  | .registerData _, recorder | .registerError _, recorder => ((), recorder)
  | .openStream _, recorder => recorder.openStream
  | .closeStream _, recorder =>
    ((0 : Int), { recorder with
      stream := none
      streamState := StateCode.closed
      recordings := recorder.recordings ++ [recorder.tally] })
  | .request _ transition, recorder => recorder.request transition
  | .waitForChange .., recorder => (.ok recorder.streamState, recorder)
  | .query _ property, recorder => (recorder.property property, recorder)
  | .framesWritten _, recorder => ((recorder.tally.frames : Int), recorder)
  | .timestamp .., recorder => (.error ResultCode.invalidState, recorder)

def entryPoints : EntryPoints Recorder where
  resultText _ code := some s!"result<{code}>"
  stateText _ code := some s!"state<{code}>"
  respond := respond

def pull {τ : Type} [AudioSource τ] : Work Recorder τ CallbackResult := do
  let output ← get
  let frames := output.device.script.burst
  let bytes := (output.streamFormat?.map fun format => format.bufferBytes frames).getD 0
  let answer ← dataCallback {
    stream := output.device.stream
    buffer := some (List.replicate bytes 0)
    frames := frames
    now := .unavailable }
  modify fun output =>
    let recorder := output.device
    { output with device :=
      { recorder with tally := recorder.tally.add frames.toNat (answer.buffer.getD []) } }
  return answer.result

/-- Pulls bursts until the stream is to stop, but no more than some; tells whether it is to stop. -/
def pullBursts {τ : Type} [AudioSource τ] : (most : Nat) → Work Recorder τ Bool
  | 0 => return false
  | most + 1 => do
    match ← pull with
    | .stop => return true
    | .continue => pullBursts most

/-- As many bursts as a tone can sound in, and one more. -/
def burstsOf (tone : Tone) (burst : Int) : Nat :=
  (tone.totalFrames - tone.playedFrames) / max 1 burst.toNat + 1

def whileStarting : Work Recorder Tone Unit := do
  let output ← get
  let recorder := output.device
  if recorder.starts ≤ recorder.script.failingStarts then
    let stopped ← pullBursts recorder.script.failingPulls
    if !stopped then errorCallback ResultCode.disconnected
  else
    let _ ← pullBursts (burstsOf output.source recorder.script.burst)

end Recorder

end PcmOutput
