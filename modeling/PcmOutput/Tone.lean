import PcmOutput.Decimal.Binary64
import PcmOutput.Decimal.Single
import PcmOutput.Frequency
import PcmOutput.Source

/-!
# Tones

A source that plays a sine of a fixed frequency and length, the same in every channel, and then reports
its end. A tone keeps its place when it is prepared again: only its length depends on the rate.
-/

set_option autoImplicit false

namespace PcmOutput

/-- A sine tone and the place at which it is. -/
structure Tone where
  frequency : Frequency
  seconds : Float
  /-- What the stream plays, once the tone is prepared. -/
  format : Option StreamFormat := none
  /-- The length in frames, at the rate of the stream. -/
  totalFrames : Nat := 0
  playedFrames : Nat := 0
  phase : Float := 0.0
  lastDeadline : Int := 0

/-- The lowest bytes of a number, the lowest first. -/
def littleEndian : (count : Nat) → Nat → List UInt8
  | 0, _ => []
  | count + 1, number => UInt8.ofNat number :: littleEndian count (number / 256)

@[simp] theorem length_littleEndian (count number : Nat) : (littleEndian count number).length = count := by
  induction count generalizing number with
  | zero => rfl
  | succ count inner => simp [littleEndian, inner]

namespace Tone

def turn : Float := 6.283185307179586

def amplitude : Float := 0.25

/-- The frames in some seconds: whole, at least none, and no more than 64 bits can count. -/
def framesIn (seconds : Float) (rate : Nat) : Nat :=
  (seconds * Float.ofNat rate).toUInt64.toNat

def step (frequency : Float) (rate : Nat) : Float :=
  turn * frequency / Float.ofNat rate

/-- The angle one step on, within a turn. -/
def advance (step phase : Float) : Float :=
  Decimal.remainder (phase + step) turn

/-- The values of some frames from an angle on, and the angle after them. -/
def wave (step : Float) : (count : Nat) → (phase : Float) → List Float × Float
  | 0, phase => ([], phase)
  | count + 1, phase =>
    let (rest, last) := wave step count (advance step phase)
    (amplitude * phase.sin :: rest, last)

@[simp] theorem length_wave (step phase : Float) (count : Nat) : (wave step count phase).1.length = count := by
  induction count generalizing phase with
  | zero => rfl
  | succ count inner => simp [wave, inner]

/--
A value as a sample. Whole numbers are cut off toward zero and do not leave their range; a value that is
no number is zero among them, and the given pattern among the floating point samples. In all other
formats a sample is silence.
-/
def sample (undefined : Nat) (format : SampleFormat) (value : Float) : List UInt8 :=
  match format with
  | .s16 => littleEndian 2 (value * 32767.0).toModel.toInt16.toUInt16.toNat
  | .s32 => littleEndian 4 (value * 2147483647.0).toModel.toInt32.toUInt32.toNat
  | .float => littleEndian 4 (if value.isNaN then undefined else Decimal.singleBits value)
  | _ => List.replicate format.bytes 0

@[simp] theorem length_sample (undefined : Nat) (format : SampleFormat) (value : Float) :
    (sample undefined format value).length = format.bytes := by
  unfold sample
  split <;> simp [SampleFormat.bytes]

/-- A value as a frame: the same sample in every channel. -/
def frame (undefined : Nat) (format : StreamFormat) (value : Float) : List UInt8 :=
  (List.replicate format.channels.size (sample undefined format.format value)).flatten

@[simp] theorem length_frame (undefined : Nat) (format : StreamFormat) (value : Float) :
    (frame undefined format value).length = format.frameBytes := by
  simp [frame, StreamFormat.frameBytes, Nat.mul_comm]

/--
The pattern of a sample that is no number. A frequency that is no number hands on its sign; a number that
leads to none, as an infinite one does, leads to a negative pattern.
-/
def undefinedSample (frequency : Frequency) : Nat :=
  if frequency.hertz.isNaN && !frequency.negative then 0x7fc00000 else 0xffc00000

def prepare (format : StreamFormat) (tone : Tone) : Tone :=
  { tone with
    format := some format
    totalFrames := framesIn tone.seconds format.sampleRate }

/-- How many of some frames the tone still sounds in. -/
def soundingFrames (tone : Tone) (frames : Nat) : Nat :=
  min frames (tone.totalFrames - tone.playedFrames)

/--
Fills the whole frames of a buffer: with the tone up to its end or the frames asked for, with silence
after that. Bytes that make no whole frame stay as they were.
-/
def read (buffer : List UInt8) (frames : Nat) (deadline : Int) (tone : Tone) : Reading Tone :=
  match tone.format with
  | none =>
    { buffer := List.replicate buffer.length 0
      pull := ⟨0, false⟩
      source := { tone with lastDeadline := deadline } }
  | some format =>
    let whole := buffer.length / format.frameBytes
    let sounding := tone.soundingFrames frames
    let (values, phase) := wave (step tone.frequency.hertz format.sampleRate) (min whole sounding) tone.phase
    let silence := List.replicate (whole - sounding) 0.0
    let filled := (values ++ silence).flatMap (frame (undefinedSample tone.frequency) format)
    let played := tone.playedFrames + sounding
    { buffer := filled ++ buffer.drop (whole * format.frameBytes)
      pull := ⟨sounding, tone.totalFrames ≤ played⟩
      source := { tone with playedFrames := played, phase := phase, lastDeadline := deadline } }

theorem length_read (buffer : List UInt8) (frames : Nat) (deadline : Int) (tone : Tone) :
    (tone.read buffer frames deadline).buffer.length = buffer.length := by
  cases prepared : tone.format with
  | none => simp [read, prepared]
  | some format =>
    have fits : buffer.length / format.frameBytes * format.frameBytes ≤ buffer.length :=
      Nat.div_mul_le_self _ _
    have filled (values : List Float) :
        (values.flatMap (frame (undefinedSample tone.frequency) format)).length =
          values.length * format.frameBytes := by
      induction values with
      | nil => simp
      | cons value rest inner => simp [inner, Nat.succ_mul, Nat.add_comm]
    have whole (count sounding : Nat) : min count sounding + (count - sounding) = count := by omega
    simp only [read, prepared, List.length_append, List.length_drop, filled, length_wave,
      List.length_replicate, whole]
    omega

instance : AudioSource Tone where
  prepare := prepare
  read := read

end Tone

end PcmOutput
