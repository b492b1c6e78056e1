import Mathlib.Algebra.Group.Nat.Defs
import Mathlib.Data.List.Infix
import PcmOutput.Tone

/-!
# One sound, however it is read

The frames of a tone are fixed by its frequency, its length and the format of the stream: a sine from the angle zero on,
then silence. Reads hand them out in order, each frame once, however many frames each of them asks for. That the tone is
prepared again in between makes no difference.
-/

set_option autoImplicit false

namespace PcmOutput.Tone

/-- The angle of a frame of the sine: zero, and from there on one step for each frame, within a turn. -/
def angle (frequency : Float) (rate : Nat) : Nat → Float
  | 0 => 0.0
  | index + 1 =>
    Decimal.remainder (angle frequency rate index + 6.283185307179586 * frequency / Float.ofNat rate) 6.283185307179586

/-- The bytes of a sample, the lowest first, from the number that the value is turned into. -/
def packed (undefined : Nat) (format : SampleFormat) (value : Float) : List UInt8 :=
  let number : Nat :=
    match format with
    | .s16 => (value * 32767.0).toModel.toInt16.toUInt16.toNat
    | .s32 => (value * 2147483647.0).toModel.toInt32.toUInt32.toNat
    | .float => if value.isNaN then undefined else Decimal.singleBits value
    | _ => 0
  (List.range format.bytes).map fun place => UInt8.ofNat (number / 256 ^ place)

/-- The bytes of a frame, from the first frame on. -/
def soundAt (frequency : Frequency) (seconds : Float) (format : StreamFormat) (index : Nat) : List UInt8 :=
  if index < (seconds * Float.ofNat format.sampleRate).toUInt64.toNat then
    let value := 0.25 * (angle frequency.hertz format.sampleRate index).sin
    (List.replicate format.channels.size (packed (undefinedSample frequency) format.format value)).flatten
  else List.replicate format.frameBytes 0

/-! ## Samples -/

theorem littleEndian_eq (count number : Nat) :
    littleEndian count number = (List.range count).map fun place => UInt8.ofNat (number / 256 ^ place) := by
  induction count generalizing number with
  | zero => rfl
  | succ count ih =>
      rw [littleEndian, ih, List.range_succ_eq_map, List.map_cons, List.map_map, Nat.pow_zero, Nat.div_one]
      congr 1
      refine List.map_congr_left fun place _ => ?_
      rw [Function.comp_apply, Nat.div_div_eq_div_mul, Nat.pow_succ']

theorem sample_eq_packed (undefined : Nat) (format : SampleFormat) (value : Float) :
    sample undefined format value = packed undefined format value := by
  cases format with
  | s16 => exact littleEndian_eq ..
  | s32 => exact littleEndian_eq ..
  | float => exact littleEndian_eq ..
  | _ => simp [sample, packed]

theorem frame_eq_packed (undefined : Nat) (format : StreamFormat) (value : Float) :
    frame undefined format value = (List.replicate format.channels.size (packed undefined format.format value)).flatten := by
  rw [frame, sample_eq_packed]

/-! ## Silence -/

theorem littleEndian_zero (count : Nat) : littleEndian count 0 = List.replicate count 0 := by
  rw [littleEndian_eq]
  simp

/-- The value zero has the bytes zero in every format. -/
theorem sample_zero (undefined : Nat) (format : SampleFormat) :
    sample undefined format 0.0 = List.replicate format.bytes 0 := by
  have whole16 : (0.0 * 32767.0 : Float).toModel.toInt16.toUInt16.toNat = 0 := by decide
  have whole32 : (0.0 * 2147483647.0 : Float).toModel.toInt32.toUInt32.toNat = 0 := by decide
  have single : Decimal.singleBits 0.0 = 0 := by decide
  have number : (0.0 : Float).isNaN = false := by decide
  cases format with
  | s16 => rw [sample, whole16, littleEndian_zero, SampleFormat.bytes]
  | s32 => rw [sample, whole32, littleEndian_zero, SampleFormat.bytes]
  | float => rw [sample, number, if_neg Bool.false_ne_true, single, littleEndian_zero, SampleFormat.bytes]
  | _ => rfl

theorem frame_zero (undefined : Nat) (format : StreamFormat) :
    frame undefined format 0.0 = List.replicate format.frameBytes 0 := by
  rw [frame, sample_zero, List.flatten_replicate_replicate, StreamFormat.frameBytes, Nat.mul_comm]

/-! ## The sine -/

theorem advance_angle (frequency : Float) (rate index : Nat) :
    advance (step frequency rate) (angle frequency rate index) = angle frequency rate (index + 1) :=
  rfl

theorem wave_eq (frequency : Float) (rate count start : Nat) :
    wave (step frequency rate) count (angle frequency rate start) =
      ((List.range' start count).map fun index => 0.25 * (angle frequency rate index).sin,
        angle frequency rate (start + count)) := by
  induction count generalizing start with
  | zero => rfl
  | succ count ih =>
      rw [wave, advance_angle, ih]
      simp [List.range'_succ, Nat.add_right_comm, Nat.add_assoc, amplitude]

section Sounding

variable {frequency : Frequency} {seconds : Float} {format : StreamFormat}

theorem soundAt_sounding {index : Nat} (sounding : index < framesIn seconds format.sampleRate) :
    soundAt frequency seconds format index =
      frame (undefinedSample frequency) format (0.25 * (angle frequency.hertz format.sampleRate index).sin) := by
  rw [frame_eq_packed]
  exact if_pos sounding

theorem soundAt_silent {index : Nat} (ended : framesIn seconds format.sampleRate ≤ index) :
    soundAt frequency seconds format index = frame (undefinedSample frequency) format 0.0 := by
  rw [frame_zero]
  exact if_neg (Nat.not_lt.mpr ended)

theorem length_soundAt (index : Nat) : (soundAt frequency seconds format index).length = format.frameBytes := by
  rcases Nat.lt_or_ge index (framesIn seconds format.sampleRate) with sounding | ended
  · rw [soundAt_sounding sounding, length_frame]
  · rw [soundAt_silent ended, length_frame]

/-! ## Reads -/

/-- What a tone is asked for: to be ready for the stream, or to fill a buffer that has the size of some frames. -/
inductive Request (format : StreamFormat)
  | prepare
  | fill (buffer : List UInt8) (frames : Nat) (deadline : Int) (sized : buffer.length = frames * format.frameBytes)

def Request.frames : Request format → Nat
  | .prepare => 0
  | .fill _ frames _ _ => frames

def framesAsked : List (Request format) → Nat
  | [] => 0
  | request :: rest => request.frames + framesAsked rest

/-- The bytes that a request is answered with, and the tone after it. -/
def answer (tone : Tone) : Request format → List UInt8 × Tone
  | .prepare => ([], tone.prepare format)
  | .fill buffer frames deadline _ =>
    let reading := tone.read buffer frames deadline
    (reading.buffer, reading.source)

/-- The answers to some requests, one after another. -/
def answers (tone : Tone) : List (Request format) → List (List UInt8)
  | [] => []
  | request :: rest => (tone.answer request).1 :: (tone.answer request).2.answers rest

/-- Where a tone is after some frames were asked for: at the frame after them, or at its end if that comes first. -/
structure Reached (frequency : Frequency) (seconds : Float) (format : StreamFormat) (asked : Nat) (tone : Tone) :
    Prop where
  swings : tone.frequency = frequency
  lasts : tone.seconds = seconds
  prepared : tone.format = some format
  total : tone.totalFrames = framesIn seconds format.sampleRate
  played : tone.playedFrames = min asked (framesIn seconds format.sampleRate)
  phase : tone.phase = angle frequency.hertz format.sampleRate (min asked (framesIn seconds format.sampleRate))

variable {asked : Nat} {tone : Tone}

theorem Reached.prepare (reached : Reached frequency seconds format asked tone) :
    Reached frequency seconds format asked (tone.prepare format) where
  swings := reached.swings
  lasts := reached.lasts
  prepared := rfl
  total := by rw [Tone.prepare, reached.lasts]
  played := reached.played
  phase := reached.phase

/-- The sounding frames of a read are those up to the end of the tone, the others are silence. -/
theorem sounding_append_silence (asked frames : Nat) :
    let total := framesIn seconds format.sampleRate
    let sounding := min frames (total - min asked total)
    (((List.range' (min asked total) sounding).map fun index =>
        0.25 * (angle frequency.hertz format.sampleRate index).sin) ++
      List.replicate (frames - sounding) 0.0).flatMap (frame (undefinedSample frequency) format) =
    (List.range' asked frames).flatMap (soundAt frequency seconds format) := by
  intro total sounding
  -- A tone that has ended sounds in no frame, so that it does not matter where it stands.
  have place : List.range' (min asked total) sounding = List.range' asked sounding := by
    rcases Nat.le_total asked total with before | ended
    · rw [Nat.min_eq_left before]
    · have none : sounding = 0 := by omega
      rw [none, List.range'_zero, List.range'_zero]
  have parts : List.range' asked frames =
      List.range' asked sounding ++ List.range' (asked + sounding) (frames - sounding) := by
    have apart : frames = sounding + (frames - sounding) := by omega
    rw [show asked + sounding = asked + 1 * sounding by omega, List.range'_append, ← apart]
  have silent : List.replicate (frames - sounding) (0.0 : Float) =
      (List.range' (asked + sounding) (frames - sounding)).map fun _ => 0.0 := by
    rw [List.map_const', List.length_range']
  rw [place, parts, silent, List.flatMap_append, List.flatMap_append, List.flatMap_map, List.flatMap_map]
  congr 1
  · refine List.flatMap_congr fun index among => (soundAt_sounding ?_).symm
    have within := List.mem_range'_1.mp among
    omega
  · refine List.flatMap_congr fun index among => (soundAt_silent ?_).symm
    have beyond := List.mem_range'_1.mp among
    omega

theorem Reached.read {buffer : List UInt8} {frames : Nat} (reached : Reached frequency seconds format asked tone)
    (sized : buffer.length = frames * format.frameBytes) (deadline : Int) :
    (tone.read buffer frames deadline).buffer =
        (List.range' asked frames).flatMap (soundAt frequency seconds format) ∧
      Reached frequency seconds format (asked + frames) (tone.read buffer frames deadline).source := by
  -- The buffer holds just the frames that are asked for: it neither cuts the tone short nor keeps old bytes.
  have whole : buffer.length / format.frameBytes = frames := by
    rw [sized, Nat.mul_div_cancel _ format.frameBytes_pos]
  have sounding : tone.soundingFrames frames =
      min frames (framesIn seconds format.sampleRate - min asked (framesIn seconds format.sampleRate)) := by
    rw [soundingFrames, reached.total, reached.played]
  have fewer : min frames (tone.soundingFrames frames) = tone.soundingFrames frames := by
    rw [soundingFrames]
    omega
  have onward : min asked (framesIn seconds format.sampleRate) + tone.soundingFrames frames =
      min (asked + frames) (framesIn seconds format.sampleRate) := by
    omega
  have filled : buffer.drop (frames * format.frameBytes) = [] := by
    rw [← sized, List.drop_length]
  simp only [Tone.read, reached.prepared, whole, fewer, reached.swings, reached.phase, wave_eq, filled, List.append_nil]
  refine ⟨?_, ?_⟩
  · rw [sounding]
    exact sounding_append_silence asked frames
  · exact {
      swings := rfl
      lasts := reached.lasts
      prepared := rfl
      total := reached.total
      played := by simp only [reached.played, onward]
      phase := by simp only [onward] }

/-- A request is answered with the frames that come next, and the tone stands behind them. -/
theorem Reached.answer (reached : Reached frequency seconds format asked tone) (request : Request format) :
    (tone.answer request).1 = (List.range' asked request.frames).flatMap (soundAt frequency seconds format) ∧
      Reached frequency seconds format (asked + request.frames) (tone.answer request).2 := by
  cases request with
  | prepare => exact ⟨rfl, reached.prepare⟩
  | fill buffer frames deadline sized => exact reached.read sized deadline

theorem Reached.answers_eq (reached : Reached frequency seconds format asked tone) (requests : List (Request format)) :
    (tone.answers requests).flatten =
        (List.range' asked (framesAsked requests)).flatMap (soundAt frequency seconds format) ∧
      ∀ (place : Nat) (request : Request format), requests[place]? = some request →
        (tone.answers requests)[place]? = some ((List.range' (asked + framesAsked (requests.take place))
          request.frames).flatMap (soundAt frequency seconds format)) := by
  induction requests generalizing asked tone with
  | nil => exact ⟨rfl, fun place request stands => by simp at stands⟩
  | cons first rest ih =>
      obtain ⟨answered, onward⟩ := reached.answer first
      obtain ⟨later, places⟩ := ih onward
      refine ⟨?_, fun place request stands => ?_⟩
      · rw [answers, List.flatten_cons, answered, later, ← List.flatMap_append, framesAsked]
        congr 1
        simp
      · cases place with
        | zero =>
            cases stands
            simp [answers, answered, framesAsked]
        | succ place =>
            rw [answers, List.getElem?_cons_succ, places place request stands, List.take_succ_cons, framesAsked,
              Nat.add_assoc]

/-- A tone that has just been made, and is prepared for the stream before all requests. -/
def ready (frequency : Frequency) (seconds : Float) (format : StreamFormat) : Tone :=
  Tone.prepare format { frequency := frequency, seconds := seconds }

theorem ready_reached (frequency : Frequency) (seconds : Float) (format : StreamFormat) :
    Reached frequency seconds format 0 (ready frequency seconds format) where
  swings := rfl
  lasts := rfl
  prepared := rfl
  total := rfl
  played := (Nat.zero_min _).symm
  phase := by rw [Nat.zero_min]; rfl

theorem flatten_answers (requests : List (Request format)) :
    ((ready frequency seconds format).answers requests).flatten =
      (List.range (framesAsked requests)).flatMap (soundAt frequency seconds format) := by
  rw [((ready_reached frequency seconds format).answers_eq requests).1, List.range_eq_range']

/--
There is one sequence of frames behind all ways to ask for them. Up to the end of the tone a frame holds the same sample
in every channel, of a sine that begins at the angle zero and goes on by one step each frame, and silence after that.
Each buffer is filled as a whole with the frames that come next, whatever it held before. All buffers together hold the
first frames, as many as were asked for: two ways to ask for frames give the same bytes, as far as the one that asks for
fewer of them goes.
-/
theorem heard_in_order (frequency : Frequency) (seconds : Float) (format : StreamFormat) :
    let tone := ready frequency seconds format
    let circle : Float := 6.283185307179586
    let total := (seconds * Float.ofNat format.sampleRate).toUInt64.toNat
    ∃ (phase : Nat → Float) (sound : Nat → List UInt8),
      phase 0 = 0.0 ∧
      (∀ index, phase (index + 1) =
        Decimal.remainder (phase index + circle * frequency.hertz / Float.ofNat format.sampleRate) circle) ∧
      (∀ index, sound index =
        if index < total then
          (List.replicate format.channels.size
            (packed (undefinedSample frequency) format.format (0.25 * (phase index).sin))).flatten
        else List.replicate format.frameBytes 0) ∧
      (∀ index, (sound index).length = format.frameBytes) ∧
      ∀ requests : List (Request format),
        (∀ (place : Nat) (request : Request format), requests[place]? = some request →
          (tone.answers requests)[place]? =
            some ((List.range' (framesAsked (requests.take place)) request.frames).flatMap sound)) ∧
        (tone.answers requests).flatten = (List.range (framesAsked requests)).flatMap sound ∧
        ∀ others : List (Request format), framesAsked requests ≤ framesAsked others →
          (tone.answers requests).flatten <+: (tone.answers others).flatten := by
  intro tone circle total
  refine ⟨angle frequency.hertz format.sampleRate, soundAt frequency seconds format, rfl, fun index => rfl,
    fun index => rfl, length_soundAt, fun requests => ?_⟩
  obtain ⟨-, places⟩ := (ready_reached frequency seconds format).answers_eq requests
  refine ⟨fun place request stands => ?_, flatten_answers requests, fun others more => ?_⟩
  · rw [places place request stands, Nat.zero_add]
  · have fewer : List.range (framesAsked requests) <+: List.range (framesAsked others) := by
      rw [List.prefix_iff_eq_take, List.length_range, List.take_range, Nat.min_eq_left more]
    rw [flatten_answers, flatten_answers]
    exact fewer.flatMap _

end Sounding

end PcmOutput.Tone
