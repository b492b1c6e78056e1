import Mathlib.Algebra.BigOperators.Group.List.Basic
import PcmOutput.Proofs.Layouts.Negotiation
import PcmOutput.Tone

/-!
# How long a tone lasts

A tone counts the frames that it has played against the frames that it lasts. However it is prepared and read, the first
count never passes the greatest length it was prepared for, so that neither leaves 64 bits. As long as the rate stays
the same, the reads report all frames of the tone, or as many as they ask for, and its end from the read on that reaches
it.
-/

set_option autoImplicit false

namespace PcmOutput

theorem SampleFormat.bytes_le (format : SampleFormat) : format.bytes ≤ 8 := by
  cases format <;> simp [bytes]

namespace Tone

/-! ## Calls -/

/-- What can be asked of a tone, in any order: the formats and the buffers may all be different. -/
inductive Call
  | prepare (format : StreamFormat)
  | read (buffer : List UInt8) (frames : Nat) (deadline : Int)

def Call.isRead : Call → Bool
  | .prepare _ => false
  | .read .. => true

/-- The frames that a read asks for. -/
def Call.frames? : Call → Option Nat
  | .prepare _ => none
  | .read _ frames _ => some frames

/-- The length that a call prepares a tone of some seconds for. -/
def Call.total (seconds : Float) : Call → Nat
  | .prepare format => framesIn seconds format.sampleRate
  | .read .. => 0

def requested (calls : List Call) : List Nat :=
  calls.filterMap Call.frames?

/-- The greatest length that some calls prepare a tone for. -/
def longest (seconds : Float) (calls : List Call) : Nat :=
  (calls.map (Call.total seconds)).foldr max 0

/-- A tone that has just been made. -/
def fresh (frequency : Frequency) (seconds : Float) : Tone :=
  { frequency := frequency, seconds := seconds }

def after (tone : Tone) : Call → Tone
  | .prepare format => tone.prepare format
  | .read buffer frames deadline => (tone.read buffer frames deadline).source

def afterAll (tone : Tone) (calls : List Call) : Tone :=
  calls.foldl after tone

/-- What the reads among some calls report, in order. -/
def pulls (tone : Tone) : List Call → List Pull
  | [] => []
  | .prepare format :: rest => (tone.prepare format).pulls rest
  | .read buffer frames deadline :: rest =>
    let reading := tone.read buffer frames deadline
    reading.pull :: reading.source.pulls rest

section Calls

variable {tone : Tone} {format : StreamFormat} {bound : Nat} (buffer : List UInt8) (frames : Nat) (deadline : Int)

/-! ## One read -/

/-- What a read of a prepared tone reports, and what it leaves of the counts. -/
structure Served (tone : Tone) (frames : Nat) (reading : Reading Tone) : Prop where
  reported : reading.pull.frames = min frames (tone.totalFrames - tone.playedFrames)
  onward : reading.source.playedFrames = tone.playedFrames + reading.pull.frames
  ended : reading.pull.eof = true ↔ tone.totalFrames ≤ reading.source.playedFrames
  total : reading.source.totalFrames = tone.totalFrames
  seconds : reading.source.seconds = tone.seconds
  format : reading.source.format = tone.format

theorem read_served (prepared : tone.format = some format) :
    Served tone frames (tone.read buffer frames deadline) := by
  unfold read
  rw [prepared]
  constructor
  · rfl
  · rfl
  · exact decide_eq_true_iff
  · rfl
  · rfl
  · exact prepared.symm

theorem read_unprepared (unprepared : tone.format = none) :
    (tone.read buffer frames deadline).pull = ⟨0, false⟩ ∧
      (tone.read buffer frames deadline).source = { tone with lastDeadline := deadline } := by
  unfold read
  rw [unprepared]
  exact ⟨rfl, rfl⟩

/-! ## Any calls -/

theorem after_seconds (tone : Tone) (call : Call) : (tone.after call).seconds = tone.seconds := by
  cases call with
  | prepare format => rfl
  | read buffer frames deadline =>
      cases prepared : tone.format with
      | none => rw [after, (read_unprepared buffer frames deadline prepared).2]
      | some format => exact (read_served buffer frames deadline prepared).seconds

theorem after_format (tone : Tone) (call : Call) :
    (tone.after call).format.isSome = (tone.format.isSome || !call.isRead) := by
  cases call with
  | prepare format => simp [after, Tone.prepare, Call.isRead]
  | read buffer frames deadline =>
      cases prepared : tone.format with
      | none => simp [after, (read_unprepared buffer frames deadline prepared).2, prepared, Call.isRead]
      | some format => simp [after, (read_served buffer frames deadline prepared).format, prepared]

/-- A tone is prepared from the first call on that prepares it. -/
theorem afterAll_format (tone : Tone) (calls : List Call) :
    (tone.afterAll calls).format.isSome = (tone.format.isSome || calls.any fun call => !call.isRead) := by
  induction calls generalizing tone with
  | nil => simp [afterAll]
  | cons call rest ih =>
      rw [List.any_cons, ← Bool.or_assoc, ← after_format]
      exact ih (tone.after call)

/-- Neither count is beyond the bound. -/
structure Within (bound : Nat) (tone : Tone) : Prop where
  total : tone.totalFrames ≤ bound
  played : tone.playedFrames ≤ bound

theorem Within.after (within : Within bound tone) (call : Call) :
    Within (max bound (call.total tone.seconds)) (tone.after call) := by
  cases call with
  | prepare format =>
      constructor
      · exact Nat.le_max_right ..
      · exact Nat.le_trans within.played (Nat.le_max_left ..)
  | read buffer frames deadline =>
      rw [Call.total, Nat.max_zero]
      cases prepared : tone.format with
      | none =>
          rw [Tone.after, (read_unprepared buffer frames deadline prepared).2]
          exact ⟨within.total, within.played⟩
      | some format =>
          have served := read_served buffer frames deadline prepared
          constructor
          · rw [Tone.after, served.total]
            exact within.total
          · -- What is reported is at most what is left, and nothing if the tone has become shorter than it was played.
            have reported := served.reported
            have begun := within.played
            have total := within.total
            rw [Tone.after, served.onward]
            omega

theorem Within.afterAll (within : Within bound tone) (calls : List Call) :
    Within (max bound (longest tone.seconds calls)) (tone.afterAll calls) := by
  induction calls generalizing tone bound with
  | nil => exact ⟨Nat.le_trans within.total (Nat.le_max_left ..), Nat.le_trans within.played (Nat.le_max_left ..)⟩
  | cons call rest ih =>
      have onward := ih (within.after call)
      rw [after_seconds, Nat.max_assoc] at onward
      exact onward

theorem fresh_within (frequency : Frequency) (seconds : Float) : Within 0 (fresh frequency seconds) where
  total := Nat.le_refl 0
  played := Nat.le_refl 0

theorem afterAll_within (frequency : Frequency) (seconds : Float) (calls : List Call) :
    Within (longest seconds calls) ((fresh frequency seconds).afterAll calls) := by
  have within := (fresh_within frequency seconds).afterAll calls
  rwa [Nat.zero_max] at within

theorem longest_lt (seconds : Float) (calls : List Call) : longest seconds calls < 2 ^ 64 := by
  induction calls with
  | nil => exact Nat.two_pow_pos 64
  | cons call rest ih =>
      have own : call.total seconds < 2 ^ 64 := by
        cases call with
        | prepare format => exact UInt64.toNat_lt _
        | read buffer frames deadline => exact Nat.two_pow_pos 64
      exact Nat.max_lt.mpr ⟨own, ih⟩

end Calls

/-! ## One rate -/

/-- What reads report that ask for these frames, of a tone of `total` frames of which `asked` were asked for before. -/
def schedule (total : Nat) : (asked : Nat) → List Nat → List Pull
  | _, [] => []
  | asked, frames :: rest =>
    ⟨min (asked + frames) total - min asked total, total ≤ asked + frames⟩ :: schedule total (asked + frames) rest

section Scheduled

variable {total asked : Nat}

theorem length_schedule (requests : List Nat) : (schedule total asked requests).length = requests.length := by
  induction requests generalizing asked with
  | nil => rfl
  | cons frames rest ih => rw [schedule, List.length_cons, ih, List.length_cons]

theorem take_schedule (requests : List Nat) (count : Nat) :
    (schedule total asked requests).take count = schedule total asked (requests.take count) := by
  induction requests generalizing asked count with
  | nil => simp [schedule]
  | cons frames rest ih =>
      cases count with
      | zero => rfl
      | succ count => rw [schedule, List.take_succ_cons, ih, List.take_succ_cons, schedule]

theorem sum_schedule (requests : List Nat) :
    min asked total + ((schedule total asked requests).map Pull.frames).sum = min (asked + requests.sum) total := by
  induction requests generalizing asked with
  | nil => simp [schedule]
  | cons frames rest ih =>
      have later := @ih (asked + frames)
      simp only [schedule, List.map_cons, List.sum_cons]
      omega

theorem eof_schedule {requests : List Nat} {place : Nat} {pull : Pull}
    (stands : (schedule total asked requests)[place]? = some pull) :
    pull.eof = true ↔ total ≤ asked + (requests.take (place + 1)).sum := by
  induction requests generalizing asked place with
  | nil => simp [schedule] at stands
  | cons frames rest ih =>
      rw [schedule] at stands
      cases place with
      | zero =>
          cases stands
          simp
      | succ place =>
          rw [ih stands, List.take_succ_cons, List.sum_cons, Nat.add_assoc]

end Scheduled

section Steady

variable {seconds : Float} {rate asked : Nat} {tone : Tone} {format : StreamFormat} {calls : List Call}

/-- Where a prepared tone is after some frames were asked for at one rate. -/
structure Underway (seconds : Float) (rate asked : Nat) (tone : Tone) : Prop where
  prepared : tone.format.isSome = true
  lasts : tone.seconds = seconds
  total : tone.totalFrames = framesIn seconds rate
  played : tone.playedFrames = min asked (framesIn seconds rate)

theorem Underway.prepare (underway : Underway seconds rate asked tone) (same : format.sampleRate = rate) :
    Underway seconds rate asked (tone.prepare format) where
  prepared := rfl
  lasts := underway.lasts
  total := by rw [Tone.prepare, underway.lasts, same]
  played := underway.played

theorem Underway.read (underway : Underway seconds rate asked tone) (buffer : List UInt8) (frames : Nat)
    (deadline : Int) :
    (tone.read buffer frames deadline).pull =
        ⟨min (asked + frames) (framesIn seconds rate) - min asked (framesIn seconds rate),
          framesIn seconds rate ≤ asked + frames⟩ ∧
      Underway seconds rate (asked + frames) (tone.read buffer frames deadline).source := by
  obtain ⟨format, prepared⟩ := Option.isSome_iff_exists.mp underway.prepared
  have served := read_served buffer frames deadline prepared
  have reported := served.reported
  have onward := served.onward
  have ended := served.ended
  rw [underway.total, underway.played] at reported
  rw [underway.played] at onward
  rw [underway.total] at ended
  have sounding : (tone.read buffer frames deadline).pull.frames =
      min (asked + frames) (framesIn seconds rate) - min asked (framesIn seconds rate) := by omega
  have reached : (tone.read buffer frames deadline).source.playedFrames =
      min (asked + frames) (framesIn seconds rate) := by omega
  constructor
  · have last : (tone.read buffer frames deadline).pull.eof = decide (framesIn seconds rate ≤ asked + frames) := by
      rw [Bool.eq_iff_iff, ended, decide_eq_true_iff, reached]
      omega
    rw [← sounding, ← last]
  · exact {
      prepared := by rw [served.format, underway.prepared]
      lasts := served.seconds.trans underway.lasts
      total := served.total.trans underway.total
      played := reached }

/-- Preparing the tone again at the same rate makes no difference to what its reads report. -/
theorem Underway.pulls_eq (underway : Underway seconds rate asked tone)
    (steady : ∀ format, .prepare format ∈ calls → format.sampleRate = rate) :
    tone.pulls calls = schedule (framesIn seconds rate) asked (requested calls) := by
  induction calls generalizing asked tone with
  | nil => rfl
  | cons call rest ih =>
      have steady' : ∀ format, .prepare format ∈ rest → format.sampleRate = rate :=
        fun format among => steady format (List.mem_cons_of_mem _ among)
      cases call with
      | prepare format =>
          have same : format.sampleRate = rate := steady format List.mem_cons_self
          exact ih (underway.prepare same) steady'
      | read buffer frames deadline =>
          obtain ⟨reported, onward⟩ := underway.read buffer frames deadline
          rw [pulls, reported, ih onward steady']
          rfl

end Steady

/-! ## Before the tone is prepared -/

/-- A tone that was not prepared yet, whatever it was told of deadlines. -/
structure Unprepared (seconds : Float) (tone : Tone) : Prop where
  format : tone.format = none
  lasts : tone.seconds = seconds
  played : tone.playedFrames = 0

section Early

variable {seconds : Float} {tone : Tone} {early : List Call}

theorem fresh_unprepared (frequency : Frequency) (seconds : Float) : Unprepared seconds (fresh frequency seconds) where
  format := rfl
  lasts := rfl
  played := rfl

theorem Unprepared.underway (unprepared : Unprepared seconds tone) (format : StreamFormat) :
    Underway seconds format.sampleRate 0 (tone.prepare format) where
  prepared := rfl
  lasts := unprepared.lasts
  total := by rw [Tone.prepare, unprepared.lasts]
  played := by rw [Nat.zero_min]; exact unprepared.played

theorem Unprepared.read (unprepared : Unprepared seconds tone) (buffer : List UInt8) (frames : Nat) (deadline : Int) :
    Unprepared seconds (tone.read buffer frames deadline).source := by
  rw [(read_unprepared buffer frames deadline unprepared.format).2]
  exact ⟨unprepared.format, unprepared.lasts, unprepared.played⟩

/-- Early reads report nothing, and whatever comes after them finds the tone as it was. -/
theorem Unprepared.pulls_early (unprepared : Unprepared seconds tone) (reads : ∀ call ∈ early, call.isRead = true)
    (rest : List Call) :
    ∃ still, Unprepared seconds still ∧
      tone.pulls (early ++ rest) = List.replicate early.length ⟨0, false⟩ ++ still.pulls rest := by
  induction early generalizing tone with
  | nil => exact ⟨tone, unprepared, rfl⟩
  | cons call others ih =>
      obtain ⟨own, later⟩ := List.forall_mem_cons.mp reads
      cases call with
      | prepare format => contradiction
      | read buffer frames deadline =>
          obtain ⟨still, unprepared', same⟩ := ih (unprepared.read buffer frames deadline) later
          refine ⟨still, unprepared', ?_⟩
          rw [List.cons_append, pulls, same, (read_unprepared buffer frames deadline unprepared.format).1,
            List.length_cons, List.replicate_succ, List.cons_append]

end Early

/-! ## The end -/

/-- A read cuts its buffer, and each frame of it, into pieces of some bytes, and nothing it counts leaves 64 bits. -/
structure Countable (tone : Tone) (format : StreamFormat) (reading : Reading Tone) : Prop where
  samples : 0 < format.format.bytes
  frames : 0 < format.frameBytes ∧ format.frameBytes < 2 ^ 64
  total : tone.totalFrames < 2 ^ 64
  played : tone.playedFrames + reading.pull.frames < 2 ^ 64

theorem frameBytes_lt (format : StreamFormat) : format.frameBytes < 2 ^ 64 := by
  have few : format.channels.size ≤ 22 := format.channels.size_le
  have short : format.format.bytes ≤ 8 := format.format.bytes_le
  calc format.frameBytes ≤ 8 * 22 := Nat.mul_le_mul short few
    _ < 2 ^ 64 := by decide

section Ended

variable {frequency : Frequency} {seconds : Float} {format : StreamFormat}

theorem afterAll_countable {calls : List Call} {buffer : List UInt8} {frames : Nat} {deadline : Int}
    (prepared : ((fresh frequency seconds).afterAll calls).format = some format) :
    let before := (fresh frequency seconds).afterAll calls
    Countable before format (before.read buffer frames deadline) := by
  intro before
  have within : Within (longest seconds calls) before := afterAll_within frequency seconds calls
  have limit := longest_lt seconds calls
  constructor
  · exact format.format.bytes_pos
  · exact ⟨format.frameBytes_pos, frameBytes_lt format⟩
  · exact Nat.lt_of_le_of_lt within.total limit
  · have served : Served before frames (before.read buffer frames deadline) :=
      read_served buffer frames deadline prepared
    have reported := served.reported
    have total := within.total
    have played := within.played
    omega

theorem eof_schedule_iff {total place : Nat} {requests : List Nat} {pull : Pull}
    (stands : (schedule total 0 requests)[place]? = some pull) :
    pull.eof = true ↔ (((schedule total 0 requests).take (place + 1)).map Pull.frames).sum = total := by
  have reported := @sum_schedule total 0 (requests.take (place + 1))
  rw [eof_schedule stands, take_schedule]
  omega

theorem eof_schedule_stays {total first second : Nat} {requests : List Nat} {pull pull' : Pull}
    (stands : (schedule total 0 requests)[first]? = some pull)
    (stands' : (schedule total 0 requests)[second]? = some pull') (later : first ≤ second) (ended : pull.eof = true) :
    pull'.eof = true := by
  obtain ⟨between, whole⟩ : requests.take (first + 1) <+: requests.take (second + 1) :=
    List.take_prefix_take_left (by omega)
  have more : (requests.take (first + 1)).sum ≤ (requests.take (second + 1)).sum := by
    rw [← whole, List.sum_append]
    exact Nat.le_add_right ..
  rw [eof_schedule stands] at ended
  rw [eof_schedule stands']
  omega

end Ended

/--
Once it was prepared, a tone reports as many of the frames asked for as it has left, counts on by just these, and has
ended exactly if it was played to its length; before that it reports nothing. No count leaves 64 bits, and the frames
played stay within the greatest length that the tone was prepared for. At one rate, whatever else changes, the reads
report the frames of the tone or those asked for, if these are fewer, and the end exactly from the read on with which
all frames of the tone are reported.
-/
theorem frames_counted (frequency : Frequency) (seconds : Float) :
    let tone := fresh frequency seconds
    (∀ (calls : List Call) (buffer : List UInt8) (frames : Nat) (deadline : Int),
      let before := tone.afterAll calls
      let reading := before.read buffer frames deadline
      ((∃ format, .prepare format ∈ calls) → ∃ format, before.format = some format ∧
        Countable before format reading ∧ Served before frames reading) ∧
      ((∀ format, .prepare format ∉ calls) → reading.pull = ⟨0, false⟩ ∧ reading.source.playedFrames = before.playedFrames)) ∧
    (∀ calls, (tone.afterAll calls).playedFrames ≤ longest seconds calls) ∧
    ∀ early format later, (∀ call ∈ early, call.isRead = true) →
      (∀ other, .prepare other ∈ later → other.sampleRate = format.sampleRate) →
        let total := framesIn seconds format.sampleRate
        ∃ reports, tone.pulls (early ++ .prepare format :: later) = List.replicate early.length ⟨0, false⟩ ++ reports ∧
          reports.length = (requested later).length ∧
          (reports.map Pull.frames).sum = min total (requested later).sum ∧
          (∀ (place : Nat) (pull : Pull), reports[place]? = some pull →
            (pull.eof = true ↔ ((reports.take (place + 1)).map Pull.frames).sum = total)) ∧
          ∀ (first second : Nat) (pull pull' : Pull), reports[first]? = some pull → reports[second]? = some pull' →
            first ≤ second → pull.eof = true → pull'.eof = true := by
  intro tone
  refine ⟨?_, fun calls => (afterAll_within frequency seconds calls).played, ?_⟩
  · intro calls buffer frames deadline before reading
    have ready : before.format.isSome = calls.any fun call => !call.isRead := afterAll_format tone calls
    constructor
    · rintro ⟨other, among⟩
      have asked : before.format.isSome = true := ready.trans (List.any_eq_true.mpr ⟨_, among, rfl⟩)
      obtain ⟨format, prepared⟩ := Option.isSome_iff_exists.mp asked
      exact ⟨format, prepared, afterAll_countable prepared, read_served buffer frames deadline prepared⟩
    · intro unasked
      have unprepared : ¬ before.format.isSome = true := by
        rw [ready, Bool.not_eq_true, List.any_eq_false]
        intro call among
        cases call with
        | prepare format => exact absurd among (unasked format)
        | read => simp [Call.isRead]
      obtain ⟨reported, still⟩ :=
        read_unprepared buffer frames deadline (Option.not_isSome_iff_eq_none.mp unprepared)
      exact ⟨reported, by rw [still]⟩
  · intro early format later reads steady total
    obtain ⟨still, unprepared, told⟩ :=
      (fresh_unprepared frequency seconds).pulls_early reads (.prepare format :: later)
    refine ⟨schedule total 0 (requested later), ?_, length_schedule _, ?_, ?_, ?_⟩
    · rw [told, pulls, (unprepared.underway format).pulls_eq steady]
    · have reported := @sum_schedule total 0 (requested later)
      omega
    · intro place pull stands
      exact eof_schedule_iff stands
    · intro first second pull pull' stands stands' order ended
      exact eof_schedule_stays stands stands' order ended

/-- A second at 96 frames each second, read once too early and then for more frames than it has. -/
theorem frames_counted_second (frequency : Frequency) :
    let stereo : StreamFormat := ⟨.s16, .stereo, 96⟩
    let mono : StreamFormat := ⟨.float, .mono, 96⟩
    ∃ reports last, (fresh frequency 1.0).pulls
        ([.read [] 5 0] ++ .prepare stereo :: [.read [] 64 1, .prepare mono, .read [] 64 2, .read [] 1 3]) =
          ⟨0, false⟩ :: reports ∧
      (reports.map Pull.frames).sum = 96 ∧ reports[2]? = some last ∧ last.eof = true := by
  intro stereo mono
  have length : framesIn 1.0 stereo.sampleRate = 96 := by decide
  obtain ⟨-, -, steadily⟩ := frames_counted frequency 1.0
  obtain ⟨reports, told, counted, all, ended, -⟩ := steadily [.read [] 5 0] stereo
    [.read [] 64 1, .prepare mono, .read [] 64 2, .read [] 1 3] (by simp [Call.isRead]) (by simp [mono, stereo])
  have three : reports.length = 3 := counted
  have third : 2 < reports.length := by omega
  rw [length] at all ended
  refine ⟨reports, reports[2], told, all, List.getElem?_eq_getElem third, ?_⟩
  rw [ended 2 _ (List.getElem?_eq_getElem third), List.take_of_length_le (Nat.le_of_eq three)]
  exact all

end Tone

end PcmOutput
