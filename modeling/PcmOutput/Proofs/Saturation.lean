import Mathlib.Algebra.Group.Int.Defs
import Mathlib.Algebra.Group.Nat.Defs
import PcmOutput.Deadline

/-!
# Deadlines that saturate

Adding times, and turning frames into times, stops at the end of what 64 bits can tell. As long as nothing is negative
it makes no difference how often it stops on the way: the deadline is the exact one, cut off once.
-/

set_option autoImplicit false

namespace PcmOutput

/-- The number fits into 128 bits with a sign. -/
def Wide (number : Int) : Prop :=
  -2 ^ 127 ≤ number ∧ number < 2 ^ 127

/-- The nanoseconds of any number of frames within 64 bits can be told before they are divided by the rate. -/
theorem wide_nanos {frames : Int} (low : earliest ≤ frames) (high : frames ≤ latest) :
    Wide (frames * nanosPerSecond) := by
  simp only [Wide, earliest, latest, nanosPerSecond] at *
  omega

theorem clampTime_eq_min {time : Int} (nonneg : 0 ≤ time) : clampTime time = min latest time := by
  simp only [clampTime, earliest, latest]
  omega

theorem clampTime_nonneg {time : Int} (nonneg : 0 ≤ time) : 0 ≤ clampTime time := by
  simp only [clampTime, earliest, latest]
  omega

/-- A time that was cut off already is cut off again by what is added to it. -/
theorem clampTime_add_left {first second : Int} (nonneg : 0 ≤ first) (nonneg' : 0 ≤ second) :
    clampTime (clampTime first + second) = clampTime (first + second) := by
  simp only [clampTime, earliest, latest]
  omega

theorem clampTime_add {first second : Int} (nonneg : 0 ≤ first) (nonneg' : 0 ≤ second) :
    clampTime (clampTime first + clampTime second) = clampTime (first + second) := by
  rw [clampTime_add_left nonneg (clampTime_nonneg nonneg'), Int.add_comm, clampTime_add_left nonneg' nonneg,
    Int.add_comm]

/-! ## Durations -/

section Rated

variable {frames : Int} {rate : Nat}

theorem duration_nonneg (nonneg : 0 ≤ frames) : 0 ≤ frames * nanosPerSecond / rate :=
  Int.ediv_nonneg (Int.mul_nonneg nonneg (by decide)) (Int.natCast_nonneg rate)

theorem framesToNanos_eq (rated : 1 ≤ rate) (nonneg : 0 ≤ frames) :
    framesToNanos frames rate = clampTime (frames * nanosPerSecond / rate) := by
  have timed : rate ≠ 0 := by omega
  rw [framesToNanos, if_neg timed, Int.tdiv_eq_ediv_of_nonneg (Int.mul_nonneg nonneg (by decide))]

/-- At a rate of a frame each nanosecond or less, frames that are too many to be told last too long to be told. -/
theorem clampTime_long_duration (rated : 1 ≤ rate) (slow : rate ≤ 10 ^ 9) (many : latest ≤ frames) :
    clampTime (frames * nanosPerSecond / rate) = latest := by
  have long : latest ≤ frames * nanosPerSecond / rate := by
    apply (Int.le_ediv_iff_mul_le (by omega)).mpr
    calc latest * rate ≤ latest * nanosPerSecond :=
          Int.mul_le_mul_of_nonneg_left (by simp only [nanosPerSecond]; omega) (by decide)
      _ ≤ frames * nanosPerSecond := Int.mul_le_mul_of_nonneg_right many (by decide)
  rw [clampTime_eq_min (Int.le_trans (by decide) long)]
  exact Int.min_eq_left long

/-- So it makes no difference whether the frames or their duration are cut off. -/
theorem clampTime_duration (rated : 1 ≤ rate) (slow : rate ≤ 10 ^ 9) (nonneg : 0 ≤ frames) :
    clampTime (clampTime frames * nanosPerSecond / rate) = clampTime (frames * nanosPerSecond / rate) := by
  by_cases within : frames ≤ latest
  · rw [clampTime_of_mem (Int.le_trans (by decide) nonneg) within]
  · have beyond : latest ≤ frames := Int.le_of_not_le within
    rw [clampTime_eq_min nonneg, Int.min_eq_left beyond, clampTime_long_duration rated slow (Int.le_refl _),
      clampTime_long_duration rated slow beyond]

end Rated

/-! ## Deadlines -/

theorem ClockReading.nanos_time {seconds nanoseconds : Int} (nonneg : 0 ≤ seconds) (nonneg' : 0 ≤ nanoseconds) :
    (ClockReading.time seconds nanoseconds).nanos = clampTime (seconds * nanosPerSecond + nanoseconds) :=
  clampTime_add_left (Int.mul_nonneg nonneg (by decide)) nonneg'

theorem backlog_eq (written presented : Int) : backlog written presented = clampTime (max 0 (written - presented)) := by
  simp only [backlog, clampTime, earliest, latest]
  omega

/-- The present time, the duration of the frames and that of the backlog are added up and cut off once. -/
theorem presentationDeadline_eq {seconds nanoseconds : Int} {rate : Nat} (nonneg : 0 ≤ seconds)
    (nonneg' : 0 ≤ nanoseconds) (rated : 1 ≤ rate) (slow : rate ≤ 10 ^ 9) (frames : Nat) (written presented : Int) :
    presentationDeadline (ClockReading.time seconds nanoseconds).nanos frames written presented rate =
      min latest (seconds * nanosPerSecond + nanoseconds + frames * nanosPerSecond / rate +
        max 0 (written - presented) * nanosPerSecond / rate) := by
  have present : 0 ≤ seconds * nanosPerSecond + nanoseconds :=
    Int.add_nonneg (Int.mul_nonneg nonneg (by decide)) nonneg'
  have playing : 0 ≤ (frames : Int) * nanosPerSecond / rate := duration_nonneg (Int.natCast_nonneg frames)
  have queued : 0 ≤ max 0 (written - presented) := Int.le_max_left ..
  have waiting : 0 ≤ max 0 (written - presented) * nanosPerSecond / rate := duration_nonneg queued
  have backlogged : framesToNanos (backlog written presented) rate =
      clampTime (max 0 (written - presented) * nanosPerSecond / rate) := by
    rw [backlog_eq, framesToNanos_eq rated (clampTime_nonneg queued), clampTime_duration rated slow queued]
  rw [presentationDeadline, ClockReading.nanos_time nonneg nonneg', backlogged,
    framesToNanos_eq rated (Int.natCast_nonneg frames), clampTime_add present playing,
    clampTime_add (Int.add_nonneg present playing) waiting,
    clampTime_eq_min (Int.add_nonneg (Int.add_nonneg present playing) waiting)]

end PcmOutput
