import Mathlib
import PcmOutput.Proofs.Saturation

/-!
# What makes a deadline later

A deadline never comes earlier for a later present time, for more frames or for more frames written, nor later for more
frames presented. This is so whatever the numbers are: cutting off toward zero and stopping at either end keep the order.
As long as the end of time is not reached, even a single frame more makes it later.
-/

set_option autoImplicit false

namespace PcmOutput

section Ordered

variable {frames frames' now now' written written' presented presented' : Int} {rate : Nat}

theorem framesToNanos_le (more : frames ≤ frames') : framesToNanos frames rate ≤ framesToNanos frames' rate := by
  unfold framesToNanos
  split
  · exact Int.le_refl 0
  · rename_i timed
    have positive : (0 : Int) < rate := Int.natCast_pos.mpr (Nat.pos_of_ne_zero timed)
    have scaled : frames * nanosPerSecond ≤ frames' * nanosPerSecond :=
      Int.mul_le_mul_of_nonneg_right more (by decide)
    exact clampTime_mono (Int.tdiv_le_tdiv positive scaled)

theorem backlog_le (more : written ≤ written') (fewer : presented' ≤ presented) :
    backlog written presented ≤ backlog written' presented' := by
  have queued : clampTime (written - presented) ≤ clampTime (written' - presented') := clampTime_mono (by omega)
  unfold backlog
  omega

theorem presentationDeadline_le (later : now ≤ now') (more : frames ≤ frames') (more' : written ≤ written')
    (fewer : presented' ≤ presented) :
    presentationDeadline now frames written presented rate ≤ presentationDeadline now' frames' written' presented' rate := by
  have playing : framesToNanos frames rate ≤ framesToNanos frames' rate := framesToNanos_le more
  have waiting := @framesToNanos_le _ _ rate (backlog_le more' fewer)
  have begun : clampTime (now + framesToNanos frames rate) ≤ clampTime (now' + framesToNanos frames' rate) :=
    clampTime_mono (Int.add_le_add later playing)
  exact clampTime_mono (Int.add_le_add begun waiting)

/-! ## One frame more -/

theorem clampTime_lt {first second : Int} (ordered : first < second) (low : earliest ≤ first)
    (within : clampTime second < latest) : clampTime first < clampTime second := by
  simp only [clampTime, earliest, latest] at *
  omega

/-- A frame takes at least a nanosecond, so that it is not lost when the duration is cut off. -/
theorem duration_lt (rated : 1 ≤ rate) (slow : rate ≤ 10 ^ 9) (more : frames < frames') :
    frames * nanosPerSecond / rate < frames' * nanosPerSecond / rate := by
  have lasting : (rate : Int) ≤ nanosPerSecond := by
    simp only [nanosPerSecond]
    omega
  have next : frames * nanosPerSecond + rate ≤ frames' * nanosPerSecond := by
    calc frames * nanosPerSecond + rate ≤ frames * nanosPerSecond + nanosPerSecond := Int.add_le_add_left lasting _
      _ = (frames + 1) * nanosPerSecond := by rw [Int.add_mul, Int.one_mul]
      _ ≤ frames' * nanosPerSecond := Int.mul_le_mul_of_nonneg_right more (by decide)
  apply Int.lt_of_add_one_le
  calc frames * nanosPerSecond / rate + 1 = (frames * nanosPerSecond + rate) / rate := by
        rw [Int.add_ediv_of_dvd_right (Int.dvd_refl _), Int.ediv_self (by omega)]
    _ ≤ frames' * nanosPerSecond / rate := Int.ediv_le_ediv (by omega) next

theorem framesToNanos_backlog_nonneg : 0 ≤ framesToNanos (backlog written presented) rate := by
  have queued : 0 ≤ backlog written presented := Int.le_max_right ..
  unfold framesToNanos
  split
  · exact Int.le_refl 0
  · exact clampTime_nonneg (Int.tdiv_nonneg (Int.mul_nonneg queued (by decide)) (Int.natCast_nonneg rate))

/-- From the start of time on, only the end of time cuts a deadline off. -/
theorem presentationDeadline_cut (present : 0 ≤ now) (rated : 1 ≤ rate) (nonneg : 0 ≤ frames) :
    presentationDeadline now frames written presented rate =
      clampTime (now + frames * nanosPerSecond / rate + framesToNanos (backlog written presented) rate) := by
  have playing : 0 ≤ frames * nanosPerSecond / rate := duration_nonneg nonneg
  have begun : clampTime (now + clampTime (frames * nanosPerSecond / rate)) =
      clampTime (now + frames * nanosPerSecond / rate) := by
    rw [Int.add_comm, clampTime_add_left playing present, Int.add_comm]
  rw [presentationDeadline, framesToNanos_eq rated nonneg, begun,
    clampTime_add_left (Int.add_nonneg present playing) framesToNanos_backlog_nonneg]

theorem presentationDeadline_lt (present : 0 ≤ now) (rated : 1 ≤ rate) (slow : rate ≤ 10 ^ 9) (nonneg : 0 ≤ frames)
    (more : frames < frames') (within : presentationDeadline now frames' written presented rate < latest) :
    presentationDeadline now frames written presented rate < presentationDeadline now frames' written presented rate := by
  have nonneg' : 0 ≤ frames' := Int.le_of_lt (Int.lt_of_le_of_lt nonneg more)
  rw [presentationDeadline_cut present rated nonneg'] at within ⊢
  rw [presentationDeadline_cut present rated nonneg]
  have playing : 0 ≤ frames * nanosPerSecond / rate := duration_nonneg nonneg
  have longer : frames * nanosPerSecond / rate < frames' * nanosPerSecond / rate := duration_lt rated slow more
  have waiting : 0 ≤ framesToNanos (backlog written presented) rate := framesToNanos_backlog_nonneg
  refine clampTime_lt (by omega) ?_ within
  simp only [earliest]
  omega

end Ordered

/--
At every rate, and whatever the other numbers are, the deadline does not fall as the present time, the frames or the
frames written grow, and does not rise as the frames presented do. At a rate of up to a frame each nanosecond, and from
the start of time on, every frame more makes the deadline later, unless the later one is at the end of time.
-/
theorem presentationDeadline_ordered (rate : Nat) :
    (∀ frames written presented, Monotone fun now => presentationDeadline now frames written presented rate) ∧
    (∀ now written presented, Monotone fun frames => presentationDeadline now frames written presented rate) ∧
    (∀ now frames presented, Monotone fun written => presentationDeadline now frames written presented rate) ∧
    (∀ now frames written, Antitone fun presented => presentationDeadline now frames written presented rate) ∧
    ∀ now written presented fewer more : Int, 0 ≤ now → 1 ≤ rate → rate ≤ 10 ^ 9 → 0 ≤ fewer → fewer < more →
      presentationDeadline now more written presented rate < 2 ^ 63 - 1 →
        presentationDeadline now fewer written presented rate < presentationDeadline now more written presented rate := by
  refine ⟨?_, ?_, ?_, ?_, ?_⟩
  · intro frames written presented now now' later
    exact presentationDeadline_le later (Int.le_refl _) (Int.le_refl _) (Int.le_refl _)
  · intro now written presented frames frames' more
    exact presentationDeadline_le (Int.le_refl _) more (Int.le_refl _) (Int.le_refl _)
  · intro now frames presented written written' more
    exact presentationDeadline_le (Int.le_refl _) (Int.le_refl _) more (Int.le_refl _)
  · intro now frames written presented presented' more
    exact presentationDeadline_le (Int.le_refl _) (Int.le_refl _) (Int.le_refl _) more
  · intro now written presented fewer more present rated slow nonneg longer within
    exact presentationDeadline_lt present rated slow nonneg longer within

/-- Thirty microseconds before the end of time, one frame fits in and the second one does not. -/
theorem presentationDeadline_at_the_end :
    let now : Int := 2 ^ 63 - 1 - 30000
    presentationDeadline now 0 0 0 44100 < presentationDeadline now 1 0 0 44100 ∧
      presentationDeadline now 2 0 0 44100 = presentationDeadline now 3 0 0 44100 := by
  intro now
  obtain ⟨-, -, -, -, later⟩ := presentationDeadline_ordered 44100
  exact ⟨later now 0 0 0 1 (by decide) (by decide) (by decide) (by decide) (by decide) (by decide), by decide⟩

end PcmOutput
