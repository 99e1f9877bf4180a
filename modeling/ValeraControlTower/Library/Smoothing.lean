import Mathlib

/-!
# Exponential smoothing

A smoothed value moves part of the way to what is observed.  The part left out after some
time is an exponential, so it multiplies when times add up: observing the same value twice
within a time moves as far as observing it once at its end.
-/

namespace Smoothing

/-- Part of the way from `value` to `goal`. -/
def approach (gain value goal : ℝ) : ℝ := value + gain * (goal - value)

/-- The part of the way taken in a time; without a time constant it is all of it. -/
noncomputable def gain (timeConstant elapsed : ℝ) : ℝ :=
  if timeConstant = 0 then 1 else 1 - Real.exp (-elapsed / timeConstant)

variable {timeConstant : ℝ}

theorem gain_nonneg (nonnegative : 0 ≤ timeConstant) {elapsed : ℝ} (forward : 0 ≤ elapsed) :
    0 ≤ gain timeConstant elapsed := by
  unfold gain
  split
  · exact zero_le_one
  · have decays : Real.exp (-elapsed / timeConstant) ≤ 1 := by
      apply Real.exp_le_one_iff.mpr
      apply div_nonpos_of_nonpos_of_nonneg
      · exact neg_nonpos.mpr forward
      · exact nonnegative
    exact sub_nonneg.mpr decays

theorem gain_le_one (timeConstant elapsed : ℝ) : gain timeConstant elapsed ≤ 1 := by
  unfold gain
  split
  · exact le_rfl
  · exact sub_le_self 1 (Real.exp_pos _).le

/-- What is left of the way multiplies when times add up. -/
theorem gain_add (timeConstant first second : ℝ) :
    1 - gain timeConstant (first + second) =
      (1 - gain timeConstant first) * (1 - gain timeConstant second) := by
  unfold gain
  split
  · ring
  · rw [sub_sub_cancel, sub_sub_cancel, sub_sub_cancel, ← Real.exp_add]
    congr 1
    ring

/-- A smoothed value stays in every convex set that holds it and what is observed. -/
theorem approach_mem {region : Set ℝ} (convex : Convex ℝ region) {gain value goal : ℝ}
    (inside : value ∈ region) (seen : goal ∈ region) (nonnegative : 0 ≤ gain) (part : gain ≤ 1) :
    approach gain value goal ∈ region := by
  have mixed : approach gain value goal = (1 - gain) • value + gain • goal := by
    simp only [approach, smul_eq_mul]
    ring
  rw [mixed]
  apply convex inside seen (sub_nonneg.mpr part) nonnegative
  ring

/-- Observing a value once more on the way there changes nothing. -/
theorem approach_approach (timeConstant first second value goal : ℝ) :
    approach (gain timeConstant second) (approach (gain timeConstant first) value goal) goal =
      approach (gain timeConstant (first + second)) value goal := by
  have left := gain_add timeConstant first second
  unfold approach
  calc value + gain timeConstant first * (goal - value) +
        gain timeConstant second * (goal - (value + gain timeConstant first * (goal - value)))
      = goal - (1 - gain timeConstant first) * (1 - gain timeConstant second) * (goal - value) := by
        ring
    _ = value + gain timeConstant (first + second) * (goal - value) := by
        rw [← left]
        ring

end Smoothing
