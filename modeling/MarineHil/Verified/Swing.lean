import Mathlib
import MarineHil.Verified.Reals

/-!
# A swing out of rest and back

The position of a body that starts at rest and moves with the velocity `A sin (w t)`.
It swings to one side only, and twice as far as a sine of that velocity does.

## Main results

* `hasDerivAt_swing`, `hasDerivAt_swing_velocity`: position, velocity and acceleration.
* `abs_swing_le`, `swing_half_turn`: the excursion, and where it is reached.
* `abs_swing_le_iff`: when the body is within half of it.
-/

namespace MarineHil.Verified

noncomputable def swing (A w t : ℝ) : ℝ := A / w * (1 - Real.cos (w * t))

variable {A w t : ℝ}

theorem hasDerivAt_phase (w t : ℝ) : HasDerivAt (fun u => w * u) w t := by
  have h := (hasDerivAt_id t).const_mul w
  rwa [mul_one] at h

theorem hasDerivAt_swing (hw : w ≠ 0) : HasDerivAt (swing A w) (A * Real.sin (w * t)) t := by
  have hcos : HasDerivAt (fun u => Real.cos (w * u)) (-Real.sin (w * t) * w) t :=
    (hasDerivAt_phase w t).cos
  have hswing := (hcos.const_sub 1).const_mul (A / w)
  refine hswing.congr_deriv ?_
  field_simp

theorem hasDerivAt_swing_velocity :
    HasDerivAt (fun u => A * Real.sin (w * u)) (A * w * Real.cos (w * t)) t := by
  have hsin : HasDerivAt (fun u => Real.sin (w * u)) (Real.cos (w * t) * w) t :=
    (hasDerivAt_phase w t).sin
  refine (hsin.const_mul A).congr_deriv ?_
  ring

/-! ## The excursion -/

theorem abs_swing (A w t : ℝ) : |swing A w t| = |A / w| * (1 - Real.cos (w * t)) := by
  rw [swing, abs_mul, abs_of_nonneg (sub_nonneg.mpr (Real.cos_le_one _))]

theorem abs_swing_le (A w t : ℝ) : |swing A w t| ≤ |A / w| * 2 := by
  rw [abs_swing]
  have hcos := Real.neg_one_le_cos (w * t)
  exact mul_le_mul_of_nonneg_left (by linarith) (abs_nonneg _)

/-- After half a turn the body is as far out as it goes. -/
theorem swing_half_turn (hw : w ≠ 0) : swing A w (Real.pi / w) = A / w * 2 := by
  rw [swing, mul_div_cancel₀ _ hw, Real.cos_pi]
  ring

/-- The body is within half of its excursion exactly in the quarter turns next to rest. -/
theorem abs_swing_le_iff (hw : w ≠ 0) :
    |swing A w t| ≤ |A / w| ↔ A = 0 ∨ |((w * t : ℝ) : Real.Angle).toReal| ≤ Real.pi / 2 := by
  rw [abs_swing, ← Real.Angle.cos_nonneg_iff_abs_toReal_le_pi_div_two, Real.Angle.cos_coe]
  by_cases hA : A = 0
  · rw [hA, zero_div, abs_zero, zero_mul]
    exact iff_of_true le_rfl (Or.inl rfl)
  · have hpos : 0 < |A / w| := abs_pos.mpr (div_ne_zero hA hw)
    rw [mul_le_iff_le_one_right hpos, or_iff_right hA, sub_le_self_iff]

end MarineHil.Verified
