import Mathlib.LinearAlgebra.CrossProduct
import Mathlib.LinearAlgebra.Matrix.DotProduct
import Mathlib.Analysis.SpecialFunctions.Trigonometric.Basic
import MarineHil.Verified.Reals

/-!
# Rotations of a hinged rigid body

The turn about a unit axis by an angle, by Rodrigues' formula, and the state of a rigid
body that turns about a hinge through the origin.

## Main results

* `dotProduct_rotate_self`: a turn keeps lengths.
* `rotate_eq_rotate_iff`: two turns about one axis agree exactly when their angles have
  the same cosine and sine.
* `turned_eq_hinged_iff`: exactly when a body that is turned where it stands is in a
  state of the hinge.
-/

namespace MarineHil.Verified

open Matrix

/-- Points, velocities and axes. -/
abbrev Vector3 : Type := Fin 3 → ℝ

/-! ## Turns -/

/-- The turn about a unit axis by an angle. -/
noncomputable def rotate (axis : Vector3) (angle : ℝ) (v : Vector3) : Vector3 :=
  Real.cos angle • v + Real.sin angle • (axis ⨯₃ v) +
    ((1 - Real.cos angle) * (axis ⬝ᵥ v)) • axis

section Rotate

variable {axis v : Vector3} {angle θ φ : ℝ}

/-- The turn of what is perpendicular to the axis. -/
theorem rotate_of_perp (h : axis ⬝ᵥ v = 0) :
    rotate axis angle v = Real.cos angle • v + Real.sin angle • (axis ⨯₃ v) := by
  rw [rotate, h, mul_zero, zero_smul, add_zero]

/-- Turns about opposite axes are opposite. -/
theorem rotate_neg_axis (axis : Vector3) (angle : ℝ) :
    rotate (-axis) angle = rotate axis (-angle) := by
  funext v
  have hcross : -axis ⨯₃ v = -(axis ⨯₃ v) := by rw [map_neg, LinearMap.neg_apply]
  rw [rotate, rotate, Real.cos_neg, Real.sin_neg, hcross, smul_neg, neg_smul, neg_dotProduct,
    mul_neg, smul_neg, neg_smul, neg_neg]

theorem rotate_zero (axis : Vector3) : rotate axis 0 = id := by
  funext v
  rw [rotate, Real.cos_zero, Real.sin_zero, one_smul, zero_smul, sub_self, zero_mul, zero_smul,
    add_zero, add_zero]
  rfl

/-- A unit axis is as far from a perpendicular vector as can be. -/
theorem cross_dot_self_of_perp (haxis : axis ⬝ᵥ axis = 1) (hperp : axis ⬝ᵥ v = 0) :
    axis ⨯₃ v ⬝ᵥ axis ⨯₃ v = v ⬝ᵥ v := by
  rw [cross_dot_cross, haxis, hperp, dotProduct_comm v axis, hperp, one_mul, zero_mul, sub_zero]

/-- What a turn leaves of a perpendicular vector along that vector, and what it
makes of it along the direction of the turn. -/
theorem dot_rotate_of_perp (haxis : axis ⬝ᵥ axis = 1) (hperp : axis ⬝ᵥ v = 0) (angle : ℝ) :
    v ⬝ᵥ rotate axis angle v = Real.cos angle * (v ⬝ᵥ v) ∧
      (axis ⨯₃ v) ⬝ᵥ rotate axis angle v = Real.sin angle * (v ⬝ᵥ v) := by
  rw [rotate_of_perp hperp]
  constructor
  · rw [dotProduct_add, dotProduct_smul, dotProduct_smul, dot_cross_self, smul_zero, add_zero,
      smul_eq_mul]
  · rw [dotProduct_add, dotProduct_smul, dotProduct_smul, dotProduct_comm, dot_cross_self,
      smul_zero, zero_add, cross_dot_self_of_perp haxis hperp, smul_eq_mul]

/-- **A turn keeps lengths.** -/
theorem dotProduct_rotate_self (haxis : axis ⬝ᵥ axis = 1) (hperp : axis ⬝ᵥ v = 0) :
    rotate axis angle v ⬝ᵥ rotate axis angle v = v ⬝ᵥ v := by
  obtain ⟨halong, hacross⟩ := dot_rotate_of_perp haxis hperp angle
  nth_rewrite 1 [rotate_of_perp hperp]
  rw [add_dotProduct, smul_dotProduct, smul_dotProduct, halong, hacross, smul_eq_mul, smul_eq_mul]
  linear_combination (v ⬝ᵥ v) * Real.cos_sq_add_sin_sq angle

theorem rotate_eq_zero_iff (haxis : axis ⬝ᵥ axis = 1) (hperp : axis ⬝ᵥ v = 0) :
    rotate axis angle v = 0 ↔ v = 0 := by
  rw [← dotProduct_self_eq_zero, dotProduct_rotate_self haxis hperp, dotProduct_self_eq_zero]

/-- A turn leaves what is perpendicular to its axis perpendicular. -/
theorem dot_rotate_axis (hperp : axis ⬝ᵥ v = 0) : axis ⬝ᵥ rotate axis angle v = 0 := by
  rw [rotate_of_perp hperp, dotProduct_add, dotProduct_smul, dotProduct_smul, hperp,
    dot_self_cross, smul_zero, smul_zero, add_zero]

/-- **Only whole turns fix a vector perpendicular to the axis.** -/
theorem rotate_eq_self_iff (haxis : axis ⬝ᵥ axis = 1) (hperp : axis ⬝ᵥ v = 0) :
    rotate axis angle v = v ↔ Real.cos angle = 1 ∨ v = 0 := by
  constructor
  · intro h
    by_cases hv : v = 0
    · exact Or.inr hv
    · have hdot := (dot_rotate_of_perp haxis hperp angle).1
      rw [h] at hdot
      exact Or.inl ((right_eq_mul₀ (mt dotProduct_self_eq_zero.mp hv)).mp hdot)
  · rintro (hcos | rfl)
    · have hsin : Real.sin angle = 0 := Real.sin_eq_zero_iff_cos_eq.mpr (Or.inl hcos)
      rw [rotate_of_perp hperp, hcos, hsin, one_smul, zero_smul, add_zero]
    · exact (rotate_eq_zero_iff haxis hperp).mpr rfl

/-- **Turns about one axis agree for the same cosine and sine.** -/
theorem rotate_eq_rotate_iff (haxis : axis ⬝ᵥ axis = 1) (hperp : axis ⬝ᵥ v = 0) (hv : v ≠ 0) :
    rotate axis θ = rotate axis φ ↔ Real.cos θ = Real.cos φ ∧ Real.sin θ = Real.sin φ := by
  constructor
  · intro h
    obtain ⟨hcosθ, hsinθ⟩ := dot_rotate_of_perp haxis hperp θ
    obtain ⟨hcosφ, hsinφ⟩ := dot_rotate_of_perp haxis hperp φ
    have hne : v ⬝ᵥ v ≠ 0 := mt dotProduct_self_eq_zero.mp hv
    rw [h] at hcosθ hsinθ
    exact ⟨mul_right_cancel₀ hne (hcosθ.symm.trans hcosφ),
      mul_right_cancel₀ hne (hsinθ.symm.trans hsinφ)⟩
  · rintro ⟨hcos, hsin⟩
    funext u
    rw [rotate, rotate, hcos, hsin]

end Rotate

/-! ## A body on a hinge -/

/-- What the pose and the velocities of a rigid body are: its rotation, and the place
and the velocity of its centre of mass. -/
@[ext]
structure RigidBody where
  rot : Vector3 → Vector3
  pos : Vector3
  posDt : Vector3
  angVel : Vector3

/-- A body on a hinge through the origin, with its centre of mass on an arm. -/
noncomputable def hinged (axis arm : Vector3) (angle rate : ℝ) : RigidBody where
  rot := rotate axis angle
  pos := rotate axis angle arm
  posDt := (rate • axis) ⨯₃ (rotate axis angle arm)
  angVel := rate • axis

/-- A body turned where it stands: its centre of mass stays at rest where it was. -/
noncomputable def turned (axis arm : Vector3) (angle rate : ℝ) : RigidBody where
  rot := rotate axis angle
  pos := arm
  posDt := 0
  angVel := rate • axis

section Hinge

variable {axis arm v : Vector3} {θ φ ω μ : ℝ}

/-- One hinge seen along either direction of its axis. -/
theorem hinged_neg_axis (axis arm : Vector3) (θ ω : ℝ) :
    hinged (-axis) arm θ ω = hinged axis arm (-θ) (-ω) := by
  unfold hinged
  rw [rotate_neg_axis, smul_neg, neg_smul]

/-- The hinge moves the centre of mass unless it is at rest or has no arm. -/
theorem hinged_posDt_eq_zero_iff (haxis : axis ⬝ᵥ axis = 1) (hperp : axis ⬝ᵥ arm = 0) :
    (hinged axis arm φ μ).posDt = 0 ↔ μ = 0 ∨ arm = 0 := by
  have hcross : axis ⨯₃ rotate axis φ arm = 0 ↔ arm = 0 := by
    rw [← dotProduct_self_eq_zero, cross_dot_self_of_perp haxis (dot_rotate_axis hperp),
      dotProduct_rotate_self haxis hperp, dotProduct_self_eq_zero]
  have hposDt : (hinged axis arm φ μ).posDt = μ • (axis ⨯₃ rotate axis φ arm) := by
    show (μ • axis) ⨯₃ rotate axis φ arm = _
    rw [map_smul, LinearMap.smul_apply]
  rw [hposDt, smul_eq_zero, hcross]

/-- **Exactly when a body turned where it stands is in a state of the hinge.** -/
theorem turned_eq_hinged_iff (haxis : axis ⬝ᵥ axis = 1) (hperp : axis ⬝ᵥ arm = 0) :
    turned axis arm θ ω = hinged axis arm φ μ ↔
      rotate axis θ = rotate axis φ ∧ (Real.cos φ = 1 ∨ arm = 0) ∧ (μ = 0 ∨ arm = 0) ∧
        ω = μ := by
  have haxis0 : axis ≠ 0 := by
    rintro rfl
    rw [dotProduct_zero] at haxis
    exact zero_ne_one haxis
  have hpos : arm = rotate axis φ arm ↔ Real.cos φ = 1 ∨ arm = 0 :=
    eq_comm.trans (rotate_eq_self_iff haxis hperp)
  have hposDt : 0 = (hinged axis arm φ μ).posDt ↔ μ = 0 ∨ arm = 0 :=
    eq_comm.trans (hinged_posDt_eq_zero_iff haxis hperp)
  have hrate : ω • axis = μ • axis ↔ ω = μ := (smul_left_injective ℝ haxis0).eq_iff
  rw [← hpos, ← hposDt, ← hrate]
  exact RigidBody.ext_iff

end Hinge

end MarineHil.Verified
