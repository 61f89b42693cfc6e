import MarineHil.Verified.Swing
import MarineHil.Ports.VelocityPidNode

/-!
# The excursion of the position reference

With a frequency the trajectory of both controllers is a swing from the position
setpoint, in the modes that follow a position: velocity and acceleration are its
derivatives.  It starts at the setpoint at rest and so leaves it to one side only, by up
to twice the quotient of amplitude and frequency.

## Main results

* `swingRef_excursion`: how far a swing goes.
* `reference_excursion`: the references of the two controllers.
* `reference_excursion_iff`: when they keep to half of that, the peak of a swing about the
  setpoint.
-/

namespace MarineHil.Ports

open MarineHil.Verified

/-- The C mathematics library over the reals. -/
noncomputable def realLibm (unspecified : ℝ → ℤ) : Libm ℝ := ⟨Real.sin, Real.cos, unspecified⟩

/-- The swing of amplitude `A` and frequency `w` from the setpoint `s`. -/
noncomputable def swingRef (A w s t : ℝ) : TrajectoryRef ℝ where
  pos := s + swing A w t
  vel := A * Real.sin (w * t)
  accel := A * w * Real.cos (w * t)

/-- What a reference does at `t`: it is within `peak` of the setpoint `s`, and velocity
and acceleration are its derivatives. -/
structure TrajectoryRef.Swings (ref : ℝ → TrajectoryRef ℝ) (s peak t : ℝ) : Prop where
  excursion : |(ref t).pos - s| ≤ peak
  velocity : HasDerivAt (fun u => (ref u).pos) (ref t).vel t
  acceleration : HasDerivAt (fun u => (ref u).vel) (ref t).accel t

theorem swingRef_swings {A w : ℝ} (hw : w ≠ 0) {s t peak : ℝ}
    (h : |(swingRef A w s t).pos - s| ≤ peak) :
    TrajectoryRef.Swings (swingRef A w s) s peak t :=
  ⟨h, (hasDerivAt_swing hw).const_add s, hasDerivAt_swing_velocity⟩

theorem swingRef_swings_iff {A w : ℝ} (hw : w ≠ 0) (s t : ℝ) :
    TrajectoryRef.Swings (swingRef A w s) s |A / w| t ↔
      A = 0 ∨ |((w * t : ℝ) : Real.Angle).toReal| ≤ Real.pi / 2 := by
  rw [← abs_swing_le_iff hw]
  have hexcursion : |(swingRef A w s t).pos - s| = |swing A w t| :=
    congrArg abs (add_sub_cancel_left s _)
  constructor
  · intro h
    rw [← hexcursion]
    exact h.excursion
  · intro h
    exact swingRef_swings hw (hexcursion.le.trans h)

/-- A swing goes up to twice the quotient of amplitude and frequency, and does so after
half a period. -/
theorem swingRef_excursion {A w : ℝ} (hw : w ≠ 0) (s : ℝ) :
    (∀ t, |(swingRef A w s t).pos - s| ≤ |A / w| * 2) ∧
      |(swingRef A w s (Real.pi / w)).pos - s| = |A / w| * 2 := by
  have hexcursion (t : ℝ) : (swingRef A w s t).pos - s = swing A w t := add_sub_cancel_left s _
  constructor
  · intro t
    rw [hexcursion]
    exact abs_swing_le A w t
  · rw [hexcursion, swing_half_turn hw, abs_mul, abs_two]

/-- A frequency the controllers take for one. -/
theorem lit_lt_fabs_iff {w : ℝ} : (lit 1e-9 : ℝ) < fabs w ↔ 1e-9 < |w| := by
  rw [lit_real, fabs_real]
  norm_num

theorem ne_zero_of_lt_abs {w : ℝ} (h : 1e-9 < |w|) : w ≠ 0 := by
  rintro rfl
  rw [abs_zero] at h
  norm_num at h

section Controllers

variable (unspecified : ℝ → ℤ)

theorem VelocityPidNode.computeTrajectory_swings {s : VelocityPidNode ℝ}
    (hmode : s.controlMode ≠ .velocityOnly) (hw : 1e-9 < |s.omegaRadS|) :
    s.computeTrajectory (realLibm unspecified) =
      swingRef s.amplitudeRadS s.omegaRadS s.positionSetpoint := by
  funext t
  rw [computeTrajectory, if_pos (lit_lt_fabs_iff.mpr hw), if_neg hmode, lit_real, Rat.cast_one]
  rfl

theorem ShadowPidController.trajectory_swings {c : ShadowPidController ℝ}
    (hmode : c.controlMode ≠ .velocityOnly) (hw : 1e-9 < |c.omegaRadS|) :
    c.trajectory (realLibm unspecified) =
      swingRef c.amplitudeRadS c.omegaRadS c.positionSetpoint := by
  funext t
  rw [trajectory, if_pos (lit_lt_fabs_iff.mpr hw), if_neg hmode, lit_real, Rat.cast_one]
  rfl

/-- **The references of both controllers** keep within twice the quotient of amplitude and
frequency, with velocity and acceleration their derivatives. -/
theorem reference_excursion {s : VelocityPidNode ℝ} {c : ShadowPidController ℝ}
    (hs : s.controlMode ≠ .velocityOnly) (hsw : 1e-9 < |s.omegaRadS|)
    (hc : c.controlMode ≠ .velocityOnly) (hcw : 1e-9 < |c.omegaRadS|) (t : ℝ) :
    TrajectoryRef.Swings (s.computeTrajectory (realLibm unspecified)) s.positionSetpoint
        (|s.amplitudeRadS / s.omegaRadS| * 2) t ∧
      TrajectoryRef.Swings (c.trajectory (realLibm unspecified)) c.positionSetpoint
        (|c.amplitudeRadS / c.omegaRadS| * 2) t := by
  have hsne := ne_zero_of_lt_abs hsw
  have hcne := ne_zero_of_lt_abs hcw
  rw [s.computeTrajectory_swings unspecified hs hsw, c.trajectory_swings unspecified hc hcw]
  exact ⟨swingRef_swings hsne ((swingRef_excursion hsne _).1 t),
    swingRef_swings hcne ((swingRef_excursion hcne _).1 t)⟩

/-- They keep to half of that, the peak of a swing about the setpoint, exactly at the
phases within a quarter turn of rest, or without an amplitude. -/
theorem reference_excursion_iff {s : VelocityPidNode ℝ} {c : ShadowPidController ℝ}
    (hs : s.controlMode ≠ .velocityOnly) (hsw : 1e-9 < |s.omegaRadS|)
    (hc : c.controlMode ≠ .velocityOnly) (hcw : 1e-9 < |c.omegaRadS|) (t : ℝ) :
    (TrajectoryRef.Swings (s.computeTrajectory (realLibm unspecified)) s.positionSetpoint
        |s.amplitudeRadS / s.omegaRadS| t ↔
      s.amplitudeRadS = 0 ∨ |((s.omegaRadS * t : ℝ) : Real.Angle).toReal| ≤ Real.pi / 2) ∧
    (TrajectoryRef.Swings (c.trajectory (realLibm unspecified)) c.positionSetpoint
        |c.amplitudeRadS / c.omegaRadS| t ↔
      c.amplitudeRadS = 0 ∨ |((c.omegaRadS * t : ℝ) : Real.Angle).toReal| ≤ Real.pi / 2) := by
  rw [s.computeTrajectory_swings unspecified hs hsw, c.trajectory_swings unspecified hc hcw]
  exact ⟨swingRef_swings_iff (ne_zero_of_lt_abs hsw) _ t,
    swingRef_swings_iff (ne_zero_of_lt_abs hcw) _ t⟩

end Controllers

/-- The node at its defaults, with a trajectory of amplitude and frequency one. -/
noncomputable def swingingNode : VelocityPidNode ℝ :=
  { VelocityPidNode.start Launch.empty 0 0 with amplitudeRadS := 1, omegaRadS := 1 }

/-- The shadow controller likewise. -/
noncomputable def swingingShadow : ShadowPidController ℝ :=
  { ShadowPidController.fresh with amplitudeRadS := 1, omegaRadS := 1 }

theorem swingingNode_mode : swingingNode.controlMode ≠ .velocityOnly := by
  show (ControlMode.ofString "position_only").getD .positionOnly ≠ .velocityOnly
  decide

theorem swinging_within_twice :
    TrajectoryRef.Swings (swingingNode.computeTrajectory (realLibm fun _ => 0))
        swingingNode.positionSetpoint
        (|swingingNode.amplitudeRadS / swingingNode.omegaRadS| * 2) Real.pi ∧
      TrajectoryRef.Swings (swingingShadow.trajectory (realLibm fun _ => 0))
        swingingShadow.positionSetpoint
        (|swingingShadow.amplitudeRadS / swingingShadow.omegaRadS| * 2) Real.pi := by
  have hw : (1e-9 : ℝ) < |(1 : ℝ)| := by norm_num
  exact reference_excursion (fun _ => 0) swingingNode_mode hw (c := swingingShadow) (by decide)
    hw Real.pi

/-- After half a period both are two radians from the setpoint, twice the quotient of
amplitude and frequency. -/
theorem swinging_at_half_turn :
    ¬TrajectoryRef.Swings (swingingNode.computeTrajectory (realLibm fun _ => 0))
        swingingNode.positionSetpoint |swingingNode.amplitudeRadS / swingingNode.omegaRadS|
        Real.pi ∧
      ¬TrajectoryRef.Swings (swingingShadow.trajectory (realLibm fun _ => 0))
        swingingShadow.positionSetpoint
        |swingingShadow.amplitudeRadS / swingingShadow.omegaRadS| Real.pi := by
  have hw : (1e-9 : ℝ) < |(1 : ℝ)| := by norm_num
  have hfar (s : ℝ) : ¬TrajectoryRef.Swings (swingRef 1 1 s) s |1 / 1| Real.pi := by
    intro h
    have hreached := (swingRef_excursion (A := 1) one_ne_zero s).2
    have hpeak := h.excursion
    rw [div_one] at hreached
    rw [hreached] at hpeak
    norm_num at hpeak
  rw [swingingNode.computeTrajectory_swings _ swingingNode_mode hw,
    swingingShadow.trajectory_swings _ (by decide) hw]
  exact ⟨hfar _, hfar _⟩

end MarineHil.Ports
