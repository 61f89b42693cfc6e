import MarineHil.Ports.PidSpecialValues
import MarineHil.Ports.VelocityPidDemand

/-!
# One control step of `VelocityPidNode` on NaN feedback

With finite settings a control step is finite as long as everything it reads
is.  This module follows a NaN through one mode dispatch: through the position
PID into the setpoint of the inner loop, through either PID into the torque,
and into the state that the next step reads.

## Main results

* `inner_isFinite`, `position_isFinite`: the finite cases.
* `inner_of_nan`, `position_of_nan`: a NaN sum makes the torque NaN and puts the
  saturation flag down.
* `velSetpoint_isFinite`, `velSetpoint_of_nan`: the outer loop.
-/

namespace MarineHil.Ports.VelocityPidNode

open MarineHil.Verified
open MarineHil.Verified.ExtRat
open PidController

/-! ## Finite settings -/

/-- The members that the control law computes with are numbers, and the torque
limit is positive. -/
structure FiniteMembers (m : VelocityPidMembers ExtRat) : Prop where
  amplitudeRadS : m.amplitudeRadS.IsFinite
  omegaRadS : m.omegaRadS.IsFinite
  kp : m.kp.IsFinite
  ki : m.ki.IsFinite
  kd : m.kd.IsFinite
  kff : m.kff.IsFinite
  kaff : m.kaff.IsFinite
  torqueLimitNm : ∃ b, m.torqueLimitNm = fin b ∧ 0 < b
  integralLimit : m.integralLimit.IsFinite
  kpPos : m.kpPos.IsFinite
  kiPos : m.kiPos.IsFinite
  kdPos : m.kdPos.IsFinite
  posIntegralLimit : m.posIntegralLimit.IsFinite
  posOutputLimit : m.posOutputLimit.IsFinite
  filterAlpha : m.filterAlpha.IsFinite
  positionSetpoint : m.positionSetpoint.IsFinite

/-- What holds of the node whatever the feedback was. -/
structure FiniteSettings (s : VelocityPidNode ExtRat) : Prop where
  members : FiniteMembers s.toVelocityPidMembers
  configured : s.PidsConfigured
  dt : s.dt.IsFinite ∧ 0 < s.dt
  accum : s.outerDtAccum.IsFinite ∧ 0 ≤ s.outerDtAccum

/-- The mathematics library gives numbers for numbers. -/
def LibmFinite (m : Libm ExtRat) : Prop :=
  ∀ x : ExtRat, x.IsFinite → (m.sin x).IsFinite ∧ (m.cos x).IsFinite

/-- The reference and the `dt` of a tick are numbers, and time passes. -/
structure FiniteTick (traj : TrajectoryRef ExtRat) (dt : ExtRat) : Prop where
  pos : traj.pos.IsFinite
  vel : traj.vel.IsFinite
  accel : traj.accel.IsFinite
  step : dt.IsFinite
  positive : 0 < dt

section Settings

variable {s : VelocityPidNode ExtRat}

theorem FiniteSettings.velGains (h : s.FiniteSettings) : s.velPid.FiniteGains := by
  obtain ⟨hkp, hki, hkd, hlimit, _, hmin, hmax⟩ := h.configured.vel
  refine ⟨?_, ?_, ?_, ?_, ?_, ?_⟩
  · rw [hkp]; exact h.members.kp
  · rw [hki]; exact h.members.ki
  · rw [hkd]; exact h.members.kd
  · rw [hlimit]; exact h.members.integralLimit
  · rw [hmin]; exact isFinite_fin _
  · rw [hmax]; exact isFinite_fin _

theorem FiniteSettings.posGains (h : s.FiniteSettings) : s.posPid.FiniteGains := by
  obtain ⟨hkp, hki, hkd, hlimit, _, hmin, hmax⟩ := h.configured.pos
  refine ⟨?_, ?_, ?_, ?_, ?_, ?_⟩
  · rw [hkp]; exact h.members.kpPos
  · rw [hki]; exact h.members.kiPos
  · rw [hkd]; exact h.members.kdPos
  · rw [hlimit]; exact h.members.posIntegralLimit
  · rw [hmin]; exact isFinite_fin _
  · rw [hmax]; exact isFinite_fin _

theorem FiniteSettings.trajectoryAt (h : s.FiniteSettings) {m : Libm ExtRat}
    (hm : LibmFinite m) (now : Time) : FiniteTick (s.trajectoryAt m now) (s.stepDt now) := by
  have hone : (lit 1 : ExtRat).IsFinite := isFinite_lit 1
  have hphase : (s.omegaRadS * seconds (now - s.startTime) : ExtRat).IsFinite :=
    h.members.omegaRadS.mul (isFinite_lit _)
  obtain ⟨hsin, hcos⟩ := hm _ hphase
  have hdt : (s.stepDt now : ExtRat).IsFinite ∧ 0 < (s.stepDt now : ExtRat) := by
    unfold stepDt
    by_cases hpos : (0 : ExtRat) < seconds (now - s.lastLoopTime)
    · rw [if_pos hpos]
      exact ⟨isFinite_lit _, hpos⟩
    · rw [if_neg hpos]
      exact h.dt
  unfold VelocityPidNode.trajectoryAt computeTrajectory
  by_cases homega : lit 1e-9 < fabs s.omegaRadS
  · rw [if_pos homega]
    have hne : s.omegaRadS ≠ 0 := by
      intro hzero
      rw [hzero, zero_def, fabs_fin, lit_def, fin_lt] at homega
      norm_num at homega
    refine ⟨?_, h.members.amplitudeRadS.mul hsin,
      (h.members.amplitudeRadS.mul h.members.omegaRadS).mul hcos, hdt.1, hdt.2⟩
    dsimp only
    split
    · exact h.members.positionSetpoint
    · exact h.members.positionSetpoint.add
        ((h.members.amplitudeRadS.div h.members.omegaRadS hne).mul (hone.sub hcos))
  · rw [if_neg homega]
    exact ⟨h.members.positionSetpoint, isFinite_zero, isFinite_zero, hdt.1, hdt.2⟩

end Settings

/-! ## The torque -/

/-- The torque is a number within the limit. -/
def BoundedTorque (s : VelocityPidNode ExtRat) (torque : ExtRat) : Prop :=
  ∃ q b, torque = fin q ∧ s.torqueLimitNm = fin b ∧ |q| ≤ b

theorem BoundedTorque.ne_nan {s : VelocityPidNode ExtRat} {torque : ExtRat}
    (h : s.BoundedTorque torque) : torque ≠ nan := by
  obtain ⟨q, _, rfl, _⟩ := h
  exact (isFinite_fin q).ne_nan

section Step

variable {s : VelocityPidNode ExtRat} {m : Libm ExtRat} {traj : TrajectoryRef ExtRat}
  {dt : ExtRat}

/-- A finite demand gives a bounded torque. -/
theorem boundedTorque_of_demand (h : s.FiniteSettings) (hd : (s.demand m traj dt).IsFinite) :
    s.BoundedTorque (s.dispatch m traj dt).torque := by
  obtain ⟨b, hb, hpos⟩ := h.members.torqueLimitNm
  obtain ⟨x, hx⟩ := isFinite_iff.mp hd
  refine ⟨clamp x (-b) b, b, ?_, hb, abs_clamp_le hpos.le⟩
  rw [dispatch_torque, hx, hb, clamp_neg_fin]

theorem torque_of_nan_demand (hd : s.demand m traj dt = nan) :
    (s.dispatch m traj dt).torque = nan := by
  rw [dispatch_torque, hd, clamp_nan]

/-- After a NaN torque the saturation flag is down. -/
theorem not_saturated_of_nan {limit torque : ExtRat} (h : torque = nan) :
    decide (limit ≤ fabs torque) = false := by
  rw [h, fabs_nan]
  exact decide_eq_false (not_le_nan limit)

/-! ## The inner loop -/

theorem feedforward_isFinite (h : s.FiniteSettings) {setpoint accel : ExtRat}
    (hs : setpoint.IsFinite) (ha : accel.IsFinite) : (s.feedforward setpoint accel).IsFinite := by
  unfold feedforward
  split
  · exact (h.members.kff.mul hs).add (h.members.kaff.mul ha)
  · exact isFinite_zero

/-- A finite inner loop. -/
theorem inner_isFinite (h : s.FiniteSettings) (hmode : s.controlMode ≠ .positionOnly)
    (ht : FiniteTick traj dt) (hset : (s.velSetpoint m traj dt).IsFinite)
    (hvel : s.lastMeasuredVel.IsFinite) (hstate : s.velPid.FiniteState) :
    s.BoundedTorque (s.dispatch m traj dt).torque ∧
      (s.dispatch m traj dt).node.velPid.FiniteState ∧
      (s.dispatch m traj dt).node.vCmd.IsFinite := by
  have hg := h.velGains
  have hsum := sum_isFinite hg hstate hset hvel ht.step
  have hdemand : (s.demand m traj dt).IsFinite := by
    rw [demand_of_ne hmode]
    exact (hsum.clamp hg.outputMin hg.outputMax).add (feedforward_isFinite h hset ht.accel)
  obtain ⟨_, hnext⟩ := hg.compute_isFinite hstate hset hvel ht.step
  obtain ⟨hpid, hvCmd⟩ := dispatch_velPid hmode m traj dt
  refine ⟨boundedTorque_of_demand h hdemand, ?_, ?_⟩
  · rw [hpid]
    exact ⟨hnext.integral, hnext.prevMeasurement⟩
  · rw [hvCmd]
    exact hset

/-- A NaN sum of the velocity PID. -/
theorem inner_of_nan (hmode : s.controlMode ≠ .positionOnly)
    (hsum : s.velPid.sum (s.velSetpoint m traj dt) s.lastMeasuredVel dt = nan) :
    (s.dispatch m traj dt).torque = nan ∧
      (s.dispatch m traj dt).node.velPid.saturated = false := by
  have hdemand : s.demand m traj dt = nan := by
    rw [demand_of_ne hmode, hsum, clamp_nan, nan_add]
  have htorque := torque_of_nan_demand hdemand
  refine ⟨htorque, ?_⟩
  rw [(dispatch_velPid hmode m traj dt).1]
  exact not_saturated_of_nan htorque

/-- A NaN in the integral of the velocity PID stays. -/
theorem inner_integral_of_nan (hmode : s.controlMode ≠ .positionOnly)
    (h : s.velPid.integral = nan) : (s.dispatch m traj dt).node.velPid.integral = nan := by
  rw [(dispatch_velPid hmode m traj dt).1]
  exact compute_integral_of_nan h

/-- A NaN setpoint gets into the integral of an unsaturated velocity PID. -/
theorem inner_integral_of_nan_setpoint (hmode : s.controlMode ≠ .positionOnly)
    (hset : s.velSetpoint m traj dt = nan) (hsat : s.velPid.saturated = false) :
    (s.dispatch m traj dt).node.velPid.integral = nan := by
  rw [(dispatch_velPid hmode m traj dt).1, hset]
  exact compute_integral_of_nan_error error_of_nan_setpoint hsat

/-! ## The outer loop -/

/-- A finite outer loop. -/
theorem velSetpoint_isFinite (h : s.FiniteSettings) (hmode : s.controlMode = .cascade)
    (ht : FiniteTick traj dt) (hstate : s.posPid.FiniteState) (hvCmd : s.vCmd.IsFinite)
    (hpos : s.outerLoopFires m = true → s.lastMeasuredPos.IsFinite) :
    (s.velSetpoint m traj dt).IsFinite ∧ (s.dispatch m traj dt).node.posPid.FiniteState := by
  have hg := h.posGains
  have hdt : (s.outerDtAccum + dt).IsFinite := h.accum.1.add ht.step
  unfold velSetpoint
  rw [hmode]
  dsimp only
  cases hfires : s.outerLoopFires m with
  | true =>
      have hp := hpos hfires
      have hsum := sum_isFinite hg hstate ht.pos hp hdt
      obtain ⟨_, hnext⟩ := hg.compute_isFinite hstate ht.pos hp hdt
      refine ⟨?_, ?_⟩
      · rw [if_pos rfl]
        exact ((hsum.clamp hg.outputMin hg.outputMax).add ht.vel).clamp
          h.members.posOutputLimit.neg h.members.posOutputLimit
      · rw [(dispatch_posPid_fires hmode hfires traj dt).1]
        exact ⟨hnext.integral, hnext.prevMeasurement⟩
  | false =>
      refine ⟨?_, ?_⟩
      · rw [if_neg Bool.false_ne_true]
        exact hvCmd
      · rw [(dispatch_posPid_waits hmode hfires traj dt).1]
        exact hstate

/-- A firing outer loop whose sum is NaN passes it on. -/
theorem velSetpoint_of_nan (hmode : s.controlMode = .cascade) (hfires : s.outerLoopFires m = true)
    (hsum : s.posPid.sum traj.pos s.lastMeasuredPos (s.outerDtAccum + dt) = nan) :
    s.velSetpoint m traj dt = nan := by
  unfold velSetpoint positionCorrection
  rw [hmode]
  dsimp only
  rw [if_pos hfires, hsum, clamp_nan, nan_add, clamp_nan]

/-! ## Position-only mode -/

theorem position_isFinite (h : s.FiniteSettings) (hmode : s.controlMode = .positionOnly)
    (ht : FiniteTick traj dt) (hpos : s.lastMeasuredPos.IsFinite)
    (hstate : s.posPid.FiniteState) : s.BoundedTorque (s.dispatch m traj dt).torque := by
  have hg := h.posGains
  refine boundedTorque_of_demand h ?_
  rw [demand_positionOnly hmode]
  exact (sum_isFinite hg hstate ht.pos hpos ht.step).clamp hg.outputMin hg.outputMax

/-- A NaN sum of the position PID. -/
theorem position_of_nan (hmode : s.controlMode = .positionOnly)
    (hsum : s.posPid.sum traj.pos s.lastMeasuredPos dt = nan) :
    (s.dispatch m traj dt).torque = nan ∧
      (s.dispatch m traj dt).node.posPid.saturated = false := by
  have hdemand : s.demand m traj dt = nan := by
    rw [demand_positionOnly hmode, hsum, clamp_nan]
  have htorque := torque_of_nan_demand hdemand
  refine ⟨htorque, ?_⟩
  rw [(dispatch_posPid hmode m traj dt).1]
  exact not_saturated_of_nan htorque

end Step

end MarineHil.Ports.VelocityPidNode
