import MarineHil.Ports.VelocityPidBounds

/-!
# The torque of a tick, from the state before it

Every mode ends in `clamp(demand, ±torque_limit_nm)`.  `demand` writes the
clamped value down from the state before the tick, with the outer loop's
command in place of the loop itself.

## Main results

* `controlLoop_torque`: the torque is the clamp of the demand.
* `controlLoop_torque_eq_zero_iff`: it vanishes exactly where the demand does.
-/

namespace MarineHil.Ports.VelocityPidNode

open MarineHil.Verified

/-! ## The demand -/

section Demand

variable {α : Type} [Double α]

/-- The position correction of a firing outer loop. -/
def positionCorrection (s : VelocityPidNode α) (traj : TrajectoryRef α) (dt : α) : α :=
  clamp (s.posPid.sum traj.pos s.lastMeasuredPos (s.outerDtAccum + dt))
    s.posPid.outputMin s.posPid.outputMax

/-- The setpoint of the inner loop. -/
def velSetpoint (s : VelocityPidNode α) (m : Libm α) (traj : TrajectoryRef α) (dt : α) : α :=
  match s.controlMode with
  | .cascade =>
      if s.outerLoopFires m then
        clamp (s.positionCorrection traj dt + traj.vel) (-s.posOutputLimit) s.posOutputLimit
      else s.vCmd
  | _ => traj.vel

/-- What the mode dispatch clamps to the torque limit. -/
def demand (s : VelocityPidNode α) (m : Libm α) (traj : TrajectoryRef α) (dt : α) : α :=
  match s.controlMode with
  | .positionOnly =>
      clamp (s.posPid.sum traj.pos s.lastMeasuredPos dt) s.posPid.outputMin s.posPid.outputMax
  | _ =>
      clamp (s.velPid.sum (s.velSetpoint m traj dt) s.lastMeasuredVel dt)
          s.velPid.outputMin s.velPid.outputMax +
        s.feedforward (s.velSetpoint m traj dt) traj.accel

theorem demand_positionOnly {s : VelocityPidNode α} (h : s.controlMode = .positionOnly)
    (m : Libm α) (traj : TrajectoryRef α) (dt : α) :
    s.demand m traj dt =
      clamp (s.posPid.sum traj.pos s.lastMeasuredPos dt) s.posPid.outputMin
        s.posPid.outputMax := by
  unfold demand
  rw [h]

theorem demand_of_ne {s : VelocityPidNode α} (h : s.controlMode ≠ .positionOnly)
    (m : Libm α) (traj : TrajectoryRef α) (dt : α) :
    s.demand m traj dt =
      clamp (s.velPid.sum (s.velSetpoint m traj dt) s.lastMeasuredVel dt)
          s.velPid.outputMin s.velPid.outputMax +
        s.feedforward (s.velSetpoint m traj dt) traj.accel := by
  unfold demand
  cases hmode : s.controlMode with
  | positionOnly => exact absurd hmode h
  | velocityOnly => rfl
  | cascade => rfl

theorem dispatch_torque (s : VelocityPidNode α) (m : Libm α) (traj : TrajectoryRef α) (dt : α) :
    (s.dispatch m traj dt).torque =
      clamp (s.demand m traj dt) (-s.torqueLimitNm) s.torqueLimitNm := by
  unfold demand velSetpoint
  cases hmode : s.controlMode with
  | positionOnly =>
      rw [dispatch_positionOnly m traj dt hmode]
      rfl
  | velocityOnly =>
      rw [dispatch_velocityOnly m traj dt hmode]
      rfl
  | cascade =>
      rw [dispatch_cascade m traj dt hmode]
      cases hfires : s.outerLoopFires m with
      | true =>
          rw [runOuterLoop_fires hfires]
          rfl
      | false =>
          rw [runOuterLoop_waits hfires]
          rfl

/-- Every mode but position-only calls the velocity PID once, on the setpoint
and the measured velocity, and holds the setpoint. -/
theorem dispatch_velPid {s : VelocityPidNode α} (h : s.controlMode ≠ .positionOnly)
    (m : Libm α) (traj : TrajectoryRef α) (dt : α) :
    (s.dispatch m traj dt).node.velPid =
        { (s.velPid.compute (s.velSetpoint m traj dt) s.lastMeasuredVel dt).pid with
          saturated := decide (s.torqueLimitNm ≤ fabs (s.dispatch m traj dt).torque) } ∧
      (s.dispatch m traj dt).node.vCmd = s.velSetpoint m traj dt := by
  unfold velSetpoint
  cases hmode : s.controlMode with
  | positionOnly => exact absurd hmode h
  | velocityOnly =>
      rw [dispatch_velocityOnly m traj dt hmode]
      exact ⟨rfl, rfl⟩
  | cascade =>
      rw [dispatch_cascade m traj dt hmode]
      cases hfires : s.outerLoopFires m with
      | true =>
          rw [runOuterLoop_fires hfires]
          exact ⟨rfl, rfl⟩
      | false =>
          rw [runOuterLoop_waits hfires]
          exact ⟨rfl, rfl⟩

/-- Position-only mode calls the position PID once, on the measured position. -/
theorem dispatch_posPid {s : VelocityPidNode α} (h : s.controlMode = .positionOnly)
    (m : Libm α) (traj : TrajectoryRef α) (dt : α) :
    (s.dispatch m traj dt).node.posPid =
        { (s.posPid.compute traj.pos s.lastMeasuredPos dt).pid with
          saturated := decide (s.torqueLimitNm ≤ fabs (s.dispatch m traj dt).torque) } ∧
      (s.dispatch m traj dt).node.outerDtAccum = s.outerDtAccum := by
  rw [dispatch_positionOnly m traj dt h]
  exact ⟨rfl, rfl⟩

/-- The same calls, where only the measurement matters. -/
theorem dispatch_velPid_call {s : VelocityPidNode α} (h : s.controlMode ≠ .positionOnly)
    (m : Libm α) (traj : TrajectoryRef α) (dt : α) :
    ∃ setpoint saturated, (s.dispatch m traj dt).node.velPid =
      { (s.velPid.compute setpoint s.lastMeasuredVel dt).pid with saturated := saturated } :=
  ⟨_, _, (dispatch_velPid h m traj dt).1⟩

theorem dispatch_posPid_call {s : VelocityPidNode α} (h : s.controlMode = .positionOnly)
    (m : Libm α) (traj : TrajectoryRef α) (dt : α) :
    ∃ saturated, (s.dispatch m traj dt).node.posPid =
      { (s.posPid.compute traj.pos s.lastMeasuredPos dt).pid with saturated := saturated } :=
  ⟨_, (dispatch_posPid h m traj dt).1⟩

/-- Cascade mode calls the position PID where the outer loop fires. -/
theorem dispatch_posPid_fires {s : VelocityPidNode α} (h : s.controlMode = .cascade)
    {m : Libm α} (hfires : s.outerLoopFires m = true) (traj : TrajectoryRef α) (dt : α) :
    (s.dispatch m traj dt).node.posPid =
        { (s.posPid.compute traj.pos s.lastMeasuredPos (s.outerDtAccum + dt)).pid with
          saturated := decide (s.posOutputLimit ≤ fabs (s.velSetpoint m traj dt)) } ∧
      (s.dispatch m traj dt).node.outerDtAccum = 0 := by
  unfold velSetpoint
  rw [dispatch_cascade m traj dt h, runOuterLoop_fires hfires, h]
  dsimp only
  rw [if_pos hfires]
  exact ⟨rfl, rfl⟩

theorem dispatch_posPid_waits {s : VelocityPidNode α} (h : s.controlMode = .cascade)
    {m : Libm α} (hfires : s.outerLoopFires m = false) (traj : TrajectoryRef α) (dt : α) :
    (s.dispatch m traj dt).node.posPid = s.posPid ∧
      (s.dispatch m traj dt).node.outerDtAccum = s.outerDtAccum + dt := by
  rw [dispatch_cascade m traj dt h, runOuterLoop_waits hfires]
  exact ⟨rfl, rfl⟩

/-- Where the outer loop fires, the velocity command is the correction and the
reference, clamped. -/
theorem dispatch_vCmd_of_fires {s : VelocityPidNode α} (hmode : s.controlMode = .cascade)
    {m : Libm α} (hfires : s.outerLoopFires m = true) (traj : TrajectoryRef α) (dt : α) :
    (s.dispatch m traj dt).node.vCmd =
      clamp (s.positionCorrection traj dt + traj.vel) (-s.posOutputLimit) s.posOutputLimit := by
  rw [dispatch_cascade m traj dt hmode, runOuterLoop_fires hfires]
  rfl

theorem dispatch_velocityOnly_outer {s : VelocityPidNode α} (h : s.controlMode = .velocityOnly)
    (m : Libm α) (traj : TrajectoryRef α) (dt : α) :
    (s.dispatch m traj dt).node.outerDtAccum = s.outerDtAccum := by
  rw [dispatch_velocityOnly m traj dt h]
  rfl

/-- The torque of a tick is the clamp of the demand. -/
theorem controlLoop_torque {s : VelocityPidNode α} (h : ¬s.jointIndex < 0) (m : Libm α)
    (now : Time) :
    (s.controlLoop m now).torque =
      clamp (s.demand m (s.trajectoryAt m now) (s.stepDt now))
        (-s.torqueLimitNm) s.torqueLimitNm := by
  rw [controlLoop_found h, dispatch_torque]
  rfl

end Demand

/-- Within valid limits a torque vanishes exactly when its demand does. -/
theorem controlLoop_torque_eq_zero_iff {s : VelocityPidNode ℚ} (h : ¬s.jointIndex < 0)
    (hl : LimitsValid s.toVelocityPidMembers) (m : Libm ℚ) (now : Time) :
    (s.controlLoop m now).torque = 0 ↔
      s.demand m (s.trajectoryAt m now) (s.stepDt now) = 0 := by
  rw [controlLoop_torque h]
  exact clamp_eq_zero_iff hl.torque

end MarineHil.Ports.VelocityPidNode
