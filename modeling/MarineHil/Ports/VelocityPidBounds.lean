import MarineHil.Ports.VelocityPidParameters

/-!
# The torque bound of `VelocityPidNode`

Every mode ends in a clamp to the torque limit and overwrites the saturation
flag of the PID that produced the torque.  With the limits of
`VelocityPidParameters` in place the clamp is well formed, and the flag says
exactly that the magnitude is the limit.

## Main result

* `torque_bounded`: the bound, the zero of a lost joint, the order of every
  clamp's bounds and the meaning of the flag, after every run.
-/

namespace MarineHil.Ports.VelocityPidNode

open MarineHil.Verified

/-- The PID controller that produces the torque. -/
def drivingPid {α : Type} (s : VelocityPidNode α) : PidController α :=
  match s.controlMode with
  | .positionOnly => s.posPid
  | _ => s.velPid

/-- Limits under which both controllers clamp with ordered bounds. -/
theorem PidsConfigured.limitsOrdered {s : VelocityPidNode ℚ} (h : s.PidsConfigured)
    (hl : LimitsValid s.toVelocityPidMembers) :
    s.velPid.LimitsOrdered ∧ s.posPid.LimitsOrdered := by
  have hv : s.velPid.outputMin ≤ s.velPid.outputMax := by
    rw [h.vel.outputMin, h.vel.outputMax]
    norm_num
  have hp : s.posPid.outputMin ≤ s.posPid.outputMax := by
    rw [h.pos.outputMin, h.pos.outputMax]
    norm_num
  refine ⟨⟨?_, hv⟩, ⟨?_, hp⟩⟩
  · rw [h.vel.integralLimit]
    exact neg_le_self hl.integral
  · rw [h.pos.integralLimit]
    exact neg_le_self hl.posIntegral.le

/-- What a step that publishes a torque guarantees under the limit `b`. -/
structure StepSafe (b : ℚ) (r : VelocityPidStep ℚ) : Prop where
  bounded : |r.torque| ≤ b
  clamps : ∀ c ∈ r.clamps, c.1 ≤ c.2
  saturated : r.node.drivingPid.saturated = true ↔ |r.torque| = b

section Loops

variable {s : VelocityPidNode ℚ}

theorem runInnerLoop_safe (h : s.velPid.LimitsOrdered) (hb : 0 < s.torqueLimitNm)
    (hmode : s.controlMode ≠ .positionOnly) (velSetpoint accelFf dt : ℚ) :
    StepSafe s.torqueLimitNm (s.runInnerLoop velSetpoint accelFf dt) := by
  refine ⟨abs_clamp_le hb.le, ?_, ?_⟩
  · intro c hc
    rcases List.mem_append.mp hc with hc | hc
    · exact h.clamps hc
    · rw [List.mem_singleton.mp hc]
      exact neg_le_self hb.le
  · have hdriving : (s.runInnerLoop velSetpoint accelFf dt).node.drivingPid =
        (s.runInnerLoop velSetpoint accelFf dt).node.velPid := by
      unfold drivingPid
      show (match s.controlMode with | .positionOnly => _ | _ => _) = _
      cases hm : s.controlMode with
      | positionOnly => exact absurd hm hmode
      | velocityOnly => rfl
      | cascade => rfl
    rw [hdriving]
    show decide (s.torqueLimitNm ≤ fabs (s.runInnerLoop velSetpoint accelFf dt).torque) = true ↔ _
    rw [decide_eq_true_iff, fabs_rat]
    exact le_abs_clamp_iff hb.le

theorem runPositionLoop_safe (h : s.posPid.LimitsOrdered) (hb : 0 < s.torqueLimitNm)
    (hmode : s.controlMode = .positionOnly) (posRef dt : ℚ) :
    StepSafe s.torqueLimitNm (s.runPositionLoop posRef dt) := by
  refine ⟨abs_clamp_le hb.le, ?_, ?_⟩
  · intro c hc
    rcases List.mem_append.mp hc with hc | hc
    · exact h.clamps hc
    · rw [List.mem_singleton.mp hc]
      exact neg_le_self hb.le
  · have hdriving : (s.runPositionLoop posRef dt).node.drivingPid =
        (s.runPositionLoop posRef dt).node.posPid := by
      unfold drivingPid
      show (match s.controlMode with | .positionOnly => _ | _ => _) = _
      rw [hmode]
    rw [hdriving]
    show decide (s.torqueLimitNm ≤ fabs (s.runPositionLoop posRef dt).torque) = true ↔ _
    rw [decide_eq_true_iff, fabs_rat]
    exact le_abs_clamp_iff hb.le

theorem runOuterLoop_clamps (h : s.posPid.LimitsOrdered) (hb : 0 < s.posOutputLimit)
    (m : Libm ℚ) (posRef velFf dt : ℚ) :
    ∀ c ∈ (s.runOuterLoop m posRef velFf dt).2, c.1 ≤ c.2 := by
  intro c hc
  cases hfires : s.outerLoopFires m with
  | true =>
      rw [runOuterLoop_fires hfires] at hc
      rcases List.mem_append.mp hc with hc | hc
      · exact h.clamps hc
      · rw [List.mem_singleton.mp hc]
        exact neg_le_self hb.le
  | false =>
      rw [runOuterLoop_waits hfires] at hc
      exact absurd hc List.not_mem_nil

/-- The mode dispatch is safe in every mode. -/
theorem dispatch_safe (h : s.PidsConfigured) (hl : LimitsValid s.toVelocityPidMembers)
    (m : Libm ℚ) (traj : TrajectoryRef ℚ) (dt : ℚ) :
    StepSafe s.torqueLimitNm (s.dispatch m traj dt) := by
  obtain ⟨hvel, hpos⟩ := h.limitsOrdered hl
  cases hmode : s.controlMode with
  | velocityOnly =>
      rw [dispatch_velocityOnly m traj dt hmode]
      have hne : ({ s with vCmd := traj.vel } : VelocityPidNode ℚ).controlMode ≠ .positionOnly := by
        show s.controlMode ≠ .positionOnly
        rw [hmode]
        decide
      exact runInnerLoop_safe (s := { s with vCmd := traj.vel }) hvel hl.torque hne _ _ dt
  | positionOnly =>
      rw [dispatch_positionOnly m traj dt hmode]
      exact runPositionLoop_safe hpos hl.torque hmode traj.pos dt
  | cascade =>
      rw [dispatch_cascade m traj dt hmode]
      obtain ⟨hpid, hmem, hmode'⟩ := s.runOuterLoop_inner m traj.pos traj.vel dt
      generalize ho : s.runOuterLoop m traj.pos traj.vel dt = o at hpid hmem hmode'
      have hvel' : o.1.velPid.LimitsOrdered := by
        rw [hpid]
        exact hvel
      have hb : 0 < o.1.torqueLimitNm := by
        rw [hmem]
        exact hl.torque
      have hne : o.1.controlMode ≠ .positionOnly := by
        rw [hmode', hmode]
        decide
      have hinner := runInnerLoop_safe hvel' hb hne o.1.vCmd traj.accel dt
      rw [hmem] at hinner
      refine ⟨hinner.bounded, ?_, hinner.saturated⟩
      intro c hc
      rcases List.mem_append.mp hc with hc | hc
      · rw [← ho] at hc
        exact runOuterLoop_clamps hpos hl.posOutput m traj.pos traj.vel dt c hc
      · exact hinner.clamps c hc

/-- A tick with the joint found is safe. -/
theorem controlLoop_safe (h : s.PidsConfigured) (hl : LimitsValid s.toVelocityPidMembers)
    (hfound : ¬s.jointIndex < 0) (m : Libm ℚ) (now : Time) :
    StepSafe s.torqueLimitNm (s.controlLoop m now).toVelocityPidStep := by
  rw [controlLoop_found hfound]
  have hnow : PidsConfigured { s with lastLoopTime := now } := ⟨h.vel, h.pos⟩
  exact dispatch_safe hnow hl m _ _

end Loops

/-- After every run, from every launch and over every order of messages,
parameter batches and ticks: the published torque is within the limit in
force, it is zero while the joint is not found, every clamp executes with
ordered bounds, and the flag of the PID that produced the torque says whether
the magnitude is the limit. -/
theorem torque_bounded (m : Libm ℚ) (l : Launch ℚ) (t₀ t₁ : Time)
    (es : List (Timed (VelocityPidEvent ℚ))) (now : Time) :
    let limit := inForce l .torqueLimitNm es
    let r := (run (step m) (start l t₀ t₁) es).controlLoop m now
    |r.torque| ≤ limit ∧ (∀ c ∈ r.clamps, c.1 ≤ c.2) ∧
      if jointFound (jointNameOf l) es then
        (r.node.drivingPid.saturated = true ↔ |r.torque| = limit)
      else r.torque = 0 := by
  intro limit r
  have hlimit : (run (step m) (start l t₀ t₁) es).torqueLimitNm = inForce l .torqueLimitNm es :=
    run_tableMember m l t₀ t₁ .torqueLimitNm es
  have hvalid := run_limitsValid m l t₀ t₁ es
  have hconf := run_pidsConfigured m l t₀ t₁ es
  by_cases hlost : (run (step m) (start l t₀ t₁) es).jointIndex < 0
  · have hr : r = { node := _, torque := 0, clamps := [], diagnostics := none } :=
      controlLoop_lost hlost m now
    rw [(run_jointIndex_neg_iff m l t₀ t₁ es).mp hlost, hr]
    refine ⟨?_, ?_, rfl⟩
    · show |(0 : ℚ)| ≤ inForce l .torqueLimitNm es
      rw [abs_zero, ← hlimit]
      exact hvalid.torque.le
    · intro c hc
      exact absurd hc List.not_mem_nil
  · have hsafe : StepSafe limit r.toVelocityPidStep := by
      have h := controlLoop_safe hconf hvalid hlost m now
      rwa [hlimit] at h
    have htrue : jointFound (jointNameOf l) es = true := by
      rw [← Bool.not_eq_false]
      exact fun h => hlost ((run_jointIndex_neg_iff m l t₀ t₁ es).mpr h)
    rw [htrue, if_pos rfl]
    exact ⟨hsafe.bounded, hsafe.clamps, hsafe.saturated⟩

end MarineHil.Ports.VelocityPidNode
