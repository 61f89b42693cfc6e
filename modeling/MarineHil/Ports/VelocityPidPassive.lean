import MarineHil.Ports.VelocityPidDemand

/-!
# Which settings let a torque out

Under passive settings, those that switch off every gain of the PID controller
that drives the torque, no tick of any run gives a torque.  Any other settings
give one: an unstarted controller that reacts to an error can be driven to
either sign, past whatever feedforward adds, and one with derivative gain alone
acts on a change of the measurement.  The tick that shows it may be as late as
one likes, because nothing in the node ages its measurements.

## Main results

* `Idle.controlLoop`: passive settings let no torque out.
* `exists_acting`: other settings let one out, at any later time.
-/

namespace MarineHil.Ports.VelocityPidNode

open MarineHil.Verified

section Settings

variable {α : Type} [Double α]

/-- All gains of the PID controller that drives the torque are off. -/
def Passive (s : VelocityPidNode α) : Prop :=
  match s.controlMode with
  | .positionOnly => s.kpPos = 0 ∧ s.kdPos = 0 ∧ s.kiPos = 0
  | _ => s.kp = 0 ∧ s.kd = 0 ∧ (s.ki = 0 ∨ s.integralLimit = 0)

theorem passive_positionOnly {s : VelocityPidNode α} (h : s.controlMode = .positionOnly) :
    s.Passive ↔ s.kpPos = 0 ∧ s.kdPos = 0 ∧ s.kiPos = 0 := by
  unfold Passive
  rw [h]

theorem passive_of_ne {s : VelocityPidNode α} (h : s.controlMode ≠ .positionOnly) :
    s.Passive ↔ s.kp = 0 ∧ s.kd = 0 ∧ (s.ki = 0 ∨ s.integralLimit = 0) := by
  unfold Passive
  cases hmode : s.controlMode with
  | positionOnly => exact absurd hmode h
  | velocityOnly => rfl
  | cascade => rfl

/-- Settings do not depend on when the node was started. -/
theorem passive_start_iff (l : Launch α) (t₀ t₁ : Time) :
    (start l t₀ t₁).Passive ↔ (start l 0 0).Passive := by
  have htimes : start l t₀ t₁ = { start l 0 0 with lastLoopTime := t₀, startTime := t₁ } := by
    unfold start
    generalize startMembers l = members
    rfl
  rw [htimes]
  generalize start l 0 0 = s
  exact Iff.rfl

end Settings

/-! ## Passive settings -/

/-- A node under passive settings, with nothing integrated. -/
structure Idle (s : VelocityPidNode ℚ) : Prop where
  configured : s.PidsConfigured
  inert : s.drivingPid.Inert

section Idle

variable {s : VelocityPidNode ℚ}

theorem drivingPid_positionOnly (h : s.controlMode = .positionOnly) : s.drivingPid = s.posPid := by
  unfold drivingPid
  rw [h]

theorem drivingPid_of_ne (h : s.controlMode ≠ .positionOnly) : s.drivingPid = s.velPid := by
  unfold drivingPid
  cases hmode : s.controlMode with
  | positionOnly => exact absurd hmode h
  | velocityOnly => rfl
  | cascade => rfl

/-- Under passive settings nothing is demanded. -/
theorem Idle.demand_eq_zero (h : s.Idle) (m : Libm ℚ) (traj : TrajectoryRef ℚ) (dt : ℚ) :
    s.demand m traj dt = 0 := by
  have hinert := h.inert
  have hclamp : clamp (0 : ℚ) (-lit 1000000000) (lit 1000000000) = 0 :=
    clamp_of_mem (by norm_num) (by norm_num)
  by_cases hmode : s.controlMode = .positionOnly
  · rw [drivingPid_positionOnly hmode] at hinert
    rw [demand_positionOnly hmode, hinert.sum_eq_zero, h.configured.pos.outputMin,
      h.configured.pos.outputMax, hclamp]
  · rw [drivingPid_of_ne hmode] at hinert
    have hkp : s.kp = 0 := h.configured.vel.kp.symm.trans hinert.kp
    have hff : s.feedforward (s.velSetpoint m traj dt) traj.accel = 0 := by
      rw [feedforward, hkp, if_neg (lt_irrefl 0)]
    rw [demand_of_ne hmode, hinert.sum_eq_zero, h.configured.vel.outputMin,
      h.configured.vel.outputMax, hclamp, hff, add_zero]

theorem Idle.dispatch (h : s.Idle) (m : Libm ℚ) (traj : TrajectoryRef ℚ) (dt : ℚ) :
    (s.dispatch m traj dt).node.Idle := by
  refine ⟨h.configured.dispatch m traj dt, ?_⟩
  have hinert := h.inert
  have hmode' := (dispatch_frame s m traj dt).1.controlMode
  by_cases hmode : s.controlMode = .positionOnly
  · rw [drivingPid_positionOnly hmode] at hinert
    rw [drivingPid_positionOnly (hmode'.trans hmode), (dispatch_posPid hmode m traj dt).1]
    exact hinert.compute _ _ _ _
  · rw [drivingPid_of_ne hmode] at hinert
    rw [drivingPid_of_ne (by rw [hmode']; exact hmode), (dispatch_velPid hmode m traj dt).1]
    exact hinert.compute _ _ _ _

/-- A tick of an idle node publishes zero and leaves it idle. -/
theorem Idle.controlLoop (h : s.Idle) (m : Libm ℚ) (hl : LimitsValid s.toVelocityPidMembers)
    (now : Time) :
    (s.controlLoop m now).torque = 0 ∧ (s.controlLoop m now).node.Idle := by
  by_cases hlost : s.jointIndex < 0
  · rw [controlLoop_lost hlost]
    exact ⟨rfl, h⟩
  · refine ⟨(controlLoop_torque_eq_zero_iff hlost hl m now).mpr (h.demand_eq_zero m _ _), ?_⟩
    rw [controlLoop_found hlost]
    have hnow : Idle { s with lastLoopTime := now } :=
      ⟨⟨h.configured.vel, h.configured.pos⟩, h.inert⟩
    exact hnow.dispatch m _ _

theorem Idle.jointStateCallback (h : s.Idle) (msg : JointState ℚ) :
    (s.jointStateCallback msg).Idle := by
  obtain ⟨hset, hloops, _⟩ := s.jointStateCallback_frame msg
  refine ⟨h.configured.jointStateCallback msg, ?_⟩
  have hdriving : (s.jointStateCallback msg).drivingPid = s.drivingPid := by
    unfold drivingPid
    rw [hset.controlMode, hloops.velPid, hloops.posPid]
  rw [hdriving]
  exact h.inert

end Idle

theorem PidsConfigured.velIntegralOff {s : VelocityPidNode ℚ} (h : s.PidsConfigured)
    (hzero : s.velPid.integral = 0) (hoff : s.ki = 0 ∨ s.integralLimit = 0) :
    s.velPid.IntegralOff :=
  hoff.imp (fun hki => h.vel.ki.trans hki)
    (fun hlimit => ⟨h.vel.integralLimit.trans hlimit, hzero⟩)

/-- Passive settings start idle. -/
theorem Passive.idle {l : Launch ℚ} {t₀ t₁ : Time} (h : (start l t₀ t₁).Passive) :
    (start l t₀ t₁).Idle := by
  have hconf := start_pidsConfigured l t₀ t₁
  have hvel : (start l t₀ t₁).velPid.integral = 0 := rfl
  refine ⟨hconf, ?_⟩
  generalize start l t₀ t₁ = s at h hconf hvel
  by_cases hmode : s.controlMode = .positionOnly
  · obtain ⟨hkp, hkd, hki⟩ := (passive_positionOnly hmode).mp h
    rw [drivingPid_positionOnly hmode]
    exact ⟨hconf.pos.kp.trans hkp, hconf.pos.kd.trans hkd, Or.inl (hconf.pos.ki.trans hki)⟩
  · obtain ⟨hkp, hkd, hoff⟩ := (passive_of_ne hmode).mp h
    rw [drivingPid_of_ne hmode]
    exact ⟨hconf.vel.kp.trans hkp, hconf.vel.kd.trans hkd, hconf.velIntegralOff hvel hoff⟩

/-! ## Feedback that gives a torque -/

section Measure

variable {α : Type} [Double α]

/-- The node after a message in which it measures the given position and
velocity. -/
def measure (s : VelocityPidNode α) (y : α × α) : VelocityPidNode α :=
  s.jointStateCallback (.single 0 s.jointName (s.oriented y.1) (s.oriented y.2))

/-- The node after such a message and a tick. -/
def probe (m : Libm α) (now : Time) (s : VelocityPidNode α) (y : α × α) : VelocityPidNode α :=
  ((s.measure y).controlLoop m now).node

end Measure

theorem oriented_oriented (s : VelocityPidNode ℚ) (y : ℚ) : s.oriented (s.oriented y) = y := by
  unfold oriented
  by_cases h : s.invertOutput = true
  · rw [if_pos h, if_pos h, neg_neg]
  · rw [if_neg h, if_neg h]

theorem measure_eq (s : VelocityPidNode ℚ) (y : ℚ × ℚ) :
    ∃ i : ℤ, 0 ≤ i ∧ s.measure y =
      { ({ s with jointIndex := i }.filterVelocity y.2) with lastMeasuredPos := y.1 } := by
  have hcarries := JointState.single_carries 0 s.jointName (s.oriented y.1) (s.oriented y.2)
  generalize hmsg : JointState.single 0 s.jointName (s.oriented y.1) (s.oriented y.2) = msg
    at hcarries
  refine ⟨s.locateJoint msg, ?_, ?_⟩
  · rw [← not_lt, s.locateJoint_neg_iff, not_not]
    exact hcarries.listed
  · rw [measure, hmsg, jointStateCallback_carries hcarries, oriented_oriented, oriented_oriented]

/-- What a measurement leaves alone, and the position it sets. -/
structure Measured (s s' : VelocityPidNode ℚ) (y : ℚ × ℚ) : Prop where
  found : ¬s'.jointIndex < 0
  members : s'.toVelocityPidMembers = s.toVelocityPidMembers
  controlMode : s'.controlMode = s.controlMode
  velPid : s'.velPid = s.velPid
  posPid : s'.posPid = s.posPid
  trajectoryAt : ∀ m now, s'.trajectoryAt m now = s.trajectoryAt m now
  stepDt : ∀ now, (s'.stepDt now : ℚ) = s.stepDt now
  lastMeasuredPos : s'.lastMeasuredPos = y.1

theorem measure_measured (s : VelocityPidNode ℚ) (y : ℚ × ℚ) : Measured s (s.measure y) y := by
  obtain ⟨i, hi, hmeasure⟩ := s.measure_eq y
  rw [hmeasure]
  exact ⟨not_lt.mpr hi, rfl, rfl, rfl, rfl, fun _ _ => rfl, fun _ => rfl, rfl⟩

/-- What the lemmas of this section need of a node before a measurement. -/
structure Probed (s : VelocityPidNode ℚ) (now : Time) : Prop where
  configured : s.PidsConfigured
  limits : LimitsValid s.toVelocityPidMembers
  later : s.lastLoopTime < now

section Acting

variable {s : VelocityPidNode ℚ} {m : Libm ℚ} {now : Time}

theorem Probed.stepDt_pos (h : s.Probed now) : 0 < (s.stepDt now : ℚ) := by
  have hpos : (0 : ℚ) < seconds (now - s.lastLoopTime) := by
    have hlt : (0 : ℚ) < ((now - s.lastLoopTime : ℤ) : ℚ) := by
      exact_mod_cast sub_pos.mpr h.later
    rw [seconds, lit_rat]
    positivity
  unfold stepDt
  rw [if_pos hpos]
  exact hpos

/-- A sum the position PID can be driven to gives a torque in position mode. -/
theorem Probed.torque_of_posPid (h : s.Probed now) (hmode : s.controlMode = .positionOnly)
    {p : ℚ} (hsum : s.posPid.sum (s.trajectoryAt m now).pos p (s.stepDt now) ≠ 0) :
    ((s.measure (p, 0)).controlLoop m now).torque ≠ 0 := by
  have hm := s.measure_measured (p, 0)
  generalize s.measure (p, 0) = s' at hm
  have hlimits : LimitsValid s'.toVelocityPidMembers := by
    rw [hm.members]
    exact h.limits
  rw [Ne, controlLoop_torque_eq_zero_iff hm.found hlimits,
    demand_positionOnly (hm.controlMode.trans hmode), hm.posPid, hm.trajectoryAt,
    hm.lastMeasuredPos, hm.stepDt, h.configured.pos.outputMin, h.configured.pos.outputMax,
    lit_rat, clamp_eq_zero_iff (by norm_num)]
  exact hsum

/-- The setpoint of the inner loop does not depend on the measured velocity. -/
theorem velSetpoint_measure (s : VelocityPidNode ℚ) (m : Libm ℚ) (now : Time) (v : ℚ) :
    (s.measure (0, v)).velSetpoint m ((s.measure (0, v)).trajectoryAt m now)
        ((s.measure (0, v)).stepDt now) =
      { s with lastMeasuredPos := 0 }.velSetpoint m (s.trajectoryAt m now) (s.stepDt now) := by
  obtain ⟨i, _, hmeasure⟩ := s.measure_eq (0, v)
  rw [hmeasure]
  rfl

/-- A measured velocity on which the inner loop's sum and the feedforward do
not cancel gives a torque. -/
theorem Probed.torque_of_velPid (h : s.Probed now) (hmode : s.controlMode ≠ .positionOnly)
    {v : ℚ}
    (hsum :
      let setpoint := { s with lastMeasuredPos := 0 }.velSetpoint m (s.trajectoryAt m now)
        (s.stepDt now)
      clamp (s.velPid.sum setpoint (s.measure (0, v)).lastMeasuredVel (s.stepDt now))
          (-1000000000) 1000000000 +
        s.feedforward setpoint (s.trajectoryAt m now).accel ≠ 0) :
    ((s.measure (0, v)).controlLoop m now).torque ≠ 0 := by
  have hsetpoint := velSetpoint_measure s m now v
  have hm := s.measure_measured (0, v)
  generalize s.measure (0, v) = s' at hm hsetpoint hsum
  have hlimits : LimitsValid s'.toVelocityPidMembers := by
    rw [hm.members]
    exact h.limits
  have hff (x a : ℚ) : s'.feedforward x a = s.feedforward x a := by
    rw [feedforward, hm.members, feedforward]
  rw [Ne, controlLoop_torque_eq_zero_iff hm.found hlimits,
    demand_of_ne (by rw [hm.controlMode]; exact hmode), hsetpoint, hm.velPid, hff, hm.stepDt,
    hm.trajectoryAt, h.configured.vel.outputMin, h.configured.vel.outputMax]
  exact hsum

/-- The first measured velocity is the measurement itself. -/
theorem measure_lastMeasuredVel (hinit : s.filterInitialized = false) (v : ℚ) :
    (s.measure (0, v)).lastMeasuredVel = v := by
  obtain ⟨i, _, hmeasure⟩ := s.measure_eq (0, v)
  rw [hmeasure]
  show (if s.filterInitialized = true then _ else v) = v
  rw [hinit]
  rfl

/-- An inner loop that reacts gives a torque on some velocity: the sign of its
sum can be chosen to agree with the feedforward. -/
theorem Probed.exists_velocity (h : s.Probed now) (hmode : s.controlMode ≠ .positionOnly)
    (hfresh : s.velPid.Unstarted) (hreacts : s.velPid.Reacts)
    (hinit : s.filterInitialized = false) (m : Libm ℚ) :
    ∃ v, ((s.measure (0, v)).controlLoop m now).torque ≠ 0 := by
  have hlimit : 0 ≤ s.velPid.integralLimit := by
    rw [h.configured.vel.integralLimit]
    exact h.limits.integral
  generalize hsp : { s with lastMeasuredPos := 0 }.velSetpoint m (s.trajectoryAt m now)
    (s.stepDt now) = setpoint
  obtain ⟨⟨vpos, hpos⟩, ⟨vneg, hneg⟩⟩ :=
    hfresh.exists_sum_sign hlimit h.stepDt_pos hreacts setpoint
  rcases le_total 0 (s.feedforward setpoint (s.trajectoryAt m now).accel) with hff | hff
  · refine ⟨vpos, h.torque_of_velPid hmode ?_⟩
    rw [hsp, measure_lastMeasuredVel hinit]
    have hclamp := clamp_pos (b := 1000000000) (by norm_num) hpos
    exact (add_pos_of_pos_of_nonneg hclamp hff).ne'
  · refine ⟨vneg, h.torque_of_velPid hmode ?_⟩
    rw [hsp, measure_lastMeasuredVel hinit]
    have hclamp := clamp_neg_of_neg (b := 1000000000) (by norm_num) hneg
    exact (add_neg_of_neg_of_nonpos hclamp hff).ne

/-- A position PID that reacts gives a torque on some position. -/
theorem Probed.exists_position (h : s.Probed now) (hmode : s.controlMode = .positionOnly)
    (hfresh : s.posPid.Unstarted) (hreacts : s.posPid.Reacts) (m : Libm ℚ) :
    ∃ p, ((s.measure (p, 0)).controlLoop m now).torque ≠ 0 := by
  have hlimit : 0 ≤ s.posPid.integralLimit := by
    rw [h.configured.pos.integralLimit]
    exact h.limits.posIntegral.le
  obtain ⟨⟨p, hpos⟩, _⟩ := hfresh.exists_sum_sign hlimit h.stepDt_pos hreacts
    (s.trajectoryAt m now).pos
  exact ⟨p, h.torque_of_posPid hmode hpos.ne'⟩

/-- What is left of a node after a probe. -/
theorem Probed.probe {t : Time} (h : s.PidsConfigured) (hl : LimitsValid s.toVelocityPidMembers)
    (hlater : t < now) (y : ℚ × ℚ) :
    (s.probe m t y).Probed now ∧ (s.probe m t y).toVelocityPidMembers = s.toVelocityPidMembers ∧
      (s.probe m t y).controlMode = s.controlMode := by
  have hm := s.measure_measured y
  have hconf : (s.measure y).PidsConfigured := h.jointStateCallback _
  unfold VelocityPidNode.probe
  generalize s.measure y = s' at hm hconf
  have hset := s'.controlLoop_settings m t
  have hlimits : LimitsValid (s'.controlLoop m t).node.toVelocityPidMembers := by
    rw [hset.members, hm.members]
    exact hl
  refine ⟨⟨hconf.controlLoop m t, hlimits, ?_⟩, hset.members.trans hm.members,
    hset.controlMode.trans hm.controlMode⟩
  rw [controlLoop_lastLoopTime hm.found]
  exact hlater

/-- A probe in position mode is one call of the position PID. -/
theorem probe_posPid (hmode : s.controlMode = .positionOnly) (m : Libm ℚ) (t : Time)
    (y : ℚ × ℚ) :
    ∃ saturated dt, (s.probe m t y).posPid =
      { (s.posPid.compute (s.trajectoryAt m t).pos y.1 dt).pid with saturated := saturated } := by
  have hm := s.measure_measured y
  unfold VelocityPidNode.probe
  generalize s.measure y = s' at hm
  rw [controlLoop_found hm.found]
  obtain ⟨saturated, h⟩ := dispatch_posPid_call (s := { s' with lastLoopTime := t })
    (hm.controlMode.trans hmode) m (s'.trajectoryAt m t) (s'.stepDt t)
  refine ⟨saturated, s'.stepDt t, h.trans ?_⟩
  show { (s'.posPid.compute (s'.trajectoryAt m t).pos s'.lastMeasuredPos (s'.stepDt t)).pid with
    saturated := saturated } = _
  rw [hm.posPid, hm.trajectoryAt, hm.lastMeasuredPos]

/-- A first probe in the other modes is one call of the velocity PID. -/
theorem probe_velPid (hmode : s.controlMode ≠ .positionOnly) (hinit : s.filterInitialized = false)
    (m : Libm ℚ) (t : Time) (v : ℚ) :
    ∃ setpoint saturated dt, (s.probe m t (0, v)).velPid =
      { (s.velPid.compute setpoint v dt).pid with saturated := saturated } := by
  have hm := s.measure_measured (0, v)
  have hvel := measure_lastMeasuredVel hinit v
  unfold VelocityPidNode.probe
  generalize s.measure (0, v) = s' at hm hvel
  have hmode' : s'.controlMode ≠ .positionOnly := by
    rw [hm.controlMode]
    exact hmode
  rw [controlLoop_found hm.found]
  obtain ⟨setpoint, saturated, h⟩ := dispatch_velPid_call (s := { s' with lastLoopTime := t })
    hmode' m (s'.trajectoryAt m t) (s'.stepDt t)
  refine ⟨setpoint, saturated, s'.stepDt t, h.trans ?_⟩
  show { (s'.velPid.compute setpoint s'.lastMeasuredVel (s'.stepDt t)).pid with
    saturated := saturated } = _
  rw [hm.velPid, hvel]

/-- A first probe starts the filter on its velocity. -/
theorem probe_filter (hinit : s.filterInitialized = false) (m : Libm ℚ) (t : Time) (v : ℚ) :
    (s.probe m t (0, v)).filteredVel = v ∧ (s.probe m t (0, v)).filterInitialized = true := by
  obtain ⟨i, _, hmeasure⟩ := s.measure_eq (0, v)
  have hmeas := (s.measure (0, v)).controlLoop_measurements m t
  unfold VelocityPidNode.probe
  rw [hmeas.filteredVel, hmeas.filterInitialized, hmeasure]
  refine ⟨?_, rfl⟩
  show (if s.filterInitialized = true then _ else v) = v
  rw [hinit]
  rfl

/-- From then on the filter moves by a part of each new measurement. -/
theorem measure_lastMeasuredVel_of_initialized (hinit : s.filterInitialized = true) (v : ℚ) :
    (s.measure (0, v)).lastMeasuredVel =
      s.filterAlpha * s.filteredVel + (1 - s.filterAlpha) * v := by
  obtain ⟨i, _, hmeasure⟩ := s.measure_eq (0, v)
  rw [hmeasure]
  show (if s.filterInitialized = true then
      s.filterAlpha * s.filteredVel + (lit 1 - s.filterAlpha) * v else v) = _
  rw [if_pos hinit, lit_rat]

/-- With derivative gain alone on the position PID, a second position acts. -/
theorem exists_position_of_kd {t : Time} (hconf : s.PidsConfigured)
    (hl : LimitsValid s.toVelocityPidMembers) (hlater : t < now)
    (hmode : s.controlMode = .positionOnly) (hkp : s.kpPos = 0) (hki : s.kiPos = 0)
    (hkd : s.kdPos ≠ 0) :
    (((s.probe m t (0, 0)).measure (1, 0)).controlLoop m now).torque ≠ 0 := by
  obtain ⟨hprobed, hmembers, hmode'⟩ := Probed.probe (m := m) (s := s) hconf hl hlater (0, 0)
  obtain ⟨saturated, dt, hpid⟩ := probe_posPid hmode m t (0, 0)
  have hoff : s.posPid.IntegralOff := Or.inl (hconf.pos.ki.trans hki)
  have hkd' : s.posPid.kd ≠ 0 := by
    rw [hconf.pos.kd]
    exact hkd
  apply hprobed.torque_of_posPid (hmode'.trans hmode)
  rw [hpid]
  exact (hoff.compute (s.trajectoryAt m t).pos 0 dt saturated).sum_ne_zero
    (hconf.pos.kp.trans hkp) hkd' rfl hprobed.stepDt_pos one_ne_zero _

/-- With derivative gain alone on the velocity PID, a second velocity acts. -/
theorem exists_velocity_of_kd {t : Time} (hconf : s.PidsConfigured)
    (hl : LimitsValid s.toVelocityPidMembers) (hlater : t < now)
    (hmode : s.controlMode ≠ .positionOnly) (hinit : s.filterInitialized = false)
    (halpha : s.filterAlpha < 1) (hkp : s.kp = 0) (hoff : s.velPid.IntegralOff)
    (hkd : s.kd ≠ 0) :
    (((s.probe m t (0, 0)).measure (0, 1)).controlLoop m now).torque ≠ 0 := by
  obtain ⟨hprobed, hmembers, hmode'⟩ := Probed.probe (m := m) (s := s) hconf hl hlater (0, 0)
  obtain ⟨setpoint, saturated, dt, hpid⟩ := probe_velPid hmode hinit m t 0
  obtain ⟨hfiltered, hstarted⟩ := probe_filter hinit m t 0
  have hkd' : s.velPid.kd ≠ 0 := by
    rw [hconf.vel.kd]
    exact hkd
  have hmoved : ((s.probe m t (0, 0)).measure (0, 1)).lastMeasuredVel = 1 - s.filterAlpha := by
    rw [measure_lastMeasuredVel_of_initialized hstarted, hfiltered, hmembers]
    ring
  have hne : (1 : ℚ) - s.filterAlpha ≠ 0 := by linarith
  have hff (x : ℚ) : (s.probe m t (0, 0)).feedforward x
      ((s.probe m t (0, 0)).trajectoryAt m now).accel = 0 := by
    rw [feedforward, hmembers, hkp, if_neg (lt_irrefl 0)]
  apply hprobed.torque_of_velPid (by rw [hmode']; exact hmode)
  intro setpoint'
  rw [hff, add_zero, hmoved, Ne, clamp_eq_zero_iff (by norm_num), hpid]
  exact (hoff.compute setpoint 0 dt saturated).sum_ne_zero (hconf.vel.kp.trans hkp) hkd' rfl
    hprobed.stepDt_pos hne _

end Acting

theorem startMembers_filterAlpha (l : Launch ℚ) : (startMembers l).filterAlpha < 1 := by
  rw [startMembers_eq]
  exact (unitOr_mem (by show (0 : ℚ) ≤ 0.90 ∧ (0.90 : ℚ) < 1; norm_num) _).2

/-- **Settings that are not passive let a torque out**, on the measurements `y`
at a tick as late as one likes, after at most one earlier measurement and tick. -/
theorem exists_acting {l : Launch ℚ} {t₀ t₁ : Time} (h : ¬(start l t₀ t₁).Passive) (m : Libm ℚ)
    {now : Time} (hnow : t₀ < now) :
    ∃ ys y, (((run (probe m t₀) (start l t₀ t₁) ys).measure y).controlLoop m now).torque ≠ 0 := by
  have hconf := start_pidsConfigured l t₀ t₁
  have hl : LimitsValid (start l t₀ t₁).toVelocityPidMembers := startMembers_limitsValid l
  have halpha : (start l t₀ t₁).filterAlpha < 1 := startMembers_filterAlpha l
  have hvel : (start l t₀ t₁).velPid.Unstarted := ⟨rfl, rfl, rfl⟩
  have hpos : (start l t₀ t₁).posPid.Unstarted := ⟨rfl, rfl, rfl⟩
  have hinit : (start l t₀ t₁).filterInitialized = false := rfl
  have hlast : (start l t₀ t₁).lastLoopTime = t₀ := rfl
  generalize start l t₀ t₁ = s at *
  have hprobed : s.Probed now := ⟨hconf, hl, by rw [hlast]; exact hnow⟩
  by_cases hmode : s.controlMode = .positionOnly
  · rw [passive_positionOnly hmode] at h
    by_cases hreacts : s.posPid.Reacts
    · obtain ⟨p, hp⟩ := hprobed.exists_position hmode hpos hreacts m
      exact ⟨[], (p, 0), hp⟩
    · obtain ⟨hkp, hki⟩ := PidController.not_reacts_iff.mp hreacts
      rw [hconf.pos.kp] at hkp
      rw [hconf.pos.ki, hconf.pos.integralLimit, or_iff_left hl.posIntegral.ne'] at hki
      have hkd : s.kdPos ≠ 0 := fun hkd => h ⟨hkp, hkd, hki⟩
      exact ⟨[(0, 0)], (1, 0), exists_position_of_kd hconf hl hnow hmode hkp hki hkd⟩
  · rw [passive_of_ne hmode] at h
    by_cases hreacts : s.velPid.Reacts
    · obtain ⟨v, hv⟩ := hprobed.exists_velocity hmode hvel hreacts hinit m
      exact ⟨[], (0, v), hv⟩
    · obtain ⟨hkp, hoff⟩ := PidController.not_reacts_iff.mp hreacts
      rw [hconf.vel.kp] at hkp
      rw [hconf.vel.ki, hconf.vel.integralLimit] at hoff
      have hkd : s.kd ≠ 0 := fun hkd => h ⟨hkp, hkd, hoff⟩
      exact ⟨[(0, 0)], (0, 1), exists_velocity_of_kd hconf hl hnow hmode hinit halpha hkp
        (hconf.velIntegralOff hvel.integral hoff) hkd⟩

end MarineHil.Ports.VelocityPidNode
