import MarineHil.Ports.VelocityPidNode

/-!
# What the callbacks of `VelocityPidNode` leave alone

The results about the node quote the lemmas of this module and do not unfold
its callbacks again.

## Main results

* `controlLoop_settings`, `jointStateCallback_settings`: no callback but a
  parameter update touches a setting.
* `run_pidsConfigured`: the two PID controllers always carry the gains and
  limits of the members, and keep their own output bounds at ±1e9.
* `run_jointIndex_neg_iff`: the joint is found exactly when the last message
  lists it.
-/

namespace MarineHil.Ports

open MarineHil.Verified

variable {α : Type} [Double α]

/-- A controller carries the given gains and limits, and the output bounds of
its initialisers. -/
structure PidController.Configured (c : PidController α)
    (kp ki kd integralLimit deadband : α) : Prop where
  kp : c.kp = kp
  ki : c.ki = ki
  kd : c.kd = kd
  integralLimit : c.integralLimit = integralLimit
  deadband : c.deadband = deadband
  outputMin : c.outputMin = -lit 1000000000
  outputMax : c.outputMax = lit 1000000000

namespace PidController.Configured

variable {c : PidController α} {kp ki kd integralLimit deadband : α}

/-- A call of `compute`, and the caller's own saturation flag, keep the
configuration. -/
theorem compute (h : c.Configured kp ki kd integralLimit deadband)
    (setpoint measurement dt : α) (saturated : Bool) :
    PidController.Configured
      { (c.compute setpoint measurement dt).pid with saturated := saturated }
      kp ki kd integralLimit deadband :=
  ⟨h.kp, h.ki, h.kd, h.integralLimit, h.deadband, h.outputMin, h.outputMax⟩

end PidController.Configured

namespace VelocityPidNode

/-! ## Settings -/

/-- Two nodes with the same parameters, mode, joint and start. -/
structure SameSettings (s s' : VelocityPidNode α) : Prop where
  members : s'.toVelocityPidMembers = s.toVelocityPidMembers
  jointName : s'.jointName = s.jointName
  controlMode : s'.controlMode = s.controlMode
  dt : s'.dt = s.dt
  startTime : s'.startTime = s.startTime
  parameters : s'.parameters = s.parameters

/-- Two nodes with the same view of the joint. -/
structure SameMeasurements (s s' : VelocityPidNode α) : Prop where
  jointIndex : s'.jointIndex = s.jointIndex
  lastMeasuredVel : s'.lastMeasuredVel = s.lastMeasuredVel
  filteredVel : s'.filteredVel = s.filteredVel
  filterInitialized : s'.filterInitialized = s.filterInitialized
  lastMeasuredPos : s'.lastMeasuredPos = s.lastMeasuredPos

omit [Double α] in
theorem SameSettings.refl (s : VelocityPidNode α) : s.SameSettings s :=
  ⟨rfl, rfl, rfl, rfl, rfl, rfl⟩

omit [Double α] in
theorem SameSettings.trans {s s' s'' : VelocityPidNode α} (h : s.SameSettings s')
    (h' : s'.SameSettings s'') : s.SameSettings s'' :=
  ⟨h'.members.trans h.members, h'.jointName.trans h.jointName,
    h'.controlMode.trans h.controlMode, h'.dt.trans h.dt, h'.startTime.trans h.startTime,
    h'.parameters.trans h.parameters⟩

section Dispatch

variable {s : VelocityPidNode α} (m : Libm α) (traj : TrajectoryRef α) (dt : α)

theorem dispatch_cascade (h : s.controlMode = .cascade) :
    s.dispatch m traj dt =
      let o := s.runOuterLoop m traj.pos traj.vel dt
      let r := o.1.runInnerLoop o.1.vCmd traj.accel dt
      { r with clamps := o.2 ++ r.clamps } := by
  unfold dispatch
  rw [h]

theorem dispatch_positionOnly (h : s.controlMode = .positionOnly) :
    s.dispatch m traj dt = s.runPositionLoop traj.pos dt := by
  unfold dispatch
  rw [h]

theorem dispatch_velocityOnly (h : s.controlMode = .velocityOnly) :
    s.dispatch m traj dt = { s with vCmd := traj.vel }.runInnerLoop traj.vel traj.accel dt := by
  unfold dispatch
  rw [h]

end Dispatch

theorem runOuterLoop_fires {s : VelocityPidNode α} {m : Libm α} (h : s.outerLoopFires m = true)
    (posRef velFf dt : α) :
    s.runOuterLoop m posRef velFf dt =
      let r := s.posPid.compute posRef s.lastMeasuredPos (s.outerDtAccum + dt)
      let vCmd := clamp (r.output + velFf) (-s.posOutputLimit) s.posOutputLimit
      ({ s with
          outerLoopCounter := 0
          posPid := { r.pid with saturated := decide (s.posOutputLimit ≤ fabs vCmd) }
          vCmd := vCmd
          outerDtAccum := 0 },
        r.clamps ++ [(-s.posOutputLimit, s.posOutputLimit)]) := by
  unfold runOuterLoop
  rw [if_pos h]

theorem runOuterLoop_waits {s : VelocityPidNode α} {m : Libm α} (h : s.outerLoopFires m = false)
    (posRef velFf dt : α) :
    s.runOuterLoop m posRef velFf dt =
      ({ s with
          outerLoopCounter := s.outerLoopCounter + 1
          outerDtAccum := s.outerDtAccum + dt }, []) := by
  unfold runOuterLoop
  rw [if_neg (by rw [h]; exact Bool.false_ne_true)]

/-- The outer loop leaves the inner one as it was. -/
theorem runOuterLoop_inner (s : VelocityPidNode α) (m : Libm α) (posRef velFf dt : α) :
    (s.runOuterLoop m posRef velFf dt).1.velPid = s.velPid ∧
      (s.runOuterLoop m posRef velFf dt).1.toVelocityPidMembers = s.toVelocityPidMembers ∧
      (s.runOuterLoop m posRef velFf dt).1.controlMode = s.controlMode := by
  cases hfires : s.outerLoopFires m with
  | true =>
      rw [runOuterLoop_fires hfires]
      exact ⟨rfl, rfl, rfl⟩
  | false =>
      rw [runOuterLoop_waits hfires]
      exact ⟨rfl, rfl, rfl⟩

/-- What the mode dispatch leaves alone. -/
theorem dispatch_frame (s : VelocityPidNode α) (m : Libm α) (traj : TrajectoryRef α) (dt : α) :
    s.SameSettings (s.dispatch m traj dt).node ∧
      s.SameMeasurements (s.dispatch m traj dt).node ∧
      (s.dispatch m traj dt).node.lastLoopTime = s.lastLoopTime := by
  cases hmode : s.controlMode with
  | velocityOnly =>
      rw [dispatch_velocityOnly m traj dt hmode]
      exact ⟨⟨rfl, rfl, rfl, rfl, rfl, rfl⟩, ⟨rfl, rfl, rfl, rfl, rfl⟩, rfl⟩
  | positionOnly =>
      rw [dispatch_positionOnly m traj dt hmode]
      exact ⟨⟨rfl, rfl, rfl, rfl, rfl, rfl⟩, ⟨rfl, rfl, rfl, rfl, rfl⟩, rfl⟩
  | cascade =>
      rw [dispatch_cascade m traj dt hmode]
      cases hfires : s.outerLoopFires m with
      | true =>
          rw [runOuterLoop_fires hfires]
          exact ⟨⟨rfl, rfl, rfl, rfl, rfl, rfl⟩, ⟨rfl, rfl, rfl, rfl, rfl⟩, rfl⟩
      | false =>
          rw [runOuterLoop_waits hfires]
          exact ⟨⟨rfl, rfl, rfl, rfl, rfl, rfl⟩, ⟨rfl, rfl, rfl, rfl, rfl⟩, rfl⟩

/-! ## Ticks -/

theorem controlLoop_lost {s : VelocityPidNode α} (h : s.jointIndex < 0) (m : Libm α)
    (now : Time) :
    s.controlLoop m now = { node := s, torque := 0, clamps := [], diagnostics := none } := by
  unfold controlLoop
  rw [if_pos h]

/-- A tick with the joint found runs the dispatch. -/
theorem controlLoop_found {s : VelocityPidNode α} (h : ¬s.jointIndex < 0) (m : Libm α)
    (now : Time) :
    (s.controlLoop m now).toVelocityPidStep =
      { s with lastLoopTime := now }.dispatch m (s.trajectoryAt m now) (s.stepDt now) := by
  unfold controlLoop
  rw [if_neg h]

section Mode

variable {s : VelocityPidNode α} (hfound : ¬s.jointIndex < 0) (m : Libm α) (now : Time)

include hfound

/-! The same, mode by mode. -/

theorem controlLoop_cascade (hmode : s.controlMode = .cascade) :
    (s.controlLoop m now).toVelocityPidStep =
      let o := { s with lastLoopTime := now }.runOuterLoop m (s.trajectoryAt m now).pos
        (s.trajectoryAt m now).vel (s.stepDt now)
      let r := o.1.runInnerLoop o.1.vCmd (s.trajectoryAt m now).accel (s.stepDt now)
      { r with clamps := o.2 ++ r.clamps } :=
  (controlLoop_found hfound m now).trans (dispatch_cascade m _ _ hmode)

theorem controlLoop_positionOnly (hmode : s.controlMode = .positionOnly) :
    (s.controlLoop m now).toVelocityPidStep =
      { s with lastLoopTime := now }.runPositionLoop (s.trajectoryAt m now).pos (s.stepDt now) :=
  (controlLoop_found hfound m now).trans (dispatch_positionOnly m _ _ hmode)

theorem controlLoop_velocityOnly (hmode : s.controlMode = .velocityOnly) :
    (s.controlLoop m now).toVelocityPidStep =
      { s with lastLoopTime := now, vCmd := (s.trajectoryAt m now).vel }.runInnerLoop
        (s.trajectoryAt m now).vel (s.trajectoryAt m now).accel (s.stepDt now) :=
  (controlLoop_found hfound m now).trans (dispatch_velocityOnly m _ _ hmode)

end Mode

/-- What a tick with the joint found publishes beside the torque. -/
theorem controlLoop_diagnostics {s : VelocityPidNode α} (h : ¬s.jointIndex < 0) (m : Libm α)
    (now : Time) :
    ∃ d, (s.controlLoop m now).diagnostics = some d ∧
      d.positionCommand = (s.trajectoryAt m now).pos ∧
      d.velocityCommand = (s.controlLoop m now).node.vCmd := by
  unfold controlLoop
  rw [if_neg h]
  exact ⟨_, rfl, rfl, rfl⟩

theorem controlLoop_settings (s : VelocityPidNode α) (m : Libm α) (now : Time) :
    s.SameSettings (s.controlLoop m now).node := by
  by_cases h : s.jointIndex < 0
  · rw [controlLoop_lost h]
    exact SameSettings.refl s
  · rw [controlLoop_found h]
    have hframe := (dispatch_frame { s with lastLoopTime := now } m (s.trajectoryAt m now)
      (s.stepDt now)).1
    exact ⟨hframe.members, hframe.jointName, hframe.controlMode, hframe.dt, hframe.startTime,
      hframe.parameters⟩

theorem controlLoop_measurements (s : VelocityPidNode α) (m : Libm α) (now : Time) :
    s.SameMeasurements (s.controlLoop m now).node := by
  by_cases h : s.jointIndex < 0
  · rw [controlLoop_lost h]
    exact ⟨rfl, rfl, rfl, rfl, rfl⟩
  · rw [controlLoop_found h]
    have hframe := (dispatch_frame { s with lastLoopTime := now } m (s.trajectoryAt m now)
      (s.stepDt now)).2.1
    exact ⟨hframe.jointIndex, hframe.lastMeasuredVel, hframe.filteredVel,
      hframe.filterInitialized, hframe.lastMeasuredPos⟩

theorem controlLoop_lastLoopTime {s : VelocityPidNode α} (h : ¬s.jointIndex < 0) (m : Libm α)
    (now : Time) : (s.controlLoop m now).node.lastLoopTime = now := by
  rw [controlLoop_found h]
  exact (dispatch_frame { s with lastLoopTime := now } m _ _).2.2

/-! ## Messages -/

/-- Everything a message leaves alone. -/
structure SameLoops (s s' : VelocityPidNode α) : Prop where
  lastLoopTime : s'.lastLoopTime = s.lastLoopTime
  outerLoopCounter : s'.outerLoopCounter = s.outerLoopCounter
  outerDtAccum : s'.outerDtAccum = s.outerDtAccum
  vCmd : s'.vCmd = s.vCmd
  velPid : s'.velPid = s.velPid
  posPid : s'.posPid = s.posPid

omit [Double α] in
theorem SameLoops.trans {s s' s'' : VelocityPidNode α} (h : s.SameLoops s')
    (h' : s'.SameLoops s'') : s.SameLoops s'' :=
  ⟨h'.lastLoopTime.trans h.lastLoopTime, h'.outerLoopCounter.trans h.outerLoopCounter,
    h'.outerDtAccum.trans h.outerDtAccum, h'.vCmd.trans h.vCmd, h'.velPid.trans h.velPid,
    h'.posPid.trans h.posPid⟩

theorem readVelocity_frame (s : VelocityPidNode α) (msg : JointState α) :
    s.SameSettings (s.readVelocity msg) ∧ s.SameLoops (s.readVelocity msg) ∧
      (s.readVelocity msg).jointIndex = s.jointIndex := by
  unfold readVelocity
  split <;> exact ⟨⟨rfl, rfl, rfl, rfl, rfl, rfl⟩, ⟨rfl, rfl, rfl, rfl, rfl, rfl⟩, rfl⟩

private theorem readPosition_frame (s : VelocityPidNode α) (msg : JointState α) :
    s.SameSettings (s.readPosition msg) ∧ s.SameLoops (s.readPosition msg) ∧
      (s.readPosition msg).jointIndex = s.jointIndex := by
  unfold readPosition
  split <;> exact ⟨⟨rfl, rfl, rfl, rfl, rfl, rfl⟩, ⟨rfl, rfl, rfl, rfl, rfl, rfl⟩, rfl⟩

theorem jointStateCallback_frame (s : VelocityPidNode α) (msg : JointState α) :
    s.SameSettings (s.jointStateCallback msg) ∧ s.SameLoops (s.jointStateCallback msg) ∧
      (s.jointStateCallback msg).jointIndex = s.locateJoint msg := by
  unfold jointStateCallback
  by_cases h : s.locateJoint msg < 0
  · rw [if_pos h]
    exact ⟨⟨rfl, rfl, rfl, rfl, rfl, rfl⟩, ⟨rfl, rfl, rfl, rfl, rfl, rfl⟩, rfl⟩
  · rw [if_neg h]
    obtain ⟨hvs, hvl, hvi⟩ := readVelocity_frame { s with jointIndex := s.locateJoint msg } msg
    obtain ⟨hps, hpl, hpi⟩ :=
      readPosition_frame ({ s with jointIndex := s.locateJoint msg }.readVelocity msg) msg
    have hs : s.SameSettings { s with jointIndex := s.locateJoint msg } :=
      ⟨rfl, rfl, rfl, rfl, rfl, rfl⟩
    have hl : s.SameLoops { s with jointIndex := s.locateJoint msg } :=
      ⟨rfl, rfl, rfl, rfl, rfl, rfl⟩
    exact ⟨hs.trans (hvs.trans hps), hl.trans (hvl.trans hpl), hpi.trans hvi⟩

theorem jointStateCallback_settings (s : VelocityPidNode α) (msg : JointState α) :
    s.SameSettings (s.jointStateCallback msg) := (s.jointStateCallback_frame msg).1

omit [Double α] in
/-- The index a message leaves: negative exactly when the joint is not listed,
and otherwise pointing at an entry of that name. -/
theorem locateJoint_cases (s : VelocityPidNode α) (msg : JointState α) :
    (s.locateJoint msg < 0 ∧ s.jointName ∉ msg.name) ∨
      (0 ≤ s.locateJoint msg ∧
        msg.name[(s.locateJoint msg).toNat]? = some s.jointName) := by
  unfold locateJoint
  by_cases h : s.jointIndex < 0 ∨ msg.name[s.jointIndex.toNat]? ≠ some s.jointName
  · rw [if_pos h]
    cases hfind : msg.name.findIdx? (· = s.jointName) with
    | none =>
        left
        refine ⟨by decide, ?_⟩
        intro hmem
        have hne := List.findIdx?_eq_none_iff.mp hfind _ hmem
        simp at hne
    | some i =>
        right
        obtain ⟨hi, hname, _⟩ := List.findIdx?_eq_some_iff_getElem.mp hfind
        refine ⟨by simp, ?_⟩
        simp only [Int.toNat_natCast]
        rw [List.getElem?_eq_getElem hi]
        exact congrArg some (of_decide_eq_true hname)
  · rw [if_neg h]
    push Not at h
    exact Or.inr h

omit [Double α] in
theorem locateJoint_neg_iff (s : VelocityPidNode α) (msg : JointState α) :
    s.locateJoint msg < 0 ↔ s.jointName ∉ msg.name := by
  rcases s.locateJoint_cases msg with ⟨hneg, hmem⟩ | ⟨hpos, hname⟩
  · exact ⟨fun _ => hmem, fun _ => hneg⟩
  · have hmem : s.jointName ∈ msg.name := List.mem_of_getElem? hname
    exact ⟨fun h => absurd h (not_lt.mpr hpos), fun h => absurd hmem h⟩

/-- A message that carries the joint: its index is found, its velocity goes
through the filter, and its position is held. -/
theorem jointStateCallback_carries {s : VelocityPidNode α} {msg : JointState α} {p v : α}
    (h : msg.Carries s.jointName p v) :
    s.jointStateCallback msg =
      { ({ s with jointIndex := s.locateJoint msg }.filterVelocity (s.oriented v)) with
        lastMeasuredPos := s.oriented p } := by
  rcases s.locateJoint_cases msg with ⟨_, hmem⟩ | ⟨hpos, hname⟩
  · exact absurd h.listed hmem
  · unfold jointStateCallback
    rw [if_neg (not_lt.mpr hpos)]
    unfold readPosition readVelocity
    simp only [h.velocity _ hname, filterVelocity, h.position _ hname]
    rfl

/-! ## Parameter updates -/

theorem acceptsBatch_iff {s : VelocityPidNode α} {batch : List (Parameter α)} :
    s.acceptsBatch batch = true ↔ s.parameters.admits batch = true ∧
      ∀ p ∈ batch, ∃ r, validateParameter p = some r ∧ r.successful = true := by
  rw [acceptsBatch, accepts_iff, onValidateParameters, validateAll_successful_iff]

theorem acceptsBatch_congr {s s' : VelocityPidNode α}
    (h : s.parameters.types = s'.parameters.types) (batch : List (Parameter α)) :
    s.acceptsBatch batch = s'.acceptsBatch batch :=
  accepts_congr h onValidateParameters batch

/-- What the assignments of a batch leave alone. -/
structure SameDevices (s s' : VelocityPidNode α) : Prop where
  jointName : s'.jointName = s.jointName
  measurements : s.SameMeasurements s'
  velPid : s'.velPid = s.velPid
  posPid : s'.posPid = s.posPid
  parameters : s'.parameters = s.parameters

theorem applyParameter_devices {s t : VelocityPidNode α} (h : s.SameDevices t)
    (p : Parameter α) : s.SameDevices (t.applyParameter p) := by
  obtain ⟨hname, ⟨hidx, hvel, hfil, hini, hpos⟩, hvp, hpp, hpar⟩ := h
  unfold applyParameter
  by_cases hmode : p.name = "control_mode"
  · rw [if_pos hmode]
    exact ⟨hname, ⟨hidx, hvel, hfil, hini, hpos⟩, hvp, hpp, hpar⟩
  · rw [if_neg hmode]
    cases findDef (α := α) p.name with
    | none => exact ⟨hname, ⟨hidx, hvel, hfil, hini, hpos⟩, hvp, hpp, hpar⟩
    | some d => exact ⟨hname, ⟨hidx, hvel, hfil, hini, hpos⟩, hvp, hpp, hpar⟩

theorem run_applyParameter_devices (s : VelocityPidNode α) (batch : List (Parameter α)) :
    s.SameDevices (run applyParameter s batch) :=
  invariant_run (I := fun t : VelocityPidNode α => s.SameDevices t)
    (by intro t p h; exact applyParameter_devices h p)
    ⟨rfl, ⟨rfl, rfl, rfl, rfl, rfl⟩, rfl, rfl, rfl⟩ batch

/-- The members after a batch are those of its assignments. -/
theorem onApplyParameters_members (s : VelocityPidNode α) (batch : List (Parameter α)) :
    (s.onApplyParameters batch).toVelocityPidMembers =
      (run applyParameter s batch).toVelocityPidMembers := by
  unfold onApplyParameters
  dsimp only
  split_ifs <;> rfl

theorem onApplyParameters_controlMode (s : VelocityPidNode α) (batch : List (Parameter α)) :
    (s.onApplyParameters batch).controlMode = (run applyParameter s batch).controlMode := by
  unfold onApplyParameters
  dsimp only
  split_ifs <;> rfl

/-! ## The PID controllers carry the members -/

/-- Both PID controllers carry the gains and limits of the members. -/
structure PidsConfigured (s : VelocityPidNode α) : Prop where
  vel : s.velPid.Configured s.kp s.ki s.kd s.integralLimit s.deadbandRadS
  pos : s.posPid.Configured s.kpPos s.kiPos s.kdPos s.posIntegralLimit 0

/-- What the two configuration helpers leave out: the output bounds and the
deadband of the position PID stay as initialised. -/
structure PidsInitialised (s : VelocityPidNode α) : Prop where
  velMin : s.velPid.outputMin = -lit 1000000000
  velMax : s.velPid.outputMax = lit 1000000000
  posDeadband : s.posPid.deadband = 0
  posMin : s.posPid.outputMin = -lit 1000000000
  posMax : s.posPid.outputMax = lit 1000000000

theorem PidsInitialised.applyConfig {s : VelocityPidNode α} (h : s.PidsInitialised) :
    s.applyVelPidConfig.applyPosPidConfig.PidsConfigured :=
  ⟨⟨rfl, rfl, rfl, rfl, rfl, h.velMin, h.velMax⟩,
    ⟨rfl, rfl, rfl, rfl, h.posDeadband, h.posMin, h.posMax⟩⟩

theorem PidsConfigured.initialised {s : VelocityPidNode α} (h : s.PidsConfigured) :
    s.PidsInitialised :=
  ⟨h.vel.outputMin, h.vel.outputMax, h.pos.deadband, h.pos.outputMin, h.pos.outputMax⟩

theorem start_pidsConfigured (l : Launch α) (t₀ t₁ : Time) : (start l t₀ t₁).PidsConfigured :=
  PidsInitialised.applyConfig ⟨rfl, rfl, rfl, rfl, rfl⟩

theorem PidsConfigured.jointStateCallback {s : VelocityPidNode α} (h : s.PidsConfigured)
    (msg : JointState α) : (s.jointStateCallback msg).PidsConfigured := by
  obtain ⟨hs, hl, _⟩ := s.jointStateCallback_frame msg
  constructor
  · rw [hl.velPid, hs.members]
    exact h.vel
  · rw [hl.posPid, hs.members]
    exact h.pos

theorem PidsConfigured.dispatch {s : VelocityPidNode α} (h : s.PidsConfigured) (m : Libm α)
    (traj : TrajectoryRef α) (dt : α) : (s.dispatch m traj dt).node.PidsConfigured := by
  cases hmode : s.controlMode with
  | velocityOnly =>
      rw [dispatch_velocityOnly m traj dt hmode]
      exact ⟨h.vel.compute _ _ _ _, h.pos⟩
  | positionOnly =>
      rw [dispatch_positionOnly m traj dt hmode]
      exact ⟨h.vel, h.pos.compute _ _ _ _⟩
  | cascade =>
      rw [dispatch_cascade m traj dt hmode]
      cases hfires : s.outerLoopFires m with
      | true =>
          rw [runOuterLoop_fires hfires]
          exact ⟨h.vel.compute _ _ _ _, h.pos.compute _ _ _ _⟩
      | false =>
          rw [runOuterLoop_waits hfires]
          exact ⟨h.vel.compute _ _ _ _, h.pos⟩

theorem PidsConfigured.controlLoop {s : VelocityPidNode α} (h : s.PidsConfigured) (m : Libm α)
    (now : Time) : (s.controlLoop m now).node.PidsConfigured := by
  by_cases hidx : s.jointIndex < 0
  · rw [controlLoop_lost hidx]
    exact h
  · rw [controlLoop_found hidx]
    have hnow : PidsConfigured { s with lastLoopTime := now } := ⟨h.vel, h.pos⟩
    exact hnow.dispatch m _ _

/-- After a parameter update the configuration is the new one: only the output
bounds come from before. -/
theorem PidsConfigured.onApplyParameters {s : VelocityPidNode α} (h : s.PidsConfigured)
    (batch : List (Parameter α)) : (s.onApplyParameters batch).PidsConfigured := by
  have hd := run_applyParameter_devices s batch
  obtain ⟨hvmin, hvmax, hdead, hpmin, hpmax⟩ := h.initialised
  rw [← hd.velPid] at hvmin hvmax
  rw [← hd.posPid] at hdead hpmin hpmax
  unfold VelocityPidNode.onApplyParameters
  dsimp only
  split_ifs <;>
    exact ⟨⟨rfl, rfl, rfl, rfl, rfl, hvmin, hvmax⟩, ⟨rfl, rfl, rfl, rfl, hdead, hpmin, hpmax⟩⟩

theorem PidsConfigured.setParameters {s : VelocityPidNode α} (h : s.PidsConfigured)
    (batch : List (Parameter α)) : (s.setParameters batch).PidsConfigured := by
  have hstored : PidsConfigured { s with parameters := s.parameters.setAll batch } :=
    ⟨h.vel, h.pos⟩
  unfold VelocityPidNode.setParameters
  split
  · exact hstored.onApplyParameters batch
  · exact h

theorem PidsConfigured.step {s : VelocityPidNode α} (h : s.PidsConfigured) (m : Libm α)
    (e : Timed (VelocityPidEvent α)) : (s.step m e).PidsConfigured := by
  obtain ⟨time, event⟩ := e
  cases event with
  | jointState msg => exact h.jointStateCallback msg
  | setParameters batch => exact h.setParameters batch
  | controlLoop => exact h.controlLoop m time

theorem run_pidsConfigured (m : Libm α) (l : Launch α) (t₀ t₁ : Time)
    (es : List (Timed (VelocityPidEvent α))) :
    (run (VelocityPidNode.step m) (start l t₀ t₁) es).PidsConfigured :=
  invariant_run (I := fun s : VelocityPidNode α => s.PidsConfigured)
    (by intro s e h; exact h.step m e) (start_pidsConfigured l t₀ t₁) es

/-! ## The joint and the declared types, over whole runs -/

theorem onApplyParameters_parameters (s : VelocityPidNode α) (batch : List (Parameter α)) :
    (s.onApplyParameters batch).parameters = s.parameters := by
  rw [← (run_applyParameter_devices s batch).parameters]
  unfold onApplyParameters
  dsimp only
  split_ifs <;> rfl

theorem setParameters_joint (s : VelocityPidNode α) (batch : List (Parameter α)) :
    (s.setParameters batch).jointName = s.jointName ∧
      s.SameMeasurements (s.setParameters batch) := by
  unfold setParameters
  split
  · have hd := run_applyParameter_devices
      { s with parameters := s.parameters.setAll batch } batch
    obtain ⟨hname, ⟨hidx, hvel, hfil, hini, hpos⟩, _, _, _⟩ := hd
    unfold onApplyParameters
    dsimp only
    split_ifs <;> exact ⟨hname, ⟨hidx, hvel, hfil, hini, hpos⟩⟩
  · exact ⟨rfl, ⟨rfl, rfl, rfl, rfl, rfl⟩⟩

/-- The clock readings and the velocity command, which no batch changes. -/
structure SameClock (s s' : VelocityPidNode α) : Prop where
  dt : s'.dt = s.dt
  startTime : s'.startTime = s.startTime
  lastLoopTime : s'.lastLoopTime = s.lastLoopTime
  vCmd : s'.vCmd = s.vCmd

theorem run_applyParameter_clock (s : VelocityPidNode α) (batch : List (Parameter α)) :
    s.SameClock (run applyParameter s batch) := by
  refine invariant_run (I := fun t : VelocityPidNode α => s.SameClock t) ?_ ⟨rfl, rfl, rfl, rfl⟩
    batch
  intro t p h
  obtain ⟨hdt, hstart, hlast, hcmd⟩ := h
  unfold applyParameter
  by_cases hmode : p.name = "control_mode"
  · rw [if_pos hmode]
    exact ⟨hdt, hstart, hlast, hcmd⟩
  · rw [if_neg hmode]
    cases findDef (α := α) p.name with
    | none => exact ⟨hdt, hstart, hlast, hcmd⟩
    | some d => exact ⟨hdt, hstart, hlast, hcmd⟩

theorem setParameters_clock (s : VelocityPidNode α) (batch : List (Parameter α)) :
    s.SameClock (s.setParameters batch) := by
  unfold setParameters
  split
  · obtain ⟨hdt, hstart, hlast, hcmd⟩ :=
      run_applyParameter_clock { s with parameters := s.parameters.setAll batch } batch
    unfold onApplyParameters
    dsimp only
    split_ifs <;> exact ⟨hdt, hstart, hlast, hcmd⟩
  · exact ⟨rfl, rfl, rfl, rfl⟩

/-- The batch of an event. -/
def batchOf (e : Timed (VelocityPidEvent α)) : Option (List (Parameter α)) :=
  match e.event with
  | .setParameters batch => some batch
  | _ => none

/-- The store changes by accepted batches alone. -/
theorem storesBatches (m : Libm α) :
    StoresBatches (onValidateParameters (α := α)) batchOf (step m) (·.parameters) := by
  intro s e
  obtain ⟨time, event⟩ := e
  cases event with
  | jointState msg => exact (s.jointStateCallback_settings msg).parameters
  | controlLoop => exact (s.controlLoop_settings m time).parameters
  | setParameters batch =>
      show (s.setParameters batch).parameters = _
      have hbatch : acceptedBatch onValidateParameters batchOf s.parameters
          (⟨time, .setParameters batch⟩ : Timed (VelocityPidEvent α)) =
            if s.acceptsBatch batch then some batch else none := rfl
      rw [hbatch, setParameters]
      split
      · exact onApplyParameters_parameters _ batch
      · rfl

/-- No callback changes the type of a declared parameter. -/
theorem step_types (m : Libm α) (s : VelocityPidNode α) (e : Timed (VelocityPidEvent α)) :
    (s.step m e).parameters.types = s.parameters.types :=
  (storesBatches m).types_step s e

/-- The `JointState` message of an event. -/
def jointStateOf (e : Timed (VelocityPidEvent α)) : Option (JointState α) :=
  match e.event with
  | .jointState msg => some msg
  | _ => none

/-- The last `JointState` message of a history. -/
def lastJointState (es : List (Timed (VelocityPidEvent α))) : Option (JointState α) :=
  lastSome jointStateOf es

/-- The joint is in the last message of the history. -/
def jointFound (joint : String) (es : List (Timed (VelocityPidEvent α))) : Bool :=
  ((lastJointState es).map fun msg => decide (joint ∈ msg.name)).getD false

theorem step_dt (m : Libm α) (s : VelocityPidNode α) (e : Timed (VelocityPidEvent α)) :
    (s.step m e).dt = s.dt := by
  obtain ⟨time, event⟩ := e
  cases event with
  | jointState msg => exact (s.jointStateCallback_settings msg).dt
  | setParameters batch => exact (s.setParameters_clock batch).dt
  | controlLoop => exact (s.controlLoop_settings m time).dt

theorem step_jointName (m : Libm α) (s : VelocityPidNode α) (e : Timed (VelocityPidEvent α)) :
    (s.step m e).jointName = s.jointName := by
  obtain ⟨time, event⟩ := e
  cases event with
  | jointState msg => exact (s.jointStateCallback_settings msg).jointName
  | setParameters batch => exact (s.setParameters_joint batch).1
  | controlLoop => exact (s.controlLoop_settings m time).jointName

/-- Only a message moves the index. -/
theorem step_jointIndex (m : Libm α) (s : VelocityPidNode α) (e : Timed (VelocityPidEvent α)) :
    (s.step m e).jointIndex = (jointStateOf e).elim s.jointIndex s.locateJoint := by
  obtain ⟨time, event⟩ := e
  cases event with
  | jointState msg => exact (s.jointStateCallback_frame msg).2.2
  | setParameters batch => exact (s.setParameters_joint batch).2.jointIndex
  | controlLoop => exact (s.controlLoop_measurements m time).jointIndex

theorem run_jointName (m : Libm α) (l : Launch α) (t₀ t₁ : Time)
    (es : List (Timed (VelocityPidEvent α))) :
    (run (step m) (start l t₀ t₁) es).jointName = jointNameOf l :=
  invariant_run (I := fun s : VelocityPidNode α => s.jointName = jointNameOf l)
    (by intro s e h; exact (step_jointName m s e).trans h) rfl es

/-- A non-negative index points at the joint in the last message. -/
theorem run_jointIndex_points {m : Libm α} {l : Launch α} {t₀ t₁ : Time}
    {es : List (Timed (VelocityPidEvent α))}
    (h : 0 ≤ (run (step m) (start l t₀ t₁) es).jointIndex) :
    ∃ msg, lastJointState es = some msg ∧
      msg.name[(run (step m) (start l t₀ t₁) es).jointIndex.toNat]? = some (jointNameOf l) := by
  induction es using List.reverseRecOn with
  | nil => exact absurd h (by show ¬(0 : ℤ) ≤ -1; decide)
  | append_singleton es e ih =>
      rw [run_concat, step_jointIndex] at h ⊢
      rw [lastJointState, lastSome_concat]
      cases hmsg : jointStateOf e with
      | none =>
          rw [hmsg] at h
          exact ih h
      | some msg =>
          rw [hmsg] at h
          refine ⟨msg, rfl, ?_⟩
          rcases locateJoint_cases (run (step m) (start l t₀ t₁) es) msg with ⟨hneg, _⟩ | ⟨_, hat⟩
          · exact absurd h (not_le.mpr hneg)
          · exact hat.trans (congrArg some (run_jointName m l t₀ t₁ es))

/-- The joint is found exactly when the last message lists it. -/
theorem run_jointIndex_neg_iff (m : Libm α) (l : Launch α) (t₀ t₁ : Time)
    (es : List (Timed (VelocityPidEvent α))) :
    (run (step m) (start l t₀ t₁) es).jointIndex < 0 ↔ jointFound (jointNameOf l) es = false := by
  let found (e : Timed (VelocityPidEvent α)) : Option Bool :=
    (jointStateOf e).map fun msg => decide (jointNameOf l ∈ msg.name)
  have hlatch : decide (0 ≤ (run (step m) (start l t₀ t₁) es).jointIndex) =
      (lastSome found es).getD false := by
    refine latch_run_of_invariant (fun s : VelocityPidNode α => decide (0 ≤ s.jointIndex))
      (I := fun s => s.jointName = jointNameOf l) ?_ ?_ rfl es
    · intro s e h
      exact (step_jointName m s e).trans h
    · intro s e h
      show decide (0 ≤ (s.step m e).jointIndex) =
        ((jointStateOf e).map fun msg => decide (jointNameOf l ∈ msg.name)).getD
          (decide (0 ≤ s.jointIndex))
      rw [step_jointIndex]
      cases jointStateOf e with
      | none => rfl
      | some msg =>
          have hiff := s.locateJoint_neg_iff msg
          rw [h] at hiff
          show decide (0 ≤ s.locateJoint msg) = decide (jointNameOf l ∈ msg.name)
          rw [decide_eq_decide, ← not_lt, hiff, not_not]
  rw [jointFound, lastJointState, ← lastSome_map, ← hlatch, decide_eq_false_iff_not, not_le]

end VelocityPidNode

end MarineHil.Ports
