import MarineHil.Ports.VelocityPidParameters

/-!
# The shadow controller replicates the node

`ShadowPidController` is a second copy of the control law of
`VelocityPidNode`, with another layout: it filters the velocity inside
`compute`, and writes the gains into its PID controllers at every call.
`toShadow` maps a state of the node to the state of the shadow that continues
like it, and commutes with the filter, the trajectory and the mode dispatch of
both programs, whatever the arithmetic.

## Main results

* `dispatch_toShadow`: one control step of either program is the other's.
* `Replicates.tick`: the relation "the shadow continues like the node" survives
  a message and the tick after it, with equal torques.
* `compute_eq_controlLoop`: hence equal torques and velocity commands at every
  tick of every run.
-/

namespace MarineHil.Ports.VelocityPidNode

open MarineHil.Verified

variable {α : Type} [Double α]

/-! ## The state of the shadow that continues like the node -/

def toShadow (s : VelocityPidNode α) : ShadowPidController α where
  controlMode := s.controlMode
  positionSetpoint := s.positionSetpoint
  amplitudeRadS := s.amplitudeRadS
  omegaRadS := s.omegaRadS
  kp := s.kp
  ki := s.ki
  kd := s.kd
  kff := s.kff
  kaff := s.kaff
  torqueLimitNm := s.torqueLimitNm
  integralLimit := s.integralLimit
  deadbandRadS := s.deadbandRadS
  kpPos := s.kpPos
  kiPos := s.kiPos
  kdPos := s.kdPos
  posIntegralLimit := s.posIntegralLimit
  posOutputLimit := s.posOutputLimit
  outerLoopDivider := s.outerLoopDivider
  filterAlpha := s.filterAlpha
  velPid := s.velPid
  posPid := s.posPid
  filteredVel := s.filteredVel
  filterInitialized := s.filterInitialized
  outerLoopCounter := s.outerLoopCounter
  outerDtAccum := s.outerDtAccum
  vCmd := s.vCmd

/-- A fresh shadow with the settings of the node. -/
def freshShadow (s : VelocityPidNode α) : ShadowPidController α :=
  { (ShadowPidController.fresh : ShadowPidController α) with
    controlMode := s.controlMode
    positionSetpoint := s.positionSetpoint
    amplitudeRadS := s.amplitudeRadS
    omegaRadS := s.omegaRadS
    kp := s.kp
    ki := s.ki
    kd := s.kd
    kff := s.kff
    kaff := s.kaff
    torqueLimitNm := s.torqueLimitNm
    integralLimit := s.integralLimit
    deadbandRadS := s.deadbandRadS
    kpPos := s.kpPos
    kiPos := s.kiPos
    kdPos := s.kdPos
    posIntegralLimit := s.posIntegralLimit
    posOutputLimit := s.posOutputLimit
    outerLoopDivider := s.outerLoopDivider
    filterAlpha := s.filterAlpha }

/-! ## Each piece of the control law commutes with `toShadow` -/

section Commute

variable {s : VelocityPidNode α}

theorem filterVelocity_toShadow (v : α) :
    s.toShadow.filterVelocity v = (s.filterVelocity v).toShadow := by
  unfold ShadowPidController.filterVelocity filterVelocity
  by_cases h : s.filterInitialized = true
  · have h' : s.toShadow.filterInitialized = true := h
    rw [if_pos h, if_pos h']
    show ({ s.toShadow with
        filteredVel := s.filterAlpha * s.filteredVel + (lit 1 - s.filterAlpha) * v
        filterInitialized := s.filterInitialized } : ShadowPidController α) = _
    rw [h]
    rfl
  · have h' : ¬s.toShadow.filterInitialized = true := h
    rw [if_neg h, if_neg h']
    rfl

/-- Writing the gains again changes nothing in a configured node. -/
theorem PidsConfigured.applyGains_toShadow (h : s.PidsConfigured) :
    s.toShadow.applyGains = s.toShadow := by
  have hv : s.toShadow.applyGains.velPid = s.velPid := by
    obtain ⟨hkp, hki, hkd, hil, hdb, _, _⟩ := h.vel
    show { s.velPid with
      kp := s.kp, ki := s.ki, kd := s.kd
      integralLimit := s.integralLimit, deadband := s.deadbandRadS } = s.velPid
    rw [← hkp, ← hki, ← hkd, ← hil, ← hdb]
  have hp : s.toShadow.applyGains.posPid = s.posPid := by
    obtain ⟨hkp, hki, hkd, hil, _, _, _⟩ := h.pos
    show { s.posPid with
      kp := s.kpPos, ki := s.kiPos, kd := s.kdPos
      integralLimit := s.posIntegralLimit } = s.posPid
    rw [← hkp, ← hki, ← hkd, ← hil]
  calc s.toShadow.applyGains
      = { s.toShadow with
          velPid := s.toShadow.applyGains.velPid
          posPid := s.toShadow.applyGains.posPid } := rfl
    _ = s.toShadow := by
        rw [hv, hp]
        rfl

/-- The inner loop reads the filtered velocity in both programs. -/
theorem runInnerLoop_toShadow (h : s.lastMeasuredVel = s.filteredVel)
    (velSetpoint accelFf dt : α) :
    (s.toShadow.runInnerLoop velSetpoint accelFf dt).torque =
        (s.runInnerLoop velSetpoint accelFf dt).torque ∧
      (s.toShadow.runInnerLoop velSetpoint accelFf dt).shadow =
        (s.runInnerLoop velSetpoint accelFf dt).node.toShadow := by
  unfold runInnerLoop
  rw [h]
  exact ⟨rfl, rfl⟩

theorem runOuterLoop_toShadow (m : Libm α) (posRef velFf dt : α) :
    (s.toShadow.runOuterLoop m posRef velFf s.lastMeasuredPos dt).1 =
      (s.runOuterLoop m posRef velFf dt).1.toShadow := by
  unfold ShadowPidController.runOuterLoop
  by_cases h : toInt32 (llround m s.outerLoopDivider) ≤ s.outerLoopCounter + 1
  · rw [runOuterLoop_fires (decide_eq_true h)]
    exact congrArg Prod.fst (if_pos h)
  · rw [runOuterLoop_waits (decide_eq_false h)]
    exact congrArg Prod.fst (if_neg h)

/-- One control step of either program is the other's. -/
theorem dispatch_toShadow (h : s.lastMeasuredVel = s.filteredVel) (m : Libm α)
    (traj : TrajectoryRef α) (dt : α) :
    (s.toShadow.dispatch m s.lastMeasuredPos traj dt).torque = (s.dispatch m traj dt).torque ∧
      (s.toShadow.dispatch m s.lastMeasuredPos traj dt).shadow =
        (s.dispatch m traj dt).node.toShadow := by
  cases hmode : s.controlMode with
  | velocityOnly =>
      have hmode' : s.toShadow.controlMode = .velocityOnly := hmode
      rw [dispatch_velocityOnly m traj dt hmode,
        ShadowPidController.dispatch_velocityOnly m _ traj dt hmode']
      have h' : ({ s with vCmd := traj.vel } : VelocityPidNode α).lastMeasuredVel =
          ({ s with vCmd := traj.vel } : VelocityPidNode α).filteredVel := h
      exact runInnerLoop_toShadow h' traj.vel traj.accel dt
  | positionOnly =>
      have hmode' : s.toShadow.controlMode = .positionOnly := hmode
      rw [dispatch_positionOnly m traj dt hmode,
        ShadowPidController.dispatch_positionOnly m _ traj dt hmode']
      exact ⟨rfl, rfl⟩
  | cascade =>
      have hmode' : s.toShadow.controlMode = .cascade := hmode
      rw [dispatch_cascade m traj dt hmode,
        ShadowPidController.dispatch_cascade m _ traj dt hmode']
      have houter := runOuterLoop_toShadow (s := s) m traj.pos traj.vel dt
      have h' : (s.runOuterLoop m traj.pos traj.vel dt).1.lastMeasuredVel =
          (s.runOuterLoop m traj.pos traj.vel dt).1.filteredVel := by
        cases hfires : s.outerLoopFires m with
        | true =>
            rw [runOuterLoop_fires hfires]
            exact h
        | false =>
            rw [runOuterLoop_waits hfires]
            exact h
      show ((s.toShadow.runOuterLoop m traj.pos traj.vel s.lastMeasuredPos dt).1.runInnerLoop
          (s.toShadow.runOuterLoop m traj.pos traj.vel s.lastMeasuredPos dt).1.vCmd
          traj.accel dt).torque = _ ∧
        ((s.toShadow.runOuterLoop m traj.pos traj.vel s.lastMeasuredPos dt).1.runInnerLoop
          (s.toShadow.runOuterLoop m traj.pos traj.vel s.lastMeasuredPos dt).1.vCmd
          traj.accel dt).shadow = _
      rw [houter]
      exact runInnerLoop_toShadow h' _ traj.accel dt

/-- The tick of a node whose filter is in step with its measurement, as the
shadow computes it. -/
theorem controlLoop_toShadow (hfound : ¬s.jointIndex < 0) (h : s.lastMeasuredVel = s.filteredVel)
    (m : Libm α) (now : Time) :
    let r := s.toShadow.dispatch m s.lastMeasuredPos (s.trajectoryAt m now) (s.stepDt now)
    r.torque = (s.controlLoop m now).torque ∧ r.shadow = (s.controlLoop m now).node.toShadow := by
  have hdispatch := dispatch_toShadow (s := { s with lastLoopTime := now }) h m
    (s.trajectoryAt m now) (s.stepDt now)
  rw [← controlLoop_found hfound] at hdispatch
  exact hdispatch

end Commute

/-! ## The two programs in lock-step -/

/-- What both programs are given at one tick: a message that carries the joint,
and the clock at the tick. -/
structure TickInput (α : Type) (joint : String) where
  sample : JointState.Sample α joint
  now : Time

/-- The message and the tick after it. -/
def sampledTick (m : Libm α) {joint : String} (s : VelocityPidNode α)
    (x : TickInput α joint) : VelocityPidTick α :=
  (s.jointStateCallback x.sample.message).controlLoop m x.now

/-- The shadow's tick on the sample, with the time and the `dt` of the node. -/
def shadowTick (m : Libm α) {joint : String} (s : VelocityPidNode α)
    (c : ShadowPidController α) (x : TickInput α joint) : ShadowStep α :=
  let s := s.jointStateCallback x.sample.message
  c.compute m x.sample.position x.sample.velocity (seconds (x.now - s.startTime))
    (s.stepDt x.now)

/-- Both programs after one tick. -/
def pairedStep (m : Libm α) {joint : String}
    (p : VelocityPidNode α × ShadowPidController α) (x : TickInput α joint) :
    VelocityPidNode α × ShadowPidController α :=
  ((p.1.sampledTick m x).node, (shadowTick m p.1 p.2 x).shadow)

/-- The shadow continues like the node. -/
structure Replicates (joint : String) (s : VelocityPidNode α) (c : ShadowPidController α) :
    Prop where
  state : c.applyGains = s.toShadow
  measured : s.lastMeasuredVel = s.filteredVel
  configured : s.PidsConfigured
  upright : s.invertOutput = false
  jointName : s.jointName = joint

/-- A node that has just read a sample of its joint. -/
structure Ready (joint : String) (s : VelocityPidNode α) : Prop where
  found : ¬s.jointIndex < 0
  measured : s.lastMeasuredVel = s.filteredVel
  configured : s.PidsConfigured
  upright : s.invertOutput = false
  jointName : s.jointName = joint

/-- What a sample does to both programs before they run their loops. -/
theorem Replicates.sample {joint : String} {s : VelocityPidNode α} {c : ShadowPidController α}
    (h : Replicates joint s c) (x : JointState.Sample α joint) :
    let s' := s.jointStateCallback x.message
    Ready joint s' ∧ s'.lastMeasuredPos = x.position ∧
      c.applyGains.filterVelocity x.velocity = s'.toShadow := by
  intro s'
  have hcarries : x.message.Carries s.jointName x.position x.velocity := by
    rw [h.jointName]
    exact x.carries
  have hs' : s' = _ := jointStateCallback_carries hcarries
  have hset : s.SameSettings s' := s.jointStateCallback_settings x.message
  have horient : ∀ y : α, s.oriented y = y := by
    intro y
    rw [oriented, if_neg (by rw [h.upright]; exact Bool.false_ne_true)]
  have hfound : ¬s'.jointIndex < 0 := by
    rw [(s.jointStateCallback_frame x.message).2.2, s.locateJoint_neg_iff, not_not]
    exact hcarries.listed
  have hmeasured : s'.lastMeasuredVel = s'.filteredVel := by
    rw [hs']
    rfl
  have hupright : s'.invertOutput = false := by
    rw [hset.members]
    exact h.upright
  refine ⟨⟨hfound, hmeasured, h.configured.jointStateCallback x.message, hupright,
    hset.jointName.trans h.jointName⟩, ?_, ?_⟩
  · rw [hs']
    exact horient x.position
  · rw [h.state, hs', filterVelocity_toShadow, horient]
    rfl

/-- A shadow in the state of the node after the tick continues like it. -/
theorem Ready.replicates {joint : String} {s : VelocityPidNode α} (h : Ready joint s)
    (m : Libm α) (now : Time) :
    Replicates joint (s.controlLoop m now).node (s.controlLoop m now).node.toShadow := by
  have hconf := h.configured.controlLoop m now
  have hset := s.controlLoop_settings m now
  have hmeas := s.controlLoop_measurements m now
  refine ⟨hconf.applyGains_toShadow, ?_, hconf, ?_, hset.jointName.trans h.jointName⟩
  · rw [hmeas.lastMeasuredVel, hmeas.filteredVel]
    exact h.measured
  · rw [hset.members]
    exact h.upright

/-- One tick: equal torques, equal velocity commands, and the relation again. -/
theorem Replicates.tick {joint : String} {s : VelocityPidNode α} {c : ShadowPidController α}
    (h : Replicates joint s c) (m : Libm α) (x : TickInput α joint) :
    (shadowTick m s c x).torque = (s.sampledTick m x).torque ∧
      (shadowTick m s c x).shadow.vCmd = (s.sampledTick m x).node.vCmd ∧
      Replicates joint (s.sampledTick m x).node (shadowTick m s c x).shadow := by
  obtain ⟨hready, hpos, hfilter⟩ := h.sample x.sample
  unfold shadowTick sampledTick
  generalize s.jointStateCallback x.sample.message = s' at hready hpos hfilter
  have hshadow : c.compute m x.sample.position x.sample.velocity
        (seconds (x.now - s'.startTime)) (s'.stepDt x.now) =
      s'.toShadow.dispatch m s'.lastMeasuredPos (s'.trajectoryAt m x.now) (s'.stepDt x.now) := by
    unfold ShadowPidController.compute
    rw [hfilter, ← hpos]
    rfl
  obtain ⟨htorque, hstate⟩ := controlLoop_toShadow hready.found hready.measured m x.now
  dsimp only
  rw [hshadow, hstate]
  exact ⟨htorque, rfl, hready.replicates m x.now⟩

/-- The loops have not run yet. -/
structure AtRest (s : VelocityPidNode α) : Prop where
  filteredVel : s.filteredVel = 0
  filterInitialized : s.filterInitialized = false
  outerLoopCounter : s.outerLoopCounter = 0
  outerDtAccum : s.outerDtAccum = 0
  vCmd : s.vCmd = 0
  velPid : s.velPid = .fresh
  posPid : s.posPid = .fresh

/-- The first call of a fresh shadow writes the gains the node has configured. -/
theorem AtRest.applyGains_freshShadow {s : VelocityPidNode α} (h : s.AtRest) :
    s.applyVelPidConfig.applyPosPidConfig.freshShadow.applyGains =
      s.applyVelPidConfig.applyPosPidConfig.toShadow := by
  obtain ⟨members, jointName, controlMode, dt, lastMeasuredVel, filteredVel, filterInitialized,
    jointIndex, lastMeasuredPos, startTime, lastLoopTime, outerLoopCounter, outerDtAccum, vCmd,
    velPid, posPid, parameters⟩ := s
  obtain ⟨hf, hi, hc, ha, hv, hvel, hpos⟩ := h
  dsimp only at hf hi hc ha hv hvel hpos
  subst hf hi hc ha hv hvel hpos
  rfl

/-- A fresh shadow replicates a node at its start. -/
theorem start_replicates {l : Launch α} {t₀ t₁ : Time}
    (h : (start l t₀ t₁).invertOutput = false) :
    Replicates (jointNameOf l) (start l t₀ t₁) (start l t₀ t₁).freshShadow :=
  ⟨AtRest.applyGains_freshShadow ⟨rfl, rfl, rfl, rfl, rfl, rfl, rfl⟩, rfl,
    start_pidsConfigured l t₀ t₁, h, rfl⟩

/-- **The shadow replicates the node.**  Started with the same parameters and
fed the same samples, times and `dt`, the shadow returns the torque the node
publishes, and holds the same velocity command, at every tick of every run. -/
theorem compute_eq_controlLoop (m : Libm α) (l : Launch α) (t₀ t₁ : Time)
    (xs : List (TickInput α (jointNameOf l))) (x : TickInput α (jointNameOf l)) :
    let node := start (l.withBool "invert_output" false) t₀ t₁
    let p := run (pairedStep m) (node, node.freshShadow) xs
    (shadowTick m p.1 p.2 x).torque = (p.1.sampledTick m x).torque ∧
      (shadowTick m p.1 p.2 x).shadow.vCmd = (p.1.sampledTick m x).node.vCmd := by
  intro node p
  have hstart : Replicates (jointNameOf l) node node.freshShadow :=
    start_replicates (l := l.withBool "invert_output" false) (start_withBool_invert l false t₀ t₁)
  have hrun : Replicates (jointNameOf l) p.1 p.2 :=
    invariant_run
      (I := fun q : VelocityPidNode α × ShadowPidController α =>
        Replicates (jointNameOf l) q.1 q.2)
      (by intro q y h; exact (h.tick m y).2.2) hstart xs
  obtain ⟨htorque, hvCmd, _⟩ := hrun.tick m x
  exact ⟨htorque, hvCmd⟩

end MarineHil.Ports.VelocityPidNode
