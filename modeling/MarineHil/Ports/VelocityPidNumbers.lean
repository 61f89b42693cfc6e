import MarineHil.Ports.VelocityPidPassive
import MarineHil.Ports.VelocityPidRecovery

/-!
# `VelocityPidNode` on numbers

As long as what the node is launched with and what it receives are numbers, a node that
computes with infinities and NaN does what the exact node does: each callback of the one is
the callback of the other, read as doubles.  So what is known of the exact node holds on
numbers, and what remains are the inputs that are none.

## Main results

* `compute_onNumbers`: the PID controller.
* `jointStateCallback_onNumbers`, `controlLoop_onNumbers`: the callbacks.
* `start_onNumbers`: the start.
* `torque_of_nan_feedback`: a feedback that is not a number gives such a torque.
-/

namespace MarineHil.Ports

open MarineHil.Verified
open MarineHil.Verified.ExtRat
open PidController

/-! ## The mathematics library -/

/-- The library gives for a number what the exact one gives. -/
structure LibmOnNumbers (m : Libm ℚ) (m' : Libm ExtRat) : Prop where
  sin : ∀ q, m'.sin (fin q) = fin (m.sin q)
  cos : ∀ q, m'.cos (fin q) = fin (m.cos q)
  unspecified : ∀ q, m'.unspecified (fin q) = m.unspecified q

theorem LibmOnNumbers.llround {m : Libm ℚ} {m' : Libm ExtRat} (h : LibmOnNumbers m m') (q : ℚ) :
    llround m' (fin q) = llround m q := by
  have hnearest : Double.nearest (fin q) = Double.nearest q := rfl
  unfold Verified.llround
  rw [hnearest, h.unspecified]

/-- A library that gives numbers for numbers, as an exact one. -/
def exactLibm (m : Libm ExtRat) : Libm ℚ where
  sin q := toRat (m.sin (fin q))
  cos q := toRat (m.cos (fin q))
  unspecified q := m.unspecified (fin q)

theorem exactLibm_onNumbers {m : Libm ExtRat} (h : VelocityPidNode.LibmFinite m) :
    LibmOnNumbers (exactLibm m) m where
  sin q := (fin_toRat (h (fin q) (isFinite_fin q)).1).symm
  cos q := (fin_toRat (h (fin q) (isFinite_fin q)).2).symm
  unspecified _ := rfl

/-! ## `PidController` -/

namespace PidController

/-- The controller with its numbers read as doubles. -/
def onNumbers (c : PidController ℚ) : PidController ExtRat where
  kp := fin c.kp
  ki := fin c.ki
  kd := fin c.kd
  integralLimit := fin c.integralLimit
  deadband := fin c.deadband
  outputMin := fin c.outputMin
  outputMax := fin c.outputMax
  saturated := c.saturated
  integral := fin c.integral
  prevMeasurement := fin c.prevMeasurement
  firstRun := c.firstRun

section OnNumbers

variable (c : PidController ℚ) (setpoint measurement dt e : ℚ)

theorem error_onNumbers :
    c.onNumbers.error (fin setpoint) (fin measurement) = fin (c.error setpoint measurement) := by
  show (if fabs (fin setpoint - fin measurement) < fin c.deadband then (0 : ExtRat)
    else fin setpoint - fin measurement) = _
  rw [fin_sub, fabs_fin, ← fabs_rat, error]
  simp only [fin_lt]
  split <;> rfl

theorem derivative_onNumbers :
    c.onNumbers.derivative (fin measurement) (fin dt) = fin (c.derivative measurement dt) := by
  show (if c.firstRun = false ∧ (0 : ExtRat) < fin dt then
    -(fin measurement - fin c.prevMeasurement) / fin dt else 0) = _
  rw [derivative]
  simp only [zero_def, fin_lt]
  split
  · rename_i h
    rw [fin_sub, neg_fin, fin_div _ _ h.2.ne']
  · rfl

theorem integrates_onNumbers : c.onNumbers.integrates (fin e) = c.integrates e := by
  show (!c.saturated || decide (fin e * fin c.integral ≤ 0)) = _
  rw [integrates]
  simp only [fin_mul, zero_def, fin_le]

theorem nextIntegral_onNumbers :
    c.onNumbers.nextIntegral (fin e) (fin dt) = fin (c.nextIntegral e dt) := by
  unfold nextIntegral
  rw [integrates_onNumbers]
  show (if c.integrates e = true then
    clamp (fin c.integral + fin e * fin dt) (-fin c.integralLimit) (fin c.integralLimit)
    else fin c.integral) = _
  rw [fin_mul, fin_add, clamp_neg_fin]
  split <;> rfl

theorem sum_onNumbers :
    c.onNumbers.sum (fin setpoint) (fin measurement) (fin dt) =
      fin (c.sum setpoint measurement dt) := by
  unfold PidController.sum
  dsimp only
  rw [error_onNumbers, nextIntegral_onNumbers, derivative_onNumbers]
  show fin c.kp * _ + fin c.ki * _ + fin c.kd * _ = _
  simp only [fin_mul, fin_add]

/-- A call on numbers. -/
theorem compute_onNumbers :
    (c.onNumbers.compute (fin setpoint) (fin measurement) (fin dt)).output =
        fin (c.compute setpoint measurement dt).output ∧
      (c.onNumbers.compute (fin setpoint) (fin measurement) (fin dt)).pid =
        (c.compute setpoint measurement dt).pid.onNumbers := by
  have houtput : clamp (c.onNumbers.sum (fin setpoint) (fin measurement) (fin dt))
      c.onNumbers.outputMin c.onNumbers.outputMax =
        fin (clamp (c.sum setpoint measurement dt) c.outputMin c.outputMax) := by
    rw [sum_onNumbers]
    exact clamp_fin _ _ _
  refine ⟨houtput, ?_⟩
  unfold compute
  dsimp only
  rw [houtput, error_onNumbers, nextIntegral_onNumbers]
  show ({ c.onNumbers with
      saturated := decide (fin c.outputMax ≤ _) || decide (_ ≤ fin c.outputMin)
      integral := if (c.saturated && !(decide (fin c.outputMax ≤ _) ||
          decide (_ ≤ fin c.outputMin))) = true then
        clamp _ (-fin c.integralLimit) (fin c.integralLimit) else _
      prevMeasurement := fin measurement
      firstRun := false } : PidController ExtRat) = _
  simp only [fin_le, clamp_neg_fin]
  unfold onNumbers
  split <;> rfl

end OnNumbers

end PidController

/-! ## The node -/

/-- The members with their numbers read as doubles. -/
def VelocityPidMembers.onNumbers (m : VelocityPidMembers ℚ) : VelocityPidMembers ExtRat where
  amplitudeRadS := fin m.amplitudeRadS
  omegaRadS := fin m.omegaRadS
  kp := fin m.kp
  ki := fin m.ki
  kd := fin m.kd
  kff := fin m.kff
  kaff := fin m.kaff
  torqueLimitNm := fin m.torqueLimitNm
  integralLimit := fin m.integralLimit
  deadbandRadS := fin m.deadbandRadS
  kpPos := fin m.kpPos
  kiPos := fin m.kiPos
  kdPos := fin m.kdPos
  posIntegralLimit := fin m.posIntegralLimit
  posOutputLimit := fin m.posOutputLimit
  outerLoopDivider := fin m.outerLoopDivider
  rateHz := fin m.rateHz
  filterAlpha := fin m.filterAlpha
  invertOutput := m.invertOutput
  positionSetpoint := fin m.positionSetpoint

def TrajectoryRef.onNumbers (r : TrajectoryRef ℚ) : TrajectoryRef ExtRat :=
  ⟨fin r.pos, fin r.vel, fin r.accel⟩

namespace VelocityPidNode

/-- The node with its numbers read as doubles, and a parameter store of its own. -/
def onNumbers (store : ParameterStore ExtRat) (s : VelocityPidNode ℚ) :
    VelocityPidNode ExtRat where
  toVelocityPidMembers := s.toVelocityPidMembers.onNumbers
  jointName := s.jointName
  controlMode := s.controlMode
  dt := fin s.dt
  lastMeasuredVel := fin s.lastMeasuredVel
  filteredVel := fin s.filteredVel
  filterInitialized := s.filterInitialized
  jointIndex := s.jointIndex
  lastMeasuredPos := fin s.lastMeasuredPos
  startTime := s.startTime
  lastLoopTime := s.lastLoopTime
  outerLoopCounter := s.outerLoopCounter
  outerDtAccum := fin s.outerDtAccum
  vCmd := fin s.vCmd
  velPid := s.velPid.onNumbers
  posPid := s.posPid.onNumbers
  parameters := store

variable (store : ParameterStore ExtRat) (s : VelocityPidNode ℚ)

/-! ### Messages -/

/-- The entries of the joint are numbers. -/
def NumbersFor (joint : String) (msg : JointState ExtRat) : Prop :=
  ∀ i : ℕ, msg.name[i]? = some joint →
    (∀ x, msg.position[i]? = some x → x.IsFinite) ∧ ∀ x, msg.velocity[i]? = some x → x.IsFinite

/-- The message with the numbers its entries are. -/
def exactly (msg : JointState ExtRat) : JointState ℚ :=
  ⟨msg.stamp, msg.name, msg.position.map toRat, msg.velocity.map toRat⟩

theorem oriented_onNumbers (x : ℚ) : (s.onNumbers store).oriented (fin x) = fin (s.oriented x) := by
  unfold oriented
  show (if s.invertOutput = true then -fin x else fin x) = _
  split <;> rfl

theorem filterVelocity_onNumbers (x : ℚ) :
    (s.onNumbers store).filterVelocity (fin x) = (s.filterVelocity x).onNumbers store := by
  have hfiltered : (if s.filterInitialized = true then
      fin s.filterAlpha * fin s.filteredVel + (lit 1 - fin s.filterAlpha) * fin x else fin x) =
        fin (if s.filterInitialized = true then
          s.filterAlpha * s.filteredVel + (lit 1 - s.filterAlpha) * x else x) := by
    simp only [lit_def, fin_sub, fin_mul, fin_add]
    split <;> rfl
  exact congrArg (fun v => ({ s.onNumbers store with
    filteredVel := v
    filterInitialized := true
    lastMeasuredVel := v } : VelocityPidNode ExtRat)) hfiltered

theorem readVelocity_onNumbers {msg : JointState ExtRat}
    (h : ∀ x, msg.velocity[s.jointIndex.toNat]? = some x → x.IsFinite) :
    (s.onNumbers store).readVelocity msg = (s.readVelocity (exactly msg)).onNumbers store := by
  have hentry : (exactly msg).velocity[s.jointIndex.toNat]? =
      msg.velocity[s.jointIndex.toNat]?.map toRat := List.getElem?_map
  have hindex : (s.onNumbers store).jointIndex = s.jointIndex := rfl
  unfold readVelocity
  rw [hentry, hindex]
  cases hx : msg.velocity[s.jointIndex.toNat]? with
  | none => rfl
  | some x =>
      obtain ⟨q, rfl⟩ := isFinite_iff.mp (h x hx)
      dsimp only [Option.map_some]
      rw [oriented_onNumbers, filterVelocity_onNumbers]
      rfl

theorem readPosition_onNumbers {msg : JointState ExtRat}
    (h : ∀ x, msg.position[s.jointIndex.toNat]? = some x → x.IsFinite) :
    (s.onNumbers store).readPosition msg = (s.readPosition (exactly msg)).onNumbers store := by
  have hentry : (exactly msg).position[s.jointIndex.toNat]? =
      msg.position[s.jointIndex.toNat]?.map toRat := List.getElem?_map
  have hindex : (s.onNumbers store).jointIndex = s.jointIndex := rfl
  unfold readPosition
  rw [hentry, hindex]
  cases hx : msg.position[s.jointIndex.toNat]? with
  | none => rfl
  | some x =>
      obtain ⟨q, rfl⟩ := isFinite_iff.mp (h x hx)
      dsimp only [Option.map_some]
      rw [oriented_onNumbers]
      rfl

/-- A message whose entries of the joint are numbers. -/
theorem jointStateCallback_onNumbers {msg : JointState ExtRat} (h : NumbersFor s.jointName msg) :
    (s.onNumbers store).jointStateCallback msg =
      (s.jointStateCallback (exactly msg)).onNumbers store := by
  have hlocate : (s.onNumbers store).locateJoint msg = s.locateJoint (exactly msg) := rfl
  unfold jointStateCallback
  rw [hlocate]
  rcases s.locateJoint_cases (exactly msg) with ⟨hneg, _⟩ | ⟨hpos, hname⟩
  · dsimp only
    rw [if_pos hneg, if_pos hneg]
    rfl
  · obtain ⟨hposition, hvelocity⟩ := h _ hname
    dsimp only
    rw [if_neg (not_lt.mpr hpos), if_neg (not_lt.mpr hpos)]
    generalize s.locateJoint (exactly msg) = i at hposition hvelocity
    have hread := readVelocity_onNumbers store { s with jointIndex := i } hvelocity
    have hindex : (readVelocity { s with jointIndex := i } (exactly msg)).jointIndex = i :=
      (readVelocity_frame { s with jointIndex := i } (exactly msg)).2.2
    show ((onNumbers store { s with jointIndex := i }).readVelocity msg).readPosition msg = _
    rw [hread]
    refine readPosition_onNumbers store _ ?_
    rw [hindex]
    exact hposition

/-! ### Ticks -/

/-- What a loop does, on numbers. -/
structure OnNumbers (r : VelocityPidStep ℚ) (r' : VelocityPidStep ExtRat) : Prop where
  node : r'.node = r.node.onNumbers store
  torque : r'.torque = fin r.torque

section Tick

variable {m : Libm ℚ} {m' : Libm ExtRat} (hm : LibmOnNumbers m m') (now : Time)

theorem stepDt_onNumbers : (s.onNumbers store).stepDt now = fin (s.stepDt now) := by
  show (if (0 : ExtRat) < seconds (now - s.lastLoopTime) then
    seconds (now - s.lastLoopTime) else fin s.dt) = _
  unfold stepDt seconds
  simp only [lit_def, lit_rat, zero_def, fin_lt]
  split <;> rfl

include hm in
theorem trajectoryAt_onNumbers :
    (s.onNumbers store).trajectoryAt m' now = (s.trajectoryAt m now).onNumbers := by
  have homega : (lit 1e-9 : ExtRat) < fabs (s.onNumbers store).omegaRadS ↔
      (lit 1e-9 : ℚ) < fabs s.omegaRadS := by
    show (lit 1e-9 : ExtRat) < fabs (fin s.omegaRadS) ↔ _
    rw [fabs_fin, fabs_rat, lit_def, fin_lt, lit_rat]
  unfold trajectoryAt
  generalize ht : (seconds (now - s.startTime) : ℚ) = t
  have ht' : (seconds (now - (s.onNumbers store).startTime) : ExtRat) = fin t := congrArg fin ht
  rw [ht']
  unfold computeTrajectory
  by_cases h : (lit 1e-9 : ℚ) < fabs s.omegaRadS
  · have hne : s.omegaRadS ≠ 0 := by
      rintro hzero
      rw [hzero, fabs_rat, abs_zero, lit_rat] at h
      norm_num at h
    have hmode : (s.onNumbers store).controlMode = s.controlMode := rfl
    rw [if_pos h, if_pos (homega.mpr h), hmode]
    show TrajectoryRef.mk (if s.controlMode = .velocityOnly then fin s.positionSetpoint else
        fin s.positionSetpoint + fin s.amplitudeRadS / fin s.omegaRadS *
          (lit 1 - m'.cos (fin s.omegaRadS * fin t)))
      (fin s.amplitudeRadS * m'.sin (fin s.omegaRadS * fin t))
      (fin s.amplitudeRadS * fin s.omegaRadS * m'.cos (fin s.omegaRadS * fin t)) = _
    simp only [fin_mul, hm.cos, hm.sin, fin_div _ _ hne, lit_def, fin_sub, fin_add]
    unfold TrajectoryRef.onNumbers
    split <;> rfl
  · rw [if_neg h, if_neg (fun h' => h (homega.mp h'))]
    rfl

theorem feedforward_onNumbers (v a : ℚ) :
    (s.onNumbers store).feedforward (fin v) (fin a) = fin (s.feedforward v a) := by
  show (if (0 : ExtRat) < fin s.kp then fin s.kff * fin v + fin s.kaff * fin a else 0) = _
  unfold feedforward
  simp only [zero_def, fin_lt, fin_mul, fin_add]
  split <;> rfl

theorem runInnerLoop_onNumbers (v a dt : ℚ) :
    OnNumbers store (s.runInnerLoop v a dt)
      ((s.onNumbers store).runInnerLoop (fin v) (fin a) (fin dt)) := by
  obtain ⟨houtput, hpid⟩ := s.velPid.compute_onNumbers v s.lastMeasuredVel dt
  have htorque : ((s.onNumbers store).runInnerLoop (fin v) (fin a) (fin dt)).torque =
      fin (s.runInnerLoop v a dt).torque := by
    show clamp ((s.velPid.onNumbers.compute (fin v) (fin s.lastMeasuredVel) (fin dt)).output +
      (s.onNumbers store).feedforward (fin v) (fin a)) (-fin s.torqueLimitNm)
        (fin s.torqueLimitNm) = _
    rw [houtput, feedforward_onNumbers, fin_add, clamp_neg_fin]
    rfl
  refine ⟨?_, htorque⟩
  show ({ s.onNumbers store with
    velPid :=
      { (s.velPid.onNumbers.compute (fin v) (fin s.lastMeasuredVel) (fin dt)).pid with
        saturated := decide (fin s.torqueLimitNm ≤
          fabs ((s.onNumbers store).runInnerLoop (fin v) (fin a) (fin dt)).torque) } } :
    VelocityPidNode ExtRat) = _
  rw [htorque, hpid, fabs_fin, ← fabs_rat]
  simp only [fin_le]
  rfl

include hm in
theorem runOuterLoop_onNumbers (p v dt : ℚ) :
    ((s.onNumbers store).runOuterLoop m' (fin p) (fin v) (fin dt)).1 =
      (s.runOuterLoop m p v dt).1.onNumbers store := by
  have hfires : (s.onNumbers store).outerLoopFires m' = s.outerLoopFires m := by
    show decide (toInt32 (llround m' (fin s.outerLoopDivider)) ≤ _) = _
    rw [hm.llround]
    rfl
  obtain ⟨houtput, hpid⟩ := s.posPid.compute_onNumbers p s.lastMeasuredPos (s.outerDtAccum + dt)
  unfold runOuterLoop
  rw [hfires]
  split
  · have hcommand : clamp ((s.posPid.onNumbers.compute (fin p) (fin s.lastMeasuredPos)
        (fin (s.outerDtAccum + dt))).output + fin v) (-fin s.posOutputLimit)
          (fin s.posOutputLimit) =
        fin (clamp ((s.posPid.compute p s.lastMeasuredPos (s.outerDtAccum + dt)).output + v)
          (-s.posOutputLimit) s.posOutputLimit) := by
      rw [houtput, fin_add, clamp_neg_fin]
    -- the node as a function of what the controller and the clamp return
    refine (congrArg₂ (fun (pid : PidController ExtRat) command => ({ s.onNumbers store with
      outerLoopCounter := 0
      posPid := { pid with saturated := decide (fin s.posOutputLimit ≤ fabs command) }
      vCmd := command
      outerDtAccum := 0 } : VelocityPidNode ExtRat)) hpid hcommand).trans ?_
    rw [fabs_fin, ← fabs_rat]
    simp only [fin_le]
    rfl
  · rfl

theorem runPositionLoop_onNumbers (p dt : ℚ) :
    OnNumbers store (s.runPositionLoop p dt)
      ((s.onNumbers store).runPositionLoop (fin p) (fin dt)) := by
  obtain ⟨houtput, hpid⟩ := s.posPid.compute_onNumbers p s.lastMeasuredPos dt
  have htorque : ((s.onNumbers store).runPositionLoop (fin p) (fin dt)).torque =
      fin (s.runPositionLoop p dt).torque := by
    show clamp (s.posPid.onNumbers.compute (fin p) (fin s.lastMeasuredPos) (fin dt)).output
      (-fin s.torqueLimitNm) (fin s.torqueLimitNm) = _
    rw [houtput, clamp_neg_fin]
    rfl
  refine ⟨?_, htorque⟩
  show ({ s.onNumbers store with
    posPid :=
      { (s.posPid.onNumbers.compute (fin p) (fin s.lastMeasuredPos) (fin dt)).pid with
        saturated := decide (fin s.torqueLimitNm ≤
          fabs ((s.onNumbers store).runPositionLoop (fin p) (fin dt)).torque) }
    vCmd := 0 } : VelocityPidNode ExtRat) = _
  rw [htorque, hpid, fabs_fin, ← fabs_rat]
  simp only [fin_le]
  rfl

include hm in
theorem dispatch_onNumbers (traj : TrajectoryRef ℚ) (dt : ℚ) :
    OnNumbers store (s.dispatch m traj dt)
      ((s.onNumbers store).dispatch m' traj.onNumbers (fin dt)) := by
  have hmode : (s.onNumbers store).controlMode = s.controlMode := rfl
  unfold dispatch
  rw [hmode]
  cases hcase : s.controlMode with
  | cascade =>
      have houter := runOuterLoop_onNumbers store s hm traj.pos traj.vel dt
      have hinner := runInnerLoop_onNumbers store (s.runOuterLoop m traj.pos traj.vel dt).1
        (s.runOuterLoop m traj.pos traj.vel dt).1.vCmd traj.accel dt
      dsimp only
      rw [TrajectoryRef.onNumbers, houter]
      exact ⟨hinner.node, hinner.torque⟩
  | velocityOnly =>
      have hinner := runInnerLoop_onNumbers store { s with vCmd := traj.vel } traj.vel traj.accel dt
      rw [hcase] at hinner
      exact hinner
  | positionOnly => exact runPositionLoop_onNumbers store s traj.pos dt

include hm in
/-- A tick on numbers. -/
theorem controlLoop_onNumbers :
    OnNumbers store (s.controlLoop m now).toVelocityPidStep
      ((s.onNumbers store).controlLoop m' now).toVelocityPidStep := by
  by_cases hlost : s.jointIndex < 0
  · have hlost' : (s.onNumbers store).jointIndex < 0 := hlost
    rw [controlLoop_lost hlost, controlLoop_lost hlost']
    exact ⟨rfl, rfl⟩
  · have hlost' : ¬(s.onNumbers store).jointIndex < 0 := hlost
    rw [controlLoop_found hlost, controlLoop_found hlost', trajectoryAt_onNumbers store s hm,
      stepDt_onNumbers]
    exact dispatch_onNumbers store { s with lastLoopTime := now } hm _ _

end Tick

/-! ### The start -/

/-- The launch with the numbers its values are. -/
def exactLaunch (l : Launch ExtRat) : Launch ℚ :=
  ⟨fun name => (l.double name).map toRat, l.bool, l.integer, l.string⟩

section Start

variable {l : Launch ExtRat} (hl : FiniteLaunch l)

include hl in
theorem getDouble_onNumbers (name : String) (default : ℚ) :
    l.getDouble name (fin default) = fin ((exactLaunch l).getDouble name default) := by
  have hexact : (exactLaunch l).double name = (l.double name).map toRat := rfl
  unfold Launch.getDouble
  rw [hexact]
  cases hx : l.double name with
  | none => rfl
  | some x => exact (fin_toRat (hl name x hx)).symm

theorem positiveOr_onNumbers (default x : ℚ) :
    positiveOr (fin default) (fin x) = fin (positiveOr default x) := by
  unfold positiveOr
  simp only [zero_def, fin_lt]
  split <;> rfl

theorem unitOr_onNumbers (default x : ℚ) :
    unitOr (fin default) (fin x) = fin (unitOr default x) := by
  unfold unitOr
  simp only [zero_def, lit_def, fin_le, fin_lt, lit_rat]
  split <;> rfl

include hl in
theorem startMembers_onNumbers : startMembers l = (startMembers (exactLaunch l)).onNumbers := by
  rw [startMembers_eq, startMembers_eq]
  simp only [zero_def, lit_def, getDouble_onNumbers hl, positiveOr_onNumbers, unitOr_onNumbers]
  rfl

include hl in
/-- A start on numbers. -/
theorem start_onNumbers (t₀ t₁ : Time) :
    start l t₀ t₁ = (start (exactLaunch l) t₀ t₁).onNumbers (declared l) := by
  have hmembers := startMembers_onNumbers hl
  have hrate : 0 < (startMembers (exactLaunch l)).rateHz := by
    rw [startMembers_eq]
    exact positiveOr_pos (by norm_num) _
  have hdt : lit 1 / (startMembers l).rateHz =
      fin (lit 1 / (startMembers (exactLaunch l)).rateHz) := by
    rw [hmembers]
    exact fin_div 1 _ hrate.ne'
  unfold start
  rw [hdt, hmembers]
  generalize startMembers (exactLaunch l) = members
  rfl

end Start

/-! ### Passive settings -/

theorem passive_onNumbers : (s.onNumbers store).Passive ↔ s.Passive := by
  have hmode : (s.onNumbers store).controlMode = s.controlMode := rfl
  unfold Passive
  rw [hmode]
  cases s.controlMode with
  | positionOnly =>
      show fin s.kpPos = fin 0 ∧ fin s.kdPos = fin 0 ∧ fin s.kiPos = fin 0 ↔ _
      simp only [fin.injEq]
  | velocityOnly =>
      show fin s.kp = fin 0 ∧ fin s.kd = fin 0 ∧
        (fin s.ki = fin 0 ∨ fin s.integralLimit = fin 0) ↔ _
      simp only [fin.injEq]
  | cascade =>
      show fin s.kp = fin 0 ∧ fin s.kd = fin 0 ∧
        (fin s.ki = fin 0 ∨ fin s.integralLimit = fin 0) ↔ _
      simp only [fin.injEq]

/-- A node on numbers under passive settings, with nothing integrated. -/
structure IdleOnNumbers (s : VelocityPidNode ExtRat) (p : VelocityPidNode ℚ) : Prop where
  eq : s = p.onNumbers s.parameters
  idle : p.Idle
  limits : LimitsValid p.toVelocityPidMembers

section Idle

variable {t : VelocityPidNode ExtRat} {p : VelocityPidNode ℚ}

theorem IdleOnNumbers.jointStateCallback (h : IdleOnNumbers t p) {msg : JointState ExtRat}
    (hmsg : NumbersFor t.jointName msg) :
    IdleOnNumbers (t.jointStateCallback msg) (p.jointStateCallback (exactly msg)) := by
  have hname : t.jointName = p.jointName := congrArg jointName h.eq
  rw [hname] at hmsg
  refine ⟨?_, h.idle.jointStateCallback _, ?_⟩
  · rw [(t.jointStateCallback_settings msg).parameters, ← jointStateCallback_onNumbers _ _ hmsg,
      ← h.eq]
  · rw [(p.jointStateCallback_settings (exactly msg)).members]
    exact h.limits

/-- A tick publishes zero. -/
theorem IdleOnNumbers.controlLoop (h : IdleOnNumbers t p) {m : Libm ExtRat} (hm : LibmFinite m)
    (now : Time) :
    (t.controlLoop m now).torque = 0 ∧
      IdleOnNumbers (t.controlLoop m now).node (p.controlLoop (exactLibm m) now).node := by
  obtain ⟨hzero, hidle⟩ := h.idle.controlLoop (exactLibm m) h.limits now
  have htick := controlLoop_onNumbers t.parameters p (exactLibm_onNumbers hm) now
  rw [← h.eq] at htick
  refine ⟨?_, ?_, hidle, ?_⟩
  · rw [htick.torque, hzero]
    rfl
  · rw [(t.controlLoop_settings m now).parameters]
    exact htick.node
  · rw [(p.controlLoop_settings (exactLibm m) now).members]
    exact h.limits

end Idle

section Acting

variable {l : Launch ExtRat} (hl : FiniteLaunch l) {t₀ t₁ : Time}

include hl in
theorem passive_exactLaunch_iff :
    (start l t₀ t₁).Passive ↔ (start (exactLaunch l) t₀ t₁).Passive := by
  rw [start_onNumbers hl, passive_onNumbers]

include hl in
/-- Passive settings start idle. -/
theorem Passive.idleOnNumbers (h : (start l t₀ t₁).Passive) :
    IdleOnNumbers (start l t₀ t₁) (start (exactLaunch l) t₀ t₁) :=
  ⟨start_onNumbers hl t₀ t₁, ((passive_exactLaunch_iff hl).mp h).idle,
    startMembers_limitsValid (exactLaunch l)⟩

/-- Readings that are numbers. -/
def readings (y : ℚ × ℚ) : ExtRat × ExtRat := (fin y.1, fin y.2)

theorem measure_onNumbers (y : ℚ × ℚ) :
    (s.onNumbers store).measure (readings y) = (s.measure y).onNumbers store := by
  unfold measure readings
  rw [oriented_onNumbers, oriented_onNumbers]
  refine jointStateCallback_onNumbers store s ?_
  intro i _
  constructor
  · intro x hx
    rw [List.mem_singleton.mp (List.mem_of_getElem? hx)]
    trivial
  · intro x hx
    rw [List.mem_singleton.mp (List.mem_of_getElem? hx)]
    trivial

theorem run_probe_onNumbers {m : Libm ExtRat} (hm : LibmFinite m) (t : Time)
    (ys : List (ℚ × ℚ)) :
    run (probe m t) (s.onNumbers store) (ys.map readings) =
      (run (probe (exactLibm m) t) s ys).onNumbers store := by
  induction ys generalizing s with
  | nil => rfl
  | cons y ys ih =>
      have hprobe : (s.onNumbers store).probe m t (readings y) =
          (s.probe (exactLibm m) t y).onNumbers store := by
        unfold probe
        rw [measure_onNumbers]
        exact (controlLoop_onNumbers store (s.measure y) (exactLibm_onNumbers hm) t).node
      rw [List.map_cons, run_cons, run_cons, hprobe, ih]

include hl in
/-- Settings that are not passive let a torque out on numbers. -/
theorem exists_acting_onNumbers (h : ¬(start l t₀ t₁).Passive) {m : Libm ExtRat}
    (hm : LibmFinite m) {now : Time} (hnow : t₀ < now) :
    ∃ (ys : List (ℚ × ℚ)) (y : ℚ × ℚ),
      (((run (probe m t₀) (start l t₀ t₁) (ys.map readings)).measure (readings y)).controlLoop
        m now).torque ≠ 0 := by
  rw [passive_exactLaunch_iff hl] at h
  obtain ⟨ys, y, hne⟩ := exists_acting h (exactLibm m) hnow
  refine ⟨ys, y, ?_⟩
  rw [start_onNumbers hl, run_probe_onNumbers _ _ hm, measure_onNumbers,
    (controlLoop_onNumbers _ _ (exactLibm_onNumbers hm) now).torque]
  intro hzero
  exact hne (fin.inj hzero)

end Acting

/-! ### What is no number -/

/-- A tick on a feedback that is not a number. -/
theorem torque_of_nan_feedback (s : VelocityPidNode ExtRat) (m : Libm ExtRat) (now : Time) :
    ((s.measure (nan, nan)).controlLoop m now).torque = nan := by
  have hcarries := JointState.single_carries 0 s.jointName nan nan
  have hlisted : ¬s.locateJoint (.single 0 s.jointName nan nan) < 0 := by
    rw [s.locateJoint_neg_iff, not_not]
    exact hcarries.listed
  have hfiltered : (if s.filterInitialized = true then
      s.filterAlpha * s.filteredVel + (lit 1 - s.filterAlpha) * nan else nan) = nan := by
    rw [mul_nan, add_nan, ite_self]
  rw [measure, oriented_nan, jointStateCallback_carries hcarries, oriented_nan]
  generalize hs' : ({ ({ s with
    jointIndex := s.locateJoint (.single 0 s.jointName nan nan) }.filterVelocity nan) with
      lastMeasuredPos := nan } : VelocityPidNode ExtRat) = s'
  have hfound : ¬s'.jointIndex < 0 := by
    rw [← hs']
    exact hlisted
  have hvel : s'.lastMeasuredVel = nan := by
    rw [← hs']
    exact hfiltered
  have hpos : s'.lastMeasuredPos = nan := by rw [← hs']
  rw [controlLoop_found hfound]
  by_cases hmode : s'.controlMode = .positionOnly
  · refine (position_of_nan (s := { s' with lastLoopTime := now }) hmode
      (sum_eq_nan_of_error ?_)).1
    show s'.posPid.error _ s'.lastMeasuredPos = nan
    rw [hpos, error_of_nan_measurement]
  · refine (inner_of_nan (s := { s' with lastLoopTime := now }) hmode
      (sum_eq_nan_of_error ?_)).1
    show s'.velPid.error _ s'.lastMeasuredVel = nan
    rw [hvel, error_of_nan_measurement]

end VelocityPidNode

end MarineHil.Ports
