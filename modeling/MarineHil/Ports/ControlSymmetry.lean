import MarineHil.Ports.VelocityPidShadow

/-!
# Mirror symmetry of the control law

Negate what is measured, the amplitude and the position setpoint: the control law
then goes through the mirrored states and gives the opposite torque.  `reflect` is
that mirror, on a controller, a state of the node, a message, a parameter and a
launch.  Each piece of the law commutes with it, because every clamp has bounds of
one size, the deadband and the saturation look at magnitudes, and the anti-windup
looks at a product of two quantities that change their sign together.

## Main results

* `PidController.compute_reflect`: one call of the generic controller.
* `VelocityPidNode.step_reflect`: every callback of the node commutes with the
  mirror.
* `ShadowPidController.dispatch_reflect`: so does the shadow's copy of the law, by
  way of the node.
* `control_symmetric`: opposite torques and commands along every run of both.
-/

namespace MarineHil.Ports

open MarineHil.Verified

/-- The saturation flags look at magnitudes. -/
theorem fabs_neg (x : ℚ) : fabs (-x) = fabs x := by
  rw [fabs_rat, fabs_rat, abs_neg]

/-! ## The generic controller -/

/-- The controller on the other side of zero. -/
def PidController.reflect (c : PidController ℚ) : PidController ℚ :=
  { c with integral := -c.integral, prevMeasurement := -c.prevMeasurement }

/-- The mirror image of a call. -/
def PidStep.reflect (r : PidStep ℚ) : PidStep ℚ :=
  { r with pid := r.pid.reflect, output := -r.output }

namespace PidController

/-- Bounds of one size on both sides. -/
structure Symmetric (c : PidController ℚ) : Prop where
  integral : 0 ≤ c.integralLimit
  outputMin : c.outputMin = -c.outputMax
  outputMax : 0 ≤ c.outputMax

section Reflect

variable (c : PidController ℚ) (setpoint measurement error dt : ℚ)

theorem error_reflect :
    c.reflect.error (-setpoint) (-measurement) = -c.error setpoint measurement := by
  have hdiff : -setpoint - -measurement = -(setpoint - measurement) := by ring
  show (if fabs (-setpoint - -measurement) < c.deadband then 0 else -setpoint - -measurement) =
    -(if fabs (setpoint - measurement) < c.deadband then 0 else setpoint - measurement)
  rw [hdiff, fabs_rat, fabs_rat, abs_neg]
  split
  · exact neg_zero.symm
  · rfl

theorem derivative_reflect :
    c.reflect.derivative (-measurement) dt = -c.derivative measurement dt := by
  show (if c.firstRun = false ∧ 0 < dt then -(-measurement - -c.prevMeasurement) / dt else 0) =
    -(if c.firstRun = false ∧ 0 < dt then -(measurement - c.prevMeasurement) / dt else 0)
  split
  · ring
  · exact neg_zero.symm

/-- Error and integral change their sign together. -/
theorem integrates_reflect : c.reflect.integrates (-error) = c.integrates error := by
  show (!c.saturated || decide (-error * -c.integral ≤ 0)) = _
  rw [neg_mul_neg]
  rfl

variable {c}

theorem Symmetric.nextIntegral_reflect (h : c.Symmetric) :
    c.reflect.nextIntegral (-error) dt = -c.nextIntegral error dt := by
  unfold nextIntegral
  rw [integrates_reflect]
  split
  · have hsum : c.reflect.integral + -error * dt = -(c.integral + error * dt) := by
      show -c.integral + -error * dt = _
      ring
    rw [hsum]
    exact clamp_neg h.integral
  · rfl

theorem Symmetric.sum_reflect (h : c.Symmetric) :
    c.reflect.sum (-setpoint) (-measurement) dt = -c.sum setpoint measurement dt := by
  unfold PidController.sum
  dsimp only
  rw [error_reflect, h.nextIntegral_reflect, derivative_reflect]
  show c.kp * -_ + c.ki * -_ + c.kd * -_ = _
  ring

/-- The output clamp of a symmetric controller. -/
theorem Symmetric.clamp_output (h : c.Symmetric) (x : ℚ) :
    clamp (-x) c.outputMin c.outputMax = -clamp x c.outputMin c.outputMax := by
  rw [h.outputMin]
  exact clamp_neg h.outputMax

/-- The two saturation tests change places. -/
theorem Symmetric.saturated_reflect (h : c.Symmetric) (output : ℚ) :
    (decide (c.outputMax ≤ -output) || decide (-output ≤ c.outputMin)) =
      (decide (c.outputMax ≤ output) || decide (output ≤ c.outputMin)) := by
  rw [h.outputMin, Bool.or_comm]
  congr 1
  · exact decide_eq_decide.mpr neg_le_neg_iff
  · exact decide_eq_decide.mpr le_neg

/-- **A call of the mirrored controller is the mirrored call.** -/
theorem Symmetric.compute_reflect (h : c.Symmetric) :
    c.reflect.compute (-setpoint) (-measurement) dt =
      (c.compute setpoint measurement dt).reflect := by
  have herror := c.error_reflect setpoint measurement
  have hintegral := h.nextIntegral_reflect (c.error setpoint measurement) dt
  have hsum := h.sum_reflect setpoint measurement dt
  have houtput : clamp (-c.sum setpoint measurement dt) c.reflect.outputMin c.reflect.outputMax =
      -clamp (c.sum setpoint measurement dt) c.outputMin c.outputMax := h.clamp_output _
  have hsaturated := h.saturated_reflect (clamp (c.sum setpoint measurement dt) c.outputMin
    c.outputMax)
  have hleft := clamp_neg (v := c.nextIntegral (c.error setpoint measurement) dt) h.integral
  unfold compute PidStep.reflect
  dsimp only
  rw [herror, hintegral, hsum, houtput, integrates_reflect]
  unfold reflect
  dsimp only
  rw [hsaturated, hleft]
  congr 2
  split
  · rfl
  · rfl

theorem reset_reflect (c : PidController ℚ) : c.reflect.reset = c.reset.reflect := by
  unfold reset reflect
  dsimp only
  rw [neg_zero]

theorem fresh_reflect : (fresh : PidController ℚ).reflect = fresh := by
  unfold fresh reflect
  dsimp only
  rw [neg_zero]

end Reflect

end PidController

/-! ## The control law of the node -/

/-- The mirror image of a reference. -/
def TrajectoryRef.reflect (ref : TrajectoryRef ℚ) : TrajectoryRef ℚ :=
  ⟨-ref.pos, -ref.vel, -ref.accel⟩

/-- The parameters that are on one side of zero. -/
def reflectedNames : List String := ["amplitude_rad_s", "position_setpoint"]

/-- The opposite of a double. -/
def ParameterValue.negate : ParameterValue ℚ → ParameterValue ℚ
  | .double x => .double (-x)
  | v => v

/-- The value of a parameter in the mirrored node. -/
def reflectValue (name : String) (v : ParameterValue ℚ) : ParameterValue ℚ :=
  if name ∈ reflectedNames then v.negate else v

def Parameter.reflect (p : Parameter ℚ) : Parameter ℚ := ⟨p.name, reflectValue p.name p.value⟩

def ParameterStore.reflect (store : ParameterStore ℚ) : ParameterStore ℚ :=
  fun name => (store name).map (reflectValue name)

/-- The launch of the mirrored node. -/
def Launch.reflect (l : Launch ℚ) : Launch ℚ :=
  { l with
    double := fun name =>
      if name ∈ reflectedNames then (l.double name).map fun x => -x else l.double name }

/-- The mirrored feedback. -/
def JointState.reflect (msg : JointState ℚ) : JointState ℚ :=
  { msg with
    position := msg.position.map fun x => -x
    velocity := msg.velocity.map fun x => -x }

namespace VelocityPidNode

/-- The members of the mirrored node. -/
def reflectMembers (u : VelocityPidMembers ℚ) : VelocityPidMembers ℚ :=
  { u with amplitudeRadS := -u.amplitudeRadS, positionSetpoint := -u.positionSetpoint }

/-- The node on the other side of zero. -/
def reflect (s : VelocityPidNode ℚ) : VelocityPidNode ℚ :=
  { s with
    toVelocityPidMembers := reflectMembers s.toVelocityPidMembers
    lastMeasuredVel := -s.lastMeasuredVel
    filteredVel := -s.filteredVel
    lastMeasuredPos := -s.lastMeasuredPos
    vCmd := -s.vCmd
    velPid := s.velPid.reflect
    posPid := s.posPid.reflect
    parameters := s.parameters.reflect }

/-- The same callback of the mirrored node. -/
def reflectEvent (e : Timed (VelocityPidEvent ℚ)) : Timed (VelocityPidEvent ℚ) :=
  ⟨e.time,
    match e.event with
    | .jointState msg => .jointState msg.reflect
    | .setParameters batch => .setParameters (batch.map Parameter.reflect)
    | .controlLoop => .controlLoop⟩

/-- The mirror image of what a loop returns. -/
def reflectStep (r : VelocityPidStep ℚ) : VelocityPidStep ℚ :=
  { r with node := r.node.reflect, torque := -r.torque }

/-- Every clamp of the node has bounds of one size. -/
structure Symmetric (s : VelocityPidNode ℚ) : Prop where
  limits : LimitsValid s.toVelocityPidMembers
  configured : s.PidsConfigured

section Loops

variable {s : VelocityPidNode ℚ}

theorem Symmetric.velPid (h : s.Symmetric) : s.velPid.Symmetric := by
  obtain ⟨_, _, _, hlimit, _, hmin, hmax⟩ := h.configured.vel
  refine ⟨?_, ?_, ?_⟩
  · rw [hlimit]
    exact h.limits.integral
  · rw [hmin, hmax]
  · rw [hmax]
    norm_num

theorem Symmetric.posPid (h : s.Symmetric) : s.posPid.Symmetric := by
  obtain ⟨_, _, _, hlimit, _, hmin, hmax⟩ := h.configured.pos
  refine ⟨?_, ?_, ?_⟩
  · rw [hlimit]
    exact h.limits.posIntegral.le
  · rw [hmin, hmax]
  · rw [hmax]
    norm_num

theorem Symmetric.step (h : s.Symmetric) (m : Libm ℚ) (e : Timed (VelocityPidEvent ℚ)) :
    (s.step m e).Symmetric :=
  ⟨h.limits.step m e, h.configured.step m e⟩

theorem computeTrajectory_reflect (m : Libm ℚ) (t : ℚ) :
    s.reflect.computeTrajectory m t = (s.computeTrajectory m t).reflect := by
  unfold computeTrajectory
  show (if lit 1e-9 < fabs s.omegaRadS then
      (⟨if s.controlMode = .velocityOnly then -s.positionSetpoint
        else -s.positionSetpoint +
          (-s.amplitudeRadS / s.omegaRadS) * (lit 1 - m.cos (s.omegaRadS * t)),
        -s.amplitudeRadS * m.sin (s.omegaRadS * t),
        -s.amplitudeRadS * s.omegaRadS * m.cos (s.omegaRadS * t)⟩ : TrajectoryRef ℚ)
    else ⟨-s.positionSetpoint, 0, 0⟩) = _
  split
  · unfold TrajectoryRef.reflect
    dsimp only
    congr 1
    · split
      · rfl
      · ring
    · ring
    · ring
  · unfold TrajectoryRef.reflect
    dsimp only
    rw [neg_zero]

theorem feedforward_reflect (velSetpoint accelFf : ℚ) :
    s.reflect.feedforward (-velSetpoint) (-accelFf) = -s.feedforward velSetpoint accelFf := by
  show (if 0 < s.kp then s.kff * -velSetpoint + s.kaff * -accelFf else 0) =
    -(if 0 < s.kp then s.kff * velSetpoint + s.kaff * accelFf else 0)
  split
  · ring
  · exact neg_zero.symm

theorem Symmetric.runInnerLoop_reflect (h : s.Symmetric) (velSetpoint accelFf dt : ℚ) :
    s.reflect.runInnerLoop (-velSetpoint) (-accelFf) dt =
      reflectStep (s.runInnerLoop velSetpoint accelFf dt) := by
  have hcompute : s.reflect.velPid.compute (-velSetpoint) s.reflect.lastMeasuredVel dt =
      (s.velPid.compute velSetpoint s.lastMeasuredVel dt).reflect :=
    h.velPid.compute_reflect velSetpoint s.lastMeasuredVel dt
  have htorque : clamp (-(s.velPid.compute velSetpoint s.lastMeasuredVel dt).output +
      -s.feedforward velSetpoint accelFf) (-s.torqueLimitNm) s.torqueLimitNm =
        -clamp ((s.velPid.compute velSetpoint s.lastMeasuredVel dt).output +
          s.feedforward velSetpoint accelFf) (-s.torqueLimitNm) s.torqueLimitNm := by
    rw [← neg_add, clamp_neg h.limits.torque.le]
  have hlimit : s.reflect.torqueLimitNm = s.torqueLimitNm := rfl
  unfold runInnerLoop
  rw [hcompute, feedforward_reflect, hlimit]
  unfold reflectStep PidStep.reflect
  dsimp only
  rw [htorque, fabs_neg]
  rfl

/-- The outer loop counts alike on both sides. -/
theorem Symmetric.runOuterLoop_reflect (h : s.Symmetric) (m : Libm ℚ) (posRef velFf dt : ℚ) :
    s.reflect.runOuterLoop m (-posRef) (-velFf) dt =
      ((s.runOuterLoop m posRef velFf dt).1.reflect, (s.runOuterLoop m posRef velFf dt).2) := by
  have hsame : s.reflect.outerLoopFires m = s.outerLoopFires m := rfl
  cases hfires : s.outerLoopFires m with
  | true =>
      have hcompute : s.reflect.posPid.compute (-posRef) s.reflect.lastMeasuredPos
          (s.reflect.outerDtAccum + dt) =
            (s.posPid.compute posRef s.lastMeasuredPos (s.outerDtAccum + dt)).reflect :=
        h.posPid.compute_reflect posRef s.lastMeasuredPos (s.outerDtAccum + dt)
      have hcommand : clamp (-(s.posPid.compute posRef s.lastMeasuredPos
          (s.outerDtAccum + dt)).output + -velFf) (-s.posOutputLimit) s.posOutputLimit =
            -clamp ((s.posPid.compute posRef s.lastMeasuredPos (s.outerDtAccum + dt)).output +
              velFf) (-s.posOutputLimit) s.posOutputLimit := by
        rw [← neg_add, clamp_neg h.limits.posOutput.le]
      have hlimit : s.reflect.posOutputLimit = s.posOutputLimit := rfl
      rw [runOuterLoop_fires hfires, runOuterLoop_fires (hsame.trans hfires), hcompute, hlimit]
      unfold PidStep.reflect
      dsimp only
      rw [hcommand, fabs_neg]
      rfl
  | false =>
      rw [runOuterLoop_waits hfires, runOuterLoop_waits (hsame.trans hfires)]
      rfl

theorem Symmetric.runPositionLoop_reflect (h : s.Symmetric) (posRef dt : ℚ) :
    s.reflect.runPositionLoop (-posRef) dt = reflectStep (s.runPositionLoop posRef dt) := by
  have hcompute : s.reflect.posPid.compute (-posRef) s.reflect.lastMeasuredPos dt =
      (s.posPid.compute posRef s.lastMeasuredPos dt).reflect :=
    h.posPid.compute_reflect posRef s.lastMeasuredPos dt
  have htorque := clamp_neg (v := (s.posPid.compute posRef s.lastMeasuredPos dt).output)
    h.limits.torque.le
  have hlimit : s.reflect.torqueLimitNm = s.torqueLimitNm := rfl
  unfold runPositionLoop
  rw [hcompute, hlimit]
  unfold reflectStep PidStep.reflect
  dsimp only
  rw [htorque, fabs_neg]
  unfold reflect
  dsimp only
  rw [neg_zero]
  rfl

/-- The outer loop leaves the limits and the velocity controller. -/
theorem Symmetric.runOuterLoop (h : s.Symmetric) (m : Libm ℚ) (posRef velFf dt : ℚ) :
    (s.runOuterLoop m posRef velFf dt).1.Symmetric := by
  cases hfires : s.outerLoopFires m with
  | true =>
      rw [runOuterLoop_fires hfires]
      exact ⟨h.limits, h.configured.vel, h.configured.pos.compute _ _ _ _⟩
  | false =>
      rw [runOuterLoop_waits hfires]
      exact ⟨h.limits, h.configured.vel, h.configured.pos⟩

/-- **The mode dispatch of the mirrored node is the mirrored dispatch.** -/
theorem Symmetric.dispatch_reflect (h : s.Symmetric) (m : Libm ℚ) (traj : TrajectoryRef ℚ)
    (dt : ℚ) : s.reflect.dispatch m traj.reflect dt = reflectStep (s.dispatch m traj dt) := by
  cases hmode : s.controlMode with
  | velocityOnly =>
      have hmode' : s.reflect.controlMode = .velocityOnly := hmode
      have hcommand : Symmetric { s with vCmd := traj.vel } := ⟨h.limits, h.configured.vel,
        h.configured.pos⟩
      rw [dispatch_velocityOnly m traj dt hmode, dispatch_velocityOnly m _ dt hmode']
      exact hcommand.runInnerLoop_reflect traj.vel traj.accel dt
  | positionOnly =>
      have hmode' : s.reflect.controlMode = .positionOnly := hmode
      rw [dispatch_positionOnly m traj dt hmode, dispatch_positionOnly m _ dt hmode']
      exact h.runPositionLoop_reflect traj.pos dt
  | cascade =>
      have hmode' : s.reflect.controlMode = .cascade := hmode
      have houter : s.reflect.runOuterLoop m traj.reflect.pos traj.reflect.vel dt = _ :=
        h.runOuterLoop_reflect m traj.pos traj.vel dt
      have hinner : (s.runOuterLoop m traj.pos traj.vel dt).1.reflect.runInnerLoop
          (s.runOuterLoop m traj.pos traj.vel dt).1.reflect.vCmd traj.reflect.accel dt = _ :=
        (h.runOuterLoop m traj.pos traj.vel dt).runInnerLoop_reflect
          (s.runOuterLoop m traj.pos traj.vel dt).1.vCmd traj.accel dt
      rw [dispatch_cascade m traj dt hmode, dispatch_cascade m _ dt hmode', houter]
      dsimp only
      rw [hinner]
      rfl

/-- The mirror image of what a tick publishes beside the torque. -/
def reflectDiagnostics (d : VelocityPidDiagnostics ℚ) : VelocityPidDiagnostics ℚ where
  desiredVelocity := -d.desiredVelocity
  measuredVelocity := -d.measuredVelocity
  velocityError := -d.velocityError
  measuredPosition := -d.measuredPosition
  positionError := -d.positionError
  positionCommand := -d.positionCommand
  velocityCommand := -d.velocityCommand

/-- The mirror image of a tick. -/
def reflectTick (r : VelocityPidTick ℚ) : VelocityPidTick ℚ where
  toVelocityPidStep := reflectStep r.toVelocityPidStep
  diagnostics := r.diagnostics.map reflectDiagnostics

theorem velError_reflect : s.reflect.velError = -s.velError := by
  have hmode : s.reflect.controlMode = s.controlMode := rfl
  unfold velError
  rw [hmode]
  cases s.controlMode with
  | positionOnly => exact neg_zero.symm
  | velocityOnly => exact (neg_sub_neg s.vCmd s.lastMeasuredVel).trans (neg_sub _ _).symm
  | cascade => exact (neg_sub_neg s.vCmd s.lastMeasuredVel).trans (neg_sub _ _).symm

/-- **A tick of the mirrored node is the mirrored tick**, with all it publishes. -/
theorem Symmetric.controlLoop_reflect (h : s.Symmetric) (m : Libm ℚ) (now : Time) :
    s.reflect.controlLoop m now = reflectTick (s.controlLoop m now) := by
  by_cases hlost : s.jointIndex < 0
  · have hlost' : s.reflect.jointIndex < 0 := hlost
    rw [controlLoop_lost hlost, controlLoop_lost hlost']
    show (⟨⟨s.reflect, 0, []⟩, none⟩ : VelocityPidTick ℚ) = ⟨⟨s.reflect, -0, []⟩, none⟩
    rw [neg_zero]
  · have hlost' : ¬s.reflect.jointIndex < 0 := hlost
    have htraj : s.reflect.trajectoryAt m now = (s.trajectoryAt m now).reflect :=
      computeTrajectory_reflect m _
    have hdt : s.reflect.stepDt now = s.stepDt now := rfl
    have hnow : Symmetric { s with lastLoopTime := now } :=
      ⟨h.limits, h.configured.vel, h.configured.pos⟩
    have hdispatch : { s.reflect with lastLoopTime := now }.dispatch m
        (s.trajectoryAt m now).reflect (s.stepDt now) = _ :=
      hnow.dispatch_reflect m (s.trajectoryAt m now) (s.stepDt now)
    have herror (a b : ℚ) : -a - -b = -(a - b) := by ring
    unfold controlLoop
    rw [if_neg hlost, if_neg hlost', htraj, hdt]
    dsimp only
    rw [hdispatch]
    show VelocityPidTick.mk _ (some (VelocityPidDiagnostics.mk _ _ (reflect _).velError _
      (-_ - -s.lastMeasuredPos) _ _)) = _
    rw [velError_reflect, herror]
    rfl

end Loops

/-! ## The callbacks of the node -/

section Callbacks

variable (s : VelocityPidNode ℚ)

theorem oriented_reflect (raw : ℚ) : s.reflect.oriented (-raw) = -s.oriented raw := by
  show (if s.invertOutput then - -raw else -raw) = -(if s.invertOutput then -raw else raw)
  split <;> rfl

theorem filterVelocity_reflect (raw : ℚ) :
    s.reflect.filterVelocity (-raw) = (s.filterVelocity raw).reflect := by
  have hfiltered : (if s.filterInitialized then
      s.filterAlpha * -s.filteredVel + (lit 1 - s.filterAlpha) * -raw else -raw) =
        -(if s.filterInitialized then
          s.filterAlpha * s.filteredVel + (lit 1 - s.filterAlpha) * raw else raw) := by
    split
    · ring
    · rfl
  unfold filterVelocity
  show { s.reflect with
    filteredVel := (if s.filterInitialized then
      s.filterAlpha * -s.filteredVel + (lit 1 - s.filterAlpha) * -raw else -raw)
    filterInitialized := true
    lastMeasuredVel := (if s.filterInitialized then
      s.filterAlpha * -s.filteredVel + (lit 1 - s.filterAlpha) * -raw else -raw) } = _
  rw [hfiltered]
  rfl

theorem readVelocity_reflect (msg : JointState ℚ) :
    s.reflect.readVelocity msg.reflect = (s.readVelocity msg).reflect := by
  have hread : msg.reflect.velocity[s.reflect.jointIndex.toNat]? =
      msg.velocity[s.jointIndex.toNat]?.map fun x => -x := List.getElem?_map
  unfold readVelocity
  rw [hread]
  cases msg.velocity[s.jointIndex.toNat]? with
  | none => rfl
  | some raw =>
      show s.reflect.filterVelocity (s.reflect.oriented (-raw)) = _
      rw [oriented_reflect, filterVelocity_reflect]

theorem readPosition_reflect (msg : JointState ℚ) :
    s.reflect.readPosition msg.reflect = (s.readPosition msg).reflect := by
  have hread : msg.reflect.position[s.reflect.jointIndex.toNat]? =
      msg.position[s.jointIndex.toNat]?.map fun x => -x := List.getElem?_map
  unfold readPosition
  rw [hread]
  cases msg.position[s.jointIndex.toNat]? with
  | none => rfl
  | some raw =>
      show { s.reflect with lastMeasuredPos := s.reflect.oriented (-raw) } = _
      rw [oriented_reflect]
      rfl

theorem jointStateCallback_reflect (msg : JointState ℚ) :
    s.reflect.jointStateCallback msg.reflect = (s.jointStateCallback msg).reflect := by
  have hlocate : s.reflect.locateJoint msg.reflect = s.locateJoint msg := rfl
  unfold jointStateCallback
  rw [hlocate]
  by_cases hlost : s.locateJoint msg < 0
  · have hlost' : { s.reflect with jointIndex := s.locateJoint msg }.jointIndex < 0 := hlost
    rw [if_pos hlost, if_pos hlost']
    rfl
  · have hlost' : ¬{ s.reflect with jointIndex := s.locateJoint msg }.jointIndex < 0 := hlost
    have hvelocity : { s.reflect with jointIndex := s.locateJoint msg }.readVelocity msg.reflect =
        _ := readVelocity_reflect { s with jointIndex := s.locateJoint msg } msg
    rw [if_neg hlost, if_neg hlost', hvelocity, readPosition_reflect]

end Callbacks

/-! ## Batches -/

section Batches

variable (p : Parameter ℚ) (batch : List (Parameter ℚ))

theorem reflectValue_of_not_mem {name : String} (h : name ∉ reflectedNames)
    (v : ParameterValue ℚ) : reflectValue name v = v := if_neg h

/-- Gains and limits are the same on both sides. -/
theorem reflect_of_not_mem (h : p.name ∉ reflectedNames) : p.reflect = p := by
  show Parameter.mk p.name (reflectValue p.name p.value) = p
  rw [reflectValue_of_not_mem h]

theorem type_reflectValue (name : String) (v : ParameterValue ℚ) :
    (reflectValue name v).type = v.type := by
  unfold reflectValue
  split
  · cases v <;> rfl
  · rfl

theorem doubleNamed_reflect {name : String} (h : name ∉ reflectedNames) :
    p.reflect.doubleNamed name = p.doubleNamed name := by
  show (if p.name = name then (reflectValue p.name p.value).asDouble else none) =
    if p.name = name then p.value.asDouble else none
  split
  · rename_i hname
    rw [hname, reflectValue_of_not_mem h]
  · rfl

theorem doubleNamed_reflect_of_mem {name : String} (h : name ∈ reflectedNames) :
    p.reflect.doubleNamed name = (p.doubleNamed name).map fun x => -x := by
  show (if p.name = name then (reflectValue p.name p.value).asDouble else none) =
    (if p.name = name then p.value.asDouble else none).map fun x => -x
  split
  · rename_i hname
    rw [hname, reflectValue, if_pos h]
    cases p.value <;> rfl
  · rfl

theorem boolNamed_reflect (name : String) : p.reflect.boolNamed name = p.boolNamed name := by
  show (if p.name = name then (reflectValue p.name p.value).asBool else none) =
    if p.name = name then p.value.asBool else none
  split
  · unfold reflectValue
    split
    · cases p.value <;> rfl
    · rfl
  · rfl

theorem assignNamed_reflect (u : VelocityPidMembers ℚ) :
    assignNamed p.reflect (reflectMembers u) = reflectMembers (assignNamed p u) := by
  have hneg {name : String} (h : name ∈ reflectedNames) (x : ℚ) :
      (p.reflect.doubleNamed name).getD (-x) = -(p.doubleNamed name).getD x := by
    rw [doubleNamed_reflect_of_mem p h]
    cases p.doubleNamed name <;> rfl
  unfold assignNamed reflectMembers
  simp (disch := decide) only [doubleNamed_reflect, boolNamed_reflect, hneg]

theorem applyParameter_reflect (s : VelocityPidNode ℚ) :
    s.reflect.applyParameter p.reflect = (s.applyParameter p).reflect := by
  have hmode : (if p.name = "control_mode" then
        (p.reflect.value.asString.bind ControlMode.ofString).getD s.controlMode
      else s.controlMode) =
      if p.name = "control_mode" then
        (p.value.asString.bind ControlMode.ofString).getD s.controlMode
      else s.controlMode := by
    split
    · rename_i hname
      show ((reflectValue p.name p.value).asString.bind _).getD _ = _
      rw [hname, reflectValue_of_not_mem (by decide)]
    · rfl
  have hmembers := assignNamed_reflect p s.toVelocityPidMembers
  rw [applyParameter_eq, applyParameter_eq]
  unfold reflect
  dsimp only
  rw [hmembers]
  show { s.reflect with
    toVelocityPidMembers := reflectMembers (assignNamed p s.toVelocityPidMembers)
    controlMode := (if p.name = "control_mode" then
        (p.reflect.value.asString.bind ControlMode.ofString).getD s.controlMode
      else s.controlMode)
    outerLoopCounter := if p.name = "control_mode" then 0 else s.outerLoopCounter
    outerDtAccum := if p.name = "control_mode" then 0 else s.outerDtAccum } = _
  rw [hmode]
  rfl

/-- No validator looks at the two parameters. -/
theorem validateParameter_reflect : validateParameter p.reflect = validateParameter p := by
  by_cases h : p.name ∈ reflectedNames
  · obtain ⟨name, value⟩ := p
    dsimp only at h
    have hfree (v : ParameterValue ℚ) : validateParameter ⟨name, v⟩ = some .success := by
      simp only [reflectedNames, List.mem_cons, List.not_mem_nil, or_false] at h
      obtain rfl | rfl := h
      · rfl
      · rfl
    exact (hfree _).trans (hfree value).symm
  · rw [reflect_of_not_mem p h]

theorem types_reflect (store : ParameterStore ℚ) : store.reflect.types = store.types := by
  funext name
  show ((store name).map (reflectValue name)).map ParameterValue.type =
    (store name).map ParameterValue.type
  rw [Option.map_map]
  congr 1
  funext v
  exact type_reflectValue name v

theorem setAll_reflect (store : ParameterStore ℚ) :
    store.reflect.setAll (batch.map Parameter.reflect) = (store.setAll batch).reflect := by
  induction batch using List.reverseRecOn with
  | nil => rfl
  | append_singleton batch p ih =>
      rw [List.map_append, List.map_singleton, ParameterStore.setAll_concat, ih,
        ParameterStore.setAll_concat]
      funext name
      show Function.update (store.setAll batch).reflect p.name _ name =
        (Function.update (store.setAll batch) p.name (some p.value) name).map (reflectValue name)
      by_cases hname : name = p.name
      · subst hname
        rw [Function.update_self, Function.update_self]
        rfl
      · rw [Function.update_of_ne hname, Function.update_of_ne hname]
        rfl

/-- The same batches are accepted on both sides. -/
theorem acceptsBatch_reflect (s : VelocityPidNode ℚ) :
    s.reflect.acceptsBatch (batch.map Parameter.reflect) = s.acceptsBatch batch := by
  have hadmits : s.reflect.parameters.admits (batch.map Parameter.reflect) =
      s.parameters.admits batch := by
    refine (ParameterStore.admits_congr (types_reflect s.parameters) _).trans ?_
    unfold ParameterStore.admits
    rw [List.all_map]
    congr 1
    funext p
    have htype : p.reflect.value.type = p.value.type := type_reflectValue p.name p.value
    refine decide_eq_decide.mpr ?_
    rw [htype]
    rfl
  rw [Bool.eq_iff_iff, acceptsBatch_iff, acceptsBatch_iff, hadmits]
  refine and_congr_right fun _ => ?_
  rw [List.forall_mem_map]
  simp only [validateParameter_reflect]

theorem run_applyParameter_reflect (s : VelocityPidNode ℚ) :
    run applyParameter s.reflect (batch.map Parameter.reflect) =
      (run applyParameter s batch).reflect :=
  run_map reflect Parameter.reflect (I := fun _ => True) (fun _ _ _ => trivial)
    (fun s p _ => applyParameter_reflect p s) trivial batch

theorem onApplyParameters_reflect (s : VelocityPidNode ℚ) :
    s.reflect.onApplyParameters (batch.map Parameter.reflect) =
      (s.onApplyParameters batch).reflect := by
  have hany (f : Parameter ℚ → Bool) (hf : ∀ p : Parameter ℚ, f p.reflect = f p) :
      (batch.map Parameter.reflect).any f = batch.any f := by
    rw [List.any_map]
    congr 1
    funext p
    exact hf p
  have hvel := hany (gainsChanged kResetVel) fun _ => rfl
  have hpos := hany (gainsChanged kResetPos) fun _ => rfl
  have hdivider := hany (fun p => p.name = "outer_loop_divider") fun _ => rfl
  unfold onApplyParameters
  rw [run_applyParameter_reflect, hvel, hpos, hdivider]
  generalize run applyParameter s batch = u
  have hvelReset : u.reflect.velPid.reset = u.velPid.reset.reflect := u.velPid.reset_reflect
  have hposReset : u.reflect.posPid.reset = u.posPid.reset.reflect := u.posPid.reset_reflect
  dsimp only
  cases batch.any (gainsChanged kResetVel) <;> cases batch.any (gainsChanged kResetPos) <;>
    cases batch.any (fun p => p.name = "outer_loop_divider") <;>
    simp only [if_true, if_false, Bool.false_eq_true, hvelReset, hposReset, applyVelPidConfig,
      applyPosPidConfig] <;> rfl

theorem setParameters_reflect (s : VelocityPidNode ℚ) :
    s.reflect.setParameters (batch.map Parameter.reflect) = (s.setParameters batch).reflect := by
  have hstored : { s.reflect with
      parameters := s.reflect.parameters.setAll (batch.map Parameter.reflect) } =
        reflect { s with parameters := s.parameters.setAll batch } := by
    have hset : s.reflect.parameters.setAll (batch.map Parameter.reflect) = _ :=
      setAll_reflect batch s.parameters
    rw [hset]
    rfl
  unfold setParameters
  rw [acceptsBatch_reflect, hstored, onApplyParameters_reflect]
  split <;> rfl

end Batches

/-- **Every callback commutes with the mirror.** -/
theorem Symmetric.step_reflect {s : VelocityPidNode ℚ} (h : s.Symmetric) (m : Libm ℚ)
    (e : Timed (VelocityPidEvent ℚ)) :
    s.reflect.step m (reflectEvent e) = (s.step m e).reflect := by
  obtain ⟨time, event⟩ := e
  cases event with
  | jointState msg => exact s.jointStateCallback_reflect msg
  | setParameters batch => exact setParameters_reflect batch s
  | controlLoop =>
      show (s.reflect.controlLoop m time).node = (s.controlLoop m time).node.reflect
      rw [h.controlLoop_reflect]
      rfl

/-! ## Runs of the node -/

section Start

variable (l : Launch ℚ)

theorem getDouble_reflect {name : String} (h : name ∉ reflectedNames) (default : ℚ) :
    l.reflect.getDouble name default = l.getDouble name default := by
  show (if name ∈ reflectedNames then _ else l.double name).getD default = _
  rw [if_neg h]
  rfl

/-- Both parameters are zero by default. -/
theorem getDouble_reflect_of_mem {name : String} (h : name ∈ reflectedNames) :
    l.reflect.getDouble name 0 = -l.getDouble name 0 := by
  show (if name ∈ reflectedNames then (l.double name).map fun x => -x else _).getD 0 =
    -(l.double name).getD 0
  rw [if_pos h]
  cases l.double name with
  | none => exact neg_zero.symm
  | some x => rfl

theorem startMembers_reflect : startMembers l.reflect = reflectMembers (startMembers l) := by
  rw [startMembers_eq, startMembers_eq]
  unfold reflectMembers
  simp (disch := decide) only [getDouble_reflect, getDouble_reflect_of_mem]
  rfl

theorem declare_reflect (entries : List (String × ParameterValue ℚ)) :
    (ParameterStore.declare entries).reflect =
      ParameterStore.declare (entries.map fun p => (p.1, reflectValue p.1 p.2)) := by
  funext name
  show (entries.lookup name).map (reflectValue name) = List.lookup name _
  induction entries with
  | nil => rfl
  | cons p entries ih =>
      obtain ⟨key, value⟩ := p
      rw [List.map_cons, List.lookup_cons, List.lookup_cons]
      cases hkey : name == key with
      | true =>
          obtain rfl := eq_of_beq hkey
          rfl
      | false => exact ih

theorem declared_reflect : declared l.reflect = (declared l).reflect := by
  unfold declared
  rw [declare_reflect]
  unfold paramDefs
  simp (disch := decide) only [List.map_append, List.map_cons, List.map_nil,
    reflectValue_of_not_mem, MemberSlot.launchValue, getDouble_reflect, getDouble_reflect_of_mem]
  rfl

theorem start_reflect (t₀ t₁ : Time) : start l.reflect t₀ t₁ = (start l t₀ t₁).reflect := by
  unfold start
  rw [startMembers_reflect, declared_reflect]
  generalize startMembers l = u
  generalize declared l = store
  show applyPosPidConfig (applyVelPidConfig { reflectMembers u with
    jointName := jointNameOf l
    controlMode :=
      (ControlMode.ofString (l.getString "control_mode" "position_only")).getD .positionOnly
    dt := lit 1 / u.rateHz
    lastMeasuredVel := 0
    filteredVel := 0
    filterInitialized := false
    jointIndex := -1
    lastMeasuredPos := 0
    startTime := t₁
    lastLoopTime := t₀
    outerLoopCounter := 0
    outerDtAccum := 0
    vCmd := 0
    velPid := .fresh
    posPid := .fresh
    parameters := store.reflect }) = _
  unfold reflect applyPosPidConfig applyVelPidConfig
  dsimp only
  rw [neg_zero]
  rfl

end Start

/-- **A run of the mirrored node is the mirrored run.** -/
theorem run_reflect (m : Libm ℚ) (l : Launch ℚ) (t₀ t₁ : Time)
    (es : List (Timed (VelocityPidEvent ℚ))) :
    run (step m) (start l.reflect t₀ t₁) (es.map reflectEvent) =
      (run (step m) (start l t₀ t₁) es).reflect := by
  rw [start_reflect]
  exact run_map reflect reflectEvent (I := Symmetric) (fun s e h => h.step m e)
    (fun s e h => h.step_reflect m e)
    ⟨startMembers_limitsValid l, start_pidsConfigured l t₀ t₁⟩ es

theorem run_symmetric (m : Libm ℚ) (l : Launch ℚ) (t₀ t₁ : Time)
    (es : List (Timed (VelocityPidEvent ℚ))) : (run (step m) (start l t₀ t₁) es).Symmetric :=
  ⟨run_limitsValid m l t₀ t₁ es, run_pidsConfigured m l t₀ t₁ es⟩

/-- A node whose loops stand where the shadow's do. -/
def ofShadow (c : ShadowPidController ℚ) (simPosition : ℚ) : VelocityPidNode ℚ where
  amplitudeRadS := c.amplitudeRadS
  omegaRadS := c.omegaRadS
  kp := c.kp
  ki := c.ki
  kd := c.kd
  kff := c.kff
  kaff := c.kaff
  torqueLimitNm := c.torqueLimitNm
  integralLimit := c.integralLimit
  deadbandRadS := c.deadbandRadS
  kpPos := c.kpPos
  kiPos := c.kiPos
  kdPos := c.kdPos
  posIntegralLimit := c.posIntegralLimit
  posOutputLimit := c.posOutputLimit
  outerLoopDivider := c.outerLoopDivider
  rateHz := 1
  filterAlpha := c.filterAlpha
  invertOutput := false
  positionSetpoint := c.positionSetpoint
  jointName := ""
  controlMode := c.controlMode
  dt := 1
  lastMeasuredVel := c.filteredVel
  filteredVel := c.filteredVel
  filterInitialized := c.filterInitialized
  jointIndex := 0
  lastMeasuredPos := simPosition
  startTime := 0
  lastLoopTime := 0
  outerLoopCounter := c.outerLoopCounter
  outerDtAccum := c.outerDtAccum
  vCmd := c.vCmd
  velPid := c.velPid
  posPid := c.posPid
  parameters := fun _ => none

end VelocityPidNode

/-! ## The shadow controller -/

namespace ShadowPidController

/-- The shadow controller on the other side of zero. -/
def reflect (c : ShadowPidController ℚ) : ShadowPidController ℚ :=
  { c with
    positionSetpoint := -c.positionSetpoint
    amplitudeRadS := -c.amplitudeRadS
    velPid := c.velPid.reflect
    posPid := c.posPid.reflect
    filteredVel := -c.filteredVel
    vCmd := -c.vCmd }

/-- The limits are valid, and no call has touched the output bounds. -/
structure Symmetric (c : ShadowPidController ℚ) : Prop where
  limits : VelocityPidNode.LimitsValid (VelocityPidNode.ofShadow c 0).toVelocityPidMembers
  initialised : (VelocityPidNode.ofShadow c 0).PidsInitialised

/-- The node that dispatches like the shadow once a call has written the gains and
filtered the velocity. -/
def prepared (c : ShadowPidController ℚ) (simPosition simVelocity : ℚ) : VelocityPidNode ℚ :=
  (VelocityPidNode.ofShadow c simPosition).applyVelPidConfig.applyPosPidConfig.filterVelocity
    simVelocity

section Calls

variable {c : ShadowPidController ℚ} (m : Libm ℚ) (simPosition simVelocity dt : ℚ)

theorem prepared_toShadow :
    (c.prepared simPosition simVelocity).toShadow = c.applyGains.filterVelocity simVelocity :=
  (VelocityPidNode.filterVelocity_toShadow simVelocity).symm

theorem prepared_reflect :
    c.reflect.prepared (-simPosition) (-simVelocity) =
      (c.prepared simPosition simVelocity).reflect :=
  VelocityPidNode.filterVelocity_reflect
    (VelocityPidNode.ofShadow c simPosition).applyVelPidConfig.applyPosPidConfig simVelocity

theorem Symmetric.prepared (h : c.Symmetric) :
    (c.prepared simPosition simVelocity).Symmetric := by
  obtain ⟨⟨htorque, hintegral, hposIntegral, hposOutput⟩, hvmin, hvmax, hdead, hpmin, hpmax⟩ := h
  exact ⟨⟨htorque, hintegral, hposIntegral, hposOutput⟩,
    ⟨rfl, rfl, rfl, rfl, rfl, hvmin, hvmax⟩, ⟨rfl, rfl, rfl, rfl, hdead, hpmin, hpmax⟩⟩

/-- A shadow in the state of a symmetric node is symmetric. -/
theorem symmetric_toShadow {s : VelocityPidNode ℚ} (h : s.Symmetric) : s.toShadow.Symmetric := by
  obtain ⟨htorque, hintegral, hposIntegral, hposOutput⟩ := h.limits
  obtain ⟨hvmin, hvmax, hdead, hpmin, hpmax⟩ := h.configured.initialised
  exact ⟨⟨htorque, hintegral, hposIntegral, hposOutput⟩, ⟨hvmin, hvmax, hdead, hpmin, hpmax⟩⟩

/-- **The dispatch of a mirrored call is the mirrored dispatch**: it is the node's. -/
theorem Symmetric.dispatch_reflect (h : c.Symmetric) (ref : TrajectoryRef ℚ) :
    let r := (c.applyGains.filterVelocity simVelocity).dispatch m simPosition ref dt
    let r' := (c.reflect.applyGains.filterVelocity (-simVelocity)).dispatch m (-simPosition)
      ref.reflect dt
    r'.torque = -r.torque ∧ r'.shadow = r.shadow.reflect ∧ r.shadow.Symmetric := by
  intro r r'
  have hsym := h.prepared simPosition simVelocity
  obtain ⟨htorque, hshadow⟩ := VelocityPidNode.dispatch_toShadow
    (s := c.prepared simPosition simVelocity) rfl m ref dt
  obtain ⟨htorque', hshadow'⟩ := VelocityPidNode.dispatch_toShadow
    (s := c.reflect.prepared (-simPosition) (-simVelocity)) rfl m ref.reflect dt
  have hnode := hsym.dispatch_reflect m ref dt
  have hsame : r = (c.prepared simPosition simVelocity).toShadow.dispatch m
      (c.prepared simPosition simVelocity).lastMeasuredPos ref dt := by
    rw [prepared_toShadow]
    rfl
  have hsame' : r' = (c.reflect.prepared (-simPosition) (-simVelocity)).toShadow.dispatch m
      (c.reflect.prepared (-simPosition) (-simVelocity)).lastMeasuredPos ref.reflect dt := by
    rw [prepared_toShadow]
    rfl
  rw [← hsame] at htorque hshadow
  rw [← hsame', prepared_reflect, hnode] at htorque' hshadow'
  refine ⟨?_, ?_, ?_⟩
  · rw [htorque', htorque]
    rfl
  · rw [hshadow', hshadow]
    rfl
  · rw [hshadow]
    refine symmetric_toShadow ⟨?_, hsym.configured.dispatch m ref dt⟩
    rw [((c.prepared simPosition simVelocity).dispatch_frame m ref dt).1.members]
    exact hsym.limits

/-- The trajectory of a mirrored call. -/
theorem trajectory_reflect (t : ℚ) :
    (c.reflect.applyGains.filterVelocity (-simVelocity)).trajectory m t =
      ((c.applyGains.filterVelocity simVelocity).trajectory m t).reflect := by
  have hnode := VelocityPidNode.computeTrajectory_reflect (s := c.prepared 0 simVelocity) m t
  have hprepared := c.prepared_reflect 0 simVelocity
  rw [← hprepared] at hnode
  show (c.reflect.applyGains.filterVelocity (-simVelocity)).trajectory m t = _
  rw [← prepared_toShadow (-0), ← prepared_toShadow 0]
  exact hnode

end Calls

/-- Settings with limits that a caller has to respect. -/
structure Settings where
  fields : ShadowPidController ℚ
  limits : VelocityPidNode.LimitsValid (VelocityPidNode.ofShadow fields 0).toVelocityPidMembers

/-- What the owner of a shadow controller does with it: `read_shadow_params` writes the
public fields and resets, and a tick calls one of the overloads. -/
inductive Call where
  | configure (settings : Settings)
  | reset
  | compute (simPosition simVelocity t dt : ℚ)
  | computeExternal (simPosition simVelocity posRef velRef dt : ℚ)

/-- Write the public fields. -/
def configure (c : ShadowPidController ℚ) (settings : Settings) : ShadowPidController ℚ :=
  { settings.fields with
    velPid := c.velPid
    posPid := c.posPid
    filteredVel := c.filteredVel
    filterInitialized := c.filterInitialized
    outerLoopCounter := c.outerLoopCounter
    outerDtAccum := c.outerDtAccum
    vCmd := c.vCmd }

/-- The controller after a call. -/
def call (m : Libm ℚ) (c : ShadowPidController ℚ) : Call → ShadowPidController ℚ
  | .configure settings => c.configure settings
  | .reset => c.reset
  | .compute simPosition simVelocity t dt => (c.compute m simPosition simVelocity t dt).shadow
  | .computeExternal simPosition simVelocity posRef velRef dt =>
      (c.computeExternal m simPosition simVelocity posRef velRef dt).shadow

/-- The same call of the mirrored controller. -/
def Call.reflect : Call → Call
  | .configure settings =>
      .configure ⟨settings.fields.reflect, ⟨settings.limits.torque, settings.limits.integral,
        settings.limits.posIntegral, settings.limits.posOutput⟩⟩
  | .reset => .reset
  | .compute simPosition simVelocity t dt => .compute (-simPosition) (-simVelocity) t dt
  | .computeExternal simPosition simVelocity posRef velRef dt =>
      .computeExternal (-simPosition) (-simVelocity) (-posRef) (-velRef) dt

section Run

variable {c : ShadowPidController ℚ} (m : Libm ℚ)

/-- Either overload, on either side. -/
theorem Symmetric.compute_reflect (h : c.Symmetric) (simPosition simVelocity t dt : ℚ) :
    let r := c.compute m simPosition simVelocity t dt
    let r' := c.reflect.compute m (-simPosition) (-simVelocity) t dt
    r'.torque = -r.torque ∧ r'.shadow = r.shadow.reflect ∧ r.shadow.Symmetric := by
  unfold compute
  dsimp only
  rw [trajectory_reflect]
  exact h.dispatch_reflect m simPosition simVelocity dt _

theorem Symmetric.computeExternal_reflect (h : c.Symmetric)
    (simPosition simVelocity posRef velRef dt : ℚ) :
    let r := c.computeExternal m simPosition simVelocity posRef velRef dt
    let r' := c.reflect.computeExternal m (-simPosition) (-simVelocity) (-posRef) (-velRef) dt
    r'.torque = -r.torque ∧ r'.shadow = r.shadow.reflect ∧ r.shadow.Symmetric := by
  have href : (⟨-posRef, -velRef, 0⟩ : TrajectoryRef ℚ) =
      TrajectoryRef.reflect ⟨posRef, velRef, 0⟩ := by
    unfold TrajectoryRef.reflect
    dsimp only
    rw [neg_zero]
  unfold computeExternal
  rw [href]
  exact h.dispatch_reflect m simPosition simVelocity dt _

/-- Every call keeps the bounds symmetric and commutes with the mirror. -/
theorem Symmetric.call_reflect (h : c.Symmetric) (k : Call) :
    c.reflect.call m k.reflect = (c.call m k).reflect ∧ (c.call m k).Symmetric := by
  cases k with
  | configure settings =>
      exact ⟨rfl, ⟨settings.limits.torque, settings.limits.integral, settings.limits.posIntegral,
        settings.limits.posOutput⟩, ⟨h.initialised.velMin, h.initialised.velMax,
        h.initialised.posDeadband, h.initialised.posMin, h.initialised.posMax⟩⟩
  | reset =>
      refine ⟨?_, ⟨h.limits.torque, h.limits.integral, h.limits.posIntegral, h.limits.posOutput⟩,
        ⟨h.initialised.velMin, h.initialised.velMax, h.initialised.posDeadband,
          h.initialised.posMin, h.initialised.posMax⟩⟩
      have hvel := c.velPid.reset_reflect
      have hpos := c.posPid.reset_reflect
      show c.reflect.reset = c.reset.reflect
      unfold reset reflect
      dsimp only
      rw [hvel, hpos, neg_zero]
  | compute simPosition simVelocity t dt =>
      exact (h.compute_reflect m simPosition simVelocity t dt).2
  | computeExternal simPosition simVelocity posRef velRef dt =>
      exact (h.computeExternal_reflect m simPosition simVelocity posRef velRef dt).2

theorem fresh_symmetric : (fresh : ShadowPidController ℚ).Symmetric := by
  refine ⟨⟨?_, le_refl _, ?_, ?_⟩, ⟨rfl, rfl, rfl, rfl, rfl⟩⟩
  · show (0 : ℚ) < lit 0.40
    norm_num
  · show (0 : ℚ) < lit 1
    norm_num
  · show (0 : ℚ) < lit 2
    norm_num

theorem run_call_symmetric (ks : List Call) : (run (call m) fresh ks).Symmetric :=
  invariant_run (I := Symmetric) (fun _ k h => (h.call_reflect m k).2) fresh_symmetric ks

/-- **A run of the mirrored controller is the mirrored run.** -/
theorem run_call_reflect (ks : List Call) :
    run (call m) fresh (ks.map Call.reflect) = (run (call m) fresh ks).reflect := by
  have hfresh : (fresh : ShadowPidController ℚ).reflect = fresh := by
    have hpid := PidController.fresh_reflect
    unfold fresh reflect
    dsimp only
    rw [hpid, neg_zero]
  have hrun := run_map reflect Call.reflect (I := Symmetric)
    (fun _ k h => (h.call_reflect m k).2) (fun _ k h => (h.call_reflect m k).1) fresh_symmetric ks
  rw [hfresh] at hrun
  exact hrun

end Run

end ShadowPidController

/-! ## Both controllers -/

/-- The opposite command and integrals, under the same flags and counters. -/
structure ShadowPidController.Opposite (c c' : ShadowPidController ℚ) : Prop where
  vCmd : c'.vCmd = -c.vCmd
  velIntegral : c'.velPid.integral = -c.velPid.integral
  posIntegral : c'.posPid.integral = -c.posPid.integral
  velSaturated : c'.velPid.saturated = c.velPid.saturated
  posSaturated : c'.posPid.saturated = c.posPid.saturated
  outerLoopCounter : c'.outerLoopCounter = c.outerLoopCounter
  outerDtAccum : c'.outerDtAccum = c.outerDtAccum

theorem ShadowPidController.opposite_reflect (c : ShadowPidController ℚ) :
    c.Opposite c.reflect :=
  ⟨rfl, rfl, rfl, rfl, rfl, rfl, rfl⟩

/-- **Mirror symmetry of the control law.**  In every state of every run the mirrored
node holds the opposite command and integrals, and its next tick gives the opposite
torque; and the same of the shadow controller and of both its overloads. -/
theorem control_symmetric (m : Libm ℚ) :
    (∀ (l : Launch ℚ) (t₀ t₁ : Time) (es : List (Timed (VelocityPidEvent ℚ))),
      let s := run (VelocityPidNode.step m) (VelocityPidNode.start l t₀ t₁) es
      let s' := run (VelocityPidNode.step m) (VelocityPidNode.start l.reflect t₀ t₁)
        (es.map VelocityPidNode.reflectEvent)
      s.toShadow.Opposite s'.toShadow ∧
        ∀ now, (s'.controlLoop m now).torque = -(s.controlLoop m now).torque ∧
          (s.controlLoop m now).node.toShadow.Opposite (s'.controlLoop m now).node.toShadow) ∧
    ∀ ks : List ShadowPidController.Call,
      let c := run (ShadowPidController.call m) .fresh ks
      let c' := run (ShadowPidController.call m) .fresh (ks.map ShadowPidController.Call.reflect)
      c.Opposite c' ∧
        (∀ simPosition simVelocity t dt,
          (c'.compute m (-simPosition) (-simVelocity) t dt).torque =
            -(c.compute m simPosition simVelocity t dt).torque) ∧
        ∀ simPosition simVelocity posRef velRef dt,
          (c'.computeExternal m (-simPosition) (-simVelocity) (-posRef) (-velRef) dt).torque =
            -(c.computeExternal m simPosition simVelocity posRef velRef dt).torque := by
  constructor
  · intro l t₀ t₁ es s s'
    have hrun : s' = s.reflect := VelocityPidNode.run_reflect m l t₀ t₁ es
    rw [hrun]
    refine ⟨s.toShadow.opposite_reflect, ?_⟩
    intro now
    rw [(VelocityPidNode.run_symmetric m l t₀ t₁ es).controlLoop_reflect]
    exact ⟨rfl, (s.controlLoop m now).node.toShadow.opposite_reflect⟩
  · intro ks c c'
    have hrun : c' = c.reflect := ShadowPidController.run_call_reflect m ks
    have hsym : c.Symmetric := ShadowPidController.run_call_symmetric m ks
    rw [hrun]
    refine ⟨c.opposite_reflect, ?_, ?_⟩
    · intro simPosition simVelocity t dt
      exact (hsym.compute_reflect m simPosition simVelocity t dt).1
    · intro simPosition simVelocity posRef velRef dt
      exact (hsym.computeExternal_reflect m simPosition simVelocity posRef velRef dt).1

end MarineHil.Ports
