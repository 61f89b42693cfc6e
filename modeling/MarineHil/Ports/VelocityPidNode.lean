import MarineHil.Ports.RosNode
import MarineHil.Ports.ShadowPidController

/-!
# `VelocityPidNode`

The node that runs the cascaded PID controller of the motor, in one of three
control modes.

Numeric and boolean parameters go through the table `paramDefs`: one entry
drives declaration, reading, validation, application and the reset of the PID
controllers.  `control_mode` is handled beside the table.  The callbacks of the
single-threaded executor are a `JointState` message, a parameter batch, and the
control timer; `step` is the state after one of them, and the timer also
publishes what `controlLoop` returns.
-/

namespace MarineHil.Ports

open MarineHil.Verified

/-- The members the parameter table points at. -/
structure VelocityPidMembers (α : Type) where
  amplitudeRadS : α
  omegaRadS : α
  kp : α
  ki : α
  kd : α
  kff : α
  kaff : α
  torqueLimitNm : α
  integralLimit : α
  deadbandRadS : α
  kpPos : α
  kiPos : α
  kdPos : α
  posIntegralLimit : α
  posOutputLimit : α
  outerLoopDivider : α
  rateHz : α
  filterAlpha : α
  invertOutput : Bool
  positionSetpoint : α

structure VelocityPidNode (α : Type) extends VelocityPidMembers α where
  jointName : String
  controlMode : ControlMode
  dt : α
  lastMeasuredVel : α
  filteredVel : α
  filterInitialized : Bool
  jointIndex : ℤ
  lastMeasuredPos : α
  startTime : Time
  lastLoopTime : Time
  outerLoopCounter : ℤ
  outerDtAccum : α
  vCmd : α
  velPid : PidController α
  posPid : PidController α
  parameters : ParameterStore α

/-- What a loop returns: the node afterwards, the torque, and the bounds of the
clamps it executed. -/
structure VelocityPidStep (α : Type) where
  node : VelocityPidNode α
  torque : α
  clamps : List (α × α)

/-- The `Float64` topics published beside the torque. -/
structure VelocityPidDiagnostics (α : Type) where
  desiredVelocity : α
  measuredVelocity : α
  velocityError : α
  measuredPosition : α
  positionError : α
  positionCommand : α
  velocityCommand : α

/-- One control tick.  Nothing but a zero torque is published when the joint is
not found. -/
structure VelocityPidTick (α : Type) extends VelocityPidStep α where
  diagnostics : Option (VelocityPidDiagnostics α)

inductive VelocityPidEvent (α : Type) where
  | jointState (msg : JointState α)
  | setParameters (batch : List (Parameter α))
  | controlLoop

/-! ## The parameter table -/

/-- `std::variant<double, bool>`. -/
inductive ParamValue (α : Type) where
  | double (x : α)
  | bool (b : Bool)

/-- A pointer to a member: what is written is read back, and a second write
overwrites the first. -/
structure Member (α β : Type) where
  get : VelocityPidMembers α → β
  set : β → VelocityPidMembers α → VelocityPidMembers α
  get_set : ∀ x m, get (set x m) = x := by intros; rfl
  set_set : ∀ x y m, set y (set x m) = set y m := by intros; rfl

/-- The default of a table entry and the member it points at, both of the type
of the parameter. -/
inductive MemberSlot (α : Type) where
  | double (default : α) (member : Member α α)
  | bool (default : Bool) (member : Member α Bool)

/-- A validator; `none` where `std::get` throws. -/
abbrev ValidatorFn (α : Type) := ParamValue α → Option SetParametersResult

structure ParamDef (α : Type) where
  name : String
  slot : MemberSlot α
  validator : Option (ValidatorFn α)
  resetFlags : ℕ

/-- Resets the velocity PID. -/
def kResetVel : ℕ := 1

/-- Resets the position PID. -/
def kResetPos : ℕ := 2

namespace MemberSlot

variable {α : Type}

/-- `get_member_value`. -/
def value (slot : MemberSlot α) (m : VelocityPidMembers α) : ParamValue α :=
  match slot with
  | double _ member => .double (member.get m)
  | bool _ member => .bool (member.get m)

/-- The value the parameter is declared with. -/
def launchValue (slot : MemberSlot α) (l : Launch α) (name : String) : ParameterValue α :=
  match slot with
  | double default _ => .double (l.getDouble name default)
  | bool default _ => .bool (l.getBool name default)

def setDefault (slot : MemberSlot α) (m : VelocityPidMembers α) : VelocityPidMembers α :=
  match slot with
  | double default member => member.set default m
  | bool default member => member.set default m

/-- `this->*member = param.as_double()` or `param.as_bool()`.  A value of
another type cannot get here: the store has refused the batch. -/
def assign (slot : MemberSlot α) (value : ParameterValue α) (m : VelocityPidMembers α) :
    VelocityPidMembers α :=
  match slot with
  | double _ member => match value.asDouble with
      | some x => member.set x m
      | none => m
  | bool _ member => match value.asBool with
      | some b => member.set b m
      | none => m

end MemberSlot

namespace VelocityPidNode

variable {α : Type} [Double α]

def positiveValidator (name : String) : ValidatorFn α
  | .double x => some (if 0 < x then .success else .failure (name ++ " must be positive."))
  | .bool _ => none

def unitRangeValidator (name : String) : ValidatorFn α
  | .double x =>
      some (if 0 ≤ x ∧ x < lit 1 then .success else .failure (name ++ " must be in [0.0, 1.0)."))
  | .bool _ => none

/-- The table `param_defs_`. -/
def paramDefs : List (ParamDef α) :=
  [ ⟨"amplitude_rad_s",
      .double 0 (.mk (·.amplitudeRadS) fun x m => { m with amplitudeRadS := x }), none, 0⟩
  , ⟨"omega_rad_s",
      .double 0 (.mk (·.omegaRadS) fun x m => { m with omegaRadS := x }), none, 0⟩
  , ⟨"kp",
      .double (lit 0.35) (.mk (·.kp) fun x m => { m with kp := x }), none, kResetVel⟩
  , ⟨"ki",
      .double (lit 0.01) (.mk (·.ki) fun x m => { m with ki := x }), none, kResetVel⟩
  , ⟨"kd",
      .double 0 (.mk (·.kd) fun x m => { m with kd := x }), none, kResetVel⟩
  , ⟨"kff",
      .double (lit 0.40) (.mk (·.kff) fun x m => { m with kff := x }), none, kResetVel⟩
  , ⟨"kaff",
      .double (lit 0.20) (.mk (·.kaff) fun x m => { m with kaff := x }), none, kResetVel⟩
  , ⟨"torque_limit_nm",
      .double (lit 0.40) (.mk (·.torqueLimitNm) fun x m => { m with torqueLimitNm := x }),
      some (positiveValidator "torque_limit_nm"), 0⟩
  , ⟨"integral_limit",
      .double 0 (.mk (·.integralLimit) fun x m => { m with integralLimit := x }),
      some (positiveValidator "integral_limit"), 0⟩
  , ⟨"deadband_rad_s",
      .double 0 (.mk (·.deadbandRadS) fun x m => { m with deadbandRadS := x }), none, 0⟩
  , ⟨"kp_pos",
      .double (lit 2) (.mk (·.kpPos) fun x m => { m with kpPos := x }), none, kResetPos⟩
  , ⟨"ki_pos",
      .double (lit 0.01) (.mk (·.kiPos) fun x m => { m with kiPos := x }), none, kResetPos⟩
  , ⟨"kd_pos",
      .double (lit 0.025) (.mk (·.kdPos) fun x m => { m with kdPos := x }), none, kResetPos⟩
  , ⟨"pos_integral_limit",
      .double (lit 1) (.mk (·.posIntegralLimit) fun x m => { m with posIntegralLimit := x }),
      some (positiveValidator "pos_integral_limit"), 0⟩
  , ⟨"pos_output_limit",
      .double (lit 2) (.mk (·.posOutputLimit) fun x m => { m with posOutputLimit := x }),
      some (positiveValidator "pos_output_limit"), 0⟩
  , ⟨"outer_loop_divider",
      .double (lit 1) (.mk (·.outerLoopDivider) fun x m => { m with outerLoopDivider := x }),
      some (positiveValidator "outer_loop_divider"), 0⟩
  , ⟨"rate_hz",
      .double (lit 100) (.mk (·.rateHz) fun x m => { m with rateHz := x }),
      some (positiveValidator "rate_hz"), 0⟩
  , ⟨"filter_alpha",
      .double (lit 0.90) (.mk (·.filterAlpha) fun x m => { m with filterAlpha := x }),
      some (unitRangeValidator "filter_alpha"), 0⟩
  , ⟨"invert_output",
      .bool false (.mk (·.invertOutput) fun b m => { m with invertOutput := b }), none, 0⟩
  , ⟨"position_setpoint",
      .double 0 (.mk (·.positionSetpoint) fun x m => { m with positionSetpoint := x }), none, 0⟩ ]

/-! ## Construction -/

/-- The members before the constructor's loop, which writes every one of them
before it is read. -/
def unset : VelocityPidMembers α :=
  ⟨0, 0, 0, 0, 0, 0, 0, 0, 0, 0, 0, 0, 0, 0, 0, 0, 0, 0, false, 0⟩

/-- Declare, read and validate one table parameter; an invalid value is
replaced by the default, which is not validated again. -/
def readParameter (l : Launch α) (m : VelocityPidMembers α) (d : ParamDef α) :
    VelocityPidMembers α :=
  let m := d.slot.assign (d.slot.launchValue l d.name) m
  match d.validator with
  | none => m
  | some validator =>
      match validator (d.slot.value m) with
      | some r => if r.successful then m else d.slot.setDefault m
      | none => m

/-- The members after the constructor's loop over the table. -/
def startMembers (l : Launch α) : VelocityPidMembers α := run (readParameter l) unset paramDefs

/-- The declared parameters with their launch values. -/
def declared (l : Launch α) : ParameterStore α :=
  .declare
    ([ ("joint_state_topic", .string (l.getString "joint_state_topic" "/joint_states"))
     , ("command_topic",
        .string (l.getString "command_topic" "/motor_effort_controller/commands"))
     , ("joint_name", .string (l.getString "joint_name" "motor_joint"))
     , ("control_mode", .string (l.getString "control_mode" "position_only")) ] ++
      paramDefs.map fun d => (d.name, d.slot.launchValue l d.name))

def applyVelPidConfig (s : VelocityPidNode α) : VelocityPidNode α :=
  { s with
    velPid :=
      { s.velPid with
        kp := s.kp
        ki := s.ki
        kd := s.kd
        integralLimit := s.integralLimit
        deadband := s.deadbandRadS } }

def applyPosPidConfig (s : VelocityPidNode α) : VelocityPidNode α :=
  { s with
    posPid :=
      { s.posPid with
        kp := s.kpPos
        ki := s.kiPos
        kd := s.kdPos
        integralLimit := s.posIntegralLimit } }

/-- The joint the node controls. -/
def jointNameOf (l : Launch α) : String := l.getString "joint_name" "motor_joint"

/-- The constructor, which reads the clock twice: for `last_loop_time_` and,
later, for `start_time_`. -/
def start (l : Launch α) (loopTime startTime : Time) : VelocityPidNode α :=
  applyPosPidConfig (applyVelPidConfig
    { startMembers l with
      jointName := jointNameOf l
      controlMode :=
        (ControlMode.ofString (l.getString "control_mode" "position_only")).getD .positionOnly
      dt := lit 1 / (startMembers l).rateHz
      lastMeasuredVel := 0
      filteredVel := 0
      filterInitialized := false
      jointIndex := -1
      lastMeasuredPos := 0
      startTime := startTime
      lastLoopTime := loopTime
      outerLoopCounter := 0
      outerDtAccum := 0
      vCmd := 0
      velPid := .fresh
      posPid := .fresh
      parameters := declared l })

/-! ## Parameter callbacks -/

def kImmutableParams : List String :=
  ["joint_state_topic", "command_topic", "joint_name", "rate_hz"]

/-- The value handed to a table validator; `as_bool()` throws on anything that
is neither a double nor a bool. -/
def incoming (value : ParameterValue α) : Option (ParamValue α) :=
  match value with
  | .double x => some (.double x)
  | v => v.asBool.map .bool

/-- The body of the loop of `on_validate_parameters` over the table. -/
def checkDef (p : Parameter α) (d : ParamDef α) : Option SetParametersResult :=
  if d.name = p.name then
    match d.validator with
    | none => some .success
    | some validator => (incoming p.value).bind validator
  else some .success

/-- The check of `control_mode`, passed by every other parameter. -/
def checkControlMode (p : Parameter α) : SetParametersResult :=
  if p.name = "control_mode" then
    match p.value with
    | .string mode =>
        if (ControlMode.ofString mode).isSome then .success
        else .failure "control_mode must be 'cascade', 'velocity_only', or 'position_only'."
    | _ => .failure "control_mode must be a string."
  else .success

/-- The body of the loop of `on_validate_parameters`. -/
def validateParameter (p : Parameter α) : Option SetParametersResult :=
  if p.name ∈ kImmutableParams then
    some (.failure
      ("Parameter '" ++ p.name ++ "' cannot be changed at runtime (requires node restart)."))
  else if (checkControlMode p).successful then validateAll (checkDef p) paramDefs
  else some (checkControlMode p)

def onValidateParameters (batch : List (Parameter α)) : Option SetParametersResult :=
  validateAll validateParameter batch

/-- The table entry a parameter is applied through. -/
def findDef (name : String) : Option (ParamDef α) :=
  paramDefs.find? fun d => d.name = name

/-- The body of the first loop of `on_apply_parameters`. -/
def applyParameter (s : VelocityPidNode α) (p : Parameter α) : VelocityPidNode α :=
  if p.name = "control_mode" then
    { s with
      controlMode := (p.value.asString.bind ControlMode.ofString).getD s.controlMode
      outerLoopCounter := 0
      outerDtAccum := 0 }
  else
    match findDef p.name with
    | some d => { s with toVelocityPidMembers := d.slot.assign p.value s.toVelocityPidMembers }
    | none => s

/-- Whether the first loop of `on_apply_parameters` notes that gains with the
given reset flag changed. -/
def gainsChanged (flag : ℕ) (p : Parameter α) : Bool :=
  p.name != "control_mode" &&
    match findDef (α := α) p.name with
    | some d => d.resetFlags &&& flag != 0
    | none => false

def onApplyParameters (s : VelocityPidNode α) (batch : List (Parameter α)) :
    VelocityPidNode α :=
  let s := run applyParameter s batch
  let s := if batch.any (gainsChanged kResetVel) then { s with velPid := s.velPid.reset } else s
  let s := s.applyVelPidConfig
  let s := if batch.any (gainsChanged kResetPos) then { s with posPid := s.posPid.reset } else s
  let s := s.applyPosPidConfig
  if batch.any (fun p => p.name = "outer_loop_divider") then
    { s with outerLoopCounter := 0, outerDtAccum := 0 }
  else s

/-- The batch would be applied. -/
def acceptsBatch (s : VelocityPidNode α) (batch : List (Parameter α)) : Bool :=
  accepts s.parameters onValidateParameters batch

def setParameters (s : VelocityPidNode α) (batch : List (Parameter α)) : VelocityPidNode α :=
  if s.acceptsBatch batch then
    onApplyParameters { s with parameters := s.parameters.setAll batch } batch
  else s

/-! ## Joint-state callback -/

/-- `joint_index_` at the head of `joint_state_callback`: kept while it still
points at the joint, searched anew otherwise, and −1 when the joint is not
listed.  A message lists fewer joints than `int` can count. -/
def locateJoint (s : VelocityPidNode α) (msg : JointState α) : ℤ :=
  if s.jointIndex < 0 ∨ msg.name[s.jointIndex.toNat]? ≠ some s.jointName then
    match msg.name.findIdx? (· = s.jointName) with
    | some i => i
    | none => -1
  else s.jointIndex

/-- The sign `invert_output` gives to a measurement. -/
def oriented (s : VelocityPidNode α) (raw : α) : α := if s.invertOutput then -raw else raw

/-- The velocity filter on one measurement. -/
def filterVelocity (s : VelocityPidNode α) (raw : α) : VelocityPidNode α :=
  let filtered :=
    if s.filterInitialized then s.filterAlpha * s.filteredVel + (lit 1 - s.filterAlpha) * raw
    else raw
  { s with filteredVel := filtered, filterInitialized := true, lastMeasuredVel := filtered }

/-- The measurements of one message at the joint's index. -/
def readVelocity (s : VelocityPidNode α) (msg : JointState α) : VelocityPidNode α :=
  match msg.velocity[s.jointIndex.toNat]? with
  | some raw => s.filterVelocity (s.oriented raw)
  | none => s

def readPosition (s : VelocityPidNode α) (msg : JointState α) : VelocityPidNode α :=
  match msg.position[s.jointIndex.toNat]? with
  | some raw => { s with lastMeasuredPos := s.oriented raw }
  | none => s

def jointStateCallback (s : VelocityPidNode α) (msg : JointState α) : VelocityPidNode α :=
  let s := { s with jointIndex := s.locateJoint msg }
  if s.jointIndex < 0 then s else (s.readVelocity msg).readPosition msg

/-! ## Control loop -/

def computeTrajectory (s : VelocityPidNode α) (m : Libm α) (t : α) : TrajectoryRef α :=
  if lit 1e-9 < fabs s.omegaRadS then
    { pos :=
        if s.controlMode = .velocityOnly then s.positionSetpoint
        else s.positionSetpoint +
          (s.amplitudeRadS / s.omegaRadS) * (lit 1 - m.cos (s.omegaRadS * t))
      vel := s.amplitudeRadS * m.sin (s.omegaRadS * t)
      accel := s.amplitudeRadS * s.omegaRadS * m.cos (s.omegaRadS * t) }
  else { pos := s.positionSetpoint, vel := 0, accel := 0 }

/-- Feedforward, suppressed without proportional feedback. -/
def feedforward (s : VelocityPidNode α) (velSetpoint accelFf : α) : α :=
  if 0 < s.kp then s.kff * velSetpoint + s.kaff * accelFf else 0

/-- Velocity PID and feedforward, clamped. -/
def runInnerLoop (s : VelocityPidNode α) (velSetpoint accelFf dt : α) : VelocityPidStep α :=
  let r := s.velPid.compute velSetpoint s.lastMeasuredVel dt
  let torque :=
    clamp (r.output + s.feedforward velSetpoint accelFf) (-s.torqueLimitNm) s.torqueLimitNm
  { node :=
      { s with velPid := { r.pid with saturated := decide (s.torqueLimitNm ≤ fabs torque) } }
    torque := torque
    clamps := r.clamps ++ [(-s.torqueLimitNm, s.torqueLimitNm)] }

/-- The outer loop fires on this tick. -/
def outerLoopFires (s : VelocityPidNode α) (m : Libm α) : Bool :=
  decide (toInt32 (llround m s.outerLoopDivider) ≤ s.outerLoopCounter + 1)

/-- Position PID into `v_cmd_`, rate-divided: the node afterwards and the
clamps executed. -/
def runOuterLoop (s : VelocityPidNode α) (m : Libm α) (posRef velFf dt : α) :
    VelocityPidNode α × List (α × α) :=
  if s.outerLoopFires m then
    let r := s.posPid.compute posRef s.lastMeasuredPos (s.outerDtAccum + dt)
    let vCmd := clamp (r.output + velFf) (-s.posOutputLimit) s.posOutputLimit
    ({ s with
        outerLoopCounter := 0
        posPid := { r.pid with saturated := decide (s.posOutputLimit ≤ fabs vCmd) }
        vCmd := vCmd
        outerDtAccum := 0 },
      r.clamps ++ [(-s.posOutputLimit, s.posOutputLimit)])
  else
    ({ s with outerLoopCounter := s.outerLoopCounter + 1, outerDtAccum := s.outerDtAccum + dt },
      [])

/-- The position PID driving the torque directly. -/
def runPositionLoop (s : VelocityPidNode α) (posRef dt : α) : VelocityPidStep α :=
  let r := s.posPid.compute posRef s.lastMeasuredPos dt
  let torque := clamp r.output (-s.torqueLimitNm) s.torqueLimitNm
  { node :=
      { s with
        posPid := { r.pid with saturated := decide (s.torqueLimitNm ≤ fabs torque) }
        vCmd := 0 }
    torque := torque
    clamps := r.clamps ++ [(-s.torqueLimitNm, s.torqueLimitNm)] }

/-- The mode dispatch of `control_loop`. -/
def dispatch (s : VelocityPidNode α) (m : Libm α) (traj : TrajectoryRef α) (dt : α) :
    VelocityPidStep α :=
  match s.controlMode with
  | .cascade =>
      let o := s.runOuterLoop m traj.pos traj.vel dt
      let r := o.1.runInnerLoop o.1.vCmd traj.accel dt
      { r with clamps := o.2 ++ r.clamps }
  | .positionOnly => s.runPositionLoop traj.pos dt
  | .velocityOnly => { s with vCmd := traj.vel }.runInnerLoop traj.vel traj.accel dt

/-- The `dt` of a tick: the measured one unless the clock stood still or went
back. -/
def stepDt (s : VelocityPidNode α) (now : Time) : α :=
  let actual : α := seconds (now - s.lastLoopTime)
  if 0 < actual then actual else s.dt

/-- The trajectory at a tick. -/
def trajectoryAt (s : VelocityPidNode α) (m : Libm α) (now : Time) : TrajectoryRef α :=
  s.computeTrajectory m (seconds (now - s.startTime))

/-- `vel_error`, by mode, after the loops have run. -/
def velError (s : VelocityPidNode α) : α :=
  match s.controlMode with
  | .positionOnly => 0
  | _ => s.vCmd - s.lastMeasuredVel

def controlLoop (s : VelocityPidNode α) (m : Libm α) (now : Time) : VelocityPidTick α :=
  if s.jointIndex < 0 then { node := s, torque := 0, clamps := [], diagnostics := none }
  else
    let traj := s.trajectoryAt m now
    let r := { s with lastLoopTime := now }.dispatch m traj (s.stepDt now)
    { toVelocityPidStep := r
      diagnostics := some
        { desiredVelocity := traj.vel
          measuredVelocity := r.node.lastMeasuredVel
          velocityError := r.node.velError
          measuredPosition := r.node.lastMeasuredPos
          positionError := traj.pos - s.lastMeasuredPos
          positionCommand := traj.pos
          velocityCommand := r.node.vCmd } }

/-- One callback. -/
def step (m : Libm α) (s : VelocityPidNode α) (e : Timed (VelocityPidEvent α)) :
    VelocityPidNode α :=
  match e.event with
  | .jointState msg => s.jointStateCallback msg
  | .setParameters batch => s.setParameters batch
  | .controlLoop => (s.controlLoop m e.time).node

end VelocityPidNode

end MarineHil.Ports
