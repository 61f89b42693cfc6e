import MarineHil.Ports.ShadowPidController
import MarineHil.Ports.SeaStackHydro

/-!
# `ChronoFlapNode`

The node that simulates the flap.  In `sil` and `parallel` mode it steps the
rigid-body engine under its shadow controller or an effort command.  In `hil`
mode it computes a load torque from the measured joint state, behind a
feedback watchdog and the ramp of the engage gate, and publishes it for the
mixer.

Its events are the callbacks of `spin_some` and the body of the loop of `run`,
which publishes what `tick` returns.  An event that the mode has no
subscription or service for leaves the node alone.  A tick reads the clock
once: the source reads it again for the age of the feedback and for the stamp
of the joint state it publishes.
-/

namespace MarineHil.Ports

open MarineHil.Verified

inductive FlapMode where
  | sil
  | parallel
  | hil
  deriving DecidableEq

structure ChronoFlapNode (σ κ α : Type) where
  mode : FlapMode
  jointName : String
  publishDt : α
  solverDt : α
  substeps : ℤ
  flapLength : α
  flapWidth : α
  flapMass : α
  jointDamping : α
  jointStiffness : α
  bearingFriction : α
  coulombFriction : α
  useShadowPid : Bool
  shadowSyncTrajectory : Bool
  shadowExtPosRef : α
  shadowExtVelRef : α
  shadowPosRefReceived : Bool
  shadowVelRefReceived : Bool
  shadowPid : ShadowPidController α
  latestTorque : α
  simPosition : α
  simVelocity : α
  simAcceleration : α
  startTime : Time
  sys : σ
  hilConstantLoadNm : α
  hilVirtualStiffness : α
  hilVirtualDamping : α
  hilQuadraticDrag : α
  hilWaveAmpNm : α
  hilWaveOmegaRadS : α
  hilTorqueClipNm : α
  hilFeedbackTimeoutS : α
  hilRampTimeS : α
  hilEngaged : Bool
  hilRampStartTime : α
  hydroTorqueClipNm : α
  hydroEngaged : Bool
  clipEngagedHistory : List Bool
  hydroAdapter : Option (SeaStackHydroAdapter κ α)
  hwPos : α
  hwVel : α
  hwStamp : Time
  hwReceived : Bool
  parameters : ParameterStore α

/-- What the node runs on. -/
structure FlapEnvironment (σ κ α : Type) where
  libm : Libm α
  chrono : Chrono σ α
  seaStack : SeaStack σ κ α

/-- A `JointState` message as the node publishes it. -/
structure PublishedJointState (α : Type) extends JointState α where
  effort : List α

/-- One tick: the node afterwards and what it publishes.  The load torque has a
publisher only in `hil` mode. -/
structure FlapTick (σ κ α : Type) where
  node : ChronoFlapNode σ κ α
  load : Option α
  hydro : HydroStepResult α
  clipEngagedPct : α
  simPosition : α
  simVelocity : α
  simAcceleration : α
  shadowTorque : α
  jointState : PublishedJointState α

inductive FlapEvent (α : Type) where
  | jointState (msg : JointState α)
  | effort (data : List α)
  | positionCommand (data : α)
  | velocityCommand (data : α)
  | engageHil (data : Bool)
  | enableHydro (data : Bool)
  | setParameters (batch : List (Parameter α))
  | tick

namespace ChronoFlapNode

variable {σ κ α : Type} [Double α]

/-! ## Construction -/

/-- The mode: `mode` when it is given and valid, `parallel` when it is given
and invalid, and otherwise what the legacy flag `sil_mode` says. -/
def resolveMode (modeParam : String) (silMode : Bool) : FlapMode :=
  if modeParam = "" then (if silMode then .sil else .parallel)
  else if modeParam = "sil" then .sil
  else if modeParam = "hil" then .hil
  else .parallel

/-- The double parameters and their defaults. -/
def doubleParameters : List (String × ℚ) :=
  [ ("rate_hz", 100), ("solver_rate_hz", 1000)
  , ("flap_length_m", 0.30), ("flap_width_m", 0.30), ("flap_mass_kg", 0.197)
  , ("joint_damping", 0), ("joint_stiffness", 0.312441)
  , ("bearing_friction", 0.01), ("coulomb_friction", 0)
  , ("shadow_position_setpoint", 0), ("shadow_amplitude_rad_s", 0), ("shadow_omega_rad_s", 0)
  , ("shadow_kp", 0.35), ("shadow_ki", 0.01), ("shadow_kd", 0)
  , ("shadow_kff", 0.40), ("shadow_kaff", 0.20)
  , ("shadow_torque_limit_nm", 0.40), ("shadow_integral_limit", 0), ("shadow_deadband_rad_s", 0)
  , ("shadow_kp_pos", 2), ("shadow_ki_pos", 0.01), ("shadow_kd_pos", 0.025)
  , ("shadow_pos_integral_limit", 1), ("shadow_pos_output_limit", 2)
  , ("shadow_outer_loop_divider", 1), ("shadow_filter_alpha", 0.90)
  , ("hil_constant_load_nm", 0.1), ("hil_virtual_stiffness", 0), ("hil_virtual_damping", 0)
  , ("hil_quadratic_drag", 0), ("hil_wave_amp_nm", 0), ("hil_wave_omega_rad_s", 0)
  , ("hil_torque_clip_nm", 0.3), ("hil_feedback_timeout_s", 0.1), ("hil_ramp_time_s", 1)
  , ("hydro_torque_clip_nm", 0.2), ("wave_hs_m", 0), ("wave_tp_s", 4) ]

def boolParameters : List (String × Bool) :=
  [ ("sil_mode", false), ("enable_visualization", false), ("use_shadow_pid", true)
  , ("shadow_sync_trajectory", true), ("hil_engaged_default", false)
  , ("hydro_engaged_default", false) ]

def integerParameters : List (String × ℤ) := [("wave_seed", 42), ("wave_n_components", 50)]

def stringParameters : List (String × String) :=
  [ ("mode", ""), ("joint_name", "motor_joint"), ("joint_state_topic", "/joint_states")
  , ("effort_topic", "/motor_effort_controller/commands")
  , ("shadow_control_mode", "position_only"), ("hil_load_topic", "~/load_torque")
  , ("seastack_h5_path", "") ]

/-- The declared parameters with their launch values. -/
def declared (l : Launch α) : ParameterStore α :=
  .declare
    ((doubleParameters.map fun p => (p.1, .double (l.getDouble p.1 (lit p.2)))) ++
      (boolParameters.map fun p => (p.1, .bool (l.getBool p.1 p.2))) ++
      (integerParameters.map fun p => (p.1, .integer (l.getInteger p.1 p.2))) ++
      stringParameters.map fun p => (p.1, .string (l.getString p.1 p.2)))

/-- `update_flap_inertia`: a plate hinged at its lower edge. -/
def flapBody (length width mass : α) : FlapBody α :=
  let iPivot := lit (1 / 3) * mass * length * length
  let iWidth := lit (1 / 12) * mass * width * width
  let iThin := lit 1e-6 * iPivot
  { mass := mass
    inertiaXX := ⟨iPivot, iWidth, iThin⟩
    pos := ⟨0, 0, length / lit 2⟩
    posDt := ⟨0, 0, 0⟩
    angVelParent := ⟨0, 0, 0⟩ }

/-- `read_shadow_params`: the public fields from the parameter store, then
`reset`. -/
def readShadowParams (store : ParameterStore α) (c : ShadowPidController α) :
    ShadowPidController α :=
  ShadowPidController.reset
    { c with
      controlMode :=
        (ControlMode.ofString (store.getString "shadow_control_mode")).getD .positionOnly
      positionSetpoint := store.getDouble "shadow_position_setpoint"
      amplitudeRadS := store.getDouble "shadow_amplitude_rad_s"
      omegaRadS := store.getDouble "shadow_omega_rad_s"
      kp := store.getDouble "shadow_kp"
      ki := store.getDouble "shadow_ki"
      kd := store.getDouble "shadow_kd"
      kff := store.getDouble "shadow_kff"
      kaff := store.getDouble "shadow_kaff"
      torqueLimitNm := store.getDouble "shadow_torque_limit_nm"
      integralLimit := store.getDouble "shadow_integral_limit"
      deadbandRadS := store.getDouble "shadow_deadband_rad_s"
      kpPos := store.getDouble "shadow_kp_pos"
      kiPos := store.getDouble "shadow_ki_pos"
      kdPos := store.getDouble "shadow_kd_pos"
      posIntegralLimit := store.getDouble "shadow_pos_integral_limit"
      posOutputLimit := store.getDouble "shadow_pos_output_limit"
      outerLoopDivider := store.getDouble "shadow_outer_loop_divider"
      filterAlpha := store.getDouble "shadow_filter_alpha" }

/-- The period of a rate, with a fallback for a rate that is not positive. -/
def periodOf (rateHz fallback : α) : α := if 0 < rateHz then lit 1 / rateHz else fallback

/-- `max(1, int(round(publish_dt / solver_dt)))`. -/
def substepsOf (m : Libm α) (publishDt solverDt : α) : ℤ :=
  max 1 (roundToInt m (publishDt / solverDt))

/-- What the constructor hands to the adapter, by way of members of type `int`. -/
def hydroParams (store : ParameterStore α) : SeaStackHydroParams α where
  h5Path := store.getString "seastack_h5_path"
  waveHsM := store.getDouble "wave_hs_m"
  waveTpS := store.getDouble "wave_tp_s"
  waveSeed := toInt32 (store.getInteger "wave_seed")
  waveNComponents := toInt32 (store.getInteger "wave_n_components")
  torqueClipNm := store.getDouble "hydro_torque_clip_nm"

/-- The adapter the constructor builds, and the engine with its accumulator:
none without a path, or where the adapter's own constructor throws. -/
def startHydro (env : FlapEnvironment σ κ α) (store : ParameterStore α) (sys : σ) :
    Option (SeaStackHydroAdapter κ α) × σ :=
  if store.getString "seastack_h5_path" = "" then (none, sys)
  else
    match SeaStackHydroAdapter.new env.chrono env.seaStack (hydroParams store) sys with
    | .ok built => (some built.1, built.2)
    | .error _ => (none, sys)

/-- The constructor. -/
def start (env : FlapEnvironment σ κ α) (l : Launch α) (now : Time) : ChronoFlapNode σ κ α :=
  let store := declared l
  let mode := resolveMode (store.getString "mode") (store.getBool "sil_mode")
  let publishDt := periodOf (store.getDouble "rate_hz") (lit 0.01)
  let solverDt := periodOf (store.getDouble "solver_rate_hz") (lit 0.001)
  let flapLength := store.getDouble "flap_length_m"
  let flapWidth := store.getDouble "flap_width_m"
  let flapMass := store.getDouble "flap_mass_kg"
  let hydro := startHydro env store (env.chrono.build (flapBody flapLength flapWidth flapMass))
  { mode := mode
    jointName := store.getString "joint_name"
    publishDt := publishDt
    solverDt := solverDt
    substeps := substepsOf env.libm publishDt solverDt
    flapLength := flapLength
    flapWidth := flapWidth
    flapMass := flapMass
    jointDamping := store.getDouble "joint_damping"
    jointStiffness := store.getDouble "joint_stiffness"
    bearingFriction := store.getDouble "bearing_friction"
    coulombFriction := store.getDouble "coulomb_friction"
    useShadowPid := store.getBool "use_shadow_pid" && mode != .hil
    shadowSyncTrajectory := store.getBool "shadow_sync_trajectory" && mode != .hil
    shadowExtPosRef := 0
    shadowExtVelRef := 0
    shadowPosRefReceived := false
    shadowVelRefReceived := false
    shadowPid := readShadowParams store .fresh
    latestTorque := 0
    simPosition := 0
    simVelocity := 0
    simAcceleration := 0
    startTime := now
    sys := hydro.2
    hilConstantLoadNm := store.getDouble "hil_constant_load_nm"
    hilVirtualStiffness := store.getDouble "hil_virtual_stiffness"
    hilVirtualDamping := store.getDouble "hil_virtual_damping"
    hilQuadraticDrag := store.getDouble "hil_quadratic_drag"
    hilWaveAmpNm := store.getDouble "hil_wave_amp_nm"
    hilWaveOmegaRadS := store.getDouble "hil_wave_omega_rad_s"
    hilTorqueClipNm := store.getDouble "hil_torque_clip_nm"
    hilFeedbackTimeoutS := store.getDouble "hil_feedback_timeout_s"
    hilRampTimeS := store.getDouble "hil_ramp_time_s"
    hilEngaged := store.getBool "hil_engaged_default"
    hilRampStartTime := seconds now
    hydroTorqueClipNm := store.getDouble "hydro_torque_clip_nm"
    hydroEngaged := store.getBool "hydro_engaged_default"
    clipEngagedHistory := []
    hydroAdapter := hydro.1
    hwPos := 0
    hwVel := 0
    hwStamp := 0
    hwReceived := false
    parameters := store }

/-! ## Parameter callbacks -/

def kImmutableParams : List String :=
  [ "rate_hz", "solver_rate_hz", "effort_topic", "sil_mode", "mode"
  , "joint_name", "joint_state_topic", "hil_load_topic", "seastack_h5_path"
  , "wave_hs_m", "wave_tp_s", "wave_seed", "wave_n_components", "hydro_engaged_default" ]

def flapGeometry : List String := ["flap_length_m", "flap_mass_kg", "flap_width_m"]

def jointDynamics : List String :=
  ["joint_damping", "joint_stiffness", "bearing_friction", "coulomb_friction"]

def kShadowPositive : List String :=
  [ "shadow_torque_limit_nm", "shadow_pos_integral_limit", "shadow_pos_output_limit"
  , "shadow_outer_loop_divider" ]

def kHilPositiveParams : List String :=
  ["hil_torque_clip_nm", "hil_feedback_timeout_s", "hydro_torque_clip_nm"]

def kHilNonNegativeParams : List String :=
  [ "hil_virtual_stiffness", "hil_virtual_damping", "hil_quadratic_drag", "hil_wave_amp_nm"
  , "hil_wave_omega_rad_s", "hil_ramp_time_s" ]

/-- One check of the loop of `on_validate_parameters`; `none` where it throws. -/
abbrev ParameterCheck (α : Type) := Parameter α → Option SetParametersResult

def checkImmutable : ParameterCheck α := fun p =>
  if p.name ∈ kImmutableParams then
    some (.failure ("Parameter '" ++ p.name ++ "' cannot be changed at runtime."))
  else some .success

def checkShadowControlMode : ParameterCheck α := fun p =>
  if p.name = "shadow_control_mode" then
    if ((p.value.asString.bind ControlMode.ofString)).isSome then some .success
    else some (.failure
      "shadow_control_mode must be 'cascade', 'velocity_only', or 'position_only'.")
  else some .success

/-- The listed parameters must be doubles that are not `bad`. -/
def checkDouble (names : List String) (bad : α → Bool) (reason : String) : ParameterCheck α :=
  fun p =>
    if p.name ∈ names then
      match p.value with
      | .double v => if bad v then some (.failure (p.name ++ reason)) else some .success
      | _ => some (.failure (p.name ++ reason))
    else some .success

def nonPositive (v : α) : Bool := decide (v ≤ 0)

def negative (v : α) : Bool := decide (v < 0)

def checkFlapGeometry : ParameterCheck α :=
  checkDouble flapGeometry nonPositive " must be a positive double."

def checkJointDynamics : ParameterCheck α :=
  checkDouble jointDynamics negative " must be non-negative."

def checkShadowPositive : ParameterCheck α :=
  checkDouble kShadowPositive nonPositive " must be positive."

/-- Unlike its siblings this check reads the value before it looks at the type. -/
def checkFilterAlpha : ParameterCheck α := fun p =>
  if p.name = "shadow_filter_alpha" then
    p.value.asDouble.map fun v =>
      if v < 0 ∨ lit 1 ≤ v then .failure "shadow_filter_alpha must be in [0.0, 1.0)."
      else .success
  else some .success

def checkHilPositive : ParameterCheck α :=
  checkDouble kHilPositiveParams nonPositive " must be positive."

def checkHilNonNegative : ParameterCheck α :=
  checkDouble kHilNonNegativeParams negative " must be non-negative."

/-- The body of the loop of `on_validate_parameters`. -/
def validateParameter (p : Parameter α) : Option SetParametersResult :=
  validateAll (fun check => check p)
    [ checkImmutable, checkShadowControlMode, checkFlapGeometry, checkJointDynamics
    , checkShadowPositive, checkFilterAlpha, checkHilPositive, checkHilNonNegative ]

def onValidateParameters (batch : List (Parameter α)) : Option SetParametersResult :=
  validateAll validateParameter batch

/-- The body of the loop of `on_apply_parameters`.  No name here begins with
`shadow_`, so the order of the source's `else if` chain does not matter. -/
def applyParameter (s : ChronoFlapNode σ κ α) (p : Parameter α) : ChronoFlapNode σ κ α :=
  { s with
    flapLength := (p.doubleNamed "flap_length_m").getD s.flapLength
    flapWidth := (p.doubleNamed "flap_width_m").getD s.flapWidth
    flapMass := (p.doubleNamed "flap_mass_kg").getD s.flapMass
    jointDamping := (p.doubleNamed "joint_damping").getD s.jointDamping
    jointStiffness := (p.doubleNamed "joint_stiffness").getD s.jointStiffness
    bearingFriction := (p.doubleNamed "bearing_friction").getD s.bearingFriction
    coulombFriction := (p.doubleNamed "coulomb_friction").getD s.coulombFriction
    useShadowPid := (p.boolNamed "use_shadow_pid").getD s.useShadowPid
    hilConstantLoadNm := (p.doubleNamed "hil_constant_load_nm").getD s.hilConstantLoadNm
    hilVirtualStiffness := (p.doubleNamed "hil_virtual_stiffness").getD s.hilVirtualStiffness
    hilVirtualDamping := (p.doubleNamed "hil_virtual_damping").getD s.hilVirtualDamping
    hilQuadraticDrag := (p.doubleNamed "hil_quadratic_drag").getD s.hilQuadraticDrag
    hilWaveAmpNm := (p.doubleNamed "hil_wave_amp_nm").getD s.hilWaveAmpNm
    hilWaveOmegaRadS := (p.doubleNamed "hil_wave_omega_rad_s").getD s.hilWaveOmegaRadS
    hilTorqueClipNm := (p.doubleNamed "hil_torque_clip_nm").getD s.hilTorqueClipNm
    hilFeedbackTimeoutS := (p.doubleNamed "hil_feedback_timeout_s").getD s.hilFeedbackTimeoutS
    hilRampTimeS := (p.doubleNamed "hil_ramp_time_s").getD s.hilRampTimeS
    hydroTorqueClipNm := (p.doubleNamed "hydro_torque_clip_nm").getD s.hydroTorqueClipNm
    hydroAdapter :=
      match p.doubleNamed "hydro_torque_clip_nm" with
      | some clip => s.hydroAdapter.map fun a => a.setTorqueClip clip
      | none => s.hydroAdapter }

/-- The batch changes the flap's body. -/
def bodyNeedsUpdate (batch : List (Parameter α)) : Bool :=
  batch.any fun p => decide (p.name ∈ flapGeometry)

/-- The batch changes a setting of the shadow controller. -/
def shadowPidChanged (batch : List (Parameter α)) : Bool :=
  batch.any fun p => p.name == "use_shadow_pid" || p.name.startsWith "shadow_"

/-- `update_flap_inertia`, when a batch changes the flap's body. -/
def refreshBody (ch : Chrono σ α) (s : ChronoFlapNode σ κ α) (changed : Bool) :
    ChronoFlapNode σ κ α :=
  if changed then
    { s with sys := ch.setFlap (flapBody s.flapLength s.flapWidth s.flapMass) s.sys }
  else s

/-- `read_shadow_params`, when a batch changes the shadow controller. -/
def refreshShadow (s : ChronoFlapNode σ κ α) (changed : Bool) : ChronoFlapNode σ κ α :=
  if changed then { s with shadowPid := readShadowParams s.parameters s.shadowPid } else s

def onApplyParameters (ch : Chrono σ α) (s : ChronoFlapNode σ κ α) (batch : List (Parameter α)) :
    ChronoFlapNode σ κ α :=
  ((run applyParameter s batch).refreshBody ch (bodyNeedsUpdate batch)).refreshShadow
    (shadowPidChanged batch)

/-- The batch would be applied. -/
def acceptsBatch (s : ChronoFlapNode σ κ α) (batch : List (Parameter α)) : Bool :=
  accepts s.parameters onValidateParameters batch

def setParameters (ch : Chrono σ α) (s : ChronoFlapNode σ κ α) (batch : List (Parameter α)) :
    ChronoFlapNode σ κ α :=
  if s.acceptsBatch batch then
    onApplyParameters ch { s with parameters := s.parameters.setAll batch } batch
  else s

/-! ## Message and service callbacks -/

/-- The subscription to `/joint_states`: the first entry of the joint's name,
with zero where its array is too short. -/
def jointStateCallback (s : ChronoFlapNode σ κ α) (msg : JointState α) :
    ChronoFlapNode σ κ α :=
  match msg.name.findIdx? (· = s.jointName) with
  | some i =>
      { s with
        hwPos := (msg.position[i]?).getD 0
        hwVel := (msg.velocity[i]?).getD 0
        hwStamp := msg.stamp
        hwReceived := true }
  | none => s

def effortCallback (s : ChronoFlapNode σ κ α) (data : List α) : ChronoFlapNode σ κ α :=
  match data with
  | [] => s
  | x :: _ => { s with latestTorque := x }

/-- The service `~/engage_hil`. -/
def engageService (s : ChronoFlapNode σ κ α) (now : Time) (data : Bool) :
    ChronoFlapNode σ κ α × SetBoolResponse :=
  ({ s with hilEngaged := data, hilRampStartTime := seconds now },
    ⟨true, if data then "HIL load torque ENGAGED" else "HIL load torque DISENGAGED"⟩)

/-- The service `~/enable_hydro`. -/
def enableHydroService (s : ChronoFlapNode σ κ α) (data : Bool) :
    ChronoFlapNode σ κ α × SetBoolResponse :=
  ({ s with hydroEngaged := data },
    ⟨true,
      if data then "SEA-Stack hydro torque ENGAGED" else "SEA-Stack hydro torque DISENGAGED"⟩)

/-! ## The tick in `hil` mode -/

/-- The watchdog: feedback was received and is not older than its timeout. -/
def feedbackOk (s : ChronoFlapNode σ κ α) (now : Time) : Bool :=
  s.hwReceived && !decide (s.hilFeedbackTimeoutS < seconds (now - s.hwStamp))

def computeLoadTorque (s : ChronoFlapNode σ κ α) (m : Libm α) (theta omega t : α) : α :=
  clamp
    (s.hilConstantLoadNm - s.hilVirtualStiffness * theta - s.hilVirtualDamping * omega -
      s.hilQuadraticDrag * omega * fabs omega +
      s.hilWaveAmpNm * m.sin (s.hilWaveOmegaRadS * t))
    (-s.hilTorqueClipNm) s.hilTorqueClipNm

/-- The engine with the flap where the hardware was measured. -/
def measuredSystem (s : ChronoFlapNode σ κ α) (ch : Chrono σ α) : σ :=
  ch.setAngVelParent ⟨0, s.hwVel, 0⟩ (ch.setRot s.hwPos ⟨0, lit 1, 0⟩ s.sys)

/-- The adapter's step at a tick, when there is an adapter and it is engaged. -/
def hydroStep (s : ChronoFlapNode σ κ α) (env : FlapEnvironment σ κ α) (sys : σ) (t : α) :
    Option (HydroStep σ κ α) :=
  match s.hydroAdapter with
  | some a => if s.hydroEngaged then some (a.step env.chrono env.seaStack sys t) else none
  | none => none

/-- The adapter's step on the measured state. -/
def measuredHydroStep (s : ChronoFlapNode σ κ α) (env : FlapEnvironment σ κ α) (now : Time) :
    Option (HydroStep σ κ α) :=
  s.hydroStep env (s.measuredSystem env.chrono) (seconds now - seconds s.startTime)

/-- The load torque before the ramp gate: SEA-Stack's, which replaces the
stub when it is engaged. -/
def ungatedLoad (s : ChronoFlapNode σ κ α) (env : FlapEnvironment σ κ α) (now : Time) : α :=
  match s.measuredHydroStep env now with
  | some h => h.result.torqueClipNm
  | none => s.computeLoadTorque env.libm s.hwPos s.hwVel (seconds now - seconds s.startTime)

/-- How far the ramp has come, as the node computes it. -/
def rampProgress (s : ChronoFlapNode σ κ α) (now : Time) : α :=
  clamp ((seconds now - s.hilRampStartTime) / s.hilRampTimeS) 0 (lit 1)

def rampGate (s : ChronoFlapNode σ κ α) (now : Time) (tau : α) : α :=
  if s.hilEngaged then
    if 0 < s.hilRampTimeS then tau * s.rampProgress now else tau
  else if 0 < s.hilRampTimeS then tau * (lit 1 - s.rampProgress now)
  else 0

/-- What the node publishes on its load topic. -/
def loadTorque (s : ChronoFlapNode σ κ α) (env : FlapEnvironment σ κ α) (now : Time) : α :=
  if s.feedbackOk now then s.rampGate now (s.ungatedLoad env now) else 0

/-- Adapter and engine after an adapter step that took place. -/
def afterHydro (s : ChronoFlapNode σ κ α) (h : Option (HydroStep σ κ α)) :
    ChronoFlapNode σ κ α :=
  match h with
  | some h => { s with hydroAdapter := some h.adapter, sys := h.sys }
  | none => s

def resultOf (h : Option (HydroStep σ κ α)) : HydroStepResult α :=
  match h with
  | some h => h.result
  | none => .unset

/-- The rolling record of the last 100 ticks. -/
def recordClip (s : ChronoFlapNode σ κ α) (wasClipped : Bool) : ChronoFlapNode σ κ α :=
  let history := s.clipEngagedHistory ++ [wasClipped]
  { s with clipEngagedHistory := if 100 < history.length then history.tail else history }

def clipEngagedPct (s : ChronoFlapNode σ κ α) : α :=
  lit 100 * lit (s.clipEngagedHistory.count true) / lit (max 1 s.clipEngagedHistory.length)

/-- The joint state with the simulated position and velocity. -/
def publishedJointState (s : ChronoFlapNode σ κ α) (now : Time) (effort : α) :
    PublishedJointState α :=
  ⟨⟨now, [s.jointName], [s.simPosition], [s.simVelocity]⟩, [effort]⟩

/-- What a tick publishes besides the load torque. -/
def publish (s : ChronoFlapNode σ κ α) (now : Time) (load : Option α) (hydro : HydroStepResult α)
    (shadowTorque effort : α) : FlapTick σ κ α where
  node := s
  load := load
  hydro := hydro
  clipEngagedPct := s.clipEngagedPct
  simPosition := s.simPosition
  simVelocity := s.simVelocity
  simAcceleration := s.simAcceleration
  shadowTorque := shadowTorque
  jointState := s.publishedJointState now effort

/-- The simulated state follows the hardware. -/
def followHardware (s : ChronoFlapNode σ κ α) : ChronoFlapNode σ κ α :=
  let simVelocity := if s.hwReceived then s.hwVel else s.simVelocity
  { s with
    simPosition := if s.hwReceived then s.hwPos else s.simPosition
    simVelocity := simVelocity
    simAcceleration := (simVelocity - s.simVelocity) / s.publishDt }

def hilTick (s : ChronoFlapNode σ κ α) (env : FlapEnvironment σ κ α) (now : Time) :
    FlapTick σ κ α :=
  let h := if s.feedbackOk now then s.measuredHydroStep env now else none
  ((s.afterHydro h).recordClip (resultOf h).wasClipped).followHardware.publish now
    (some (s.loadTorque env now)) (resultOf h) 0 0

/-! ## The tick in `sil` and `parallel` mode -/

/-- The shadow controller's tick: on the synchronised references once both
have arrived, held at zero before that, or on its own trajectory. -/
def shadowStep (s : ChronoFlapNode σ κ α) (m : Libm α) (now : Time) : ShadowStep α :=
  if s.shadowSyncTrajectory then
    if s.shadowPosRefReceived ∧ s.shadowVelRefReceived then
      s.shadowPid.computeExternal m s.simPosition s.simVelocity s.shadowExtPosRef
        s.shadowExtVelRef s.publishDt
    else s.shadowPid.computeExternal m s.simPosition s.simVelocity 0 0 s.publishDt
  else
    s.shadowPid.compute m s.simPosition s.simVelocity (seconds (now - s.startTime)) s.publishDt

/-- Coulomb friction acts against the motion. -/
def coulomb (s : ChronoFlapNode σ κ α) (omega : α) : α :=
  s.coulombFriction * (if 0 < omega then lit 1 else if omega < 0 then -lit 1 else 0)

def totalTorque (s : ChronoFlapNode σ κ α) (torqueCmd angle omega : α) : α :=
  torqueCmd - (s.jointDamping + s.bearingFriction) * omega - s.coulomb omega -
    s.jointStiffness * angle

/-- The body of the sub-step loop. -/
def substep (s : ChronoFlapNode σ κ α) (ch : Chrono σ α) (torqueCmd : α) (sys : σ) : σ :=
  let torque := s.totalTorque torqueCmd (ch.getMotorAngle sys) (ch.getMotorAngleDt sys)
  ch.doStepDynamics s.solverDt (ch.setSetpoint torque (ch.getChTime sys) sys)

/-- The simulated state follows the engine. -/
def followEngine (s : ChronoFlapNode σ κ α) (ch : Chrono σ α) (sys : σ) :
    ChronoFlapNode σ κ α :=
  let simVelocity := ch.getMotorAngleDt sys
  { s with
    sys := sys
    simPosition := ch.getMotorAngle sys
    simVelocity := simVelocity
    simAcceleration := (simVelocity - s.simVelocity) / s.publishDt }

/-- The node after the shadow controller's tick, if it takes part. -/
def afterShadow (s : ChronoFlapNode σ κ α) (shadow : ShadowStep α) : ChronoFlapNode σ κ α :=
  if s.useShadowPid then { s with shadowPid := shadow.shadow } else s

/-- `torque_cmd`: the shadow controller's torque, or the effort command. -/
def torqueCmd (s : ChronoFlapNode σ κ α) (shadow : ShadowStep α) : α :=
  if s.useShadowPid then shadow.torque else s.latestTorque

def simTick (s : ChronoFlapNode σ κ α) (env : FlapEnvironment σ κ α) (now : Time) :
    FlapTick σ κ α :=
  let shadow := s.shadowStep env.libm now
  let h := s.hydroStep env s.sys (seconds (now - s.startTime))
  let s' := ((s.afterShadow shadow).afterHydro h).recordClip (resultOf h).wasClipped
  let sys := (s'.substep env.chrono (s.torqueCmd shadow))^[s'.substeps.toNat] s'.sys
  (s'.followEngine env.chrono sys).publish now none (resultOf h)
    (if s.useShadowPid then shadow.torque else 0) (if s.mode = .sil then s.latestTorque else 0)

/-- The body of the loop of `run`. -/
def tick (s : ChronoFlapNode σ κ α) (env : FlapEnvironment σ κ α) (now : Time) :
    FlapTick σ κ α :=
  if s.mode = .hil then s.hilTick env now else s.simTick env now

/-! ## Callbacks -/

/-- One callback, or one tick. -/
def step (env : FlapEnvironment σ κ α) (s : ChronoFlapNode σ κ α) (e : Timed (FlapEvent α)) :
    ChronoFlapNode σ κ α :=
  match e.event with
  | .jointState msg => if s.mode = .hil then s.jointStateCallback msg else s
  | .effort data => if s.mode = .hil then s else s.effortCallback data
  | .positionCommand data =>
      if s.shadowSyncTrajectory then
        { s with shadowExtPosRef := data, shadowPosRefReceived := true }
      else s
  | .velocityCommand data =>
      if s.shadowSyncTrajectory then
        { s with shadowExtVelRef := data, shadowVelRefReceived := true }
      else s
  | .engageHil data => if s.mode = .hil then (s.engageService e.time data).1 else s
  | .enableHydro data => (s.enableHydroService data).1
  | .setParameters batch => s.setParameters env.chrono batch
  | .tick => (s.tick env e.time).node

end ChronoFlapNode

/-- An engine on which nothing has an effect. -/
def Chrono.still {σ α : Type} [Double α] (sys : σ) : Chrono σ α where
  build _ := sys
  setFlap _ sys := sys
  setRot _ _ sys := sys
  setAngVelParent _ sys := sys
  getPos _ := ⟨0, 0, 0⟩
  getMotorAngle _ := 0
  getMotorAngleDt _ := 0
  getChTime _ := 0
  setSetpoint _ _ sys := sys
  doStepDynamics _ sys := sys
  addAccumulator sys := (0, sys)
  emptyAccumulator _ sys := sys
  accumulateTorque _ _ sys := sys

/-- An engine with nothing in it, and no hydrodynamics. -/
def FlapEnvironment.bare {α : Type} [Double α] : FlapEnvironment Unit Empty α where
  libm := ⟨id, fun _ => lit 1, fun _ => 0⟩
  chrono :=
    { build := fun _ => ()
      setFlap := fun _ _ => ()
      setRot := fun _ _ _ => ()
      setAngVelParent := fun _ _ => ()
      getPos := fun _ => ⟨0, 0, 0⟩
      getMotorAngle := fun _ => 0
      getMotorAngleDt := fun _ => 0
      getChTime := fun _ => 0
      setSetpoint := fun _ _ _ => ()
      doStepDynamics := fun _ _ => ()
      addAccumulator := fun _ => (0, ())
      emptyAccumulator := fun _ _ => ()
      accumulateTorque := fun _ _ _ => () }
  seaStack :=
    { fileExists := fun _ => false
      build := fun _ _ => .error ""
      evaluate := fun coupler => nomatch coupler
      getElevation := fun coupler => nomatch coupler }

end MarineHil.Ports
