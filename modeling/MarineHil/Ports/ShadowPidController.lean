import MarineHil.Ports.PidController

/-!
# `ShadowPidController`

The closed-loop controller of `shadow_pid_controller.hpp`: its public settings,
its private state, and the two overloads of `compute`, with the internal
trajectory and with external references.
-/

namespace MarineHil.Ports

open MarineHil.Verified

/-- The three values `is_valid_control_mode` admits. -/
inductive ControlMode where
  | velocityOnly
  | cascade
  | positionOnly
  deriving DecidableEq

/-- `is_valid_control_mode`, with the mode it recognises. -/
def ControlMode.ofString (mode : String) : Option ControlMode :=
  if mode = "velocity_only" then some .velocityOnly
  else if mode = "cascade" then some .cascade
  else if mode = "position_only" then some .positionOnly
  else none

/-- The reference a trajectory gives at one instant. -/
structure TrajectoryRef (α : Type) where
  pos : α
  vel : α
  accel : α

structure ShadowPidController (α : Type) where
  controlMode : ControlMode
  positionSetpoint : α
  amplitudeRadS : α
  omegaRadS : α
  kp : α
  ki : α
  kd : α
  kff : α
  kaff : α
  torqueLimitNm : α
  integralLimit : α
  deadbandRadS : α
  kpPos : α
  kiPos : α
  kdPos : α
  posIntegralLimit : α
  posOutputLimit : α
  outerLoopDivider : α
  filterAlpha : α
  velPid : PidController α
  posPid : PidController α
  filteredVel : α
  filterInitialized : Bool
  outerLoopCounter : ℤ
  outerDtAccum : α
  vCmd : α

/-- One call of `compute`: the controller afterwards, the returned torque, and
the bounds of the clamps it executed. -/
structure ShadowStep (α : Type) where
  shadow : ShadowPidController α
  torque : α
  clamps : List (α × α)

namespace ShadowPidController

variable {α : Type} [Double α]

/-- A controller as its member initialisers leave it. -/
def fresh : ShadowPidController α where
  controlMode := .positionOnly
  positionSetpoint := 0
  amplitudeRadS := 0
  omegaRadS := 0
  kp := lit 0.35
  ki := lit 0.01
  kd := 0
  kff := lit 0.40
  kaff := lit 0.20
  torqueLimitNm := lit 0.40
  integralLimit := 0
  deadbandRadS := 0
  kpPos := lit 2
  kiPos := lit 0.01
  kdPos := lit 0.025
  posIntegralLimit := lit 1
  posOutputLimit := lit 2
  outerLoopDivider := lit 1
  filterAlpha := lit 0.90
  velPid := .fresh
  posPid := .fresh
  filteredVel := 0
  filterInitialized := false
  outerLoopCounter := 0
  outerDtAccum := 0
  vCmd := 0

def reset (c : ShadowPidController α) : ShadowPidController α :=
  { c with
    velPid := c.velPid.reset
    posPid := c.posPid.reset
    filteredVel := 0
    filterInitialized := false
    outerLoopCounter := 0
    outerDtAccum := 0
    vCmd := 0 }

/-- Sync the PID controllers from the public fields. -/
def applyGains (c : ShadowPidController α) : ShadowPidController α :=
  { c with
    velPid :=
      { c.velPid with
        kp := c.kp
        ki := c.ki
        kd := c.kd
        integralLimit := c.integralLimit
        deadband := c.deadbandRadS }
    posPid :=
      { c.posPid with
        kp := c.kpPos
        ki := c.kiPos
        kd := c.kdPos
        integralLimit := c.posIntegralLimit } }

/-- The velocity filter at the head of `compute`. -/
def filterVelocity (c : ShadowPidController α) (simVelocity : α) : ShadowPidController α :=
  if c.filterInitialized then
    { c with filteredVel := c.filterAlpha * c.filteredVel + (lit 1 - c.filterAlpha) * simVelocity }
  else { c with filteredVel := simVelocity, filterInitialized := true }

/-- The internal trajectory. -/
def trajectory (c : ShadowPidController α) (m : Libm α) (t : α) : TrajectoryRef α :=
  if lit 1e-9 < fabs c.omegaRadS then
    { pos :=
        if c.controlMode = .velocityOnly then c.positionSetpoint
        else c.positionSetpoint +
          (c.amplitudeRadS / c.omegaRadS) * (lit 1 - m.cos (c.omegaRadS * t))
      vel := c.amplitudeRadS * m.sin (c.omegaRadS * t)
      accel := c.amplitudeRadS * c.omegaRadS * m.cos (c.omegaRadS * t) }
  else { pos := c.positionSetpoint, vel := 0, accel := 0 }

/-- Velocity PID and feedforward, clamped. -/
def runInnerLoop (c : ShadowPidController α) (velSetpoint accelFf dt : α) : ShadowStep α :=
  let r := c.velPid.compute velSetpoint c.filteredVel dt
  let ff := if 0 < c.kp then c.kff * velSetpoint + c.kaff * accelFf else 0
  let torque := clamp (r.output + ff) (-c.torqueLimitNm) c.torqueLimitNm
  { shadow :=
      { c with velPid := { r.pid with saturated := decide (c.torqueLimitNm ≤ fabs torque) } }
    torque := torque
    clamps := r.clamps ++ [(-c.torqueLimitNm, c.torqueLimitNm)] }

/-- Position PID into `v_cmd_`, rate-divided: the controller afterwards and the
clamps executed. -/
def runOuterLoop (c : ShadowPidController α) (m : Libm α) (posRef velFf simPosition dt : α) :
    ShadowPidController α × List (α × α) :=
  let dtAccum := c.outerDtAccum + dt
  let counter := c.outerLoopCounter + 1
  if toInt32 (llround m c.outerLoopDivider) ≤ counter then
    let r := c.posPid.compute posRef simPosition dtAccum
    let vCmd := clamp (r.output + velFf) (-c.posOutputLimit) c.posOutputLimit
    ({ c with
        outerLoopCounter := 0
        posPid := { r.pid with saturated := decide (c.posOutputLimit ≤ fabs vCmd) }
        vCmd := vCmd
        outerDtAccum := 0 },
      r.clamps ++ [(-c.posOutputLimit, c.posOutputLimit)])
  else ({ c with outerLoopCounter := counter, outerDtAccum := dtAccum }, [])

/-- The position PID driving the torque directly. -/
def runPositionLoop (c : ShadowPidController α) (posRef simPosition dt : α) : ShadowStep α :=
  let r := c.posPid.compute posRef simPosition dt
  let torque := clamp r.output (-c.torqueLimitNm) c.torqueLimitNm
  { shadow :=
      { c with
        posPid := { r.pid with saturated := decide (c.torqueLimitNm ≤ fabs torque) }
        vCmd := 0 }
    torque := torque
    clamps := r.clamps ++ [(-c.torqueLimitNm, c.torqueLimitNm)] }

/-- The mode dispatch of both overloads, on a reference. -/
def dispatch (c : ShadowPidController α) (m : Libm α) (simPosition : α) (ref : TrajectoryRef α)
    (dt : α) : ShadowStep α :=
  match c.controlMode with
  | .cascade =>
      let o := c.runOuterLoop m ref.pos ref.vel simPosition dt
      let r := o.1.runInnerLoop o.1.vCmd ref.accel dt
      { r with clamps := o.2 ++ r.clamps }
  | .positionOnly => c.runPositionLoop ref.pos simPosition dt
  | .velocityOnly => { c with vCmd := ref.vel }.runInnerLoop ref.vel ref.accel dt

/-- `compute(sim_position, sim_velocity, t, dt)`: one tick on the internal
trajectory. -/
def compute (c : ShadowPidController α) (m : Libm α) (simPosition simVelocity t dt : α) :
    ShadowStep α :=
  let c := c.applyGains.filterVelocity simVelocity
  c.dispatch m simPosition (c.trajectory m t) dt

/-- `compute(sim_position, sim_velocity, pos_ref, vel_ref, dt)`: one tick on
external references, without acceleration feedforward. -/
def computeExternal (c : ShadowPidController α) (m : Libm α)
    (simPosition simVelocity posRef velRef dt : α) : ShadowStep α :=
  (c.applyGains.filterVelocity simVelocity).dispatch m simPosition ⟨posRef, velRef, 0⟩ dt

section Dispatch

variable {c : ShadowPidController α} (m : Libm α) (simPosition : α) (ref : TrajectoryRef α)
  (dt : α)

theorem dispatch_cascade (h : c.controlMode = .cascade) :
    c.dispatch m simPosition ref dt =
      let o := c.runOuterLoop m ref.pos ref.vel simPosition dt
      let r := o.1.runInnerLoop o.1.vCmd ref.accel dt
      { r with clamps := o.2 ++ r.clamps } := by
  unfold dispatch
  rw [h]

theorem dispatch_positionOnly (h : c.controlMode = .positionOnly) :
    c.dispatch m simPosition ref dt = c.runPositionLoop ref.pos simPosition dt := by
  unfold dispatch
  rw [h]

theorem dispatch_velocityOnly (h : c.controlMode = .velocityOnly) :
    c.dispatch m simPosition ref dt =
      { c with vCmd := ref.vel }.runInnerLoop ref.vel ref.accel dt := by
  unfold dispatch
  rw [h]

end Dispatch

end ShadowPidController

end MarineHil.Ports
