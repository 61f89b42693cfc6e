import MarineHil.Ports.RosNode

/-!
# Project Chrono, SEA-Stack, and the adapter between them

The rigid-body engine and the hydrodynamics are third-party code.  Here they
are the operations the node calls, over a type `σ` of engine states and a type
`κ` of hydrodynamic models.  The adapter of `sea_stack_hydro.cpp`, which clips
the moment SEA-Stack returns and hands it to the engine, is the repository's
own.
-/

namespace MarineHil.Ports

open MarineHil.Verified

/-! ## Project Chrono -/

structure ChVector3d (α : Type) where
  x : α
  y : α
  z : α

/-- What `update_flap_inertia` sets on the flap. -/
structure FlapBody (α : Type) where
  mass : α
  inertiaXX : ChVector3d α
  pos : ChVector3d α
  posDt : ChVector3d α
  angVelParent : ChVector3d α

/-- The engine: a system with one flap on a torque motor about the Y axis. -/
structure Chrono (σ α : Type) where
  /-- The system of `build_chrono_system`. -/
  build : FlapBody α → σ
  setFlap : FlapBody α → σ → σ
  /-- `SetRot(QuatFromAngleAxis(angle, axis))` on the flap. -/
  setRot : α → ChVector3d α → σ → σ
  setAngVelParent : ChVector3d α → σ → σ
  getPos : σ → ChVector3d α
  getMotorAngle : σ → α
  getMotorAngleDt : σ → α
  getChTime : σ → α
  /-- `SetSetpoint(torque, time)` on the motor's torque function. -/
  setSetpoint : α → α → σ → σ
  doStepDynamics : α → σ → σ
  addAccumulator : σ → ℕ × σ
  emptyAccumulator : ℕ → σ → σ
  accumulateTorque : ℕ → ChVector3d α → σ → σ

/-! ## SEA-Stack -/

structure SeaStackHydroParams (α : Type) where
  h5Path : String
  waveHsM : α
  waveTpS : α
  waveSeed : ℤ
  waveNComponents : ℤ
  torqueClipNm : α

/-- The irregular sea of one JONSWAP partition. -/
structure SeaStateDefinition (α : Type) where
  nOmega : ℤ
  seed : ℤ
  hs : α
  tp : α
  gamma : α

/-- The hydrodynamics.  `build` reads the file and binds the model to the
bodies, in calm water without a sea state, and may throw. -/
structure SeaStack (σ κ α : Type) where
  fileExists : String → Bool
  build : String → Option (SeaStateDefinition α) → Except String κ
  /-- The moments on the bodies at a time, the flap first. -/
  evaluate : κ → σ → α → List (ChVector3d α) × κ
  getElevation : κ → ChVector3d α → α → α

/-! ## The adapter -/

structure HydroStepResult (α : Type) where
  torqueRawNm : α
  torqueClipNm : α
  waveEtaM : α
  wasClipped : Bool

structure SeaStackHydroAdapter (κ α : Type) where
  coupler : κ
  hydroAccumIdx : ℕ
  torqueClipNm : α

/-- One call of `step`: the adapter and the engine afterwards, and the result. -/
structure HydroStep (σ κ α : Type) where
  adapter : SeaStackHydroAdapter κ α
  sys : σ
  result : HydroStepResult α

section Adapter

variable {σ κ α : Type} [Double α]

/-- The result before anything is computed. -/
def HydroStepResult.unset : HydroStepResult α := ⟨0, 0, 0, false⟩

/-- The waves the constructor asks for: none without wave height. -/
def SeaStackHydroParams.seaState (p : SeaStackHydroParams α) : Option (SeaStateDefinition α) :=
  if 0 < p.waveHsM then
    some
      { nOmega := max 1 p.waveNComponents
        seed := p.waveSeed
        hs := p.waveHsM
        tp := p.waveTpS
        gamma := lit 3.3 }
  else none

namespace SeaStackHydroAdapter

/-- The constructor, with the texts of what it throws. -/
def new (ch : Chrono σ α) (ss : SeaStack σ κ α) (p : SeaStackHydroParams α) (sys : σ) :
    Except String (SeaStackHydroAdapter κ α × σ) :=
  if p.h5Path = "" then
    .error "SEA-Stack hydro init failed: parameter 'seastack_h5_path' is empty."
  else if ss.fileExists p.h5Path then
    (ss.build p.h5Path p.seaState).map fun coupler =>
      let accum := ch.addAccumulator sys
      (⟨coupler, accum.1, p.torqueClipNm⟩, accum.2)
  else
    .error ("SEA-Stack hydro init failed: H5 file not found: '" ++ p.h5Path ++ "'.")

/-- Evaluate, clip, and re-apply the clipped torque about the pivot axis. -/
def step (a : SeaStackHydroAdapter κ α) (ch : Chrono σ α) (ss : SeaStack σ κ α) (sys : σ)
    (simTime : α) : HydroStep σ κ α :=
  let bodyForces := ss.evaluate a.coupler sys simTime
  let raw :=
    match bodyForces.1 with
    | [] => 0
    | moment :: _ => moment.y
  let clipped := clamp raw (-a.torqueClipNm) a.torqueClipNm
  let sys := ch.accumulateTorque a.hydroAccumIdx ⟨0, clipped, 0⟩
    (ch.emptyAccumulator a.hydroAccumIdx sys)
  { adapter := { a with coupler := bodyForces.2 }
    sys := sys
    result :=
      { torqueRawNm := raw
        torqueClipNm := clipped
        waveEtaM := ss.getElevation bodyForces.2 (ch.getPos sys) simTime
        wasClipped := raw != clipped } }

/-- `set_torque_clip`, which keeps the clip from becoming zero. -/
def setTorqueClip (a : SeaStackHydroAdapter κ α) (clipNm : α) : SeaStackHydroAdapter κ α :=
  { a with torqueClipNm := if lit 1e-9 < clipNm then clipNm else lit 1e-9 }

end SeaStackHydroAdapter

end Adapter

end MarineHil.Ports
