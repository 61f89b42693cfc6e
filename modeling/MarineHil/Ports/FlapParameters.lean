import MarineHil.Ports.ChronoFlapHistory
import MarineHil.Verified.Extended

/-!
# The parameters of `ChronoFlapNode`, over whole runs

A callback either is an accepted batch or leaves everything that parameters feed
alone.  `settings` is that part of the node, and a run projects to it
(`step_settings`).  The double parameters with a member of their own are the
constructors of `FlapMember`, so that what holds of one holds of all: the member
has the value of the parameter store, and this is the last value accepted.

## Main results

* `step_settings`: the projection is a simulation.
* `run_settings_frame`: a setting that no batch touches never changes.
* `run_member`: every member holds the last accepted value of its parameter.
* `run_getDouble`: the parameter store holds the same.
* `run_shadowStored`: the shadow controller has the settings the store gives.
* `run_shadowMember`: each of them holds the last accepted value of its parameter.
* `doubleInForce_pos`, `doubleInForce_nonneg`: what the checks keep, and that NaN passes them.
* `run_adapterClip_pos`: the clip of the adapter, which NaN does not reach.
-/

namespace MarineHil.Ports

open MarineHil.Verified

/-! ## The part of the node that parameters feed -/

namespace ShadowPidController

variable {α : Type} [Double α]

/-- The public fields, with the private state as initialised. -/
def publicFields (c : ShadowPidController α) : ShadowPidController α :=
  { c with
    velPid := .fresh
    posPid := .fresh
    filteredVel := 0
    filterInitialized := false
    outerLoopCounter := 0
    outerDtAccum := 0
    vCmd := 0 }

theorem applyGains_publicFields (c : ShadowPidController α) :
    c.applyGains.publicFields = c.publicFields := rfl

theorem filterVelocity_publicFields (c : ShadowPidController α) (simVelocity : α) :
    (c.filterVelocity simVelocity).publicFields = c.publicFields := by
  unfold filterVelocity
  split
  · rfl
  · rfl

theorem runOuterLoop_publicFields (c : ShadowPidController α) (m : Libm α)
    (posRef velFf simPosition dt : α) :
    (c.runOuterLoop m posRef velFf simPosition dt).1.publicFields = c.publicFields := by
  unfold runOuterLoop
  dsimp only
  split
  · rfl
  · rfl

/-- No call of either overload writes a public field. -/
theorem dispatch_publicFields (c : ShadowPidController α) (m : Libm α) (simPosition : α)
    (ref : TrajectoryRef α) (dt : α) :
    (c.dispatch m simPosition ref dt).shadow.publicFields = c.publicFields := by
  cases hmode : c.controlMode with
  | cascade =>
      rw [dispatch_cascade m simPosition ref dt hmode]
      exact c.runOuterLoop_publicFields m ref.pos ref.vel simPosition dt
  | positionOnly =>
      rw [dispatch_positionOnly m simPosition ref dt hmode]
      rfl
  | velocityOnly =>
      rw [dispatch_velocityOnly m simPosition ref dt hmode]
      rfl

end ShadowPidController

namespace ChronoFlapNode

variable {σ κ α : Type} [Double α]

/-- The settings: what the constructor and the batches write, with everything else
as initialised. -/
def settings (s : ChronoFlapNode σ κ α) : ChronoFlapNode Unit Unit α :=
  { s with
    shadowExtPosRef := 0
    shadowExtVelRef := 0
    shadowPosRefReceived := false
    shadowVelRefReceived := false
    shadowPid := s.shadowPid.publicFields
    latestTorque := 0
    simPosition := 0
    simVelocity := 0
    simAcceleration := 0
    sys := ()
    hilEngaged := false
    hilRampStartTime := 0
    hydroEngaged := false
    clipEngagedHistory := []
    hydroAdapter := s.hydroAdapter.map fun a => ⟨(), 0, a.torqueClipNm⟩
    hwPos := 0
    hwVel := 0
    hwStamp := 0
    hwReceived := false }

section Frame

variable (s : ChronoFlapNode σ κ α)

theorem shadowStep_publicFields (m : Libm α) (now : Time) :
    (s.shadowStep m now).shadow.publicFields = s.shadowPid.publicFields := by
  have hcompute (p v t dt : α) :
      (s.shadowPid.compute m p v t dt).shadow.publicFields = s.shadowPid.publicFields := by
    unfold ShadowPidController.compute
    dsimp only
    rw [ShadowPidController.dispatch_publicFields, ShadowPidController.filterVelocity_publicFields,
      ShadowPidController.applyGains_publicFields]
  have hexternal (p v posRef velRef dt : α) :
      (s.shadowPid.computeExternal m p v posRef velRef dt).shadow.publicFields =
        s.shadowPid.publicFields := by
    unfold ShadowPidController.computeExternal
    rw [ShadowPidController.dispatch_publicFields, ShadowPidController.filterVelocity_publicFields,
      ShadowPidController.applyGains_publicFields]
  unfold shadowStep
  split
  · split
    · exact hexternal _ _ _ _ _
    · exact hexternal _ _ _ _ _
  · exact hcompute _ _ _ _

theorem afterShadow_settings (m : Libm α) (now : Time) :
    (s.afterShadow (s.shadowStep m now)).settings = s.settings := by
  unfold afterShadow
  split
  · unfold settings
    dsimp only
    rw [shadowStep_publicFields]
  · rfl

/-- The adapter's step writes neither its clip nor any other setting. -/
theorem afterHydro_settings (env : FlapEnvironment σ κ α) (t : ChronoFlapNode σ κ α)
    (hadapter : t.hydroAdapter = s.hydroAdapter) (sys : σ) (time : α) :
    (t.afterHydro (s.hydroStep env sys time)).settings = t.settings := by
  unfold hydroStep
  cases ha : s.hydroAdapter with
  | none => rfl
  | some a =>
      dsimp only
      split
      · unfold afterHydro settings
        dsimp only
        rw [hadapter, ha]
        rfl
      · rfl

theorem recordClip_settings (wasClipped : Bool) :
    (s.recordClip wasClipped).settings = s.settings := rfl

theorem followHardware_settings : s.followHardware.settings = s.settings := rfl

theorem followEngine_settings (ch : Chrono σ α) (sys : σ) :
    (s.followEngine ch sys).settings = s.settings := rfl

theorem tick_settings (env : FlapEnvironment σ κ α) (now : Time) :
    (s.tick env now).node.settings = s.settings := by
  unfold tick
  by_cases hmode : s.mode = .hil
  · rw [if_pos hmode, hilTick, publish_node, followHardware_settings, recordClip_settings]
    split
    · exact s.afterHydro_settings env s rfl _ _
    · rfl
  · have hadapter : (s.afterShadow (s.shadowStep env.libm now)).hydroAdapter =
        s.hydroAdapter := by
      unfold afterShadow
      split
      · rfl
      · rfl
    rw [if_neg hmode, simTick, publish_node, followEngine_settings, recordClip_settings,
      s.afterHydro_settings env _ hadapter, afterShadow_settings]

theorem jointStateCallback_settings (msg : JointState α) :
    (s.jointStateCallback msg).settings = s.settings := by
  unfold jointStateCallback
  split
  · rfl
  · rfl

theorem effortCallback_settings (data : List α) :
    (s.effortCallback data).settings = s.settings := by
  cases data with
  | nil => rfl
  | cons x data => rfl

end Frame

/-! ## Batches -/

section Batch

variable (s : ChronoFlapNode σ κ α)

theorem applyParameter_settings (p : Parameter α) :
    (s.applyParameter p).settings = s.settings.applyParameter p := by
  unfold settings applyParameter
  cases p.doubleNamed "hydro_torque_clip_nm" with
  | none => rfl
  | some clip => cases s.hydroAdapter <;> rfl

theorem run_applyParameter_settings (batch : List (Parameter α)) :
    (run applyParameter s batch).settings = run applyParameter s.settings batch := by
  induction batch generalizing s with
  | nil => rfl
  | cons p batch ih =>
      rw [run_cons, run_cons, ih, applyParameter_settings]

theorem setParameters_settings (ch : Chrono σ α) (batch : List (Parameter α)) :
    (s.setParameters ch batch).settings =
      s.settings.setParameters FlapEnvironment.bare.chrono batch := by
  have hbody (t : ChronoFlapNode σ κ α) (changed : Bool) :
      (t.refreshBody ch changed).settings =
        t.settings.refreshBody FlapEnvironment.bare.chrono changed := by
    cases changed with
    | false => rfl
    | true => rfl
  have hshadow (t : ChronoFlapNode σ κ α) (changed : Bool) :
      (t.refreshShadow changed).settings = t.settings.refreshShadow changed := by
    cases changed with
    | false => rfl
    | true => rfl
  unfold setParameters
  by_cases haccepts : s.acceptsBatch batch = true
  · have hsettings : s.settings.acceptsBatch batch = true := haccepts
    rw [if_pos haccepts, if_pos hsettings, onApplyParameters, onApplyParameters, hshadow, hbody,
      run_applyParameter_settings]
    rfl
  · have hsettings : ¬s.settings.acceptsBatch batch = true := haccepts
    rw [if_neg haccepts, if_neg hsettings]

/-- **Only a batch changes a setting**, and it does so without regard to the rest
of the node. -/
theorem step_settings (env : FlapEnvironment σ κ α) (e : Timed (FlapEvent α)) :
    (s.step env e).settings =
      match e.event with
      | .setParameters batch => s.settings.setParameters FlapEnvironment.bare.chrono batch
      | _ => s.settings := by
  obtain ⟨time, event⟩ := e
  cases event with
  | setParameters batch => exact s.setParameters_settings env.chrono batch
  | tick => exact s.tick_settings env time
  | jointState msg =>
      show (if s.mode = .hil then s.jointStateCallback msg else s).settings = s.settings
      split
      · exact s.jointStateCallback_settings msg
      · rfl
  | effort data =>
      show (if s.mode = .hil then s else s.effortCallback data).settings = s.settings
      split
      · rfl
      · exact s.effortCallback_settings data
  | positionCommand data =>
      show (if s.shadowSyncTrajectory then _ else s).settings = s.settings
      split
      · rfl
      · rfl
  | velocityCommand data =>
      show (if s.shadowSyncTrajectory then _ else s).settings = s.settings
      split
      · rfl
      · rfl
  | engageHil data =>
      show (if s.mode = .hil then (s.engageService time data).1 else s).settings = s.settings
      split
      · rfl
      · rfl
  | enableHydro data => rfl

theorem step_settings_of_not_batch (env : FlapEnvironment σ κ α) {e : Timed (FlapEvent α)}
    (hbatch : ∀ batch, e.event ≠ .setParameters batch) :
    (s.step env e).settings = s.settings := by
  rw [step_settings]
  split
  · rename_i batch hevent
    exact absurd hevent (hbatch batch)
  · rfl

/-- A setting that no batch touches never changes. -/
theorem run_settings_frame {β : Type} (get : ChronoFlapNode Unit Unit α → β)
    (happly : ∀ t p, get (applyParameter t p) = get t)
    (hstore : ∀ t store, get { t with parameters := store } = get t)
    (hshadow : ∀ t shadow, get { t with shadowPid := shadow } = get t)
    (env : FlapEnvironment σ κ α) (es : List (Timed (FlapEvent α))) :
    get (run (step env) s es).settings = get s.settings := by
  refine invariant_run (I := fun t : ChronoFlapNode σ κ α => get t.settings = get s.settings)
    ?_ rfl es
  intro t e ht
  rw [step_settings, ← ht]
  cases e.event with
  | setParameters batch =>
      exact setParameters_frame t.settings get happly hstore (fun _ _ => rfl) hshadow batch
  | _ => rfl

end Batch

/-! ## The double parameters with a member -/

/-- The double parameters that a batch assigns to a member. -/
inductive FlapMember where
  | flapLength
  | flapWidth
  | flapMass
  | jointDamping
  | jointStiffness
  | bearingFriction
  | coulombFriction
  | hilConstantLoadNm
  | hilVirtualStiffness
  | hilVirtualDamping
  | hilQuadraticDrag
  | hilWaveAmpNm
  | hilWaveOmegaRadS
  | hilTorqueClipNm
  | hilFeedbackTimeoutS
  | hilRampTimeS
  | hydroTorqueClipNm
  deriving DecidableEq

namespace FlapMember

def name : FlapMember → String
  | flapLength => "flap_length_m"
  | flapWidth => "flap_width_m"
  | flapMass => "flap_mass_kg"
  | jointDamping => "joint_damping"
  | jointStiffness => "joint_stiffness"
  | bearingFriction => "bearing_friction"
  | coulombFriction => "coulomb_friction"
  | hilConstantLoadNm => "hil_constant_load_nm"
  | hilVirtualStiffness => "hil_virtual_stiffness"
  | hilVirtualDamping => "hil_virtual_damping"
  | hilQuadraticDrag => "hil_quadratic_drag"
  | hilWaveAmpNm => "hil_wave_amp_nm"
  | hilWaveOmegaRadS => "hil_wave_omega_rad_s"
  | hilTorqueClipNm => "hil_torque_clip_nm"
  | hilFeedbackTimeoutS => "hil_feedback_timeout_s"
  | hilRampTimeS => "hil_ramp_time_s"
  | hydroTorqueClipNm => "hydro_torque_clip_nm"

def get {σ κ α : Type} (s : ChronoFlapNode σ κ α) : FlapMember → α
  | flapLength => s.flapLength
  | flapWidth => s.flapWidth
  | flapMass => s.flapMass
  | jointDamping => s.jointDamping
  | jointStiffness => s.jointStiffness
  | bearingFriction => s.bearingFriction
  | coulombFriction => s.coulombFriction
  | hilConstantLoadNm => s.hilConstantLoadNm
  | hilVirtualStiffness => s.hilVirtualStiffness
  | hilVirtualDamping => s.hilVirtualDamping
  | hilQuadraticDrag => s.hilQuadraticDrag
  | hilWaveAmpNm => s.hilWaveAmpNm
  | hilWaveOmegaRadS => s.hilWaveOmegaRadS
  | hilTorqueClipNm => s.hilTorqueClipNm
  | hilFeedbackTimeoutS => s.hilFeedbackTimeoutS
  | hilRampTimeS => s.hilRampTimeS
  | hydroTorqueClipNm => s.hydroTorqueClipNm

end FlapMember

section Member

variable (d : FlapMember)

theorem get_settings (s : ChronoFlapNode σ κ α) : d.get s.settings = d.get s := by
  cases d <;> rfl

theorem get_of_settings {s s' : ChronoFlapNode σ κ α} (h : s'.settings = s.settings) :
    d.get s' = d.get s := by
  rw [← get_settings d s', h, get_settings]

theorem get_applyParameter (s : ChronoFlapNode σ κ α) (p : Parameter α) :
    d.get (s.applyParameter p) = (p.doubleNamed d.name).getD (d.get s) := by
  cases d <;> rfl

theorem declared_types (l : Launch α) : (declared l).types d.name = some .double := by
  cases d <;> rfl

theorem get_start (env : FlapEnvironment σ κ α) (l : Launch α) (t₀ : Time) :
    d.get (start env l t₀) = (declared l).getDouble d.name := by
  cases d <;> rfl

theorem get_refresh (ch : Chrono σ α) (s : ChronoFlapNode σ κ α) (body shadow : Bool) :
    d.get ((s.refreshBody ch body).refreshShadow shadow) = d.get s := by
  cases body <;> cases shadow <;> cases d <;> rfl

/-- A batch gives a member the last value it names. -/
theorem get_setParameters (ch : Chrono σ α) (s : ChronoFlapNode σ κ α)
    (batch : List (Parameter α)) :
    d.get (s.setParameters ch batch) =
      if s.acceptsBatch batch then (lastSome (Parameter.doubleNamed d.name) batch).getD (d.get s)
      else d.get s := by
  unfold setParameters
  split
  · rw [onApplyParameters, get_refresh]
    have hrun : FlapMember.get (run applyParameter
        { s with parameters := s.parameters.setAll batch } batch) d = _ :=
      latch_run (FlapMember.get · d) (get_applyParameter d) _ batch
    rw [hrun]
    cases d <;> rfl
  · rfl

end Member

/-! ## The shadow controller and the store -/

/-- The parameters that `read_shadow_params` reads. -/
def shadowNames : List String :=
  [ "shadow_control_mode", "shadow_position_setpoint", "shadow_amplitude_rad_s"
  , "shadow_omega_rad_s", "shadow_kp", "shadow_ki", "shadow_kd", "shadow_kff", "shadow_kaff"
  , "shadow_torque_limit_nm", "shadow_integral_limit", "shadow_deadband_rad_s", "shadow_kp_pos"
  , "shadow_ki_pos", "shadow_kd_pos", "shadow_pos_integral_limit", "shadow_pos_output_limit"
  , "shadow_outer_loop_divider", "shadow_filter_alpha" ]

/-- Each of them makes the node read all of them again. -/
theorem startsWith_of_mem_shadowNames {name : String} (h : name ∈ shadowNames) :
    name.startsWith "shadow_" = true := by
  revert name
  decide +kernel

theorem readShadowParams_congr {store store' : ParameterStore α}
    (h : ∀ name ∈ shadowNames, store name = store' name) (c : ShadowPidController α) :
    readShadowParams store c = readShadowParams store' c := by
  have hdouble (name : String) (hname : name ∈ shadowNames) :
      store.getDouble name = store'.getDouble name := by
    rw [ParameterStore.getDouble, ParameterStore.getDouble, h name hname]
  have hmode : store.getString "shadow_control_mode" = store'.getString "shadow_control_mode" := by
    rw [ParameterStore.getString, ParameterStore.getString, h _ (by simp [shadowNames])]
  unfold readShadowParams
  rw [hmode]
  simp (disch := decide) only [hdouble]

/-- The shadow controller has the public fields the store gives. -/
def ShadowStored (s : ChronoFlapNode σ κ α) : Prop :=
  s.shadowPid.publicFields = readShadowParams s.parameters .fresh

theorem shadowStored_settings (s : ChronoFlapNode σ κ α) :
    s.settings.ShadowStored ↔ s.ShadowStored := Iff.rfl

theorem ShadowStored.setParameters {s : ChronoFlapNode σ κ α} (h : s.ShadowStored)
    (ch : Chrono σ α) (batch : List (Parameter α)) : (s.setParameters ch batch).ShadowStored := by
  have hshadow (t : ChronoFlapNode σ κ α) :
      (run applyParameter t batch).shadowPid = t.shadowPid ∧
        (run applyParameter t batch).parameters = t.parameters :=
    invariant_run (I := fun u : ChronoFlapNode σ κ α =>
        u.shadowPid = t.shadowPid ∧ u.parameters = t.parameters)
      (by intro u p hu; exact hu) ⟨rfl, rfl⟩ batch
  have hbody (t : ChronoFlapNode σ κ α) (changed : Bool) :
      (t.refreshBody ch changed).shadowPid = t.shadowPid ∧
        (t.refreshBody ch changed).parameters = t.parameters := by
    cases changed <;> exact ⟨rfl, rfl⟩
  unfold ChronoFlapNode.setParameters
  split
  · obtain ⟨hpid, hstore⟩ := hshadow { s with parameters := s.parameters.setAll batch }
    obtain ⟨hpid', hstore'⟩ := hbody
      (run applyParameter { s with parameters := s.parameters.setAll batch } batch)
      (bodyNeedsUpdate batch)
    unfold onApplyParameters ShadowStored
    cases hchanged : shadowPidChanged batch with
    | true => rfl
    | false =>
        -- no name of the batch is one the shadow controller reads
        show ShadowPidController.publicFields (refreshBody ch _ _).shadowPid =
          readShadowParams (refreshBody ch _ _).parameters .fresh
        rw [hpid', hstore', hpid, hstore]
        refine Eq.trans h (readShadowParams_congr ?_ _)
        intro name hname
        refine (ParameterStore.setAll_of_not_mem ?_).symm
        intro p hp hpn
        have hany := List.any_eq_false.mp hchanged p hp
        rw [hpn, startsWith_of_mem_shadowNames hname, Bool.or_true] at hany
        exact hany rfl
  · exact h

/-! ## Runs -/

/-- The batch of an event. -/
def batchOf (e : Timed (FlapEvent α)) : Option (List (Parameter α)) :=
  match e.event with
  | .setParameters batch => some batch
  | _ => none

/-- The value an accepted batch gives to a double parameter. -/
def doubleUpdate (l : Launch α) (name : String) (e : Timed (FlapEvent α)) : Option α :=
  match e.event with
  | .setParameters batch =>
      if accepts (declared l) onValidateParameters batch then
        lastSome (Parameter.doubleNamed name) batch
      else none
  | _ => none

theorem doubleUpdate_eq (l : Launch α) (name : String) (e : Timed (FlapEvent α)) :
    doubleUpdate l name e =
      (acceptedBatch onValidateParameters batchOf (declared l) e).bind
        (lastSome (Parameter.doubleNamed name)) := by
  rw [acceptedBatch_bind]
  obtain ⟨time, event⟩ := e
  cases event <;> rfl

/-- The last accepted value of a double parameter, and before any the one of the
launch. -/
def doubleInForce (l : Launch α) (name : String) (es : List (Timed (FlapEvent α))) : α :=
  (lastSome (doubleUpdate l name) es).getD ((declared l).getDouble name)

section Run

variable (env : FlapEnvironment σ κ α)

/-- The store changes by accepted batches alone. -/
theorem storesBatches :
    StoresBatches (onValidateParameters (α := α)) batchOf (step env) (·.parameters) := by
  intro s e
  have hview := congrArg ChronoFlapNode.parameters (s.step_settings env e)
  refine Eq.trans hview ?_
  obtain ⟨time, event⟩ := e
  cases event with
  | setParameters batch =>
      have hbatch : acceptedBatch onValidateParameters batchOf s.parameters
          (⟨time, .setParameters batch⟩ : Timed (FlapEvent α)) =
            if s.settings.acceptsBatch batch then some batch else none := rfl
      have hrun (t : ChronoFlapNode Unit Unit α) :
          (run applyParameter t batch).parameters = t.parameters :=
        invariant_run (I := fun u : ChronoFlapNode Unit Unit α => u.parameters = t.parameters)
          (by intro u p hu; exact hu) rfl batch
      show (s.settings.setParameters _ batch).parameters = _
      rw [hbatch]
      unfold setParameters
      split
      · rw [onApplyParameters]
        refine Eq.trans ?_ (hrun { s.settings with parameters := s.parameters.setAll batch })
        cases shadowPidChanged batch <;> cases bodyNeedsUpdate batch <;> rfl
      · rfl
  | _ => rfl

/-- No callback changes the type of a declared parameter. -/
theorem step_types (s : ChronoFlapNode σ κ α) (e : Timed (FlapEvent α)) :
    (s.step env e).parameters.types = s.parameters.types :=
  (storesBatches env).types_step s e

theorem acceptsBatch_eq {s : ChronoFlapNode σ κ α} {l : Launch α}
    (h : s.parameters.types = (declared l).types) (batch : List (Parameter α)) :
    s.acceptsBatch batch = accepts (declared l) onValidateParameters batch :=
  accepts_congr h onValidateParameters batch

/-- A member after one callback. -/
theorem get_step (d : FlapMember) {l : Launch α} {s : ChronoFlapNode σ κ α}
    (h : s.parameters.types = (declared l).types) (e : Timed (FlapEvent α)) :
    d.get (s.step env e) = (doubleUpdate l d.name e).getD (d.get s) := by
  rw [← get_settings, step_settings]
  unfold doubleUpdate
  cases e.event with
  | setParameters batch =>
      dsimp only
      rw [get_setParameters, get_settings, ← acceptsBatch_eq h]
      show (if s.acceptsBatch batch then _ else _) = _
      split
      · rfl
      · rfl
  | _ => exact get_settings d s

variable (l : Launch α) (t₀ : Time) (es : List (Timed (FlapEvent α)))

theorem run_types :
    (run (step env) (start env l t₀) es).parameters.types = (declared l).types :=
  (storesBatches env).types_run (start env l t₀) es

/-- **Every member holds the last accepted value of its parameter.** -/
theorem run_member (d : FlapMember) :
    d.get (run (step env) (start env l t₀) es) = doubleInForce l d.name es := by
  rw [doubleInForce, ← get_start d env l t₀]
  exact latch_run_of_invariant (FlapMember.get · d)
    (I := fun s : ChronoFlapNode σ κ α => s.parameters.types = (declared l).types)
    (by intro s e h; exact (step_types env s e).trans h)
    (by intro s e h; exact get_step env d h e) rfl es

/-- The store holds the last accepted value of every declared double. -/
theorem run_getDouble {name : String} (hname : (declared l).types name = some .double) :
    (run (step env) (start env l t₀) es).parameters.getDouble name =
      doubleInForce l name es := by
  rw [doubleInForce, funext (doubleUpdate_eq l name)]
  exact (storesBatches env).getDouble_run (start env l t₀) es hname

/-- **The shadow controller has the settings the store gives**, in every reachable
state. -/
theorem run_shadowStored : (run (step env) (start env l t₀) es).ShadowStored := by
  have hstart : (start env l t₀).ShadowStored := by
    unfold ShadowStored
    rfl
  refine invariant_run (I := fun s : ChronoFlapNode σ κ α => s.ShadowStored) ?_ hstart es
  intro s e h
  rw [← shadowStored_settings, step_settings]
  cases e.event with
  | setParameters batch =>
      exact ShadowStored.setParameters ((shadowStored_settings s).mpr h) _ batch
  | _ => exact h

end Run

/-! ## The double settings of the shadow controller -/

/-- The double parameters that `read_shadow_params` copies into a public field. -/
inductive ShadowMember where
  | positionSetpoint
  | amplitudeRadS
  | omegaRadS
  | kp
  | ki
  | kd
  | kff
  | kaff
  | torqueLimitNm
  | integralLimit
  | deadbandRadS
  | kpPos
  | kiPos
  | kdPos
  | posIntegralLimit
  | posOutputLimit
  | outerLoopDivider
  | filterAlpha
  deriving DecidableEq

namespace ShadowMember

def name : ShadowMember → String
  | positionSetpoint => "shadow_position_setpoint"
  | amplitudeRadS => "shadow_amplitude_rad_s"
  | omegaRadS => "shadow_omega_rad_s"
  | kp => "shadow_kp"
  | ki => "shadow_ki"
  | kd => "shadow_kd"
  | kff => "shadow_kff"
  | kaff => "shadow_kaff"
  | torqueLimitNm => "shadow_torque_limit_nm"
  | integralLimit => "shadow_integral_limit"
  | deadbandRadS => "shadow_deadband_rad_s"
  | kpPos => "shadow_kp_pos"
  | kiPos => "shadow_ki_pos"
  | kdPos => "shadow_kd_pos"
  | posIntegralLimit => "shadow_pos_integral_limit"
  | posOutputLimit => "shadow_pos_output_limit"
  | outerLoopDivider => "shadow_outer_loop_divider"
  | filterAlpha => "shadow_filter_alpha"

def get {α : Type} (c : ShadowPidController α) : ShadowMember → α
  | positionSetpoint => c.positionSetpoint
  | amplitudeRadS => c.amplitudeRadS
  | omegaRadS => c.omegaRadS
  | kp => c.kp
  | ki => c.ki
  | kd => c.kd
  | kff => c.kff
  | kaff => c.kaff
  | torqueLimitNm => c.torqueLimitNm
  | integralLimit => c.integralLimit
  | deadbandRadS => c.deadbandRadS
  | kpPos => c.kpPos
  | kiPos => c.kiPos
  | kdPos => c.kdPos
  | posIntegralLimit => c.posIntegralLimit
  | posOutputLimit => c.posOutputLimit
  | outerLoopDivider => c.outerLoopDivider
  | filterAlpha => c.filterAlpha

end ShadowMember

section ShadowMember

variable (d : ShadowMember)

theorem get_publicFields (c : ShadowPidController α) : d.get c.publicFields = d.get c := by
  cases d <;> rfl

theorem get_readShadowParams (store : ParameterStore α) (c : ShadowPidController α) :
    d.get (readShadowParams store c) = store.getDouble d.name := by
  cases d <;> rfl

theorem declared_shadow_types (l : Launch α) :
    (declared l).types d.name = some .double := by
  cases d <;> rfl

/-- **Every setting of the shadow controller holds the last accepted value of its
parameter.** -/
theorem run_shadowMember (env : FlapEnvironment σ κ α) (l : Launch α) (t₀ : Time)
    (es : List (Timed (FlapEvent α))) :
    d.get (run (step env) (start env l t₀) es).shadowPid = doubleInForce l d.name es := by
  rw [← run_getDouble env l t₀ es (declared_shadow_types d l), ← get_publicFields,
    run_shadowStored env l t₀ es, get_readShadowParams]

end ShadowMember

/-! ## Accepted values -/

/-- The checks of `on_validate_parameters`, in order. -/
def parameterChecks : List (ParameterCheck α) :=
  [ checkImmutable, checkShadowControlMode, checkFlapGeometry, checkJointDynamics
  , checkShadowPositive, checkFilterAlpha, checkHilPositive, checkHilNonNegative ]

theorem checkFlapGeometry_mem : (checkFlapGeometry : ParameterCheck α) ∈ parameterChecks := by
  simp [parameterChecks]

theorem checkJointDynamics_mem : (checkJointDynamics : ParameterCheck α) ∈ parameterChecks := by
  simp [parameterChecks]

theorem checkShadowPositive_mem : (checkShadowPositive : ParameterCheck α) ∈ parameterChecks := by
  simp [parameterChecks]

theorem checkFilterAlpha_mem : (checkFilterAlpha : ParameterCheck α) ∈ parameterChecks := by
  simp [parameterChecks]

theorem checkHilPositive_mem : (checkHilPositive : ParameterCheck α) ∈ parameterChecks := by
  simp [parameterChecks]

theorem checkHilNonNegative_mem :
    (checkHilNonNegative : ParameterCheck α) ∈ parameterChecks := by
  simp [parameterChecks]

section Accepted

/-- Every parameter of an accepted batch has passed every check. -/
theorem checked_of_accepts {store : ParameterStore α} {batch : List (Parameter α)}
    (h : accepts store onValidateParameters batch = true) {p : Parameter α} (hp : p ∈ batch)
    {check : ParameterCheck α} (hcheck : check ∈ parameterChecks) :
    ∃ r, check p = some r ∧ r.successful = true := by
  obtain ⟨_, hvalid⟩ := accepts_iff.mp h
  have hparameter := validateAll_successful_iff.mp hvalid p hp
  exact validateAll_successful_iff.mp hparameter check hcheck

omit [Double α] in
/-- A passed check of doubles: the value is not bad. -/
theorem not_bad_of_checkDouble {names : List String} {bad : α → Bool} {reason : String}
    {p : Parameter α} (h : ∃ r, checkDouble names bad reason p = some r ∧ r.successful = true)
    (hname : p.name ∈ names) {x : α} (hx : p.value.asDouble = some x) : bad x = false := by
  obtain ⟨r, hr, hok⟩ := h
  unfold checkDouble at hr
  rw [if_pos hname] at hr
  cases hv : p.value with
  | double v =>
      rw [hv] at hr hx
      obtain rfl := Option.some.inj hx
      cases hbad : bad v with
      | false => rfl
      | true =>
          simp only [hbad, if_true] at hr
          obtain rfl := Option.some.inj hr
          exact absurd hok Bool.false_ne_true
  | bool b => rw [hv] at hx; cases hx
  | integer i => rw [hv] at hx; cases hx
  | string t => rw [hv] at hx; cases hx

/-- The parameter an update comes from. -/
theorem exists_of_doubleUpdate {l : Launch α} {name : String} {e : Timed (FlapEvent α)} {x : α}
    (h : doubleUpdate l name e = some x) :
    ∃ batch, e.event = .setParameters batch ∧
      accepts (declared l) onValidateParameters batch = true ∧
      ∃ p ∈ batch, p.name = name ∧ p.value.asDouble = some x := by
  unfold doubleUpdate at h
  cases hevent : e.event with
  | setParameters batch =>
      rw [hevent] at h
      dsimp only at h
      split at h
      · rename_i haccepts
        obtain ⟨pre, p, post, rfl, hp, _⟩ := lastSome_eq_some_iff.mp h
        unfold Parameter.doubleNamed at hp
        split at hp
        · rename_i hname
          exact ⟨_, rfl, haccepts, p, by simp, hname, hp⟩
        · cases hp
      · cases h
  | _ =>
      rw [hevent] at h
      cases h

/-- An update of a checked double is not bad. -/
theorem not_bad_of_doubleUpdate {names : List String} {bad : α → Bool} {reason : String}
    (hcheck : (checkDouble names bad reason : ParameterCheck α) ∈ parameterChecks)
    {l : Launch α} {name : String} (hname : name ∈ names) {e : Timed (FlapEvent α)} {x : α}
    (h : doubleUpdate l name e = some x) : bad x = false := by
  obtain ⟨batch, _, haccepts, p, hp, rfl, hx⟩ := exists_of_doubleUpdate h
  exact not_bad_of_checkDouble (checked_of_accepts haccepts hp hcheck) hname hx

/-- What holds of the launch value and of every update holds of the value in
force. -/
theorem doubleInForce_of {P : α → Prop} {l : Launch α} {name : String}
    (hlaunch : P ((declared l).getDouble name)) {es : List (Timed (FlapEvent α))}
    (hupdate : ∀ e ∈ es, ∀ x, doubleUpdate l name e = some x → P x) :
    P (doubleInForce l name es) := by
  unfold doubleInForce
  cases hlast : lastSome (doubleUpdate l name) es with
  | none => exact hlaunch
  | some x =>
      obtain ⟨pre, e, post, rfl, he, _⟩ := lastSome_eq_some_iff.mp hlast
      exact hupdate e (by simp) x he

/-- A double that is checked to be positive stays so, unless NaN comes through the
check. -/
theorem doubleInForce_pos {names : List String} {reason : String}
    (hcheck : (checkDouble names nonPositive reason : ParameterCheck ExtRat) ∈ parameterChecks)
    {l : Launch ExtRat} {name : String} (hname : name ∈ names)
    (hlaunch : 0 < (declared l).getDouble name) (es : List (Timed (FlapEvent ExtRat))) :
    doubleInForce l name es = .nan ∨ 0 < doubleInForce l name es := by
  refine doubleInForce_of (P := fun x => x = .nan ∨ 0 < x) (Or.inr hlaunch) ?_
  intro e _ x hx
  exact ExtRat.not_le_zero_iff.mp (of_decide_eq_false (not_bad_of_doubleUpdate hcheck hname hx))

/-- A double that is checked not to be negative stays so, unless NaN comes through the
check. -/
theorem doubleInForce_nonneg {names : List String} {reason : String}
    (hcheck : (checkDouble names negative reason : ParameterCheck ExtRat) ∈ parameterChecks)
    {l : Launch ExtRat} {name : String} (hname : name ∈ names)
    (hlaunch : 0 ≤ (declared l).getDouble name) (es : List (Timed (FlapEvent ExtRat))) :
    doubleInForce l name es = .nan ∨ 0 ≤ doubleInForce l name es := by
  refine doubleInForce_of (P := fun x => x = .nan ∨ 0 ≤ x) (Or.inr hlaunch) ?_
  intro e _ x hx
  exact ExtRat.not_lt_zero_iff.mp (of_decide_eq_false (not_bad_of_doubleUpdate hcheck hname hx))

end Accepted

/-! ## The adapter's clip -/

/-- What `set_torque_clip` makes of its argument. -/
def clipFloor (clip : α) : α := if lit 1e-9 < clip then clip else lit 1e-9

/-- The clip of the adapter, if there is one. -/
def adapterClip (s : ChronoFlapNode σ κ α) : Option α :=
  s.hydroAdapter.map SeaStackHydroAdapter.torqueClipNm

section AdapterClip

omit [Double α] in
theorem adapterClip_eq_some_iff {s : ChronoFlapNode σ κ α} {clip : α} :
    s.adapterClip = some clip ↔ ∃ a, s.hydroAdapter = some a ∧ a.torqueClipNm = clip :=
  Option.map_eq_some_iff

theorem adapterClip_applyParameter (s : ChronoFlapNode σ κ α) (p : Parameter α) {clip : α}
    (h : s.adapterClip = some clip) :
    (s.applyParameter p).adapterClip =
      some (((p.doubleNamed "hydro_torque_clip_nm").map clipFloor).getD clip) := by
  obtain ⟨a, ha, rfl⟩ := adapterClip_eq_some_iff.mp h
  unfold adapterClip applyParameter
  dsimp only
  rw [ha]
  cases p.doubleNamed "hydro_torque_clip_nm" with
  | none => rfl
  | some x => rfl

/-- A batch gives the clip the last value it names. -/
theorem adapterClip_run_applyParameter (s : ChronoFlapNode σ κ α) (batch : List (Parameter α))
    {clip : α} (h : s.adapterClip = some clip) :
    (run applyParameter s batch).adapterClip =
      some (((lastSome (Parameter.doubleNamed "hydro_torque_clip_nm") batch).map
        clipFloor).getD clip) := by
  induction batch using List.reverseRecOn with
  | nil => exact h
  | append_singleton batch p ih =>
      rw [run_concat, adapterClip_applyParameter _ p ih, lastSome_concat]
      cases p.doubleNamed "hydro_torque_clip_nm" with
      | none => rfl
      | some x => rfl

theorem adapterClip_settings (s : ChronoFlapNode σ κ α) :
    s.settings.adapterClip = s.adapterClip := by
  unfold adapterClip settings
  cases s.hydroAdapter <;> rfl

/-- The clip after one callback. -/
theorem adapterClip_step (env : FlapEnvironment σ κ α) {l : Launch α} {s : ChronoFlapNode σ κ α}
    (htypes : s.parameters.types = (declared l).types) (e : Timed (FlapEvent α)) {clip : α}
    (h : s.adapterClip = some clip) :
    (s.step env e).adapterClip =
      some (((doubleUpdate l "hydro_torque_clip_nm" e).map clipFloor).getD clip) := by
  rw [← adapterClip_settings] at h ⊢
  rw [step_settings]
  unfold doubleUpdate
  cases e.event with
  | setParameters batch =>
      have haccepts : s.settings.acceptsBatch batch =
          accepts (declared l) onValidateParameters batch := acceptsBatch_eq htypes batch
      dsimp only
      rw [setParameters, haccepts]
      split
      · have hstored : adapterClip { s.settings with
            parameters := s.settings.parameters.setAll batch } = some clip := h
        rw [← adapterClip_run_applyParameter _ batch hstored, onApplyParameters]
        cases shadowPidChanged batch <;> cases bodyNeedsUpdate batch <;> rfl
      · exact h
  | _ => exact h

variable (env : FlapEnvironment σ κ α) (l : Launch α) (t₀ : Time)

/-- A new adapter has the clip of the launch, as it is. -/
theorem start_adapterClip {clip : α} (h : (start env l t₀).adapterClip = some clip) :
    clip = (declared l).getDouble "hydro_torque_clip_nm" := by
  obtain ⟨a, ha, rfl⟩ := adapterClip_eq_some_iff.mp h
  obtain ⟨sys, hsys⟩ : ∃ sys, (startHydro env (declared l) sys).1 = some a := ⟨_, ha⟩
  unfold startHydro SeaStackHydroAdapter.new at hsys
  split at hsys
  · cases hsys
  · split at hsys
    · rename_i built hnew
      obtain rfl := Option.some.inj hsys
      split at hnew
      · cases hnew
      · split at hnew
        · cases hbuild : env.seaStack.build (hydroParams (declared l)).h5Path
              (hydroParams (declared l)).seaState with
          | error message =>
              rw [hbuild] at hnew
              cases hnew
          | ok coupler =>
              rw [hbuild] at hnew
              cases hnew
              rfl
        · cases hnew
    · cases hsys

/-- **The clip of the adapter after every run**: the last accepted one, kept from
becoming zero, and before any the one of the launch. -/
theorem run_adapterClip {clip : α} (h : (start env l t₀).adapterClip = some clip)
    (es : List (Timed (FlapEvent α))) :
    (run (step env) (start env l t₀) es).adapterClip =
      some (((lastSome (doubleUpdate l "hydro_torque_clip_nm") es).map clipFloor).getD clip) := by
  induction es using List.reverseRecOn with
  | nil => exact h
  | append_singleton es e ih =>
      rw [run_concat, adapterClip_step env (run_types env l t₀ es) e ih, lastSome_concat]
      cases doubleUpdate l "hydro_torque_clip_nm" e with
      | none => rfl
      | some x => rfl

/-- A node that starts without an adapter never gets one. -/
theorem run_adapterClip_none (h : (start env l t₀).adapterClip = none)
    (es : List (Timed (FlapEvent α))) :
    (run (step env) (start env l t₀) es).adapterClip = none := by
  refine invariant_run (I := fun s : ChronoFlapNode σ κ α => s.adapterClip = none) ?_ h es
  intro s e hnone
  rw [← adapterClip_settings] at hnone ⊢
  rw [step_settings]
  cases e.event with
  | setParameters batch =>
      have hadapter : s.settings.hydroAdapter = none := Option.map_eq_none_iff.mp hnone
      have hrun (t : ChronoFlapNode Unit Unit α) (ht : t.hydroAdapter = none) :
          (run applyParameter t batch).hydroAdapter = none :=
        invariant_run (I := fun u : ChronoFlapNode Unit Unit α => u.hydroAdapter = none)
          (by
            intro u p hu
            unfold applyParameter
            dsimp only
            rw [hu]
            cases p.doubleNamed "hydro_torque_clip_nm" <;> rfl) ht batch
      dsimp only
      unfold setParameters
      split
      · have hbatch := hrun { s.settings with parameters := s.settings.parameters.setAll batch }
          hadapter
        rw [onApplyParameters]
        refine Option.map_eq_none_iff.mpr (Eq.trans ?_ hbatch)
        cases shadowPidChanged batch <;> cases bodyNeedsUpdate batch <;> rfl
      · exact hnone
  | _ => exact hnone

/-- `set_torque_clip` makes a positive number of everything, NaN included. -/
theorem clipFloor_pos (x : ExtRat) : 0 < clipFloor x := by
  unfold clipFloor
  have hfloor : (0 : ExtRat) < lit 1e-9 := by
    rw [ExtRat.lit_def, ExtRat.zero_def, ExtRat.fin_lt]
    norm_num
  split
  · rename_i hx
    rw [ExtRat.lit_def] at hx
    cases x with
    | fin q =>
        rw [ExtRat.fin_lt] at hx
        rw [ExtRat.zero_def, ExtRat.fin_lt]
        exact lt_trans (by norm_num) hx
    | posInf => rfl
    | negInf => exact absurd hx Bool.false_ne_true
    | nan => exact absurd hx (ExtRat.not_lt_nan _)
  · exact hfloor

/-- The clip is positive, unless it is still the one of a launch that is not. -/
theorem run_adapterClip_pos (env : FlapEnvironment σ κ ExtRat) {l : Launch ExtRat} (t₀ : Time)
    {es : List (Timed (FlapEvent ExtRat))}
    (h : lastSome (doubleUpdate l "hydro_torque_clip_nm") es = none →
      0 < (declared l).getDouble "hydro_torque_clip_nm") {clip : ExtRat}
    (hclip : (run (step env) (start env l t₀) es).adapterClip = some clip) : 0 < clip := by
  cases hstart : (start env l t₀).adapterClip with
  | none =>
      rw [run_adapterClip_none env l t₀ hstart es] at hclip
      cases hclip
  | some launched =>
      rw [run_adapterClip env l t₀ hstart es] at hclip
      obtain rfl := Option.some.inj hclip
      cases hlast : lastSome (doubleUpdate l "hydro_torque_clip_nm") es with
      | none =>
          rw [start_adapterClip env l t₀ hstart]
          exact h hlast
      | some x => exact clipFloor_pos x

end AdapterClip

end ChronoFlapNode

end MarineHil.Ports
