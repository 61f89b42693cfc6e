import MarineHil.Ports.ChronoFlapNode

/-!
# The part of `ChronoFlapNode` behind the gate and the watchdog

The gate and the watchdog of `hil` mode read a handful of members, collected in
`HilView`.  No callback lets anything else flow into them, so a run of the node
projects to a run of the view (`run_hilView`), whatever the engine, the
hydrodynamics and the shadow controller do.  Over a run, the members of the
gate are then latches of the calls and batches in its history.

## Main results

* `setParameters_frame`: what a batch leaves alone.
* `step_hilView`, `run_hilView`: the projection is a simulation.
* `step_receive`: what messages and service calls write.
* `run_gate`, `run_rampTime`: the gate against its history.
-/

namespace MarineHil.Ports

open MarineHil.Verified

/-! ## The view -/

/-- The members that the gate and the watchdog read, and the parameter store. -/
structure HilView (α : Type) where
  mode : FlapMode
  jointName : String
  hilFeedbackTimeoutS : α
  hilRampTimeS : α
  hilEngaged : Bool
  hilRampStartTime : α
  hwPos : α
  hwVel : α
  hwStamp : Time
  hwReceived : Bool
  parameters : ParameterStore α

namespace HilView

variable {α : Type} [Double α]

def measure (v : HilView α) (msg : JointState α) : HilView α :=
  match msg.name.findIdx? (· = v.jointName) with
  | some i =>
      { v with
        hwPos := (msg.position[i]?).getD 0
        hwVel := (msg.velocity[i]?).getD 0
        hwStamp := msg.stamp
        hwReceived := true }
  | none => v

def engage (v : HilView α) (now : Time) (data : Bool) : HilView α :=
  { v with hilEngaged := data, hilRampStartTime := seconds now }

def applyParameter (v : HilView α) (p : Parameter α) : HilView α :=
  { v with
    hilFeedbackTimeoutS := (p.doubleNamed "hil_feedback_timeout_s").getD v.hilFeedbackTimeoutS
    hilRampTimeS := (p.doubleNamed "hil_ramp_time_s").getD v.hilRampTimeS }

def setParameters (v : HilView α) (batch : List (Parameter α)) : HilView α :=
  if accepts v.parameters ChronoFlapNode.onValidateParameters batch then
    run applyParameter { v with parameters := v.parameters.setAll batch } batch
  else v

/-- One callback on the view: everything but a measurement, a call of the
engage service in `hil` mode, and a batch passes it by. -/
def step (v : HilView α) (e : Timed (FlapEvent α)) : HilView α :=
  match e.event with
  | .jointState msg => if v.mode = .hil then v.measure msg else v
  | .engageHil data => if v.mode = .hil then v.engage e.time data else v
  | .setParameters batch => v.setParameters batch
  | _ => v

end HilView

namespace ChronoFlapNode

variable {σ κ α : Type}

def hilView (s : ChronoFlapNode σ κ α) : HilView α :=
  ⟨s.mode, s.jointName, s.hilFeedbackTimeoutS, s.hilRampTimeS, s.hilEngaged, s.hilRampStartTime,
    s.hwPos, s.hwVel, s.hwStamp, s.hwReceived, s.parameters⟩

/-! ## What passes the view by -/

section Frame

variable (s : ChronoFlapNode σ κ α)

theorem afterHydro_hilView (h : Option (HydroStep σ κ α)) :
    (s.afterHydro h).hilView = s.hilView := by
  cases h with
  | none => rfl
  | some h => rfl

theorem afterShadow_hilView (shadow : ShadowStep α) :
    (s.afterShadow shadow).hilView = s.hilView := by
  unfold afterShadow
  split
  · rfl
  · rfl

theorem recordClip_hilView (wasClipped : Bool) :
    (s.recordClip wasClipped).hilView = s.hilView := rfl

theorem effortCallback_hilView (data : List α) : (s.effortCallback data).hilView = s.hilView := by
  cases data with
  | nil => rfl
  | cons x data => rfl

variable [Double α]

theorem followEngine_hilView (ch : Chrono σ α) (sys : σ) :
    (s.followEngine ch sys).hilView = s.hilView := rfl

theorem followHardware_hilView : s.followHardware.hilView = s.hilView := rfl

theorem publish_node (now : Time) (load : Option α) (hydro : HydroStepResult α)
    (shadowTorque effort : α) : (s.publish now load hydro shadowTorque effort).node = s := rfl

theorem refreshBody_hilView (ch : Chrono σ α) (changed : Bool) :
    (s.refreshBody ch changed).hilView = s.hilView := by
  cases changed with
  | false => rfl
  | true => rfl

theorem refreshShadow_hilView (changed : Bool) :
    (s.refreshShadow changed).hilView = s.hilView := by
  cases changed with
  | false => rfl
  | true => rfl

/-- A batch leaves what neither its assignments nor the refreshes after them touch. -/
theorem setParameters_frame {β : Type} (get : ChronoFlapNode σ κ α → β) {ch : Chrono σ α}
    (happly : ∀ t p, get (applyParameter t p) = get t)
    (hstore : ∀ t store, get { t with parameters := store } = get t)
    (hbody : ∀ t body, get { t with sys := ch.setFlap body t.sys } = get t)
    (hshadow : ∀ t shadow, get { t with shadowPid := shadow } = get t)
    (batch : List (Parameter α)) : get (s.setParameters ch batch) = get s := by
  have hrun (t : ChronoFlapNode σ κ α) : get (run applyParameter t batch) = get t :=
    invariant_run (I := fun u => get u = get t) (by intro u p hu; exact (happly u p).trans hu)
      rfl batch
  have hrefreshBody (t : ChronoFlapNode σ κ α) (changed : Bool) :
      get (t.refreshBody ch changed) = get t := by
    cases changed with
    | false => rfl
    | true => exact hbody t _
  have hrefreshShadow (t : ChronoFlapNode σ κ α) (changed : Bool) :
      get (t.refreshShadow changed) = get t := by
    cases changed with
    | false => rfl
    | true => exact hshadow t _
  unfold setParameters
  split
  · rw [onApplyParameters, hrefreshShadow, hrefreshBody, hrun, hstore]
  · rfl

theorem tick_hilView (env : FlapEnvironment σ κ α) (now : Time) :
    (s.tick env now).node.hilView = s.hilView := by
  unfold tick
  by_cases hmode : s.mode = .hil
  · rw [if_pos hmode, hilTick, publish_node, followHardware_hilView, recordClip_hilView,
      afterHydro_hilView]
  · rw [if_neg hmode, simTick, publish_node, followEngine_hilView, recordClip_hilView,
      afterHydro_hilView, afterShadow_hilView]

/-- A tick in `hil` mode publishes the load torque. -/
theorem tick_load {s : ChronoFlapNode σ κ α} (hmode : s.mode = .hil)
    (env : FlapEnvironment σ κ α) (now : Time) :
    (s.tick env now).load = some (s.loadTorque env now) := by
  rw [tick, if_pos hmode]
  rfl

end Frame

/-! ## The projection is a simulation -/

section Simulation

variable [Double α] (env : FlapEnvironment σ κ α) (s : ChronoFlapNode σ κ α)

theorem jointStateCallback_hilView (msg : JointState α) :
    (s.jointStateCallback msg).hilView = s.hilView.measure msg := by
  unfold jointStateCallback HilView.measure
  show _ = match msg.name.findIdx? (· = s.jointName) with | some i => _ | none => _
  cases msg.name.findIdx? (· = s.jointName) with
  | none => rfl
  | some i => rfl

theorem run_applyParameter_hilView (batch : List (Parameter α)) :
    (run applyParameter s batch).hilView = run HilView.applyParameter s.hilView batch := by
  induction batch generalizing s with
  | nil => rfl
  | cons p batch ih => exact ih (s.applyParameter p)

theorem setParameters_hilView (ch : Chrono σ α) (batch : List (Parameter α)) :
    (s.setParameters ch batch).hilView = s.hilView.setParameters batch := by
  unfold setParameters HilView.setParameters
  by_cases haccepts : s.acceptsBatch batch = true
  · have hview : accepts s.hilView.parameters onValidateParameters batch = true := haccepts
    rw [if_pos haccepts, if_pos hview, onApplyParameters, refreshShadow_hilView,
      refreshBody_hilView, run_applyParameter_hilView]
    rfl
  · have hview : ¬accepts s.hilView.parameters onValidateParameters batch = true := haccepts
    rw [if_neg haccepts, if_neg hview]

theorem step_hilView (e : Timed (FlapEvent α)) : (s.step env e).hilView = s.hilView.step e := by
  obtain ⟨time, event⟩ := e
  have hmode : s.hilView.mode = s.mode := rfl
  cases event with
  | jointState msg =>
      show (if s.mode = .hil then s.jointStateCallback msg else s).hilView =
        if s.hilView.mode = .hil then s.hilView.measure msg else s.hilView
      rw [hmode]
      split
      · exact s.jointStateCallback_hilView msg
      · rfl
  | effort data =>
      show (if s.mode = .hil then s else s.effortCallback data).hilView = s.hilView
      split
      · rfl
      · exact s.effortCallback_hilView data
  | positionCommand data =>
      show (if s.shadowSyncTrajectory then _ else s).hilView = s.hilView
      split
      · rfl
      · rfl
  | velocityCommand data =>
      show (if s.shadowSyncTrajectory then _ else s).hilView = s.hilView
      split
      · rfl
      · rfl
  | engageHil data =>
      show (if s.mode = .hil then (s.engageService time data).1 else s).hilView =
        if s.hilView.mode = .hil then s.hilView.engage time data else s.hilView
      rw [hmode]
      split
      · rfl
      · rfl
  | enableHydro data => rfl
  | setParameters batch => exact s.setParameters_hilView env.chrono batch
  | tick => exact s.tick_hilView env time

/-- The members that messages and service calls write. -/
structure FlapInputs (α : Type) where
  latestTorque : α
  shadowExtPosRef : α
  shadowExtVelRef : α
  shadowPosRefReceived : Bool
  shadowVelRefReceived : Bool
  hilEngaged : Bool
  hilRampStartTime : α
  hydroEngaged : Bool
  hwPos : α
  hwVel : α
  hwStamp : Time
  hwReceived : Bool

omit [Double α] in
def inputs (s : ChronoFlapNode σ κ α) : FlapInputs α :=
  ⟨s.latestTorque, s.shadowExtPosRef, s.shadowExtVelRef, s.shadowPosRefReceived,
    s.shadowVelRefReceived, s.hilEngaged, s.hilRampStartTime, s.hydroEngaged, s.hwPos, s.hwVel,
    s.hwStamp, s.hwReceived⟩

omit [Double α] in
def receive (s : ChronoFlapNode σ κ α) (i : FlapInputs α) : ChronoFlapNode σ κ α :=
  { s with
    latestTorque := i.latestTorque
    shadowExtPosRef := i.shadowExtPosRef
    shadowExtVelRef := i.shadowExtVelRef
    shadowPosRefReceived := i.shadowPosRefReceived
    shadowVelRefReceived := i.shadowVelRefReceived
    hilEngaged := i.hilEngaged
    hilRampStartTime := i.hilRampStartTime
    hydroEngaged := i.hydroEngaged
    hwPos := i.hwPos
    hwVel := i.hwVel
    hwStamp := i.hwStamp
    hwReceived := i.hwReceived }

/-- Everything but a tick and a batch writes inputs alone. -/
theorem step_receive {e : Timed (FlapEvent α)} (htick : e.event ≠ .tick)
    (hbatch : ∀ batch, e.event ≠ .setParameters batch) : ∃ i, s.step env e = s.receive i := by
  obtain ⟨time, event⟩ := e
  cases event with
  | tick => exact absurd rfl htick
  | setParameters batch => exact absurd rfl (hbatch batch)
  | jointState msg =>
      show ∃ i, (if s.mode = .hil then s.jointStateCallback msg else s) = s.receive i
      unfold jointStateCallback
      split
      · split
        · rename_i k _
          exact ⟨{ s.inputs with
            hwPos := (msg.position[k]?).getD 0
            hwVel := (msg.velocity[k]?).getD 0
            hwStamp := msg.stamp
            hwReceived := true }, rfl⟩
        · exact ⟨s.inputs, rfl⟩
      · exact ⟨s.inputs, rfl⟩
  | effort data =>
      show ∃ i, (if s.mode = .hil then s else s.effortCallback data) = s.receive i
      split
      · exact ⟨s.inputs, rfl⟩
      · cases data with
        | nil => exact ⟨s.inputs, rfl⟩
        | cons x data => exact ⟨{ s.inputs with latestTorque := x }, rfl⟩
  | positionCommand data =>
      show ∃ i, (if s.shadowSyncTrajectory then _ else s) = s.receive i
      split
      · exact ⟨{ s.inputs with shadowExtPosRef := data, shadowPosRefReceived := true }, rfl⟩
      · exact ⟨s.inputs, rfl⟩
  | velocityCommand data =>
      show ∃ i, (if s.shadowSyncTrajectory then _ else s) = s.receive i
      split
      · exact ⟨{ s.inputs with shadowExtVelRef := data, shadowVelRefReceived := true }, rfl⟩
      · exact ⟨s.inputs, rfl⟩
  | engageHil data =>
      show ∃ i, (if s.mode = .hil then (s.engageService time data).1 else s) = s.receive i
      split
      · exact ⟨{ s.inputs with hilEngaged := data, hilRampStartTime := seconds time }, rfl⟩
      · exact ⟨s.inputs, rfl⟩
  | enableHydro data => exact ⟨{ s.inputs with hydroEngaged := data }, rfl⟩

/-- What messages and service calls leave alone. -/
structure SameSimulation (s s' : ChronoFlapNode σ κ α) : Prop where
  sys : s'.sys = s.sys
  hydroAdapter : s'.hydroAdapter = s.hydroAdapter
  shadowPid : s'.shadowPid = s.shadowPid

/-- Only ticks and batches touch the simulation. -/
theorem step_sameSimulation {e : Timed (FlapEvent α)} (htick : e.event ≠ .tick)
    (hbatch : ∀ batch, e.event ≠ .setParameters batch) : s.SameSimulation (s.step env e) := by
  obtain ⟨i, hstep⟩ := s.step_receive env htick hbatch
  rw [hstep]
  exact ⟨rfl, rfl, rfl⟩

/-- **A run of the node projects to a run of the view.** -/
theorem run_hilView (es : List (Timed (FlapEvent α))) :
    (run (step env) s es).hilView = run HilView.step s.hilView es := by
  have hmap := run_map (fun t : ChronoFlapNode σ κ α => t.hilView) id (I := fun _ => True)
    (fun _ _ _ => trivial) (fun t e _ => (t.step_hilView env e).symm) (s := s) trivial es
  rw [List.map_id] at hmap
  exact hmap.symm

end Simulation

end ChronoFlapNode

/-! ## The view against its history -/

namespace HilView

variable {α : Type} [Double α]

/-- A call of the engage service, with its time. -/
def engageCall (e : Timed (FlapEvent α)) : Option (Bool × Time) :=
  match e.event with
  | .engageHil data => some (data, e.time)
  | _ => none

omit [Double α] in
theorem engageCall_eq_some {e : Timed (FlapEvent α)} {data : Bool} {called : Time}
    (h : engageCall e = some (data, called)) : e = ⟨called, .engageHil data⟩ := by
  obtain ⟨time, event⟩ := e
  cases event with
  | engageHil data =>
      cases h
      rfl
  | _ => cases h

/-- The value a batch gives to the ramp time, if a node with the given store
accepts it. -/
def rampTimeUpdate (store : ParameterStore α) (e : Timed (FlapEvent α)) : Option α :=
  match e.event with
  | .setParameters batch =>
      if accepts store ChronoFlapNode.onValidateParameters batch then
        lastSome (Parameter.doubleNamed "hil_ramp_time_s") batch
      else none
  | _ => none

section Step

variable (v : HilView α)

theorem measure_frame (msg : JointState α) :
    ∃ p w stamp received, v.measure msg =
      { v with hwPos := p, hwVel := w, hwStamp := stamp, hwReceived := received } := by
  unfold measure
  cases msg.name.findIdx? (· = v.jointName) with
  | none => exact ⟨v.hwPos, v.hwVel, v.hwStamp, v.hwReceived, rfl⟩
  | some i => exact ⟨_, _, _, _, rfl⟩

omit [Double α] in
/-- A batch of assignments leaves in each assigned member the last value named,
and everything else alone. -/
theorem run_applyParameter_eq (batch : List (Parameter α)) :
    run applyParameter v batch =
      { v with
        hilFeedbackTimeoutS :=
          (lastSome (Parameter.doubleNamed "hil_feedback_timeout_s") batch).getD
            v.hilFeedbackTimeoutS
        hilRampTimeS :=
          (lastSome (Parameter.doubleNamed "hil_ramp_time_s") batch).getD v.hilRampTimeS } := by
  induction batch using List.reverseRecOn with
  | nil => rfl
  | append_singleton batch p ih =>
      rw [run_concat, ih, lastSome_concat, lastSome_concat, applyParameter]
      cases p.doubleNamed "hil_feedback_timeout_s" <;> cases p.doubleNamed "hil_ramp_time_s" <;> rfl

/-- What one callback does to the view in `hil` mode: the gate holds what a call
gives it, and the ramp time what an accepted batch gives it. -/
structure Stepped (v' : HilView α) (e : Timed (FlapEvent α)) : Prop where
  mode : v'.mode = v.mode
  types : v'.parameters.types = v.parameters.types
  hilEngaged : v'.hilEngaged = ((engageCall e).map Prod.fst).getD v.hilEngaged
  hilRampStartTime :
    v'.hilRampStartTime = ((engageCall e).map fun c => seconds c.2).getD v.hilRampStartTime
  hilRampTimeS : v'.hilRampTimeS = (rampTimeUpdate v.parameters e).getD v.hilRampTimeS

theorem step_stepped (hmode : v.mode = .hil) (e : Timed (FlapEvent α)) :
    v.Stepped (v.step e) e := by
  obtain ⟨time, event⟩ := e
  cases event with
  | jointState msg =>
      obtain ⟨p, w, stamp, received, hmeasure⟩ := v.measure_frame msg
      have hstep : v.step ⟨time, .jointState msg⟩ = v.measure msg := if_pos hmode
      rw [hstep, hmeasure]
      exact ⟨rfl, rfl, rfl, rfl, rfl⟩
  | engageHil data =>
      have hstep : v.step ⟨time, .engageHil data⟩ = v.engage time data := if_pos hmode
      rw [hstep]
      exact ⟨rfl, rfl, rfl, rfl, rfl⟩
  | setParameters batch =>
      have hstep : v.step ⟨time, .setParameters batch⟩ = v.setParameters batch := rfl
      rw [hstep, setParameters, run_applyParameter_eq]
      by_cases haccepts :
          accepts v.parameters ChronoFlapNode.onValidateParameters batch = true
      · rw [if_pos haccepts]
        refine ⟨rfl, ParameterStore.types_setAll (accepts_iff.mp haccepts).1, rfl, rfl, ?_⟩
        simp only [rampTimeUpdate, if_pos haccepts]
      · rw [if_neg haccepts]
        refine ⟨rfl, rfl, rfl, rfl, ?_⟩
        simp only [rampTimeUpdate, if_neg haccepts, Option.getD_none]
  | effort data => exact ⟨rfl, rfl, rfl, rfl, rfl⟩
  | positionCommand data => exact ⟨rfl, rfl, rfl, rfl, rfl⟩
  | velocityCommand data => exact ⟨rfl, rfl, rfl, rfl, rfl⟩
  | enableHydro data => exact ⟨rfl, rfl, rfl, rfl, rfl⟩
  | tick => exact ⟨rfl, rfl, rfl, rfl, rfl⟩

/-- No callback changes the mode or the joint. -/
theorem step_fixed (e : Timed (FlapEvent α)) :
    (v.step e).mode = v.mode ∧ (v.step e).jointName = v.jointName := by
  obtain ⟨time, event⟩ := e
  cases event with
  | jointState msg =>
      show (if v.mode = .hil then v.measure msg else v).mode = v.mode ∧
        (if v.mode = .hil then v.measure msg else v).jointName = v.jointName
      split
      · obtain ⟨p, w, stamp, received, hmeasure⟩ := v.measure_frame msg
        rw [hmeasure]
        exact ⟨rfl, rfl⟩
      · exact ⟨rfl, rfl⟩
  | engageHil data =>
      show (if v.mode = .hil then v.engage time data else v).mode = v.mode ∧
        (if v.mode = .hil then v.engage time data else v).jointName = v.jointName
      split
      · exact ⟨rfl, rfl⟩
      · exact ⟨rfl, rfl⟩
  | setParameters batch =>
      show (v.setParameters batch).mode = v.mode ∧ (v.setParameters batch).jointName = v.jointName
      rw [setParameters, run_applyParameter_eq]
      split
      · exact ⟨rfl, rfl⟩
      · exact ⟨rfl, rfl⟩
  | effort data => exact ⟨rfl, rfl⟩
  | positionCommand data => exact ⟨rfl, rfl⟩
  | velocityCommand data => exact ⟨rfl, rfl⟩
  | enableHydro data => exact ⟨rfl, rfl⟩
  | tick => exact ⟨rfl, rfl⟩

theorem rampTimeUpdate_congr {store store' : ParameterStore α} (h : store.types = store'.types)
    (e : Timed (FlapEvent α)) : rampTimeUpdate store e = rampTimeUpdate store' e := by
  unfold rampTimeUpdate
  cases e.event with
  | setParameters batch => simp only [accepts_congr h]
  | _ => rfl

end Step

section Run

variable {v : HilView α} (hmode : v.mode = .hil) (es : List (Timed (FlapEvent α)))

include hmode

theorem run_mode : (run step v es).mode = .hil :=
  invariant_run (I := fun w : HilView α => w.mode = .hil)
    (fun w e h => (w.step_stepped h e).mode.trans h) hmode es

/-- The gate holds the last call of the service. -/
theorem run_gate :
    (run step v es).hilEngaged = ((lastSome engageCall es).map Prod.fst).getD v.hilEngaged ∧
      (run step v es).hilRampStartTime =
        ((lastSome engageCall es).map fun c => seconds c.2).getD v.hilRampStartTime := by
  have hI (w : HilView α) (e : Timed (FlapEvent α)) (h : w.mode = .hil) :
      (w.step e).mode = .hil := (w.step_stepped h e).mode.trans h
  rw [← lastSome_map, ← lastSome_map]
  constructor
  · exact latch_run_of_invariant HilView.hilEngaged hI
      (fun w e h => (w.step_stepped h e).hilEngaged) hmode es
  · exact latch_run_of_invariant HilView.hilRampStartTime hI
      (fun w e h => (w.step_stepped h e).hilRampStartTime) hmode es

/-- The ramp time is the last one accepted. -/
theorem run_rampTime :
    (run step v es).hilRampTimeS =
      (lastSome (rampTimeUpdate v.parameters) es).getD v.hilRampTimeS := by
  refine latch_run_of_invariant HilView.hilRampTimeS
    (I := fun w : HilView α => w.mode = .hil ∧ w.parameters.types = v.parameters.types)
    ?_ ?_ ⟨hmode, rfl⟩ es
  · intro w e h
    have hstepped := w.step_stepped h.1 e
    exact ⟨hstepped.mode.trans h.1, hstepped.types.trans h.2⟩
  · intro w e h
    rw [(w.step_stepped h.1 e).hilRampTimeS, rampTimeUpdate_congr h.2]

end Run

end HilView

namespace ChronoFlapNode

/-! ## Statements about every tick -/

/-- At every tick of a history, `P` holds of what came before it and of its time. -/
def AtTicks {α : Type} (es : List (Timed (FlapEvent α)))
    (P : List (Timed (FlapEvent α)) → Time → Prop) : Prop :=
  ∀ pre now post, es = pre ++ ⟨now, .tick⟩ :: post → P pre now

theorem atTicks_congr {α : Type} {P Q : List (Timed (FlapEvent α)) → Time → Prop}
    (h : ∀ pre now, P pre now ↔ Q pre now) (es : List (Timed (FlapEvent α))) :
    AtTicks es P ↔ AtTicks es Q := by
  constructor
  · intro hP pre now post hes
    exact (h pre now).mp (hP pre now post hes)
  · intro hQ pre now post hes
    exact (h pre now).mpr (hQ pre now post hes)

section Fixed

variable {σ κ α : Type} [Double α] (env : FlapEnvironment σ κ α) (s : ChronoFlapNode σ κ α)

/-- No run changes the mode of the node. -/
theorem run_mode (es : List (Timed (FlapEvent α))) : (run (step env) s es).mode = s.mode := by
  have hview (v : HilView α) : (run HilView.step v es).mode = v.mode :=
    invariant_run (I := fun w : HilView α => w.mode = v.mode)
      (by intro w e hw; exact (w.step_fixed e).1.trans hw) rfl es
  exact (congrArg HilView.mode (run_hilView env s es)).trans (hview s.hilView)

theorem step_mode (e : Timed (FlapEvent α)) : (s.step env e).mode = s.mode :=
  run_mode env s [e]

end Fixed

end ChronoFlapNode

end MarineHil.Ports
