import MarineHil.Ports.LoadWatchdog

/-!
# What the gates do to the raw hydro telemetry

In `hil` mode the node evaluates SEA-Stack only at ticks at which the hydro gate is
open, and publishes zeros otherwise.  So two runs that differ in their gate calls
alone publish the same raw moment and the same wave elevation, whatever SEA-Stack
computes, exactly when the hydro gates stand alike at every tick that evaluates.

## Main results

* `step_ungated`, `tick_ungated`: what a callback does behind the gates.
* `run_ungated`: two runs whose gates agree at the ticks stay together there.
* `telemetry_iff`: the telemetry of both runs.
-/

namespace MarineHil.Ports

open MarineHil.Verified

namespace ChronoFlapNode

variable {σ κ : Type}

/-! ## Behind the gates -/

section Ungated

variable {α : Type} [Double α] (env : FlapEnvironment σ κ α)

/-- The node with both gates as at construction. -/
def ungated (s : ChronoFlapNode σ κ α) : ChronoFlapNode σ κ α :=
  { s with hilEngaged := false, hilRampStartTime := 0, hydroEngaged := false }

/-- What a tick in `hil` mode gets from the adapter. -/
def hilHydro (s : ChronoFlapNode σ κ α) (now : Time) : Option (HydroStep σ κ α) :=
  if s.feedbackOk now then s.measuredHydroStep env now else none

variable {env} {s s' : ChronoFlapNode σ κ α}

theorem run_applyParameter_ungated (s : ChronoFlapNode σ κ α) (batch : List (Parameter α)) :
    (run applyParameter s batch).ungated = run applyParameter s.ungated batch := by
  induction batch generalizing s with
  | nil => rfl
  | cons p batch ih => exact ih (s.applyParameter p)

theorem setParameters_ungated (ch : Chrono σ α) (s : ChronoFlapNode σ κ α)
    (batch : List (Parameter α)) :
    (s.setParameters ch batch).ungated = (s.ungated.setParameters ch batch).ungated := by
  have hrefresh (t : ChronoFlapNode σ κ α) (body shadow : Bool) :
      ((t.refreshBody ch body).refreshShadow shadow).ungated =
        (t.ungated.refreshBody ch body).refreshShadow shadow := by
    cases body <;> cases shadow <;> rfl
  have hstored (t : ChronoFlapNode σ κ α) : t.ungated.ungated = t.ungated := rfl
  unfold setParameters
  by_cases haccepts : s.acceptsBatch batch = true
  · have hungated : s.ungated.acceptsBatch batch = true := haccepts
    rw [if_pos haccepts, if_pos hungated, onApplyParameters, onApplyParameters, hrefresh, hrefresh,
      run_applyParameter_ungated, run_applyParameter_ungated]
    rfl
  · have hungated : ¬s.ungated.acceptsBatch batch = true := haccepts
    rw [if_neg haccepts, if_neg hungated, hstored]

/-- No callback but the tick lets a gate out. -/
theorem step_ungated (s : ChronoFlapNode σ κ α) (time : Time) {event : FlapEvent α}
    (h : event ≠ .tick) :
    (s.step env ⟨time, event⟩).ungated = (s.ungated.step env ⟨time, event⟩).ungated := by
  cases event with
  | jointState msg =>
      show (if s.mode = .hil then s.jointStateCallback msg else s).ungated =
        (if s.mode = .hil then s.ungated.jointStateCallback msg else s.ungated).ungated
      unfold jointStateCallback
      split
      · have hname : s.ungated.jointName = s.jointName := rfl
        rw [hname]
        cases msg.name.findIdx? (· = s.jointName) <;> rfl
      · rfl
  | effort data =>
      show (if s.mode = .hil then s else s.effortCallback data).ungated =
        (if s.mode = .hil then s.ungated else s.ungated.effortCallback data).ungated
      cases data <;> split <;> rfl
  | positionCommand data =>
      show (if s.shadowSyncTrajectory then _ else s).ungated =
        (if s.shadowSyncTrajectory then _ else s.ungated).ungated
      split <;> rfl
  | velocityCommand data =>
      show (if s.shadowSyncTrajectory then _ else s).ungated =
        (if s.shadowSyncTrajectory then _ else s.ungated).ungated
      split <;> rfl
  | engageHil data =>
      show (if s.mode = .hil then (s.engageService time data).1 else s).ungated =
        (if s.mode = .hil then (s.ungated.engageService time data).1 else s.ungated).ungated
      split <;> rfl
  | enableHydro data => rfl
  | setParameters batch => exact setParameters_ungated env.chrono s batch
  | tick => exact absurd rfl h

theorem step_ungated_congr (hsame : s'.ungated = s.ungated) (time : Time) {event : FlapEvent α}
    (h : event ≠ .tick) :
    (s'.step env ⟨time, event⟩).ungated = (s.step env ⟨time, event⟩).ungated := by
  rw [s'.step_ungated time h, hsame, ← s.step_ungated time h]

/-- A tick sees the gates through the adapter's step alone. -/
theorem tick_ungated (hmode : s.mode = .hil) (hsame : s'.ungated = s.ungated) (now : Time)
    (hhydro : s'.hilHydro env now = s.hilHydro env now) :
    (s'.tick env now).node.ungated = (s.tick env now).node.ungated := by
  have hmode' : s'.mode = .hil := by
    show s'.ungated.mode = .hil
    rw [hsame]
    exact hmode
  have hnode (t : ChronoFlapNode σ κ α) (h : Option (HydroStep σ κ α)) :
      ((t.afterHydro h).recordClip (resultOf h).wasClipped).followHardware.ungated =
        ((t.ungated.afterHydro h).recordClip (resultOf h).wasClipped).followHardware := by
    cases h <;> rfl
  unfold hilHydro at hhydro
  rw [tick, tick, if_pos hmode, if_pos hmode', hilTick, hilTick, publish_node, publish_node, hhydro,
    hnode, hnode, hsame]

/-- The adapter is stepped alike where the hydro gates agree. -/
theorem hilHydro_congr (hsame : s'.ungated = s.ungated) (now : Time)
    (hgate : s.feedbackOk now = true → s'.hydroEngaged = s.hydroEngaged) :
    s'.hilHydro env now = s.hilHydro env now := by
  have hfeedback : s'.feedbackOk now = s.feedbackOk now := by
    show s'.ungated.feedbackOk now = s.ungated.feedbackOk now
    rw [hsame]
  have hmeasured (t : ChronoFlapNode σ κ α) : t.measuredHydroStep env now =
      measuredHydroStep { t.ungated with hydroEngaged := t.hydroEngaged } env now := rfl
  unfold hilHydro
  rw [hfeedback]
  cases hok : s.feedbackOk now with
  | false => rfl
  | true => rw [if_pos rfl, if_pos rfl, hmeasured s', hmeasured s, hsame, hgate hok]

theorem tick_hydro (hmode : s.mode = .hil) (now : Time) :
    (s.tick env now).hydro = resultOf (s.hilHydro env now) := by
  rw [tick, if_pos hmode]
  rfl

end Ungated

/-! ## Two patterns of calls -/

/-- A call of one of the two gate services. -/
inductive GateCall where
  | engageHil (data : Bool)
  | enableHydro (data : Bool)

def GateCall.event : GateCall → FlapEvent ℚ
  | engageHil data => .engageHil data
  | enableHydro data => .enableHydro data

/-- Everything is shared but the calls that either side makes alone. -/
inductive GatedEvent where
  | shared (event : FlapEvent ℚ)
  | left (call : GateCall)
  | right (call : GateCall)

def leftEvent (e : Timed GatedEvent) : Option (Timed (FlapEvent ℚ)) :=
  match e.event with
  | .shared event => some ⟨e.time, event⟩
  | .left call => some ⟨e.time, call.event⟩
  | .right _ => none

def rightEvent (e : Timed GatedEvent) : Option (Timed (FlapEvent ℚ)) :=
  match e.event with
  | .shared event => some ⟨e.time, event⟩
  | .left _ => none
  | .right call => some ⟨e.time, call.event⟩

/-- The run of either side. -/
def leftRun (es : List (Timed GatedEvent)) : List (Timed (FlapEvent ℚ)) := es.filterMap leftEvent

def rightRun (es : List (Timed GatedEvent)) : List (Timed (FlapEvent ℚ)) :=
  es.filterMap rightEvent

/-- At every tick, `P` holds of what came before it and of its time. -/
def AtSharedTicks (es : List (Timed GatedEvent)) (P : List (Timed GatedEvent) → Time → Prop) :
    Prop :=
  ∀ pre now post, es = pre ++ ⟨now, .shared .tick⟩ :: post → P pre now

theorem AtSharedTicks.of_append {es fs : List (Timed GatedEvent)}
    {P : List (Timed GatedEvent) → Time → Prop} (h : AtSharedTicks (es ++ fs) P) :
    AtSharedTicks es P := by
  intro pre now post hes
  exact h pre now (post ++ fs) (by rw [hes]; simp)

/-- The value a call gives to the hydro gate. -/
def enableHydroCall {α : Type} (e : Timed (FlapEvent α)) : Option Bool :=
  match e.event with
  | .enableHydro data => some data
  | _ => none

/-- The hydro gate after a history: the last call, and before any the launch. -/
def hydroGate (l : Launch ℚ) (es : List (Timed (FlapEvent ℚ))) : Bool :=
  (lastSome enableHydroCall es).getD ((declared l).getBool "hydro_engaged_default")

/-- Mode and joint of a launch stand in its parameters. -/
def launchMode (l : Launch ℚ) : FlapMode :=
  resolveMode ((declared l).getString "mode") ((declared l).getBool "sil_mode")

section History

variable (env : FlapEnvironment σ κ ℚ) (l : Launch ℚ) (t₀ : Time)

theorem tick_hydroEngaged (s : ChronoFlapNode σ κ ℚ) (now : Time) :
    (s.tick env now).node.hydroEngaged = s.hydroEngaged := by
  have hhydro (t : ChronoFlapNode σ κ ℚ) (h : Option (HydroStep σ κ ℚ)) :
      (t.afterHydro h).hydroEngaged = t.hydroEngaged := by
    cases h <;> rfl
  unfold tick
  split
  · exact hhydro s _
  · refine (hhydro (s.afterShadow (s.shadowStep env.libm now)) _).trans ?_
    unfold afterShadow
    split <;> rfl

theorem setParameters_hydroEngaged (s : ChronoFlapNode σ κ ℚ) (batch : List (Parameter ℚ)) :
    (s.setParameters env.chrono batch).hydroEngaged = s.hydroEngaged :=
  s.setParameters_frame ChronoFlapNode.hydroEngaged (fun _ _ => rfl) (fun _ _ => rfl)
    (fun _ _ => rfl) (fun _ _ => rfl) batch

/-- The hydro gate changes on its calls only. -/
theorem step_hydroEngaged (s : ChronoFlapNode σ κ ℚ) (e : Timed (FlapEvent ℚ)) :
    (s.step env e).hydroEngaged = (enableHydroCall e).getD s.hydroEngaged := by
  obtain ⟨time, event⟩ := e
  cases event with
  | jointState msg =>
      show (if s.mode = .hil then s.jointStateCallback msg else s).hydroEngaged = s.hydroEngaged
      unfold jointStateCallback
      split
      · split <;> rfl
      · rfl
  | effort data =>
      show (if s.mode = .hil then s else s.effortCallback data).hydroEngaged = s.hydroEngaged
      cases data <;> split <;> rfl
  | positionCommand data =>
      show (if s.shadowSyncTrajectory then _ else s).hydroEngaged = s.hydroEngaged
      split <;> rfl
  | velocityCommand data =>
      show (if s.shadowSyncTrajectory then _ else s).hydroEngaged = s.hydroEngaged
      split <;> rfl
  | engageHil data =>
      show (if s.mode = .hil then (s.engageService time data).1 else s).hydroEngaged =
        s.hydroEngaged
      split <;> rfl
  | enableHydro data => rfl
  | setParameters batch => exact setParameters_hydroEngaged env s batch
  | tick => exact tick_hydroEngaged env s time

theorem run_hydroEngaged (es : List (Timed (FlapEvent ℚ))) :
    (run (step env) (start env l t₀) es).hydroEngaged = hydroGate l es :=
  latch_run (fun s : ChronoFlapNode σ κ ℚ => s.hydroEngaged) (step_hydroEngaged env) _ es

/-- The watchdog lets a tick through when the last stamp is not old. -/
theorem run_feedbackOk_iff (hmode : launchMode l = .hil) (es : List (Timed (FlapEvent ℚ)))
    (now : Time) :
    (run (step env) (start env l t₀) es).feedbackOk now = true ↔ ¬StampedOld l es now := by
  have htimeout : (run (step env) (start env l t₀) es).hilFeedbackTimeoutS =
      doubleInForce l "hil_feedback_timeout_s" es :=
    run_member env l t₀ es .hilFeedbackTimeoutS
  unfold StampedOld
  rw [← run_feedback env l t₀ hmode es, ← htimeout, ← feedbackOk_eq_false_iff,
    Bool.not_eq_false]

end History

/-! ## Both runs together -/

section Together

variable {l : Launch ℚ} {t₀ : Time}

/-- The hydro gates stand alike at every tick whose feedback is fresh. -/
def GatesAgree (l : Launch ℚ) (es : List (Timed GatedEvent)) : Prop :=
  AtSharedTicks es fun pre now =>
    ¬StampedOld l (leftRun pre) now → hydroGate l (leftRun pre) = hydroGate l (rightRun pre)

/-- Every tick publishes the same raw moment and the same wave elevation. -/
def TelemetryAgrees (env : FlapEnvironment σ κ ℚ) (l : Launch ℚ) (t₀ : Time)
    (es : List (Timed GatedEvent)) : Prop :=
  AtSharedTicks es fun pre now =>
    let r := (run (step env) (start env l t₀) (leftRun pre)).tick env now
    let r' := (run (step env) (start env l t₀) (rightRun pre)).tick env now
    r.hydro.torqueRawNm = r'.hydro.torqueRawNm ∧ r.hydro.waveEtaM = r'.hydro.waveEtaM

theorem hilHydro_of_gatesAgree (env : FlapEnvironment σ κ ℚ) (hmode : launchMode l = .hil)
    {pre : List (Timed GatedEvent)} {now : Time}
    (hsame : (run (step env) (start env l t₀) (rightRun pre)).ungated =
      (run (step env) (start env l t₀) (leftRun pre)).ungated)
    (hgate : ¬StampedOld l (leftRun pre) now →
      hydroGate l (leftRun pre) = hydroGate l (rightRun pre)) :
    (run (step env) (start env l t₀) (rightRun pre)).hilHydro env now =
      (run (step env) (start env l t₀) (leftRun pre)).hilHydro env now := by
  refine hilHydro_congr hsame now ?_
  intro hok
  rw [run_hydroEngaged, run_hydroEngaged]
  exact (hgate ((run_feedbackOk_iff env l t₀ hmode _ now).mp hok)).symm

/-- **Runs whose hydro gates agree at the ticks differ in the gates alone.** -/
theorem run_ungated (env : FlapEnvironment σ κ ℚ) (hmode : launchMode l = .hil)
    {es : List (Timed GatedEvent)} (h : GatesAgree l es) :
    (run (step env) (start env l t₀) (rightRun es)).ungated =
      (run (step env) (start env l t₀) (leftRun es)).ungated := by
  induction es using List.reverseRecOn with
  | nil => rfl
  | append_singleton es e ih =>
      have hsame := ih h.of_append
      have hleft : leftRun (es ++ [e]) = leftRun es ++ leftRun [e] := List.filterMap_append
      have hright : rightRun (es ++ [e]) = rightRun es ++ rightRun [e] := List.filterMap_append
      rw [hleft, hright, run_append, run_append]
      have hcall (s : ChronoFlapNode σ κ ℚ) (time : Time) (call : GateCall) :
          (s.step env ⟨time, call.event⟩).ungated = s.ungated := by
        cases call with
        | enableHydro data => rfl
        | engageHil data =>
            show (if s.mode = .hil then (s.engageService time data).1 else s).ungated = s.ungated
            split <;> rfl
      obtain ⟨time, event⟩ := e
      cases event with
      | left call => exact hsame.trans (hcall _ time call).symm
      | right call => exact (hcall _ time call).trans hsame
      | shared event =>
          by_cases htick : event = .tick
          · subst htick
            have hgate : ¬StampedOld l (leftRun es) time →
                hydroGate l (leftRun es) = hydroGate l (rightRun es) := h es time [] rfl
            exact tick_ungated (run_mode env _ (leftRun es) |>.trans hmode) hsame time
              (hilHydro_of_gatesAgree env hmode hsame hgate)
          · exact step_ungated_congr hsame time htick

/-- No call of a gate is seen by what latches other events. -/
theorem lastSome_leftRun_eq {β : Type} {f : Timed (FlapEvent ℚ) → Option β}
    (hf : ∀ time (call : GateCall), f ⟨time, call.event⟩ = none) (es : List (Timed GatedEvent)) :
    lastSome f (leftRun es) = lastSome f (rightRun es) := by
  induction es using List.reverseRecOn with
  | nil => rfl
  | append_singleton es e ih =>
      have hleft : leftRun (es ++ [e]) = leftRun es ++ leftRun [e] := List.filterMap_append
      have hright : rightRun (es ++ [e]) = rightRun es ++ rightRun [e] := List.filterMap_append
      rw [hleft, hright, lastSome_append, lastSome_append, ih]
      obtain ⟨time, event⟩ := e
      have hcall (call : GateCall) : lastSome f [⟨time, call.event⟩] = none :=
        lastSome_eq_none_iff.mpr (by
          intro e he
          rw [List.mem_singleton.mp he]
          exact hf time call)
      cases event with
      | shared event => rfl
      | left call =>
          show (lastSome f [⟨time, call.event⟩]).or _ = _
          rw [hcall]
          rfl
      | right call =>
          show _ = (lastSome f [⟨time, call.event⟩]).or _
          rw [hcall]
          rfl

theorem stampedOld_rightRun_iff (es : List (Timed GatedEvent)) (now : Time) :
    StampedOld l (rightRun es) now ↔ StampedOld l (leftRun es) now := by
  have hstamp : lastSome (HilView.stampNaming (jointOf l)) (leftRun es) =
      lastSome (HilView.stampNaming (jointOf l)) (rightRun es) :=
    lastSome_leftRun_eq (by intro time call; cases call <;> rfl) es
  have htimeout : doubleInForce l "hil_feedback_timeout_s" (leftRun es) =
      doubleInForce l "hil_feedback_timeout_s" (rightRun es) := by
    unfold doubleInForce
    rw [lastSome_leftRun_eq (by intro time call; cases call <;> rfl) es]
  unfold StampedOld
  rw [hstamp, htimeout]

end Together

/-! ## A SEA-Stack that shows the gate -/

/-- A constant moment on the flap, from any file. -/
def steadySeaStack (σ : Type) (moment : ℚ) : SeaStack σ Unit ℚ where
  fileExists := fun _ => true
  build := fun _ _ => .ok ()
  evaluate := fun _ _ _ => ([⟨0, moment, 0⟩], ())
  getElevation := fun _ _ _ => 0

section Steady

variable (libm : Libm ℚ) (ch : Chrono σ ℚ) {l : Launch ℚ} (t₀ : Time)

theorem start_steady_adapter (hpath : (declared l).getString "seastack_h5_path" ≠ "") :
    (start ⟨libm, ch, steadySeaStack σ 1⟩ l t₀).hydroAdapter.isSome = true := by
  have hadapter (sys : σ) :
      (startHydro ⟨libm, ch, steadySeaStack σ 1⟩ (declared l) sys).1.isSome = true := by
    have hpath' : (hydroParams (declared l)).h5Path ≠ "" := hpath
    unfold startHydro SeaStackHydroAdapter.new
    rw [if_neg hpath, if_neg hpath']
    rfl
  exact hadapter _

/-- With that SEA-Stack the raw moment is published exactly while the gate is open
on fresh feedback. -/
theorem run_steady_raw (hmode : launchMode l = .hil)
    (hpath : (declared l).getString "seastack_h5_path" ≠ "") (es : List (Timed (FlapEvent ℚ)))
    {now : Time} (hfresh : ¬StampedOld l es now) :
    ((run (step ⟨libm, ch, steadySeaStack σ 1⟩) (start ⟨libm, ch, steadySeaStack σ 1⟩ l t₀)
      es).tick ⟨libm, ch, steadySeaStack σ 1⟩ now).hydro.torqueRawNm =
        if hydroGate l es then 1 else 0 := by
  obtain ⟨a₀, ha₀⟩ := Option.isSome_iff_exists.mp (start_steady_adapter libm ch t₀ hpath)
  have hclip := run_adapterClip _ l t₀ (adapterClip_eq_some_iff.mpr ⟨a₀, ha₀, rfl⟩) es
  obtain ⟨a, ha, _⟩ := adapterClip_eq_some_iff.mp hclip
  have hok := (run_feedbackOk_iff ⟨libm, ch, steadySeaStack σ 1⟩ l t₀ hmode es now).mpr hfresh
  have hmode' := (run_mode ⟨libm, ch, steadySeaStack σ 1⟩
    (start ⟨libm, ch, steadySeaStack σ 1⟩ l t₀) es).trans hmode
  have hgate := run_hydroEngaged ⟨libm, ch, steadySeaStack σ 1⟩ l t₀ es
  generalize run (step ⟨libm, ch, steadySeaStack σ 1⟩) (start ⟨libm, ch, steadySeaStack σ 1⟩ l t₀)
    es = s at ha hok hmode' hgate
  rw [tick_hydro hmode', hilHydro, if_pos hok, measuredHydroStep, hydroStep, ha, ← hgate]
  dsimp only
  cases s.hydroEngaged <;> rfl

/-- **When the gates do not reach the raw telemetry.**  In `hil` mode with a model
file, two runs that differ in their gate calls publish the same raw moment and wave
elevation at every tick, for whatever SEA-Stack builds an adapter, exactly when
their hydro gates agree at every tick with fresh feedback. -/
theorem telemetry_iff (hmode : launchMode l = .hil)
    (hpath : (declared l).getString "seastack_h5_path" ≠ "") (es : List (Timed GatedEvent)) :
    (∀ (κ : Type) (ss : SeaStack σ κ ℚ),
        (start ⟨libm, ch, ss⟩ l t₀).hydroAdapter.isSome = true →
          TelemetryAgrees ⟨libm, ch, ss⟩ l t₀ es) ↔ GatesAgree l es := by
  constructor
  · intro h pre now post hes hfresh
    obtain ⟨hraw, _⟩ := h Unit (steadySeaStack σ 1) (start_steady_adapter libm ch t₀ hpath)
      pre now post hes
    rw [run_steady_raw libm ch t₀ hmode hpath _ hfresh, run_steady_raw libm ch t₀ hmode hpath _
      (mt (stampedOld_rightRun_iff pre now).mp hfresh)] at hraw
    cases hleft : hydroGate l (leftRun pre) <;> cases hright : hydroGate l (rightRun pre)
    · rfl
    · rw [hleft, hright] at hraw
      exact absurd hraw (by norm_num)
    · rw [hleft, hright] at hraw
      exact absurd hraw (by norm_num)
    · rfl
  · intro h κ ss _ pre now post hes
    have hpre : GatesAgree l pre := AtSharedTicks.of_append (hes ▸ h)
    have hsame : (run (step ⟨libm, ch, ss⟩) (start ⟨libm, ch, ss⟩ l t₀) (rightRun pre)).ungated =
        (run (step ⟨libm, ch, ss⟩) (start ⟨libm, ch, ss⟩ l t₀) (leftRun pre)).ungated :=
      run_ungated ⟨libm, ch, ss⟩ hmode hpre
    have hhydro := hilHydro_of_gatesAgree ⟨libm, ch, ss⟩ hmode hsame (h pre now post hes)
    have hmode' (fs : List (Timed (FlapEvent ℚ))) :
        (run (step ⟨libm, ch, ss⟩) (start ⟨libm, ch, ss⟩ l t₀) fs).mode = .hil :=
      (run_mode _ _ fs).trans hmode
    dsimp only
    rw [tick_hydro (hmode' _), tick_hydro (hmode' _), hhydro]
    exact ⟨rfl, rfl⟩

end Steady

/-! ## Looking before engaging -/

/-- A node in `hil` mode with a model file. -/
def modelledHil : Launch ℚ :=
  (Launch.empty.withString "mode" "hil").withString "seastack_h5_path" "flap.h5"

/-- Fresh feedback and one tick, with the hydro gate opened on the left side only. -/
def openedOnLeft : List (Timed GatedEvent) :=
  [ ⟨0, .shared (.jointState (.single 0 "motor_joint" 0 0))⟩, ⟨0, .left (.enableHydro true)⟩
  , ⟨50000000, .shared .tick⟩ ]

theorem telemetry_iff_openedOnLeft :
    (∀ (κ : Type) (ss : SeaStack Unit κ ℚ),
        (start ⟨FlapEnvironment.bare.libm, FlapEnvironment.bare.chrono, ss⟩ modelledHil
          0).hydroAdapter.isSome = true →
          TelemetryAgrees ⟨FlapEnvironment.bare.libm, FlapEnvironment.bare.chrono, ss⟩ modelledHil
            0 openedOnLeft) ↔ GatesAgree modelledHil openedOnLeft :=
  telemetry_iff FlapEnvironment.bare.libm FlapEnvironment.bare.chrono 0 (by decide +kernel)
    (by decide +kernel) openedOnLeft

/-- SEA-Stack returns a moment of 1 N·m.  Before hydro is engaged the raw topic shows
zero. -/
theorem raw_torque_hidden :
    (start ⟨FlapEnvironment.bare.libm, FlapEnvironment.bare.chrono, steadySeaStack Unit 1⟩
        modelledHil 0).hydroAdapter.isSome = true ∧
      ¬TelemetryAgrees ⟨FlapEnvironment.bare.libm, FlapEnvironment.bare.chrono,
        steadySeaStack Unit 1⟩ modelledHil 0 openedOnLeft := by
  constructor
  · decide +kernel
  · intro h
    obtain ⟨hraw, _⟩ := h
      [⟨0, .shared (.jointState (.single 0 "motor_joint" 0 0))⟩, ⟨0, .left (.enableHydro true)⟩]
      50000000 [] rfl
    revert hraw
    decide +kernel

end ChronoFlapNode

end MarineHil.Ports
