import MarineHil.Ports.FlapParameters
import MarineHil.Ports.MixerHistory
import MarineHil.Ports.VelocityPidParameters

/-!
# The parameter store against what the nodes use

Operators read a node's parameters and take them for what the node computes with.
For each of the three nodes `Agrees` says so of a state: every control parameter
has in the store the value that the control code uses.  The store changes by
accepted batches alone, and so do the members but where the node goes its own
way: a default put in place of an invalid launch value, a service that writes a
member, an update that is accepted and has no effect.

## Main results

* `HilTorqueMixerNode.agrees_iff`, `VelocityPidNode.agrees_iff`,
  `ChronoFlapNode.agrees_iff`: the runs along which each node agrees.
* `parameters_agree_iff`: all three.
-/

namespace MarineHil.Ports

open MarineHil.Verified

/-! ## The mixer -/

namespace HilTorqueMixerNode

/-- The store has the values the mixer uses. -/
structure Agrees (s : HilTorqueMixerNode ℚ) : Prop where
  outputRateHz : s.outputRateHz = s.parameters.getDouble "output_rate_hz"
  hardClipNm : s.hardClipNm = s.parameters.getDouble "hard_clip_nm"
  pidTimeoutS : s.pidTimeoutS = s.parameters.getDouble "pid_timeout_s"
  loadTimeoutS : s.loadTimeoutS = s.parameters.getDouble "load_timeout_s"
  enableLoad : s.enableLoad = s.parameters.getBool "enable_load"

section Store

variable {α : Type} [Double α]

/-- The value an accepted batch gives to the parameter `enable_load`. -/
def enableBatch (l : Launch α) (e : Timed (MixerEvent α)) : Option Bool :=
  (acceptedBatch onValidateParameters batchOf (declared l) e).bind
    (lastSome (Parameter.boolNamed "enable_load"))

/-- The parameter `enable_load` after a history. -/
def enableStored (l : Launch α) (es : List (Timed (MixerEvent α))) : Bool :=
  (lastSome (enableBatch l) es).getD (l.getBool "enable_load" true)

theorem run_enableStored (l : Launch α) (es : List (Timed (MixerEvent α))) :
    (run step (start l) es).parameters.getBool "enable_load" = enableStored l es :=
  storesBatches.getBool_run (start l) es rfl

theorem limitUpdate_eq (l : Launch α) (name : String) (e : Timed (MixerEvent α)) :
    limitUpdate l name e =
      (acceptedBatch onValidateParameters batchOf (declared l) e).bind
        (lastSome (Parameter.doubleNamed name)) := by
  rw [acceptedBatch_bind]
  obtain ⟨time, event⟩ := e
  cases event <;> rfl

theorem run_limitStored (l : Launch α) (es : List (Timed (MixerEvent α))) {name : String}
    (hname : (declared l).types name = some .double) :
    (run step (start l) es).parameters.getDouble name =
      (lastSome (limitUpdate l name) es).getD ((declared l).getDouble name) := by
  rw [funext (limitUpdate_eq l name)]
  exact storesBatches.getDouble_run (start l) es hname

end Store

/-- A launch value is used unless it is not positive. -/
theorem resetNonPositive_eq_iff {value default : ℚ} (h : 0 < default) :
    resetNonPositive value default = value ↔ 0 < value := by
  unfold resetNonPositive
  split
  · rename_i hvalue
    refine iff_of_false ?_ (not_lt.mpr hvalue)
    rintro rfl
    exact absurd h (not_lt.mpr hvalue)
  · rename_i hvalue
    exact iff_of_true rfl (not_le.mp hvalue)

/-- The launch values are positive, and the service only repeats the parameter. -/
structure Kept (l : Launch ℚ) (es : List (Timed (MixerEvent ℚ))) : Prop where
  outputRateHz : 0 < l.getDouble "output_rate_hz" 200
  hardClipNm : 0 < l.getDouble "hard_clip_nm" 0.5
  pidTimeoutS : 0 < l.getDouble "pid_timeout_s" 0.2
  loadTimeoutS : 0 < l.getDouble "load_timeout_s" 0.2
  service : ∀ pre time data post, es = pre ++ ⟨time, .enableLoad data⟩ :: post →
    data = enableStored l pre

section Run

variable {l : Launch ℚ} {es : List (Timed (MixerEvent ℚ))}

/-- Where the service only repeats the parameter, the switch is the parameter. -/
theorem loadEnabled_eq (h : ∀ pre time data post, es = pre ++ ⟨time, .enableLoad data⟩ :: post →
    data = enableStored l pre) : loadEnabled l es = enableStored l es := by
  induction es using List.reverseRecOn with
  | nil => rfl
  | append_singleton es e ih =>
      have hprev := ih fun pre time data post hes =>
        h pre time data (post ++ [e]) (by rw [hes]; simp)
      unfold loadEnabled enableStored at hprev ⊢
      rw [lastSome_concat, lastSome_concat, Option.getD_or, Option.getD_or, hprev]
      obtain ⟨time, event⟩ := e
      cases event with
      | enableLoad data => exact h es time data [] rfl
      | setParameters batch =>
          show Option.getD (if (start l).acceptsBatch batch then _ else none) _ =
            (Option.bind (if (start l).acceptsBatch batch then some batch else none) _).getD _
          split <;> rfl
      | _ => rfl

theorem step_outputRateHz (s : HilTorqueMixerNode ℚ) (e : Timed (MixerEvent ℚ)) :
    (s.step e).outputRateHz = s.outputRateHz := by
  obtain ⟨time, event⟩ := e
  cases event with
  | pid data => cases data <;> rfl
  | load data => rfl
  | enableLoad data => rfl
  | tick => rfl
  | setParameters batch =>
      have hrun (t : HilTorqueMixerNode ℚ) : (run applyParameter t batch).outputRateHz =
          t.outputRateHz :=
        invariant_run (I := fun u : HilTorqueMixerNode ℚ => u.outputRateHz = t.outputRateHz)
          (by intro u p hu; exact hu) rfl batch
      show (s.setParameters batch).outputRateHz = s.outputRateHz
      unfold setParameters
      split
      · exact hrun _
      · rfl

/-- The rate of the timer and its parameter stay as they were at first. -/
theorem run_outputRateHz :
    (run step (start l) es).outputRateHz =
        resetNonPositive (l.getDouble "output_rate_hz" 200) 200 ∧
      (run step (start l) es).parameters.getDouble "output_rate_hz" =
        l.getDouble "output_rate_hz" 200 := by
  constructor
  · exact invariant_run
      (I := fun s : HilTorqueMixerNode ℚ => s.outputRateHz = (start l).outputRateHz)
      (by intro s e hs; exact (step_outputRateHz s e).trans hs) rfl es
  · have hname : (run step (start l) es).parameters "output_rate_hz" =
        declared l "output_rate_hz" := by
      refine storesBatches.unnamed_run (start l) es ?_
      intro batch haccepts p hp hpn
      obtain ⟨r, hr, hok⟩ := (acceptsBatch_iff.mp haccepts).2 p hp
      rw [validateParameter, if_pos (by rw [hpn]; decide)] at hr
      obtain rfl := Option.some.inj hr
      exact Bool.false_ne_true hok
    rw [ParameterStore.getDouble, hname]
    rfl

/-- A limit after a run is the stored one when the launch value is used. -/
theorem limit_eq_stored {name : String} {default : ℚ} (hpos : 0 < default)
    (hlaunch : 0 < l.getDouble name default) :
    (lastSome (limitUpdate l name) es).getD
        (resetNonPositive (l.getDouble name default) default) =
      (lastSome (limitUpdate l name) es).getD (l.getDouble name default) := by
  rw [(resetNonPositive_eq_iff hpos).mpr hlaunch]

/-- The mixer after a run whose launch and calls keep to the store. -/
theorem Kept.agrees (h : Kept l es) : (run step (start l) es).Agrees := by
  obtain ⟨hclip, hpid, hload, henable⟩ := run_limits l es
  obtain ⟨hrate, hrateStored⟩ := @run_outputRateHz l es
  constructor
  · rw [hrate, hrateStored, (resetNonPositive_eq_iff (by norm_num)).mpr h.outputRateHz]
  · rw [hclip, run_limitStored l es rfl]
    exact limit_eq_stored (by norm_num) h.hardClipNm
  · rw [hpid, run_limitStored l es rfl]
    exact limit_eq_stored (by norm_num) h.pidTimeoutS
  · rw [hload, run_limitStored l es rfl]
    exact limit_eq_stored (by norm_num) h.loadTimeoutS
  · rw [henable, run_enableStored]
    exact loadEnabled_eq h.service

/-- **When the mixer agrees with its store**, in every state of a run. -/
theorem agrees_iff : Throughout step Agrees (start l) es ↔ Kept l es := by
  constructor
  · intro h
    have hbegin : (start l).Agrees := h.start
    constructor
    · exact (resetNonPositive_eq_iff (by norm_num)).mp hbegin.outputRateHz
    · exact (resetNonPositive_eq_iff (by norm_num)).mp hbegin.hardClipNm
    · exact (resetNonPositive_eq_iff (by norm_num)).mp hbegin.pidTimeoutS
    · exact (resetNonPositive_eq_iff (by norm_num)).mp hbegin.loadTimeoutS
    · intro pre time data post hes
      have henable := (h.after_split hes).enableLoad
      rw [run_concat] at henable
      exact henable.trans (run_enableStored l pre)
  · intro h pre post hes
    have hpre : Kept l pre := by
      refine ⟨h.outputRateHz, h.hardClipNm, h.pidTimeoutS, h.loadTimeoutS, ?_⟩
      intro front time data back hpre
      exact h.service front time data (back ++ post) (by rw [hes, hpre]; simp)
    exact hpre.agrees

end Run

end HilTorqueMixerNode

/-! ## The velocity controller -/

namespace VelocityPidNode

/-- The store has the values the controller uses, down to the gains and limits of
its two PID controllers. -/
structure Agrees (s : VelocityPidNode ℚ) : Prop where
  jointName : s.jointName = s.parameters.getString "joint_name"
  dt : s.dt = 1 / s.parameters.getDouble "rate_hz"
  members : ∀ d : TableMember, d.get s.toVelocityPidMembers = s.parameters.getDouble d.name
  invertOutput : s.invertOutput = s.parameters.getBool "invert_output"
  pids : s.PidsConfigured
  controlMode : ControlMode.ofString (s.parameters.getString "control_mode") = some s.controlMode

section Store

variable {α : Type} [Double α] (m : Libm α) (l : Launch α) (t₀ t₁ : Time)
  (es : List (Timed (VelocityPidEvent α)))

theorem doubleUpdate_eq (name : String) (e : Timed (VelocityPidEvent α)) :
    doubleUpdate l name e =
      (acceptedBatch onValidateParameters batchOf (declared l) e).bind
        (lastSome (Parameter.doubleNamed name)) := by
  rw [acceptedBatch_bind]
  obtain ⟨time, event⟩ := e
  cases event <;> rfl

theorem boolUpdate_eq (name : String) (e : Timed (VelocityPidEvent α)) :
    boolUpdate l name e =
      (acceptedBatch onValidateParameters batchOf (declared l) e).bind
        (lastSome (Parameter.boolNamed name)) := by
  rw [acceptedBatch_bind]
  obtain ⟨time, event⟩ := e
  cases event <;> rfl

theorem run_storedDouble (d : TableMember) :
    (run (step m) (start l t₀ t₁) es).parameters.getDouble d.name =
      (lastSome (doubleUpdate l d.name) es).getD (d.launchValue l) := by
  have htypes : (declared l).types d.name = some .double := by
    cases d <;> rfl
  have hlaunch : (declared l).getDouble d.name = d.launchValue l := by
    cases d <;> rfl
  rw [funext (doubleUpdate_eq l d.name), ← hlaunch]
  exact (storesBatches m).getDouble_run (start l t₀ t₁) es htypes

theorem run_storedInvert :
    (run (step m) (start l t₀ t₁) es).parameters.getBool "invert_output" =
      (lastSome (boolUpdate l "invert_output") es).getD (l.getBool "invert_output" false) := by
  rw [funext (boolUpdate_eq l "invert_output")]
  exact (storesBatches m).getBool_run (start l t₀ t₁) es rfl

theorem run_invertOutput :
    (run (step m) (start l t₀ t₁) es).invertOutput =
      (lastSome (boolUpdate l "invert_output") es).getD (l.getBool "invert_output" false) := by
  have hstart : (start l t₀ t₁).invertOutput = l.getBool "invert_output" false := by
    show (startMembers l).invertOutput = _
    rw [startMembers_eq]
  rw [← hstart]
  refine latch_run_of_invariant (fun s : VelocityPidNode α => s.invertOutput)
    (I := fun s => s.parameters.types = (declared l).types)
    (by intro s e h; exact (step_types m s e).trans h) ?_ rfl es
  intro s e h
  have hmembers := congrArg VelocityPidMembers.invertOutput (step_members m s e)
  refine hmembers.trans ?_
  unfold boolUpdate
  cases e.event with
  | setParameters batch =>
      dsimp only
      rw [acceptsBatch_eq l h]
      split
      · exact latch_run (fun u : VelocityPidMembers α => u.invertOutput) (fun u p => rfl) _ batch
      · rfl
  | _ => rfl

/-- A parameter that a restart alone changes. -/
theorem run_immutable {name : String} (hname : name ∈ kImmutableParams) :
    (run (step m) (start l t₀ t₁) es).parameters name = declared l name := by
  refine (storesBatches m).unnamed_run (start l t₀ t₁) es ?_
  intro batch haccepts p hp hpn
  have haccepts' : (start l t₀ t₁).acceptsBatch batch = true := haccepts
  obtain ⟨r, hr, hok⟩ := (acceptsBatch_iff.mp haccepts').2 p hp
  rw [validateParameter, if_pos (by rw [hpn]; exact hname)] at hr
  obtain rfl := Option.some.inj hr
  exact Bool.false_ne_true hok

/-- An accepted mode is one of the three. -/
theorem controlMode_of_accepts {s : VelocityPidNode α} {batch : List (Parameter α)}
    (h : s.acceptsBatch batch = true) {p : Parameter α} (hp : p ∈ batch)
    (hname : p.name = "control_mode") :
    ∃ mode c, p.value = .string mode ∧ ControlMode.ofString mode = some c := by
  obtain ⟨r, hr, hok⟩ := (acceptsBatch_iff.mp h).2 p hp
  unfold validateParameter at hr
  rw [if_neg (by rw [hname]; decide)] at hr
  have hcheck : (checkControlMode p).successful = true := by
    by_contra hbad
    rw [if_neg hbad] at hr
    obtain rfl := Option.some.inj hr
    exact hbad hok
  unfold checkControlMode at hcheck
  rw [if_pos hname] at hcheck
  cases hv : p.value with
  | string mode =>
      rw [hv] at hcheck
      dsimp only at hcheck
      split at hcheck
      · rename_i hsome
        obtain ⟨c, hc⟩ := Option.isSome_iff_exists.mp hsome
        exact ⟨mode, c, rfl, hc⟩
      · exact absurd hcheck Bool.false_ne_true
  | _ =>
      rw [hv] at hcheck
      exact absurd hcheck Bool.false_ne_true

/-- The mode and its parameter change together. -/
theorem run_applyParameter_controlMode {s : VelocityPidNode α} {store : ParameterStore α}
    (h : ControlMode.ofString (store.getString "control_mode") = some s.controlMode)
    {batch : List (Parameter α)}
    (hvalid : ∀ p ∈ batch, p.name = "control_mode" →
      ∃ mode c, p.value = .string mode ∧ ControlMode.ofString mode = some c) :
    ControlMode.ofString ((store.setAll batch).getString "control_mode") =
      some (run applyParameter s batch).controlMode := by
  induction batch using List.reverseRecOn with
  | nil => exact h
  | append_singleton batch p ih =>
      have hprev := ih fun q hq => hvalid q (List.mem_append_left _ hq)
      rw [ParameterStore.setAll_concat, run_concat, ParameterStore.getString, applyParameter]
      by_cases hname : p.name = "control_mode"
      · obtain ⟨mode, c, hvalue, hc⟩ := hvalid p (by simp) hname
        rw [if_pos hname, hname, Function.update_self, hvalue]
        show ControlMode.ofString mode = some ((ControlMode.ofString mode).getD _)
        rw [hc]
        rfl
      · rw [if_neg hname, Function.update_of_ne (Ne.symm hname)]
        cases findDef (α := α) p.name with
        | none => exact hprev
        | some d => exact hprev

theorem step_storedMode {s : VelocityPidNode α} (e : Timed (VelocityPidEvent α))
    (h : ControlMode.ofString (s.parameters.getString "control_mode") = some s.controlMode) :
    ControlMode.ofString ((s.step m e).parameters.getString "control_mode") =
      some (s.step m e).controlMode := by
  obtain ⟨time, event⟩ := e
  cases event with
  | jointState msg =>
      have hset := s.jointStateCallback_settings msg
      show ControlMode.ofString ((s.jointStateCallback msg).parameters.getString _) =
        some (s.jointStateCallback msg).controlMode
      rw [hset.parameters, hset.controlMode]
      exact h
  | controlLoop =>
      have hset := s.controlLoop_settings m time
      show ControlMode.ofString ((s.controlLoop m time).node.parameters.getString _) =
        some (s.controlLoop m time).node.controlMode
      rw [hset.parameters, hset.controlMode]
      exact h
  | setParameters batch =>
      show ControlMode.ofString ((s.setParameters batch).parameters.getString _) =
        some (s.setParameters batch).controlMode
      unfold setParameters
      split
      · rename_i haccepts
        rw [onApplyParameters_parameters, onApplyParameters_controlMode]
        exact run_applyParameter_controlMode
          (s := { s with parameters := s.parameters.setAll batch }) h
          fun p hp hname => controlMode_of_accepts haccepts hp hname
      · exact h

end Store

/-! ### Launch values -/

theorem positiveOr_eq_iff {default x : ℚ} :
    positiveOr default x = x ↔ 0 < x ∨ x = default := by
  unfold positiveOr
  split
  · rename_i hx
    exact iff_of_true rfl (Or.inl hx)
  · rename_i hx
    exact ⟨fun h => Or.inr h.symm, fun h => (h.resolve_left hx).symm⟩

theorem unitOr_eq_iff {default x : ℚ} :
    unitOr default x = x ↔ (0 ≤ x ∧ x < 1) ∨ x = default := by
  unfold unitOr
  split
  · rename_i hx
    exact iff_of_true rfl (Or.inl hx)
  · rename_i hx
    exact ⟨fun h => Or.inr h.symm, fun h => (h.resolve_left hx).symm⟩

/-- Every launch value passes its validator, or is the default that would replace
it. -/
structure LaunchKept (l : Launch ℚ) : Prop where
  positive : ∀ d ∈ TableMember.positive, 0 < d.launchValue l ∨ d.launchValue l = d.default
  filterAlpha :
    (0 ≤ TableMember.filterAlpha.launchValue l ∧ TableMember.filterAlpha.launchValue l < 1) ∨
      TableMember.filterAlpha.launchValue l = TableMember.filterAlpha.default
  controlMode : ∃ c, ControlMode.ofString (l.getString "control_mode" "position_only") = some c

/-- The constructor lets the value of a parameter through. -/
theorem LaunchKept.admitted {l : Launch ℚ} (h : LaunchKept l) (d : TableMember) :
    d.admitted (d.launchValue l) = d.launchValue l := by
  unfold TableMember.admitted
  split
  · rename_i hd
    exact positiveOr_eq_iff.mpr (h.positive d hd)
  · split
    · rename_i hd
      subst hd
      exact unitOr_eq_iff.mpr h.filterAlpha
    · rfl

theorem launchKept_of_admitted {l : Launch ℚ}
    (h : ∀ d : TableMember, d.admitted (d.launchValue l) = d.launchValue l)
    (hmode : ∃ c, ControlMode.ofString (l.getString "control_mode" "position_only") = some c) :
    LaunchKept l where
  positive := by
    intro d hd
    have hadmitted := h d
    rw [TableMember.admitted, if_pos hd] at hadmitted
    exact positiveOr_eq_iff.mp hadmitted
  filterAlpha := unitOr_eq_iff.mp (h .filterAlpha)
  controlMode := hmode

section Run

variable (m : Libm ℚ) {l : Launch ℚ} (t₀ t₁ : Time) (es : List (Timed (VelocityPidEvent ℚ)))

/-- The controller after any run from a launch that is kept. -/
theorem LaunchKept.agrees (h : LaunchKept l) : (run (step m) (start l t₀ t₁) es).Agrees := by
  have hname := run_jointName m l t₀ t₁ es
  have hdt : (run (step m) (start l t₀ t₁) es).dt = 1 / (startMembers l).rateHz :=
    invariant_run (I := fun s : VelocityPidNode ℚ => s.dt = 1 / (startMembers l).rateHz)
      (by intro s e hs; exact (step_dt m s e).trans hs) rfl es
  constructor
  · rw [hname, ParameterStore.getString, run_immutable m l t₀ t₁ es (by decide)]
    rfl
  · rw [hdt, ParameterStore.getDouble, run_immutable m l t₀ t₁ es (by decide)]
    have hrate : (startMembers l).rateHz = TableMember.rateHz.launchValue l :=
      (get_startMembers .rateHz l).trans (h.admitted .rateHz)
    rw [hrate]
    rfl
  · intro d
    rw [run_tableMember, run_storedDouble, inForce, h.admitted d]
  · rw [run_invertOutput, run_storedInvert]
  · exact run_pidsConfigured m l t₀ t₁ es
  · refine invariant_run (I := fun s : VelocityPidNode ℚ =>
      ControlMode.ofString (s.parameters.getString "control_mode") = some s.controlMode)
      (by intro s e hs; exact step_storedMode m e hs) ?_ es
    obtain ⟨c, hc⟩ := h.controlMode
    show ControlMode.ofString (l.getString "control_mode" "position_only") =
      some ((ControlMode.ofString (l.getString "control_mode" "position_only")).getD .positionOnly)
    rw [hc]
    rfl

/-- **When the velocity controller agrees with its store**, in every state of a
run: nothing but the launch matters. -/
theorem agrees_iff : Throughout (step m) Agrees (start l t₀ t₁) es ↔ LaunchKept l := by
  constructor
  · intro h
    have hbegin : (start l t₀ t₁).Agrees := h.start
    refine launchKept_of_admitted ?_ ⟨_, hbegin.controlMode⟩
    intro d
    rw [← get_startMembers]
    exact (hbegin.members d).trans (run_storedDouble m l t₀ t₁ [] d)
  · intro h pre post _
    exact h.agrees m t₀ t₁ pre

end Run

end VelocityPidNode

/-! ## The flap -/

namespace ChronoFlapNode

variable {σ κ : Type}

/-- What the constructor handed to the adapter is stored. -/
structure HydroStored (p : SeaStackHydroParams ℚ) (store : ParameterStore ℚ) : Prop where
  h5Path : p.h5Path = store.getString "seastack_h5_path"
  waveHsM : p.waveHsM = store.getDouble "wave_hs_m"
  waveTpS : p.waveTpS = store.getDouble "wave_tp_s"
  waveSeed : p.waveSeed = store.getInteger "wave_seed"
  waveNComponents : p.waveNComponents = store.getInteger "wave_n_components"

/-- The parameters that only say how the two gates stand at first. -/
def gateDefaults : List String := ["hil_engaged_default", "hydro_engaged_default"]

/-- The store has the values the flap uses: the periods, the members, the fields of
the shadow controller, the clip of the adapter, and what the constructor made of
the rest.  The mode is resolved once, and in `hil` mode the shadow controller's two
switches with it. -/
structure Agrees (l : Launch ℚ) (s : ChronoFlapNode σ κ ℚ) : Prop where
  jointName : s.jointName = s.parameters.getString "joint_name"
  publishDt : s.publishDt = 1 / s.parameters.getDouble "rate_hz"
  solverDt : s.solverDt = 1 / s.parameters.getDouble "solver_rate_hz"
  members : ∀ d : FlapMember, d.get s = s.parameters.getDouble d.name
  adapterClip : ∀ clip, s.adapterClip = some clip →
    clip = s.parameters.getDouble "hydro_torque_clip_nm"
  shadowMembers : ∀ d : ShadowMember, d.get s.shadowPid = s.parameters.getDouble d.name
  shadowControlMode : ControlMode.ofString (s.parameters.getString "shadow_control_mode") =
    some s.shadowPid.controlMode
  useShadowPid : s.mode ≠ .hil → s.useShadowPid = s.parameters.getBool "use_shadow_pid"
  shadowSyncTrajectory : s.mode ≠ .hil →
    s.shadowSyncTrajectory = s.parameters.getBool "shadow_sync_trajectory"
  gates : ∀ name ∈ gateDefaults, (declared l).getBool name = s.parameters.getBool name
  hydro : HydroStored (hydroParams (declared l)) s.parameters

section Store

variable {α : Type} [Double α] (env : FlapEnvironment σ κ α) (l : Launch α) (t₀ : Time)
  (es : List (Timed (FlapEvent α)))

/-- The value an accepted batch gives to a boolean parameter. -/
def boolUpdate (l : Launch α) (name : String) (e : Timed (FlapEvent α)) : Option Bool :=
  (acceptedBatch onValidateParameters batchOf (declared l) e).bind
    (lastSome (Parameter.boolNamed name))

theorem run_getBool {name : String} (hname : (declared l).types name = some .bool) :
    (run (step env) (start env l t₀) es).parameters.getBool name =
      (lastSome (boolUpdate l name) es).getD ((declared l).getBool name) :=
  (storesBatches env).getBool_run (start env l t₀) es hname

/-- A parameter that cannot be changed at run time. -/
theorem run_immutable {name : String} (hname : name ∈ kImmutableParams) :
    (run (step env) (start env l t₀) es).parameters name = declared l name := by
  refine (storesBatches env).unnamed_run (start env l t₀) es ?_
  intro batch haccepts p hp hpn
  have hcheck : (checkImmutable : ParameterCheck α) ∈ parameterChecks := by
    simp [parameterChecks]
  obtain ⟨r, hr, hok⟩ := checked_of_accepts haccepts hp hcheck
  rw [checkImmutable, if_pos (by rw [hpn]; exact hname)] at hr
  obtain rfl := Option.some.inj hr
  exact Bool.false_ne_true hok

/-- A valid mode of the shadow controller stays valid. -/
theorem run_shadowMode
    (h : ∃ c, ControlMode.ofString ((declared l).getString "shadow_control_mode") = some c) :
    ∃ c, ControlMode.ofString
      ((run (step env) (start env l t₀) es).parameters.getString "shadow_control_mode") =
        some c := by
  refine invariant_run (I := fun s : ChronoFlapNode σ κ α =>
    ∃ c, ControlMode.ofString (s.parameters.getString "shadow_control_mode") = some c) ?_ h es
  intro s e hs
  have hstore : (s.step env e).parameters = _ := storesBatches env s e
  rw [hstore]
  cases hbatch : acceptedBatch onValidateParameters batchOf s.parameters e with
  | none => exact hs
  | some batch =>
      show ∃ c, ControlMode.ofString ((s.parameters.setAll batch).getString _) = some c
      unfold ParameterStore.getString at hs ⊢
      obtain hsame | ⟨p, hp, hname, hvalue⟩ :=
        s.parameters.setAll_eq_or batch "shadow_control_mode"
      · rw [hsame]
        exact hs
      · rw [hvalue]
        have hcheck : (checkShadowControlMode : ParameterCheck α) ∈ parameterChecks := by
          simp [parameterChecks]
        obtain ⟨r, hr, hok⟩ := checked_of_accepts (accepts_of_acceptedBatch hbatch) hp hcheck
        rw [checkShadowControlMode, if_pos hname] at hr
        split at hr
        · rename_i hsome
          obtain ⟨c, hmode⟩ := Option.isSome_iff_exists.mp hsome
          obtain ⟨mode, hstring, hc⟩ := Option.bind_eq_some_iff.mp hmode
          refine ⟨c, ?_⟩
          rw [Option.bind_some, hstring]
          exact hc
        · obtain rfl := Option.some.inj hr
          exact absurd hok Bool.false_ne_true

/-- What the constructor fixed stays as it was. -/
theorem run_fixed :
    (run (step env) (start env l t₀) es).jointName = (declared l).getString "joint_name" ∧
      (run (step env) (start env l t₀) es).publishDt =
        periodOf ((declared l).getDouble "rate_hz") (lit 0.01) ∧
      (run (step env) (start env l t₀) es).solverDt =
        periodOf ((declared l).getDouble "solver_rate_hz") (lit 0.001) ∧
      (run (step env) (start env l t₀) es).shadowSyncTrajectory =
        (start env l t₀).shadowSyncTrajectory := by
  have hfixed := (start env l t₀).run_settings_frame
    (fun t => (t.jointName, t.publishDt, t.solverDt, t.shadowSyncTrajectory))
    (fun _ _ => rfl) (fun _ _ => rfl) (fun _ _ => rfl) env es
  simp only [Prod.mk.injEq] at hfixed
  exact hfixed

/-- The choice of the shadow controller follows its parameter. -/
theorem run_useShadowPid :
    (run (step env) (start env l t₀) es).useShadowPid =
      (lastSome (boolUpdate l "use_shadow_pid") es).getD (start env l t₀).useShadowPid := by
  refine latch_run_of_invariant (fun s : ChronoFlapNode σ κ α => s.useShadowPid)
    (I := fun s => s.parameters.types = (declared l).types)
    (by intro s e h; exact (step_types env s e).trans h) ?_ rfl es
  intro s e h
  refine (congrArg ChronoFlapNode.useShadowPid (s.step_settings env e)).trans ?_
  obtain ⟨time, event⟩ := e
  cases event with
  | setParameters batch =>
      have hbatch : acceptedBatch onValidateParameters batchOf (declared l)
          (⟨time, .setParameters batch⟩ : Timed (FlapEvent α)) =
            if s.acceptsBatch batch then some batch else none := by
        rw [acceptsBatch_eq h]
        rfl
      rw [boolUpdate, hbatch]
      show (s.settings.setParameters _ batch).useShadowPid = _
      unfold setParameters
      by_cases haccepts : s.acceptsBatch batch = true
      · have hsettings : s.settings.acceptsBatch batch = true := haccepts
        have hrun := latch_run (fun u : ChronoFlapNode Unit Unit α => u.useShadowPid)
          (fun u p => (rfl : (applyParameter u p).useShadowPid = _))
          { s.settings with parameters := s.settings.parameters.setAll batch } batch
        rw [if_pos haccepts, if_pos hsettings, onApplyParameters]
        refine Eq.trans ?_ hrun
        cases shadowPidChanged batch <;> cases bodyNeedsUpdate batch <;> rfl
      · have hsettings : ¬s.settings.acceptsBatch batch = true := haccepts
        rw [if_neg haccepts, if_neg hsettings]
        rfl
  | _ => rfl

end Store

/-! ### Launch values -/

theorem periodOf_eq_iff {rate fallback : ℚ} (h : 0 < fallback) :
    periodOf rate fallback = 1 / rate ↔ 0 < rate := by
  unfold periodOf
  split
  · rename_i hrate
    exact iff_of_true rfl hrate
  · rename_i hrate
    refine iff_of_false ?_ hrate
    intro heq
    have hnonpos : 1 / rate ≤ 0 := one_div_nonpos.mpr (not_lt.mp hrate)
    exact absurd h (not_lt.mpr (heq.trans_le hnonpos))

theorem clipFloor_eq_iff {clip : ℚ} : clipFloor clip = clip ↔ 1e-9 ≤ clip := by
  unfold clipFloor
  simp only [lit_rat]
  split
  · rename_i hclip
    exact iff_of_true rfl hclip.le
  · rename_i hclip
    exact ⟨fun h => h.le, fun h => le_antisymm h (not_lt.mp hclip)⟩

/-- Launch values the constructor takes as they are, no clip below the floor of the
adapter, and no new value for a parameter that is read only once. -/
structure Kept (env : FlapEnvironment σ κ ℚ) (l : Launch ℚ) (t₀ : Time)
    (es : List (Timed (FlapEvent ℚ))) : Prop where
  rateHz : 0 < (declared l).getDouble "rate_hz"
  solverRateHz : 0 < (declared l).getDouble "solver_rate_hz"
  shadowControlMode : ∃ c, ControlMode.ofString
    ((declared l).getString "shadow_control_mode") = some c
  waveSeed : -2 ^ 31 ≤ (declared l).getInteger "wave_seed" ∧
    (declared l).getInteger "wave_seed" < 2 ^ 31
  waveNComponents : -2 ^ 31 ≤ (declared l).getInteger "wave_n_components" ∧
    (declared l).getInteger "wave_n_components" < 2 ^ 31
  adapterClip : (start env l t₀).adapterClip ≠ none →
    ∀ e ∈ es, ∀ clip, doubleUpdate l "hydro_torque_clip_nm" e = some clip → 1e-9 ≤ clip
  shadowSyncTrajectory : (start env l t₀).mode ≠ .hil →
    ∀ e ∈ es, ∀ b, boolUpdate l "shadow_sync_trajectory" e = some b →
      b = (declared l).getBool "shadow_sync_trajectory"
  hilEngagedDefault : ∀ e ∈ es, ∀ b, boolUpdate l "hil_engaged_default" e = some b →
    b = (declared l).getBool "hil_engaged_default"

section Run

variable {env : FlapEnvironment σ κ ℚ} {l : Launch ℚ} {t₀ : Time}
  {es : List (Timed (FlapEvent ℚ))}

/-- In the modes of the engine the two switches start as the parameters say. -/
theorem start_switches (hmode : (start env l t₀).mode ≠ .hil) :
    (start env l t₀).useShadowPid = (declared l).getBool "use_shadow_pid" ∧
      (start env l t₀).shadowSyncTrajectory =
        (declared l).getBool "shadow_sync_trajectory" := by
  have hhil : ((start env l t₀).mode != .hil) = true := bne_iff_ne.mpr hmode
  constructor
  · show (_ && ((start env l t₀).mode != .hil)) = _
    rw [hhil, Bool.and_true]
  · show (_ && ((start env l t₀).mode != .hil)) = _
    rw [hhil, Bool.and_true]

/-- The adapter's clip and its parameter, while no clip is below the floor. -/
theorem adapterClip_eq_stored (h : (start env l t₀).adapterClip ≠ none →
      ∀ e ∈ es, ∀ clip, doubleUpdate l "hydro_torque_clip_nm" e = some clip → 1e-9 ≤ clip)
    {clip : ℚ} (hclip : (run (step env) (start env l t₀) es).adapterClip = some clip) :
    clip = doubleInForce l "hydro_torque_clip_nm" es := by
  cases hstart : (start env l t₀).adapterClip with
  | none =>
      rw [run_adapterClip_none env l t₀ hstart es] at hclip
      cases hclip
  | some launched =>
      rw [run_adapterClip env l t₀ hstart es] at hclip
      obtain rfl := Option.some.inj hclip
      rw [doubleInForce, start_adapterClip env l t₀ hstart]
      cases hlast : lastSome (doubleUpdate l "hydro_torque_clip_nm") es with
      | none => rfl
      | some x =>
          obtain ⟨pre, e, post, hes, he, _⟩ := lastSome_eq_some_iff.mp hlast
          have hfloor := h (by rw [hstart]; exact Option.some_ne_none _) e (by simp [hes]) x he
          exact clipFloor_eq_iff.mpr hfloor

/-- The wave's settings after a run, which no batch changes. -/
theorem hydroStored_run_iff :
    HydroStored (hydroParams (declared l)) (run (step env) (start env l t₀) es).parameters ↔
      toInt32 ((declared l).getInteger "wave_seed") = (declared l).getInteger "wave_seed" ∧
        toInt32 ((declared l).getInteger "wave_n_components") =
          (declared l).getInteger "wave_n_components" := by
  have hsame (name : String) (hname : name ∈ kImmutableParams) :=
    run_immutable env l t₀ es hname
  have hinteger (name : String) (hname : name ∈ kImmutableParams) :
      (run (step env) (start env l t₀) es).parameters.getInteger name =
        (declared l).getInteger name := by
    rw [ParameterStore.getInteger, hsame name hname]
    rfl
  constructor
  · intro h
    have hseed := h.waveSeed
    have hcomponents := h.waveNComponents
    rw [hinteger _ (by decide)] at hseed hcomponents
    exact ⟨hseed, hcomponents⟩
  · intro h
    constructor
    · rw [ParameterStore.getString, hsame _ (by decide)]
      rfl
    · rw [ParameterStore.getDouble, hsame _ (by decide)]
      rfl
    · rw [ParameterStore.getDouble, hsame _ (by decide)]
      rfl
    · rw [hinteger _ (by decide)]
      exact h.1
    · rw [hinteger _ (by decide)]
      exact h.2

/-- The flap after a run that keeps to its store. -/
theorem Kept.agrees (h : Kept env l t₀ es) : (run (step env) (start env l t₀) es).Agrees l := by
  obtain ⟨hname, hpublish, hsolver, hsync⟩ := run_fixed env l t₀ es
  have hmode := run_mode env (start env l t₀) es
  have hdouble {name : String} (hname : name ∈ kImmutableParams) :
      (run (step env) (start env l t₀) es).parameters.getDouble name =
        (declared l).getDouble name := by
    rw [ParameterStore.getDouble, run_immutable env l t₀ es hname]
    rfl
  constructor
  · rw [hname, ParameterStore.getString, ParameterStore.getString,
      run_immutable env l t₀ es (by decide)]
  · rw [hpublish, hdouble (by decide)]
    exact (periodOf_eq_iff (by norm_num)).mpr h.rateHz
  · rw [hsolver, hdouble (by decide)]
    exact (periodOf_eq_iff (by norm_num)).mpr h.solverRateHz
  · intro d
    rw [run_member, run_getDouble env l t₀ es (declared_types d l)]
  · intro clip hclip
    rw [adapterClip_eq_stored h.adapterClip hclip]
    exact (run_getDouble env l t₀ es (declared_types .hydroTorqueClipNm l)).symm
  · intro d
    rw [run_shadowMember, run_getDouble env l t₀ es (declared_shadow_types d l)]
  · obtain ⟨c, hc⟩ := run_shadowMode env l t₀ es h.shadowControlMode
    have hpid := congrArg ShadowPidController.controlMode (run_shadowStored env l t₀ es)
    have hused : (run (step env) (start env l t₀) es).shadowPid.controlMode =
        (ControlMode.ofString ((run (step env) (start env l t₀) es).parameters.getString
          "shadow_control_mode")).getD .positionOnly := hpid
    rw [hused, hc]
    rfl
  · intro hne
    rw [run_useShadowPid, run_getBool env l t₀ es rfl,
      (start_switches (by rw [← hmode]; exact hne)).1]
  · intro hne
    have hstart : (start env l t₀).mode ≠ .hil := by
      rw [← hmode]
      exact hne
    rw [hsync, (start_switches hstart).2, run_getBool env l t₀ es rfl,
      lastSome_getD_of_forall (h.shadowSyncTrajectory hstart)]
  · intro name hmem
    obtain rfl | rfl : name = "hil_engaged_default" ∨ name = "hydro_engaged_default" := by
      simpa [gateDefaults] using hmem
    · rw [run_getBool env l t₀ es rfl, lastSome_getD_of_forall h.hilEngagedDefault]
    · rw [ParameterStore.getBool, ParameterStore.getBool, run_immutable env l t₀ es (by decide)]
  · exact hydroStored_run_iff.mpr ⟨toInt32_eq_iff.mpr h.waveSeed,
      toInt32_eq_iff.mpr h.waveNComponents⟩

/-- **When the flap agrees with its store**, in every state of a run. -/
theorem agrees_iff : Throughout (step env) (Agrees l) (start env l t₀) es ↔ Kept env l t₀ es := by
  constructor
  · intro h
    have hbegin : (start env l t₀).Agrees l := h.start
    have hhydro : HydroStored (hydroParams (declared l))
        (run (step env) (start env l t₀) []).parameters := hbegin.hydro
    obtain ⟨hseed, hcomponents⟩ := hydroStored_run_iff.mp hhydro
    constructor
    · exact (periodOf_eq_iff (by norm_num)).mp hbegin.publishDt
    · exact (periodOf_eq_iff (by norm_num)).mp hbegin.solverDt
    · exact ⟨_, hbegin.shadowControlMode⟩
    · exact toInt32_eq_iff.mp hseed
    · exact toInt32_eq_iff.mp hcomponents
    · intro hadapter e he clip hclip
      obtain ⟨pre, hagrees⟩ := h.after he
      obtain ⟨launched, hstart⟩ := Option.ne_none_iff_exists'.mp hadapter
      have hused := hagrees.adapterClip _ (run_adapterClip env l t₀ hstart _)
      have hstored : _ = doubleInForce l "hydro_torque_clip_nm" (pre ++ [e]) :=
        run_getDouble env l t₀ (pre ++ [e]) (declared_types .hydroTorqueClipNm l)
      have hboth := hused.trans hstored
      rw [doubleInForce, lastSome_concat_of_some hclip pre] at hboth
      exact clipFloor_eq_iff.mp hboth
    · intro hmode e he b hb
      obtain ⟨pre, hagrees⟩ := h.after he
      have hused := hagrees.shadowSyncTrajectory (by rw [run_mode]; exact hmode)
      rw [(run_fixed env l t₀ _).2.2.2, (start_switches hmode).2, run_getBool env l t₀ _ rfl,
        lastSome_concat_of_some hb pre] at hused
      exact hused.symm
    · intro e he b hb
      obtain ⟨pre, hagrees⟩ := h.after he
      have hused := hagrees.gates "hil_engaged_default" (by decide)
      rw [run_getBool env l t₀ _ rfl, lastSome_concat_of_some hb pre] at hused
      exact hused.symm
  · intro h pre post hes
    have hmem {e : Timed (FlapEvent ℚ)} (he : e ∈ pre) : e ∈ es := by
      rw [hes]
      exact List.mem_append_left _ he
    have hpre : Kept env l t₀ pre :=
      { h with
        adapterClip := fun hadapter e he => h.adapterClip hadapter e (hmem he)
        shadowSyncTrajectory := fun hmode e he => h.shadowSyncTrajectory hmode e (hmem he)
        hilEngagedDefault := fun e he => h.hilEngagedDefault e (hmem he) }
    exact hpre.agrees

end Run

end ChronoFlapNode

/-! ## The three nodes -/

/-- **The store and the running nodes agree** along exactly the runs that keep to
the store: on the mixer and the flap the runs are what matters, on the velocity
controller the launch alone. -/
theorem parameters_agree_iff {σ κ : Type} (mixer pid flap : Launch ℚ)
    (mixerRun : List (Timed (MixerEvent ℚ))) (m : Libm ℚ) (t₀ t₁ : Time)
    (pidRun : List (Timed (VelocityPidEvent ℚ))) (env : FlapEnvironment σ κ ℚ)
    (flapRun : List (Timed (FlapEvent ℚ))) :
    (Throughout HilTorqueMixerNode.step HilTorqueMixerNode.Agrees
        (HilTorqueMixerNode.start mixer) mixerRun ↔
      HilTorqueMixerNode.Kept mixer mixerRun) ∧
    (Throughout (VelocityPidNode.step m) VelocityPidNode.Agrees
        (VelocityPidNode.start pid t₀ t₁) pidRun ↔
      VelocityPidNode.LaunchKept pid) ∧
    (Throughout (ChronoFlapNode.step env) (ChronoFlapNode.Agrees flap)
        (ChronoFlapNode.start env flap t₀) flapRun ↔
      ChronoFlapNode.Kept env flap t₀ flapRun) := by
  refine ⟨?_, ?_, ?_⟩
  · exact HilTorqueMixerNode.agrees_iff
  · exact VelocityPidNode.agrees_iff m t₀ t₁ pidRun
  · exact ChronoFlapNode.agrees_iff

/-- An update that every validator lets through. -/
def syncOff : Timed (FlapEvent ℚ) :=
  ⟨0, .setParameters [⟨"shadow_sync_trajectory", .bool false⟩]⟩

/-- The service call is not stored, the replaced launch value is not stored, and the
stored update is not used. -/
theorem parameters_disagree :
    ¬Throughout HilTorqueMixerNode.step HilTorqueMixerNode.Agrees
        (HilTorqueMixerNode.start Launch.empty) [⟨0, .enableLoad false⟩] ∧
      ¬Throughout (VelocityPidNode.step (⟨id, fun _ => 1, fun _ => 0⟩ : Libm ℚ))
        VelocityPidNode.Agrees
        (VelocityPidNode.start (Launch.empty.withDouble "torque_limit_nm" (-1)) 0 0) [] ∧
      ¬Throughout (ChronoFlapNode.step .bare) (ChronoFlapNode.Agrees Launch.empty)
        (ChronoFlapNode.start .bare Launch.empty 0) [syncOff] := by
  refine ⟨?_, ?_, ?_⟩
  · intro h
    have hused := (h [⟨0, .enableLoad false⟩] [] rfl).enableLoad
    exact absurd hused (by decide +kernel)
  · intro h
    have hused := (h [] [] rfl).members .torqueLimitNm
    exact absurd hused (by decide +kernel)
  · intro h
    have hused := (h [syncOff] [] rfl).shadowSyncTrajectory (by decide +kernel)
    exact absurd hused (by decide +kernel)

end MarineHil.Ports
