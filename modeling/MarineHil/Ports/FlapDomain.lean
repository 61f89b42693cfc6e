import MarineHil.Ports.FlapParameters

/-!
# The parameter domain of `ChronoFlapNode`

The node divides, clamps and damps by parameters that it checks on one of two
ways in.  A batch passes `on_validate_parameters`, which knows every name but
`shadow_integral_limit`, and which refuses by comparisons that NaN passes.  A launch
passes nothing.  So the domain holds in every reachable state exactly when the launch
is in it and no accepted batch makes the one unchecked limit negative or leaves a NaN,
and inside it every clamp has ordered bounds.

## Main results

* `tickClamps_ordered`: in the domain every clamp of a tick is well formed.
* `run_inDomain_iff`: the domain of a state, on the values in force.
* `inDomain_iff`: the domain over whole runs.
-/

namespace MarineHil.Ports

open MarineHil.Verified

/-! ## The clamps of the shadow controller -/

namespace ShadowPidController

variable {α : Type} [Double α]

/-- The output limits of both loops, which no parameter reaches, are ordered. -/
structure OutputsOrdered (c : ShadowPidController α) : Prop where
  velPid : c.velPid.outputMin ≤ c.velPid.outputMax
  posPid : c.posPid.outputMin ≤ c.posPid.outputMax

/-- Limits under which every clamp of the controller is well formed. -/
structure LimitsOrdered (c : ShadowPidController α) : Prop where
  torque : -c.torqueLimitNm ≤ c.torqueLimitNm
  integral : -c.integralLimit ≤ c.integralLimit
  posIntegral : -c.posIntegralLimit ≤ c.posIntegralLimit
  posOutput : -c.posOutputLimit ≤ c.posOutputLimit
  outputs : c.OutputsOrdered

section Clamps

variable {c : ShadowPidController α}

theorem OutputsOrdered.reset (h : c.OutputsOrdered) : c.reset.OutputsOrdered := ⟨h.velPid, h.posPid⟩

theorem OutputsOrdered.prepared (h : c.OutputsOrdered) (simVelocity : α) :
    (c.applyGains.filterVelocity simVelocity).OutputsOrdered := by
  unfold filterVelocity
  split
  · exact ⟨h.velPid, h.posPid⟩
  · exact ⟨h.velPid, h.posPid⟩

theorem OutputsOrdered.dispatch (h : c.OutputsOrdered) (m : Libm α) (simPosition : α)
    (ref : TrajectoryRef α) (dt : α) : (c.dispatch m simPosition ref dt).shadow.OutputsOrdered := by
  cases hmode : c.controlMode with
  | cascade =>
      rw [dispatch_cascade m simPosition ref dt hmode]
      unfold runOuterLoop
      dsimp only
      split
      · exact ⟨h.velPid, h.posPid⟩
      · exact ⟨h.velPid, h.posPid⟩
  | positionOnly =>
      rw [dispatch_positionOnly m simPosition ref dt hmode]
      exact ⟨h.velPid, h.posPid⟩
  | velocityOnly =>
      rw [dispatch_velocityOnly m simPosition ref dt hmode]
      exact ⟨h.velPid, h.posPid⟩

theorem runInnerLoop_clamps (hvel : c.velPid.LimitsOrdered)
    (htorque : -c.torqueLimitNm ≤ c.torqueLimitNm) {velSetpoint accelFf dt : α} {b : α × α}
    (hb : b ∈ (c.runInnerLoop velSetpoint accelFf dt).clamps) : b.1 ≤ b.2 := by
  rcases List.mem_append.mp hb with hpid | hlimit
  · exact hvel.clamps hpid
  · rw [List.mem_singleton.mp hlimit]
    exact htorque

theorem runPositionLoop_clamps (hpos : c.posPid.LimitsOrdered)
    (htorque : -c.torqueLimitNm ≤ c.torqueLimitNm) {posRef simPosition dt : α} {b : α × α}
    (hb : b ∈ (c.runPositionLoop posRef simPosition dt).clamps) : b.1 ≤ b.2 := by
  rcases List.mem_append.mp hb with hpid | hlimit
  · exact hpos.clamps hpid
  · rw [List.mem_singleton.mp hlimit]
    exact htorque

theorem runOuterLoop_clamps (hpos : c.posPid.LimitsOrdered)
    (houtput : -c.posOutputLimit ≤ c.posOutputLimit) {m : Libm α}
    {posRef velFf simPosition dt : α} {b : α × α}
    (hb : b ∈ (c.runOuterLoop m posRef velFf simPosition dt).2) : b.1 ≤ b.2 := by
  unfold runOuterLoop at hb
  dsimp only at hb
  split at hb
  · rcases List.mem_append.mp hb with hpid | hlimit
    · exact hpos.clamps hpid
    · rw [List.mem_singleton.mp hlimit]
      exact houtput
  · exact absurd hb List.not_mem_nil

/-- The outer loop leaves what the inner loop's clamps depend on. -/
theorem runOuterLoop_limits (m : Libm α) (posRef velFf simPosition dt : α) :
    (c.runOuterLoop m posRef velFf simPosition dt).1.velPid = c.velPid ∧
      (c.runOuterLoop m posRef velFf simPosition dt).1.torqueLimitNm = c.torqueLimitNm := by
  unfold runOuterLoop
  dsimp only
  split
  · exact ⟨rfl, rfl⟩
  · exact ⟨rfl, rfl⟩

theorem dispatch_clamps (hvel : c.velPid.LimitsOrdered) (hpos : c.posPid.LimitsOrdered)
    (htorque : -c.torqueLimitNm ≤ c.torqueLimitNm)
    (houtput : -c.posOutputLimit ≤ c.posOutputLimit) {m : Libm α} {simPosition dt : α}
    {ref : TrajectoryRef α} {b : α × α}
    (hb : b ∈ (c.dispatch m simPosition ref dt).clamps) : b.1 ≤ b.2 := by
  cases hmode : c.controlMode with
  | cascade =>
      rw [dispatch_cascade m simPosition ref dt hmode] at hb
      rcases List.mem_append.mp hb with houter | hinner
      · exact runOuterLoop_clamps hpos houtput houter
      · obtain ⟨hpid, hlimit⟩ := c.runOuterLoop_limits m ref.pos ref.vel simPosition dt
        exact runInnerLoop_clamps (by rw [hpid]; exact hvel) (by rw [hlimit]; exact htorque) hinner
  | positionOnly =>
      rw [dispatch_positionOnly m simPosition ref dt hmode] at hb
      exact runPositionLoop_clamps hpos htorque hb
  | velocityOnly =>
      rw [dispatch_velocityOnly m simPosition ref dt hmode] at hb
      exact runInnerLoop_clamps (c := { c with vCmd := ref.vel }) hvel htorque hb

/-- The limits the dispatch runs with, once the gains are applied. -/
theorem LimitsOrdered.prepared (h : c.LimitsOrdered) (simVelocity : α) :
    (c.applyGains.filterVelocity simVelocity).velPid.LimitsOrdered ∧
      (c.applyGains.filterVelocity simVelocity).posPid.LimitsOrdered ∧
      -(c.applyGains.filterVelocity simVelocity).torqueLimitNm ≤
        (c.applyGains.filterVelocity simVelocity).torqueLimitNm ∧
      -(c.applyGains.filterVelocity simVelocity).posOutputLimit ≤
        (c.applyGains.filterVelocity simVelocity).posOutputLimit := by
  unfold filterVelocity
  split
  · exact ⟨⟨h.integral, h.outputs.velPid⟩, ⟨h.posIntegral, h.outputs.posPid⟩, h.torque, h.posOutput⟩
  · exact ⟨⟨h.integral, h.outputs.velPid⟩, ⟨h.posIntegral, h.outputs.posPid⟩, h.torque, h.posOutput⟩

/-- The dispatch as both overloads call it. -/
theorem LimitsOrdered.dispatch (h : c.LimitsOrdered) (simVelocity : α) {m : Libm α}
    {simPosition dt : α} {ref : TrajectoryRef α} {b : α × α}
    (hb : b ∈ ((c.applyGains.filterVelocity simVelocity).dispatch m simPosition ref dt).clamps) :
    b.1 ≤ b.2 := by
  obtain ⟨hvel, hpos, htorque, houtput⟩ := h.prepared simVelocity
  exact dispatch_clamps hvel hpos htorque houtput hb

end Clamps

end ShadowPidController

namespace ChronoFlapNode

open MarineHil.Verified.ExtRat

variable {σ κ : Type}

/-! ## The shadow controller over runs -/

section ShadowRun

variable {α : Type} [Double α] (env : FlapEnvironment σ κ α) {P : ShadowPidController α → Prop}

/-- The shadow controller after a tick. -/
theorem tick_shadowPid (s : ChronoFlapNode σ κ α) (now : Time) :
    (s.tick env now).node.shadowPid = s.shadowPid ∨
      (s.tick env now).node.shadowPid = (s.shadowStep env.libm now).shadow := by
  have hhydro (t : ChronoFlapNode σ κ α) (h : Option (HydroStep σ κ α)) :
      (t.afterHydro h).shadowPid = t.shadowPid := by
    cases h <;> rfl
  unfold tick
  split
  · exact Or.inl (hhydro s _)
  · have hnode : (s.simTick env now).node.shadowPid =
        (s.afterShadow (s.shadowStep env.libm now)).shadowPid := hhydro _ _
    rw [hnode, afterShadow]
    split
    · exact Or.inr rfl
    · exact Or.inl rfl

/-- A batch leaves the shadow controller or reads it anew. -/
theorem setParameters_shadowPid (s : ChronoFlapNode σ κ α) (ch : Chrono σ α)
    (batch : List (Parameter α)) :
    (s.setParameters ch batch).shadowPid = s.shadowPid ∨
      ∃ store, (s.setParameters ch batch).shadowPid = readShadowParams store s.shadowPid := by
  have hrun (t : ChronoFlapNode σ κ α) : (run applyParameter t batch).shadowPid = t.shadowPid :=
    invariant_run (I := fun u : ChronoFlapNode σ κ α => u.shadowPid = t.shadowPid)
      (by intro u p hu; exact hu) rfl batch
  have hbody (t : ChronoFlapNode σ κ α) (changed : Bool) :
      (t.refreshBody ch changed).shadowPid = t.shadowPid := by
    cases changed <;> rfl
  unfold setParameters
  split
  · rw [onApplyParameters, refreshShadow]
    split
    · exact Or.inr ⟨_, congrArg (readShadowParams _) ((hbody _ _).trans (hrun _))⟩
    · rw [hbody, hrun]
      exact Or.inl rfl
  · exact Or.inl rfl

/-- What the two overloads and `read_shadow_params` keep, every callback keeps. -/
theorem step_shadowPid_of {s : ChronoFlapNode σ κ α} (e : Timed (FlapEvent α))
    (htick : ∀ now, P (s.shadowStep env.libm now).shadow)
    (hread : ∀ store, P (readShadowParams store s.shadowPid)) (h : P s.shadowPid) :
    P (s.step env e).shadowPid := by
  obtain ⟨time, event⟩ := e
  have hquiet (htick : event ≠ .tick) (hbatch : ∀ batch, event ≠ .setParameters batch) :
      P (s.step env ⟨time, event⟩).shadowPid := by
    rw [(s.step_sameSimulation env (e := ⟨time, event⟩) htick hbatch).shadowPid]
    exact h
  cases event with
  | setParameters batch =>
      show P (s.setParameters env.chrono batch).shadowPid
      rcases s.setParameters_shadowPid env.chrono batch with hkept | ⟨store, hnode⟩
      · rw [hkept]
        exact h
      · rw [hnode]
        exact hread store
  | tick =>
      show P (s.tick env time).node.shadowPid
      rcases s.tick_shadowPid env time with hnode | hnode
      · rw [hnode]
        exact h
      · rw [hnode]
        exact htick time
  | _ => exact hquiet nofun nofun

end ShadowRun

variable (env : FlapEnvironment σ κ ExtRat)

theorem shadowStep_outputsOrdered {s : ChronoFlapNode σ κ ExtRat} (h : s.shadowPid.OutputsOrdered)
    (now : Time) : (s.shadowStep env.libm now).shadow.OutputsOrdered := by
  unfold shadowStep ShadowPidController.compute ShadowPidController.computeExternal
  split
  · split
    · exact (h.prepared _).dispatch _ _ _ _
    · exact (h.prepared _).dispatch _ _ _ _
  · exact (h.prepared _).dispatch _ _ _ _

theorem run_outputsOrdered (l : Launch ExtRat) (t₀ : Time) (es : List (Timed (FlapEvent ExtRat))) :
    (run (step env) (start env l t₀) es).shadowPid.OutputsOrdered := by
  refine invariant_run (I := fun s : ChronoFlapNode σ κ ExtRat => s.shadowPid.OutputsOrdered) ?_ ?_
    es
  · intro s e h
    exact step_shadowPid_of env e (shadowStep_outputsOrdered env h)
      (fun _ => ⟨h.velPid, h.posPid⟩) h
  · constructor
    · show -lit 1000000000 ≤ (lit 1000000000 : ExtRat)
      decide +kernel
    · show -lit 1000000000 ≤ (lit 1000000000 : ExtRat)
      decide +kernel

/-! ## The domain -/

/-- The members that must be positive. -/
def positiveMembers : List FlapMember :=
  [ .flapLength, .flapWidth, .flapMass, .hilTorqueClipNm, .hilFeedbackTimeoutS
  , .hydroTorqueClipNm ]

/-- Frictions, stiffness and the gains of the load torque. -/
def nonNegativeMembers : List FlapMember :=
  [ .jointDamping, .jointStiffness, .bearingFriction, .coulombFriction
  , .hilVirtualStiffness, .hilVirtualDamping, .hilQuadraticDrag, .hilWaveAmpNm
  , .hilWaveOmegaRadS, .hilRampTimeS ]

def positiveShadowMembers : List ShadowMember :=
  [.torqueLimitNm, .posIntegralLimit, .posOutputLimit]

/-- A valuation of the parameters in the domain the node relies on. -/
structure ParameterDomain (value : String → ExtRat) : Prop where
  positive : ∀ d ∈ positiveMembers, 0 < value d.name
  nonNegative : ∀ d ∈ nonNegativeMembers, 0 ≤ value d.name
  positiveShadow : ∀ d ∈ positiveShadowMembers, 0 < value d.name
  shadowIntegralLimit : 0 ≤ value "shadow_integral_limit"
  shadowFilterAlpha : 0 ≤ value "shadow_filter_alpha" ∧ value "shadow_filter_alpha" < fin 1

/-- The node in that domain: its members, the fields of its shadow controller and
the clip of its adapter. -/
structure InDomain (s : ChronoFlapNode σ κ ExtRat) : Prop where
  positive : ∀ d ∈ positiveMembers, 0 < d.get s
  nonNegative : ∀ d ∈ nonNegativeMembers, 0 ≤ d.get s
  positiveShadow : ∀ d ∈ positiveShadowMembers, 0 < d.get s.shadowPid
  shadowIntegralLimit : 0 ≤ s.shadowPid.integralLimit
  shadowFilterAlpha : 0 ≤ s.shadowPid.filterAlpha ∧ s.shadowPid.filterAlpha < fin 1
  adapterClip : ∀ clip, s.adapterClip = some clip → 0 < clip

/-! ## The clamps of one tick -/

/-- The clamp of the adapter's step, if a tick makes one. -/
def hydroClamps (s : ChronoFlapNode σ κ ExtRat) : List (ExtRat × ExtRat) :=
  match s.hydroAdapter with
  | some a => if s.hydroEngaged then [(-a.torqueClipNm, a.torqueClipNm)] else []
  | none => []

/-- The bounds of the clamps that a tick executes in `compute_load_torque`, in the
controllers and in the adapter.  The stub is computed even where SEA-Stack then
replaces it. -/
def tickClamps (s : ChronoFlapNode σ κ ExtRat) (now : Time) : List (ExtRat × ExtRat) :=
  if s.mode = .hil then
    if s.feedbackOk now then (-s.hilTorqueClipNm, s.hilTorqueClipNm) :: s.hydroClamps else []
  else
    (if s.useShadowPid then (s.shadowStep env.libm now).clamps else []) ++ s.hydroClamps

/-- Every clamp of a tick is well formed. -/
def ClampsOrdered (s : ChronoFlapNode σ κ ExtRat) : Prop :=
  ∀ now, ∀ b ∈ s.tickClamps env now, b.1 ≤ b.2

section Tick

variable {s : ChronoFlapNode σ κ ExtRat}

theorem InDomain.hydroClamps (h : s.InDomain) {b : ExtRat × ExtRat} (hb : b ∈ s.hydroClamps) :
    b.1 ≤ b.2 := by
  unfold ChronoFlapNode.hydroClamps at hb
  cases ha : s.hydroAdapter with
  | none =>
      rw [ha] at hb
      exact absurd hb List.not_mem_nil
  | some a =>
      have hclip : 0 < a.torqueClipNm :=
        h.adapterClip _ (adapterClip_eq_some_iff.mpr ⟨a, ha, rfl⟩)
      rw [ha] at hb
      dsimp only at hb
      split at hb
      · rw [List.mem_singleton.mp hb]
        exact neg_le_self (nonneg_of_pos hclip)
      · exact absurd hb List.not_mem_nil

theorem InDomain.limitsOrdered (h : s.InDomain) (houtputs : s.shadowPid.OutputsOrdered) :
    s.shadowPid.LimitsOrdered where
  torque := neg_le_self (nonneg_of_pos (h.positiveShadow .torqueLimitNm (by decide)))
  integral := neg_le_self h.shadowIntegralLimit
  posIntegral := neg_le_self (nonneg_of_pos (h.positiveShadow .posIntegralLimit (by decide)))
  posOutput := neg_le_self (nonneg_of_pos (h.positiveShadow .posOutputLimit (by decide)))
  outputs := houtputs

theorem shadowStep_clamps (h : s.shadowPid.LimitsOrdered) {now : Time} {b : ExtRat × ExtRat}
    (hb : b ∈ (s.shadowStep env.libm now).clamps) : b.1 ≤ b.2 := by
  unfold shadowStep at hb
  split at hb
  · split at hb
    · exact h.dispatch _ hb
    · exact h.dispatch _ hb
  · exact h.dispatch _ hb

/-- **In the domain every clamp of a tick is well formed.** -/
theorem tickClamps_ordered (h : s.InDomain) (houtputs : s.shadowPid.OutputsOrdered) :
    s.ClampsOrdered env := by
  intro now b hb
  unfold tickClamps at hb
  split at hb
  · split at hb
    · rcases List.mem_cons.mp hb with rfl | hhydro
      · exact neg_le_self (nonneg_of_pos (h.positive .hilTorqueClipNm (by decide)))
      · exact h.hydroClamps hhydro
    · exact absurd hb List.not_mem_nil
  · rcases List.mem_append.mp hb with hshadow | hhydro
    · split at hshadow
      · exact shadowStep_clamps env (h.limitsOrdered houtputs) hshadow
      · exact absurd hshadow List.not_mem_nil
    · exact h.hydroClamps hhydro

end Tick

/-! ## The domain over runs -/

section Run

variable (l : Launch ExtRat) (t₀ : Time) (es : List (Timed (FlapEvent ExtRat)))

/-- **The domain of a reachable state** is that of the values in force. -/
theorem run_inDomain_iff :
    (run (step env) (start env l t₀) es).InDomain ↔
      ParameterDomain fun name => doubleInForce l name es := by
  have hmember (d : FlapMember) : d.get (run (step env) (start env l t₀) es) =
      doubleInForce l d.name es := run_member env l t₀ es d
  have hshadow (d : ShadowMember) : d.get (run (step env) (start env l t₀) es).shadowPid =
      doubleInForce l d.name es := run_shadowMember d env l t₀ es
  constructor
  · intro h
    constructor
    · intro d hd
      exact lt_of_lt_of_eq (h.positive d hd) (hmember d)
    · intro d hd
      exact le_of_le_of_eq (h.nonNegative d hd) (hmember d)
    · intro d hd
      exact lt_of_lt_of_eq (h.positiveShadow d hd) (hshadow d)
    · exact le_of_le_of_eq h.shadowIntegralLimit (hshadow .integralLimit)
    · have halpha := h.shadowFilterAlpha
      rwa [show (run (step env) (start env l t₀) es).shadowPid.filterAlpha = _ from
        hshadow .filterAlpha] at halpha
  · intro h
    constructor
    · intro d hd
      exact lt_of_lt_of_eq (h.positive d hd) (hmember d).symm
    · intro d hd
      exact le_of_le_of_eq (h.nonNegative d hd) (hmember d).symm
    · intro d hd
      exact lt_of_lt_of_eq (h.positiveShadow d hd) (hshadow d).symm
    · exact le_of_le_of_eq h.shadowIntegralLimit (hshadow .integralLimit).symm
    · rw [show (run (step env) (start env l t₀) es).shadowPid.filterAlpha = _ from
        hshadow .filterAlpha]
      exact h.shadowFilterAlpha
    · intro clip hclip
      refine run_adapterClip_pos env t₀ (fun hnone => ?_) hclip
      have hlaunch : 0 < doubleInForce l "hydro_torque_clip_nm" es :=
        h.positive .hydroTorqueClipNm (by decide)
      rwa [doubleInForce, hnone] at hlaunch

/-- A checked filter coefficient stays one, unless NaN comes through the check. -/
theorem filterAlpha_of_doubleUpdate {e : Timed (FlapEvent ExtRat)} {x : ExtRat}
    (h : doubleUpdate l "shadow_filter_alpha" e = some x) : x = .nan ∨ (0 ≤ x ∧ x < fin 1) := by
  obtain ⟨batch, _, haccepts, p, hp, hname, hx⟩ := exists_of_doubleUpdate h
  obtain ⟨r, hr, hok⟩ := checked_of_accepts haccepts hp checkFilterAlpha_mem
  unfold checkFilterAlpha at hr
  rw [if_pos hname, hx, Option.map_some] at hr
  obtain rfl := Option.some.inj hr
  split at hok
  · exact absurd hok Bool.false_ne_true
  · rename_i hbad
    rw [not_or, not_lt_zero_iff, lit_def, not_fin_le_iff] at hbad
    obtain ⟨hnan | hlow, hnan' | hhigh⟩ := hbad
    · exact Or.inl hnan
    · exact Or.inl hnan
    · exact Or.inl hnan'
    · exact Or.inr ⟨hlow, hhigh⟩

/-- The parameters of the domain that a batch has to pass a check for. -/
def checkedNames : List String :=
  (positiveMembers ++ nonNegativeMembers).map FlapMember.name ++
    positiveShadowMembers.map ShadowMember.name ++ ["shadow_filter_alpha"]

/-- What the checks leave open: NaN, which passes them all, and the limit that none of
them names. -/
structure UpdatesKept : Prop where
  numbers : ∀ name ∈ checkedNames, ∀ e ∈ es, doubleUpdate l name e ≠ some .nan
  integralLimit : ∀ e ∈ es, ∀ x, doubleUpdate l "shadow_integral_limit" e = some x → 0 ≤ x

/-- No batch leaves a NaN, so none is in force. -/
theorem UpdatesKept.ne_nan (h : UpdatesKept l es) {name : String} (hname : name ∈ checkedNames)
    (hlaunch : (declared l).getDouble name ≠ .nan) : doubleInForce l name es ≠ .nan := by
  refine doubleInForce_of (P := fun x => x ≠ ExtRat.nan) hlaunch ?_
  rintro e he _ hx rfl
  exact h.numbers name hname e he hx

/-- The values in force stay in the domain. -/
theorem parameterDomain_of_launch (hlaunch : ParameterDomain (declared l).getDouble)
    (hkept : UpdatesKept l es) : ParameterDomain fun name => doubleInForce l name es where
  positive := by
    intro d hd
    have hnan : doubleInForce l d.name es ≠ .nan := hkept.ne_nan l es
      (by simp [checkedNames, List.mem_map_of_mem hd]) (ne_nan_of_pos (hlaunch.positive d hd))
    have hchecked : d.name ∈ flapGeometry ∨ d.name ∈ kHilPositiveParams := by
      clear hnan
      revert d
      decide
    rcases hchecked with hname | hname
    · exact (doubleInForce_pos checkFlapGeometry_mem hname
        (hlaunch.positive d hd) es).resolve_left hnan
    · exact (doubleInForce_pos checkHilPositive_mem hname
        (hlaunch.positive d hd) es).resolve_left hnan
  nonNegative := by
    intro d hd
    have hnan : doubleInForce l d.name es ≠ .nan := hkept.ne_nan l es
      (by simp [checkedNames, List.mem_map_of_mem hd])
      (ne_nan_of_nonneg (hlaunch.nonNegative d hd))
    have hchecked : d.name ∈ jointDynamics ∨ d.name ∈ kHilNonNegativeParams := by
      clear hnan
      revert d
      decide
    rcases hchecked with hname | hname
    · exact (doubleInForce_nonneg checkJointDynamics_mem hname
        (hlaunch.nonNegative d hd) es).resolve_left hnan
    · exact (doubleInForce_nonneg checkHilNonNegative_mem hname
        (hlaunch.nonNegative d hd) es).resolve_left hnan
  positiveShadow := by
    intro d hd
    have hnan : doubleInForce l d.name es ≠ .nan := hkept.ne_nan l es
      (by simp [checkedNames, List.mem_map_of_mem hd])
      (ne_nan_of_pos (hlaunch.positiveShadow d hd))
    have hname : d.name ∈ kShadowPositive := by
      clear hnan
      revert d
      decide
    exact (doubleInForce_pos checkShadowPositive_mem hname
      (hlaunch.positiveShadow d hd) es).resolve_left hnan
  shadowIntegralLimit :=
    doubleInForce_of (P := fun x => 0 ≤ x) hlaunch.shadowIntegralLimit hkept.integralLimit
  shadowFilterAlpha := by
    refine doubleInForce_of (P := fun x => 0 ≤ x ∧ x < fin 1) hlaunch.shadowFilterAlpha ?_
    intro e he x hx
    refine (filterAlpha_of_doubleUpdate l hx).resolve_left ?_
    rintro rfl
    exact hkept.numbers _ (by simp [checkedNames]) e he hx

/-- A valuation in the domain has no NaN. -/
theorem ParameterDomain.ne_nan {value : String → ExtRat} (h : ParameterDomain value)
    {name : String} (hname : name ∈ checkedNames) : value name ≠ .nan := by
  rcases List.mem_append.mp hname with hname | hname
  · rcases List.mem_append.mp hname with hname | hname
    · obtain ⟨d, hd, rfl⟩ := List.mem_map.mp hname
      rcases List.mem_append.mp hd with hd | hd
      · exact ne_nan_of_pos (h.positive d hd)
      · exact ne_nan_of_nonneg (h.nonNegative d hd)
    · obtain ⟨d, hd, rfl⟩ := List.mem_map.mp hname
      exact ne_nan_of_pos (h.positiveShadow d hd)
  · obtain rfl := List.mem_singleton.mp hname
    exact ne_nan_of_nonneg h.shadowFilterAlpha.1

/-- **When the domain holds.**  Every state of a run is in the domain, with every
clamp of every tick well formed, exactly when the launch is in the domain and
every accepted batch leaves `shadow_integral_limit` non-negative and no parameter
of the domain at NaN. -/
theorem inDomain_iff :
    Throughout (step env) (fun s => s.InDomain ∧ s.ClampsOrdered env) (start env l t₀) es ↔
      ParameterDomain (declared l).getDouble ∧ UpdatesKept l es := by
  constructor
  · intro h
    have hvalues (pre : List (Timed (FlapEvent ExtRat))) {e : Timed (FlapEvent ExtRat)}
        (hafter : (run (step env) (start env l t₀) (pre ++ [e])).InDomain ∧
          (run (step env) (start env l t₀) (pre ++ [e])).ClampsOrdered env)
        {name : String} {x : ExtRat} (hx : doubleUpdate l name e = some x) :
        ParameterDomain (fun name => doubleInForce l name (pre ++ [e])) ∧
          doubleInForce l name (pre ++ [e]) = x := by
      refine ⟨(run_inDomain_iff env l t₀ (pre ++ [e])).mp hafter.1, ?_⟩
      rw [doubleInForce, lastSome_concat, hx]
      rfl
    refine ⟨(run_inDomain_iff env l t₀ []).mp h.start.1, ?_, ?_⟩
    · intro name hname e he hx
      obtain ⟨pre, hafter⟩ := h.after he
      obtain ⟨hdomain, hvalue⟩ := hvalues pre hafter hx
      exact hdomain.ne_nan hname hvalue
    · intro e he x hx
      obtain ⟨pre, hafter⟩ := h.after he
      obtain ⟨hdomain, hvalue⟩ := hvalues pre hafter hx
      have hlimit := hdomain.shadowIntegralLimit
      rwa [hvalue] at hlimit
  · rintro ⟨hlaunch, hkept⟩ pre post rfl
    have hpre : UpdatesKept l pre :=
      ⟨fun name hname e he => hkept.numbers name hname e (List.mem_append_left post he),
        fun e he => hkept.integralLimit e (List.mem_append_left post he)⟩
    have hdomain := (run_inDomain_iff env l t₀ pre).mpr
      (parameterDomain_of_launch l pre hlaunch hpre)
    exact ⟨hdomain, tickClamps_ordered env hdomain (run_outputsOrdered env l t₀ pre)⟩

end Run

/-! ## Both ways out of the domain -/

/-- A shadow controller in velocity mode. -/
def velocityShadow : Launch ExtRat := Launch.empty.withString "shadow_control_mode" "velocity_only"

/-- A batch that makes the integral limit negative. -/
def negativeIntegralLimit : Timed (FlapEvent ExtRat) :=
  ⟨0, .setParameters [⟨"shadow_integral_limit", .double (fin (-1))⟩]⟩

/-- A batch that makes the clip of the load NaN. -/
def nanClip : Timed (FlapEvent ExtRat) :=
  ⟨0, .setParameters [⟨"hil_torque_clip_nm", .double nan⟩]⟩

/-- The first batch is accepted, and the next tick clamps the integral between 1 and −1;
a negative clip in the launch does the same to the load torque; and the second batch
is accepted too. -/
theorem clamps_reversed :
    ¬Throughout (step .bare) (fun s => s.InDomain ∧ s.ClampsOrdered .bare)
        (start .bare velocityShadow 0) [negativeIntegralLimit] ∧
      ¬Throughout (step .bare) (fun s => s.InDomain ∧ s.ClampsOrdered .bare)
        (start .bare
          ((Launch.empty.withString "mode" "hil").withDouble "hil_torque_clip_nm" (fin (-1))) 0)
        [⟨0, .jointState (.single 0 "motor_joint" 0 0)⟩] ∧
      ¬Throughout (step .bare) (fun s => s.InDomain ∧ s.ClampsOrdered .bare)
        (start .bare velocityShadow 0) [nanClip] := by
  refine ⟨?_, ?_, ?_⟩
  · intro h
    obtain ⟨_, hclamps⟩ : _ ∧ ClampsOrdered .bare _ := h [negativeIntegralLimit] [] rfl
    have hfirst : (tickClamps .bare
        (run (step .bare) (start .bare velocityShadow 0) [negativeIntegralLimit]) 0)[0]? =
          some (fin 1, fin (-1)) := by
      decide +kernel
    exact absurd (hclamps 0 _ (List.mem_of_getElem? hfirst)) (by decide +kernel)
  · intro h
    obtain ⟨_, hclamps⟩ : _ ∧ ClampsOrdered .bare _ :=
      h [⟨0, .jointState (.single 0 "motor_joint" 0 0)⟩] [] rfl
    have hfirst : (tickClamps .bare
        (run (step .bare) (start .bare
          ((Launch.empty.withString "mode" "hil").withDouble "hil_torque_clip_nm" (fin (-1))) 0)
          [⟨0, .jointState (.single 0 "motor_joint" 0 0)⟩]) 0)[0]? = some (fin 1, fin (-1)) := by
      decide +kernel
    exact absurd (hclamps 0 _ (List.mem_of_getElem? hfirst)) (by decide +kernel)
  · intro h
    obtain ⟨hdomain, _⟩ : InDomain _ ∧ _ := h [nanClip] [] rfl
    exact absurd (hdomain.positive .hilTorqueClipNm (by decide)) (by decide +kernel)

end ChronoFlapNode

end MarineHil.Ports
