import MarineHil.Ports.ChronoFlapHistory

/-!
# What the simulated flap listens to

In `sil` and `parallel` mode the flap is driven by the shadow controller or by the effort
command, as `use_shadow_pid` says, but the node subscribes to the effort topic and to the
references of the shadow controller in either case.

## Main results

* `step_forget`: what a callback does behind the inputs that do not drive the flap.
* `published_of_filter`: with the shadow controller the effort commands, and without it the
  references, have no influence on anything that is published, however the messages and
  ticks are interleaved.
-/

namespace MarineHil.Ports

open MarineHil.Verified

namespace ChronoFlapNode

variable {σ κ α : Type}

/-- The node without the inputs that do not drive it. -/
def forget (shadow : Bool) (s : ChronoFlapNode σ κ α) [Double α] : ChronoFlapNode σ κ α :=
  match shadow with
  | true => { s with latestTorque := 0 }
  | false =>
      { s with
        shadowExtPosRef := 0
        shadowExtVelRef := 0
        shadowPosRefReceived := false
        shadowVelRefReceived := false }

/-- The messages that count. -/
def heeds (shadow : Bool) (e : Timed (FlapEvent α)) : Bool :=
  match e.event with
  | .effort _ => !shadow
  | .positionCommand _ => shadow
  | .velocityCommand _ => shadow
  | _ => true

/-- No batch hands the flap over. -/
def Keeps (shadow : Bool) (e : Timed (FlapEvent α)) : Prop :=
  ∀ batch, e.event = .setParameters batch →
    ∀ p ∈ batch, p.boolNamed "use_shadow_pid" ≠ some (!shadow)

/-- The flap is simulated, and driven as `shadow` says. -/
structure Driven (shadow : Bool) (s : ChronoFlapNode σ κ α) : Prop where
  mode : s.mode ≠ .hil
  useShadowPid : s.useShadowPid = shadow

section Driven

variable {shadow : Bool} {s : ChronoFlapNode σ κ α}

/-- What is driven by the shadow controller has its torque. -/
theorem Driven.torqueCmd (hs : s.Driven shadow) (step : ShadowStep α) :
    s.torqueCmd step = if shadow then step.torque else s.latestTorque := by
  rw [ChronoFlapNode.torqueCmd, hs.useShadowPid]

theorem Driven.afterShadow (hs : s.Driven shadow) (step : ShadowStep α) :
    s.afterShadow step = if shadow then { s with shadowPid := step.shadow } else s := by
  rw [ChronoFlapNode.afterShadow, hs.useShadowPid]

end Driven

end ChronoFlapNode

open ChronoFlapNode

variable {σ κ α : Type} [Double α]

/-- A tick with the inputs forgotten.  The joint state repeats the effort command in `sil`
mode. -/
def FlapTick.forget (shadow : Bool) (t : FlapTick σ κ α) : FlapTick σ κ α :=
  { t with
    node := t.node.forget shadow
    jointState :=
      { t.jointState with effort := if shadow then [] else t.jointState.effort } }

namespace ChronoFlapNode

/-- What a tick shows. -/
def shown (env : FlapEnvironment σ κ α) (shadow : Bool) (s : ChronoFlapNode σ κ α)
    (e : Timed (FlapEvent α)) : Option (FlapTick σ κ α) :=
  match e.event with
  | .tick => some ((s.tick env e.time).forget shadow)
  | _ => none

variable {env : FlapEnvironment σ κ α} {shadow : Bool} {s s' : ChronoFlapNode σ κ α}

/-! ## One callback -/

theorem shadowSyncTrajectory_forget (s : ChronoFlapNode σ κ α) :
    (s.forget shadow).shadowSyncTrajectory = s.shadowSyncTrajectory := by
  cases shadow <;> rfl

theorem forget_forget : (s.forget shadow).forget shadow = s.forget shadow := by
  cases shadow <;> rfl

theorem run_applyParameter_forget (s : ChronoFlapNode σ κ α) (batch : List (Parameter α)) :
    (run applyParameter s batch).forget shadow = run applyParameter (s.forget shadow) batch := by
  induction batch generalizing s with
  | nil => rfl
  | cons p batch ih =>
      rw [run_cons, run_cons, ih]
      cases shadow <;> rfl

theorem setParameters_forget (ch : Chrono σ α) (s : ChronoFlapNode σ κ α)
    (batch : List (Parameter α)) :
    (s.setParameters ch batch).forget shadow = (s.forget shadow).setParameters ch batch := by
  have hrefresh (t : ChronoFlapNode σ κ α) (body reads : Bool) :
      ((t.refreshBody ch body).refreshShadow reads).forget shadow =
        ((t.forget shadow).refreshBody ch body).refreshShadow reads := by
    cases shadow <;> cases body <;> cases reads <;> rfl
  have haccepts : (s.forget shadow).acceptsBatch batch = s.acceptsBatch batch := by
    cases shadow <;> rfl
  rw [setParameters, setParameters, haccepts]
  cases s.acceptsBatch batch with
  | false => rfl
  | true =>
      rw [if_pos rfl, if_pos rfl, onApplyParameters, onApplyParameters, hrefresh,
        run_applyParameter_forget]
      cases shadow <;> rfl

theorem Driven.forget (hs : s.Driven shadow) : (s.forget shadow).Driven shadow := by
  obtain ⟨hmode, huse⟩ := hs
  cases shadow <;> exact ⟨hmode, huse⟩

theorem hydroStep_forget (s : ChronoFlapNode σ κ α) (now : Time) :
    (s.forget shadow).hydroStep env (s.forget shadow).sys
        (seconds (now - (s.forget shadow).startTime)) =
      s.hydroStep env s.sys (seconds (now - s.startTime)) := by
  cases shadow <;> rfl

/-- A tick does not look at the inputs that do not drive the flap. -/
theorem tick_forget (hs : s.Driven shadow) (now : Time) :
    (s.tick env now).forget shadow = ((s.forget shadow).tick env now).forget shadow := by
  rw [tick, tick, if_neg hs.mode, if_neg hs.forget.mode, simTick, simTick, hs.torqueCmd,
    hs.forget.torqueCmd, hs.afterShadow, hs.forget.afterShadow, hs.useShadowPid,
    hs.forget.useShadowPid]
  rw [hydroStep_forget]
  cases s.hydroStep env s.sys (seconds (now - s.startTime)) <;> cases shadow <;> rfl

/-! ## Runs -/

theorem Driven.step (hs : s.Driven shadow) {e : Timed (FlapEvent α)} (he : Keeps shadow e) :
    (s.step env e).Driven shadow := by
  refine ⟨(s.step_mode env e).symm ▸ hs.mode, ?_⟩
  obtain ⟨time, event⟩ := e
  cases event with
  | setParameters batch =>
      have happly (t : ChronoFlapNode σ κ α) (ht : t.useShadowPid = shadow) :
          (run applyParameter t batch).useShadowPid = shadow := by
        refine invariant_run_of_mem (I := fun t : ChronoFlapNode σ κ α =>
          t.useShadowPid = shadow) (fun t p hp ht => ?_) ht
        show (p.boolNamed "use_shadow_pid").getD t.useShadowPid = shadow
        have hkeeps := he batch rfl p hp
        cases hvalue : p.boolNamed "use_shadow_pid" with
        | none => exact ht
        | some b =>
            rw [hvalue] at hkeeps
            cases b <;> cases shadow <;> simp_all
      have hrefresh (t : ChronoFlapNode σ κ α) (body reads : Bool) :
          ((t.refreshBody env.chrono body).refreshShadow reads).useShadowPid = t.useShadowPid := by
        cases body <;> cases reads <;> rfl
      show (s.setParameters env.chrono batch).useShadowPid = shadow
      rw [setParameters]
      split_ifs
      · rw [onApplyParameters, hrefresh]
        exact happly _ hs.useShadowPid
      · exact hs.useShadowPid
  | tick =>
      show (s.tick env time).node.useShadowPid = shadow
      rw [tick, if_neg hs.mode, simTick, hs.afterShadow]
      cases s.hydroStep env s.sys (seconds (time - s.startTime)) <;> cases shadow <;>
        exact hs.useShadowPid
  | jointState msg =>
      show (if s.mode = .hil then s.jointStateCallback msg else s).useShadowPid = shadow
      rw [if_neg hs.mode]
      exact hs.useShadowPid
  | effort data =>
      show (if s.mode = .hil then s else s.effortCallback data).useShadowPid = shadow
      rw [if_neg hs.mode]
      cases data <;> exact hs.useShadowPid
  | positionCommand data =>
      show (if s.shadowSyncTrajectory then _ else s).useShadowPid = shadow
      split_ifs <;> exact hs.useShadowPid
  | velocityCommand data =>
      show (if s.shadowSyncTrajectory then _ else s).useShadowPid = shadow
      split_ifs <;> exact hs.useShadowPid
  | engageHil data =>
      show (if s.mode = .hil then _ else s).useShadowPid = shadow
      rw [if_neg hs.mode]
      exact hs.useShadowPid
  | enableHydro data => exact hs.useShadowPid

/-- **A message that does not count changes only what is forgotten**, and no other callback
looks at that. -/
theorem step_forget (hs : s.Driven shadow) (e : Timed (FlapEvent α)) :
    (s.step env e).forget shadow =
      if heeds shadow e then ((s.forget shadow).step env e).forget shadow
      else s.forget shadow := by
  obtain ⟨time, event⟩ := e
  have hmode := hs.forget.mode
  cases event with
  | jointState msg =>
      show (if s.mode = .hil then s.jointStateCallback msg else s).forget shadow =
        (if (s.forget shadow).mode = .hil then _ else s.forget shadow).forget shadow
      rw [if_neg hs.mode, if_neg hmode, forget_forget]
  | effort data =>
      show (if s.mode = .hil then s else s.effortCallback data).forget shadow =
        if (!shadow) then
          (if (s.forget shadow).mode = .hil then _
            else (s.forget shadow).effortCallback data).forget shadow
        else s.forget shadow
      rw [if_neg hs.mode, if_neg hmode]
      cases shadow <;> cases data <;> rfl
  | positionCommand data =>
      show (if s.shadowSyncTrajectory then _ else s).forget shadow = if shadow then
        (if (s.forget shadow).shadowSyncTrajectory then _ else s.forget shadow).forget shadow
          else s.forget shadow
      rw [shadowSyncTrajectory_forget]
      by_cases hsync : s.shadowSyncTrajectory = true
      · rw [if_pos hsync, if_pos hsync]
        cases shadow <;> rfl
      · rw [if_neg hsync, if_neg hsync]
        cases shadow <;> rfl
  | velocityCommand data =>
      show (if s.shadowSyncTrajectory then _ else s).forget shadow = if shadow then
        (if (s.forget shadow).shadowSyncTrajectory then _ else s.forget shadow).forget shadow
          else s.forget shadow
      rw [shadowSyncTrajectory_forget]
      by_cases hsync : s.shadowSyncTrajectory = true
      · rw [if_pos hsync, if_pos hsync]
        cases shadow <;> rfl
      · rw [if_neg hsync, if_neg hsync]
        cases shadow <;> rfl
  | engageHil data =>
      show (if s.mode = .hil then _ else s).forget shadow =
        (if (s.forget shadow).mode = .hil then _ else s.forget shadow).forget shadow
      rw [if_neg hs.mode, if_neg hmode, forget_forget]
  | enableHydro data => cases shadow <;> rfl
  | setParameters batch =>
      show (s.setParameters env.chrono batch).forget shadow =
        ((s.forget shadow).setParameters env.chrono batch).forget shadow
      rw [setParameters_forget, setParameters_forget, forget_forget]
  | tick => exact congrArg FlapTick.node (tick_forget hs time)

theorem shown_of_not_heeds {e : Timed (FlapEvent α)} (he : heeds shadow e = false) :
    shown env shadow s e = none := by
  obtain ⟨time, event⟩ := e
  cases event with
  | tick => cases he
  | _ => rfl

/-- Messages that do not count can be left out of a run. -/
theorem outputs_heeds (hs : s.Driven shadow) {es : List (Timed (FlapEvent α))}
    (hes : ∀ e ∈ es, Keeps shadow e) :
    outputs (step env) (shown env shadow) s es =
      outputs (step env) (shown env shadow) s (es.filter (heeds shadow)) := by
  refine outputs_filter (fun t => t.forget shadow) (I := fun t => t.Driven shadow)
    (fun e he t ht => ht.step (hes e he)) ?_ ?_ hs hs rfl
  · intro t e ht he
    refine ⟨?_, shown_of_not_heeds he⟩
    rw [step_forget ht, he]
    rfl
  · intro t u e ht hu htu he
    refine ⟨by rw [step_forget ht, step_forget hu, htu], ?_⟩
    obtain ⟨time, event⟩ := e
    cases event with
    | tick =>
        show some ((t.tick env time).forget shadow) = some ((u.tick env time).forget shadow)
        rw [tick_forget ht, tick_forget hu, htu]
    | _ => rfl

/-- **What does not drive the flap has no influence on what is published.**  While the shadow
controller drives it, two histories with different effort commands show the same; while the
effort command does, two histories with different references. -/
theorem published_of_filter (env : FlapEnvironment σ κ α) (l : Launch α) (t₀ : Time)
    (hmode : (start env l t₀).mode ≠ .hil) {shadow : Bool}
    (huse : (start env l t₀).useShadowPid = shadow) {es fs : List (Timed (FlapEvent α))}
    (hes : ∀ e ∈ es, Keeps shadow e)
    (hsame : es.filter (heeds shadow) = fs.filter (heeds shadow)) :
    outputs (step env) (shown env shadow) (start env l t₀) es =
      outputs (step env) (shown env shadow) (start env l t₀) fs := by
  have hfs : ∀ e ∈ fs, Keeps shadow e := by
    intro e he batch hbatch
    have hheeds : heeds shadow e = true := by rw [heeds, hbatch]
    have hmem : e ∈ es.filter (heeds shadow) := hsame ▸ List.mem_filter.mpr ⟨he, hheeds⟩
    exact hes e (List.mem_of_mem_filter hmem) batch hbatch
  have hstart : (start env l t₀).Driven shadow := ⟨hmode, huse⟩
  rw [outputs_heeds hstart hes, outputs_heeds hstart hfs, hsame]

theorem published_of_filter_efforts :
    outputs (step (.bare : FlapEnvironment Unit Empty ℚ)) (shown .bare true)
        (start .bare .empty 0) [⟨1, .effort [1]⟩, ⟨2, .tick⟩, ⟨3, .effort [5]⟩, ⟨4, .tick⟩] =
      outputs (step .bare) (shown .bare true) (start .bare .empty 0) [⟨2, .tick⟩, ⟨4, .tick⟩] :=
  published_of_filter .bare .empty 0 (by decide) (by decide)
    (fun e he batch hbatch => by
      simp only [List.mem_cons, List.not_mem_nil, or_false] at he
      rcases he with rfl | rfl | rfl | rfl <;> cases hbatch)
    rfl

end ChronoFlapNode

end MarineHil.Ports
