import MarineHil.Ports.ChronoFlapHistory

/-!
# The hydro torque in the engine

Outside `hil` mode SEA-Stack's torque reaches the flap through an accumulator of
the engine, which keeps its content until it is emptied.  Only the adapter's step
empties it, and the node calls the step only while hydro is engaged.  So the
torque that acts during a tick is the one of the last engaged tick, whatever the
telemetry says.

## Main results

* `tick_held`: the accumulator during the sub-steps of one tick.
* `run_held`: after a run it holds the torque of the last engaged tick.
* `torqueShown_iff`: exactly when the telemetry shows it, at every tick of a run.
-/

namespace MarineHil.Ports

open MarineHil.Verified

variable {σ κ α : Type} [Double α]

/-- What the engine promises of the flap's accumulators, where `heldY i sys` is
the torque about Y in accumulator `i`: a new one is empty, an emptied one holds
what is put into it, and nothing else changes the content. -/
structure Chrono.KeepsAccumulators (ch : Chrono σ α) (heldY : ℕ → σ → α) : Prop where
  add : ∀ sys, heldY (ch.addAccumulator sys).1 (ch.addAccumulator sys).2 = 0
  refill : ∀ i torque sys,
    heldY i (ch.accumulateTorque i torque (ch.emptyAccumulator i sys)) = torque.y
  setFlap : ∀ body i sys, heldY i (ch.setFlap body sys) = heldY i sys
  setSetpoint : ∀ torque t i sys, heldY i (ch.setSetpoint torque t sys) = heldY i sys
  doStepDynamics : ∀ dt i sys, heldY i (ch.doStepDynamics dt sys) = heldY i sys

namespace ChronoFlapNode

/-! ## The sub-steps -/

/-- The node of a tick when its sub-steps begin. -/
def poised (s : ChronoFlapNode σ κ α) (env : FlapEnvironment σ κ α) (now : Time) :
    ChronoFlapNode σ κ α :=
  let h := s.hydroStep env s.sys (seconds (now - s.startTime))
  ((s.afterShadow (s.shadowStep env.libm now)).afterHydro h).recordClip (resultOf h).wasClipped

/-- The engine of a tick after `k` sub-steps. -/
def subStepSystem (s : ChronoFlapNode σ κ α) (env : FlapEnvironment σ κ α) (now : Time)
    (k : ℕ) : σ :=
  ((s.poised env now).substep env.chrono (s.torqueCmd (s.shadowStep env.libm now)))^[k]
    (s.poised env now).sys

section Tick

variable (s : ChronoFlapNode σ κ α) (env : FlapEnvironment σ κ α) (now : Time)

/-- A tick ends with the engine after all its sub-steps. -/
theorem simTick_sys :
    (s.simTick env now).node.sys =
      s.subStepSystem env now (s.poised env now).substeps.toNat := rfl

/-- The engine when the sub-steps begin: the adapter's, if it has been called. -/
theorem poised_sys :
    (s.poised env now).sys =
      ((s.hydroStep env s.sys (seconds (now - s.startTime))).map HydroStep.sys).getD s.sys := by
  have hshadow : (s.afterShadow (s.shadowStep env.libm now)).sys = s.sys := by
    unfold afterShadow
    split
    · rfl
    · rfl
  unfold poised recordClip
  cases s.hydroStep env s.sys (seconds (now - s.startTime)) with
  | none => exact hshadow
  | some h => rfl

/-- What a tick publishes of the adapter's step. -/
theorem simTick_hydro :
    (s.simTick env now).hydro =
      resultOf (s.hydroStep env s.sys (seconds (now - s.startTime))) := rfl

end Tick

section Held

variable {env : FlapEnvironment σ κ α} {heldY : ℕ → σ → α}

/-- The sub-steps leave the accumulators alone. -/
theorem subStepSystem_held (hch : env.chrono.KeepsAccumulators heldY)
    (s : ChronoFlapNode σ κ α) (now : Time) (i k : ℕ) :
    heldY i (s.subStepSystem env now k) = heldY i (s.poised env now).sys := by
  induction k with
  | zero => rfl
  | succ k ih =>
      have hnext : s.subStepSystem env now (k + 1) =
          (s.poised env now).substep env.chrono (s.torqueCmd (s.shadowStep env.libm now))
            (s.subStepSystem env now k) := Function.iterate_succ_apply' _ _ _
      rw [hnext, substep, hch.doStepDynamics, hch.setSetpoint, ih]

/-- The torque the adapter hands to the engine at a tick, if it is called:
SEA-Stack's moment within the clip. -/
def appliedTorque (env : FlapEnvironment σ κ α) (s : ChronoFlapNode σ κ α)
    (e : Timed (FlapEvent α)) : Option α :=
  match e.event with
  | .tick =>
      (s.hydroStep env s.sys (seconds (e.time - s.startTime))).map fun h => h.result.torqueClipNm
  | _ => none

/-- The adapter and its accumulator. -/
def hydroIdx (s : ChronoFlapNode σ κ α) : Option ℕ :=
  s.hydroAdapter.map SeaStackHydroAdapter.hydroAccumIdx

/-- What the adapter's step leaves in its own accumulator. -/
theorem hydroStep_held (hch : env.chrono.KeepsAccumulators heldY) {s : ChronoFlapNode σ κ α}
    {i : ℕ} (hidx : s.hydroIdx = some i) {sys : σ} {t : α} {h : HydroStep σ κ α}
    (hstep : s.hydroStep env sys t = some h) :
    heldY i h.sys = h.result.torqueClipNm ∧ h.adapter.hydroAccumIdx = i := by
  unfold hydroIdx at hidx
  unfold hydroStep at hstep
  cases ha : s.hydroAdapter with
  | none =>
      rw [ha] at hidx
      cases hidx
  | some a =>
      rw [ha] at hidx hstep
      obtain rfl := Option.some.inj hidx
      cases hengaged : s.hydroEngaged with
      | false =>
          simp only [hengaged, Bool.false_eq_true, if_false] at hstep
          cases hstep
      | true =>
          simp only [hengaged, if_true] at hstep
          obtain rfl := Option.some.inj hstep
          exact ⟨hch.refill _ _ _, rfl⟩

/-- The accumulator during a tick: the torque of the tick when the adapter is
called, and otherwise what it held before. -/
theorem tick_held (hch : env.chrono.KeepsAccumulators heldY) {s : ChronoFlapNode σ κ α}
    {i : ℕ} (hidx : s.hydroIdx = some i) (now : Time) (k : ℕ) :
    heldY i (s.subStepSystem env now k) =
      (appliedTorque env s ⟨now, .tick⟩).getD (heldY i s.sys) := by
  rw [subStepSystem_held hch, poised_sys]
  unfold appliedTorque
  cases hstep : s.hydroStep env s.sys (seconds (now - s.startTime)) with
  | none => rfl
  | some h => exact (hydroStep_held hch hidx hstep).1

/-- A node with an adapter calls it exactly while hydro is engaged. -/
theorem appliedTorque_eq_none_iff {s : ChronoFlapNode σ κ α} {i : ℕ} (hidx : s.hydroIdx = some i)
    (now : Time) : appliedTorque env s ⟨now, .tick⟩ = none ↔ s.hydroEngaged = false := by
  unfold hydroIdx at hidx
  unfold appliedTorque hydroStep
  cases ha : s.hydroAdapter with
  | none =>
      rw [ha] at hidx
      cases hidx
  | some a =>
      cases hengaged : s.hydroEngaged with
      | false => exact iff_of_true rfl rfl
      | true => exact iff_of_false (by simp) Bool.noConfusion

/-- The published torque: the adapter's, or 0. -/
theorem simTick_torque (s : ChronoFlapNode σ κ α) (now : Time) :
    (s.simTick env now).hydro.torqueClipNm = (appliedTorque env s ⟨now, .tick⟩).getD 0 := by
  rw [simTick_hydro]
  unfold appliedTorque
  cases s.hydroStep env s.sys (seconds (now - s.startTime)) with
  | none => rfl
  | some h => rfl

/-! ## One callback -/

/-- A batch moves no accumulator and leaves each as it is. -/
theorem setParameters_held (hch : env.chrono.KeepsAccumulators heldY) (s : ChronoFlapNode σ κ α)
    (batch : List (Parameter α)) (i : ℕ) :
    (s.setParameters env.chrono batch).hydroIdx = s.hydroIdx ∧
      heldY i (s.setParameters env.chrono batch).sys = heldY i s.sys := by
  have happly (t : ChronoFlapNode σ κ α) (p : Parameter α) :
      (t.applyParameter p).hydroIdx = t.hydroIdx := by
    unfold hydroIdx applyParameter
    cases p.doubleNamed "hydro_torque_clip_nm" with
    | none => rfl
    | some clip => cases t.hydroAdapter <;> rfl
  constructor
  · exact s.setParameters_frame hydroIdx happly (fun _ _ => rfl) (fun _ _ => rfl) (fun _ _ => rfl)
      batch
  · exact s.setParameters_frame (fun t : ChronoFlapNode σ κ α => heldY i t.sys) (fun _ _ => rfl)
      (fun _ _ => rfl) (fun t body => hch.setFlap body i t.sys) (fun _ _ => rfl) batch

/-- A tick leaves the adapter's accumulator where it is. -/
theorem poised_hydroIdx (hch : env.chrono.KeepsAccumulators heldY) {s : ChronoFlapNode σ κ α}
    {i : ℕ} (hidx : s.hydroIdx = some i) (time : Time) :
    (s.poised env time).hydroIdx = some i := by
  unfold poised hydroIdx
  cases hstep : s.hydroStep env s.sys (seconds (time - s.startTime)) with
  | none =>
      have hshadow : (s.afterShadow (s.shadowStep env.libm time)).hydroAdapter =
          s.hydroAdapter := by
        unfold afterShadow
        split
        · rfl
        · rfl
      show Option.map _ (s.afterShadow (s.shadowStep env.libm time)).hydroAdapter = some i
      rw [hshadow]
      exact hidx
  | some h => exact congrArg some (hydroStep_held hch hidx hstep).2

/-- Outside `hil` mode a callback leaves in the accumulator what it hands to the
engine, and what was there before when it hands nothing over. -/
theorem step_held (hch : env.chrono.KeepsAccumulators heldY) {s : ChronoFlapNode σ κ α}
    (hmode : s.mode ≠ .hil) {i : ℕ} (hidx : s.hydroIdx = some i) (e : Timed (FlapEvent α)) :
    (s.step env e).hydroIdx = some i ∧
      heldY i (s.step env e).sys = (appliedTorque env s e).getD (heldY i s.sys) := by
  obtain ⟨time, event⟩ := e
  have hquiet (htick : event ≠ .tick) (hbatch : ∀ batch, event ≠ .setParameters batch) :
      (s.step env ⟨time, event⟩).hydroIdx = some i ∧
        heldY i (s.step env ⟨time, event⟩).sys = heldY i s.sys := by
    have hsame := s.step_sameSimulation env (e := ⟨time, event⟩) htick hbatch
    rw [hydroIdx, hsame.hydroAdapter, hsame.sys]
    exact ⟨hidx, rfl⟩
  cases event with
  | tick =>
      have htick : s.step env ⟨time, .tick⟩ = (s.simTick env time).node :=
        congrArg FlapTick.node (if_neg hmode)
      rw [htick, simTick_sys]
      exact ⟨poised_hydroIdx hch hidx time, tick_held hch hidx time _⟩
  | setParameters batch =>
      obtain ⟨hadapter, hheld⟩ := setParameters_held hch s batch i
      exact ⟨hadapter.trans hidx, hheld⟩
  | _ => exact hquiet nofun nofun

end Held

/-! ## Runs -/

/-- A launch outside `hil` mode whose adapter is constructed. -/
structure SimulatesHydro (env : FlapEnvironment σ κ α) (l : Launch α) (t₀ : Time) : Prop where
  mode : (start env l t₀).mode ≠ .hil
  adapter : (start env l t₀).hydroAdapter.isSome = true

/-- During a tick, from the first sub-step to the last, the accumulator holds the
torque the tick publishes. -/
def TorqueShown (env : FlapEnvironment σ κ α) (heldY : ℕ → σ → α) (s : ChronoFlapNode σ κ α)
    (now : Time) : Prop :=
  ∀ i, s.hydroIdx = some i → ∀ k ≤ (s.poised env now).substeps.toNat,
    heldY i (s.subStepSystem env now k) = (s.tick env now).hydro.torqueClipNm

section Run

variable {env : FlapEnvironment σ κ α} {heldY : ℕ → σ → α} {l : Launch α} {t₀ : Time}

/-- A constructed adapter has an accumulator of its own, still empty. -/
theorem startHydro_held (hch : env.chrono.KeepsAccumulators heldY) {store : ParameterStore α}
    {sys : σ} (hsome : (startHydro env store sys).1.isSome = true) :
    ∃ i, (startHydro env store sys).1.map SeaStackHydroAdapter.hydroAccumIdx = some i ∧
      heldY i (startHydro env store sys).2 = 0 := by
  unfold startHydro SeaStackHydroAdapter.new at hsome ⊢
  split at hsome
  · cases hsome
  · split at hsome
    · rename_i hpath _ built hnew
      simp only [if_neg hpath]
      refine ⟨_, rfl, ?_⟩
      rw [show (hydroParams store).h5Path = store.getString "seastack_h5_path" from rfl,
        if_neg hpath] at hnew
      split at hnew
      · cases hbuild : env.seaStack.build (store.getString "seastack_h5_path")
            (hydroParams store).seaState with
        | error message =>
            rw [hbuild] at hnew
            cases hnew
        | ok coupler =>
            rw [hbuild] at hnew
            cases hnew
            exact hch.add sys
      · cases hnew
    · cases hsome

/-- After every run the accumulator holds the torque of the last tick with hydro
engaged, and nothing before the first. -/
theorem run_held (hch : env.chrono.KeepsAccumulators heldY) (h : SimulatesHydro env l t₀) :
    ∃ i, ∀ es, (run (step env) (start env l t₀) es).hydroIdx = some i ∧
      heldY i (run (step env) (start env l t₀) es).sys =
        (lastOutput (step env) (appliedTorque env) (start env l t₀) es).getD 0 := by
  obtain ⟨i, hidx, hzero⟩ := startHydro_held hch h.adapter
  have hinv (s : ChronoFlapNode σ κ α) (e : Timed (FlapEvent α))
      (hs : s.mode ≠ .hil ∧ s.hydroIdx = some i) :
      (s.step env e).mode ≠ .hil ∧ (s.step env e).hydroIdx = some i := by
    refine ⟨?_, (step_held hch hs.1 hs.2 e).1⟩
    rw [step_mode]
    exact hs.1
  have hstart : (start env l t₀).mode ≠ .hil ∧ (start env l t₀).hydroIdx = some i :=
    ⟨h.mode, hidx⟩
  refine ⟨i, fun es => ⟨(invariant_run hinv hstart es).2, ?_⟩⟩
  rw [output_run (fun s : ChronoFlapNode σ κ α => heldY i s.sys) hinv
    (fun s e hs => (step_held hch hs.1 hs.2 e).2) hstart es]
  exact congrArg _ hzero

/-- **When the telemetry shows what acts on the flap.**  In every run outside `hil`
mode the accumulator holds the published torque during every tick exactly when
each tick with hydro disengaged comes before any engaged one, or after an engaged
one that applied no torque. -/
theorem torqueShown_iff (hch : env.chrono.KeepsAccumulators heldY) (h : SimulatesHydro env l t₀)
    (es : List (Timed (FlapEvent α))) :
    (AtTicks es fun pre now => TorqueShown env heldY (run (step env) (start env l t₀) pre) now) ↔
      AtTicks es fun pre _ => (run (step env) (start env l t₀) pre).hydroEngaged = false →
        (lastOutput (step env) (appliedTorque env) (start env l t₀) pre).getD 0 = 0 := by
  obtain ⟨i, hrun⟩ := run_held hch h
  refine atTicks_congr ?_ es
  intro pre now
  obtain ⟨hidx, hheld⟩ := hrun pre
  have hmode : (run (step env) (start env l t₀) pre).mode ≠ .hil := by
    rw [run_mode]
    exact h.mode
  rw [← hheld]
  generalize run (step env) (start env l t₀) pre = s at hidx hmode ⊢
  have hpublished : (s.tick env now).hydro.torqueClipNm =
      (appliedTorque env s ⟨now, .tick⟩).getD 0 := by
    rw [tick, if_neg hmode, simTick_torque]
  have hnone_iff : appliedTorque env s ⟨now, .tick⟩ = none ↔ s.hydroEngaged = false :=
    appliedTorque_eq_none_iff hidx now
  unfold TorqueShown
  rw [hpublished, ← hnone_iff]
  constructor
  · intro hshown hnone
    have hbegin := hshown i hidx 0 (Nat.zero_le _)
    rwa [tick_held hch hidx, hnone] at hbegin
  · intro hzero j hj k _
    obtain rfl := Option.some.inj (hidx.symm.trans hj)
    rw [tick_held hch hidx]
    cases happlied : appliedTorque env s ⟨now, .tick⟩ with
    | none => exact hzero happlied
    | some x => rfl

end Run

end ChronoFlapNode

/-! ## A torque that stays -/

/-- An engine that is nothing but its accumulator, and hydrodynamics that push
with a constant moment. -/
def FlapEnvironment.pushing {α : Type} [Double α] (moment : α) : FlapEnvironment α Unit α where
  libm := ⟨id, fun _ => lit 1, fun _ => 0⟩
  chrono :=
    { build := fun _ => 0
      setFlap := fun _ sys => sys
      setRot := fun _ _ sys => sys
      setAngVelParent := fun _ sys => sys
      getPos := fun _ => ⟨0, 0, 0⟩
      getMotorAngle := fun _ => 0
      getMotorAngleDt := fun _ => 0
      getChTime := fun _ => 0
      setSetpoint := fun _ _ sys => sys
      doStepDynamics := fun _ sys => sys
      addAccumulator := fun _ => (0, 0)
      emptyAccumulator := fun _ _ => 0
      accumulateTorque := fun _ torque sys => sys + torque.y }
  seaStack :=
    { fileExists := fun _ => true
      build := fun _ _ => .ok ()
      evaluate := fun _ _ _ => ([⟨0, moment, 0⟩], ())
      getElevation := fun _ _ _ => 0 }

theorem pushing_keepsAccumulators (moment : ℚ) :
    (FlapEnvironment.pushing moment).chrono.KeepsAccumulators fun _ sys => sys where
  add _ := rfl
  refill _ torque _ := zero_add torque.y
  setFlap _ _ _ := rfl
  setSetpoint _ _ _ _ := rfl
  doStepDynamics _ _ _ := rfl

namespace ChronoFlapNode

/-- The defaults, in `parallel` mode, with a hydrodynamics file. -/
def hydroLaunch {α : Type} : Launch α := Launch.empty.withString "seastack_h5_path" "oswec.h5"

theorem hydroLaunch_simulates (moment : ℚ) :
    SimulatesHydro (FlapEnvironment.pushing moment) hydroLaunch 0 := by
  refine ⟨?_, rfl⟩
  show resolveMode ((declared (hydroLaunch : Launch ℚ)).getString "mode")
    ((declared (hydroLaunch : Launch ℚ)).getBool "sil_mode") ≠ .hil
  decide +kernel

/-- Hydro engaged for one tick and disengaged before the next. -/
def engageOnce : List (Timed (FlapEvent ℚ)) :=
  [⟨0, .enableHydro true⟩, ⟨10000000, .tick⟩, ⟨15000000, .enableHydro false⟩, ⟨20000000, .tick⟩]

theorem torqueShown_iff_engageOnce :
    (AtTicks engageOnce fun pre now => TorqueShown (.pushing (1 / 10)) (fun _ sys => sys)
        (run (step (.pushing (1 / 10))) (start (.pushing (1 / 10)) hydroLaunch 0) pre) now) ↔
      AtTicks engageOnce fun pre _ =>
        (run (step (.pushing (1 / 10))) (start (.pushing (1 / 10)) hydroLaunch 0)
            pre).hydroEngaged = false →
          (lastOutput (step (.pushing (1 / 10))) (appliedTorque (.pushing (1 / 10)))
            (start (.pushing (1 / 10)) hydroLaunch 0) pre).getD 0 = 0 :=
  torqueShown_iff (pushing_keepsAccumulators (1 / 10)) (hydroLaunch_simulates (1 / 10)) engageOnce

/-- A moment of 0.1 N·m, engaged for one tick: at the next, disengaged tick 0.1 N·m
still act on the flap while the telemetry shows 0. -/
theorem torque_acts_after_disengaging :
    ¬AtTicks engageOnce fun pre now => TorqueShown (.pushing (1 / 10)) (fun _ sys => sys)
      (run (step (.pushing (1 / 10))) (start (.pushing (1 / 10)) hydroLaunch 0) pre) now := by
  intro h
  have hshown := h
    [⟨0, .enableHydro true⟩, ⟨10000000, .tick⟩, ⟨15000000, .enableHydro false⟩] 20000000 [] rfl
    0 rfl 0 (Nat.zero_le _)
  revert hshown
  decide +kernel

end ChronoFlapNode

end MarineHil.Ports
