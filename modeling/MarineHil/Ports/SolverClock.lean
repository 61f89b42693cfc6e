import Mathlib.Algebra.Order.Archimedean.Basic
import MarineHil.Ports.HydroAccumulator
import MarineHil.Ports.FlapParameters

/-!
# The clock of the engine against the clock of the node

Outside `hil` mode a tick stands for one period of `rate_hz`, and the engine is stepped
by whole periods of `solver_rate_hz`: as many as round the ratio of the two, and one at
the least.  What the rounding adds or drops at one tick, every later tick adds or drops
again.

## Main results

* `run_chTime`: the time the engine has advanced after a run.
* `abs_mul_lt_iff`: a drift that repeats stays bounded only if there is none.
* `solver_clock_iff`: exactly the rates at which the two clocks stay within one solver
  step of each other in every run.
-/

namespace MarineHil.Ports

open MarineHil.Verified

variable {σ κ : Type}

/-- What the engine promises of its clock: a step of the dynamics advances it by the
time step, and nothing else does. -/
structure Chrono.KeepsTime (ch : Chrono σ ℚ) : Prop where
  setFlap : ∀ body sys, ch.getChTime (ch.setFlap body sys) = ch.getChTime sys
  setSetpoint : ∀ torque t sys, ch.getChTime (ch.setSetpoint torque t sys) = ch.getChTime sys
  doStepDynamics : ∀ dt sys, ch.getChTime (ch.doStepDynamics dt sys) = ch.getChTime sys + dt
  emptyAccumulator : ∀ i sys, ch.getChTime (ch.emptyAccumulator i sys) = ch.getChTime sys
  accumulateTorque : ∀ i torque sys,
    ch.getChTime (ch.accumulateTorque i torque sys) = ch.getChTime sys

/-- A drift that repeats at every tick stays bounded only if there is none. -/
theorem abs_mul_lt_iff {d bound : ℚ} (h : 0 < bound) :
    (∀ n : ℕ, |n * d| < bound) ↔ d = 0 := by
  constructor
  · intro hbounded
    by_contra hd
    obtain ⟨n, hn⟩ := exists_nat_ge (bound / |d|)
    have hfar : bound ≤ n * |d| := (div_le_iff₀ (abs_pos.mpr hd)).mp hn
    have hnear := hbounded n
    rw [abs_mul, Nat.abs_cast] at hnear
    exact absurd hfar (not_le.mpr hnear)
  · rintro rfl n
    rwa [mul_zero, abs_zero]

namespace ChronoFlapNode

/-! ## The number of sub-steps -/

/-- The sub-steps make up the period exactly when its ratio to the step is a whole
number that `int` holds. -/
theorem substepsOf_eq_ratio_iff {m : Libm ℚ} {publishDt solverDt : ℚ}
    (hint : m.unspecified (publishDt / solverDt) < 2 ^ 31) :
    (substepsOf m publishDt solverDt : ℚ) = publishDt / solverDt ↔
      ∃ k : ℕ, 0 < k ∧ k < 2 ^ 31 ∧ publishDt / solverDt = k := by
  have hpos : 1 ≤ substepsOf m publishDt solverDt := le_max_left _ _
  have hlt : substepsOf m publishDt solverDt < 2 ^ 31 :=
    max_lt (by norm_num) (roundToInt_lt hint)
  constructor
  · intro h
    refine ⟨(substepsOf m publishDt solverDt).toNat, by omega, by omega, ?_⟩
    rw [← h]
    exact_mod_cast (Int.toNat_of_nonneg (by omega)).symm
  · rintro ⟨k, hk, hk', h⟩
    have hround : substepsOf m publishDt solverDt = k := by
      rw [substepsOf, h, roundToInt_natCast hk']
      omega
    rw [hround, h]
    rfl

/-! ## The clock of the engine -/

section Clock

variable {env : FlapEnvironment σ κ ℚ}

/-- The engine's clock. -/
def chTime (env : FlapEnvironment σ κ ℚ) (s : ChronoFlapNode σ κ ℚ) : ℚ :=
  env.chrono.getChTime s.sys

/-- What a tick adds to it. -/
def tickTime (s : ChronoFlapNode σ κ ℚ) : ℚ := s.substeps.toNat * s.solverDt

theorem run_tickTime (env : FlapEnvironment σ κ ℚ) (s : ChronoFlapNode σ κ ℚ)
    (es : List (Timed (FlapEvent ℚ))) : (run (step env) s es).tickTime = s.tickTime :=
  s.run_settings_frame tickTime (fun _ _ => rfl) (fun _ _ => rfl) (fun _ _ => rfl) env es

/-- The sub-steps of a tick. -/
theorem subStepSystem_chTime (hch : env.chrono.KeepsTime) (s : ChronoFlapNode σ κ ℚ)
    (now : Time) (k : ℕ) :
    env.chrono.getChTime (s.subStepSystem env now k) =
      (s.poised env now).chTime env + k * (s.poised env now).solverDt := by
  induction k with
  | zero => simp [subStepSystem, chTime]
  | succ k ih =>
      have hnext : s.subStepSystem env now (k + 1) =
          (s.poised env now).substep env.chrono (s.torqueCmd (s.shadowStep env.libm now))
            (s.subStepSystem env now k) := Function.iterate_succ_apply' _ _ _
      rw [hnext, substep, hch.doStepDynamics, hch.setSetpoint, ih]
      push_cast
      ring

/-- Nothing before the sub-steps advances the clock. -/
theorem poised_chTime (hch : env.chrono.KeepsTime) (s : ChronoFlapNode σ κ ℚ) (now : Time) :
    (s.poised env now).chTime env = s.chTime env := by
  unfold chTime
  rw [poised_sys, hydroStep]
  split
  · split
    · exact (hch.accumulateTorque _ _ _).trans (hch.emptyAccumulator _ _)
    · rfl
  · rfl

theorem poised_tickTime (env : FlapEnvironment σ κ ℚ) (s : ChronoFlapNode σ κ ℚ) (now : Time) :
    (s.poised env now).tickTime = s.tickTime := by
  unfold poised afterShadow
  cases s.hydroStep env s.sys (seconds (now - s.startTime)) <;> split <;> rfl

/-- The event is a tick. -/
def isTick (e : Timed (FlapEvent ℚ)) : Bool :=
  match e.event with
  | .tick => true
  | _ => false

/-- What one event adds to the engine's clock. -/
theorem step_chTime (hch : env.chrono.KeepsTime) {s : ChronoFlapNode σ κ ℚ}
    (hmode : s.mode ≠ .hil) (e : Timed (FlapEvent ℚ)) :
    (s.step env e).chTime env =
      s.chTime env + if isTick e then s.tickTime else 0 := by
  obtain ⟨time, event⟩ := e
  have hquiet (htick : event ≠ .tick) (hbatch : ∀ batch, event ≠ .setParameters batch) :
      (s.step env ⟨time, event⟩).chTime env = s.chTime env + 0 := by
    rw [chTime, (s.step_sameSimulation env (e := ⟨time, event⟩) htick hbatch).sys, add_zero]
    rfl
  cases event with
  | tick =>
      have hsys : (s.tick env time).node.sys =
          s.subStepSystem env time (s.poised env time).substeps.toNat := by
        rw [tick, if_neg hmode, simTick_sys]
      show env.chrono.getChTime (s.tick env time).node.sys = s.chTime env + s.tickTime
      rw [hsys, subStepSystem_chTime hch, poised_chTime hch, ← s.poised_tickTime env time, tickTime]
  | setParameters batch =>
      show (s.setParameters env.chrono batch).chTime env = s.chTime env + 0
      rw [add_zero]
      exact s.setParameters_frame (chTime env) (fun _ _ => rfl) (fun _ _ => rfl)
        (fun t body => hch.setFlap body t.sys) (fun _ _ => rfl) batch
  | _ => exact hquiet (by rintro ⟨⟩) (by rintro _ ⟨⟩)

/-- **The time the engine has advanced after a run.** -/
theorem run_chTime (hch : env.chrono.KeepsTime) {s : ChronoFlapNode σ κ ℚ}
    (hmode : s.mode ≠ .hil) (es : List (Timed (FlapEvent ℚ))) :
    (run (step env) s es).chTime env =
      s.chTime env + es.countP isTick * s.tickTime := by
  induction es using List.reverseRecOn with
  | nil => simp
  | append_singleton es e ih =>
      have hmode' : (run (step env) s es).mode ≠ .hil := by rwa [run_mode]
      rw [run_concat, step_chTime hch hmode', run_tickTime, ih, List.countP_append,
        List.countP_singleton]
      split
      · push_cast
        ring
      · rw [add_zero, add_zero]

/-! ## The two clocks -/

/-- Over every run the engine's clock stays within one solver step of the ticks'. -/
def ClocksAgree (env : FlapEnvironment σ κ ℚ) (s : ChronoFlapNode σ κ ℚ) : Prop :=
  ∀ es : List (Timed (FlapEvent ℚ)),
    |(run (step env) s es).chTime env - s.chTime env - es.countP isTick * s.publishDt| < s.solverDt

theorem clocksAgree_iff (hch : env.chrono.KeepsTime) {s : ChronoFlapNode σ κ ℚ}
    (hmode : s.mode ≠ .hil) (hdt : 0 < s.solverDt) :
    s.ClocksAgree env ↔ s.tickTime = s.publishDt := by
  have hgap (es : List (Timed (FlapEvent ℚ))) :
      (run (step env) s es).chTime env - s.chTime env - es.countP isTick * s.publishDt =
        es.countP isTick * (s.tickTime - s.publishDt) := by
    rw [run_chTime hch hmode]
    ring
  rw [← sub_eq_zero, ← abs_mul_lt_iff hdt]
  constructor
  · intro h n
    have hcount : (List.replicate n (⟨0, .tick⟩ : Timed (FlapEvent ℚ))).countP isTick = n := by
      rw [List.countP_replicate]
      rfl
    have hn := h (List.replicate n ⟨0, .tick⟩)
    rwa [hgap, hcount] at hn
  · intro h es
    rw [hgap]
    exact h _

/-- What a tick of a launched node simulates. -/
theorem start_tickTime_eq_iff (env : FlapEnvironment σ κ ℚ) (l : Launch ℚ) (t₀ : Time)
    (hdt : 0 < (start env l t₀).solverDt) :
    (start env l t₀).tickTime = (start env l t₀).publishDt ↔
      (substepsOf env.libm (start env l t₀).publishDt (start env l t₀).solverDt : ℚ) =
        (start env l t₀).publishDt / (start env l t₀).solverDt := by
  have hcast : ((start env l t₀).substeps.toNat : ℚ) = (start env l t₀).substeps := by
    have hpos : 1 ≤ (start env l t₀).substeps := le_max_left _ _
    exact_mod_cast Int.toNat_of_nonneg (by omega)
  rw [tickTime, hcast, eq_div_iff hdt.ne']
  rfl

/-- **The clocks agree exactly when the solver's rate is a whole multiple of the
node's**, by a factor that `int` holds. -/
theorem solver_clock_iff (hch : env.chrono.KeepsTime) (l : Launch ℚ) (t₀ : Time)
    (hmode : (start env l t₀).mode ≠ .hil) (rate solverRate : ℚ)
    (hrate : (declared l).getDouble "rate_hz" = rate) (hratePos : 0 < rate)
    (hsolver : (declared l).getDouble "solver_rate_hz" = solverRate)
    (hsolverPos : 0 < solverRate) (hint : env.libm.unspecified (solverRate / rate) < 2 ^ 31) :
    (start env l t₀).ClocksAgree env ↔ ∃ k : ℕ, 0 < k ∧ k < 2 ^ 31 ∧ solverRate = k * rate := by
  have hpublishDt : (start env l t₀).publishDt = 1 / rate := by
    show periodOf ((declared l).getDouble "rate_hz") (lit 0.01) = 1 / rate
    rw [hrate]
    exact if_pos hratePos
  have hsolverDt : (start env l t₀).solverDt = 1 / solverRate := by
    show periodOf ((declared l).getDouble "solver_rate_hz") (lit 0.001) = 1 / solverRate
    rw [hsolver]
    exact if_pos hsolverPos
  have hdt : 0 < (start env l t₀).solverDt := by
    rw [hsolverDt]
    positivity
  have hratio : (start env l t₀).publishDt / (start env l t₀).solverDt = solverRate / rate := by
    rw [hpublishDt, hsolverDt]
    field_simp
  rw [clocksAgree_iff hch hmode hdt, start_tickTime_eq_iff env l t₀ hdt,
    substepsOf_eq_ratio_iff (by rwa [hratio]), hratio]
  simp only [div_eq_iff hratePos.ne']

end Clock

end ChronoFlapNode

/-! ## An engine that keeps time -/

/-- An engine with a clock alone, and no hydrodynamics. -/
def FlapEnvironment.ticking : FlapEnvironment ℚ Empty ℚ where
  libm := ⟨id, fun _ => 1, fun _ => 0⟩
  chrono :=
    { Chrono.still 0 with
      getChTime := id
      doStepDynamics := fun dt sys => sys + dt }
  seaStack :=
    { fileExists := fun _ => false
      build := fun _ _ => .error ""
      evaluate := fun coupler => nomatch coupler
      getElevation := fun coupler => nomatch coupler }

theorem ticking_keepsTime : FlapEnvironment.ticking.chrono.KeepsTime where
  setFlap _ _ := rfl
  setSetpoint _ _ _ := rfl
  doStepDynamics _ _ := rfl
  emptyAccumulator _ _ := rfl
  accumulateTorque _ _ _ := rfl

namespace ChronoFlapNode

/-- With the default rates, ten sub-steps a tick, the clocks agree. -/
theorem solver_clock_default : (start .ticking .empty 0).ClocksAgree .ticking :=
  (solver_clock_iff ticking_keepsTime .empty 0 (by decide +kernel) 100 1000 (by decide +kernel)
    (by norm_num) (by decide +kernel) (by norm_num) (by decide +kernel)).mpr ⟨10, by norm_num⟩

/-- With 300 Hz a tick has three sub-steps of a millisecond, and after three ticks the
engine is a whole one behind. -/
theorem solver_clock_drifts :
    ¬(start .ticking (Launch.empty.withDouble "rate_hz" 300) 0).ClocksAgree .ticking := by
  intro h
  have hthree := h (List.replicate 3 ⟨0, .tick⟩)
  revert hthree
  decide +kernel

end ChronoFlapNode

end MarineHil.Ports
