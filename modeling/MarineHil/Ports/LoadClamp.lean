import MarineHil.Ports.FlapParameters
import MarineHil.Ports.HydroAccumulator
import MarineHil.Ports.RampGate

/-!
# The clamp on the load torque

The stub is clamped to `hil_torque_clip_nm`.  SEA-Stack's torque replaces it on
the same topic and is clamped to `hydro_torque_clip_nm` alone, a limit that is
checked and tuned for itself.  So the load keeps within `hil_torque_clip_nm`
only where SEA-Stack's moment or its own clip does.  And no clamp holds NaN back: the
load is NaN where a measurement is, and a clip that an accepted batch makes NaN clamps
nothing.

## Main results

* `clips_pos`: what checks keep of both clips over every run.
* `loadTorque_le_iff`: the bound at one tick.
* `loadClamped_iff`: the bound at every tick of a run.
-/

namespace MarineHil.Ports.ChronoFlapNode

open MarineHil.Verified
open MarineHil.Verified.ExtRat

variable {σ κ : Type}

/-- Launches with both clips positive. -/
structure PositiveClips (l : Launch ExtRat) : Prop where
  hil : 0 < (declared l).getDouble "hil_torque_clip_nm"
  hydro : 0 < (declared l).getDouble "hydro_torque_clip_nm"

/-- SEA-Stack's moment on the flap at a tick, were it asked. -/
def seaStackMoment {α : Type} [Double α] (s : ChronoFlapNode σ κ α) (env : FlapEnvironment σ κ α)
    (now : Time) (a : SeaStackHydroAdapter κ α) : α :=
  (a.step env.chrono env.seaStack (s.measuredSystem env.chrono)
    (seconds now - seconds s.startTime)).result.torqueRawNm

/-- What keeps a load within the given limit: the limit is no NaN, and at a tick that the
watchdog and the gate do not cut off, the load before the gate is none either, is finite
where the ramp factor is zero, and, where SEA-Stack is its source, has its moment or its
clip within the limit after the ramp. -/
structure SourceWithin (s : ChronoFlapNode σ κ ExtRat) (env : FlapEnvironment σ κ ExtRat)
    (now : Time) (limit : ExtRat) : Prop where
  clip : limit ≠ nan
  load : s.feedbackOk now = true → ¬s.Shut → s.ungatedLoad env now ≠ nan ∧
    (s.rampFactor now = 0 → (s.ungatedLoad env now).IsFinite)
  seaStack : s.feedbackOk now = true → ¬s.Shut → s.hydroEngaged = true →
    ∀ a, s.hydroAdapter = some a →
      fabs (s.seaStackMoment env now a) * s.rampFactor now ≤ limit ∨
        a.torqueClipNm * s.rampFactor now ≤ limit

/-! ## One tick -/

section Source

variable {α : Type} [Double α] {s : ChronoFlapNode σ κ α} (env : FlapEnvironment σ κ α)
  (now : Time)

/-- The load before the gate, by its source. -/
theorem ungatedLoad_eq_stub (h : s.measuredHydroStep env now = none) :
    s.ungatedLoad env now =
      s.computeLoadTorque env.libm s.hwPos s.hwVel (seconds now - seconds s.startTime) := by
  unfold ungatedLoad
  rw [h]

theorem ungatedLoad_eq_seaStack {a : SeaStackHydroAdapter κ α} (ha : s.hydroAdapter = some a)
    (hengaged : s.hydroEngaged = true) :
    s.ungatedLoad env now =
      clamp (s.seaStackMoment env now a) (-a.torqueClipNm) a.torqueClipNm := by
  unfold ungatedLoad measuredHydroStep hydroStep
  rw [ha, hengaged]
  rfl

end Source

section Tick

variable {s : ChronoFlapNode σ κ ExtRat} (env : FlapEnvironment σ κ ExtRat) (now : Time)

/-- What the load before the gate has to be at a tick that nothing cuts off, as the
gate sees it. -/
theorem ungated_number_iff {tau : ExtRat} {p : ℚ} (hp : s.rampFactor now = fin p) :
    (tau ≠ nan ∧ (s.rampFactor now = 0 → tau.IsFinite)) ↔ tau * fin p ≠ nan := by
  rw [hp, zero_def, fin.injEq, mul_fin_ne_nan_iff]

/-- The stub keeps within its clip, and the ramp takes from it. -/
theorem stub_mul_le_iff (hclip : 0 < s.hilTorqueClipNm) {p : ℚ} (hlow : 0 ≤ p) (hhigh : p ≤ 1)
    (theta omega t : ExtRat) :
    fabs (s.computeLoadTorque env.libm theta omega t * fin p) ≤ s.hilTorqueClipNm ↔
      s.computeLoadTorque env.libm theta omega t * fin p ≠ nan := by
  constructor
  · intro h hnan
    rw [hnan, fabs_nan] at h
    exact not_nan_le _ h
  · intro hne
    have hnumber := (mul_fin_ne_nan_iff.mp hne).1
    refine fabs_mul_fin_le hlow hhigh ?_ hne
    unfold computeLoadTorque at hnumber ⊢
    rw [ne_eq, clamp_eq_nan_iff (nonneg_of_pos hclip)] at hnumber
    exact (fabs_clamp_le_bound_iff (nonneg_of_pos hclip)).mpr hnumber

/-- The bound at a tick that neither the watchdog nor the gate cuts off. -/
theorem gated_le_iff (hclip : 0 < s.hilTorqueClipNm)
    (hhydro : ∀ a, s.hydroAdapter = some a → 0 < a.torqueClipNm) {p : ℚ} (hlow : 0 ≤ p)
    (hhigh : p ≤ 1) :
    fabs (s.ungatedLoad env now * fin p) ≤ s.hilTorqueClipNm ↔
      s.ungatedLoad env now * fin p ≠ nan ∧ (s.hydroEngaged = true →
        ∀ a, s.hydroAdapter = some a →
          fabs (s.seaStackMoment env now a) * fin p ≤ s.hilTorqueClipNm ∨
            a.torqueClipNm * fin p ≤ s.hilTorqueClipNm) := by
  cases hengaged : s.hydroEngaged with
  | false =>
      have hnone : s.measuredHydroStep env now = none := by
        unfold measuredHydroStep hydroStep
        rw [hengaged]
        cases s.hydroAdapter <;> rfl
      rw [ungatedLoad_eq_stub env now hnone, stub_mul_le_iff env hclip hlow hhigh]
      exact (and_iff_left nofun).symm
  | true =>
      cases ha : s.hydroAdapter with
      | none =>
          have hnone : s.measuredHydroStep env now = none := by
            unfold measuredHydroStep hydroStep
            rw [ha]
          rw [ungatedLoad_eq_stub env now hnone, stub_mul_le_iff env hclip hlow hhigh]
          exact (and_iff_left nofun).symm
      | some a =>
          rw [ungatedLoad_eq_seaStack env now ha hengaged,
            fabs_clamp_mul_le_iff (nonneg_of_pos (hhydro a ha)) (nonneg_of_pos hclip) hlow]
          refine and_congr_right fun _ => ?_
          constructor
          · intro h _ b hb
            obtain rfl := Option.some.inj hb
            exact h
          · intro h
            exact h rfl a rfl

/-- The load is within the clip exactly when its source is. -/
theorem loadTorque_le_iff {start : ℚ} (hstart : s.hilRampStartTime = fin start)
    (hclip : s.hilTorqueClipNm = nan ∨ 0 < s.hilTorqueClipNm)
    (hhydro : ∀ a, s.hydroAdapter = some a → 0 < a.torqueClipNm) :
    fabs (s.loadTorque env now) ≤ s.hilTorqueClipNm ↔
      s.SourceWithin env now s.hilTorqueClipNm := by
  obtain hnan | hclip := hclip
  · rw [hnan]
    exact iff_of_false (not_le_nan _) (fun h => h.clip rfl)
  have hzero : fabs 0 ≤ s.hilTorqueClipNm := nonneg_of_pos hclip
  unfold loadTorque
  cases hok : s.feedbackOk now with
  | false =>
      rw [if_neg Bool.false_ne_true]
      refine iff_of_true hzero ⟨ne_nan_of_pos hclip, ?_, ?_⟩
      · rw [hok]
        exact nofun
      · rw [hok]
        exact nofun
  | true =>
      rw [if_pos rfl]
      obtain ⟨hshut, hopen⟩ := s.rampGate_extended now (s.ungatedLoad env now)
      by_cases h : s.Shut
      · rw [hshut h]
        exact iff_of_true hzero
          ⟨ne_nan_of_pos hclip, fun _ hopen => absurd h hopen, fun _ hopen => absurd h hopen⟩
      · obtain ⟨p, hp, hlow, hhigh⟩ := s.rampFactor_eq_fin now hstart
        rw [hopen h, hp, gated_le_iff env now hclip hhydro hlow hhigh, ← ungated_number_iff now hp,
          ← hp]
        constructor
        · rintro ⟨hload, hsource⟩
          exact ⟨ne_nan_of_pos hclip, fun _ _ => hload, fun _ _ => hsource⟩
        · intro hwithin
          exact ⟨hwithin.load hok h, hwithin.seaStack hok h⟩

end Tick

/-! ## Runs -/

section Run

variable (env : FlapEnvironment σ κ ExtRat) {l : Launch ExtRat} (t₀ : Time)

/-- Accepted updates keep both clips positive, but for a NaN that the load's clip takes. -/
theorem clips_pos (h : PositiveClips l) (es : List (Timed (FlapEvent ExtRat))) :
    (doubleInForce l "hil_torque_clip_nm" es = nan ∨
        0 < doubleInForce l "hil_torque_clip_nm" es) ∧
      ∀ a, (run (step env) (start env l t₀) es).hydroAdapter = some a → 0 < a.torqueClipNm := by
  constructor
  · exact doubleInForce_pos checkHilPositive_mem (by simp [kHilPositiveParams]) h.hil es
  · intro a ha
    exact run_adapterClip_pos env t₀ (fun _ => h.hydro)
      (adapterClip_eq_some_iff.mpr ⟨a, ha, rfl⟩)

/-- **When the load keeps within `hil_torque_clip_nm`.**  In every run in `hil` mode
from positive clips, every published load is within the clip in force exactly
when at every tick the clip is no NaN and the load's source keeps within it. -/
theorem loadClamped_iff (hmode : (start env l t₀).mode = .hil) (h : PositiveClips l)
    (es : List (Timed (FlapEvent ExtRat))) :
    (AtTicks es fun pre now => ∀ tau,
        ((run (step env) (start env l t₀) pre).tick env now).load = some tau →
          fabs tau ≤ doubleInForce l "hil_torque_clip_nm" pre) ↔
      AtTicks es fun pre now => (run (step env) (start env l t₀) pre).SourceWithin env now
        (doubleInForce l "hil_torque_clip_nm" pre) := by
  refine atTicks_congr ?_ es
  intro pre now
  have hclip : (run (step env) (start env l t₀) pre).hilTorqueClipNm =
      doubleInForce l "hil_torque_clip_nm" pre := run_member env l t₀ pre .hilTorqueClipNm
  obtain ⟨hpos, hhydro⟩ := clips_pos env t₀ h pre
  have hmode' : (run (step env) (start env l t₀) pre).mode = .hil :=
    (run_mode env _ pre).trans hmode
  obtain ⟨t, hstart⟩ := run_rampStart env l t₀ hmode pre
  rw [← hclip] at hpos ⊢
  rw [tick_load hmode', ← loadTorque_le_iff env now hstart hpos hhydro]
  constructor
  · intro hall
    exact hall _ rfl
  · intro hle tau htau
    rw [← Option.some.inj htau]
    exact hle

end Run

/-! ## A clip that is not the load's -/

/-- `hil` mode with a hydro clip of 0.5 N·m; the load's own is 0.3 N·m. -/
def wideHydroClip : Launch ExtRat :=
  (hydroLaunch.withString "mode" "hil").withDouble "hydro_torque_clip_nm" (fin (1 / 2))

/-- Hydro and load engaged for longer than the ramp, then one tick on fresh
feedback. -/
def engagedTick : List (Timed (FlapEvent ExtRat)) :=
  [ ⟨0, .enableHydro true⟩, ⟨0, .engageHil true⟩
  , ⟨1500000000, .jointState (.single 1500000000 "motor_joint" 0 0)⟩, ⟨1500000000, .tick⟩ ]

/-- SEA-Stack asks for 1 N·m. -/
def oneNewtonMetre : FlapEnvironment ExtRat Unit ExtRat := .pushing (fin 1)

theorem loadClamped_iff_wideHydroClip :
    (AtTicks engagedTick fun pre now => ∀ tau,
        ((run (step oneNewtonMetre) (start oneNewtonMetre wideHydroClip 0) pre).tick
          oneNewtonMetre now).load = some tau →
          fabs tau ≤ doubleInForce wideHydroClip "hil_torque_clip_nm" pre) ↔
      AtTicks engagedTick fun pre now =>
        (run (step oneNewtonMetre) (start oneNewtonMetre wideHydroClip 0) pre).SourceWithin
          oneNewtonMetre now (doubleInForce wideHydroClip "hil_torque_clip_nm" pre) :=
  loadClamped_iff oneNewtonMetre 0 (by decide +kernel)
    ⟨by decide +kernel, by decide +kernel⟩ engagedTick

/-- The hydro clip lets 0.5 N·m through, and the load topic carries 0.5 N·m, although
the load is to be clamped to 0.3 N·m. -/
theorem load_exceeds_clip :
    ¬AtTicks engagedTick fun pre now => ∀ tau,
        ((run (step oneNewtonMetre) (start oneNewtonMetre wideHydroClip 0) pre).tick
          oneNewtonMetre now).load = some tau →
          fabs tau ≤ doubleInForce wideHydroClip "hil_torque_clip_nm" pre := by
  intro h
  have hle := h
    [⟨0, .enableHydro true⟩, ⟨0, .engageHil true⟩,
      ⟨1500000000, .jointState (.single 1500000000 "motor_joint" 0 0)⟩] 1500000000 [] rfl
    (fin (1 / 2)) (by decide +kernel)
  revert hle
  decide +kernel

end MarineHil.Ports.ChronoFlapNode
