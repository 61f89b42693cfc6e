import MarineHil.Verified.Run
import MarineHil.Verified.Extended
import MarineHil.Ports.PidController

/-!
# Runs of one `PidController`

The fields of a controller are public: between two calls of `compute` its callers
write the gains, the limits and the saturation flag, and reset it.  `compute` clamps
the integral where it integrates, and once more where it leaves saturation; a call
that freezes the integral while it stays saturated does neither.  And no clamp brings
back a NaN.

## Main results

* `integral_limited_iff`: the integral keeps to the limit in force exactly where no
  frozen call holds one that is past it, and no other adds up to a NaN.
* `along_clampable_of_not_cut`: limits that are never lowered below the integral.
* `abs_integral_le`: saturation winds up by one step at most.
-/

namespace MarineHil.Ports

open MarineHil.Verified

/-- The public fields a caller writes between calls. -/
structure PidSettings (α : Type) where
  kp : α
  ki : α
  kd : α
  integralLimit : α
  deadband : α
  outputMin : α
  outputMax : α

inductive PidEvent (α : Type) where
  | compute (setpoint measurement dt : α)
  | reset
  | configure (settings : PidSettings α)
  | saturate (saturated : Bool)

namespace PidController

section Model

variable {α : Type} [Double α]

omit [Double α] in
/-- The controller with its public fields written. -/
def configure (c : PidController α) (g : PidSettings α) : PidController α :=
  { c with
    kp := g.kp
    ki := g.ki
    kd := g.kd
    integralLimit := g.integralLimit
    deadband := g.deadband
    outputMin := g.outputMin
    outputMax := g.outputMax }

/-- One thing a caller does with a controller. -/
def step (c : PidController α) (e : PidEvent α) : PidController α :=
  match e with
  | .compute setpoint measurement dt => (c.compute setpoint measurement dt).pid
  | .reset => c.reset
  | .configure settings => c.configure settings
  | .saturate saturated => { c with saturated := saturated }

/-- `P` holds of the event when it is a call. -/
def AtCall (P : PidController α → α → α → α → Prop) (c : PidController α) (e : PidEvent α) :
    Prop :=
  match e with
  | .compute setpoint measurement dt => P c setpoint measurement dt
  | _ => True

end Model

end PidController

/-- What callers promise: limits and steps of time that are not negative. -/
def PidEvent.Admissible {α : Type} [Double α] : PidEvent α → Prop
  | .compute _ _ dt => 0 ≤ dt
  | .configure settings => 0 ≤ settings.integralLimit
  | _ => True

instance {α : Type} [Double α] (e : PidEvent α) : Decidable e.Admissible :=
  match e with
  | .compute _ _ dt => inferInstanceAs (Decidable (0 ≤ dt))
  | .configure settings => inferInstanceAs (Decidable (0 ≤ settings.integralLimit))
  | .reset => isTrue trivial
  | .saturate _ => isTrue trivial

/-- The arguments of a call are numbers. -/
def PidEvent.Numbers : PidEvent ExtRat → Prop
  | .compute setpoint measurement dt =>
      setpoint.IsFinite ∧ measurement.IsFinite ∧ dt.IsFinite
  | _ => True

namespace PidController

section Step

variable {α : Type} [Double α] {c : PidController α}

/-- Promised limits stay promised. -/
theorem step_integralLimit_nonneg (h : 0 ≤ c.integralLimit) {e : PidEvent α}
    (he : e.Admissible) : 0 ≤ (c.step e).integralLimit := by
  cases e with
  | compute setpoint measurement dt => exact h
  | reset => exact h
  | configure settings => exact he
  | saturate saturated => exact h

/-- A saturated call integrates against the sign of the integral. -/
theorem integrates_saturated (h : c.saturated = true) (error : α) :
    c.integrates error = decide (error * c.integral ≤ 0) := by
  rw [integrates, h]
  rfl

theorem nextIntegral_frozen {error : α} (h : c.integrates error = false) (dt : α) :
    c.nextIntegral error dt = c.integral := by
  rw [nextIntegral, h]
  exact if_neg Bool.false_ne_true

theorem nextIntegral_integrates {error : α} (h : c.integrates error = true) (dt : α) :
    c.nextIntegral error dt =
      clamp (c.integral + error * dt) (-c.integralLimit) c.integralLimit := by
  rw [nextIntegral, if_pos h]

/-! ## The limit in force -/

/-- Both integrals of a call are within the limit in force. -/
structure Limited (c : PidController α) (setpoint measurement dt : α) : Prop where
  used : fabs (c.nextIntegral (c.error setpoint measurement) dt) ≤ c.integralLimit
  stored : fabs (c.compute setpoint measurement dt).pid.integral ≤ c.integralLimit

end Step

section Extended

open ExtRat

variable {c : PidController ExtRat} {setpoint measurement dt : ExtRat}

/-- The call integrates and adds up to a number or an infinity, or it freezes an integral
that is within the limit. -/
def Clampable (c : PidController ExtRat) (setpoint measurement dt : ExtRat) : Prop :=
  if c.integrates (c.error setpoint measurement) then
    c.integral + c.error setpoint measurement * dt ≠ nan
  else fabs c.integral ≤ c.integralLimit

/-- What one call does with the limit. -/
theorem limited_iff (h : 0 ≤ c.integralLimit) :
    c.Limited setpoint measurement dt ↔ c.Clampable setpoint measurement dt := by
  have hused : fabs (c.nextIntegral (c.error setpoint measurement) dt) ≤ c.integralLimit ↔
      c.Clampable setpoint measurement dt := by
    unfold Clampable
    cases hint : c.integrates (c.error setpoint measurement) with
    | true =>
        rw [nextIntegral_integrates hint, fabs_clamp_le_bound_iff h]
        exact Iff.rfl
    | false =>
        rw [nextIntegral_frozen hint]
        exact Iff.rfl
  constructor
  · intro hlimited
    exact hused.mp hlimited.used
  · intro hclampable
    have hle := hused.mpr hclampable
    refine ⟨hle, ?_⟩
    rcases compute_integral c setpoint measurement dt with hstored | hstored
    · rw [hstored]
      exact hle
    · rw [hstored, fabs_clamp_le_bound_iff h]
      intro hnan
      rw [hnan, fabs_nan] at hle
      exact not_nan_le _ hle

end Extended

/-- **The integral keeps to the limit in force exactly where no frozen call holds one
that is past it, and no other adds up to a NaN.** -/
theorem integral_limited_iff (c : PidController ExtRat) (es : List (PidEvent ExtRat))
    (hc : 0 ≤ c.integralLimit) (hes : ∀ e ∈ es, e.Admissible) :
    Along step (AtCall Limited) c es ↔ Along step (AtCall Clampable) c es := by
  refine forall_congr' fun pre => forall_congr' fun e => forall_congr' fun post => ?_
  refine imp_congr_right fun hsplit => ?_
  have hlimit : 0 ≤ (run step c pre).integralLimit := by
    refine invariant_run_of_mem (I := fun s : PidController ExtRat => 0 ≤ s.integralLimit)
      (fun s d hd hs => step_integralLimit_nonneg hs (hes d ?_)) hc
    rw [hsplit]
    exact List.mem_append_left _ hd
  cases e with
  | compute setpoint measurement dt => exact limited_iff hlimit
  | reset => exact Iff.rfl
  | configure settings => exact Iff.rfl
  | saturate saturated => exact Iff.rfl

/-- Settings for a controller that is saturated from an output of `1` on. -/
def tight {α : Type} [Double α] (integralLimit : α) : PidSettings α :=
  ⟨lit 1, lit 1, 0, integralLimit, 0, -lit 1, lit 1⟩

/-- A call winds the integral up to `1`; the limit is lowered to `1 / 2`; and the next
call is frozen. -/
def lowered : List (PidEvent ExtRat) :=
  [ .configure (tight (.fin 1)), .compute (.fin 1) 0 (.fin 1)
  , .configure (tight (.fin (1 / 2))), .compute (.fin 1) 0 (.fin 1) ]

/-- The frozen call uses and keeps an integral of twice the limit in force. -/
theorem integral_exceeds_lowered_limit :
    (∀ e ∈ lowered, e.Admissible) ∧ ¬Along step (AtCall Limited) fresh lowered := by
  refine ⟨by decide +kernel, fun h => ?_⟩
  have hlast : Limited (run step fresh (lowered.take 3)) (.fin 1) 0 (.fin 1) :=
    h (lowered.take 3) (.compute (.fin 1) 0 (.fin 1)) [] rfl
  exact absurd hlast.used (by decide +kernel)

theorem lowered_limited_iff :
    0 ≤ (fresh : PidController ExtRat).integralLimit ∧ (∀ e ∈ lowered, e.Admissible) ∧
      (Along step (AtCall Limited) fresh lowered ↔
        Along step (AtCall Clampable) fresh lowered) :=
  ⟨by decide +kernel, by decide +kernel,
    integral_limited_iff fresh lowered (by decide +kernel) (by decide +kernel)⟩

section Uncut

open ExtRat

/-- The event lowers the limit below the integral. -/
def Cuts (c : PidController ExtRat) (e : PidEvent ExtRat) : Prop :=
  match e with
  | .configure settings => ¬fabs c.integral ≤ settings.integralLimit
  | _ => False

/-- Within the limit a call on numbers has nothing to go wrong. -/
theorem clampable_of_numbers {c : PidController ExtRat} {setpoint measurement dt : ExtRat}
    (hc : fabs c.integral ≤ c.integralLimit)
    (hcall : (PidEvent.compute setpoint measurement dt).Numbers) :
    c.Clampable setpoint measurement dt := by
  obtain ⟨hsetpoint, hmeasurement, hdt⟩ := hcall
  have herror : (c.error setpoint measurement).IsFinite := by
    unfold error
    split
    · exact isFinite_zero
    · exact hsetpoint.sub hmeasurement
  obtain ⟨step, hstep⟩ := isFinite_iff.mp (herror.mul hdt)
  unfold Clampable
  rw [hstep]
  split
  · cases hintegral : c.integral with
    | fin q => exact nofun
    | posInf => exact nofun
    | negInf => exact nofun
    | nan =>
        rw [hintegral, fabs_nan] at hc
        exact absurd hc (not_nan_le _)
  · exact hc

/-- Limits that are never lowered below the integral are kept, on numbers. -/
theorem along_clampable_of_not_cut {c : PidController ExtRat} {es : List (PidEvent ExtRat)}
    (hc : fabs c.integral ≤ c.integralLimit) (hlimit : 0 ≤ c.integralLimit)
    (hes : ∀ e ∈ es, e.Admissible ∧ e.Numbers)
    (hcut : Along step (fun s e => ¬s.Cuts e) c es) : Along step (AtCall Clampable) c es := by
  have hboth : Along step (fun s e => (e.Admissible ∧ e.Numbers) ∧ ¬s.Cuts e) c es := by
    intro pre e post hsplit
    exact ⟨hes e (by simp [hsplit]), hcut pre e post hsplit⟩
  refine hboth.imp
    (I := fun s : PidController ExtRat => fabs s.integral ≤ s.integralLimit ∧ 0 ≤ s.integralLimit)
    ?_ ?_ ⟨hc, hlimit⟩
  · intro s e hs he
    cases e with
    | compute setpoint measurement dt => exact clampable_of_numbers hs.1 he.1.2
    | reset => trivial
    | configure settings => trivial
    | saturate saturated => trivial
  · intro s e hs he
    refine ⟨?_, step_integralLimit_nonneg hs.2 he.1.1⟩
    cases e with
    | compute setpoint measurement dt =>
        exact ((limited_iff hs.2).mpr (clampable_of_numbers hs.1 he.1.2)).stored
    | reset => exact hs.2
    | configure settings => exact not_not.mp he.2
    | saturate saturated => exact hs.1

end Uncut

/-! ## Windup while saturated -/

/-- A call is entered with the saturation flag set. -/
def EntersSaturated (c : PidController ℚ) (_setpoint _measurement _dt : ℚ) : Prop :=
  c.saturated = true

/-- What one call may add to the integral. -/
def stepSize (c : PidController ℚ) (e : PidEvent ℚ) : ℚ :=
  match e with
  | .compute setpoint measurement dt => |c.error setpoint measurement| * dt
  | _ => 0

/-- The largest addition of a run. -/
def largestStep : PidController ℚ → List (PidEvent ℚ) → ℚ
  | _, [] => 0
  | c, e :: es => max (c.stepSize e) ((c.step e).largestStep es)

/-- Clamping to the limit brings nothing further out. -/
theorem abs_clamp_le_abs {v b : ℚ} (hb : 0 ≤ b) : |clamp v (-b) b| ≤ |v| := by
  rw [abs_clamp_eq_min hb]
  exact min_le_left |v| b

/-- A call stores no more than it used. -/
theorem abs_stored_le {c : PidController ℚ} {setpoint measurement dt : ℚ}
    (h : 0 ≤ c.integralLimit) :
    |(c.compute setpoint measurement dt).pid.integral| ≤
      |c.nextIntegral (c.error setpoint measurement) dt| := by
  rcases compute_integral c setpoint measurement dt with hstored | hstored
  · rw [hstored]
  · rw [hstored]
    exact abs_clamp_le_abs h

/-- An integral within the limit stays there. -/
theorem limited_of_abs_le {c : PidController ℚ} (h : |c.integral| ≤ c.integralLimit)
    (setpoint measurement dt : ℚ) : c.Limited setpoint measurement dt := by
  have hnonneg : 0 ≤ c.integralLimit := (abs_nonneg _).trans h
  have hused : |c.nextIntegral (c.error setpoint measurement) dt| ≤ c.integralLimit := by
    cases hint : c.integrates (c.error setpoint measurement) with
    | true =>
        rw [nextIntegral_integrates hint]
        exact abs_clamp_le hnonneg
    | false =>
        rw [nextIntegral_frozen hint]
        exact h
  constructor
  · rw [fabs_rat]
    exact hused
  · rw [fabs_rat]
    exact (abs_stored_le hnonneg).trans hused

/-- A step against the sign of what it is added to. -/
theorem abs_add_le_max_of_mul_nonpos {x y : ℚ} (h : x * y ≤ 0) : |x + y| ≤ max |x| |y| := by
  rcases mul_nonpos_iff.mp h with ⟨hx, hy⟩ | ⟨hx, hy⟩
  · rw [abs_of_nonneg hx, abs_of_nonpos hy, abs_le]
    constructor
    · linarith [le_max_right x (-y)]
    · linarith [le_max_left x (-y)]
  · rw [abs_of_nonpos hx, abs_of_nonneg hy, abs_le]
    constructor
    · linarith [le_max_left (-x) y]
    · linarith [le_max_right (-x) y]

/-- A saturated call leaves the integral, or steps against its sign. -/
theorem abs_nextIntegral_le {c : PidController ℚ} {error dt : ℚ} (hsat : c.saturated = true)
    (hc : 0 ≤ c.integralLimit) (hdt : 0 ≤ dt) :
    |c.nextIntegral error dt| ≤ max |c.integral| (|error| * dt) := by
  rcases lt_or_ge 0 (error * c.integral) with hsign | hsign
  · have hfrozen : c.integrates error = false := by
      rw [integrates_saturated hsat, decide_eq_false (not_le.mpr hsign)]
    rw [nextIntegral_frozen hfrozen]
    exact le_max_left _ _
  · have hintegrates : c.integrates error = true := by
      rw [integrates_saturated hsat, decide_eq_true hsign]
    have hopposite : c.integral * (error * dt) ≤ 0 := by
      calc c.integral * (error * dt) = error * c.integral * dt := by ring
        _ ≤ 0 := mul_nonpos_of_nonpos_of_nonneg hsign hdt
    have habs : |error * dt| = |error| * dt := by rw [abs_mul, abs_of_nonneg hdt]
    rw [nextIntegral_integrates hintegrates]
    calc |clamp (c.integral + error * dt) (-c.integralLimit) c.integralLimit|
        ≤ |c.integral + error * dt| := abs_clamp_le_abs hc
      _ ≤ max |c.integral| |error * dt| := abs_add_le_max_of_mul_nonpos hopposite
      _ = max |c.integral| (|error| * dt) := by rw [habs]

/-- What one event may do to the integral. -/
theorem abs_step_integral_le {c : PidController ℚ} {e : PidEvent ℚ} (hc : 0 ≤ c.integralLimit)
    (he : e.Admissible) (hsat : c.AtCall EntersSaturated e) :
    |(c.step e).integral| ≤ max |c.integral| (c.stepSize e) := by
  cases e with
  | compute setpoint measurement dt =>
      exact (abs_stored_le hc).trans (abs_nextIntegral_le hsat hc he)
  | reset =>
      show |(0 : ℚ)| ≤ _
      rw [abs_zero]
      exact le_max_of_le_left (abs_nonneg _)
  | configure settings => exact le_max_left _ _
  | saturate saturated => exact le_max_left _ _

/-- **However long the saturation lasts, the integral winds up by one step at most.** -/
theorem abs_integral_le (c : PidController ℚ) (es : List (PidEvent ℚ))
    (hc : 0 ≤ c.integralLimit) (hes : ∀ e ∈ es, e.Admissible)
    (hsat : Along step (AtCall EntersSaturated) c es) :
    |(run step c es).integral| ≤ max |c.integral| (c.largestStep es) := by
  induction es generalizing c with
  | nil => exact le_max_left _ _
  | cons e es ih =>
      obtain ⟨hnow, hrest⟩ := along_cons.mp hsat
      have he := hes e List.mem_cons_self
      have hlater := ih (c.step e) (step_integralLimit_nonneg hc he)
        (fun d hd => hes d (List.mem_cons_of_mem e hd)) hrest
      calc |(run step (c.step e) es).integral|
          ≤ max |(c.step e).integral| ((c.step e).largestStep es) := hlater
        _ ≤ max (max |c.integral| (c.stepSize e)) ((c.step e).largestStep es) :=
          max_le_max_right _ (abs_step_integral_le hc he hnow)
        _ = max |c.integral| (c.largestStep (e :: es)) := max_assoc _ _ _

/-- Three saturated calls: a step up from zero, a frozen one, and one back through zero. -/
def throughZero : List (PidEvent ℚ) :=
  [.configure (tight 1), .saturate true, .compute 1 0 (1 / 2), .saturate true, .compute 2 0 1,
    .saturate true, .compute (-2) 0 (1 / 2)]

theorem abs_integral_throughZero :
    |(run step fresh throughZero).integral| ≤
      max |(fresh : PidController ℚ).integral| (largestStep fresh throughZero) := by
  refine abs_integral_le fresh throughZero (by decide +kernel) (by decide +kernel) ?_
  unfold throughZero
  refine along_cons.mpr ⟨trivial, along_cons.mpr ⟨trivial, ?_⟩⟩
  refine along_cons.mpr ⟨rfl, along_cons.mpr ⟨trivial, ?_⟩⟩
  refine along_cons.mpr ⟨rfl, along_cons.mpr ⟨trivial, ?_⟩⟩
  exact along_cons.mpr ⟨rfl, along_nil _⟩

end PidController

end MarineHil.Ports
