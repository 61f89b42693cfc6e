import MarineHil.Verified.Double

/-!
# `PidController`

The generic controller of `pid_controller.hpp`, shared by the inner and the
outer loop of `velocity_pid_node` and by the shadow controller of
`chrono_flap_node`.

`compute` is cut into the quantities the source computes in order (error,
derivative, integral, output), so that the nodes' proofs can name them.  Every
call also returns the bounds with which it executes `std::clamp`; the list is a
record for the proofs and feeds nothing back.
-/

namespace MarineHil.Ports

open MarineHil.Verified

structure PidController (α : Type) where
  kp : α
  ki : α
  kd : α
  integralLimit : α
  deadband : α
  outputMin : α
  outputMax : α
  saturated : Bool
  integral : α
  prevMeasurement : α
  firstRun : Bool

/-- One call of `compute`: the controller afterwards, the returned output, and
the bounds `(lo, hi)` of the clamps it executed. -/
structure PidStep (α : Type) where
  pid : PidController α
  output : α
  clamps : List (α × α)

namespace PidController

section Model

variable {α : Type} [Double α]

/-- A controller as its member initialisers leave it. -/
def fresh : PidController α where
  kp := 0
  ki := 0
  kd := 0
  integralLimit := lit 1
  deadband := 0
  outputMin := -lit 1000000000
  outputMax := lit 1000000000
  saturated := false
  integral := 0
  prevMeasurement := 0
  firstRun := true

def reset (c : PidController α) : PidController α :=
  { c with
    integral := 0
    prevMeasurement := 0
    saturated := false
    firstRun := true }

/-- Error with deadband. -/
def error (c : PidController α) (setpoint measurement : α) : α :=
  if fabs (setpoint - measurement) < c.deadband then 0 else setpoint - measurement

/-- Derivative on measurement. -/
def derivative (c : PidController α) (measurement dt : α) : α :=
  if c.firstRun = false ∧ 0 < dt then -(measurement - c.prevMeasurement) / dt else 0

/-- Directional anti-windup: whether this call integrates. -/
def integrates (c : PidController α) (error : α) : Bool :=
  !c.saturated || decide (error * c.integral ≤ 0)

/-- The integral used in the output. -/
def nextIntegral (c : PidController α) (error dt : α) : α :=
  if c.integrates error then
    clamp (c.integral + error * dt) (-c.integralLimit) c.integralLimit
  else c.integral

/-- The sum of the three terms, before the output clamp. -/
def sum (c : PidController α) (setpoint measurement dt : α) : α :=
  let error := c.error setpoint measurement
  c.kp * error + c.ki * c.nextIntegral error dt + c.kd * c.derivative measurement dt

def compute (c : PidController α) (setpoint measurement dt : α) : PidStep α :=
  let error := c.error setpoint measurement
  let integral := c.nextIntegral error dt
  let output := clamp (c.sum setpoint measurement dt) c.outputMin c.outputMax
  let saturated := decide (c.outputMax ≤ output) || decide (output ≤ c.outputMin)
  -- leaving saturation clamps the integral once more
  let leaves := c.saturated && !saturated
  { pid :=
      { c with
        saturated := saturated
        integral :=
          if leaves then clamp integral (-c.integralLimit) c.integralLimit else integral
        prevMeasurement := measurement
        firstRun := false }
    output := output
    clamps :=
      (if c.integrates error then [(-c.integralLimit, c.integralLimit)] else []) ++
        (c.outputMin, c.outputMax) ::
          (if leaves then [(-c.integralLimit, c.integralLimit)] else []) }

section Fields

variable (c : PidController α) (setpoint measurement dt : α)

theorem compute_output : (c.compute setpoint measurement dt).output =
    clamp (c.sum setpoint measurement dt) c.outputMin c.outputMax := rfl

/-- The integral a call leaves is the new one, perhaps clamped once more. -/
theorem compute_integral :
    (c.compute setpoint measurement dt).pid.integral =
        c.nextIntegral (c.error setpoint measurement) dt ∨
      (c.compute setpoint measurement dt).pid.integral =
        clamp (c.nextIntegral (c.error setpoint measurement) dt) (-c.integralLimit)
          c.integralLimit := by
  unfold compute
  dsimp only
  split
  · exact Or.inr rfl
  · exact Or.inl rfl

end Fields

/-- Every clamp of a call has one of two pairs of bounds. -/
theorem mem_clamps {c : PidController α} {setpoint measurement dt : α} {b : α × α}
    (h : b ∈ (c.compute setpoint measurement dt).clamps) :
    b = (-c.integralLimit, c.integralLimit) ∨ b = (c.outputMin, c.outputMax) := by
  simp only [compute, List.mem_append, List.mem_cons] at h
  rcases h with h | h | h
  · split at h
    · exact Or.inl (List.mem_singleton.mp h)
    · exact absurd h List.not_mem_nil
  · exact Or.inr h
  · split at h
    · exact Or.inl (List.mem_singleton.mp h)
    · exact absurd h List.not_mem_nil

/-- Limits under which every clamp of the controller is well formed. -/
structure LimitsOrdered (c : PidController α) : Prop where
  integral : -c.integralLimit ≤ c.integralLimit
  output : c.outputMin ≤ c.outputMax

theorem LimitsOrdered.clamps {c : PidController α} (h : c.LimitsOrdered)
    {setpoint measurement dt : α} {b : α × α}
    (hb : b ∈ (c.compute setpoint measurement dt).clamps) : b.1 ≤ b.2 := by
  rcases mem_clamps hb with rfl | rfl
  · exact h.integral
  · exact h.output

end Model

/-! ## Measurements that make a controller act -/

/-- Nothing has been measured or integrated yet. -/
structure Unstarted (c : PidController ℚ) : Prop where
  integral : c.integral = 0
  saturated : c.saturated = false
  firstRun : c.firstRun = true

section Acting

variable {c : PidController ℚ} {setpoint dt : ℚ}

/-- Outside the deadband the error is the difference. -/
theorem error_of_deadband_le {e : ℚ} (h : c.deadband ≤ |e|) :
    c.error setpoint (setpoint - e) = e := by
  have hdiff : setpoint - (setpoint - e) = e := by ring
  rw [error, hdiff, fabs_rat, if_neg (not_lt.mpr h)]

/-- The first sum of an unstarted controller has no derivative. -/
theorem Unstarted.sum (hc : c.Unstarted) (setpoint dt : ℚ) {e : ℚ} (h : c.deadband ≤ |e|) :
    c.sum setpoint (setpoint - e) dt =
      c.kp * e + c.ki * clamp (e * dt) (-c.integralLimit) c.integralLimit := by
  have hderiv : c.derivative (setpoint - e) dt = 0 := by
    rw [derivative, hc.firstRun]
    exact if_neg (fun hfirst => Bool.noConfusion hfirst.1)
  have hintegral : c.nextIntegral e dt = clamp (e * dt) (-c.integralLimit) c.integralLimit := by
    have hint : c.integrates e = true := by
      rw [integrates, hc.saturated]
      rfl
    rw [nextIntegral, if_pos hint, hc.integral, zero_add]
  rw [PidController.sum, error_of_deadband_le h, hderiv, hintegral, mul_zero, add_zero]

/-- The gains react to an error: proportionally, or through an integral that
is not held at zero. -/
def Reacts (c : PidController ℚ) : Prop := c.kp ≠ 0 ∨ (c.ki ≠ 0 ∧ c.integralLimit ≠ 0)

theorem not_reacts_iff : ¬c.Reacts ↔ c.kp = 0 ∧ (c.ki = 0 ∨ c.integralLimit = 0) := by
  unfold Reacts
  rw [not_or, not_and_or, not_not, not_not, not_not]

/-- With integral gain alone any error outside the deadband acts. -/
theorem exists_sum_of_ki (hkp : c.kp = 0) (hki : c.ki ≠ 0) (hlimit : 0 < c.integralLimit)
    (hdt : 0 < dt) :
    ∃ e : ℚ, 0 < e ∧ c.deadband ≤ e ∧
      c.kp * e + c.ki * clamp (e * dt) (-c.integralLimit) c.integralLimit ≠ 0 := by
  have hdead := le_max_left c.deadband 0
  have hzero := le_max_right c.deadband 0
  have he : 0 < max c.deadband 0 + 1 := by linarith
  refine ⟨max c.deadband 0 + 1, he, by linarith, ?_⟩
  rw [hkp, zero_mul, zero_add]
  exact mul_ne_zero hki (clamp_pos hlimit (mul_pos he hdt)).ne'

/-- With proportional gain an error acts that outweighs the integral term. -/
theorem exists_sum_of_kp (hkp : c.kp ≠ 0) (hlimit : 0 ≤ c.integralLimit) (dt : ℚ) :
    ∃ e : ℚ, 0 < e ∧ c.deadband ≤ e ∧
      c.kp * e + c.ki * clamp (e * dt) (-c.integralLimit) c.integralLimit ≠ 0 := by
  have habs : 0 < |c.kp| := abs_pos.mpr hkp
  have hbound : 0 ≤ |c.ki| * c.integralLimit := mul_nonneg (abs_nonneg _) hlimit
  have hquot : 0 < (|c.ki| * c.integralLimit + 1) / |c.kp| := div_pos (by linarith) habs
  have hdead := le_max_left c.deadband 0
  have hzero := le_max_right c.deadband 0
  obtain ⟨e, hdef⟩ : ∃ e, e = max c.deadband 0 + (|c.ki| * c.integralLimit + 1) / |c.kp| :=
    ⟨_, rfl⟩
  have he : 0 < e := by linarith
  have hprop : |c.ki| * c.integralLimit + 1 ≤ |c.kp * e| := by
    calc |c.ki| * c.integralLimit + 1
        = |c.kp| * ((|c.ki| * c.integralLimit + 1) / |c.kp|) := by
          rw [mul_div_cancel₀ _ habs.ne']
      _ ≤ |c.kp| * e := mul_le_mul_of_nonneg_left (by linarith) habs.le
      _ = |c.kp * e| := by rw [abs_mul, abs_of_pos he]
  have hint : |c.ki * clamp (e * dt) (-c.integralLimit) c.integralLimit| ≤
      |c.ki| * c.integralLimit := by
    rw [abs_mul]
    exact mul_le_mul_of_nonneg_left (abs_clamp_le hlimit) (abs_nonneg _)
  refine ⟨e, he, by linarith, ?_⟩
  intro hsum
  have heq : |c.kp * e| = |c.ki * clamp (e * dt) (-c.integralLimit) c.integralLimit| := by
    rw [eq_neg_of_add_eq_zero_left hsum, abs_neg]
  linarith

/-- A large enough error gives a sum other than zero. -/
theorem Reacts.exists_sum_ne_zero (h : c.Reacts) (hlimit : 0 ≤ c.integralLimit)
    (hdt : 0 < dt) :
    ∃ e : ℚ, 0 < e ∧ c.deadband ≤ e ∧
      c.kp * e + c.ki * clamp (e * dt) (-c.integralLimit) c.integralLimit ≠ 0 := by
  by_cases hkp : c.kp = 0
  · obtain ⟨hki, hne⟩ := h.resolve_left (not_not.mpr hkp)
    exact exists_sum_of_ki hkp hki (lt_of_le_of_ne hlimit hne.symm) hdt
  · exact exists_sum_of_kp hkp hlimit dt

/-- An unstarted controller that reacts can be driven to either sign. -/
theorem Unstarted.exists_sum_sign (hc : c.Unstarted) (hlimit : 0 ≤ c.integralLimit)
    (hdt : 0 < dt) (h : c.Reacts) (setpoint : ℚ) :
    (∃ y, 0 < c.sum setpoint y dt) ∧ ∃ y, c.sum setpoint y dt < 0 := by
  obtain ⟨e, he, hdead, hne⟩ := h.exists_sum_ne_zero hlimit hdt
  have habs : |e| = e := abs_of_pos he
  have hplus := hc.sum setpoint dt (e := e) (by rwa [habs])
  have hminus := hc.sum setpoint dt (e := -e) (by rwa [abs_neg, habs])
  -- the two errors give opposite sums
  have hodd : c.sum setpoint (setpoint - -e) dt = -c.sum setpoint (setpoint - e) dt := by
    rw [hminus, hplus, neg_mul e dt, clamp_neg hlimit]
    ring
  rw [← hplus] at hne
  rcases lt_or_gt_of_ne hne with hneg | hpos
  · exact ⟨⟨_, by rw [hodd]; exact neg_pos.mpr hneg⟩, ⟨_, hneg⟩⟩
  · exact ⟨⟨_, hpos⟩, ⟨_, by rw [hodd]; exact neg_neg_of_pos hpos⟩⟩

end Acting

/-- The integral term is zero and stays so: no gain on it, or a limit of zero. -/
def IntegralOff (c : PidController ℚ) : Prop :=
  c.ki = 0 ∨ (c.integralLimit = 0 ∧ c.integral = 0)

/-- Gains under which the sum of the three terms is zero whatever is measured. -/
structure Inert (c : PidController ℚ) : Prop where
  kp : c.kp = 0
  kd : c.kd = 0
  integral : c.IntegralOff

section Inert

variable {c : PidController ℚ}

/-- An integral held at zero stays there. -/
theorem nextIntegral_eq_zero (hlimit : c.integralLimit = 0) (hzero : c.integral = 0)
    (error dt : ℚ) : c.nextIntegral error dt = 0 := by
  unfold nextIntegral
  rw [hlimit, hzero, clamp_zero_bounds, ite_self]

theorem IntegralOff.term_eq_zero (h : c.IntegralOff) (error dt : ℚ) :
    c.ki * c.nextIntegral error dt = 0 := by
  rcases h with hki | ⟨hlimit, hzero⟩
  · rw [hki, zero_mul]
  · rw [nextIntegral_eq_zero hlimit hzero, mul_zero]

/-- A call keeps the integral off, whatever the caller does with the saturation
flag. -/
theorem IntegralOff.compute (h : c.IntegralOff) (setpoint measurement dt : ℚ)
    (saturated : Bool) :
    IntegralOff { (c.compute setpoint measurement dt).pid with saturated := saturated } := by
  rcases h with hki | ⟨hlimit, hzero⟩
  · exact Or.inl hki
  · refine Or.inr ⟨hlimit, ?_⟩
    have hnext := nextIntegral_eq_zero hlimit hzero (c.error setpoint measurement) dt
    show (if _ then clamp (c.nextIntegral (c.error setpoint measurement) dt)
        (-c.integralLimit) c.integralLimit
      else c.nextIntegral (c.error setpoint measurement) dt) = 0
    rw [hnext, hlimit, clamp_zero_bounds, ite_self]

theorem Inert.sum_eq_zero (h : c.Inert) (setpoint measurement dt : ℚ) :
    c.sum setpoint measurement dt = 0 := by
  rw [PidController.sum, h.kp, h.kd, h.integral.term_eq_zero, zero_mul, zero_mul, add_zero,
    add_zero]

theorem Inert.compute (h : c.Inert) (setpoint measurement dt : ℚ) (saturated : Bool) :
    Inert { (c.compute setpoint measurement dt).pid with saturated := saturated } :=
  ⟨h.kp, h.kd, h.integral.compute setpoint measurement dt saturated⟩

/-- With derivative gain alone, a change of the measurement acts. -/
theorem IntegralOff.sum_ne_zero (h : c.IntegralOff) (hkp : c.kp = 0) (hkd : c.kd ≠ 0)
    (hrun : c.firstRun = false) {measurement dt : ℚ} (hdt : 0 < dt)
    (hmove : measurement ≠ c.prevMeasurement) (setpoint : ℚ) :
    c.sum setpoint measurement dt ≠ 0 := by
  rw [PidController.sum, hkp, h.term_eq_zero, zero_mul, add_zero, zero_add, derivative,
    if_pos ⟨hrun, hdt⟩]
  have hdiff : measurement - c.prevMeasurement ≠ 0 := sub_ne_zero.mpr hmove
  exact mul_ne_zero hkd (div_ne_zero (neg_ne_zero.mpr hdiff) hdt.ne')

end Inert

end PidController

end MarineHil.Ports
