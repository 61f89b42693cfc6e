import MarineHil.Verified.Extended
import MarineHil.Ports.PidController

/-!
# `PidController` on infinities and NaN

What one call makes of a NaN depends on where the NaN sits.  In the integral it
stays for good, since neither the sum nor the clamp removes it.  In the
measurement it enters the integral unless the anti-windup flag happens to be
set, and through `prev_measurement_` it spoils one more derivative.

## Main results

* `FiniteGains.compute_isFinite`: finite inputs and a finite state give a finite
  output and a finite state.
* `sum_eq_nan_of_integral`, `sum_eq_nan_of_error`, `sum_eq_nan_of_derivative`:
  the three ways a NaN gets into the sum.
* `compute_integral_of_nan`: a NaN integral survives every call.
-/

namespace MarineHil.Ports.PidController

open MarineHil.Verified
open MarineHil.Verified.ExtRat

/-- Gains and limits are numbers. -/
structure FiniteGains (c : PidController ExtRat) : Prop where
  kp : c.kp.IsFinite
  ki : c.ki.IsFinite
  kd : c.kd.IsFinite
  integralLimit : c.integralLimit.IsFinite
  outputMin : c.outputMin.IsFinite
  outputMax : c.outputMax.IsFinite

/-- The state is numbers, as far as the next call reads it. -/
structure FiniteState (c : PidController ExtRat) : Prop where
  integral : c.integral.IsFinite
  prevMeasurement : c.firstRun = false → c.prevMeasurement.IsFinite

section Calls

variable {c : PidController ExtRat} {setpoint measurement dt : ExtRat}

/-! ## Finite calls -/

theorem error_isFinite (hs : setpoint.IsFinite) (hm : measurement.IsFinite) :
    (c.error setpoint measurement).IsFinite := by
  unfold error
  split
  · exact isFinite_zero
  · exact hs.sub hm

theorem derivative_isFinite (hc : c.FiniteState) (hm : measurement.IsFinite)
    (hdt : dt.IsFinite) : (c.derivative measurement dt).IsFinite := by
  unfold derivative
  by_cases h : c.firstRun = false ∧ 0 < dt
  · rw [if_pos h]
    exact ((hm.sub (hc.prevMeasurement h.1)).neg).div_pos hdt h.2
  · rw [if_neg h]
    exact isFinite_zero

theorem nextIntegral_isFinite (hg : c.FiniteGains) (hi : c.integral.IsFinite) {error : ExtRat}
    (he : error.IsFinite) (hdt : dt.IsFinite) : (c.nextIntegral error dt).IsFinite := by
  unfold nextIntegral
  split
  · exact (hi.add (he.mul hdt)).clamp hg.integralLimit.neg hg.integralLimit
  · exact hi

theorem sum_isFinite (hg : c.FiniteGains) (hc : c.FiniteState) (hs : setpoint.IsFinite)
    (hm : measurement.IsFinite) (hdt : dt.IsFinite) :
    (c.sum setpoint measurement dt).IsFinite := by
  have herror := error_isFinite (c := c) hs hm
  have hintegral := nextIntegral_isFinite hg hc.integral herror hdt
  have hderiv := derivative_isFinite hc hm hdt
  exact ((hg.kp.mul herror).add (hg.ki.mul hintegral)).add (hg.kd.mul hderiv)

/-- A finite integral that is integrated finitely stays finite, whatever the
rest of the call does. -/
theorem compute_integral_isFinite (hg : c.FiniteGains)
    (h : (c.nextIntegral (c.error setpoint measurement) dt).IsFinite) :
    (c.compute setpoint measurement dt).pid.integral.IsFinite := by
  rcases compute_integral c setpoint measurement dt with heq | heq
  · rw [heq]
    exact h
  · rw [heq]
    exact h.clamp hg.integralLimit.neg hg.integralLimit

/-- On finite inputs a finite state gives a finite output and a finite state. -/
theorem FiniteGains.compute_isFinite (hg : c.FiniteGains) (hc : c.FiniteState)
    (hs : setpoint.IsFinite) (hm : measurement.IsFinite) (hdt : dt.IsFinite) :
    (c.compute setpoint measurement dt).output.IsFinite ∧
      (c.compute setpoint measurement dt).pid.FiniteState := by
  constructor
  · rw [compute_output]
    exact (sum_isFinite hg hc hs hm hdt).clamp hg.outputMin hg.outputMax
  · have hnext := nextIntegral_isFinite hg hc.integral (error_isFinite (c := c) hs hm) hdt
    exact ⟨compute_integral_isFinite hg hnext, fun _ => hm⟩

/-! ## How NaN gets into the sum -/

theorem error_of_nan_setpoint : c.error nan measurement = nan := by
  unfold error
  rw [nan_sub]
  split
  · rename_i h
    exact absurd h (not_nan_lt _)
  · rfl

theorem error_of_nan_measurement : c.error setpoint nan = nan := by
  unfold error
  rw [sub_nan]
  split
  · rename_i h
    exact absurd h (not_nan_lt _)
  · rfl

/-- A NaN error is integrated unless the flag is set. -/
theorem nextIntegral_of_nan_error :
    c.nextIntegral nan dt = if c.saturated then c.integral else nan := by
  have hint : c.integrates nan = !c.saturated := by
    have hle : ¬nan * c.integral ≤ 0 := by
      rw [nan_mul]
      exact not_nan_le 0
    rw [integrates, decide_eq_false hle, Bool.or_false]
  rw [nextIntegral, hint, nan_mul, add_nan, clamp_nan]
  cases c.saturated <;> rfl

/-- A NaN integral stays. -/
theorem nextIntegral_of_nan (h : c.integral = nan) (error : ExtRat) :
    c.nextIntegral error dt = nan := by
  unfold nextIntegral
  rw [h, nan_add, clamp_nan, ite_self]

theorem sum_eq_nan_of_integral (h : c.integral = nan) : c.sum setpoint measurement dt = nan := by
  rw [PidController.sum, nextIntegral_of_nan h, mul_nan, add_nan, nan_add]

theorem sum_eq_nan_of_error (h : c.error setpoint measurement = nan) :
    c.sum setpoint measurement dt = nan := by
  rw [PidController.sum, h, mul_nan, nan_add, nan_add]

/-- A NaN in the previous measurement spoils the derivative. -/
theorem sum_eq_nan_of_derivative (hrun : c.firstRun = false) (hprev : c.prevMeasurement = nan)
    (hdt : 0 < dt) : c.sum setpoint measurement dt = nan := by
  rw [PidController.sum, derivative, if_pos ⟨hrun, hdt⟩, hprev, sub_nan, neg_nan, nan_div,
    mul_nan, add_nan]

/-- A NaN integral survives the call. -/
theorem compute_integral_of_nan (h : c.integral = nan) :
    (c.compute setpoint measurement dt).pid.integral = nan := by
  rcases compute_integral c setpoint measurement dt with heq | heq
  · rw [heq, nextIntegral_of_nan h]
  · rw [heq, nextIntegral_of_nan h, clamp_nan]

/-- A NaN error without the flag puts NaN into the integral. -/
theorem compute_integral_of_nan_error (h : c.error setpoint measurement = nan)
    (hsat : c.saturated = false) : (c.compute setpoint measurement dt).pid.integral = nan := by
  have hnext : c.nextIntegral (c.error setpoint measurement) dt = nan := by
    rw [h, nextIntegral_of_nan_error, hsat]
    rfl
  rcases compute_integral c setpoint measurement dt with heq | heq
  · rw [heq, hnext]
  · rw [heq, hnext, clamp_nan]

end Calls

end MarineHil.Ports.PidController
