import MarineHil.Ports.PidRuns
import Mathlib.Algebra.BigOperators.Group.List.Basic

/-!
# The linear regime of `PidController`

As long as the running sum of the errors keeps to the integral limit and the sum of
the three terms to the output bounds, no clamp of `compute` acts and the saturation
flag stays down.  The controller then is the textbook one, with its derivative on
the measurement.

## Main results

* `Follows.compute`: a call in the regime, and what the controller carries after it.
* `output_eq_ideal`: the outputs of any number of calls.
-/

namespace MarineHil.Ports

open MarineHil.Verified

/-- The arguments of one call of `compute`. -/
structure PidCall where
  setpoint : ℚ
  measurement : ℚ
  dt : ℚ

def PidCall.event (k : PidCall) : PidEvent ℚ := .compute k.setpoint k.measurement k.dt

namespace PidController

/-- The public fields of a controller. -/
def settings (c : PidController ℚ) : PidSettings ℚ :=
  ⟨c.kp, c.ki, c.kd, c.integralLimit, c.deadband, c.outputMin, c.outputMax⟩

/-- The controller after some calls. -/
def after (c : PidController ℚ) (calls : List PidCall) : PidController ℚ :=
  run step c (calls.map PidCall.event)

/-! ## The textbook controller -/

def errorOf (c : PidController ℚ) (k : PidCall) : ℚ := c.error k.setpoint k.measurement

/-- The running sum of error times time. -/
def errorSum (c : PidController ℚ) (calls : List PidCall) : ℚ :=
  (calls.map fun k => c.errorOf k * k.dt).sum

/-- The derivative of the measurement with its sign turned: zero at first, and then a
difference quotient. -/
def slope (measurements : List ℚ) (measurement dt : ℚ) : ℚ :=
  measurements.getLast?.elim 0 fun previous => -(measurement - previous) / dt

/-- The output of a call after the given ones. -/
def ideal (c : PidController ℚ) (calls : List PidCall) (k : PidCall) : ℚ :=
  c.kp * c.errorOf k + c.ki * c.errorSum (calls ++ [k]) +
    c.kd * slope (calls.map PidCall.measurement) k.measurement k.dt

/-- A call that reaches no limit. -/
structure Linear (c : PidController ℚ) (calls : List PidCall) (k : PidCall) : Prop where
  dt : 0 < k.dt
  sum : |c.errorSum (calls ++ [k])| ≤ c.integralLimit
  output : c.outputMin < c.ideal calls k ∧ c.ideal calls k < c.outputMax

theorem errorSum_concat (c : PidController ℚ) (calls : List PidCall) (k : PidCall) :
    c.errorSum (calls ++ [k]) = c.errorSum calls + c.errorOf k * k.dt := by
  rw [errorSum, List.map_append, List.sum_append, List.map_singleton, List.sum_singleton,
    errorSum]

/-! ## The controller against it -/

/-- What a controller that started as `c` carries after some calls. -/
structure Follows (c : PidController ℚ) (calls : List PidCall) (s : PidController ℚ) : Prop where
  settings : s.settings = c.settings
  integral : s.integral = c.errorSum calls
  saturated : s.saturated = false
  firstRun : s.firstRun = calls.isEmpty
  prevMeasurement : ∀ k ∈ calls.getLast?, s.prevMeasurement = k.measurement

theorem Unstarted.follows {c : PidController ℚ} (h : c.Unstarted) : c.Follows [] c :=
  ⟨rfl, h.integral, h.saturated, h.firstRun, by rintro k ⟨⟩⟩

namespace Follows

variable {c s : PidController ℚ} {calls : List PidCall} {k : PidCall}

theorem error (h : c.Follows calls s) (k : PidCall) :
    s.error k.setpoint k.measurement = c.errorOf k := by
  have hdeadband : s.deadband = c.deadband := congrArg PidSettings.deadband h.settings
  rw [PidController.error, hdeadband]
  rfl

/-- The derivative is the slope of the measurements. -/
theorem derivative (h : c.Follows calls s) (hdt : 0 < k.dt) :
    s.derivative k.measurement k.dt =
      slope (calls.map PidCall.measurement) k.measurement k.dt := by
  rw [PidController.derivative, h.firstRun, slope, List.getLast?_map]
  cases hlast : calls.getLast? with
  | none =>
      rw [List.getLast?_eq_none_iff.mp hlast]
      exact if_neg (fun hfirst => Bool.noConfusion hfirst.1)
  | some previous =>
      have hne : calls.isEmpty = false := by
        cases calls with
        | nil => cases hlast
        | cons k calls => rfl
      rw [if_pos ⟨hne, hdt⟩, h.prevMeasurement previous hlast]
      rfl

/-- The clamp of the integral does not act. -/
theorem nextIntegral (h : c.Follows calls s) (hlin : c.Linear calls k) :
    s.nextIntegral (c.errorOf k) k.dt = c.errorSum (calls ++ [k]) := by
  have hint : s.integrates (c.errorOf k) = true := by
    rw [integrates, h.saturated]
    rfl
  have hlimit : s.integralLimit = c.integralLimit := congrArg PidSettings.integralLimit h.settings
  obtain ⟨hlow, hhigh⟩ := abs_le.mp hlin.sum
  rw [nextIntegral_integrates hint, h.integral, ← errorSum_concat, hlimit]
  exact clamp_of_mem hlow hhigh

theorem sum (h : c.Follows calls s) (hlin : c.Linear calls k) :
    s.sum k.setpoint k.measurement k.dt = c.ideal calls k := by
  have hkp : s.kp = c.kp := congrArg PidSettings.kp h.settings
  have hki : s.ki = c.ki := congrArg PidSettings.ki h.settings
  have hkd : s.kd = c.kd := congrArg PidSettings.kd h.settings
  rw [PidController.sum, h.error, h.nextIntegral hlin, h.derivative hlin.dt, hkp, hki, hkd]
  rfl

/-- The clamp of the output does not act either. -/
theorem output (h : c.Follows calls s) (hlin : c.Linear calls k) :
    (s.compute k.setpoint k.measurement k.dt).output = c.ideal calls k := by
  have hmin : s.outputMin = c.outputMin := congrArg PidSettings.outputMin h.settings
  have hmax : s.outputMax = c.outputMax := congrArg PidSettings.outputMax h.settings
  rw [compute_output, h.sum hlin, hmin, hmax]
  exact clamp_of_mem hlin.output.1.le hlin.output.2.le

/-- **A call in the regime keeps the controller on the textbook one.** -/
theorem compute (h : c.Follows calls s) (hlin : c.Linear calls k) :
    c.Follows (calls ++ [k]) (s.step k.event) := by
  have hmin : s.outputMin = c.outputMin := congrArg PidSettings.outputMin h.settings
  have hmax : s.outputMax = c.outputMax := congrArg PidSettings.outputMax h.settings
  refine ⟨h.settings, ?_, ?_, ?_, ?_⟩
  · show (if s.saturated && _ then _
      else s.nextIntegral (s.error k.setpoint k.measurement) k.dt) = _
    rw [h.saturated, h.error]
    exact h.nextIntegral hlin
  · show (decide (s.outputMax ≤ (s.compute k.setpoint k.measurement k.dt).output) ||
      decide ((s.compute k.setpoint k.measurement k.dt).output ≤ s.outputMin)) = false
    rw [h.output hlin, hmin, hmax, decide_eq_false (not_le.mpr hlin.output.2),
      decide_eq_false (not_le.mpr hlin.output.1)]
    rfl
  · show false = (calls ++ [k]).isEmpty
    cases calls with
    | nil => rfl
    | cons k calls => rfl
  · intro last hlast
    rw [List.getLast?_concat] at hlast
    cases hlast
    rfl

end Follows

/-- **The outputs in the linear regime** are those of the textbook controller, from a
fresh or a reset controller on. -/
theorem output_eq_ideal {c : PidController ℚ} (hc : c.Unstarted) (calls : List PidCall)
    (hlin : ∀ pre k post, calls = pre ++ k :: post → c.Linear pre k) :
    ∀ pre k post, calls = pre ++ k :: post →
      ((c.after pre).compute k.setpoint k.measurement k.dt).output = c.ideal pre k := by
  have hfollows (pre : List PidCall) (hpre : pre <+: calls) : c.Follows pre (c.after pre) := by
    induction pre using List.reverseRecOn with
    | nil => exact hc.follows
    | append_singleton pre k ih =>
        obtain ⟨post, rfl⟩ := hpre
        have hbefore := ih ⟨k :: post, by rw [List.append_assoc]; rfl⟩
        rw [after, List.map_append, List.map_singleton, run_concat]
        exact hbefore.compute (hlin pre k post (List.append_cons pre k post).symm)
  intro pre k post hsplit
  exact (hfollows pre ⟨k :: post, hsplit.symm⟩).output (hlin pre k post hsplit)

/-- A controller as its initialisers leave it, with its public fields written. -/
theorem fresh_unstarted (g : PidSettings ℚ) : (fresh.configure g).Unstarted := ⟨rfl, rfl, rfl⟩

/-- Two calls on a resting shaft that then moves: `1 / 2 + 3 / 2 - 1 / 2`. -/
theorem second_output :
    (((fresh.configure ⟨1, 1, 1, 10, 0, -10, 10⟩).after [⟨1, 0, 1⟩]).compute 1 (1 / 2) 1).output =
      ideal (fresh.configure ⟨1, 1, 1, 10, 0, -10, 10⟩) [⟨1, 0, 1⟩] ⟨1, 1 / 2, 1⟩ := by
  refine output_eq_ideal (fresh_unstarted _) [⟨1, 0, 1⟩, ⟨1, 1 / 2, 1⟩] ?_ [⟨1, 0, 1⟩]
    ⟨1, 1 / 2, 1⟩ [] rfl
  intro pre k post hsplit
  rcases pre with _ | ⟨first, _ | ⟨second, pre⟩⟩
  · cases hsplit
    exact ⟨by decide +kernel, by decide +kernel, by decide +kernel⟩
  · cases hsplit
    exact ⟨by decide +kernel, by decide +kernel, by decide +kernel⟩
  · exact absurd (congrArg List.length hsplit) (by simp)

end PidController

end MarineHil.Ports
