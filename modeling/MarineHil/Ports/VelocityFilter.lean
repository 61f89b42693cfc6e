import MarineHil.Verified.Smoothing
import MarineHil.Verified.Extended
import MarineHil.Ports.JointLookup
import MarineHil.Ports.VelocityPidParameters

/-!
# The velocity filter of `VelocityPidNode`

The filter is exponential smoothing of the sign-adjusted velocity samples, with
`filter_alpha` as the weight of the old value.  Both validation paths, at launch
and at run time, keep that weight in [0, 1).  The samples come from messages that
nothing checks: what holds of numbers does not survive a NaN or an infinity.

## Main results

* `step_smoother`: every callback is a step of the smoother, or none.
* `filteredVel_inHull`: the filtered velocity stays in the hull of its samples.
* `abs_filteredVel_sub_le`: constant samples attract it geometrically.
* `filteredVel_outside`: one sample that is not a number.
-/

namespace MarineHil.Ports.VelocityPidNode

open MarineHil.Verified

/-- The filter of the node. -/
def smoother (s : VelocityPidNode ℚ) : Smoother ℚ := ⟨s.filteredVel, s.filterInitialized⟩

section Samples

variable {α : Type} [Double α]

/-- The sample an event gives to the filter: the velocity of the joint with its sign
adjusted, under the weight of the moment. -/
def velocitySample (s : VelocityPidNode α) (e : Timed (VelocityPidEvent α)) :
    Option (WeightedSample α) :=
  (jointStateOf e).bind fun msg =>
    (s.entry msg msg.velocity).map fun value => ⟨s.filterAlpha, value⟩

/-- The samples of a run, with their weights. -/
def velocitySamples (m : Libm α) (s : VelocityPidNode α) (es : List (Timed (VelocityPidEvent α))) :
    List (WeightedSample α) := outputs (step m) velocitySample s es

/-- Between the least and the greatest of the values, once there is one. -/
def InHull (values : List α) (v : α) : Prop :=
  values ≠ [] → ∃ lo ∈ values, ∃ hi ∈ values,
    (∀ x ∈ values, lo ≤ x ∧ x ≤ hi) ∧ lo ≤ v ∧ v ≤ hi

end Samples

/-- Every callback is a step of the smoother, or none. -/
theorem step_smoother (m : Libm ℚ) (s : VelocityPidNode ℚ) (e : Timed (VelocityPidEvent ℚ)) :
    (s.step m e).smoother = run Smoother.step s.smoother (s.velocitySample e).toList := by
  obtain ⟨time, event⟩ := e
  cases event with
  | setParameters batch =>
      have hsame := (s.setParameters_joint batch).2
      exact congrArg₂ Smoother.mk hsame.filteredVel hsame.filterInitialized
  | controlLoop =>
      have hsame := s.controlLoop_measurements m time
      exact congrArg₂ Smoother.mk hsame.filteredVel hsame.filterInitialized
  | jointState msg =>
      obtain ⟨hvalue, hstarted, _⟩ := s.jointStateCallback_velocity msg
      show Smoother.mk (s.jointStateCallback msg).filteredVel
        (s.jointStateCallback msg).filterInitialized = run Smoother.step s.smoother
          ((s.entry msg msg.velocity).map fun value => ⟨s.filterAlpha, value⟩).toList
      rw [hvalue, hstarted]
      cases s.entry msg msg.velocity with
      | none => rfl
      | some value => rfl

section Run

variable (m : Libm ℚ) (l : Launch ℚ) (t₀ t₁ : Time) (es : List (Timed (VelocityPidEvent ℚ)))

theorem run_smoother (s : VelocityPidNode ℚ) :
    (run (step m) s es).smoother = run Smoother.step s.smoother (velocitySamples m s es) :=
  run_outputs smoother (along_of_forall (by intro e _ t; exact step_smoother m t e))

/-- The weights of a run are in the unit range, from every reachable state on. -/
theorem velocitySamples_weight (fs : List (Timed (VelocityPidEvent ℚ))) :
    ∀ x ∈ velocitySamples m (run (step m) (start l t₀ t₁) es) fs,
      0 ≤ x.weight ∧ x.weight < 1 := by
  refine forall_mem_outputs (I := fun s => ∃ gs, s = run (step m) (start l t₀ t₁) gs) ?_ ?_
    ⟨es, rfl⟩ fs
  · rintro _ e ⟨gs, rfl⟩
    exact ⟨gs ++ [e], (run_concat _ gs e).symm⟩
  · rintro _ e x ⟨gs, rfl⟩ hx
    obtain ⟨msg, _, hsample⟩ := Option.bind_eq_some_iff.mp hx
    obtain ⟨value, _, rfl⟩ := Option.map_eq_some_iff.mp hsample
    exact run_filterAlpha m l t₀ t₁ gs

theorem filteredVel_inHull :
    InHull ((velocitySamples m (start l t₀ t₁) es).map fun x => x.value)
      (run (step m) (start l t₀ t₁) es).filteredVel := by
  intro hne
  obtain ⟨lo, hlo⟩ := Option.isSome_iff_exists.mp (List.isSome_min?_of_ne_nil hne)
  obtain ⟨hi, hhi⟩ := Option.isSome_iff_exists.mp (List.isSome_max?_of_ne_nil hne)
  obtain ⟨hlo, hmin⟩ := List.min?_eq_some_iff.mp hlo
  obtain ⟨hhi, hmax⟩ := List.max?_eq_some_iff.mp hhi
  have hsamples : velocitySamples m (start l t₀ t₁) es ≠ [] := by
    intro hnil
    exact hne (congrArg (List.map fun x => x.value) hnil)
  have hweight : ∀ x ∈ velocitySamples m (start l t₀ t₁) es, 0 ≤ x.weight ∧ x.weight ≤ 1 :=
    fun x hx => (velocitySamples_weight m l t₀ t₁ [] es x hx).imp_right le_of_lt
  have hvalue : ∀ x ∈ velocitySamples m (start l t₀ t₁) es, x.value ∈ Set.Icc lo hi :=
    fun x hx => ⟨hmin _ (List.mem_map_of_mem hx), hmax _ (List.mem_map_of_mem hx)⟩
  have hidle : (smoother (start l t₀ t₁)).started = true →
      (smoother (start l t₀ t₁)).value ∈ Set.Icc lo hi :=
    fun hstarted => absurd hstarted Bool.false_ne_true
  have hmem := Smoother.run_mem_Icc hweight hvalue hidle (Smoother.run_started hsamples _)
  rw [← run_smoother] at hmem
  exact ⟨lo, hlo, hi, hhi, fun x hx => ⟨hmin x hx, hmax x hx⟩, hmem.1, hmem.2⟩

theorem abs_filteredVel_sub_le {fs : List (Timed (VelocityPidEvent ℚ))} {c a : ℚ}
    (hfs : ∀ x ∈ velocitySamples m (run (step m) (start l t₀ t₁) es) fs,
      x.value = c ∧ x.weight ≤ a) :
    |(run (step m) (start l t₀ t₁) (es ++ fs)).filteredVel - c| ≤
      a ^ (velocitySamples m (run (step m) (start l t₀ t₁) es) fs).length *
        |(run (step m) (start l t₀ t₁) es).filteredVel - c| := by
  have hweight := velocitySamples_weight m l t₀ t₁ es fs
  have hsamples : ∀ x ∈ velocitySamples m (run (step m) (start l t₀ t₁) es) fs,
      x.value = c ∧ 0 ≤ x.weight ∧ x.weight ≤ a :=
    fun x hx => ⟨(hfs x hx).1, (hweight x hx).1, (hfs x hx).2⟩
  have hbound := Smoother.abs_run_sub_le hsamples (run (step m) (start l t₀ t₁) es).smoother
  rw [← run_smoother, ← run_append] at hbound
  exact hbound

/-- **The filtered velocity stays in the hull of its samples, and constant samples
attract it.** -/
theorem filteredVel_bounds :
    InHull ((velocitySamples m (start l t₀ t₁) es).map fun x => x.value)
        (run (step m) (start l t₀ t₁) es).filteredVel ∧
      ∀ (fs : List (Timed (VelocityPidEvent ℚ))) (c a : ℚ),
        (∀ x ∈ velocitySamples m (run (step m) (start l t₀ t₁) es) fs,
          x.value = c ∧ x.weight ≤ a) →
        |(run (step m) (start l t₀ t₁) (es ++ fs)).filteredVel - c| ≤
          a ^ (velocitySamples m (run (step m) (start l t₀ t₁) es) fs).length *
            |(run (step m) (start l t₀ t₁) es).filteredVel - c| :=
  ⟨filteredVel_inHull m l t₀ t₁ es, fun _ _ _ => abs_filteredVel_sub_le m l t₀ t₁ es⟩

end Run

/-! ## Samples that are not numbers -/

/-- Two messages of the motor. -/
def twoVelocities (first second : ExtRat) : List (Timed (VelocityPidEvent ExtRat)) :=
  [ ⟨0, .jointState (.single 0 "motor_joint" 0 first)⟩
  , ⟨10000000, .jointState (.single 10000000 "motor_joint" 0 second)⟩ ]

/-- NaN is in no hull. -/
theorem not_inHull_nan {values : List ExtRat} (h : values ≠ []) : ¬InHull values .nan := by
  intro hhull
  obtain ⟨lo, _, _, _, _, hle, _⟩ := hhull h
  exact ExtRat.not_le_nan lo hle

/-- A mathematics library, which the filter never calls. -/
def flatLibm : Libm ExtRat := ⟨fun _ => 0, fun _ => .fin 1, fun _ => 0⟩

/-- A first sample that is NaN stays for good, and without a weight an infinite one
leaves NaN after the next. -/
theorem filteredVel_outside :
    ¬InHull ((velocitySamples flatLibm (start Launch.empty 0 0)
          (twoVelocities .nan (.fin 1))).map fun x => x.value)
        (run (step flatLibm) (start Launch.empty 0 0) (twoVelocities .nan (.fin 1))).filteredVel ∧
      ¬InHull ((velocitySamples flatLibm
          (start (Launch.empty.withDouble "filter_alpha" (.fin 0)) 0 0)
          (twoVelocities .posInf (.fin 1))).map fun x => x.value)
        (run (step flatLibm) (start (Launch.empty.withDouble "filter_alpha" (.fin 0)) 0 0)
          (twoVelocities .posInf (.fin 1))).filteredVel := by
  have hnan : (run (step flatLibm) (start Launch.empty 0 0)
      (twoVelocities .nan (.fin 1))).filteredVel = .nan := by
    decide +kernel
  have hinf : (run (step flatLibm) (start (Launch.empty.withDouble "filter_alpha" (.fin 0)) 0 0)
      (twoVelocities .posInf (.fin 1))).filteredVel = .nan := by
    decide +kernel
  constructor
  · rw [hnan]
    exact not_inHull_nan (by decide +kernel)
  · rw [hinf]
    exact not_inHull_nan (by decide +kernel)

end MarineHil.Ports.VelocityPidNode
