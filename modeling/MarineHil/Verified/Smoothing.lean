import Mathlib.Algebra.Order.Field.Basic
import Mathlib.Algebra.Order.Interval.Set.Instances
import Mathlib.Tactic.Linarith
import Mathlib.Tactic.Ring
import MarineHil.Verified.Run

/-!
# Exponential smoothing

A smoother starts at its first sample and from then on moves to a weighted mean
of its value and the sample.  The weight may be another one at every sample.

## Main results

* `run_mem_Icc`: under weights between zero and one the value stays wherever its
  samples lie.
* `abs_run_sub_le`: constant samples attract the value, geometrically in the
  largest weight.
-/

namespace MarineHil.Verified

/-- A sample, and the weight the old value keeps against it. -/
structure WeightedSample (γ : Type) where
  weight : γ
  value : γ

structure Smoother (γ : Type) where
  value : γ
  started : Bool

namespace Smoother

variable {γ : Type}

section Model

variable [Add γ] [Sub γ] [Mul γ] [One γ]

def step (y : Smoother γ) (x : WeightedSample γ) : Smoother γ where
  value := if y.started then x.weight * y.value + (1 - x.weight) * x.value else x.value
  started := true

/-- Any sample starts the smoother. -/
theorem run_started {xs : List (WeightedSample γ)} (h : xs ≠ []) (y : Smoother γ) :
    (run step y xs).started = true := by
  rw [← List.dropLast_concat_getLast h, run_concat]
  rfl

end Model

variable [Field γ] [LinearOrder γ] [IsStrictOrderedRing γ]

/-- A weighted mean lies between its two values. -/
theorem mean_mem_Icc {w x y lo hi : γ} (hw : 0 ≤ w) (hw' : w ≤ 1) (hx : x ∈ Set.Icc lo hi)
    (hy : y ∈ Set.Icc lo hi) : w * y + (1 - w) * x ∈ Set.Icc lo hi := by
  have hv : 0 ≤ 1 - w := sub_nonneg.mpr hw'
  constructor
  · calc lo = w * lo + (1 - w) * lo := by ring
      _ ≤ w * y + (1 - w) * x :=
          add_le_add (mul_le_mul_of_nonneg_left hy.1 hw) (mul_le_mul_of_nonneg_left hx.1 hv)
  · calc w * y + (1 - w) * x
        ≤ w * hi + (1 - w) * hi :=
          add_le_add (mul_le_mul_of_nonneg_left hy.2 hw) (mul_le_mul_of_nonneg_left hx.2 hv)
      _ = hi := by ring

/-- **The value stays where its samples lie.** -/
theorem run_mem_Icc {xs : List (WeightedSample γ)} {lo hi : γ}
    (hw : ∀ x ∈ xs, 0 ≤ x.weight ∧ x.weight ≤ 1) (hxs : ∀ x ∈ xs, x.value ∈ Set.Icc lo hi)
    {y : Smoother γ} (hy : y.started = true → y.value ∈ Set.Icc lo hi) :
    (run step y xs).started = true → (run step y xs).value ∈ Set.Icc lo hi := by
  refine invariant_run_of_mem
    (I := fun y : Smoother γ => y.started = true → y.value ∈ Set.Icc lo hi) ?_ hy
  intro y x hx hy _
  show (if y.started then x.weight * y.value + (1 - x.weight) * x.value else x.value) ∈ _
  split
  · exact mean_mem_Icc (hw x hx).1 (hw x hx).2 (hxs x hx) (hy ‹_›)
  · exact hxs x hx

/-- One sample leaves its weight of the distance to it. -/
theorem abs_step_sub_le {y : Smoother γ} {x : WeightedSample γ} {a : γ} (hw : 0 ≤ x.weight)
    (hwa : x.weight ≤ a) : |(step y x).value - x.value| ≤ a * |y.value - x.value| := by
  have hbound : x.weight * |y.value - x.value| ≤ a * |y.value - x.value| :=
    mul_le_mul_of_nonneg_right hwa (abs_nonneg _)
  show |(if y.started then x.weight * y.value + (1 - x.weight) * x.value else x.value) -
    x.value| ≤ _
  split
  · have hmove : x.weight * y.value + (1 - x.weight) * x.value - x.value =
        x.weight * (y.value - x.value) := by ring
    rw [hmove, abs_mul, abs_of_nonneg hw]
    exact hbound
  · rw [sub_self, abs_zero]
    exact (mul_nonneg hw (abs_nonneg _)).trans hbound

/-- **Constant samples attract the value**, whatever it was. -/
theorem abs_run_sub_le {xs : List (WeightedSample γ)} {a c : γ}
    (hxs : ∀ x ∈ xs, x.value = c ∧ 0 ≤ x.weight ∧ x.weight ≤ a) (y : Smoother γ) :
    |(run step y xs).value - c| ≤ a ^ xs.length * |y.value - c| := by
  induction xs using List.reverseRecOn with
  | nil => simp
  | append_singleton xs x ih =>
      obtain ⟨rfl, hw, hwa⟩ := hxs x (by simp)
      have hprev := ih fun x' hx' => hxs x' (List.mem_append_left _ hx')
      rw [run_concat, List.length_append, List.length_singleton, pow_succ']
      calc |(step (run step y xs) x).value - x.value|
          ≤ a * |(run step y xs).value - x.value| := abs_step_sub_le hw hwa
        _ ≤ a * (a ^ xs.length * |y.value - x.value|) :=
            mul_le_mul_of_nonneg_left hprev (hw.trans hwa)
        _ = a * a ^ xs.length * |y.value - x.value| := (mul_assoc _ _ _).symm

end Smoother

end MarineHil.Verified
