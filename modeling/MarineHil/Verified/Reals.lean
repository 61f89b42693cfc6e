import Mathlib.Algebra.Order.Archimedean.Real.Basic
import MarineHil.Verified.Double

/-!
# The arithmetic of `double` over the reals

Statements about angles and time derivatives read the programs over the real numbers.
-/

namespace MarineHil.Verified

noncomputable instance : Double ℝ where
  lit q := q
  nearest x := some (if 0 ≤ x then round x else -round (-x))
  beq x y := decide (x = y)
  decidableLT := inferInstance
  decidableLE := inferInstance

theorem lit_real (q : ℚ) : (lit q : ℝ) = q := rfl

theorem fabs_real (x : ℝ) : fabs x = |x| := by
  unfold fabs
  split
  · rw [abs_of_neg ‹_›]
  · rw [abs_of_nonneg (not_lt.mp ‹_›)]

end MarineHil.Verified
