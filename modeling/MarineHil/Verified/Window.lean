import Mathlib.Data.List.DropRight
import Mathlib.Algebra.Order.Field.Basic
import MarineHil.Verified.Run

/-!
# Rolling windows

A bounded queue that drops its oldest entry when it grows past its bound holds the
last entries of all it was ever given, and a share counted in it is a share of those.

## Main results

* `run_push`: the window after any number of entries.
* `length_rtake`: which are never more than its bound.
* `share_mem_Icc`: a percentage is one.
-/

namespace MarineHil.Verified

variable {β : Type}

theorem length_rtake (k : ℕ) (xs : List β) : (xs.rtake k).length = min k xs.length := by
  rw [List.rtake, List.length_drop]
  omega

theorem rtake_map {γ : Type} (f : β → γ) (k : ℕ) (xs : List β) :
    (xs.map f).rtake k = (xs.rtake k).map f := by
  rw [List.rtake, List.rtake, List.length_map, List.map_drop]

theorem rtake_min_length (k : ℕ) (xs : List β) : xs.rtake (min xs.length k) = xs.rtake k := by
  rw [List.rtake, List.rtake]
  congr 1
  omega

/-- Append an entry, and drop the oldest one past the bound. -/
def push (k : ℕ) (window : List β) (x : β) : List β :=
  if k < (window ++ [x]).length then (window ++ [x]).tail else window ++ [x]

theorem push_rtake (k : ℕ) (xs : List β) (x : β) :
    push k (xs.rtake k) x = (xs ++ [x]).rtake k := by
  have hlength : (xs.rtake k ++ [x]).length = min k xs.length + 1 := by
    rw [List.length_append, List.length_singleton, length_rtake]
  unfold push
  by_cases hfull : k ≤ xs.length
  · -- the window is full: one entry in, one out
    rw [if_pos (by omega), ← List.rtake_concat_succ, List.rtake, List.rtake, List.tail_drop,
      List.length_append, List.length_singleton]
    congr 1
    omega
  · have hall : xs.rtake k = xs := by
      rw [List.rtake, Nat.sub_eq_zero_of_le (by omega), List.drop_zero]
    rw [if_neg (by omega), hall, List.rtake, List.length_append, List.length_singleton,
      Nat.sub_eq_zero_of_le (by omega), List.drop_zero]

/-- **A window holds the last entries it was given.** -/
theorem run_push (k : ℕ) (xs : List β) : run (push k) [] xs = xs.rtake k := by
  induction xs using List.reverseRecOn with
  | nil => rw [run_nil, List.rtake_nil]
  | append_singleton xs x ih => rw [run_concat, ih, push_rtake]

/-! ## Shares -/

/-- A share of a list, in percent, lies between none and all. -/
theorem share_mem_Icc {γ : Type} [Field γ] [LinearOrder γ] [IsStrictOrderedRing γ] (p : β → Bool)
    (xs : List β) : (100 : γ) * xs.countP p / xs.length ∈ Set.Icc 0 100 := by
  have hcount : (xs.countP p : γ) ≤ xs.length := by
    exact_mod_cast List.countP_le_length
  have hlength : (0 : γ) ≤ xs.length := Nat.cast_nonneg _
  constructor
  · exact div_nonneg (mul_nonneg (by norm_num) (Nat.cast_nonneg _)) hlength
  · exact div_le_of_le_mul₀ hlength (by norm_num)
      (mul_le_mul_of_nonneg_left hcount (by norm_num))

end MarineHil.Verified
