import Mathlib.Algebra.Order.Field.Basic
import Mathlib.Algebra.Ring.Parity
import Mathlib.Order.Monotone.Basic
import Mathlib.Tactic.Linarith

/-!
# Rounding to a grid

A number format has a grid of values, in ascending order from zero.  Rounding
picks the nearest one, and of two that are equally near the one with the even
index.

## Main results

* `nearest_value`: a value of the grid is rounded to itself.
* `nearest_mono`: rounding keeps the order, so it keeps every bound on the grid
  (`nearest_le`).
* `abs_nearest_sub_le`: the error is at most half the gap the number lies in.
-/

namespace MarineHil.Verified

/-- Ascending values from zero on, and the last of them below a number. -/
structure Grid (γ : Type) [Zero γ] [LinearOrder γ] where
  value : ℕ → γ
  floor : γ → ℕ
  strictMono : StrictMono value
  value_zero : value 0 = 0
  value_floor_le : ∀ a, 0 ≤ a → value (floor a) ≤ a
  lt_value_floor_succ : ∀ a, 0 ≤ a → a < value (floor a + 1)

namespace Grid

section Order

variable {γ : Type} [Zero γ] [LinearOrder γ] (G : Grid γ) {a b : γ}

theorem value_nonneg (n : ℕ) : 0 ≤ G.value n := by
  rw [← G.value_zero]
  exact G.strictMono.monotone (Nat.zero_le n)

theorem floor_eq {n : ℕ} (hle : G.value n ≤ a) (hlt : a < G.value (n + 1)) : G.floor a = n := by
  have ha : 0 ≤ a := (G.value_nonneg n).trans hle
  have hlow : G.floor a < n + 1 := G.strictMono.lt_iff_lt.mp ((G.value_floor_le a ha).trans_lt hlt)
  have hhigh : n < G.floor a + 1 := G.strictMono.lt_iff_lt.mp
    (hle.trans_lt (G.lt_value_floor_succ a ha))
  omega

theorem floor_value (n : ℕ) : G.floor (G.value n) = n :=
  G.floor_eq le_rfl (G.strictMono (Nat.lt_succ_self n))

theorem floor_mono (ha : 0 ≤ a) (hab : a ≤ b) : G.floor a ≤ G.floor b := by
  have hlt : G.value (G.floor a) < G.value (G.floor b + 1) :=
    ((G.value_floor_le a ha).trans hab).trans_lt (G.lt_value_floor_succ b (ha.trans hab))
  exact Nat.lt_succ_iff.mp (G.strictMono.lt_iff_lt.mp hlt)

end Order

variable {γ : Type} [Field γ] [LinearOrder γ] [IsStrictOrderedRing γ] (G : Grid γ) {a b : γ}

/-- The nearer end of the `n`-th gap, and in its middle the even one. -/
def roundIn (n : ℕ) (a : γ) : ℕ :=
  if a + a < G.value n + G.value (n + 1) then n
  else if G.value n + G.value (n + 1) < a + a then n + 1
  else if Even n then n
  else n + 1

omit [IsStrictOrderedRing γ] in
theorem roundIn_cases (n : ℕ) (a : γ) : G.roundIn n a = n ∨ G.roundIn n a = n + 1 := by
  unfold roundIn
  split_ifs
  · exact Or.inl rfl
  · exact Or.inr rfl
  · exact Or.inl rfl
  · exact Or.inr rfl

theorem roundIn_mono (n : ℕ) (hab : a ≤ b) : G.roundIn n a ≤ G.roundIn n b := by
  have hdouble : a + a ≤ b + b := add_le_add hab hab
  unfold roundIn
  by_cases hb : b + b < G.value n + G.value (n + 1)
  · rw [if_pos hb, if_pos (hdouble.trans_lt hb)]
  · rw [if_neg hb]
    by_cases hb' : G.value n + G.value (n + 1) < b + b
    · rw [if_pos hb']
      split_ifs <;> omega
    · rw [if_neg hb', if_neg (not_lt.mpr (hdouble.trans (not_lt.mp hb')))]
      split_ifs <;> omega

/-- The nearest value of the grid. -/
def nearest (a : γ) : ℕ := G.roundIn (G.floor a) a

/-- A value of the grid is rounded to itself. -/
theorem nearest_value (n : ℕ) : G.nearest (G.value n) = n := by
  have hgap : G.value n < G.value (n + 1) := G.strictMono (Nat.lt_succ_self n)
  rw [nearest, G.floor_value]
  exact if_pos (add_lt_add_right hgap _)

/-- Rounding keeps the order. -/
theorem nearest_mono (ha : 0 ≤ a) (hab : a ≤ b) : G.nearest a ≤ G.nearest b := by
  rcases (G.floor_mono ha hab).lt_or_eq with hlt | heq
  · have hlow := G.roundIn_cases (G.floor a) a
    have hhigh := G.roundIn_cases (G.floor b) b
    rw [nearest, nearest]
    omega
  · rw [nearest, nearest, heq]
    exact G.roundIn_mono _ hab

/-- Rounding keeps a bound that is on the grid. -/
theorem nearest_le {n : ℕ} (ha : 0 ≤ a) (h : a ≤ G.value n) : G.nearest a ≤ n := by
  have hmono := G.nearest_mono ha h
  rwa [G.nearest_value] at hmono

/-- **The error of rounding** is at most half the gap the number lies in. -/
theorem abs_nearest_sub_le (ha : 0 ≤ a) :
    |G.value (G.nearest a) - a| ≤ (G.value (G.floor a + 1) - G.value (G.floor a)) / 2 := by
  have hlow := G.value_floor_le a ha
  have hhigh := G.lt_value_floor_succ a ha
  rw [abs_le, le_div_iff₀ two_pos, le_sub_iff_add_le]
  unfold nearest roundIn
  split_ifs
  · constructor <;> linarith
  · constructor <;> linarith
  · constructor <;> linarith
  · constructor <;> linarith

end Grid

end MarineHil.Verified
