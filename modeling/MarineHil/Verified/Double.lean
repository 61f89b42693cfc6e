import Mathlib.Data.Rat.Floor
import Mathlib.Algebra.Order.Field.Rat
import Mathlib.Algebra.Order.Field.Basic
import Mathlib.Algebra.Order.Group.MinMax
import Mathlib.Tactic.Linarith
import Mathlib.Tactic.Ring
import Mathlib.Tactic.NormNum
import Mathlib.Tactic.Positivity

/-!
# The arithmetic of `double`, as an interface

Programs that compute with `double` are written here once, over any type with
the operations such programs use.  A statement then chooses the arithmetic it
is about: exact rationals (this module), or rationals with infinities and NaN
(`MarineHil.Verified.Extended`).

`clamp` and `fabs` are `std::clamp` and `std::abs` as their reference
implementations compare, so that they keep their meaning on values that do
not compare.

## Main results

* `clamp_le`, `le_clamp`, `clamp_of_mem`: over the rationals a clamp with
  ordered bounds lands between them and fixes what is already there.
* `clamp_neg`: a clamp with symmetric bounds is odd.
* `clamp_eq_zero_iff`: a symmetric clamp vanishes only at zero.
-/

namespace MarineHil.Verified

/-- The operations of `double` that the programs use.  `lit` is the value of a
literal (or of a converted integer), and `nearest` is `std::round` read as an
integer, with `none` where the argument is not finite. -/
class Double (α : Type) extends
    Zero α, Add α, Sub α, Mul α, Div α, Neg α, LT α, LE α, BEq α where
  lit : ℚ → α
  nearest : α → Option ℤ
  [decidableLT : DecidableLT α]
  [decidableLE : DecidableLE α]

attribute [instance, reducible] Double.decidableLT Double.decidableLE

export Double (lit)

/-- What the C mathematics library supplies.  `unspecified` is the integer a
conversion yields when its argument lies outside the target type, which the
standard leaves open. -/
structure Libm (α : Type) where
  sin : α → α
  cos : α → α
  unspecified : α → ℤ

section Generic

variable {α : Type} [Double α]

/-- `std::clamp(v, lo, hi)`. -/
def clamp (v lo hi : α) : α := if v < lo then lo else if hi < v then hi else v

/-- `std::abs`. -/
def fabs (x : α) : α := if x < 0 then -x else x

/-- `std::llround`: the nearest integer, halves away from zero, when it fits
`long long`. -/
def llround (m : Libm α) (x : α) : ℤ :=
  match Double.nearest x with
  | some r => if -2 ^ 63 ≤ r ∧ r < 2 ^ 63 then r else m.unspecified x
  | none => m.unspecified x

/-- `static_cast<int>` of a `long long`: the low 32 bits, as a signed number. -/
def toInt32 (r : ℤ) : ℤ := Int.bmod r (2 ^ 32)

/-- `static_cast<int>(std::round(x))`. -/
def roundToInt (m : Libm α) (x : α) : ℤ :=
  match Double.nearest x with
  | some r => if -2 ^ 31 ≤ r ∧ r < 2 ^ 31 then r else m.unspecified x
  | none => m.unspecified x

theorem toInt32_lt (r : ℤ) : toInt32 r < 2 ^ 31 := Int.bmod_lt (by norm_num)

theorem toInt32_eq_iff {r : ℤ} : toInt32 r = r ↔ -2 ^ 31 ≤ r ∧ r < 2 ^ 31 := by
  unfold toInt32
  constructor
  · intro h
    rw [← h]
    exact ⟨Int.le_bmod (by norm_num), Int.bmod_lt (by norm_num)⟩
  · rintro ⟨hlow, hhigh⟩
    exact Int.bmod_eq_of_le hlow hhigh

/-- Whatever the order does, a clamp returns its argument or a bound. -/
theorem clamp_cases (v lo hi : α) :
    clamp v lo hi = lo ∨ clamp v lo hi = hi ∨ clamp v lo hi = v := by
  unfold clamp
  split_ifs
  · exact Or.inl rfl
  · exact Or.inr (Or.inl rfl)
  · exact Or.inr (Or.inr rfl)

end Generic

/-- What the signs of a `double` obey, NaN and infinities included. -/
class SignedDouble (α : Type) [Double α] : Prop where
  lit_pos : ∀ {q : ℚ}, 0 < q → (0 : α) < lit q
  nonneg_of_pos : ∀ {x : α}, 0 < x → 0 ≤ x
  zero_nonneg : (0 : α) ≤ 0

/-! ## Exact rationals -/

instance : Double ℚ where
  lit q := q
  nearest q := some (if 0 ≤ q then ⌊q + 1 / 2⌋ else -⌊-q + 1 / 2⌋)
  decidableLT := inferInstance
  decidableLE := inferInstance

@[simp] theorem lit_rat (q : ℚ) : (lit q : ℚ) = q := rfl

instance : SignedDouble ℚ := ⟨id, le_of_lt, le_refl 0⟩

@[simp] theorem fabs_rat (x : ℚ) : fabs x = |x| := by
  unfold fabs
  split
  · rw [abs_of_neg ‹_›]
  · rw [abs_of_nonneg (not_lt.mp ‹_›)]

theorem nearest_of_nonneg {q : ℚ} (h : 0 ≤ q) :
    Double.nearest q = some ⌊q + 1 / 2⌋ := congrArg some (if_pos h)

/-- A number rounds to an `int`, halves up, where it is below the last half. -/
theorem toInt32_llround {q : ℚ} (h : 0 ≤ q) (hint : q < 2 ^ 31 - 1 / 2) (m : Libm ℚ) :
    toInt32 (llround m q) = ⌊q + 1 / 2⌋ := by
  have hnonneg : 0 ≤ ⌊q + 1 / 2⌋ := Int.floor_nonneg.mpr (by linarith)
  have hlt : ⌊q + 1 / 2⌋ < 2 ^ 31 := by
    rw [Int.floor_lt]
    push_cast
    linarith
  unfold llround
  rw [nearest_of_nonneg h]
  dsimp only
  rw [if_pos ⟨by omega, by omega⟩, toInt32_eq_iff]
  exact ⟨by omega, hlt⟩

theorem roundToInt_natCast {k : ℕ} (hk : k < 2 ^ 31) (m : Libm ℚ) :
    roundToInt m (k : ℚ) = k := by
  have hfloor : ⌊(k : ℚ) + 1 / 2⌋ = k := by
    rw [Int.floor_eq_iff]
    push_cast
    constructor
    · linarith
    · linarith
  unfold roundToInt
  rw [nearest_of_nonneg k.cast_nonneg, hfloor]
  exact if_pos ⟨by omega, by omega⟩

theorem roundToInt_lt {m : Libm ℚ} {q : ℚ} (h : m.unspecified q < 2 ^ 31) :
    roundToInt m q < 2 ^ 31 := by
  unfold roundToInt
  split
  · split
    · rename_i hrange
      exact hrange.2
    · exact h
  · exact h

theorem le_clamp {v lo hi : ℚ} (h : lo ≤ hi) : lo ≤ clamp v lo hi := by
  unfold clamp
  split_ifs with hlo hhi
  · exact le_refl lo
  · exact h
  · exact not_lt.mp hlo

theorem clamp_le {v lo hi : ℚ} (h : lo ≤ hi) : clamp v lo hi ≤ hi := by
  unfold clamp
  split_ifs with hlo hhi
  · exact h
  · exact le_refl hi
  · exact not_lt.mp hhi

theorem clamp_of_mem {v lo hi : ℚ} (hlo : lo ≤ v) (hhi : v ≤ hi) :
    clamp v lo hi = v := by
  rw [clamp, if_neg (not_lt.mpr hlo), if_neg (not_lt.mpr hhi)]

theorem clamp_of_le {v lo hi : ℚ} (h : lo ≤ hi) (hv : v ≤ lo) : clamp v lo hi = lo := by
  rcases lt_or_eq_of_le hv with hlt | rfl
  · rw [clamp, if_pos hlt]
  · exact clamp_of_mem (le_refl _) h

theorem clamp_of_ge {v lo hi : ℚ} (h : lo ≤ hi) (hv : hi ≤ v) : clamp v lo hi = hi := by
  rcases lt_or_eq_of_le hv with hlt | rfl
  · rw [clamp, if_neg (not_lt.mpr (le_trans h hv)), if_pos hlt]
  · exact clamp_of_mem h (le_refl _)

theorem clamp_eq_max_min {v lo hi : ℚ} (h : lo ≤ hi) : clamp v lo hi = max (min v hi) lo := by
  rcases le_total v lo with hv | hv
  · rw [clamp_of_le h hv, max_eq_right ((min_le_left v hi).trans hv)]
  · rcases le_total hi v with hhi | hhi
    · rw [clamp_of_ge h hhi, min_eq_right hhi, max_eq_left h]
    · rw [clamp_of_mem hv hhi, min_eq_left hhi, max_eq_left hv]

/-- A symmetric clamp bounds the magnitude. -/
theorem abs_clamp_le {v b : ℚ} (hb : 0 ≤ b) : |clamp v (-b) b| ≤ b :=
  abs_le.mpr ⟨le_clamp (by linarith), clamp_le (by linarith)⟩

/-- The magnitude of a symmetric clamp. -/
theorem abs_clamp_eq_min {v b : ℚ} (hb : 0 ≤ b) : |clamp v (-b) b| = min |v| b := by
  have hord : -b ≤ b := by linarith
  rcases le_total v (-b) with hlo | hlo
  · have habs : b ≤ |v| := (by linarith : b ≤ -v).trans (neg_le_abs v)
    rw [clamp_of_le hord hlo, abs_neg, abs_of_nonneg hb, min_eq_right habs]
  · rcases le_total b v with hhi | hhi
    · rw [clamp_of_ge hord hhi, abs_of_nonneg hb, min_eq_right (hhi.trans (le_abs_self v))]
    · rw [clamp_of_mem hlo hhi, min_eq_left (abs_le.mpr ⟨hlo, hhi⟩)]

/-- A symmetric clamp is odd. -/
theorem clamp_neg {v b : ℚ} (hb : 0 ≤ b) : clamp (-v) (-b) b = -clamp v (-b) b := by
  rcases le_total v (-b) with hlo | hlo
  · rw [clamp_of_le (by linarith) hlo, clamp_of_ge (by linarith) (by linarith), neg_neg]
  · rcases le_total b v with hhi | hhi
    · rw [clamp_of_ge (by linarith) hhi, clamp_of_le (by linarith) (by linarith)]
    · rw [clamp_of_mem hlo hhi, clamp_of_mem (by linarith) (by linarith)]

theorem clamp_pos {v b : ℚ} (hb : 0 < b) (hv : 0 < v) : 0 < clamp v (-b) b := by
  rcases le_total b v with hhi | hhi
  · rwa [clamp_of_ge (by linarith) hhi]
  · rwa [clamp_of_mem (by linarith) hhi]

theorem clamp_neg_of_neg {v b : ℚ} (hb : 0 < b) (hv : v < 0) : clamp v (-b) b < 0 := by
  have h := clamp_pos hb (neg_pos.mpr hv)
  rw [clamp_neg hb.le] at h
  exact neg_pos.mp h

/-- A symmetric clamp vanishes exactly where its argument does. -/
theorem clamp_eq_zero_iff {v b : ℚ} (hb : 0 < b) : clamp v (-b) b = 0 ↔ v = 0 := by
  constructor
  · intro h
    rcases lt_trichotomy v 0 with hv | hv | hv
    · exact absurd h (clamp_neg_of_neg hb hv).ne
    · exact hv
    · exact absurd h (clamp_pos hb hv).ne'
  · rintro rfl
    exact clamp_of_mem (by linarith) hb.le

/-- The values a symmetric clamp does not tell apart. -/
theorem clamp_eq_clamp_iff {u v b : ℚ} (hb : 0 < b) :
    clamp u (-b) b = clamp v (-b) b ↔ u = v ∨ (b ≤ u ∧ b ≤ v) ∨ (u ≤ -b ∧ v ≤ -b) := by
  have hord : -b ≤ b := by linarith
  constructor
  · intro h
    by_cases hu : u ≤ -b
    · rw [clamp_of_le hord hu] at h
      by_cases hv : v ≤ -b
      · exact Or.inr (Or.inr ⟨hu, hv⟩)
      · rw [clamp_eq_max_min hord] at h
        have hlow : -b < max (min v b) (-b) :=
          lt_max_of_lt_left (lt_min (not_le.mp hv) (by linarith))
        exact absurd h hlow.ne
    · by_cases hu' : b ≤ u
      · rw [clamp_of_ge hord hu'] at h
        by_cases hv : b ≤ v
        · exact Or.inr (Or.inl ⟨hu', hv⟩)
        · rw [clamp_eq_max_min hord] at h
          have hhigh : max (min v b) (-b) < b :=
            max_lt (min_lt_of_left_lt (not_le.mp hv)) (by linarith)
          exact absurd h hhigh.ne'
      · rw [clamp_of_mem (not_le.mp hu).le (not_le.mp hu').le] at h
        by_cases hv : v ≤ -b
        · rw [clamp_of_le hord hv] at h
          exact absurd h.le hu
        · by_cases hv' : b ≤ v
          · rw [clamp_of_ge hord hv'] at h
            exact absurd h.ge hu'
          · rw [clamp_of_mem (not_le.mp hv).le (not_le.mp hv').le] at h
            exact Or.inl h
  · rintro (rfl | ⟨hu, hv⟩ | ⟨hu, hv⟩)
    · rfl
    · rw [clamp_of_ge hord hu, clamp_of_ge hord hv]
    · rw [clamp_of_le hord hu, clamp_of_le hord hv]

/-- Between zero and zero there is only zero. -/
theorem clamp_zero_bounds (v : ℚ) : clamp v (-0) 0 = 0 := by
  rw [neg_zero]
  exact le_antisymm (clamp_le (le_refl 0)) (le_clamp (le_refl 0))

/-- A clamp to the unit interval is full exactly from one on. -/
theorem clamp_unit_eq_one_iff {v : ℚ} : clamp v 0 1 = 1 ↔ 1 ≤ v := by
  constructor
  · intro h
    by_contra hv
    rcases le_total v 0 with h0 | h0
    · rw [clamp_of_le zero_le_one h0] at h
      exact zero_ne_one h
    · rw [clamp_of_mem h0 (not_le.mp hv).le] at h
      exact hv h.ge
  · exact clamp_of_ge zero_le_one

/-- A clamp never spreads two values apart. -/
theorem abs_clamp_sub_clamp_le {u v lo hi : ℚ} (h : lo ≤ hi) :
    |clamp u lo hi - clamp v lo hi| ≤ |u - v| := by
  rw [clamp_eq_max_min h, clamp_eq_max_min h]
  calc |max (min u hi) lo - max (min v hi) lo|
      ≤ |min u hi - min v hi| := abs_max_sub_max_le_abs _ _ _
    _ ≤ max |u - v| |hi - hi| := abs_min_sub_min_le_max _ _ _ _
    _ = |u - v| := by rw [sub_self, abs_zero, max_eq_left (abs_nonneg _)]

/-- Clamping a quotient to the unit interval, scaled back. -/
theorem clamp_div_mul {x r : ℚ} (hr : 0 < r) : clamp (x / r) 0 1 * r = clamp x 0 r := by
  rcases le_total x 0 with hx | hx
  · rw [clamp_of_le zero_le_one (div_nonpos_of_nonpos_of_nonneg hx hr.le),
      clamp_of_le hr.le hx, zero_mul]
  · rcases le_total r x with hxr | hxr
    · rw [clamp_of_ge zero_le_one ((one_le_div hr).mpr hxr), clamp_of_ge hr.le hxr, one_mul]
    · rw [clamp_of_mem (div_nonneg hx hr.le) ((div_le_one hr).mpr hxr), clamp_of_mem hx hxr,
        div_mul_cancel₀ x hr.ne']

/-- How far a share `q` of the unit interval is from one that has grown from
zero to `a` and is full at one: at most `d`, which is no less than `a`, exactly
when `q` is no more than `a + d`. -/
theorem abs_clamp_sub_le_iff {a d q : ℚ} (ha : 0 ≤ a) (had : a ≤ d) (hq : 0 ≤ q ∧ q ≤ 1) :
    |clamp a 0 1 - q| ≤ d ↔ q ≤ a + d := by
  rw [abs_le]
  rcases le_total 1 a with hone | hone
  · rw [clamp_of_ge zero_le_one hone]
    exact iff_of_true ⟨by linarith [hq.1, hq.2], by linarith [hq.1, hq.2]⟩ (by linarith [hq.2])
  · rw [clamp_of_mem ha hone]
    constructor
    · intro h
      linarith [h.1]
    · intro h
      exact ⟨by linarith, by linarith [hq.1]⟩

/-- Clamping a second time changes nothing. -/
theorem clamp_clamp {v lo hi : ℚ} (h : lo ≤ hi) :
    clamp (clamp v lo hi) lo hi = clamp v lo hi :=
  clamp_of_mem (le_clamp h) (clamp_le h)

/-- Adding a positive `o` to what `o + f` was clamped to, and clamping again,
changes nothing exactly when the first clamp already held the upper bound. -/
theorem clamp_add_clamp_of_pos {o f b : ℚ} (hb : 0 < b) (ho : 0 < o) :
    clamp (o + clamp (o + f) (-b) b) (-b) b = clamp (o + f) (-b) b ↔ b ≤ o + f := by
  have hord : -b ≤ b := by linarith
  constructor
  · intro h
    by_contra hhigh
    have hlt : clamp (o + f) (-b) b < b := by
      rcases le_total (o + f) (-b) with hlo | hlo
      · rw [clamp_of_le hord hlo]
        linarith
      · rw [clamp_of_mem hlo (by linarith)]
        linarith
    have hge := le_clamp (v := o + f) hord
    generalize clamp (o + f) (-b) b = v at h hlt hge
    rcases le_total b (o + v) with hov | hov
    · rw [clamp_of_ge hord hov] at h
      linarith
    · rw [clamp_of_mem (by linarith) hov] at h
      linarith
  · intro hhigh
    rw [clamp_of_ge hord hhigh, clamp_of_ge hord (by linarith)]

theorem clamp_add_clamp_of_neg {o f b : ℚ} (hb : 0 < b) (ho : o < 0) :
    clamp (o + clamp (o + f) (-b) b) (-b) b = clamp (o + f) (-b) b ↔ o + f ≤ -b := by
  have h := clamp_add_clamp_of_pos (f := -f) hb (neg_pos.mpr ho)
  rw [← neg_add, clamp_neg hb.le, ← neg_add, clamp_neg hb.le, neg_inj] at h
  exact h.trans le_neg

/-- Adding `o` to what `o + f` was clamped to, and clamping again, changes
nothing exactly when there is nothing to add, or when the first clamp already
held the bound that `o` pushes to. -/
theorem clamp_add_clamp_iff {o f b : ℚ} (hb : 0 < b) :
    clamp (o + clamp (o + f) (-b) b) (-b) b = clamp (o + f) (-b) b ↔
      o = 0 ∨ (0 < o ∧ b ≤ o + f) ∨ (o < 0 ∧ o + f ≤ -b) := by
  rcases lt_trichotomy o 0 with ho | rfl | ho
  · rw [clamp_add_clamp_of_neg hb ho]
    simp [ho, ho.ne, not_lt.mpr ho.le]
  · rw [zero_add, zero_add, clamp_clamp (by linarith)]
    exact iff_of_true rfl (Or.inl rfl)
  · rw [clamp_add_clamp_of_pos hb ho]
    simp [ho, ho.ne', not_lt.mpr ho.le]

/-- The magnitude reaches the bound of a symmetric clamp only when it equals it. -/
theorem le_abs_clamp_iff {v b : ℚ} (hb : 0 ≤ b) :
    b ≤ |clamp v (-b) b| ↔ |clamp v (-b) b| = b :=
  ⟨fun h => le_antisymm (abs_clamp_le hb) h, fun h => h.ge⟩

end MarineHil.Verified
