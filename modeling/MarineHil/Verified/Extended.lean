import MarineHil.Verified.Double

/-!
# Rationals with infinities and NaN

`ExtRat` carries the special values of `double` over exact rationals: NaN is
absorbing, no ordered comparison with NaN holds, and the infinities obey the
usual rules (there is one zero, taken as positive by division).

## Main results

* `IsFinite` is closed under the operations, so a computation on finite values
  stays finite (`IsFinite.add`, `IsFinite.mul`, `IsFinite.clamp`, …), and
  there it is the rational one (`clamp_fin`).
* `add_eq_nan_iff`: which sums are not numbers.
* `clamp_finite_bound`: a clamp with finite bounds turns everything but NaN
  into a number between them.
* `not_le_zero_iff`, `not_lt_zero_iff`: a check that refuses lets NaN through.
* `fabs_clamp_le_iff`, `mul_fin_le_iff`: what a symmetric clamp and a factor do to a bound.
-/

namespace MarineHil.Verified

/-- A rational, an infinity, or NaN. -/
inductive ExtRat where
  | fin (q : ℚ)
  | posInf
  | negInf
  | nan
  deriving DecidableEq

namespace ExtRat

/-! ## The operations -/

protected def neg : ExtRat → ExtRat
  | fin q => fin (-q)
  | posInf => negInf
  | negInf => posInf
  | nan => nan

protected def add : ExtRat → ExtRat → ExtRat
  | fin p, fin q => fin (p + q)
  | nan, _ => nan
  | _, nan => nan
  | posInf, negInf => nan
  | negInf, posInf => nan
  | posInf, _ => posInf
  | _, posInf => posInf
  | negInf, _ => negInf
  | _, negInf => negInf

/-- The infinity with the sign of `q`, and NaN for zero: what a finite factor
makes of `posInf`. -/
def signedInf (q : ℚ) : ExtRat := if 0 < q then posInf else if q < 0 then negInf else nan

protected def mul : ExtRat → ExtRat → ExtRat
  | fin p, fin q => fin (p * q)
  | nan, _ => nan
  | _, nan => nan
  | fin p, posInf => signedInf p
  | fin p, negInf => signedInf (-p)
  | posInf, fin q => signedInf q
  | negInf, fin q => signedInf (-q)
  | posInf, posInf => posInf
  | negInf, negInf => posInf
  | posInf, negInf => negInf
  | negInf, posInf => negInf

protected def div : ExtRat → ExtRat → ExtRat
  | fin p, fin q => if q = 0 then signedInf p else fin (p / q)
  | nan, _ => nan
  | _, nan => nan
  | fin _, _ => fin 0
  | posInf, fin q => if q < 0 then negInf else posInf
  | negInf, fin q => if q < 0 then posInf else negInf
  | _, _ => nan

protected def ltb : ExtRat → ExtRat → Bool
  | fin p, fin q => p < q
  | nan, _ => false
  | _, nan => false
  | posInf, _ => false
  | _, negInf => false
  | negInf, _ => true
  | _, posInf => true

protected def leb : ExtRat → ExtRat → Bool
  | fin p, fin q => p ≤ q
  | nan, _ => false
  | _, nan => false
  | negInf, _ => true
  | _, posInf => true
  | posInf, _ => false
  | _, negInf => false

/-- `==`, under which NaN equals nothing. -/
protected def eqb : ExtRat → ExtRat → Bool
  | fin p, fin q => p == q
  | posInf, posInf => true
  | negInf, negInf => true
  | _, _ => false

instance : Zero ExtRat := ⟨fin 0⟩
instance : Neg ExtRat := ⟨ExtRat.neg⟩
instance : Add ExtRat := ⟨ExtRat.add⟩
instance : Sub ExtRat := ⟨fun x y => x + -y⟩
instance : Mul ExtRat := ⟨ExtRat.mul⟩
instance : Div ExtRat := ⟨ExtRat.div⟩
instance : LT ExtRat := ⟨fun x y => x.ltb y = true⟩
instance : LE ExtRat := ⟨fun x y => x.leb y = true⟩
instance : BEq ExtRat := ⟨ExtRat.eqb⟩
instance : DecidableLT ExtRat := fun x y => inferInstanceAs (Decidable (x.ltb y = true))
instance : DecidableLE ExtRat := fun x y => inferInstanceAs (Decidable (x.leb y = true))

instance : Double ExtRat where
  lit := fin
  nearest
    | fin q => Double.nearest q
    | _ => none

/-! ## On finite values the operations are the rational ones -/

section Finite

variable (p q : ℚ)

theorem zero_def : (0 : ExtRat) = fin 0 := rfl
@[simp] theorem lit_def : (lit q : ExtRat) = fin q := rfl
@[simp] theorem fin_add : fin p + fin q = fin (p + q) := rfl
@[simp] theorem fin_sub : fin p - fin q = fin (p - q) := by rw [sub_eq_add_neg]; rfl
@[simp] theorem fin_mul : fin p * fin q = fin (p * q) := rfl
@[simp] theorem neg_fin : -fin q = fin (-q) := rfl
@[simp] theorem fin_lt : fin p < fin q ↔ p < q := decide_eq_true_iff
@[simp] theorem fin_le : fin p ≤ fin q ↔ p ≤ q := decide_eq_true_iff

theorem fin_div (h : q ≠ 0) : fin p / fin q = fin (p / q) := if_neg h

theorem fabs_fin : fabs (fin q) = fin |q| := by
  rw [← fabs_rat]
  unfold fabs
  rw [zero_def]
  by_cases h : q < 0
  · rw [if_pos ((fin_lt q 0).mpr h), if_pos h, neg_fin]
  · rw [if_neg (fun hf => h ((fin_lt q 0).mp hf)), if_neg h]

theorem clamp_fin (lo hi : ℚ) :
    clamp (fin q) (fin lo) (fin hi) = fin (clamp q lo hi) := by
  simp only [clamp, fin_lt]
  split_ifs <;> rfl

theorem clamp_neg_fin (b : ℚ) : clamp (fin q) (-fin b) (fin b) = fin (clamp q (-b) b) := by
  rw [neg_fin, clamp_fin]

end Finite

/-- The value is a number. -/
def IsFinite : ExtRat → Prop
  | fin _ => True
  | _ => False

instance (x : ExtRat) : Decidable x.IsFinite := by
  cases x <;> unfold IsFinite <;> infer_instance

theorem isFinite_iff {x : ExtRat} : x.IsFinite ↔ ∃ q, x = fin q := by
  cases x <;> simp [IsFinite]

@[simp] theorem isFinite_fin (q : ℚ) : (fin q).IsFinite := trivial

/-- The number that a finite value is. -/
def toRat : ExtRat → ℚ
  | fin q => q
  | _ => 0

theorem fin_toRat {x : ExtRat} (h : x.IsFinite) : fin (toRat x) = x := by
  obtain ⟨q, rfl⟩ := isFinite_iff.mp h
  rfl

section Closure

variable {x y : ExtRat}

theorem IsFinite.ne_nan (hx : x.IsFinite) : x ≠ nan := by
  rintro rfl
  exact hx

theorem IsFinite.neg (hx : x.IsFinite) : (-x).IsFinite := by
  obtain ⟨p, rfl⟩ := isFinite_iff.mp hx
  trivial

theorem IsFinite.add (hx : x.IsFinite) (hy : y.IsFinite) : (x + y).IsFinite := by
  obtain ⟨p, rfl⟩ := isFinite_iff.mp hx
  obtain ⟨q, rfl⟩ := isFinite_iff.mp hy
  trivial

theorem IsFinite.sub (hx : x.IsFinite) (hy : y.IsFinite) : (x - y).IsFinite :=
  hx.add hy.neg

theorem IsFinite.mul (hx : x.IsFinite) (hy : y.IsFinite) : (x * y).IsFinite := by
  obtain ⟨p, rfl⟩ := isFinite_iff.mp hx
  obtain ⟨q, rfl⟩ := isFinite_iff.mp hy
  trivial

/-- Division stays finite because the divisor is a positive number. -/
theorem IsFinite.div_pos (hx : x.IsFinite) (hy : y.IsFinite) (h : 0 < y) :
    (x / y).IsFinite := by
  obtain ⟨p, rfl⟩ := isFinite_iff.mp hx
  obtain ⟨q, rfl⟩ := isFinite_iff.mp hy
  rw [zero_def, fin_lt] at h
  rw [fin_div p q h.ne']
  trivial

/-- The same for any finite divisor but zero. -/
theorem IsFinite.div (hx : x.IsFinite) (hy : y.IsFinite) (h : y ≠ 0) : (x / y).IsFinite := by
  obtain ⟨p, rfl⟩ := isFinite_iff.mp hx
  obtain ⟨q, rfl⟩ := isFinite_iff.mp hy
  have hq : q ≠ 0 := by
    rintro rfl
    exact h rfl
  rw [fin_div p q hq]
  trivial

theorem IsFinite.clamp {lo hi : ExtRat} (hx : x.IsFinite) (hlo : lo.IsFinite)
    (hhi : hi.IsFinite) : (Verified.clamp x lo hi).IsFinite := by
  rcases clamp_cases x lo hi with h | h | h <;> rw [h] <;> assumption

theorem isFinite_lit (q : ℚ) : (lit q : ExtRat).IsFinite := trivial

theorem isFinite_zero : (0 : ExtRat).IsFinite := trivial

end Closure

/-! ## NaN is absorbing, and compares with nothing -/

section Absorbing

variable (x : ExtRat)

@[simp] theorem nan_add : nan + x = nan := by cases x <;> rfl
@[simp] theorem add_nan : x + nan = nan := by cases x <;> rfl
@[simp] theorem neg_nan : -nan = nan := rfl
@[simp] theorem nan_sub : nan - x = nan := nan_add (-x)
@[simp] theorem sub_nan : x - nan = nan := add_nan x
@[simp] theorem nan_mul : nan * x = nan := by cases x <;> rfl
@[simp] theorem mul_nan : x * nan = nan := by cases x <;> rfl
@[simp] theorem nan_div : nan / x = nan := by cases x <;> rfl
@[simp] theorem not_nan_lt : ¬nan < x := by cases x <;> exact Bool.false_ne_true
@[simp] theorem not_lt_nan : ¬x < nan := by cases x <;> exact Bool.false_ne_true
@[simp] theorem not_nan_le : ¬nan ≤ x := by cases x <;> exact Bool.false_ne_true
@[simp] theorem not_le_nan : ¬x ≤ nan := by cases x <;> exact Bool.false_ne_true

@[simp] theorem fabs_nan : fabs nan = nan := by
  rw [fabs, if_neg (not_nan_lt 0)]

/-- A clamp passes NaN through, whatever its bounds. -/
@[simp] theorem clamp_nan (lo hi : ExtRat) : clamp nan lo hi = nan := by
  simp [clamp]

/-- A clamp whose bounds are NaN passes everything through. -/
@[simp] theorem clamp_nan_bounds : clamp x nan nan = x := by
  simp [clamp]

end Absorbing

/-- The sums that are not a number. -/
theorem add_eq_nan_iff {x y : ExtRat} :
    x + y = nan ↔ x = nan ∨ y = nan ∨ (x = posInf ∧ y = negInf) ∨ (x = negInf ∧ y = posInf) := by
  cases x <;> cases y <;> simp [HAdd.hAdd, Add.add, ExtRat.add]

theorem add_fin_zero (x : ExtRat) : x + 0 = x := by
  rw [zero_def]
  cases x with
  | fin q => rw [fin_add, add_zero]
  | _ => rfl

/-- A sum is a number exactly when both terms are. -/
theorem isFinite_add_iff {x y : ExtRat} : (x + y).IsFinite ↔ x.IsFinite ∧ y.IsFinite := by
  cases x <;> cases y <;> simp [HAdd.hAdd, Add.add, ExtRat.add, IsFinite]

/-- The product with a number is zero exactly when the other factor is a number
too and one of them is zero. -/
theorem mul_fin_eq_zero_iff {x : ExtRat} {p : ℚ} :
    x * fin p = 0 ↔ x.IsFinite ∧ (x = 0 ∨ p = 0) := by
  have hsigned (q : ℚ) : signedInf q ≠ 0 := by
    unfold signedInf
    split_ifs
    · exact nofun
    · exact nofun
    · exact nofun
  cases x with
  | fin q =>
      rw [fin_mul, zero_def]
      simp [IsFinite]
  | posInf => exact iff_of_false (hsigned p) (fun h => h.1)
  | negInf => exact iff_of_false (hsigned (-p)) (fun h => h.1)
  | nan => exact iff_of_false nofun (fun h => h.1)

/-! ## What a clamp makes of the special values -/

/-- With finite ordered bounds everything but NaN becomes a number between
them. -/
theorem clamp_finite_bound {v : ExtRat} (hv : v ≠ nan) {b : ℚ} (hb : 0 ≤ b) :
    ∃ q, clamp v (-fin b) (fin b) = fin q ∧ |q| ≤ b := by
  cases v with
  | fin q => exact ⟨clamp q (-b) b, clamp_fin q (-b) b, abs_clamp_le hb⟩
  | posInf =>
      refine ⟨b, ?_, le_of_eq (abs_of_nonneg hb)⟩
      rw [neg_fin]
      rfl
  | negInf =>
      refine ⟨-b, ?_, by rw [abs_neg, abs_of_nonneg hb]⟩
      rw [neg_fin]
      rfl
  | nan => exact absurd rfl hv

/-- Infinite bounds change nothing. -/
theorem clamp_infinite_bound (v : ExtRat) : clamp v (-posInf) posInf = v := by
  cases v <;> rfl

/-! ## The order -/

section Order

variable {x y : ExtRat}

@[simp] theorem le_posInf_iff : x ≤ posInf ↔ x ≠ nan := by
  cases x <;> simp [LE.le, ExtRat.leb]

@[simp] theorem posInf_le_iff : posInf ≤ x ↔ x = posInf := by
  cases x <;> simp [LE.le, ExtRat.leb]

@[simp] theorem le_negInf_iff : x ≤ negInf ↔ x = negInf := by
  cases x <;> simp [LE.le, ExtRat.leb]

@[simp] theorem negInf_le_iff : negInf ≤ x ↔ x ≠ nan := by
  cases x <;> simp [LE.le, ExtRat.leb]

@[simp] theorem fabs_posInf : fabs posInf = posInf := rfl
@[simp] theorem fabs_negInf : fabs negInf = posInf := rfl

theorem pos_iff : 0 < x ↔ (∃ q, x = fin q ∧ 0 < q) ∨ x = posInf := by
  cases x with
  | fin q =>
      rw [zero_def, fin_lt]
      simp
  | posInf => exact iff_of_true rfl (Or.inr rfl)
  | negInf => exact iff_of_false Bool.false_ne_true (by simp)
  | nan => exact iff_of_false (not_lt_nan 0) (by simp)

theorem nonneg_iff : 0 ≤ x ↔ (∃ q, x = fin q ∧ 0 ≤ q) ∨ x = posInf := by
  cases x with
  | fin q =>
      rw [zero_def, fin_le]
      simp
  | posInf => exact iff_of_true rfl (Or.inr rfl)
  | negInf => exact iff_of_false Bool.false_ne_true (by simp)
  | nan => exact iff_of_false (not_le_nan 0) (by simp)

theorem nonneg_of_pos (h : 0 < x) : 0 ≤ x := by
  obtain ⟨q, rfl, hq⟩ | rfl := pos_iff.mp h
  · exact (fin_le 0 q).mpr hq.le
  · rfl

instance : SignedDouble ExtRat := ⟨(fin_lt 0 _).mpr, nonneg_of_pos, (fin_le 0 0).mpr (le_refl 0)⟩

@[simp] theorem le_self_iff : x ≤ x ↔ x ≠ nan := by
  cases x <;> simp [fin_le]

theorem ne_nan_of_nonneg (h : 0 ≤ x) : x ≠ nan := by
  rintro rfl
  exact not_le_nan 0 h

theorem ne_nan_of_pos (h : 0 < x) : x ≠ nan := ne_nan_of_nonneg (nonneg_of_pos h)

/-- What a check for `≤ 0` lets through: NaN too. -/
theorem not_le_zero_iff : ¬x ≤ 0 ↔ x = nan ∨ 0 < x := by
  cases x with
  | fin q =>
      rw [zero_def, fin_le, fin_lt]
      simp
  | posInf => exact iff_of_true Bool.false_ne_true (Or.inr rfl)
  | negInf => exact iff_of_false (fun h => h rfl) (by rintro (h | h) <;> cases h)
  | nan => exact iff_of_true (not_nan_le 0) (Or.inl rfl)

/-- What a check for `< 0` lets through. -/
theorem not_lt_zero_iff : ¬x < 0 ↔ x = nan ∨ 0 ≤ x := by
  cases x with
  | fin q =>
      rw [zero_def, fin_le, fin_lt]
      simp
  | posInf => exact iff_of_true Bool.false_ne_true (Or.inr rfl)
  | negInf => exact iff_of_false (fun h => h rfl) (by rintro (h | h) <;> cases h)
  | nan => exact iff_of_true (not_nan_lt 0) (Or.inl rfl)

theorem not_lt_zero_of_not_le (h : ¬x ≤ 0) : ¬x < 0 :=
  not_lt_zero_iff.mpr ((not_le_zero_iff.mp h).imp_right nonneg_of_pos)

/-- What a check for an upper bound lets through. -/
theorem not_fin_le_iff {q : ℚ} : ¬fin q ≤ x ↔ x = nan ∨ x < fin q := by
  cases x with
  | fin p =>
      rw [fin_le, fin_lt]
      simp
  | posInf => exact iff_of_false (fun h => h rfl) (by rintro (h | h) <;> cases h)
  | negInf => exact iff_of_true Bool.false_ne_true (Or.inr rfl)
  | nan => exact iff_of_true (not_le_nan _) (Or.inl rfl)

/-- The bounds of a symmetric clamp are ordered. -/
theorem neg_le_self (h : 0 ≤ x) : -x ≤ x := by
  obtain ⟨q, rfl, hq⟩ | rfl := nonneg_iff.mp h
  · rw [neg_fin, fin_le]
    linarith
  · rfl

theorem fabs_nonneg (h : x ≠ nan) : 0 ≤ fabs x := by
  cases x with
  | fin q =>
      rw [fabs_fin, zero_def, fin_le]
      exact abs_nonneg q
  | posInf => rfl
  | negInf => rfl
  | nan => exact absurd rfl h

/-- A symmetric clamp passes NaN through, and nothing else. -/
theorem clamp_eq_nan_iff {v b : ExtRat} (hb : 0 ≤ b) : clamp v (-b) b = nan ↔ v = nan := by
  have hbound : b ≠ nan ∧ -b ≠ nan := by
    obtain ⟨q, rfl, _⟩ | rfl := nonneg_iff.mp hb
    · exact ⟨nofun, nofun⟩
    · exact ⟨nofun, nofun⟩
  constructor
  · intro h
    rcases clamp_cases v (-b) b with hlow | hhigh | hself
    · exact absurd (hlow.symm.trans h) hbound.2
    · exact absurd (hhigh.symm.trans h) hbound.1
    · exact hself.symm.trans h
  · rintro rfl
    exact clamp_nan (-b) b

/-- **A symmetric clamp** lands within `c` when its argument or its bound does, and its
argument is not NaN. -/
theorem fabs_clamp_le_iff {v b c : ExtRat} (hb : 0 ≤ b) :
    fabs (clamp v (-b) b) ≤ c ↔ v ≠ nan ∧ (fabs v ≤ c ∨ b ≤ c) := by
  obtain ⟨q, rfl, hq⟩ | rfl := nonneg_iff.mp hb
  · cases v with
    | fin p =>
        rw [clamp_neg_fin, fabs_fin, fabs_fin, abs_clamp_eq_min hq]
        cases c <;> simp
    | posInf =>
        have hclamp : clamp posInf (-fin q) (fin q) = fin q := by
          rw [neg_fin]
          rfl
        rw [hclamp, fabs_fin, abs_of_nonneg hq]
        cases c <;> simp
    | negInf =>
        have hclamp : clamp negInf (-fin q) (fin q) = fin (-q) := by
          rw [neg_fin]
          rfl
        rw [hclamp, fabs_fin, abs_neg, abs_of_nonneg hq]
        cases c <;> simp
    | nan => simp
  · rw [clamp_infinite_bound]
    cases v with
    | fin p =>
        rw [fabs_fin]
        cases c <;> simp
    | posInf => simp
    | negInf => simp
    | nan => simp

/-- Its own bound. -/
theorem fabs_clamp_le_bound_iff {v b : ExtRat} (hb : 0 ≤ b) :
    fabs (clamp v (-b) b) ≤ b ↔ v ≠ nan := by
  rw [fabs_clamp_le_iff hb]
  exact and_iff_left (Or.inr (le_self_iff.mpr (ne_nan_of_nonneg hb)))

/-- A clamp whose bound passes a check for `≤ 0` vanishes only at zero. -/
theorem clamp_eq_zero_iff {v b : ExtRat} (hb : ¬b ≤ 0) : clamp v (-b) b = 0 ↔ v = 0 := by
  obtain rfl | hpos := not_le_zero_iff.mp hb
  · rw [neg_nan, clamp_nan_bounds]
  · obtain ⟨q, rfl, hq⟩ | rfl := pos_iff.mp hpos
    · cases v with
      | fin p => rw [clamp_neg_fin, zero_def, fin.injEq, fin.injEq, Verified.clamp_eq_zero_iff hq]
      | posInf =>
          have hclamp : clamp posInf (-fin q) (fin q) = fin q := rfl
          rw [hclamp, zero_def, fin.injEq]
          exact iff_of_false hq.ne' nofun
      | negInf =>
          have hclamp : clamp negInf (-fin q) (fin q) = fin (-q) := rfl
          rw [hclamp, zero_def, fin.injEq]
          exact iff_of_false (neg_ne_zero.mpr hq.ne') nofun
      | nan => rw [clamp_nan]
    · rw [clamp_infinite_bound]

end Order

/-! ## Multiplying by a number -/

section Scale

variable {x c : ExtRat} {p : ℚ}

theorem posInf_mul_fin (hp : 0 < p) : posInf * fin p = posInf := if_pos hp

theorem negInf_mul_fin (hp : 0 < p) : negInf * fin p = negInf := by
  show signedInf (-p) = negInf
  rw [signedInf, if_neg (by linarith), if_pos (by linarith)]

theorem mul_fin_ne_nan_iff : x * fin p ≠ nan ↔ x ≠ nan ∧ (p = 0 → x.IsFinite) := by
  have hsigned (q : ℚ) : signedInf q ≠ nan ↔ q ≠ 0 := by
    unfold signedInf
    split_ifs with hpos hneg
    · exact iff_of_true nofun hpos.ne'
    · exact iff_of_true nofun hneg.ne
    · have hzero : q = 0 := le_antisymm (not_lt.mp hpos) (not_lt.mp hneg)
      exact iff_of_false (fun h => h rfl) (fun h => h hzero)
  cases x with
  | fin q => exact iff_of_true nofun ⟨nofun, fun _ => trivial⟩
  | posInf =>
      show signedInf p ≠ nan ↔ _
      rw [hsigned]
      simp [IsFinite]
  | negInf =>
      show signedInf (-p) ≠ nan ↔ _
      rw [hsigned]
      simp [IsFinite]
  | nan => simp

/-- A positive factor moves to the other side. -/
theorem mul_fin_le_iff (hp : 0 < p) : x * fin p ≤ c ↔ x ≤ c * fin p⁻¹ := by
  have hcpos := posInf_mul_fin (inv_pos.mpr hp)
  have hcneg := negInf_mul_fin (inv_pos.mpr hp)
  cases x with
  | fin q =>
      cases c with
      | fin r => rw [fin_mul, fin_mul, fin_le, fin_le, ← div_eq_mul_inv, le_div_iff₀ hp]
      | posInf => simp [hcpos]
      | negInf => simp [hcneg]
      | nan => simp
  | posInf =>
      rw [posInf_mul_fin hp]
      cases c with
      | fin r => simp
      | posInf => simp [hcpos]
      | negInf => simp [hcneg]
      | nan => simp
  | negInf =>
      rw [negInf_mul_fin hp]
      cases c with
      | fin r => simp
      | posInf => simp [hcpos]
      | negInf => simp [hcneg]
      | nan => simp
  | nan => simp

theorem fabs_mul_fin (hp : 0 < p) (x : ExtRat) : fabs (x * fin p) = fabs x * fin p := by
  cases x with
  | fin q => rw [fin_mul, fabs_fin, fabs_fin, fin_mul, abs_mul, abs_of_pos hp]
  | posInf => rw [posInf_mul_fin hp, fabs_posInf, posInf_mul_fin hp]
  | negInf => rw [negInf_mul_fin hp, fabs_negInf, posInf_mul_fin hp]
  | nan => simp

/-- Zero times a number, as a magnitude. -/
theorem fabs_mul_fin_zero (hx : x.IsFinite) : fabs (x * fin 0) = 0 := by
  obtain ⟨q, rfl⟩ := isFinite_iff.mp hx
  rw [fin_mul, fabs_fin, mul_zero, abs_zero, zero_def]

/-- A factor of at most one keeps a bound, where the product is not NaN. -/
theorem fabs_mul_fin_le (hlow : 0 ≤ p) (hhigh : p ≤ 1) (hx : fabs x ≤ c)
    (hne : x * fin p ≠ nan) : fabs (x * fin p) ≤ c := by
  obtain ⟨hnan, hfinite⟩ := mul_fin_ne_nan_iff.mp hne
  obtain rfl | hp := eq_or_lt_of_le hlow
  · obtain ⟨q, rfl⟩ := isFinite_iff.mp (hfinite rfl)
    rw [fabs_mul_fin_zero (isFinite_fin q), zero_def]
    rw [fabs_fin] at hx
    cases c with
    | fin r =>
        rw [fin_le] at hx ⊢
        exact (abs_nonneg q).trans hx
    | posInf => rfl
    | negInf => exact absurd hx Bool.false_ne_true
    | nan => exact absurd hx (not_le_nan _)
  · rw [fabs_mul_fin hp]
    cases hfabs : fabs x with
    | fin q =>
        have hq : 0 ≤ fin q := hfabs ▸ fabs_nonneg hnan
        rw [hfabs] at hx
        rw [zero_def, fin_le] at hq
        cases c with
        | fin r =>
            rw [fin_le] at hx
            rw [fin_mul, fin_le]
            exact (mul_le_of_le_one_right hq hhigh).trans hx
        | posInf => rfl
        | negInf => exact absurd hx Bool.false_ne_true
        | nan => exact absurd hx (not_le_nan _)
    | posInf =>
        rw [hfabs, posInf_le_iff] at hx
        rw [posInf_mul_fin hp, hx]
        rfl
    | negInf =>
        have hneg := fabs_nonneg hnan
        rw [hfabs] at hneg
        exact absurd hneg Bool.false_ne_true
    | nan =>
        rw [hfabs] at hx
        exact absurd hx (not_nan_le c)

/-- **A symmetric clamp and a factor** land within `c` when the clamp's argument or its
bound does after the factor, and the product is not NaN. -/
theorem fabs_clamp_mul_le_iff {v b : ExtRat} (hb : 0 ≤ b) (hc : 0 ≤ c) (hp : 0 ≤ p) :
    fabs (clamp v (-b) b * fin p) ≤ c ↔
      clamp v (-b) b * fin p ≠ nan ∧ (fabs v * fin p ≤ c ∨ b * fin p ≤ c) := by
  obtain rfl | hp := eq_or_lt_of_le hp
  · constructor
    · intro h
      have hne : clamp v (-b) b * fin 0 ≠ nan := by
        intro hnan
        rw [hnan, fabs_nan] at h
        exact not_nan_le c h
      refine ⟨hne, ?_⟩
      have hfinite := (mul_fin_ne_nan_iff.mp hne).2 rfl
      obtain ⟨q, rfl, _⟩ | rfl := nonneg_iff.mp hb
      · right
        rw [fin_mul, mul_zero]
        exact hc
      · rw [clamp_infinite_bound] at hfinite
        obtain ⟨q, rfl⟩ := isFinite_iff.mp hfinite
        left
        rw [fabs_fin, fin_mul, mul_zero]
        exact hc
    · rintro ⟨hne, _⟩
      rw [fabs_mul_fin_zero ((mul_fin_ne_nan_iff.mp hne).2 rfl)]
      exact hc
  · rw [fabs_mul_fin hp, mul_fin_le_iff hp, mul_fin_le_iff hp, mul_fin_le_iff hp,
      fabs_clamp_le_iff hb, mul_fin_ne_nan_iff]
    rw [ne_eq (clamp v (-b) b), clamp_eq_nan_iff hb]
    exact and_congr_left' ⟨fun h => ⟨h, fun h0 => absurd h0 hp.ne'⟩, fun h => h.1⟩

end Scale

end ExtRat

end MarineHil.Verified
