import Mathlib.Data.Nat.Log
import Mathlib.Algebra.Order.Floor.Semiring
import MarineHil.Verified.Extended
import MarineHil.Verified.Grid

/-!
# Single precision

A `float` is its 32 bits: a sign, and a code that counts the magnitudes of the
format in ascending order, so that the exponent and the fraction of IEEE 754 are
the high and the low part of the code.  Codes from `infinity` on are the infinity
and NaN.

Conversion from wider numbers rounds to the nearest magnitude, ties to even, on
the grid that goes on beyond the largest finite one; what is rounded past it is an
infinity.

## Main results

* `ofExt_value`: what is single precision already is converted exactly.
* `value_round`, `abs_rounded_sub_le`: the value after the conversion, and its error.
* `abs_rounded_le`: the conversion keeps a bound up to the bound's own rounding.
* `rounded_eq_zero_iff`: what is rounded to zero.
* `value_add`, `value_mul`, `exists_truncate`: arithmetic, and the cut to an integer.
-/

namespace MarineHil.Verified

structure Binary32 where
  bits : BitVec 32
  deriving DecidableEq

namespace Binary32

/-! ## The magnitudes -/

/-- The fractions in a binade. -/
def binade : ℕ := 2 ^ 23

/-- The code of the infinity. -/
def infinity : ℕ := 255 * binade

/-- How far the unit of a code lies above the smallest one. -/
def scale (code : ℕ) : ℕ := code / binade - 1

/-- The magnitude of a code, in units of the smallest one. -/
def units (code : ℕ) : ℕ := (code - scale code * binade) * 2 ^ scale code

/-- The smallest magnitude. -/
def tiny : ℚ := 1 / 2 ^ 149

def magnitude (code : ℕ) : ℚ := units code * tiny

theorem tiny_pos : 0 < tiny := by
  unfold tiny
  positivity

theorem scale_mul_le (code : ℕ) : scale code * binade ≤ code := by
  unfold scale binade
  omega

/-- From one code to the next the magnitude grows by the unit of the code. -/
theorem units_succ (code : ℕ) : units (code + 1) = units code + 2 ^ scale code := by
  have hle := scale_mul_le code
  have hsame : (code - scale code * binade) * 2 ^ scale code + 2 ^ scale code =
      (code + 1 - scale code * binade) * 2 ^ scale code := by
    rw [Nat.sub_add_comm hle, Nat.add_mul, one_mul]
  rw [units, units, hsame]
  by_cases hscale : scale (code + 1) = scale code
  · rw [hscale]
  · -- the last code of a binade: the next unit is twice as large
    have hstep : scale (code + 1) = scale code + 1 := by
      unfold scale binade at *
      omega
    have hhalf : code + 1 - scale code * binade = 2 * (code + 1 - scale (code + 1) * binade) := by
      rw [hstep]
      unfold scale binade at *
      omega
    rw [hhalf, hstep, pow_succ]
    ring

theorem units_zero : units 0 = 0 := by
  rw [units, Nat.zero_sub, Nat.zero_mul]

theorem units_strictMono : StrictMono units := by
  refine strictMono_nat_of_lt_succ fun code => ?_
  rw [units_succ]
  exact Nat.lt_add_of_pos_right (Nat.two_pow_pos _)

/-- The last code whose magnitude is at most `n` units. -/
def floorUnits (n : ℕ) : ℕ := (Nat.log 2 n - 23) * binade + n / 2 ^ (Nat.log 2 n - 23)

/-- Below its leading 24 bits a number of units is cut off. -/
theorem units_floorUnits (n : ℕ) :
    units (floorUnits n) = n / 2 ^ (Nat.log 2 n - 23) * 2 ^ (Nat.log 2 n - 23) ∧
      scale (floorUnits n) = Nat.log 2 n - 23 := by
  have hscale : scale (floorUnits n) = Nat.log 2 n - 23 := by
    by_cases hsmall : Nat.log 2 n < 24
    · have hzero : Nat.log 2 n - 23 = 0 := by omega
      have hn : n < 2 ^ 24 := Nat.lt_pow_of_log_lt (by decide) hsmall
      unfold scale floorUnits binade
      rw [hzero, Nat.zero_mul, Nat.zero_add, pow_zero, Nat.div_one]
      omega
    · have hne : n ≠ 0 := by
        rintro rfl
        exact hsmall (by rw [Nat.log_zero_right]; decide)
      have hlow : 2 ^ 23 * 2 ^ (Nat.log 2 n - 23) ≤ n := by
        rw [← pow_add, Nat.add_sub_cancel' (by omega)]
        exact Nat.pow_log_le_self 2 hne
      have hhigh : n < 2 ^ 24 * 2 ^ (Nat.log 2 n - 23) := by
        rw [← pow_add, show 24 + (Nat.log 2 n - 23) = Nat.log 2 n + 1 by omega]
        exact Nat.lt_pow_succ_log_self (by decide) n
      have hquot : 2 ^ 23 ≤ n / 2 ^ (Nat.log 2 n - 23) ∧ n / 2 ^ (Nat.log 2 n - 23) < 2 ^ 24 :=
        ⟨(Nat.le_div_iff_mul_le (Nat.two_pow_pos _)).mpr hlow,
          (Nat.div_lt_iff_lt_mul (Nat.two_pow_pos _)).mpr hhigh⟩
      unfold scale floorUnits binade
      omega
  refine ⟨?_, hscale⟩
  rw [units, hscale, floorUnits, Nat.add_sub_cancel_left]

theorem floorUnits_spec (n : ℕ) :
    units (floorUnits n) ≤ n ∧ n < units (floorUnits n + 1) := by
  obtain ⟨hunits, hscale⟩ := units_floorUnits n
  rw [units_succ, hunits, hscale]
  exact ⟨Nat.div_mul_le_self n _, Nat.lt_div_mul_add (Nat.two_pow_pos _)⟩

/-- The grid of magnitudes, which goes on where the format ends. -/
def grid : Grid ℚ where
  value := magnitude
  floor a := floorUnits ⌊a / tiny⌋₊
  strictMono := by
    intro m n h
    exact mul_lt_mul_of_pos_right (by exact_mod_cast units_strictMono h) tiny_pos
  value_zero := by rw [magnitude, units_zero, Nat.cast_zero, zero_mul]
  value_floor_le := by
    intro a ha
    rw [magnitude, ← le_div_iff₀ tiny_pos]
    have hle : (units (floorUnits ⌊a / tiny⌋₊) : ℚ) ≤ ⌊a / tiny⌋₊ := by
      exact_mod_cast (floorUnits_spec _).1
    exact hle.trans (Nat.floor_le (div_nonneg ha tiny_pos.le))
  lt_value_floor_succ := by
    intro a ha
    rw [magnitude, ← div_lt_iff₀ tiny_pos]
    have hle : ((⌊a / tiny⌋₊ + 1 : ℕ) : ℚ) ≤ units (floorUnits ⌊a / tiny⌋₊ + 1) := by
      exact_mod_cast (floorUnits_spec _).2
    refine (Nat.lt_floor_add_one _).trans_le ?_
    rwa [Nat.cast_add, Nat.cast_one] at hle

/-! ## Bits, codes and values -/

/-- The number with the given sign and code. -/
def ofCode (negative : Bool) (code : ℕ) : Binary32 :=
  ⟨BitVec.ofNat 32 ((if negative then 2 ^ 31 else 0) + code)⟩

def negative (x : Binary32) : Bool := decide (2 ^ 31 ≤ x.bits.toNat)

def code (x : Binary32) : ℕ := x.bits.toNat % 2 ^ 31

section Code

variable {s : Bool} {c : ℕ}

theorem toNat_ofCode (h : c < 2 ^ 31) :
    (ofCode s c).bits.toNat = (if s then 2 ^ 31 else 0) + c := by
  rw [ofCode, BitVec.toNat_ofNat]
  refine Nat.mod_eq_of_lt ?_
  cases s
  · rw [if_neg Bool.false_ne_true]
    omega
  · rw [if_pos rfl]
    omega

theorem code_ofCode (h : c < 2 ^ 31) : (ofCode s c).code = c := by
  rw [code, toNat_ofCode h]
  cases s
  · rw [if_neg Bool.false_ne_true, Nat.zero_add, Nat.mod_eq_of_lt h]
  · rw [if_pos rfl, Nat.add_mod_left, Nat.mod_eq_of_lt h]

theorem negative_ofCode (h : c < 2 ^ 31) : (ofCode s c).negative = s := by
  rw [negative, toNat_ofCode h]
  cases s
  · rw [if_neg Bool.false_ne_true, Nat.zero_add]
    exact decide_eq_false (not_le.mpr h)
  · rw [if_pos rfl]
    exact decide_eq_true (Nat.le_add_right _ _)

theorem ofCode_code (x : Binary32) : ofCode x.negative x.code = x := by
  have hlt : x.bits.toNat < 2 ^ 32 := x.bits.isLt
  have hnat : (if x.negative = true then 2 ^ 31 else 0) + x.code = x.bits.toNat := by
    unfold negative code
    by_cases h : 2 ^ 31 ≤ x.bits.toNat
    · rw [if_pos (decide_eq_true h)]
      omega
    · rw [if_neg (by rw [decide_eq_false h]; exact Bool.false_ne_true)]
      omega
  rw [ofCode, hnat, BitVec.ofNat_toNat, BitVec.setWidth_eq]

end Code

def signed (negative : Bool) (a : ℚ) : ℚ := if negative then -a else a

theorem abs_signed (s : Bool) (a : ℚ) : |signed s a| = |a| := by
  cases s
  · rfl
  · exact abs_neg a

/-- What the bits stand for. -/
def value (x : Binary32) : ExtRat :=
  if x.code < infinity then .fin (signed x.negative (magnitude x.code))
  else if x.code = infinity then (if x.negative then .negInf else .posInf)
  else .nan

/-! ## Conversion -/

/-- The nearest number to a rational. -/
def round (q : ℚ) : Binary32 := ofCode (decide (q < 0)) (min (grid.nearest |q|) infinity)

/-- Conversion to single precision. -/
def ofExt : ExtRat → Binary32
  | .fin q => round q
  | .posInf => ofCode false infinity
  | .negInf => ofCode true infinity
  | .nan => ofCode false (infinity + 2 ^ 22)

/-- A rational after the conversion, where it does not overflow. -/
def rounded (q : ℚ) : ℚ := signed (decide (q < 0)) (magnitude (grid.nearest |q|))

/-- The largest number of the format. -/
def largest : ℚ := magnitude (infinity - 1)

theorem largest_eq : largest = (2 ^ 24 - 1) * 2 ^ 104 := by
  have hunits : units (infinity - 1) = (2 ^ 24 - 1) * 2 ^ 253 := by decide
  rw [largest, magnitude, hunits, tiny]
  norm_num

theorem infinity_lt : infinity < 2 ^ 31 := by decide

theorem magnitude_nonneg (c : ℕ) : 0 ≤ magnitude c := grid.value_nonneg c

theorem value_of_finite {s : Bool} {c : ℕ} (h : c < infinity) :
    (ofCode s c).value = .fin (signed s (magnitude c)) := by
  have hlt : c < 2 ^ 31 := h.trans infinity_lt
  rw [value, code_ofCode hlt, negative_ofCode hlt, if_pos h]

theorem value_round {q : ℚ} (h : grid.nearest |q| < infinity) :
    (round q).value = .fin (rounded q) := by
  rw [round, min_eq_left h.le, value_of_finite h]
  rfl

/-- What does not exceed the largest number does not overflow. -/
theorem nearest_lt_infinity {q : ℚ} (h : |q| ≤ largest) : grid.nearest |q| < infinity :=
  Nat.lt_of_le_pred (by decide) (grid.nearest_le (abs_nonneg q) h)

theorem abs_rounded (q : ℚ) : |rounded q| = magnitude (grid.nearest |q|) := by
  rw [rounded, abs_signed, abs_of_nonneg (magnitude_nonneg _)]

/-- **The conversion keeps a bound** up to the bound's own rounding. -/
theorem abs_rounded_le {q c : ℚ} (h : |q| ≤ c) : |rounded q| ≤ rounded c := by
  have hc : 0 ≤ c := (abs_nonneg q).trans h
  have hmono : grid.nearest |q| ≤ grid.nearest |c| := by
    rw [abs_of_nonneg hc]
    exact grid.nearest_mono (abs_nonneg q) h
  rw [abs_rounded, rounded, decide_eq_false (not_lt.mpr hc)]
  exact grid.strictMono.monotone hmono

/-- **The error of the conversion**: half a unit in the last place, or half of the
smallest number. -/
theorem abs_rounded_sub_le (q : ℚ) : |rounded q - q| ≤ max (|q| / 2 ^ 24) (tiny / 2) := by
  have hsign : |rounded q - q| = |magnitude (grid.nearest |q|) - (|q|)| := by
    unfold rounded signed
    by_cases hq : q < 0
    · rw [if_pos (decide_eq_true hq), abs_of_neg hq, ← abs_neg]
      congr 1
      ring
    · rw [if_neg (by rw [decide_eq_false hq]; exact Bool.false_ne_true),
        abs_of_nonneg (not_lt.mp hq)]
  have herror := grid.abs_nearest_sub_le (abs_nonneg q)
  have hgap : grid.value (grid.floor |q| + 1) - grid.value (grid.floor |q|) =
      2 ^ scale (grid.floor |q|) * tiny := by
    show (units (grid.floor |q| + 1) : ℚ) * tiny - units (grid.floor |q|) * tiny = _
    rw [units_succ]
    push_cast
    ring
  rw [hsign]
  refine (herror.trans_eq (congrArg (· / 2) hgap)).trans ?_
  by_cases hsmall : grid.floor |q| < binade
  · -- subnormal: the unit is the smallest number
    have hscale : scale (grid.floor |q|) = 0 := by
      unfold scale
      rw [Nat.div_eq_of_lt hsmall]
    rw [hscale, pow_zero, one_mul]
    exact le_max_right _ _
  · have hunits : 2 ^ 23 * 2 ^ scale (grid.floor |q|) ≤ units (grid.floor |q|) := by
      refine Nat.mul_le_mul_right _ ?_
      unfold scale binade at *
      omega
    have hlow : (2 ^ 23 * 2 ^ scale (grid.floor |q|) : ℚ) * tiny ≤ |q| := by
      refine le_trans ?_ (grid.value_floor_le |q| (abs_nonneg q))
      refine mul_le_mul_of_nonneg_right ?_ tiny_pos.le
      exact_mod_cast hunits
    refine le_trans ?_ (le_max_left _ _)
    linarith

/-- What is rounded to zero. -/
theorem rounded_eq_zero_iff {q : ℚ} : rounded q = 0 ↔ |q| ≤ tiny / 2 := by
  have hone : magnitude 1 = tiny := by
    have hunits : units 1 = 1 := by decide
    rw [magnitude, hunits, Nat.cast_one, one_mul]
  have hzero : rounded q = 0 ↔ grid.nearest |q| = 0 := by
    rw [← abs_eq_zero, abs_rounded, ← grid.value_zero]
    exact grid.strictMono.injective.eq_iff
  rw [hzero]
  constructor
  · intro hnear
    have hfloor : grid.floor |q| = 0 := by
      have hcases := grid.roundIn_cases (grid.floor |q|) |q|
      rw [Grid.nearest] at hnear
      omega
    rw [Grid.nearest, hfloor, Grid.roundIn, grid.value_zero, zero_add] at hnear
    change (if |q| + |q| < magnitude 1 then 0 else if magnitude 1 < |q| + |q| then 1
      else if Even 0 then 0 else 1) = 0 at hnear
    rw [hone] at hnear
    by_contra hlarge
    rw [if_neg (by linarith), if_pos (by linarith)] at hnear
    exact one_ne_zero hnear
  · intro hle
    have hfloor : grid.floor |q| = 0 := by
      refine grid.floor_eq ?_ ?_
      · rw [grid.value_zero]
        exact abs_nonneg q
      · show |q| < magnitude 1
        rw [hone]
        linarith [tiny_pos]
    rw [Grid.nearest, hfloor, Grid.roundIn, grid.value_zero, zero_add]
    show (if |q| + |q| < magnitude 1 then 0 else if magnitude 1 < |q| + |q| then 1
      else if Even 0 then 0 else 1) = 0
    rw [hone, if_neg (by linarith : ¬tiny < |q| + |q|), if_pos Even.zero, ite_self]

/-- **What is single precision already is converted exactly**, except that zero loses
its sign. -/
theorem ofExt_value {x : Binary32} (hnan : x.value ≠ .nan) (hzero : x ≠ ofCode true 0) :
    ofExt x.value = x := by
  by_cases hfin : x.code < infinity
  · have hneg : decide (signed x.negative (magnitude x.code) < 0) = x.negative := by
      cases hs : x.negative with
      | false => exact decide_eq_false (not_lt.mpr (magnitude_nonneg _))
      | true =>
          refine decide_eq_true (neg_lt_zero.mpr ?_)
          have hpos : 0 < x.code := by
            refine Nat.pos_of_ne_zero fun hcode => hzero ?_
            rw [← x.ofCode_code, hs, hcode]
          have hlt := grid.strictMono hpos
          rwa [grid.value_zero] at hlt
    have hcode : grid.nearest |signed x.negative (magnitude x.code)| = x.code := by
      rw [abs_signed, abs_of_nonneg (magnitude_nonneg _)]
      exact grid.nearest_value x.code
    rw [value, if_pos hfin]
    show round _ = x
    rw [round, hneg, hcode, min_eq_left hfin.le, x.ofCode_code]
  · by_cases hinf : x.code = infinity
    · rw [value, if_neg hfin, if_pos hinf]
      conv_rhs => rw [← x.ofCode_code, hinf]
      cases x.negative <;> rfl
    · exact absurd (by rw [value, if_neg hfin, if_neg hinf]) hnan

/-! ## Arithmetic

Each operation rounds its exact result.  A result of zero is taken as positive. -/

instance : Add Binary32 := ⟨fun x y => ofExt (x.value + y.value)⟩
instance : Sub Binary32 := ⟨fun x y => ofExt (x.value - y.value)⟩
instance : Mul Binary32 := ⟨fun x y => ofExt (x.value * y.value)⟩
instance : Div Binary32 := ⟨fun x y => ofExt (x.value / y.value)⟩

/-- Conversion from an integer. -/
def ofInt (i : ℤ) : Binary32 := round i

/-- The integer part, where there is one. -/
def truncate (x : Binary32) : Option ℤ :=
  match x.value with
  | .fin q => some (if 0 ≤ q then ⌊q⌋ else -⌊-q⌋)
  | _ => none

section Arithmetic

variable {x y : Binary32} {p q : ℚ}

theorem value_sub (hx : x.value = .fin p) (hy : y.value = .fin q) (h : |p - q| ≤ largest) :
    (x - y).value = .fin (rounded (p - q)) := by
  show (ofExt (x.value - y.value)).value = _
  rw [hx, hy, ExtRat.fin_sub]
  exact value_round (nearest_lt_infinity h)

theorem value_add (hx : x.value = .fin p) (hy : y.value = .fin q) (h : |p + q| ≤ largest) :
    (x + y).value = .fin (rounded (p + q)) := by
  show (ofExt (x.value + y.value)).value = _
  rw [hx, hy, ExtRat.fin_add]
  exact value_round (nearest_lt_infinity h)

theorem value_mul (hx : x.value = .fin p) (hy : y.value = .fin q) (h : |p * q| ≤ largest) :
    (x * y).value = .fin (rounded (p * q)) := by
  show (ofExt (x.value * y.value)).value = _
  rw [hx, hy, ExtRat.fin_mul]
  exact value_round (nearest_lt_infinity h)

theorem value_div (hx : x.value = .fin p) (hy : y.value = .fin q) (hq : q ≠ 0)
    (h : |p / q| ≤ largest) : (x / y).value = .fin (rounded (p / q)) := by
  show (ofExt (x.value / y.value)).value = _
  rw [hx, hy, ExtRat.fin_div p q hq]
  exact value_round (nearest_lt_infinity h)

/-- A number of the format is its own rounding. -/
theorem rounded_of_value (hx : x.value = .fin q) : rounded q = q := by
  unfold value at hx
  by_cases hfin : x.code < infinity
  · rw [if_pos hfin, ExtRat.fin.injEq] at hx
    have habs : |q| = magnitude x.code := by
      rw [← hx, abs_signed, abs_of_nonneg (magnitude_nonneg _)]
    rw [rounded, habs, show grid.nearest (magnitude x.code) = x.code from grid.nearest_value _,
      ← habs]
    unfold signed
    by_cases hneg : q < 0
    · rw [if_pos (decide_eq_true hneg), abs_of_neg hneg, neg_neg]
    · rw [if_neg (by rw [decide_eq_false hneg]; exact Bool.false_ne_true),
        abs_of_nonneg (not_lt.mp hneg)]
  · rw [if_neg hfin] at hx
    split_ifs at hx

theorem abs_le_largest (hx : x.value = .fin q) : |q| ≤ largest := by
  unfold value at hx
  by_cases hfin : x.code < infinity
  · rw [if_pos hfin, ExtRat.fin.injEq] at hx
    rw [← hx, abs_signed, abs_of_nonneg (magnitude_nonneg _)]
    exact grid.strictMono.monotone (Nat.le_pred_of_lt hfin)
  · rw [if_neg hfin] at hx
    split_ifs at hx

/-- The integer part of a number lies towards zero, less than one away. -/
theorem exists_truncate (hx : x.value = .fin q) :
    ∃ r : ℤ, x.truncate = some r ∧ |(r : ℚ) - q| < 1 ∧ |(r : ℚ)| ≤ |q| := by
  unfold truncate
  rw [hx]
  by_cases hq : 0 ≤ q
  · have hfloor : (0 : ℚ) ≤ ⌊q⌋ := by exact_mod_cast Int.floor_nonneg.mpr hq
    refine ⟨⌊q⌋, congrArg some (if_pos hq), ?_, ?_⟩
    · rw [abs_sub_lt_iff]
      constructor <;> linarith [Int.floor_le q, Int.lt_floor_add_one q]
    · rw [abs_of_nonneg hfloor, abs_of_nonneg hq]
      exact Int.floor_le q
  · have hneg : 0 < -q := neg_pos.mpr (not_le.mp hq)
    have hfloor : (0 : ℚ) ≤ ⌊-q⌋ := by exact_mod_cast Int.floor_nonneg.mpr hneg.le
    refine ⟨-⌊-q⌋, congrArg some (if_neg hq), ?_, ?_⟩
    · rw [Int.cast_neg, abs_sub_lt_iff]
      constructor <;> linarith [Int.floor_le (-q), Int.lt_floor_add_one (-q)]
    · rw [Int.cast_neg, abs_neg, abs_of_nonneg hfloor, abs_of_neg (not_le.mp hq)]
      exact Int.floor_le (-q)

end Arithmetic

end Binary32

end MarineHil.Verified
