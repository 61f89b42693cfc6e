import Mathlib.Data.List.Induction
import Mathlib.Algebra.Order.Ring.Nat

/-!
# Bit fields of a machine word

A field is a run of bits of a word.  `extract` reads one; `deposit` overwrites
one with a value that it does not mask, so that whatever the value has above the
field's length gets into the word above the field.  Fields that are written in
ascending order come out right all the same: each one overwrites what the one
before it spilled.

Words are also read from memory byte by byte, in either order of bytes.

## Main results

* `extract_deposit`, `extract_deposit_of_before`: a field after a write to it, and
  after a write to one above it.
* `load_store`, `reverseBytes_reverseBytes`: words and bytes.
-/

namespace MarineHil.Verified

/-- The low `len` bits of a word. -/
def lowMask (w len : ℕ) : BitVec w := if len < w then (1#w <<< len) - 1#w else BitVec.allOnes w

theorem getLsbD_lowMask (w len i : ℕ) :
    (lowMask w len).getLsbD i = (decide (i < len) && decide (i < w)) := by
  unfold lowMask
  split
  · rename_i hlen
    have hpow : 2 ^ len < 2 ^ w := Nat.pow_lt_pow_right (by decide) hlen
    have hone : 1 < 2 ^ w := Nat.one_lt_two_pow (by omega)
    have hpos : 0 < 2 ^ len := Nat.two_pow_pos len
    have hvalue : ((1#w <<< len) - 1#w).toNat = 2 ^ len - 1 := by
      rw [BitVec.toNat_sub, BitVec.toNat_shiftLeft, BitVec.toNat_ofNat, Nat.mod_eq_of_lt hone,
        Nat.shiftLeft_eq, one_mul, Nat.mod_eq_of_lt hpow,
        show 2 ^ w - 1 + 2 ^ len = 2 ^ len - 1 + 2 ^ w by omega, Nat.add_mod_right,
        Nat.mod_eq_of_lt (by omega)]
    rw [BitVec.getLsbD, hvalue, Nat.testBit_two_pow_sub_one]
    by_cases hi : i < len
    · rw [decide_eq_true hi, decide_eq_true (hi.trans hlen)]
      rfl
    · rw [decide_eq_false hi]
      rfl
  · rename_i hlen
    rw [BitVec.getLsbD_allOnes]
    by_cases hi : i < w
    · rw [decide_eq_true hi, decide_eq_true (by omega : i < len)]
      rfl
    · rw [decide_eq_false hi, Bool.and_false]

/-- The values that the mask leaves as they are. -/
theorem and_lowMask_eq_iff {w len : ℕ} {x : BitVec w} :
    x &&& lowMask w len = x ↔ x.toNat < 2 ^ len := by
  constructor
  · intro hmask
    refine Nat.lt_pow_two_of_testBit _ fun i hi => ?_
    show x.getLsbD i = false
    rw [← hmask, BitVec.getLsbD_and, getLsbD_lowMask, decide_eq_false (not_lt.mpr hi),
      Bool.false_and, Bool.and_false]
  · intro hlt
    refine BitVec.eq_of_getLsbD_eq fun i hi => ?_
    rw [BitVec.getLsbD_and, getLsbD_lowMask, decide_eq_true hi, Bool.and_true]
    by_cases hlen : i < len
    · rw [decide_eq_true hlen, Bool.and_true]
    · have hzero : x.getLsbD i = false := Nat.testBit_lt_two_pow
        (hlt.trans_le (Nat.pow_le_pow_right (by decide) (not_lt.mp hlen)))
      rw [hzero, Bool.false_and]

theorem and_lowMask_self {w : ℕ} (x : BitVec w) : x &&& lowMask w w = x :=
  and_lowMask_eq_iff.mpr x.isLt

/-- A run of bits. -/
structure BitField where
  shift : ℕ
  len : ℕ

namespace BitField

variable {w : ℕ}

/-- The field at the bottom of a word. -/
def extract (f : BitField) (x : BitVec w) : BitVec w := (x >>> f.shift) &&& lowMask w f.len

/-- Overwrite the field, and spill what the value has above its length. -/
def deposit (f : BitField) (v x : BitVec w) : BitVec w :=
  (x &&& ~~~(lowMask w f.len <<< f.shift)) ||| (v <<< f.shift)

/-- The field ends below where the other one starts. -/
def Before (f g : BitField) : Prop := f.shift + f.len ≤ g.shift

instance (f g : BitField) : Decidable (f.Before g) := inferInstanceAs (Decidable (_ ≤ _))

variable {f g : BitField} {v x : BitVec w} {i : ℕ}

theorem getLsbD_extract : (f.extract x).getLsbD i =
    (x.getLsbD (f.shift + i) && (decide (i < f.len) && decide (i < w))) := by
  rw [extract, BitVec.getLsbD_and, BitVec.getLsbD_ushiftRight, getLsbD_lowMask]

/-- Below the field nothing changes. -/
theorem getLsbD_deposit_of_lt (h : i < f.shift) :
    (f.deposit v x).getLsbD i = x.getLsbD i := by
  rw [deposit, BitVec.getLsbD_or, BitVec.getLsbD_and, BitVec.getLsbD_not,
    BitVec.getLsbD_shiftLeft, BitVec.getLsbD_shiftLeft, decide_eq_true h]
  simp only [Bool.not_true, Bool.and_false, Bool.false_and, Bool.not_false, Bool.and_true,
    Bool.or_false]
  by_cases hi : i < w
  · rw [decide_eq_true hi, Bool.and_true]
  · rw [decide_eq_false hi, Bool.and_false, BitVec.getLsbD_of_ge x i (not_lt.mp hi)]

/-- From the field on the value is written; above it the word shines through. -/
theorem getLsbD_deposit_of_le (h : f.shift ≤ i) (hi : i < w) : (f.deposit v x).getLsbD i =
    ((x.getLsbD i && !decide (i - f.shift < f.len)) || v.getLsbD (i - f.shift)) := by
  have hw : i - f.shift < w := by omega
  rw [deposit, BitVec.getLsbD_or, BitVec.getLsbD_and, BitVec.getLsbD_not,
    BitVec.getLsbD_shiftLeft, BitVec.getLsbD_shiftLeft, getLsbD_lowMask, decide_eq_true hi,
    decide_eq_false (not_lt.mpr h), decide_eq_true hw]
  simp

/-- **A field after a write to it.** -/
theorem extract_deposit (hfit : f.shift + f.len ≤ w) :
    f.extract (f.deposit v x) = v &&& lowMask w f.len := by
  refine BitVec.eq_of_getLsbD_eq fun i hi => ?_
  rw [getLsbD_extract, BitVec.getLsbD_and, getLsbD_lowMask]
  by_cases hlen : i < f.len
  · rw [getLsbD_deposit_of_le (Nat.le_add_right _ _) (by omega), Nat.add_sub_cancel_left,
      decide_eq_true hlen]
    simp
  · rw [decide_eq_false hlen]
    simp

/-- A field below the one written. -/
theorem extract_deposit_of_before (h : f.Before g) : f.extract (g.deposit v x) = f.extract x := by
  refine BitVec.eq_of_getLsbD_eq fun i hi => ?_
  rw [getLsbD_extract, getLsbD_extract]
  by_cases hlen : i < f.len
  · have hlt : f.shift + i < g.shift := by
      unfold Before at h
      omega
    rw [getLsbD_deposit_of_lt hlt]
  · rw [decide_eq_false hlen, Bool.false_and, Bool.and_false, Bool.and_false]

end BitField

/-! ## Words and bytes -/

/-- The word of the given bits, the low one first. -/
def wordOf (bit : ℕ → Bool) : (w : ℕ) → BitVec w
  | 0 => .nil
  | w + 1 => .cons (bit w) (wordOf bit w)

theorem getLsbD_wordOf (bit : ℕ → Bool) {w i : ℕ} (h : i < w) :
    (wordOf bit w).getLsbD i = bit i := by
  induction w with
  | zero => exact absurd h (Nat.not_lt_zero i)
  | succ w ih =>
      rw [wordOf, BitVec.getLsbD_cons]
      split
      · rename_i heq
        rw [heq]
      · exact ih (by omega)

/-- The word of `n` bytes at the start of a memory, low byte first. -/
def loadLE (n : ℕ) (mem : ℕ → BitVec 8) : BitVec (8 * n) :=
  wordOf (fun i => (mem (i / 8)).getLsbD (i % 8)) (8 * n)

/-- The bytes of a word, low byte first. -/
def storeLE {n : ℕ} (x : BitVec (8 * n)) (j : ℕ) : BitVec 8 := x.extractLsb' (8 * j) 8

/-- The word with its bytes in the opposite order. -/
def reverseBytes {n : ℕ} (x : BitVec (8 * n)) : BitVec (8 * n) :=
  wordOf (fun i => x.getLsbD (8 * (n - 1 - i / 8) + i % 8)) (8 * n)

section Bytes

variable {n : ℕ}

theorem getLsbD_loadLE (mem : ℕ → BitVec 8) {i : ℕ} (hi : i < 8 * n) :
    (loadLE n mem).getLsbD i = (mem (i / 8)).getLsbD (i % 8) :=
  getLsbD_wordOf _ hi

theorem getLsbD_storeLE (x : BitVec (8 * n)) (j : ℕ) {i : ℕ} (hi : i < 8) :
    (storeLE x j).getLsbD i = x.getLsbD (8 * j + i) := by
  rw [storeLE, BitVec.getLsbD_extractLsb', decide_eq_true hi, Bool.true_and]

theorem getLsbD_reverseBytes (x : BitVec (8 * n)) {i : ℕ} (hi : i < 8 * n) :
    (reverseBytes x).getLsbD i = x.getLsbD (8 * (n - 1 - i / 8) + i % 8) :=
  getLsbD_wordOf _ hi

/-- What is stored is loaded, whatever lies behind it. -/
theorem load_store {x : BitVec (8 * n)} {mem : ℕ → BitVec 8} (h : ∀ j < n, mem j = storeLE x j) :
    loadLE n mem = x := by
  refine BitVec.eq_of_getLsbD_eq fun i hi => ?_
  rw [getLsbD_loadLE mem hi, h (i / 8) (by omega), getLsbD_storeLE x _ (Nat.mod_lt _ (by omega)),
    Nat.div_add_mod]

theorem reverseBytes_reverseBytes (x : BitVec (8 * n)) : reverseBytes (reverseBytes x) = x := by
  refine BitVec.eq_of_getLsbD_eq fun i hi => ?_
  have hmirror : 8 * (n - 1 - i / 8) + i % 8 < 8 * n := by omega
  rw [getLsbD_reverseBytes _ hi, getLsbD_reverseBytes _ hmirror]
  congr 1
  omega

/-- A field is read from the bytes it lies in. -/
theorem extract_loadLE_congr {f : BitField} {mem mem' : ℕ → BitVec 8}
    (h : ∀ j, 8 * j < f.shift + f.len → mem j = mem' j) :
    f.extract (loadLE n mem) = f.extract (loadLE n mem') := by
  refine BitVec.eq_of_getLsbD_eq fun i hi => ?_
  rw [BitField.getLsbD_extract, BitField.getLsbD_extract]
  by_cases hlen : i < f.len
  · by_cases hw : f.shift + i < 8 * n
    · rw [getLsbD_loadLE _ hw, getLsbD_loadLE _ hw, h _ (by omega)]
    · rw [BitVec.getLsbD_of_ge _ _ (not_lt.mp hw), BitVec.getLsbD_of_ge _ _ (not_lt.mp hw)]
  · rw [decide_eq_false hlen, Bool.false_and, Bool.and_false, Bool.and_false]

end Bytes

end MarineHil.Verified
