import MarineHil.Verified.BitField
import MarineHil.Verified.Binary32

/-!
# Signals of a CAN payload

A signal is read out of the eight bytes of a payload, and written into them, through
a union of a 64-bit word and the signal's type.  Writing the type leaves the rest of
the word as the stack had it, and neither function masks the value it writes, so a
write spills that rest above the signal; reading masks.

The reading function copies 64 bytes into its union, of which the word is the first
eight.

## Main results

* `get_set`: what is read where a value was written is the value below the signal's
  length, in either byte order, whatever the payload and the stack held.
* `get_set_of_before`: a signal in lower bits of the word is not disturbed.
* `set_signal_frame`: both, by the positions of the signals, and the bytes behind the word.
* `get_congr`: in Intel byte order only the bytes up to the signal's end count.
-/

namespace MarineHil.Ports

open Verified

/-- What a pointer to bytes leads to. -/
abbrev Memory := ℕ → BitVec 8

/-- The 64-bit member of a union, as eight bytes. -/
abbrev Word := BitVec (8 * 8)

namespace CanHelpers

/-- `shift`, computed in `size_t` and cut to a `uint8_t`. -/
def shift (startBit length : ℕ) (isIntel : Bool) : ℕ :=
  if isIntel then startBit % 2 ^ 8
  else ((64#64 - BitVec.ofNat 64 startBit) - BitVec.ofNat 64 length).toNat % 2 ^ 8

/-- The bits of the word that a signal takes. -/
def field (startBit length : ℕ) (isIntel : Bool) : BitField :=
  ⟨shift startBit length isIntel, length⟩

/-- The word in the byte order of the signal. -/
def inOrder (isIntel : Bool) (x : Word) : Word := if isIntel then x else reverseBytes x

/-- `valAsBits` after the union's member of `w` bits was written. -/
def valAsBits {w : ℕ} (junk : Word) (val : BitVec w) : Word :=
  (⟨0, w⟩ : BitField).deposit (val.setWidth (8 * 8)) junk

def canGetSignalRaw (w : ℕ) (buf : Memory) (startBit length : ℕ) (isIntel : Bool) : BitVec w :=
  ((field startBit length isIntel).extract (inOrder isIntel (loadLE 8 buf))).setWidth w

def canSetSignalRaw {w : ℕ} (junk : Word) (buf : Memory) (val : BitVec w)
    (startBit length : ℕ) (isIntel : Bool) : Memory := fun j =>
  if j < 8 then
    storeLE (inOrder isIntel ((field startBit length isIntel).deposit (valAsBits junk val)
      (inOrder isIntel (loadLE 8 buf)))) j
  else buf j

/-- `static_cast` of a `float` to a signed type of `w` bits; outside the type's range
the standard leaves the result open. -/
def castToSigned (w : ℕ) (unspecified : Binary32 → BitVec w) (x : Binary32) : BitVec w :=
  match x.truncate with
  | some r => if -2 ^ (w - 1) ≤ r ∧ r < 2 ^ (w - 1) then BitVec.ofInt w r else unspecified x
  | none => unspecified x

/-- What the scaled overload writes. -/
def scaledVal (w : ℕ) (unspecified : Binary32 → BitVec w) (val factor offset : Binary32) :
    BitVec w :=
  castToSigned w unspecified ((val - offset) / factor)

/-- What the scaled overload makes of what it reads. -/
def unscaled {w : ℕ} (retVal : BitVec w) (factor offset : Binary32) : Binary32 :=
  Binary32.ofInt retVal.toInt * factor + offset

/-- The scaled `canGetSignalRaw`, for a signed type of `w` bits. -/
def canGetSignalScaled (w : ℕ) (buf : Memory) (startBit length : ℕ) (isIntel : Bool)
    (factor offset : Binary32) : Binary32 :=
  unscaled (canGetSignalRaw w buf startBit length isIntel) factor offset

def canSetSignalScaled (w : ℕ) (unspecified : Binary32 → BitVec w) (junk : Word) (buf : Memory)
    (val : Binary32) (startBit length : ℕ) (isIntel : Bool) (factor offset : Binary32) : Memory :=
  canSetSignalRaw junk buf (scaledVal w unspecified val factor offset) startBit length isIntel

section Placement

variable {startBit length : ℕ} {isIntel : Bool}

/-- Where a signal lies in its word. -/
theorem shift_eq (h : startBit + length ≤ 64) :
    shift startBit length isIntel = if isIntel then startBit else 64 - startBit - length := by
  unfold shift
  cases isIntel with
  | true =>
      rw [if_pos rfl, if_pos rfl]
      omega
  | false =>
      have hstart : BitVec.ofNat 64 startBit ≤ 64#64 := by
        rw [BitVec.le_def, BitVec.toNat_ofNat, BitVec.toNat_ofNat]
        omega
      have hrest : (64#64 - BitVec.ofNat 64 startBit).toNat = 64 - startBit := by
        rw [BitVec.toNat_sub_of_le hstart, BitVec.toNat_ofNat, BitVec.toNat_ofNat]
        omega
      have hlength : BitVec.ofNat 64 length ≤ 64#64 - BitVec.ofNat 64 startBit := by
        rw [BitVec.le_def, hrest, BitVec.toNat_ofNat]
        omega
      rw [if_neg Bool.false_ne_true, if_neg Bool.false_ne_true,
        BitVec.toNat_sub_of_le hlength, hrest, BitVec.toNat_ofNat]
      omega

theorem field_le (h : startBit + length ≤ 64) :
    (field startBit length isIntel).shift + (field startBit length isIntel).len ≤ 8 * 8 := by
  show shift startBit length isIntel + length ≤ 64
  rw [shift_eq h]
  split <;> omega

theorem field_intel (h : startBit + length ≤ 64) :
    field startBit length true = ⟨startBit, length⟩ := by
  rw [field, shift_eq h, if_pos rfl]

end Placement

theorem inOrder_inOrder (isIntel : Bool) (x : Word) : inOrder isIntel (inOrder isIntel x) = x := by
  cases isIntel
  · exact reverseBytes_reverseBytes x
  · rfl

section Write

variable {w : ℕ} {junk : Word} {buf : Memory} {val : BitVec w} {startBit length : ℕ}
  {isIntel : Bool}

/-- The word after a write, in the byte order it was written in. -/
theorem load_set :
    inOrder isIntel (loadLE 8 (canSetSignalRaw junk buf val startBit length isIntel)) =
      (field startBit length isIntel).deposit (valAsBits junk val)
        (inOrder isIntel (loadLE 8 buf)) := by
  have hload : loadLE 8 (canSetSignalRaw junk buf val startBit length isIntel) = _ :=
    load_store fun j hj => if_pos hj
  rw [hload, inOrder_inOrder]

theorem set_apply_of_le {j : ℕ} (h : 8 ≤ j) :
    canSetSignalRaw junk buf val startBit length isIntel j = buf j :=
  if_neg (not_lt.mpr h)

/-- The value is in the low bits of the union, the stack above it. -/
theorem setWidth_valAsBits (hw : w ≤ 64) (length : ℕ) :
    (valAsBits junk val &&& lowMask (8 * 8) length).setWidth w = val &&& lowMask w length := by
  refine BitVec.eq_of_getLsbD_eq fun i hi => ?_
  have hval : (valAsBits junk val).getLsbD i = val.getLsbD i := by
    rw [valAsBits, BitField.getLsbD_deposit_of_le (Nat.zero_le i) (by omega), Nat.sub_zero,
      decide_eq_true hi, BitVec.getLsbD_setWidth, decide_eq_true (by omega : i < 8 * 8)]
    simp
  rw [BitVec.getLsbD_setWidth, BitVec.getLsbD_and, BitVec.getLsbD_and, hval, getLsbD_lowMask,
    getLsbD_lowMask, decide_eq_true hi, decide_eq_true (by omega : i < 8 * 8), Bool.true_and]

/-- **What is read where a value was written.** -/
theorem get_set (hw : w ≤ 64) (hfit : startBit + length ≤ 64) :
    canGetSignalRaw w (canSetSignalRaw junk buf val startBit length isIntel) startBit length
      isIntel = val &&& lowMask w length := by
  rw [canGetSignalRaw, load_set, BitField.extract_deposit (field_le hfit), field,
    setWidth_valAsBits hw]

/-- What is read in lower bits of the word. -/
theorem get_set_of_before {v start' length' : ℕ}
    (h : (field start' length' isIntel).Before (field startBit length isIntel)) :
    canGetSignalRaw v (canSetSignalRaw junk buf val startBit length isIntel) start' length'
      isIntel = canGetSignalRaw v buf start' length' isIntel := by
  rw [canGetSignalRaw, load_set, BitField.extract_deposit_of_before h, canGetSignalRaw]

/-- Only the bytes up to the signal's end count. -/
theorem get_congr {buf' : Memory} (hfit : startBit + length ≤ 64)
    (h : ∀ j, 8 * j < startBit + length → buf j = buf' j) :
    canGetSignalRaw w buf startBit length true = canGetSignalRaw w buf' startBit length true := by
  have hextract : (field startBit length true).extract (loadLE 8 buf) =
      (field startBit length true).extract (loadLE 8 buf') := by
    refine extract_loadLE_congr ?_
    rw [field_intel hfit]
    exact h
  exact congrArg (BitVec.setWidth w) hextract

/-- **A signal that is written is read back**, cut to its length; the signals that lie below
it in the word, which is before it in Intel byte order and behind it in Motorola byte order,
and the bytes behind the word are left alone. -/
theorem set_signal_frame (hw : w ≤ 64) (hfit : startBit + length ≤ 64) (isIntel : Bool)
    (junk : Word) (buf : Memory) (val : BitVec w) :
    canGetSignalRaw w (canSetSignalRaw junk buf val startBit length isIntel) startBit length
        isIntel = val &&& lowMask w length ∧
      (∀ v start' length', start' + length' ≤ 64 →
        (if isIntel then start' + length' ≤ startBit else startBit + length ≤ start') →
          canGetSignalRaw v (canSetSignalRaw junk buf val startBit length isIntel) start' length'
            isIntel = canGetSignalRaw v buf start' length' isIntel) ∧
      ∀ j, 8 ≤ j → canSetSignalRaw junk buf val startBit length isIntel j = buf j := by
  refine ⟨get_set hw hfit, fun v start' length' hfit' hlow => ?_, fun j hj => set_apply_of_le hj⟩
  apply get_set_of_before
  show shift start' length' isIntel + length' ≤ shift startBit length isIntel
  rw [shift_eq hfit, shift_eq hfit']
  cases isIntel with
  | true => exact hlow
  | false =>
      have hbelow : startBit + length ≤ start' := hlow
      rw [if_neg Bool.false_ne_true, if_neg Bool.false_ne_true]
      omega

theorem set_signal_frame_motorola :
    canGetSignalRaw 16 (canSetSignalRaw 0 (fun _ => 7) 300#16 8 8 false) 8 8 false = 44#16 :=
  (set_signal_frame (by decide) (by decide) false 0 (fun _ => 7) 300#16).1.trans (by decide)

end Write

end CanHelpers

end MarineHil.Ports
