import MarineHil.Ports.CanHelpers

/-!
# The messages of the CAN protocol

A message is a list of signals.  Encoding writes them one after another into the
buffer it is given, and decoding reads them one after another; no signal masks what it
writes, so that the order matters: every message lists its signals in ascending order.

The fields of `MessageFormat` say what the formats have in common, and are checked
where a format is defined.

## Main results

* `decodeBuf_payload`: what is decoded is what was encoded, cut to the signals' lengths,
  whatever the buffer and the stack held before and whatever follows the payload.
* `decode_encode_eq_iff`: which messages are decoded as they were encoded.
* `abs_transmitted_milli_sub_lt`: the resolution of the scaled signals.
-/

namespace MarineHil.Ports

open Verified CanHelpers

/-- The type a signal is packed as; a scaled one is a `float` in the message. -/
inductive SignalType where
  | uint8
  | uint32
  | uint64
  | float
  | scaledInt16 (factor offset : Binary32)

namespace SignalType

/-- The type of the message's member. -/
def Member : SignalType → Type
  | uint8 => BitVec 8
  | uint32 => BitVec 32
  | uint64 => BitVec 64
  | float => Binary32
  | scaledInt16 _ _ => Binary32

/-- Whether the length suits the type. -/
def sizes (length : ℕ) : SignalType → Bool
  | uint8 => length ≤ 8
  | uint32 => length ≤ 32
  | uint64 => length ≤ 64
  | float => length = 32
  | scaledInt16 _ _ => length = 16

/-- `unspecified` is the conversion of a `float` that does not fit an `int16_t`. -/
def set (unspecified : Binary32 → BitVec 16) (junk : Word) (buf : Memory) (startBit length : ℕ) :
    (t : SignalType) → t.Member → Memory
  | uint8, (val : BitVec 8) => canSetSignalRaw junk buf val startBit length true
  | uint32, (val : BitVec 32) => canSetSignalRaw junk buf val startBit length true
  | uint64, (val : BitVec 64) => canSetSignalRaw junk buf val startBit length true
  | float, (val : Binary32) => canSetSignalRaw junk buf val.bits startBit length true
  | scaledInt16 factor offset, val =>
      canSetSignalScaled 16 unspecified junk buf val startBit length true factor offset

def get (buf : Memory) (startBit length : ℕ) : (t : SignalType) → t.Member
  | uint8 => canGetSignalRaw 8 buf startBit length true
  | uint32 => canGetSignalRaw 32 buf startBit length true
  | uint64 => canGetSignalRaw 64 buf startBit length true
  | float => Binary32.mk (canGetSignalRaw 32 buf startBit length true)
  | scaledInt16 factor offset => canGetSignalScaled 16 buf startBit length true factor offset

/-- The bits of the type a signal is packed as. -/
def rawWidth : SignalType → ℕ
  | uint8 => 8
  | uint32 => 32
  | uint64 => 64
  | float => 32
  | scaledInt16 _ _ => 16

def toRaw (unspecified : Binary32 → BitVec 16) : (t : SignalType) → t.Member → BitVec t.rawWidth
  | uint8, val => val
  | uint32, val => val
  | uint64, val => val
  | float, val => Binary32.bits val
  | scaledInt16 factor offset, val => scaledVal 16 unspecified val factor offset

def ofRaw : (t : SignalType) → BitVec t.rawWidth → t.Member
  | uint8, raw => raw
  | uint32, raw => raw
  | uint64, raw => raw
  | float, raw => Binary32.mk raw
  | scaledInt16 factor offset, raw => unscaled raw factor offset

/-- What becomes of a member on the way. -/
def transmitted (unspecified : Binary32 → BitVec 16) (length : ℕ) (t : SignalType)
    (val : t.Member) : t.Member :=
  t.ofRaw (t.toRaw unspecified val &&& lowMask t.rawWidth length)

/-- The values that are transmitted as they are. -/
def Carried (unspecified : Binary32 → BitVec 16) (length : ℕ) : (t : SignalType) → t.Member → Prop
  | uint8, (val : BitVec 8) => val.toNat < 2 ^ length
  | uint32, (val : BitVec 32) => val.toNat < 2 ^ length
  | uint64, (val : BitVec 64) => val.toNat < 2 ^ length
  | float, _ => True
  | scaledInt16 factor offset, val =>
      unscaled (scaledVal 16 unspecified val factor offset) factor offset = val

variable {unspecified : Binary32 → BitVec 16} {junk : Word} {buf : Memory}
  {startBit length : ℕ} {t : SignalType}

theorem set_eq (val : t.Member) : t.set unspecified junk buf startBit length val =
    canSetSignalRaw junk buf (t.toRaw unspecified val) startBit length true := by
  cases t <;> rfl

theorem get_eq : t.get buf startBit length =
    t.ofRaw (canGetSignalRaw t.rawWidth buf startBit length true) := by
  cases t <;> rfl

theorem rawWidth_le : t.rawWidth ≤ 64 := by
  cases t <;> exact of_decide_eq_true rfl

/-- A signal after a write to it. -/
theorem get_set (hfit : startBit + length ≤ 64) (val : t.Member) :
    t.get (t.set unspecified junk buf startBit length val) startBit length =
      t.transmitted unspecified length val := by
  rw [get_eq, set_eq, CanHelpers.get_set rawWidth_le hfit, transmitted]

/-- A signal that ends before the one written. -/
theorem get_set_of_before {startBit' length' : ℕ} (h : startBit' + length' ≤ startBit)
    (hfit : startBit + length ≤ 64) (t' : SignalType) (val : t.Member) :
    t'.get (t.set unspecified junk buf startBit length val) startBit' length' =
      t'.get buf startBit' length' := by
  have hbefore : (field startBit' length' true).Before (field startBit length true) := by
    rw [field_intel hfit, field_intel (by omega)]
    exact h
  rw [get_eq, set_eq, CanHelpers.get_set_of_before hbefore, ← get_eq]

/-- Only the bytes up to the signal's end count. -/
theorem get_congr {buf' : Memory} (hfit : startBit + length ≤ 64)
    (h : ∀ j, 8 * j < startBit + length → buf j = buf' j) :
    t.get buf startBit length = t.get buf' startBit length := by
  rw [get_eq, CanHelpers.get_congr hfit h, ← get_eq]

theorem transmitted_eq_iff (hsize : t.sizes length = true) (val : t.Member) :
    t.transmitted unspecified length val = val ↔ t.Carried unspecified length val := by
  cases t with
  | uint8 => exact and_lowMask_eq_iff
  | uint32 => exact and_lowMask_eq_iff
  | uint64 => exact and_lowMask_eq_iff
  | float =>
      obtain rfl : length = 32 := of_decide_eq_true hsize
      exact iff_of_true (congrArg Binary32.mk (and_lowMask_self _)) trivial
  | scaledInt16 factor offset =>
      obtain rfl : length = 16 := of_decide_eq_true hsize
      show unscaled (scaledVal 16 unspecified val factor offset &&& lowMask 16 16) _ _ = _ ↔ _
      rw [and_lowMask_self]
      exact Iff.rfl

end SignalType

/-- A signal of a message, in Intel byte order as they all are. -/
structure Signal where
  name : String
  type : SignalType
  startBit : ℕ
  length : ℕ

/-- The members of a message, in the order of its signals. -/
def Contents : List Signal → Type
  | [] => Unit
  | s :: rest => s.type.Member × Contents rest

/-- `encode_buf`.  `junk` is what the stack holds where the union of each signal is put. -/
def encodeBuf (unspecified : Binary32 → BitVec 16) (junk : ℕ → Word) :
    (signals : List Signal) → Contents signals → Memory → Memory
  | [], _, buf => buf
  | s :: rest, c, buf => encodeBuf unspecified junk rest c.2
      (s.type.set unspecified (junk s.startBit) buf s.startBit s.length c.1)

/-- `decode_buf`. -/
def decodeBuf : (signals : List Signal) → Memory → Contents signals
  | [], _ => ()
  | s :: rest, buf => (s.type.get buf s.startBit s.length, decodeBuf rest buf)

/-- What becomes of a message on the way. -/
def transmitted (unspecified : Binary32 → BitVec 16) :
    (signals : List Signal) → Contents signals → Contents signals
  | [], _ => ()
  | s :: rest, c => (s.type.transmitted unspecified s.length c.1, transmitted unspecified rest c.2)

/-- Every member is transmitted as it is. -/
def Carried (unspecified : Binary32 → BitVec 16) : (signals : List Signal) → Contents signals → Prop
  | [], _ => True
  | s :: rest, c => s.type.Carried unspecified s.length c.1 ∧ Carried unspecified rest c.2

/-- The format of a message. -/
structure MessageFormat where
  cmdId : ℕ
  msgLength : ℕ
  signals : List Signal
  ascending : signals.Pairwise fun s t => s.startBit + s.length ≤ t.startBit := by decide
  within : ∀ s ∈ signals, s.startBit + s.length ≤ 8 * msgLength := by decide
  sized : ∀ s ∈ signals, s.type.sizes s.length = true := by decide
  cmdId_lt : cmdId < 2 ^ 5 := by decide
  msgLength_le : msgLength ≤ 8 := by decide

/-! ## The formats -/

section Formats

/-- `0.001f`. -/
def milli : Binary32 := Binary32.round (1 / 1000)

/-- `0.0f`. -/
def noOffset : Binary32 := Binary32.round 0

private def u8 (name : String) (startBit : ℕ) : Signal := ⟨name, .uint8, startBit, 8⟩
private def u32 (name : String) (startBit : ℕ) : Signal := ⟨name, .uint32, startBit, 32⟩
private def f32 (name : String) (startBit : ℕ) : Signal := ⟨name, .float, startBit, 32⟩
private def millis (name : String) (startBit : ℕ) : Signal :=
  ⟨name, .scaledInt16 milli noOffset, startBit, 16⟩

def getVersionMsg : MessageFormat where
  cmdId := 0x000
  msgLength := 8
  signals := [u8 "Protocol_Version" 0, u8 "Hw_Version_Major" 8, u8 "Hw_Version_Minor" 16,
    u8 "Hw_Version_Variant" 24, u8 "Fw_Version_Major" 32, u8 "Fw_Version_Minor" 40,
    u8 "Fw_Version_Revision" 48, u8 "Fw_Version_Unreleased" 56]

def heartbeatMsg : MessageFormat where
  cmdId := 0x001
  msgLength := 8
  signals := [u32 "Axis_Error" 0, u8 "Axis_State" 32, u8 "Procedure_Result" 40,
    ⟨"Trajectory_Done_Flag", .uint8, 48, 1⟩]

def estopMsg : MessageFormat where
  cmdId := 0x002
  msgLength := 0
  signals := []

def getErrorMsg : MessageFormat where
  cmdId := 0x003
  msgLength := 8
  signals := [u32 "Active_Errors" 0, u32 "Disarm_Reason" 32]

def addressMsg : MessageFormat where
  cmdId := 0x006
  msgLength := 8
  signals := [u8 "Node_ID" 0, ⟨"Serial_Number", .uint64, 8, 48⟩]

def setAxisStateMsg : MessageFormat where
  cmdId := 0x007
  msgLength := 8
  signals := [u32 "Axis_Requested_State" 0]

def getEncoderEstimatesMsg : MessageFormat where
  cmdId := 0x009
  msgLength := 8
  signals := [f32 "Pos_Estimate" 0, f32 "Vel_Estimate" 32]

def setControllerModeMsg : MessageFormat where
  cmdId := 0x00B
  msgLength := 8
  signals := [u32 "Control_Mode" 0, u32 "Input_Mode" 32]

def setInputPosMsg : MessageFormat where
  cmdId := 0x00C
  msgLength := 8
  signals := [f32 "Input_Pos" 0, millis "Vel_FF" 32, millis "Torque_FF" 48]

def setInputVelMsg : MessageFormat where
  cmdId := 0x00D
  msgLength := 8
  signals := [f32 "Input_Vel" 0, f32 "Input_Torque_FF" 32]

def setInputTorqueMsg : MessageFormat where
  cmdId := 0x00E
  msgLength := 8
  signals := [f32 "Input_Torque" 0]

def setLimitsMsg : MessageFormat where
  cmdId := 0x00F
  msgLength := 8
  signals := [f32 "Velocity_Limit" 0, f32 "Current_Limit" 32]

def setTrajVelLimitMsg : MessageFormat where
  cmdId := 0x011
  msgLength := 8
  signals := [f32 "Traj_Vel_Limit" 0]

def setTrajAccelLimitsMsg : MessageFormat where
  cmdId := 0x012
  msgLength := 8
  signals := [f32 "Traj_Accel_Limit" 0, f32 "Traj_Decel_Limit" 32]

def setTrajInertiaMsg : MessageFormat where
  cmdId := 0x013
  msgLength := 8
  signals := [f32 "Traj_Inertia" 0]

def getIqMsg : MessageFormat where
  cmdId := 0x014
  msgLength := 8
  signals := [f32 "Iq_Setpoint" 0, f32 "Iq_Measured" 32]

def getTemperatureMsg : MessageFormat where
  cmdId := 0x015
  msgLength := 8
  signals := [f32 "FET_Temperature" 0, f32 "Motor_Temperature" 32]

def rebootMsg : MessageFormat where
  cmdId := 0x016
  msgLength := 1
  signals := [u8 "Action" 0]

def getBusVoltageCurrentMsg : MessageFormat where
  cmdId := 0x017
  msgLength := 8
  signals := [f32 "Bus_Voltage" 0, f32 "Bus_Current" 32]

def clearErrorsMsg : MessageFormat where
  cmdId := 0x018
  msgLength := 1
  signals := [u8 "Identify" 0]

def setAbsolutePositionMsg : MessageFormat where
  cmdId := 0x019
  msgLength := 8
  signals := [f32 "Position" 0]

def setPosGainMsg : MessageFormat where
  cmdId := 0x01A
  msgLength := 8
  signals := [f32 "Pos_Gain" 0]

def setVelGainsMsg : MessageFormat where
  cmdId := 0x01B
  msgLength := 8
  signals := [f32 "Vel_Gain" 0, f32 "Vel_Integrator_Gain" 32]

def getTorquesMsg : MessageFormat where
  cmdId := 0x01C
  msgLength := 8
  signals := [f32 "Torque_Target" 0, f32 "Torque_Estimate" 32]

def getPowersMsg : MessageFormat where
  cmdId := 0x01D
  msgLength := 8
  signals := [f32 "Electrical_Power" 0, f32 "Mechanical_Power" 32]

def enterDfuModeMsg : MessageFormat where
  cmdId := 0x01F
  msgLength := 0
  signals := []

end Formats

/-! ## The round trip -/

section RoundTrip

variable {unspecified : Binary32 → BitVec 16} {junk : ℕ → Word} {buf : Memory}
  {signals : List Signal}

/-- Signals that are written later lie above. -/
theorem get_encodeBuf_of_before {startBit length : ℕ} {t : SignalType}
    (hbefore : ∀ s ∈ signals, startBit + length ≤ s.startBit)
    (hfit : ∀ s ∈ signals, s.startBit + s.length ≤ 64) (c : Contents signals) :
    t.get (encodeBuf unspecified junk signals c buf) startBit length =
      t.get buf startBit length := by
  induction signals generalizing buf with
  | nil => rfl
  | cons s rest ih =>
      rw [encodeBuf, ih (fun r hr => hbefore r (List.mem_cons_of_mem s hr))
        (fun r hr => hfit r (List.mem_cons_of_mem s hr)),
        SignalType.get_set_of_before (hbefore s List.mem_cons_self) (hfit s List.mem_cons_self)]

/-- Signals that are written in ascending order are all read back. -/
theorem decodeBuf_encodeBuf
    (hord : signals.Pairwise fun s t => s.startBit + s.length ≤ t.startBit)
    (hfit : ∀ s ∈ signals, s.startBit + s.length ≤ 64) (c : Contents signals) :
    decodeBuf signals (encodeBuf unspecified junk signals c buf) =
      transmitted unspecified signals c := by
  induction signals generalizing buf with
  | nil => rfl
  | cons s rest ih =>
      obtain ⟨hbefore, hrest⟩ := List.pairwise_cons.mp hord
      have htail : ∀ r ∈ rest, r.startBit + r.length ≤ 64 :=
        fun r hr => hfit r (List.mem_cons_of_mem s hr)
      refine Prod.ext ?_ (ih hrest htail c.2)
      show s.type.get (encodeBuf unspecified junk rest c.2 _) s.startBit s.length = _
      rw [get_encodeBuf_of_before hbefore htail,
        SignalType.get_set (hfit s List.mem_cons_self)]
      rfl

/-- Decoding looks at the bytes of the payload only. -/
theorem decodeBuf_congr {buf' : Memory} {n : ℕ} (hn : n ≤ 8)
    (hwithin : ∀ s ∈ signals, s.startBit + s.length ≤ 8 * n) (h : ∀ j < n, buf j = buf' j) :
    decodeBuf signals buf = decodeBuf signals buf' := by
  induction signals with
  | nil => rfl
  | cons s rest ih =>
      have hs := hwithin s List.mem_cons_self
      refine Prod.ext ?_ (ih fun r hr => hwithin r (List.mem_cons_of_mem s hr))
      exact SignalType.get_congr (by omega) fun j hj => h j (by omega)

theorem transmitted_eq_iff (hsized : ∀ s ∈ signals, s.type.sizes s.length = true)
    (c : Contents signals) :
    transmitted unspecified signals c = c ↔ Carried unspecified signals c := by
  induction signals with
  | nil => exact iff_of_true rfl trivial
  | cons s rest ih =>
      have htail := ih (fun r hr => hsized r (List.mem_cons_of_mem s hr)) c.2
      rw [Carried, ← htail,
        ← SignalType.transmitted_eq_iff (hsized s List.mem_cons_self) c.1]
      exact Prod.ext_iff

namespace MessageFormat

variable (f : MessageFormat)

theorem fits : ∀ s ∈ f.signals, s.startBit + s.length ≤ 64 := by
  intro s hs
  have hwithin := f.within s hs
  have hlength := f.msgLength_le
  omega

/-- **What is decoded is what was encoded**, cut to the signals' lengths.  The payload's
bytes travel; behind them the receiver has bytes of its own. -/
theorem decodeBuf_payload {mem : Memory} (c : Contents f.signals)
    (h : ∀ j < f.msgLength, mem j = encodeBuf unspecified junk f.signals c buf j) :
    decodeBuf f.signals mem = transmitted unspecified f.signals c := by
  rw [decodeBuf_congr f.msgLength_le f.within h, decodeBuf_encodeBuf f.ascending f.fits]

/-- **A message survives the bus exactly when every member fits its signal.** -/
theorem decode_encode_eq_iff (unspecified : Binary32 → BitVec 16) (junk : ℕ → Word)
    (buf tail : Memory) (c : Contents f.signals) :
    decodeBuf f.signals (fun j => if j < f.msgLength then
      encodeBuf unspecified junk f.signals c buf j else tail j) = c ↔
      Carried unspecified f.signals c := by
  rw [f.decodeBuf_payload c fun j hj => if_pos hj, transmitted_eq_iff f.sized]

end MessageFormat

end RoundTrip

/-! ## The scaled signals -/

section Scaled

open Binary32

theorem milli_value : milli.value = .fin (8589935 / 2 ^ 33) := by
  have hunits : units 981668462 = 8589934 * 2 ^ 116 ∧ units 981668463 = 8589935 * 2 ^ 116 := by
    decide
  have hlow : grid.value 981668462 = 8589934 / 2 ^ 33 := by
    show (units 981668462 : ℚ) * tiny = _
    rw [hunits.1, tiny]
    norm_num
  have hhigh : grid.value 981668463 = 8589935 / 2 ^ 33 := by
    show (units 981668463 : ℚ) * tiny = _
    rw [hunits.2, tiny]
    norm_num
  have hfloor : grid.floor (1 / 1000) = 981668462 := by
    refine grid.floor_eq ?_ ?_
    · rw [hlow]
      norm_num
    · rw [hhigh]
      norm_num
  have hnearest : grid.nearest |(1 / 1000 : ℚ)| = 981668463 := by
    rw [abs_of_pos (by norm_num), Grid.nearest, hfloor, Grid.roundIn, hlow, hhigh]
    norm_num
  have hfinite : (981668463 : ℕ) < infinity := by decide
  rw [milli, value_round (by rw [hnearest]; exact hfinite), rounded, hnearest,
    decide_eq_false (by norm_num)]
  exact congrArg ExtRat.fin hhigh

theorem noOffset_value : noOffset.value = .fin 0 := by
  have hsmall : |(0 : ℚ)| ≤ tiny / 2 := by
    rw [abs_zero]
    exact (half_pos tiny_pos).le
  have hnearest : grid.nearest |(0 : ℚ)| < infinity :=
    nearest_lt_infinity (by rw [abs_zero]; exact magnitude_nonneg _)
  rw [noOffset, value_round hnearest, rounded_eq_zero_iff.mpr hsmall]

/-- Below `largest` the error of a conversion is relative, down to a bound of its own. -/
theorem abs_rounded_sub_le_of_le {q e : ℚ} (hq : |q| ≤ e * 2 ^ 24) (he : tiny ≤ e) :
    |rounded q - q| ≤ e := by
  refine (abs_rounded_sub_le q).trans (max_le ?_ ?_)
  · rw [div_le_iff₀ (by norm_num)]
    exact hq
  · linarith [tiny_pos]

theorem tiny_le : tiny ≤ 1 / 2 ^ 30 := by
  rw [tiny]
  norm_num

theorem le_largest : (2 ^ 24 : ℚ) ≤ largest := by
  rw [largest_eq]
  norm_num

/-- The integer that is sent for a value in range is its quotient by the factor, cut. -/
theorem abs_scaledVal_milli_sub_lt (unspecified : Binary32 → BitVec 16) {val : Binary32} {v : ℚ}
    (hval : val.value = .fin v) (hv : |v| ≤ 32767 / 1000) :
    |((scaledVal 16 unspecified val milli noOffset).toInt : ℚ) - v / (8589935 / 2 ^ 33)| <
      1 + 1 / 2 ^ 9 := by
  have htiny := tiny_le
  have hlargest := le_largest
  have hshift : (val - noOffset).value = .fin v := by
    rw [value_sub hval noOffset_value (by rw [sub_zero]; exact abs_le_largest hval), sub_zero,
      rounded_of_value hval]
  have hquot : |v / (8589935 / 2 ^ 33)| ≤ 32767 := by
    rw [abs_div, abs_of_pos (by norm_num : (0 : ℚ) < 8589935 / 2 ^ 33),
      div_le_iff₀ (by norm_num)]
    linarith
  have hscaled : ((val - noOffset) / milli).value = .fin (rounded (v / (8589935 / 2 ^ 33))) :=
    value_div hshift milli_value (by norm_num) (by linarith)
  have herror : |rounded (v / (8589935 / 2 ^ 33)) - v / (8589935 / 2 ^ 33)| ≤ 1 / 2 ^ 9 :=
    abs_rounded_sub_le_of_le (by linarith) (by linarith)
  generalize rounded (v / (8589935 / 2 ^ 33)) = x at hscaled herror
  obtain ⟨r, htrunc, hpart, hrx⟩ := exists_truncate hscaled
  have hr : |(r : ℚ)| ≤ 32767 + 1 / 2 ^ 9 := by
    have htriangle := abs_sub_abs_le_abs_sub x (v / (8589935 / 2 ^ 33))
    linarith
  have hrange : -2 ^ (16 - 1) ≤ r ∧ r < 2 ^ (16 - 1) := by
    rw [abs_le] at hr
    have hlow : ((-2 ^ 15 : ℤ) : ℚ) ≤ r := by push_cast; linarith
    have hhigh : (r : ℚ) < ((2 ^ 15 : ℤ) : ℚ) := by push_cast; linarith
    exact ⟨by exact_mod_cast hlow, by exact_mod_cast hhigh⟩
  have hcast : (scaledVal 16 unspecified val milli noOffset).toInt = r := by
    rw [scaledVal, castToSigned, htrunc]
    dsimp only
    rw [if_pos hrange, BitVec.toInt_ofInt]
    exact Int.bmod_eq_of_le (by omega) (by omega)
  rw [hcast]
  have htriangle := abs_sub_le (r : ℚ) x (v / (8589935 / 2 ^ 33))
  linarith

/-- What is received for an integer: its product with the factor, rounded. -/
theorem exists_unscaled_milli (raw : BitVec 16) :
    ∃ d, (unscaled raw milli noOffset).value = .fin d ∧
      |d - (raw.toInt : ℚ) * (8589935 / 2 ^ 33)| ≤ 1 / 2 ^ 17 := by
  have htiny := tiny_le
  have hlargest := le_largest
  have hraw : |(raw.toInt : ℚ)| ≤ 32768 := by
    have hlow : (-2 ^ 15 : ℤ) ≤ raw.toInt := raw.le_toInt
    have hhigh : raw.toInt < 2 ^ 15 := raw.toInt_lt
    rw [abs_le]
    constructor
    · exact_mod_cast hlow
    · exact_mod_cast hhigh.le
  have hint : (ofInt raw.toInt).value = .fin (rounded raw.toInt) :=
    value_round (nearest_lt_infinity (by linarith))
  have hintError : |rounded raw.toInt - raw.toInt| ≤ 1 / 2 ^ 9 :=
    abs_rounded_sub_le_of_le (by linarith) (by linarith)
  have hproduct : |rounded raw.toInt * (8589935 / 2 ^ 33)| ≤ 33 := by
    have htriangle := abs_sub_abs_le_abs_sub (rounded raw.toInt) raw.toInt
    rw [abs_mul, abs_of_pos (by norm_num : (0 : ℚ) < 8589935 / 2 ^ 33)]
    linarith
  have hmul : (ofInt raw.toInt * milli).value =
      .fin (rounded (rounded raw.toInt * (8589935 / 2 ^ 33))) :=
    value_mul hint milli_value (by linarith)
  have hmulError :
      |rounded (rounded raw.toInt * (8589935 / 2 ^ 33)) - rounded raw.toInt * (8589935 / 2 ^ 33)| ≤
        1 / 2 ^ 18 := abs_rounded_sub_le_of_le (by linarith) (by linarith)
  refine ⟨rounded (rounded raw.toInt * (8589935 / 2 ^ 33)), ?_, ?_⟩
  · rw [unscaled, value_add hmul noOffset_value
      (by rw [add_zero]; exact abs_le_largest hmul), add_zero, rounded_of_value hmul]
  · rw [abs_le] at hintError hmulError ⊢
    constructor <;> linarith

/-- **The resolution of a scaled signal**: up to 32.767 in magnitude a value is received
to less than 1.01 thousandths. -/
theorem abs_transmitted_milli_sub_lt (unspecified : Binary32 → BitVec 16) {val : Binary32} {v : ℚ}
    (hval : val.value = .fin v) (hv : |v| ≤ 32767 / 1000) :
    ∃ d, (unscaled (scaledVal 16 unspecified val milli noOffset) milli noOffset).value = .fin d ∧
      |d - v| < 101 / 100000 := by
  have hsent := abs_scaledVal_milli_sub_lt unspecified hval hv
  obtain ⟨d, hd, hreceived⟩ := exists_unscaled_milli (scaledVal 16 unspecified val milli noOffset)
  refine ⟨d, hd, ?_⟩
  have hcancel : v / (8589935 / 2 ^ 33) * (8589935 / 2 ^ 33) = v :=
    div_mul_cancel₀ v (by norm_num)
  rw [abs_lt] at hsent ⊢
  rw [abs_le] at hreceived
  constructor <;> linarith

end Scaled

end MarineHil.Ports
