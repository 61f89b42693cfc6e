import MarineHil.Verified.Run
import MarineHil.Ports.CanSimpleMessages

/-!
# `ODriveHardwareInterface`

The driver between `ros2_control` and the ODrives.  Controllers write setpoints
through exported pointers, and say by `perform_command_mode_switch` which of them
count; the driver commands each axis into the control mode of its primary input, and
sends one setpoint to it per cycle.  What the ODrives report is read from the bus.

A frame leaves with what the stack held wherever the message has no signal.
`active_` has no initialiser, so its first value is arbitrary.

## Main results

* `onInit_spec`: the axes as they are made, one for a joint.
* `setAxisCommandMode_eq`, `write_of_primary`: both follow the primary input.
* `getElem?_step`: an axis evolves by itself.
* `toNat_canId`, `address_frame`: which address and command a frame carries.
-/

namespace MarineHil.Ports

open Verified

/-- What the code takes from the machine: the conversions between `float` and `double`,
and the one from `float` to `int16_t` where it is not defined. -/
structure Platform (α : Type) where
  toFloat : α → Binary32
  ofFloat : Binary32 → α
  nan : α
  unspecified : Binary32 → BitVec 16

/-- `double` as rationals with infinities and NaN. -/
def Platform.ofExtRat (unspecified : Binary32 → BitVec 16) : Platform ExtRat where
  toFloat := Binary32.ofExt
  ofFloat := Binary32.value
  nan := .nan
  unspecified := unspecified

/-- What the stack holds when a frame is made: its data, and the union of each signal. -/
structure Scratch where
  data : Memory
  unions : ℕ → Word

structure CanFrame where
  canId : BitVec 32
  canDlc : ℕ
  data : Memory

/-- A message of one of the formats. -/
structure Message where
  format : MessageFormat
  contents : Contents format.signals

/-- A command of a controller, by the kind of the interface it goes through. -/
inductive Input where
  | position
  | velocity
  | effort
  deriving DecidableEq

/-- `hardware_interface::HW_IF_POSITION` and so on. -/
def Input.interface : Input → String
  | position => "position"
  | velocity => "velocity"
  | effort => "effort"

/-! ## The constants of `odrive_enums.h` -/

def axisStateIdle : BitVec 32 := 1
def axisStateClosedLoopControl : BitVec 32 := 8
def controlModeTorqueControl : BitVec 32 := 1
def controlModeVelocityControl : BitVec 32 := 2
def controlModePositionControl : BitVec 32 := 3
def inputModePassthrough : BitVec 32 := 1

/-! ## The messages of the driver, by their members -/

def setAxisState (requestedState : BitVec 32) : Contents setAxisStateMsg.signals :=
  (requestedState, ())

def setControllerMode (controlMode inputMode : BitVec 32) : Contents setControllerModeMsg.signals :=
  (controlMode, inputMode, ())

def clearErrors (identify : BitVec 8) : Contents clearErrorsMsg.signals := (identify, ())

def setInputPos (inputPos velFF torqueFF : Binary32) : Contents setInputPosMsg.signals :=
  (inputPos, velFF, torqueFF, ())

def setInputVel (inputVel inputTorqueFF : Binary32) : Contents setInputVelMsg.signals :=
  (inputVel, inputTorqueFF, ())

def setInputTorque (inputTorque : Binary32) : Contents setInputTorqueMsg.signals :=
  (inputTorque, ())

def getTorques (torqueTarget torqueEstimate : Binary32) : Contents getTorquesMsg.signals :=
  (torqueTarget, torqueEstimate, ())

/-- `Axis_Requested_State`. -/
def axisRequestedState (c : Contents setAxisStateMsg.signals) : BitVec 32 := c.1

/-- `Control_Mode` and `Input_Mode`. -/
def modes (c : Contents setControllerModeMsg.signals) : BitVec 32 × BitVec 32 := (c.1, c.2.1)

/-- `Input_Pos`, `Vel_FF` and `Torque_FF`. -/
def posInputs (c : Contents setInputPosMsg.signals) : Binary32 × Binary32 × Binary32 :=
  (c.1, c.2.1, c.2.2.1)

/-- `Input_Vel` and `Input_Torque_FF`. -/
def velInputs (c : Contents setInputVelMsg.signals) : Binary32 × Binary32 := (c.1, c.2.1)

/-- `Input_Torque`. -/
def torqueInput (c : Contents setInputTorqueMsg.signals) : Binary32 := c.1

/-- `Pos_Estimate` and `Vel_Estimate`. -/
def estimates (c : Contents getEncoderEstimatesMsg.signals) : Binary32 × Binary32 := (c.1, c.2.1)

/-- `Torque_Target` and `Torque_Estimate`. -/
def torques (c : Contents getTorquesMsg.signals) : Binary32 × Binary32 := (c.1, c.2.1)

/-- `Electrical_Power` and `Mechanical_Power`. -/
def powers (c : Contents getPowersMsg.signals) : Binary32 × Binary32 := (c.1, c.2.1)

/-! ## An axis -/

/-- An axis, with the name of the joint it was made for. -/
structure Axis (α : Type) where
  joint : String
  nodeId : BitVec 32
  posSetpoint : α
  velSetpoint : α
  torqueSetpoint : α
  posEstimate : α
  velEstimate : α
  torqueTarget : α
  torqueEstimate : α
  electricalPower : α
  mechanicalPower : α
  posInputEnabled : Bool
  velInputEnabled : Bool
  torqueInputEnabled : Bool

section Code

variable {α : Type} [Double α]

/-- `2 * M_PI`. -/
def twoPi : α := lit 2 * lit (884279719003555 / 281474976710656)

namespace Axis

def make (m : Platform α) (joint : String) (nodeId : BitVec 32) : Axis α where
  joint := joint
  nodeId := nodeId
  posSetpoint := 0
  velSetpoint := 0
  torqueSetpoint := 0
  posEstimate := m.nan
  velEstimate := m.nan
  torqueTarget := m.nan
  torqueEstimate := m.nan
  electricalPower := m.nan
  mechanicalPower := m.nan
  posInputEnabled := false
  velInputEnabled := false
  torqueInputEnabled := false

/-- The frame that `send` makes of a message. -/
def frame (m : Platform α) (scratch : Scratch) (nodeId : BitVec 32) (msg : Message) : CanFrame where
  canId := nodeId <<< 5 ||| BitVec.ofNat 32 msg.format.cmdId
  canDlc := msg.format.msgLength
  data := encodeBuf m.unspecified scratch.unions msg.format.signals msg.contents scratch.data

def setInputEnabled (a : Axis α) (k : Input) (value : Bool) : Axis α :=
  match k with
  | .position => { a with posInputEnabled := value }
  | .velocity => { a with velInputEnabled := value }
  | .effort => { a with torqueInputEnabled := value }

/-- A write through an exported command interface. -/
def setSetpoint (a : Axis α) (k : Input) (x : α) : Axis α :=
  match k with
  | .position => { a with posSetpoint := x }
  | .velocity => { a with velSetpoint := x }
  | .effort => { a with torqueSetpoint := x }

/-- The keys of an axis, and the flags they stand for. -/
def interfaces (a : Axis α) : List (String × Input) :=
  [.position, .velocity, .effort].map fun k : Input => (a.joint ++ "/" ++ k.interface, k)

/-- The inner loop of `perform_command_mode_switch`, with its `mode_switch`. -/
def applyKey (value : Bool) (s : Axis α × Bool) (key : String) : Axis α × Bool :=
  s.1.interfaces.foldl
    (fun t kv => if kv.1 = key then (t.1.setInputEnabled kv.2 value, true) else t) s

/-- What is stopped first, and then what is started. -/
def switchInputs (a : Axis α) (startInterfaces stopInterfaces : List String) : Axis α × Bool :=
  startInterfaces.foldl (applyKey true) (stopInterfaces.foldl (applyKey false) (a, false))

def setAxisCommandMode (active : Bool) (a : Axis α) : List Message :=
  if active then
    if a.posInputEnabled then engage controlModePositionControl
    else if a.velInputEnabled then engage controlModeVelocityControl
    else if a.torqueInputEnabled then engage controlModeTorqueControl
    else [⟨setAxisStateMsg, setAxisState axisStateIdle⟩]
  else [⟨setAxisStateMsg, setAxisState axisStateIdle⟩]
where
  engage (mode : BitVec 32) : List Message :=
    [⟨setControllerModeMsg, setControllerMode mode inputModePassthrough⟩,
      ⟨clearErrorsMsg, clearErrors 0⟩,
      ⟨setAxisStateMsg, setAxisState axisStateClosedLoopControl⟩]

/-- The body of the loop of `write`. -/
def write (m : Platform α) (a : Axis α) : List Message :=
  if a.posInputEnabled then
    [⟨setInputPosMsg, setInputPos (m.toFloat (a.posSetpoint / twoPi))
      (m.toFloat (if a.velInputEnabled then a.velSetpoint / twoPi else 0))
      (m.toFloat (if a.torqueInputEnabled then a.torqueSetpoint else 0))⟩]
  else if a.velInputEnabled then
    [⟨setInputVelMsg, setInputVel (m.toFloat (a.velSetpoint / twoPi))
      (m.toFloat (if a.torqueInputEnabled then a.torqueSetpoint else 0))⟩]
  else if a.torqueInputEnabled then
    [⟨setInputTorqueMsg, setInputTorque (m.toFloat a.torqueSetpoint)⟩]
  else []

/-- `try_decode`. -/
def tryDecode (f : MessageFormat) (frame : CanFrame) : Option (Contents f.signals) :=
  if frame.canDlc < f.msgLength then none else some (decodeBuf f.signals frame.data)

/-- The command of a frame. -/
def cmd (frame : CanFrame) : ℕ := (frame.canId &&& 0x1f#32).toNat

def onCanMsg (m : Platform α) (a : Axis α) (frame : CanFrame) : Axis α :=
  if cmd frame = getEncoderEstimatesMsg.cmdId then
    match tryDecode getEncoderEstimatesMsg frame with
    | some msg =>
        { a with
          posEstimate := m.ofFloat (estimates msg).1 * twoPi
          velEstimate := m.ofFloat (estimates msg).2 * twoPi }
    | none => a
  else if cmd frame = getTorquesMsg.cmdId then
    match tryDecode getTorquesMsg frame with
    | some msg =>
        { a with
          torqueTarget := m.ofFloat (torques msg).1
          torqueEstimate := m.ofFloat (torques msg).2 }
    | none => a
  else if cmd frame = getPowersMsg.cmdId then
    match tryDecode getPowersMsg frame with
    | some msg =>
        { a with
          electricalPower := m.ofFloat (powers msg).1
          mechanicalPower := m.ofFloat (powers msg).2 }
    | none => a
  else a

/-- The body of the loop over the axes that each frame goes through. -/
def dispatch (m : Platform α) (a : Axis α) (frame : CanFrame) : Axis α :=
  if frame.canId >>> 5 = a.nodeId then a.onCanMsg m frame else a

end Axis

/-! ## The interface -/

/-- `std::isspace`. -/
def isSpace (c : Char) : Bool := c = ' ' || (9 ≤ c.toNat && c.toNat ≤ 13)

/-- The number at the start of a text, if a digit is there. -/
def leadingNumber (cs : List Char) : Option ℕ :=
  match cs.takeWhile Char.isDigit with
  | [] => none
  | ds => some (ds.foldl (fun n c => 10 * n + (c.toNat - 48)) 0)

/-- `std::stoi`, which throws where there is no number or it is no `int`. -/
def stoi (s : String) : Option ℤ :=
  (match s.toList.dropWhile isSpace with
    | '-' :: cs => (leadingNumber cs).map fun n => -(n : ℤ)
    | '+' :: cs => (leadingNumber cs).map fun n => (n : ℤ)
    | cs => (leadingNumber cs).map fun n => (n : ℤ)).filter fun i => -2 ^ 31 ≤ i ∧ i < 2 ^ 31

theorem stoi_range {s : String} {i : ℤ} (h : stoi s = some i) : -2 ^ 31 ≤ i ∧ i < 2 ^ 31 :=
  of_decide_eq_true (Option.filter_eq_some_iff.mp h).2

/-- A joint of the robot description. -/
structure JointInfo where
  name : String
  parameters : List (String × String)

structure ODriveHardwareInterface (α : Type) where
  active : Bool
  axes : List (Axis α)

/-- A message and the axis it is for. -/
structure Transmission where
  nodeId : BitVec 32
  message : Message

/-- What `ros2_control` asks of the driver, a controller's write to a setpoint, and a read
with the frames that wait on the socket. -/
inductive ODriveEvent (α : Type) where
  | activate
  | deactivate
  | switch (startInterfaces stopInterfaces : List String)
  | command (i : ℕ) (k : Input) (x : α)
  | read (frames : List CanFrame)
  | write

namespace ODriveHardwareInterface

/-- `std::stoi(joint.parameters.at("node_id"))`, where it does not throw. -/
def axisOfJoint (m : Platform α) (joint : JointInfo) : Option (Axis α) :=
  ((joint.parameters.lookup "node_id").bind stoi).map fun i =>
    Axis.make m joint.name (BitVec.ofInt 32 i)

/-- `on_init`, with the value that `active_` happens to have. -/
def onInit (m : Platform α) (active : Bool) (joints : List JointInfo) :
    Option (ODriveHardwareInterface α) :=
  (joints.mapM (axisOfJoint m)).map fun axes => ⟨active, axes⟩

/-- `on_can_msg`. -/
def onCanMsg (m : Platform α) (s : ODriveHardwareInterface α) (frame : CanFrame) :
    ODriveHardwareInterface α :=
  { s with axes := s.axes.map fun a => a.dispatch m frame }

/-- The state after an event. -/
def step (m : Platform α) (s : ODriveHardwareInterface α) :
    ODriveEvent α → ODriveHardwareInterface α
  | .activate => { s with active := true }
  | .deactivate => { s with active := false }
  | .switch startInterfaces stopInterfaces =>
      { s with axes := s.axes.map fun a => (a.switchInputs startInterfaces stopInterfaces).1 }
  | .command i k x => { s with axes := s.axes.modify i fun a => a.setSetpoint k x }
  | .read frames => frames.foldl (onCanMsg m) s
  | .write => s

/-- The messages that an axis is sent in an event. -/
def axisMessages (m : Platform α) (active : Bool) (a : Axis α) : ODriveEvent α → List Message
  | .activate => a.setAxisCommandMode true
  | .deactivate => a.setAxisCommandMode false
  | .switch startInterfaces stopInterfaces =>
      if (a.switchInputs startInterfaces stopInterfaces).2 then
        (a.switchInputs startInterfaces stopInterfaces).1.setAxisCommandMode active
      else []
  | .command _ _ _ => []
  | .read _ => []
  | .write => a.write m

/-- What is sent in an event, axis by axis. -/
def sends (m : Platform α) (s : ODriveHardwareInterface α) (e : ODriveEvent α) :
    List Transmission :=
  s.axes.flatMap fun a => (axisMessages m s.active a e).map fun msg => ⟨a.nodeId, msg⟩

end ODriveHardwareInterface

end Code

/-! ## Inputs and flags -/

namespace Axis

variable {α : Type}

def enabled (a : Axis α) : Input → Bool
  | .position => a.posInputEnabled
  | .velocity => a.velInputEnabled
  | .effort => a.torqueInputEnabled

def setpoint (a : Axis α) : Input → α
  | .position => a.posSetpoint
  | .velocity => a.velSetpoint
  | .effort => a.torqueSetpoint

def key (a : Axis α) (k : Input) : String := a.joint ++ "/" ++ k.interface

/-- The input that the others are feedforward terms to. -/
def primary (a : Axis α) : Option Input :=
  if a.posInputEnabled then some .position
  else if a.velInputEnabled then some .velocity
  else if a.torqueInputEnabled then some .effort
  else none

/-- Everything but the flags is the same. -/
def SameButFlags (a b : Axis α) : Prop :=
  b = { a with
    posInputEnabled := b.posInputEnabled
    velInputEnabled := b.velInputEnabled
    torqueInputEnabled := b.torqueInputEnabled }

variable {a b c : Axis α} {k l : Input}

@[simp] theorem enabled_setInputEnabled (a : Axis α) (k l : Input) (value : Bool) :
    (a.setInputEnabled k value).enabled l = if k = l then value else a.enabled l := by
  cases k <;> cases l <;> rfl

@[simp] theorem enabled_setSetpoint (a : Axis α) (k l : Input) (x : α) :
    (a.setSetpoint k x).enabled l = a.enabled l := by
  cases k <;> cases l <;> rfl

@[simp] theorem setpoint_setSetpoint (a : Axis α) (k l : Input) (x : α) :
    (a.setSetpoint k x).setpoint l = if k = l then x else a.setpoint l := by
  cases k <;> cases l <;> rfl

@[simp] theorem nodeId_setSetpoint (a : Axis α) (k : Input) (x : α) :
    (a.setSetpoint k x).nodeId = a.nodeId := by
  cases k <;> rfl

@[simp] theorem joint_setSetpoint (a : Axis α) (k : Input) (x : α) :
    (a.setSetpoint k x).joint = a.joint := by
  cases k <;> rfl

theorem SameButFlags.refl (a : Axis α) : a.SameButFlags a := rfl

theorem SameButFlags.trans (hab : a.SameButFlags b) (hbc : b.SameButFlags c) :
    a.SameButFlags c := by
  unfold SameButFlags at *
  rw [hbc, hab]

theorem sameButFlags_setInputEnabled (a : Axis α) (k : Input) (value : Bool) :
    a.SameButFlags (a.setInputEnabled k value) := by
  cases k <;> rfl

theorem SameButFlags.joint (h : a.SameButFlags b) : b.joint = a.joint := by
  rw [h]

theorem SameButFlags.nodeId (h : a.SameButFlags b) : b.nodeId = a.nodeId := by
  rw [h]

theorem SameButFlags.key (h : a.SameButFlags b) (k : Input) : b.key k = a.key k := by
  rw [Axis.key, Axis.key, h.joint]

theorem SameButFlags.setpoint (h : a.SameButFlags b) (k : Input) : b.setpoint k = a.setpoint k := by
  rw [h]
  cases k <;> rfl

theorem SameButFlags.eq (h : a.SameButFlags b) (hflags : ∀ k, b.enabled k = a.enabled k) :
    b = a := by
  have hpos : b.posInputEnabled = a.posInputEnabled := hflags .position
  have hvel : b.velInputEnabled = a.velInputEnabled := hflags .velocity
  have htorque : b.torqueInputEnabled = a.torqueInputEnabled := hflags .effort
  rw [h, hpos, hvel, htorque]

theorem key_injective (a : Axis α) : Function.Injective a.key := by
  intro k l h
  have hname : k.interface = l.interface := (String.append_right_inj _).mp h
  cases k <;> cases l <;> first | rfl | exact absurd hname (by decide)

/-- A key of the axis sets its flag. -/
theorem applyKey_key (value : Bool) (s : Axis α × Bool) (k : Input) :
    applyKey value s (s.1.key k) = (s.1.setInputEnabled k value, true) := by
  have hkey (l : Input) : s.1.key l = s.1.key k ↔ l = k := s.1.key_injective.eq_iff
  show ([Input.position, .velocity, .effort].map fun l => (s.1.key l, l)).foldl _ s = _
  cases k <;> simp [hkey]

/-- Any other key sets nothing. -/
theorem applyKey_of_ne {value : Bool} {s : Axis α × Bool} {key : String}
    (h : ∀ k, s.1.key k ≠ key) : applyKey value s key = s := by
  show ([Input.position, .velocity, .effort].map fun l => (s.1.key l, l)).foldl _ s = _
  simp [h]

/-- A list of keys: the flags that it names are set, if there are any. -/
theorem foldl_applyKey_spec (value : Bool) (keys : List String) (s : Axis α × Bool) :
    s.1.SameButFlags (keys.foldl (applyKey value) s).1 ∧
      (∀ k, (keys.foldl (applyKey value) s).1.enabled k =
        if s.1.key k ∈ keys then value else s.1.enabled k) ∧
      ((keys.foldl (applyKey value) s).2 = true ↔ s.2 = true ∨ ∃ k, s.1.key k ∈ keys) := by
  induction keys generalizing s with
  | nil => simp [SameButFlags.refl]
  | cons key keys ih =>
      obtain ⟨hsame, hflags, hswitch⟩ := ih (applyKey value s key)
      rw [List.foldl_cons]
      by_cases hkey : ∃ l, s.1.key l = key
      · obtain ⟨l, rfl⟩ := hkey
        rw [applyKey_key] at hsame hflags hswitch ⊢
        have hset := sameButFlags_setInputEnabled s.1 l value
        refine ⟨hset.trans hsame, fun k => ?_, ?_⟩
        · rw [hflags, hset.key, enabled_setInputEnabled]
          have hk : s.1.key k = s.1.key l ↔ l = k := s.1.key_injective.eq_iff.trans eq_comm
          simp only [List.mem_cons, hk]
          by_cases hl : l = k
          · rw [if_pos hl, ite_self, if_pos (Or.inl hl)]
          · simp only [hl, if_false, false_or]
        · rw [hswitch]
          exact iff_of_true (Or.inl rfl) (Or.inr ⟨l, List.mem_cons_self⟩)
      · have hne : ∀ k, s.1.key k ≠ key := fun k hk => hkey ⟨k, hk⟩
        rw [applyKey_of_ne hne] at hsame hflags hswitch ⊢
        refine ⟨hsame, fun k => ?_, ?_⟩
        · rw [hflags]
          simp only [List.mem_cons, hne k, false_or]
        · rw [hswitch]
          simp [hne]

/-- **A mode switch**: what is started beats what is stopped, and nothing else changes. -/
theorem switchInputs_spec (a : Axis α) (startInterfaces stopInterfaces : List String) :
    a.SameButFlags (a.switchInputs startInterfaces stopInterfaces).1 ∧
      (∀ k, (a.switchInputs startInterfaces stopInterfaces).1.enabled k =
        if a.key k ∈ startInterfaces then true
        else if a.key k ∈ stopInterfaces then false
        else a.enabled k) ∧
      ((a.switchInputs startInterfaces stopInterfaces).2 = true ↔
        ∃ k, a.key k ∈ startInterfaces ∨ a.key k ∈ stopInterfaces) := by
  obtain ⟨hstop, hstopFlags, hstopSwitch⟩ := foldl_applyKey_spec false stopInterfaces (a, false)
  obtain ⟨hstart, hstartFlags, hstartSwitch⟩ := foldl_applyKey_spec true startInterfaces
    (stopInterfaces.foldl (applyKey false) (a, false))
  refine ⟨hstop.trans hstart, fun k => ?_, ?_⟩
  · rw [switchInputs, hstartFlags, hstop.key, hstopFlags]
  · rw [switchInputs, hstartSwitch, hstopSwitch]
    simp only [hstop.key, Bool.false_eq_true, false_or]
    rw [← exists_or]
    simp only [or_comm]

/-- Where no key is matched nothing changes. -/
theorem switchInputs_eq_self {a : Axis α} {startInterfaces stopInterfaces : List String}
    (h : (a.switchInputs startInterfaces stopInterfaces).2 = false) :
    (a.switchInputs startInterfaces stopInterfaces).1 = a := by
  obtain ⟨hsame, hflags, hswitch⟩ := a.switchInputs_spec startInterfaces stopInterfaces
  refine hsame.eq fun k => ?_
  have hnone : ¬(a.key k ∈ startInterfaces ∨ a.key k ∈ stopInterfaces) := by
    intro hk
    rw [hswitch.mpr ⟨k, hk⟩] at h
    exact Bool.false_ne_true h.symm
  rw [not_or] at hnone
  rw [hflags, if_neg hnone.1, if_neg hnone.2]

/-! ## Messages -/

/-- The input that an axis is commanded to follow. -/
def commanded (active : Bool) (a : Axis α) : Option Input := if active then a.primary else none

theorem commanded_of_enabled {active : Bool} (h : ∀ k, a.enabled k = b.enabled k) :
    a.commanded active = b.commanded active := by
  have hpos : a.posInputEnabled = b.posInputEnabled := h .position
  have hvel : a.velInputEnabled = b.velInputEnabled := h .velocity
  have htorque : a.torqueInputEnabled = b.torqueInputEnabled := h .effort
  rw [commanded, commanded, primary, primary, hpos, hvel, htorque]

/-- The primary input is the first that is enabled. -/
theorem primary_eq_find (a : Axis α) :
    a.primary = [Input.position, .velocity, .effort].find? a.enabled := by
  unfold primary
  cases hpos : a.posInputEnabled <;> cases hvel : a.velInputEnabled <;>
    cases htorque : a.torqueInputEnabled <;> simp [enabled, hpos, hvel, htorque]

theorem primary_eq_none_iff : a.primary = none ↔ ∀ k, a.enabled k = false := by
  constructor
  · intro h
    unfold primary at h
    split_ifs at h with hpos hvel htorque
    intro k
    cases k
    · exact Bool.eq_false_of_not_eq_true hpos
    · exact Bool.eq_false_of_not_eq_true hvel
    · exact Bool.eq_false_of_not_eq_true htorque
  · intro h
    have hpos : a.posInputEnabled = false := h .position
    have hvel : a.velInputEnabled = false := h .velocity
    have htorque : a.torqueInputEnabled = false := h .effort
    rw [primary, hpos, hvel, htorque]
    rfl

end Axis

/-- The control mode of an input. -/
def Input.controlMode : Input → BitVec 32
  | .position => controlModePositionControl
  | .velocity => controlModeVelocityControl
  | .effort => controlModeTorqueControl

/-- The format of the setpoints of an input. -/
def Input.setpointMsg : Input → MessageFormat
  | .position => setInputPosMsg
  | .velocity => setInputVelMsg
  | .effort => setInputTorqueMsg

namespace Axis

variable {α : Type}

theorem setAxisCommandMode_eq (active : Bool) (a : Axis α) :
    a.setAxisCommandMode active =
      match a.commanded active with
      | some k => setAxisCommandMode.engage k.controlMode
      | none => [⟨setAxisStateMsg, setAxisState axisStateIdle⟩] := by
  unfold setAxisCommandMode commanded primary
  split_ifs <;> rfl

/-- One setpoint is sent, in the format of the primary input. -/
theorem write_of_primary [Double α] (m : Platform α) {a : Axis α} {k : Input}
    (h : a.primary = some k) : ∃ c, a.write m = [⟨k.setpointMsg, c⟩] := by
  unfold primary at h
  split_ifs at h with hpos hvel htorque
  · obtain rfl := Option.some.inj h
    exact ⟨_, if_pos hpos⟩
  · obtain rfl := Option.some.inj h
    exact ⟨_, (if_neg hpos).trans (if_pos hvel)⟩
  · obtain rfl := Option.some.inj h
    exact ⟨_, (if_neg hpos).trans ((if_neg hvel).trans (if_pos htorque))⟩

theorem write_of_not_primary [Double α] (m : Platform α) {a : Axis α} (h : a.primary = none) :
    a.write m = [] := by
  have hflags := primary_eq_none_iff.mp h
  have hpos : a.posInputEnabled = false := hflags .position
  have hvel : a.velInputEnabled = false := hflags .velocity
  have htorque : a.torqueInputEnabled = false := hflags .effort
  rw [write, hpos, hvel, htorque]
  rfl

/-! ## Addresses -/

/-- The address of a node on the bus: the shift drops the high bits of its id. -/
def busId (nodeId : BitVec 32) : ℕ := nodeId.toNat % 2 ^ 27

/-- The identifier of a frame holds the address above the command. -/
theorem toNat_canId (m : Platform α) (scratch : Scratch) (nodeId : BitVec 32) (msg : Message) :
    (frame m scratch nodeId msg).canId.toNat = 2 ^ 5 * busId nodeId + msg.format.cmdId := by
  have hcmd := msg.format.cmdId_lt
  have hnode : (nodeId <<< 5).toNat = busId nodeId <<< 5 := by
    rw [BitVec.toNat_shiftLeft, Nat.shiftLeft_eq, Nat.shiftLeft_eq, busId]
    omega
  have hcmdNat : (BitVec.ofNat 32 msg.format.cmdId).toNat = msg.format.cmdId := by
    rw [BitVec.toNat_ofNat]
    omega
  rw [frame, BitVec.toNat_or, hnode, hcmdNat, ← Nat.shiftLeft_add_eq_or_of_lt hcmd,
    Nat.shiftLeft_eq, Nat.mul_comm]

theorem cmd_eq (f : CanFrame) : cmd f = f.canId.toNat % 2 ^ 5 := by
  rw [cmd, BitVec.toNat_and]
  exact Nat.and_two_pow_sub_one_eq_mod _ 5

theorem cmd_frame (m : Platform α) (scratch : Scratch) (nodeId : BitVec 32) (msg : Message) :
    cmd (frame m scratch nodeId msg) = msg.format.cmdId := by
  have hcmd := msg.format.cmdId_lt
  rw [cmd_eq, toNat_canId]
  omega

/-- The address of a frame. -/
def address (f : CanFrame) : ℕ := (f.canId >>> 5).toNat

theorem address_frame (m : Platform α) (scratch : Scratch) (nodeId : BitVec 32) (msg : Message) :
    address (frame m scratch nodeId msg) = busId nodeId := by
  have hcmd := msg.format.cmdId_lt
  rw [address, BitVec.toNat_ushiftRight, toNat_canId, Nat.shiftRight_eq_div_pow]
  omega

/-- An axis takes the frames of its address, if its id fits one. -/
theorem ushiftRight_eq_iff {f : CanFrame} {nodeId : BitVec 32} :
    f.canId >>> 5 = nodeId ↔ address f = nodeId.toNat := BitVec.toNat_inj.symm

end Axis

/-! ## What a frame changes -/

namespace Axis

variable {α : Type} [Double α] {m : Platform α} {a b c : Axis α}

/-- Everything but the estimates is the same. -/
def SameButEstimates (a b : Axis α) : Prop :=
  b = { a with
    posEstimate := b.posEstimate
    velEstimate := b.velEstimate
    torqueTarget := b.torqueTarget
    torqueEstimate := b.torqueEstimate
    electricalPower := b.electricalPower
    mechanicalPower := b.mechanicalPower }

omit [Double α] in
theorem SameButEstimates.trans (hab : a.SameButEstimates b) (hbc : b.SameButEstimates c) :
    a.SameButEstimates c := by
  unfold SameButEstimates at *
  rw [hbc, hab]

theorem sameButEstimates_dispatch (m : Platform α) (a : Axis α) (f : CanFrame) :
    a.SameButEstimates (a.dispatch m f) := by
  unfold dispatch onCanMsg
  split_ifs
  · split <;> rfl
  · split <;> rfl
  · split <;> rfl
  · rfl
  · rfl

theorem sameButEstimates_foldl (m : Platform α) (a : Axis α) (frames : List CanFrame) :
    a.SameButEstimates (frames.foldl (dispatch m) a) := by
  induction frames generalizing a with
  | nil => rfl
  | cons f frames ih => exact (sameButEstimates_dispatch m a f).trans (ih _)

end Axis

namespace ODriveHardwareInterface

open Axis

variable {α : Type} [Double α] {m : Platform α}

/-- What an event does to the `i`-th axis. -/
def axisStep (m : Platform α) (i : ℕ) (a : Axis α) : ODriveEvent α → Axis α
  | .switch startInterfaces stopInterfaces => (a.switchInputs startInterfaces stopInterfaces).1
  | .command j k x => if j = i then a.setSetpoint k x else a
  | .read frames => frames.foldl (dispatch m) a
  | _ => a

theorem getElem?_foldl_onCanMsg (s : ODriveHardwareInterface α) (frames : List CanFrame) (i : ℕ) :
    (frames.foldl (onCanMsg m) s).axes[i]? =
      s.axes[i]?.map fun a => frames.foldl (dispatch m) a := by
  induction frames generalizing s with
  | nil => exact Option.map_id'.symm
  | cons f frames ih =>
      rw [List.foldl_cons, ih, onCanMsg, List.getElem?_map, Option.map_map]
      rfl

theorem active_foldl_onCanMsg (s : ODriveHardwareInterface α) (frames : List CanFrame) :
    (frames.foldl (onCanMsg m) s).active = s.active := by
  induction frames generalizing s with
  | nil => rfl
  | cons f frames ih => exact ih _

/-- **An axis evolves by itself.** -/
theorem getElem?_step (s : ODriveHardwareInterface α) (e : ODriveEvent α) (i : ℕ) :
    (step m s e).axes[i]? = s.axes[i]?.map fun a => axisStep m i a e := by
  cases e with
  | activate => exact Option.map_id'.symm
  | deactivate => exact Option.map_id'.symm
  | switch startInterfaces stopInterfaces => exact List.getElem?_map
  | command j k x =>
      show (s.axes.modify j _)[i]? = _
      rw [List.getElem?_modify]
      rfl
  | read frames => exact getElem?_foldl_onCanMsg s frames i
  | write => exact Option.map_id'.symm

/-- The axes as they are made. -/
theorem onInit_spec {active : Bool} {joints : List JointInfo} {s : ODriveHardwareInterface α}
    (h : onInit m active joints = some s) :
    s.active = active ∧
      List.Forall₂ (fun joint a => axisOfJoint m joint = some a) joints s.axes := by
  rw [onInit, Option.map_eq_some_iff] at h
  obtain ⟨axes, haxes, rfl⟩ := h
  refine ⟨rfl, ?_⟩
  show List.Forall₂ _ joints axes
  induction joints generalizing axes with
  | nil =>
      obtain rfl : [] = axes := Option.some.inj haxes
      exact List.Forall₂.nil
  | cons joint joints ih =>
      rw [List.mapM_cons] at haxes
      obtain ⟨a, ha, htail⟩ := Option.bind_eq_some_iff.mp haxes
      obtain ⟨rest, hrest, hcons⟩ := Option.bind_eq_some_iff.mp htail
      obtain rfl : a :: rest = axes := Option.some.inj hcons
      exact List.Forall₂.cons ha (ih rest hrest)

theorem axisOfJoint_of_onInit {active : Bool} {joints : List JointInfo}
    {s : ODriveHardwareInterface α} (h : onInit m active joints = some s) {i : ℕ} {a : Axis α}
    (ha : s.axes[i]? = some a) :
    ∃ joint, joints[i]? = some joint ∧ axisOfJoint m joint = some a := by
  obtain ⟨_, haxes⟩ := onInit_spec h
  obtain ⟨hi, rfl⟩ := List.getElem?_eq_some_iff.mp ha
  have hlt : i < joints.length := haxes.length_eq ▸ hi
  exact ⟨joints[i], List.getElem?_eq_getElem hlt, (List.forall₂_iff_get.mp haxes).2 i hlt hi⟩

/-- An axis as it is made: no input is enabled, no setpoint given, nothing heard. -/
theorem exists_make_of_onInit {active : Bool} {joints : List JointInfo}
    {s : ODriveHardwareInterface α} (h : onInit m active joints = some s) {i : ℕ} {a : Axis α}
    (ha : s.axes[i]? = some a) : ∃ joint nodeId, a = make m joint nodeId := by
  obtain ⟨joint, _, hjoint⟩ := axisOfJoint_of_onInit h ha
  obtain ⟨nodeId, _, hmake⟩ := Option.map_eq_some_iff.mp hjoint
  exact ⟨joint.name, _, hmake.symm⟩

/-- What is enabled or disabled by name in an event. -/
def keyChange (key : String) : ODriveEvent α → Option Bool
  | .switch startInterfaces stopInterfaces =>
      if key ∈ startInterfaces then some true
      else if key ∈ stopInterfaces then some false
      else none
  | _ => none

/-- What an event does to an axis, field by field. -/
theorem axisStep_spec (i : ℕ) (a : Axis α) (e : ODriveEvent α) :
    (axisStep m i a e).joint = a.joint ∧ (axisStep m i a e).nodeId = a.nodeId ∧
      ∀ k, (axisStep m i a e).enabled k = (keyChange (a.key k) e).getD (a.enabled k) := by
  cases e with
  | activate => exact ⟨rfl, rfl, fun _ => rfl⟩
  | deactivate => exact ⟨rfl, rfl, fun _ => rfl⟩
  | switch startInterfaces stopInterfaces =>
      obtain ⟨hsame, hflags, _⟩ := a.switchInputs_spec startInterfaces stopInterfaces
      refine ⟨hsame.joint, hsame.nodeId, fun k => (hflags k).trans ?_⟩
      rw [keyChange]
      split_ifs <;> rfl
  | command j k x =>
      simp only [axisStep]
      split_ifs
      · exact ⟨a.joint_setSetpoint k x, a.nodeId_setSetpoint k x,
          fun l => a.enabled_setSetpoint k l x⟩
      · exact ⟨rfl, rfl, fun _ => rfl⟩
  | read frames =>
      have hsame : a.SameButEstimates (axisStep m i a (.read frames)) :=
        sameButEstimates_foldl m a frames
      rw [hsame]
      exact ⟨rfl, rfl, fun k => by cases k <;> rfl⟩
  | write => exact ⟨rfl, rfl, fun _ => rfl⟩

/-- The nodes of the axes never change. -/
theorem map_nodeId_step (s : ODriveHardwareInterface α) (e : ODriveEvent α) :
    (step m s e).axes.map Axis.nodeId = s.axes.map Axis.nodeId := by
  refine List.ext_getElem? fun i => ?_
  rw [List.getElem?_map, List.getElem?_map, getElem?_step, Option.map_map]
  exact congrArg (fun f => Option.map f s.axes[i]?) (funext fun a => (axisStep_spec i a e).2.1)

end ODriveHardwareInterface

end MarineHil.Ports
