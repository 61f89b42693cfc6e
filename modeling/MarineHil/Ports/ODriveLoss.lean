import MarineHil.Verified.Channel
import MarineHil.Ports.ODriveBus

/-!
# Frames that are not sent

`send_can_frame` returns false when a frame cannot be written, and `Axis::send` does not look
at what it returns: the frame is lost, and nothing sends it again.

## Main results

* `agrees_of_told`: an axis is told anew by the next request that concerns it, whatever was
  lost before.
* `setpoints_in_mode`: losses are harmless in closed loop, but for those of a control mode or
  of a request to go idle.
-/

namespace MarineHil.Ports

open Verified Axis

/-- The state and mode heard last are those of an input, or idle. -/
def Agrees (c : Option Input) (h : Heard) : Prop :=
  match c with
  | some k => h = ⟨some axisStateClosedLoopControl, some k.controlMode, some inputModePassthrough⟩
  | none => h.requestedState = some axisStateIdle

theorem agrees_told (c : Option Input) (h : Heard) : Agrees c (h.told c) := by
  cases c <;> exact rfl

namespace Heard

/-- In closed loop a setpoint is of the mode heard last. -/
def SetpointInMode (n : ℕ) (h : Heard) (frame : CanFrame) : Prop :=
  ∀ k : Input, (hears n k.setpointMsg frame).isSome = true →
    h.requestedState = some axisStateClosedLoopControl → h.controlMode = some k.controlMode

def stateIn (n : ℕ) (frame : CanFrame) : Option (BitVec 32) :=
  (hears n setAxisStateMsg frame).map axisRequestedState

def modeIn (n : ℕ) (frame : CanFrame) : Option (BitVec 32) :=
  (hears n setControllerModeMsg frame).map fun c => (modes c).1

/-- A frame that an axis remembers something of. -/
def Tells (n : ℕ) (frame : CanFrame) : Prop :=
  (hears n setAxisStateMsg frame).isSome = true ∨
    (hears n setControllerModeMsg frame).isSome = true

/-- A frame that has an axis change its mode or go idle. -/
def Restrains (n : ℕ) (frame : CanFrame) : Prop :=
  (hears n setControllerModeMsg frame).isSome = true ∨ stateIn n frame = some axisStateIdle

section Heard

variable {n : ℕ} {h : Heard} {f : CanFrame}

theorem receive_of_not_tells (hf : ¬Tells n f) : h.receive n f = h := by
  obtain ⟨hstate, hmode⟩ := not_or.mp hf
  rw [Option.not_isSome_iff_eq_none] at hstate hmode
  rw [receive, hstate, hmode]
  rfl

theorem requestedState_run (h : Heard) (fs : List CanFrame) :
    (run (receive n) h fs).requestedState = (lastSome (stateIn n) fs).or h.requestedState :=
  optional_latch_run requestedState (fun _ _ => rfl) h fs

theorem controlMode_run (h : Heard) (fs : List CanFrame) :
    (run (receive n) h fs).controlMode = (lastSome (modeIn n) fs).or h.controlMode :=
  optional_latch_run controlMode (fun _ _ => rfl) h fs

end Heard

end Heard

open Heard

section Loss

variable {α : Type} [Double α] {m : Platform α} {s : ODriveHardwareInterface α} {i : ℕ} {a : Axis α}

open ODriveHardwareInterface

/-- An event with the stack its frames find, and which of them `send_can_frame` writes. -/
abbrev LossyOccurrence (α : Type) := Occurrence α × (ℕ → Bool)

def LossyOccurrence.event (e : LossyOccurrence α) : ODriveEvent α := e.1.1

def lossyOccur (m : Platform α) (s : ODriveHardwareInterface α) (e : LossyOccurrence α) :
    ODriveHardwareInterface α := occur m s e.1

/-- The frames of an event that get to the bus. -/
def lossyWire (m : Platform α) (s : ODriveHardwareInterface α) (e : LossyOccurrence α) :
    List CanFrame := kept e.2 (wire m s e.1)

/-- Those that do not. -/
def lossesOf (m : Platform α) (s : ODriveHardwareInterface α) (e : LossyOccurrence α) :
    List CanFrame := lost e.2 (wire m s e.1)

/-- All the frames of a run that get to the bus. -/
def lossyTraffic (m : Platform α) (s : ODriveHardwareInterface α)
    (es : List (LossyOccurrence α)) : List CanFrame := emitted (lossyOccur m) (lossyWire m) s es

theorem run_lossyOccur (s : ODriveHardwareInterface α) (es : List (LossyOccurrence α)) :
    run (lossyOccur m) s es = run (step m) s (es.map LossyOccurrence.event) := by
  rw [run, run, List.foldl_map]
  rfl

theorem Distinct.lossyRun (hs : Distinct s) (es : List (LossyOccurrence α)) :
    Distinct (Verified.run (lossyOccur m) s es) :=
  invariant_run (I := Distinct) (fun _ e ht => ht.step e.event) hs es

/-- An axis after a run, under the name and the id it has had. -/
theorem exists_axis_run (ha : s.axes[i]? = some a) (es : List (LossyOccurrence α)) :
    ∃ b, (run (lossyOccur m) s es).axes[i]? = some b ∧
      run (axisStep m i) a (es.map LossyOccurrence.event) = b ∧ b.joint = a.joint ∧
        b.nodeId = a.nodeId := by
  obtain ⟨hjoint, hnode⟩ := axisStep_run (m := m) i a (es.map LossyOccurrence.event)
  refine ⟨_, ?_, rfl, hjoint, hnode⟩
  rw [run_lossyOccur, getElem?_run, ha]
  rfl

/-! ## One event -/

/-- A request is heard if all of it gets through that the axis remembers. -/
theorem heard_of_told (hs : Distinct s) (ha : s.axes[i]? = some a) {e : LossyOccurrence α}
    (he : Concerns a.joint e.event) (hsent : ∀ f ∈ lossesOf m s e, ¬Tells (busId a.nodeId) f)
    (h : Heard) :
    run (receive (busId a.nodeId)) h (lossyWire m s e) =
      h.told ((axisStep m i a e.event).commanded (lossyOccur m s e).active) := by
  have hkept : run (receive (busId a.nodeId)) h (lossyWire m s e) =
      run (receive (busId a.nodeId)) h (wire m s e.1) :=
    run_kept (fun f hf h => receive_of_not_tells (hsent f hf)) h
  exact hkept.trans (heard_of_concerns hs ha he e.1.2 h)

/-- Of any other event nothing is heard, and nothing is to be. -/
theorem heard_of_quiet (hs : Distinct s) (ha : s.axes[i]? = some a) {e : LossyOccurrence α}
    (he : ¬Concerns a.joint e.event) (h : Heard) :
    run (receive (busId a.nodeId)) h (lossyWire m s e) = h ∧
      (axisStep m i a e.event).commanded (lossyOccur m s e).active = a.commanded s.active :=
  ⟨run_receive_eq_self fun f hf =>
      receive_of_not_concerns hs ha he e.1.2 f ((kept_sublist _ _).subset hf),
    commanded_of_not_concerns he⟩

/-! ## Requests that get through -/

theorem heard_concat (n : ℕ) (es : List (LossyOccurrence α)) (e : LossyOccurrence α) :
    run (receive n) .nothing (lossyTraffic m s (es ++ [e])) =
      run (receive n) (run (receive n) .nothing (lossyTraffic m s es))
        (lossyWire m (run (lossyOccur m) s es) e) := by
  rw [lossyTraffic, emitted_concat, run_append]
  rfl

/-- **An axis is told anew by the next request that concerns it.**  If all of that request
gets through that the axis remembers, the state and the mode heard last are those of the
requests so far, whatever was lost before and whatever of the setpoints was lost since. -/
theorem agrees_of_told {active : Bool} {joints : List JointInfo}
    (h : onInit m active joints = some s) (hs : Distinct s) (ha : s.axes[i]? = some a)
    {pre post : List (LossyOccurrence α)} {e : LossyOccurrence α} (he : Concerns a.joint e.event)
    (hsent : ∀ f ∈ lossesOf m (run (lossyOccur m) s pre) e, ¬Tells (busId a.nodeId) f)
    (hpost : ∀ e' ∈ post, ¬Concerns a.joint e'.event) :
    Agrees (requestedInput active a.joint ((pre ++ e :: post).map LossyOccurrence.event))
      (run (receive (busId a.nodeId)) .nothing (lossyTraffic m s (pre ++ e :: post))) := by
  -- what the axis is commanded to do instead of what is requested, by induction on what follows
  have hrun (es : List (LossyOccurrence α)) :
      requestedInput active a.joint (es.map LossyOccurrence.event) =
        (run (axisStep m i) a (es.map LossyOccurrence.event)).commanded
          (run (lossyOccur m) s es).active := by
    rw [← commanded_run (i := i) h ha, ← run_lossyOccur]
  rw [hrun]
  induction post using List.reverseRecOn with
  | nil =>
      obtain ⟨b, hb, hbrun, hjoint, hnode⟩ := exists_axis_run (m := m) ha pre
      rw [← hnode] at hsent ⊢
      rw [heard_concat, heard_of_told (hs.lossyRun pre) hb (hjoint ▸ he) hsent, List.map_append,
        List.map_singleton, run_concat, run_concat, hbrun]
      exact agrees_told _ _
  | append_singleton post e' ih =>
      have hbefore := ih fun e'' he'' => hpost e'' (List.mem_append_left _ he'')
      have hnot : ¬Concerns a.joint e'.event := hpost e' (by simp)
      have hlist : pre ++ e :: (post ++ [e']) = (pre ++ e :: post) ++ [e'] := by simp
      obtain ⟨b, hb, hbrun, hjoint, hnode⟩ := exists_axis_run (m := m) ha (pre ++ e :: post)
      obtain ⟨hquiet, hcommanded⟩ := heard_of_quiet (hs.lossyRun (pre ++ e :: post)) hb
        (hjoint.symm ▸ hnot) (run (receive (busId a.nodeId)) .nothing
          (lossyTraffic m s (pre ++ e :: post)))
      rw [hnode] at hquiet
      rw [hbrun] at hbefore
      rw [hlist, heard_concat, hquiet, List.map_append, List.map_singleton, run_concat, run_concat,
        hbrun, hcommanded]
      exact hbefore

/-- A controller of the flap's effort starts, and the clearing of errors is lost. -/
def clearErrorsLost : LossyOccurrence ExtRat :=
  ((.switch ["flap/effort"] [], fun _ => blank), fun i => i != 1)

theorem losses_clearErrorsLost : lossesOf zeroing twoAxes clearErrorsLost =
    [frame zeroing blank 3 ⟨clearErrorsMsg, clearErrors 0⟩] := rfl

def allLost (e : ODriveEvent ExtRat) : LossyOccurrence ExtRat :=
  ((e, fun _ => blank), fun _ => false)

/-- Neither the activation before it nor the setpoint after it gets through. -/
theorem agrees_of_told_clearErrorsLost :
    requestedInput true "flap" (([allLost .activate] ++ clearErrorsLost :: [allLost .write]).map
      LossyOccurrence.event) = some .effort ∧
    Agrees (requestedInput true "flap" (([allLost .activate] ++
        clearErrorsLost :: [allLost .write]).map LossyOccurrence.event))
      (run (receive 3) .nothing (lossyTraffic zeroing twoAxes
        ([allLost .activate] ++ clearErrorsLost :: [allLost .write]))) := by
  have hrequest : Concerns "flap" clearErrorsLost.event := ⟨.effort, Or.inl List.mem_cons_self⟩
  have hwrite : ∀ e ∈ [allLost .write], ¬Concerns "flap" e.event := by
    intro e he
    obtain rfl := List.mem_singleton.mp he
    exact not_false
  refine ⟨by decide, agrees_of_told (a := make zeroing "flap" 3) onInit_twoJoints (by decide)
    (i := 0) rfl hrequest (fun f hf => ?_) hwrite⟩
  obtain rfl := List.mem_singleton.mp (losses_clearErrorsLost ▸ hf)
  rintro (hstate | hmode)
  · rw [hears_frame_of_ne zeroing blank (by decide)] at hstate
    exact Bool.false_ne_true hstate
  · rw [hears_frame_of_ne zeroing blank (by decide)] at hmode
    exact Bool.false_ne_true hmode

/-! ## Losses in closed loop -/

/-- What a listener that heard a request for closed loop knows of the axis. -/
structure Follows (i n : ℕ) (s : ODriveHardwareInterface α) (h : Heard) : Prop where
  distinct : Distinct s
  mode : ∃ a, s.axes[i]? = some a ∧ busId a.nodeId = n ∧
    (h.requestedState = some axisStateClosedLoopControl →
      ∃ k, a.commanded s.active = some k ∧ h.controlMode = some k.controlMode)

theorem Follows.step {n : ℕ} {h : Heard} {e : LossyOccurrence α}
    (hsent : ∀ f ∈ lossesOf m s e, ¬Restrains n f) (hfollows : Follows i n s h) :
    Follows i n (lossyOccur m s e) (run (receive n) h (lossyWire m s e)) := by
  obtain ⟨hs, a, ha, rfl, hmode⟩ := hfollows
  have ha' : (lossyOccur m s e).axes[i]? = some (axisStep m i a e.event) := by
    rw [lossyOccur, occur, getElem?_step, ha]
    rfl
  have hnode : busId (axisStep m i a e.event).nodeId = busId a.nodeId :=
    congrArg busId (axisStep_spec i a e.event).2.1
  refine ⟨hs.step e.event, _, ha', hnode, fun hclosed => ?_⟩
  by_cases he : Concerns a.joint e.event
  · have htold := heard_of_concerns (m := m) hs ha he e.1.2 .nothing
    cases hc : (axisStep m i a e.event).commanded (lossyOccur m s e).active with
    | some k =>
        have hwire : lastSome (modeIn (busId a.nodeId)) (wire m s e.1) = some k.controlMode := by
          calc lastSome (modeIn (busId a.nodeId)) (wire m s e.1)
              = (run (receive (busId a.nodeId)) .nothing (wire m s e.1)).controlMode :=
                Option.or_none.symm.trans (controlMode_run .nothing _).symm
            _ = (told _ .nothing).controlMode := congrArg controlMode htold
            _ = some k.controlMode := congrArg (fun c => (told c .nothing).controlMode) hc
        have hkept := lastSome_kept hwire fun f hf heq =>
          hsent f hf (Or.inl (Option.isSome_map.symm.trans (Option.isSome_of_mem heq)))
        refine ⟨k, rfl, ?_⟩
        rw [controlMode_run, lossyWire, hkept]
        rfl
    | none =>
        have hwire : lastSome (stateIn (busId a.nodeId)) (wire m s e.1) = some axisStateIdle := by
          calc lastSome (stateIn (busId a.nodeId)) (wire m s e.1)
              = (run (receive (busId a.nodeId)) .nothing (wire m s e.1)).requestedState :=
                Option.or_none.symm.trans (requestedState_run .nothing _).symm
            _ = (told _ .nothing).requestedState := congrArg requestedState htold
            _ = some axisStateIdle := congrArg (fun c => (told c .nothing).requestedState) hc
        have hkept := lastSome_kept hwire fun f hf heq => hsent f hf (Or.inr heq)
        rw [requestedState_run, lossyWire, hkept] at hclosed
        exact absurd (Option.some.inj hclosed) (by decide)
  · obtain ⟨hheard, hcommanded⟩ := heard_of_quiet (m := m) hs ha he h
    rw [hheard] at hclosed ⊢
    obtain ⟨k, hk, hcontrol⟩ := hmode hclosed
    exact ⟨k, hcommanded.trans hk, hcontrol⟩

/-- A setpoint on the bus is of the primary input. -/
theorem primary_of_heard (hs : Distinct s) (ha : s.axes[i]? = some a) {e : Occurrence α}
    {f : CanFrame} (hf : f ∈ wire m s e) {k : Input}
    (hk : (hears (busId a.nodeId) k.setpointMsg f).isSome = true) :
    e.1 = .write ∧ a.primary = some k := by
  obtain ⟨t, ht, scratch, rfl⟩ := mem_frames hf
  have hnode : busId t.nodeId = busId a.nodeId := by
    by_contra hne
    rw [hears_frame_of_address_ne m scratch hne] at hk
    exact Bool.false_ne_true hk
  have hcmd : t.message.format.cmdId = k.setpointMsg.cmdId := by
    by_contra hne
    rw [hears_frame_of_ne m scratch hne] at hk
    exact Bool.false_ne_true hk
  obtain ⟨msg, hmem, rfl⟩ := List.mem_map.mp (mem_messagesTo hs ha ht hnode)
  exact primary_of_setpoint hmem hcmd

theorem Follows.setpoints {n : ℕ} {h : Heard} (hfollows : Follows i n s h)
    (e : LossyOccurrence α) : Along (receive n) (SetpointInMode n) h (lossyWire m s e) := by
  obtain ⟨hs, a, ha, rfl, hmode⟩ := hfollows
  have hwire {f : CanFrame} (hf : f ∈ lossyWire m s e) : f ∈ wire m s e.1 :=
    (kept_sublist _ _).subset hf
  by_cases hwrite : e.event = .write
  · -- setpoints change nothing that is remembered
    have hnot : ¬Concerns a.joint e.event := by
      rw [hwrite]
      exact not_false
    refine along_of_const (fun f hf => receive_of_not_concerns hs ha hnot e.1.2 f (hwire hf))
      fun f hf k hk hclosed => ?_
    obtain ⟨l, hl, hcontrol⟩ := hmode hclosed
    have hprimary := (primary_of_heard hs ha (hwire hf) hk).2
    rw [commanded] at hl
    split_ifs at hl
    rw [hcontrol, Option.some.inj (hl.symm.trans hprimary)]
  · refine along_of_forall fun f hf h' k hk _ => ?_
    exact absurd (primary_of_heard hs ha (hwire hf) hk).1 hwrite

/-- **In closed loop no setpoint is heard but of the mode heard last**, at any point of the
traffic of any run, unless a control mode or a request to go idle was lost. -/
theorem setpoints_in_mode (hs : Distinct s) (ha : s.axes[i]? = some a)
    {es : List (LossyOccurrence α)}
    (hlost : ∀ f ∈ emitted (lossyOccur m) (lossesOf m) s es, ¬Restrains (busId a.nodeId) f) :
    Along (receive (busId a.nodeId)) (SetpointInMode (busId a.nodeId)) .nothing
      (lossyTraffic m s es) := by
  have hstart : Follows i (busId a.nodeId) s .nothing :=
    ⟨hs, a, ha, rfl, fun hclosed => absurd hclosed (Option.some_ne_none _).symm⟩
  exact along_emitted (fun _ _ _ hsent h => h.step hsent) (fun _ _ e h => h.setpoints e) hstart
    (forall_mem_emitted.mp hlost)

theorem setpoints_in_mode_clearErrorsLost :
    Along (receive 3) (SetpointInMode 3) .nothing (lossyTraffic zeroing twoAxes
      [clearErrorsLost, ((.write, fun _ => blank), fun _ => true)]) := by
  refine setpoints_in_mode (a := make zeroing "flap" 3) (by decide) (i := 0) rfl fun f hf => ?_
  obtain rfl := List.mem_singleton.mp (show f ∈ [frame zeroing blank 3
    ⟨clearErrorsMsg, clearErrors 0⟩] from hf)
  rintro (hmode | hidle)
  · rw [hears_frame_of_ne zeroing blank (by decide)] at hmode
    exact Bool.false_ne_true hmode
  · rw [stateIn, hears_frame_of_ne zeroing blank (by decide)] at hidle
    exact Option.some_ne_none _ hidle.symm

end Loss

end MarineHil.Ports
