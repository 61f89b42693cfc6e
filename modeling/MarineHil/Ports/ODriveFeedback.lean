import MarineHil.Ports.ODriveSetpoints

/-!
# What the ODrives report

The driver reads frames in whatever order and number they arrive, between any other
events.  What it exports to `ros2_control` afterwards is, for each joint, what the last
frame of the right format and address said, or NaN as long as there was none.

A frame's identifier holds 27 bits of address, and the whole node id is compared with
them.

## Main results

* `exportStateInterfaces_run`: the exported values after any run.
* `exists_heard_iff`: the node ids of the axes that can be heard at all.
* `effort_echo`: an effort goes through the driver and back unchanged.
-/

namespace MarineHil.Ports

open Verified Axis

section Feedback

variable {α : Type} [Double α] {m : Platform α}

namespace ODriveHardwareInterface

/-- The exported values, by joint and interface. -/
def exportStateInterfaces (s : ODriveHardwareInterface α) : List (String × String × α) :=
  s.axes.flatMap fun a =>
    [(a.joint, "effort", a.torqueTarget),
      (a.joint, "velocity", a.velEstimate),
      (a.joint, "position", a.posEstimate),
      (a.joint, "electrical_power", a.electricalPower),
      (a.joint, "mechanical_power", a.mechanicalPower)]

end ODriveHardwareInterface

open ODriveHardwareInterface

/-- The frames that were read, in order. -/
def received (es : List (ODriveEvent α)) : List CanFrame :=
  es.flatMap fun
    | .read frames => frames
    | _ => []

/-- An estimate that the driver keeps. -/
inductive Report where
  | position
  | velocity
  | torqueTarget
  | torqueEstimate
  | electricalPower
  | mechanicalPower

namespace Report

def get (a : Axis α) : Report → α
  | position => a.posEstimate
  | velocity => a.velEstimate
  | torqueTarget => a.torqueTarget
  | torqueEstimate => a.torqueEstimate
  | electricalPower => a.electricalPower
  | mechanicalPower => a.mechanicalPower

/-- What a frame says of it to a listener: positions and velocities are sent in revolutions. -/
def reading (m : Platform α) (n : ℕ) (frame : CanFrame) : Report → Option α
  | position =>
      (hears n getEncoderEstimatesMsg frame).map fun c => m.ofFloat (estimates c).1 * twoPi
  | velocity =>
      (hears n getEncoderEstimatesMsg frame).map fun c => m.ofFloat (estimates c).2 * twoPi
  | torqueTarget => (hears n getTorquesMsg frame).map fun c => m.ofFloat (torques c).1
  | torqueEstimate => (hears n getTorquesMsg frame).map fun c => m.ofFloat (torques c).2
  | electricalPower => (hears n getPowersMsg frame).map fun c => m.ofFloat (powers c).1
  | mechanicalPower => (hears n getPowersMsg frame).map fun c => m.ofFloat (powers c).2

/-- The last that was said of it, NaN if nothing was. -/
def last (m : Platform α) (n : ℕ) (frames : List CanFrame) (r : Report) : α :=
  (lastSome (fun frame => r.reading m n frame) frames).getD m.nan

/-- One frame. -/
theorem get_dispatch (a : Axis α) (frame : CanFrame) (r : Report) :
    r.get (a.dispatch m frame) = (r.reading m a.nodeId.toNat frame).getD (r.get a) := by
  by_cases haddress : address frame = a.nodeId.toNat
  · have hdispatch : a.dispatch m frame = a.onCanMsg m frame :=
      if_pos (ushiftRight_eq_iff.mpr haddress)
    have hhears (f : MessageFormat) : hears a.nodeId.toNat f frame =
        if cmd frame = f.cmdId then tryDecode f frame else none := by
      rw [hears]
      simp only [haddress, true_and]
    have htorques : getTorquesMsg.cmdId ≠ getEncoderEstimatesMsg.cmdId := by decide
    have hpowers : getPowersMsg.cmdId ≠ getEncoderEstimatesMsg.cmdId := by decide
    have hboth : getPowersMsg.cmdId ≠ getTorquesMsg.cmdId := by decide
    rw [hdispatch, Axis.onCanMsg]
    by_cases hestimates : cmd frame = getEncoderEstimatesMsg.cmdId
    · rw [if_pos hestimates]
      cases htry : tryDecode getEncoderEstimatesMsg frame <;> cases r <;>
        simp [get, reading, hhears, hestimates, htry, htorques.symm, hpowers.symm]
    · rw [if_neg hestimates]
      by_cases htorque : cmd frame = getTorquesMsg.cmdId
      · rw [if_pos htorque]
        cases htry : tryDecode getTorquesMsg frame <;> cases r <;>
          simp [get, reading, hhears, htorque, htry, htorques, hboth.symm]
      · rw [if_neg htorque]
        by_cases hpower : cmd frame = getPowersMsg.cmdId
        · rw [if_pos hpower]
          cases htry : tryDecode getPowersMsg frame <;> cases r <;>
            simp [get, reading, hhears, hpower, htry, hpowers, hboth]
        · rw [if_neg hpower]
          cases r <;> simp [reading, hhears, hestimates, htorque, hpower]
  · have hdispatch : a.dispatch m frame = a :=
      if_neg fun heq => haddress (ushiftRight_eq_iff.mp heq)
    have hhears (f : MessageFormat) : hears a.nodeId.toNat f frame = none :=
      if_neg fun hh => haddress hh.1
    rw [hdispatch]
    cases r <;> simp [reading, hhears]

/-- The frames of one read. -/
theorem get_foldl (a : Axis α) (frames : List CanFrame) (r : Report) :
    r.get (frames.foldl (dispatch m) a) =
      (lastSome (fun frame => r.reading m a.nodeId.toNat frame) frames).getD (r.get a) := by
  have hnode (b : Axis α) (frame : CanFrame) (hb : b.nodeId = a.nodeId) :
      (b.dispatch m frame).nodeId = a.nodeId := by
    have hsame := sameButEstimates_dispatch m b frame
    rw [hsame]
    exact hb
  have hget (b : Axis α) (frame : CanFrame) (hb : b.nodeId = a.nodeId) :
      r.get (b.dispatch m frame) = (r.reading m a.nodeId.toNat frame).getD (r.get b) := by
    rw [get_dispatch, hb]
  exact latch_run_of_invariant (fun b => r.get b) hnode hget rfl frames

/-- Any other event. -/
theorem get_axisStep (i : ℕ) (a : Axis α) (e : ODriveEvent α) (r : Report) :
    r.get (axisStep m i a e) =
      (lastSome (fun frame => r.reading m a.nodeId.toNat frame) (received [e])).getD (r.get a) := by
  cases e with
  | activate => rfl
  | deactivate => rfl
  | write => rfl
  | switch startInterfaces stopInterfaces =>
      obtain ⟨hsame, _, _⟩ := a.switchInputs_spec startInterfaces stopInterfaces
      show r.get (a.switchInputs startInterfaces stopInterfaces).1 = _
      rw [hsame]
      cases r <;> rfl
  | command j k x =>
      show r.get (if j = i then a.setSetpoint k x else a) = _
      split_ifs
      · cases k <;> cases r <;> rfl
      · rfl
  | read frames =>
      have hreceived : received [ODriveEvent.read (α := α) frames] = frames :=
        List.append_nil frames
      rw [hreceived]
      exact get_foldl a frames r

/-- **What is kept is what was reported last.** -/
theorem get_run (i : ℕ) (a : Axis α) (es : List (ODriveEvent α)) (r : Report) :
    r.get (run (axisStep m i) a es) =
      (lastSome (fun frame => r.reading m a.nodeId.toNat frame) (received es)).getD (r.get a) := by
  induction es using List.reverseRecOn with
  | nil => rfl
  | append_singleton es e ih =>
      have hreceived : received (es ++ [e]) = received es ++ received [e] := List.flatMap_append
      rw [run_concat, get_axisStep, (axisStep_run i a es).2, ih, hreceived, lastSome_append]
      cases lastSome (fun frame => r.reading m a.nodeId.toNat frame) (received [e]) <;> rfl

end Report

/-- What is to be exported for a joint at an address. -/
def reported (m : Platform α) (joint : String) (n : ℕ) (frames : List CanFrame) :
    List (String × String × α) :=
  [(joint, "effort", Report.torqueTarget.last m n frames),
    (joint, "velocity", Report.velocity.last m n frames),
    (joint, "position", Report.position.last m n frames),
    (joint, "electrical_power", Report.electricalPower.last m n frames),
    (joint, "mechanical_power", Report.mechanicalPower.last m n frames)]

/-- **What is exported is what was reported last**, joint by joint, after any run. -/
theorem exportStateInterfaces_run {active : Bool} {joints : List JointInfo}
    {s : ODriveHardwareInterface α} (h : onInit m active joints = some s)
    (es : List (ODriveEvent α)) :
    exportStateInterfaces (run (step m) s es) =
      s.axes.flatMap fun a => reported m a.joint a.nodeId.toNat (received es) := by
  rw [exportStateInterfaces, List.flatMap_def, List.flatMap_def]
  congr 1
  refine List.ext_getElem? fun i => ?_
  rw [List.getElem?_map, List.getElem?_map, getElem?_run, Option.map_map]
  cases ha : s.axes[i]? with
  | none => rfl
  | some a =>
      have hmake (r : Report) : r.get a = m.nan := by
        obtain ⟨joint, nodeId, rfl⟩ := exists_make_of_onInit h ha
        cases r <;> rfl
      have hlast (r : Report) :
          r.get (run (axisStep m i) a es) = r.last m a.nodeId.toNat (received es) := by
        rw [Report.get_run, hmake, Report.last]
      have hjoint := (axisStep_run (m := m) i a es).1
      refine congrArg some ?_
      show _ = reported m a.joint a.nodeId.toNat (received es)
      rw [reported, ← hlast, ← hlast, ← hlast, ← hlast, ← hlast, ← hjoint]
      rfl

/-! ## Addresses that can be heard -/

theorem address_lt (f : CanFrame) : address f < 2 ^ 27 := by
  have hlt := f.canId.isLt
  rw [address, BitVec.toNat_ushiftRight, Nat.shiftRight_eq_div_pow]
  omega

/-- A report needs a frame of the address. -/
theorem reading_of_address_ne {n : ℕ} {f : CanFrame} (h : address f ≠ n) (r : Report) :
    r.reading m n f = none := by
  have hhears (g : MessageFormat) : hears n g f = none := if_neg fun hh => h hh.1
  cases r <;> simp [Report.reading, hhears]

/-- What a frame of torques says at its address. -/
theorem reading_torques (scratch : Scratch) {nodeId : BitVec 32} (hnode : nodeId.toNat < 2 ^ 27)
    (target estimate : Binary32) :
    Report.torqueTarget.reading m nodeId.toNat
      (frame m scratch nodeId ⟨getTorquesMsg, getTorques target estimate⟩) =
      some (m.ofFloat target) := by
  have hbus : busId nodeId = nodeId.toNat := Nat.mod_eq_of_lt hnode
  rw [Report.reading, hears_frame, if_pos hbus]
  show some (m.ofFloat ⟨target.bits &&& lowMask 32 32⟩) = _
  rw [and_lowMask_self]

/-- **The axes that can be heard.**  With a node id from 0 on below 2 ^ 27 there is a run
after which an effort is exported; with any other, none ever is. -/
theorem exists_heard_iff {unspecified : Binary32 → BitVec 16} {active : Bool}
    {joints : List JointInfo} {s : ODriveHardwareInterface ExtRat}
    (h : onInit (.ofExtRat unspecified) active joints = some s) {i : ℕ} {joint : JointInfo}
    {a : Axis ExtRat} (hjoint : joints[i]? = some joint) (ha : s.axes[i]? = some a) {nodeId : ℤ}
    (hid : (joint.parameters.lookup "node_id").bind stoi = some nodeId) :
    (∃ es b, (run (step (.ofExtRat unspecified)) s es).axes[i]? = some b ∧
      b.torqueTarget ≠ .nan) ↔ 0 ≤ nodeId ∧ nodeId < 2 ^ 27 := by
  obtain ⟨joint', hjoint', hmake⟩ := axisOfJoint_of_onInit h ha
  obtain rfl : joint' = joint := Option.some.inj (hjoint'.symm.trans hjoint)
  rw [axisOfJoint, hid, Option.map_some, Option.some.injEq] at hmake
  obtain ⟨text, _, htext⟩ := Option.bind_eq_some_iff.mp hid
  obtain ⟨hlow, hhigh⟩ := stoi_range htext
  have hnode : a.nodeId.toNat = (nodeId % 2 ^ 32).toNat := by
    rw [← hmake]
    exact BitVec.toNat_ofInt nodeId
  have hafter (es : List (ODriveEvent ExtRat)) :
      (run (step (.ofExtRat unspecified)) s es).axes[i]? =
        some (run (axisStep (.ofExtRat unspecified) i) a es) := by
    rw [getElem?_run, ha]
    rfl
  constructor
  · rintro ⟨es, b, hb, hheard⟩
    by_contra hout
    have hlarge : 2 ^ 27 ≤ a.nodeId.toNat := by omega
    have hnone : lastSome (fun frame =>
        Report.torqueTarget.reading (.ofExtRat unspecified) a.nodeId.toNat frame) (received es) =
          none := by
      refine lastSome_eq_none_iff.mpr fun frame _ => reading_of_address_ne ?_ _
      have hlt := address_lt frame
      omega
    have hget := Report.get_run (m := .ofExtRat unspecified) i a es .torqueTarget
    rw [hnone] at hget
    obtain rfl := Option.some.inj ((hafter es).symm.trans hb)
    exact hheard (hget.trans (by rw [← hmake]; rfl))
  · rintro ⟨hpos, hlt⟩
    have hsmall : a.nodeId.toNat < 2 ^ 27 := by omega
    refine ⟨[.read [frame (.ofExtRat unspecified) blank a.nodeId
      ⟨getTorquesMsg, getTorques noOffset noOffset⟩]], _, hafter _, ?_⟩
    have hget := Report.get_dispatch (m := .ofExtRat unspecified) a
      (frame (.ofExtRat unspecified) blank a.nodeId
        ⟨getTorquesMsg, getTorques noOffset noOffset⟩) .torqueTarget
    rw [reading_torques _ hsmall] at hget
    intro hnan
    have hvalue : (Platform.ofExtRat unspecified).ofFloat noOffset = .nan := hget.symm.trans hnan
    exact absurd (noOffset_value.symm.trans hvalue) nofun

theorem exists_heard_iff_twoJoints :
    (∃ es b, (run (step zeroing) twoAxes es).axes[0]? = some b ∧ b.torqueTarget ≠ .nan) ↔
      (0 : ℤ) ≤ 3 ∧ (3 : ℤ) < 2 ^ 27 :=
  exists_heard_iff onInit_twoJoints (i := 0) rfl rfl
    (show (List.lookup "node_id" [("node_id", "3")]).bind stoi = some 3 by decide)

/-! ## There and back -/

/-- **An effort survives the way through the driver.**  A controller that commands the effort
that is exported has the drive receive the torque that was reported last, bit for bit. -/
theorem effort_echo {unspecified : Binary32 → BitVec 16} {active : Bool} {joints : List JointInfo}
    {s : ODriveHardwareInterface ExtRat} (h : onInit (.ofExtRat unspecified) active joints = some s)
    (hs : Distinct s) {i : ℕ} {a b : Axis ExtRat} (ha : s.axes[i]? = some a)
    {es : List (Occurrence ExtRat)}
    (hb : (run (occur (.ofExtRat unspecified)) s es).axes[i]? = some b)
    (hstarted : startedInput a.joint (es.map Prod.fst) = some .effort) {x : Binary32}
    (hread : lastSome (fun frame =>
      (hears a.nodeId.toNat getTorquesMsg frame).map fun c => (torques c).1)
        (received (es.map Prod.fst)) = some x)
    (hnan : x.value ≠ .nan) (hzero : x ≠ .ofCode true 0) (stack stack' : ℕ → Scratch) :
    lastSome (setpointIn (busId a.nodeId)) (traffic (.ofExtRat unspecified) s
      (es ++ [(.command i .effort b.torqueTarget, stack), (.write, stack')])) =
        some (.effort, x) := by
  have hexported : b.torqueTarget = x.value := by
    rw [run_occur, getElem?_run, ha, Option.map_some, Option.some.injEq] at hb
    have hget := Report.get_run (m := .ofExtRat unspecified) i a (es.map Prod.fst) .torqueTarget
    have hreading : (fun frame =>
        Report.torqueTarget.reading (.ofExtRat unspecified) a.nodeId.toNat frame) =
          fun frame => ((hears a.nodeId.toNat getTorquesMsg frame).map
            fun c => (torques c).1).map Binary32.value := by
      funext frame
      rw [Option.map_map]
      rfl
    rw [hreading, lastSome_map, hread, hb] at hget
    exact hget
  have hsplit : es ++ [(ODriveEvent.command i .effort b.torqueTarget, stack), (.write, stack')] =
      es ++ [(.command i .effort b.torqueTarget, stack)] ++ [(.write, stack')] := by
    rw [List.append_assoc]
    rfl
  have hwire := lastSome_wire_write_run h hs ha
    (es ++ [(.command i .effort b.torqueTarget, stack)]) stack'
  rw [List.map_append, List.map_singleton] at hwire
  have hinput : startedInput a.joint
      (es.map Prod.fst ++ [.command i .effort b.torqueTarget]) = some .effort := by
    rw [← hstarted, startedInput, startedInput]
    refine congrArg (List.find? · _) (funext fun k => ?_)
    rw [lastSome_concat]
    rfl
  have hcommand : lastCommand i .effort
      (es.map Prod.fst ++ [.command i .effort b.torqueTarget]) = x.value := by
    rw [lastCommand, lastSome_concat, commandTo, if_pos ⟨rfl, rfl⟩, hexported]
    rfl
  rw [hinput, Option.map_some, hcommand] at hwire
  rw [hsplit, traffic, emitted_concat, lastSome_append, hwire]
  exact congrArg (fun y => some (Input.effort, y)) (Binary32.ofExt_value hnan hzero)

/-- The flap's drive reports a torque of one. -/
def torqueReported : List (Occurrence ExtRat) :=
  [.switch ["flap/effort"] [], .read [frame zeroing blank 3
    ⟨getTorquesMsg, getTorques ⟨0x3f800000⟩ noOffset⟩]].map fun e =>
      (e, fun _ => blank)

theorem effort_echo_torqueReported : ∃ b : Axis ExtRat,
    (run (occur zeroing) twoAxes torqueReported).axes[0]? = some b ∧
      lastSome (setpointIn 3) (traffic zeroing twoAxes (torqueReported ++
        [(.command 0 .effort b.torqueTarget, fun _ => blank),
          (.write, fun _ => blank)])) = some (.effort, ⟨0x3f800000⟩) := by
  have hread : lastSome (fun frame => (hears 3 getTorquesMsg frame).map fun c => (torques c).1)
      (received (torqueReported.map Prod.fst)) = some ⟨0x3f800000⟩ := by
    show lastSome _ ([] ++ [frame zeroing blank 3
      ⟨getTorquesMsg, getTorques ⟨0x3f800000⟩ noOffset⟩]) = _
    rw [lastSome_concat, hears_frame, if_pos (by decide)]
    exact congrArg (fun x => some (Binary32.mk x)) (and_lowMask_self _)
  have hnan : (Binary32.mk 0x3f800000).value ≠ .nan := by
    rw [Binary32.value, if_pos (by decide)]
    simp only [ne_eq, reduceCtorEq, not_false_eq_true]
  exact ⟨_, rfl, effort_echo (a := make zeroing "flap" 3) onInit_twoJoints (by decide) rfl rfl
    (by decide) hread hnan (by decide) _ _⟩

end Feedback

end MarineHil.Ports
