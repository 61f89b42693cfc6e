import MarineHil.Ports.ODriveBus

/-!
# The setpoints on the bus

A controller writes its setpoints when it likes; `write` sends the primary one, in the
units of the ODrive and in single precision, and the others as feedforward terms.

## Main results

* `last_setpoint_run`: the setpoint an axis was given last, from the history of requests
  and commands.
* `torques_on_bus`: a bound on the torque commands holds of every torque that is sent.
-/

namespace MarineHil.Ports

open Verified CanHelpers Axis ODriveHardwareInterface

/-- The setpoint of a frame, with the input that it is of. -/
def setpointIn (n : ℕ) (f : CanFrame) : Option (Input × Binary32) :=
  ((hears n setInputPosMsg f).map fun c => (.position, (posInputs c).1)).or
    (((hears n setInputVelMsg f).map fun c => (.velocity, (velInputs c).1)).or
      ((hears n setInputTorqueMsg f).map fun c => (.effort, torqueInput c)))

section Setpoints

variable {α : Type} [Double α] {m : Platform α} {s : ODriveHardwareInterface α} {i : ℕ} {a : Axis α}

/-- A setpoint in the units of the ODrive. -/
def inUnits : Input → α → α
  | .effort, x => x
  | _, x => x / twoPi

/-- The setpoint that an event writes. -/
def commandTo (i : ℕ) (k : Input) : ODriveEvent α → Option α
  | .command j l x => if j = i ∧ l = k then some x else none
  | _ => none

def lastCommand (i : ℕ) (k : Input) (es : List (ODriveEvent α)) : α :=
  (lastSome (commandTo i k) es).getD 0

/-- The setpoint that an event sends, given the events before. -/
def setpointSent (i : ℕ) (joint : String) (before : List (ODriveEvent α)) :
    ODriveEvent α → Option (Input × α)
  | .write => (startedInput joint before).map fun k => (k, inUnits k (lastCommand i k before))
  | _ => none

/-- A setpoint holds what was written last. -/
theorem setpoint_run (i : ℕ) (a : Axis α) (es : List (ODriveEvent α)) (k : Input) :
    (run (axisStep m i) a es).setpoint k =
      (lastSome (commandTo i k) es).getD (a.setpoint k) := by
  refine latch_run (fun b : Axis α => b.setpoint k) (fun b e => ?_) a es
  cases e with
  | activate => rfl
  | deactivate => rfl
  | write => rfl
  | switch startInterfaces stopInterfaces =>
      exact (b.switchInputs_spec startInterfaces stopInterfaces).1.setpoint k
  | command j l x =>
      by_cases hj : j = i
      · simp only [axisStep, commandTo, hj, true_and, if_true, setpoint_setSetpoint]
        split_ifs <;> rfl
      · simp only [axisStep, commandTo, hj, false_and, if_false]
        rfl
  | read fs =>
      have hsame : b.SameButEstimates (axisStep m i b (.read fs)) := sameButEstimates_foldl m b fs
      rw [hsame]
      cases k <;> rfl

/-! ## One event -/

omit [Double α] in
/-- Only setpoints to the address count. -/
theorem setpointIn_eq_none {n : ℕ} {scratch : Scratch} {nodeId : BitVec 32} {msg : Message}
    (h : busId nodeId = n → ∀ k : Input, msg.format.cmdId ≠ k.setpointMsg.cmdId) :
    setpointIn n (frame m scratch nodeId msg) = none := by
  have hhears (k : Input) : hears n k.setpointMsg (frame m scratch nodeId msg) = none := by
    by_cases hnode : busId nodeId = n
    · exact hears_frame_of_ne m scratch (h hnode k)
    · exact hears_frame_of_address_ne m scratch hnode
  have hpos : hears n setInputPosMsg (frame m scratch nodeId msg) = none := hhears .position
  have hvel : hears n setInputVelMsg (frame m scratch nodeId msg) = none := hhears .velocity
  have htorque : hears n setInputTorqueMsg (frame m scratch nodeId msg) = none := hhears .effort
  rw [setpointIn, hpos, hvel, htorque]
  rfl

/-- The setpoint of the primary input is sent in its units. -/
theorem write_setpoint {k : Input} (h : a.primary = some k) :
    ∃ msg, a.write m = [msg] ∧ ∀ scratch,
      setpointIn (busId a.nodeId) (frame m scratch a.nodeId msg) =
        some (k, m.toFloat (inUnits k (a.setpoint k))) := by
  have hmask (x : Binary32) : Binary32.mk (x.bits &&& lowMask 32 32) = x :=
    congrArg Binary32.mk (and_lowMask_self x.bits)
  have hvelPos : setInputVelMsg.cmdId ≠ setInputPosMsg.cmdId := by decide
  have htorquePos : setInputTorqueMsg.cmdId ≠ setInputPosMsg.cmdId := by decide
  have htorqueVel : setInputTorqueMsg.cmdId ≠ setInputVelMsg.cmdId := by decide
  unfold primary at h
  split_ifs at h with hpos hvel htorque
  · obtain rfl := Option.some.inj h
    refine ⟨_, if_pos hpos, fun scratch => ?_⟩
    rw [setpointIn, hears_frame, if_pos rfl]
    exact congrArg (fun x => some (Input.position, x)) (hmask _)
  · obtain rfl := Option.some.inj h
    refine ⟨_, (if_neg hpos).trans (if_pos hvel), fun scratch => ?_⟩
    rw [setpointIn, hears_frame_of_ne m scratch hvelPos, hears_frame, if_pos rfl]
    exact congrArg (fun x => some (Input.velocity, x)) (hmask _)
  · obtain rfl := Option.some.inj h
    refine ⟨_, (if_neg hpos).trans ((if_neg hvel).trans (if_pos htorque)), fun scratch => ?_⟩
    rw [setpointIn, hears_frame_of_ne m scratch htorquePos, hears_frame_of_ne m scratch htorqueVel,
      hears_frame, if_pos rfl]
    exact congrArg (fun x => some (Input.effort, x)) (hmask _)

omit [Double α] in
/-- Frames without a setpoint for the address. -/
theorem lastSome_frames_eq_none {n : ℕ} {stack : ℕ → Scratch} {sent : List Transmission}
    (h : ∀ t ∈ sent, busId t.nodeId = n → ∀ k : Input,
      t.message.format.cmdId ≠ k.setpointMsg.cmdId) :
    lastSome (setpointIn n) (frames m stack sent) = none :=
  lastSome_eq_none_iff.mpr (forall_mem_frames fun t ht _ => setpointIn_eq_none (h t ht))

/-- The last setpoint among the frames of a write. -/
theorem lastSome_wire_write (hs : Distinct s) (ha : s.axes[i]? = some a) (stack : ℕ → Scratch) :
    lastSome (setpointIn (busId a.nodeId)) (wire m s (.write, stack)) =
      a.primary.map fun k => (k, m.toFloat (inUnits k (a.setpoint k))) := by
  obtain ⟨pre, post, hsends, helse⟩ := sends_split (m := m) hs ha .write
  obtain ⟨stack₁, hpre⟩ := exists_frames_append (m := m) stack pre
    (messagesTo m s.active a .write ++ post)
  obtain ⟨stack₂, hpost⟩ := exists_frames_append (m := m) stack₁
    (messagesTo m s.active a .write) post
  have hquiet (sent : List Transmission) (stack : ℕ → Scratch)
      (hsent : ∀ t ∈ sent, busId t.nodeId ≠ busId a.nodeId) :
      lastSome (setpointIn (busId a.nodeId)) (frames m stack sent) = none :=
    lastSome_frames_eq_none fun t ht hnode => absurd hnode (hsent t ht)
  rw [wire, hsends, hpre, hpost, lastSome_append, lastSome_append,
    hquiet pre stack fun t ht => helse t (List.mem_append_left _ ht),
    hquiet post stack₂ fun t ht => helse t (List.mem_append_right _ ht), Option.none_or,
    Option.or_none, messagesTo, axisMessages]
  cases hprimary : a.primary with
  | none =>
      rw [write_of_not_primary m hprimary]
      rfl
  | some k =>
      obtain ⟨msg, hwrite, hsetpoint⟩ := write_setpoint (m := m) hprimary
      rw [hwrite]
      show lastSome _ ([] ++ [frame m (stack₁ 0) a.nodeId msg]) = _
      rw [lastSome_concat, hsetpoint]
      rfl

/-- Other events send none. -/
theorem lastSome_wire_of_ne (hs : Distinct s) (ha : s.axes[i]? = some a) {e : Occurrence α}
    (he : e.1 ≠ .write) : lastSome (setpointIn (busId a.nodeId)) (wire m s e) = none := by
  refine lastSome_frames_eq_none fun t ht hnode k hk => ?_
  obtain ⟨msg, hmem, rfl⟩ := List.mem_map.mp (mem_messagesTo hs ha ht hnode)
  exact he (primary_of_setpoint hmem hk).1

/-! ## Whole runs -/

/-- What a write after some events sends. -/
theorem lastSome_wire_write_run {active : Bool} {joints : List JointInfo}
    (h : onInit m active joints = some s) (hs : Distinct s) (ha : s.axes[i]? = some a)
    (es : List (Occurrence α)) (stack : ℕ → Scratch) :
    lastSome (setpointIn (busId a.nodeId)) (wire m (run (occur m) s es) (.write, stack)) =
      (startedInput a.joint (es.map Prod.fst)).map fun k =>
        (k, m.toFloat (inUnits k (lastCommand i k (es.map Prod.fst)))) := by
  have ha' : (run (occur m) s es).axes[i]? = some (run (axisStep m i) a (es.map Prod.fst)) := by
    rw [run_occur, getElem?_run, ha]
    rfl
  obtain ⟨_, hnode⟩ := axisStep_run (m := m) i a (es.map Prod.fst)
  have hwire := lastSome_wire_write (m := m) (hs.run es) ha' stack
  rw [hnode, primary_run h ha] at hwire
  obtain ⟨joint, nodeId, rfl⟩ := exists_make_of_onInit h ha
  have hsetpoint (k : Input) :
      (run (axisStep m i) (make m joint nodeId) (es.map Prod.fst)).setpoint k =
        lastCommand i k (es.map Prod.fst) := by
    rw [setpoint_run, lastCommand]
    cases k <;> rfl
  simp only [hsetpoint] at hwire
  exact hwire

/-- **The setpoint an axis was given last**: that of the last write with an input started,
as it was commanded last, in the units of the ODrive and in single precision. -/
theorem last_setpoint_run {active : Bool} {joints : List JointInfo}
    (h : onInit m active joints = some s) (hs : Distinct s) (ha : s.axes[i]? = some a)
    (es : List (Occurrence α)) :
    lastSome (setpointIn (busId a.nodeId)) (traffic m s es) =
      (lastOutput (fun before e => before ++ [e]) (setpointSent i a.joint) []
        (es.map Prod.fst)).map fun p => (p.1, m.toFloat p.2) := by
  induction es using List.reverseRecOn with
  | nil => rfl
  | append_singleton es e ih =>
      have hhistory : run (fun before e => before ++ [e]) [] (es.map Prod.fst) =
          es.map Prod.fst := run_history _
      have ha' : (run (occur m) s es).axes[i]? = some (run (axisStep m i) a (es.map Prod.fst)) := by
        rw [run_occur, getElem?_run, ha]
        rfl
      obtain ⟨_, hnode⟩ := axisStep_run (m := m) i a (es.map Prod.fst)
      rw [traffic, emitted_concat, lastSome_append, List.map_append, List.map_singleton,
        lastOutput_concat, hhistory, ← traffic, ih]
      by_cases he : e.1 = .write
      · obtain ⟨event, stack⟩ := e
        obtain rfl : event = .write := he
        rw [lastSome_wire_write_run h hs ha, setpointSent]
        cases startedInput a.joint (es.map Prod.fst) <;> rfl
      · have hwire := lastSome_wire_of_ne (m := m) (hs.run es) ha' he
        have hsent : setpointSent i a.joint (es.map Prod.fst) e.1 = none := by
          cases hevent : e.1 with
          | write => exact absurd hevent he
          | activate => rfl
          | deactivate => rfl
          | switch startInterfaces stopInterfaces => rfl
          | command j k x => rfl
          | read fs => rfl
        rw [hnode] at hwire
        rw [hwire, hsent]
        rfl

theorem last_setpoint_effortStarts :
    lastSome (setpointIn 3) (traffic zeroing twoAxes effortStarts) =
      (lastOutput (fun before e => before ++ [e]) (setpointSent 0 "flap") []
        (effortStarts.map Prod.fst)).map fun p => (p.1, Binary32.ofExt p.2) :=
  last_setpoint_run (a := make zeroing "flap" 3) onInit_twoJoints (by decide) rfl effortStarts

end Setpoints

/-! ## A bound on the torques -/

section Torque

open Binary32

variable {unspecified : Binary32 → BitVec 16} {s : ODriveHardwareInterface ExtRat} {c : ℚ}

/-- The torque, or feedforward torque, of a frame. -/
def torqueIn (n : ℕ) (f : CanFrame) : Option Binary32 :=
  ((hears n setInputPosMsg f).map fun c => (posInputs c).2.2).or
    (((hears n setInputVelMsg f).map fun c => (velInputs c).2).or
      ((hears n setInputTorqueMsg f).map torqueInput))

/-- The torque is a number within the bound, in a position message up to the resolution of
its scaled signals. -/
def TorqueWithin (b : ℚ) (n : ℕ) (f : CanFrame) (x : Binary32) : Prop :=
  ∃ d, x.value = .fin d ∧
    (|d| ≤ b ∨ ((hears n setInputPosMsg f).isSome = true ∧ |d| < b + 101 / 100000))

/-- A number within a bound, as it is sent. -/
theorem exists_value_ofExt {q : ℚ} (hq : |q| ≤ c) (hc : c ≤ 32) :
    ∃ d, (ofExt (.fin q)).value = .fin d ∧ |d| ≤ rounded c ∧ rounded c ≤ 32767 / 1000 := by
  have hlargest := le_largest
  have hpos : 0 ≤ c := (abs_nonneg q).trans hq
  have herror : |rounded c - c| ≤ 1 / 2 ^ 10 := by
    refine abs_rounded_sub_le_of_le ?_ (tiny_le.trans (by norm_num))
    rw [abs_of_nonneg hpos]
    linarith
  refine ⟨rounded q, value_round (nearest_lt_infinity (by linarith)), abs_rounded_le hq, ?_⟩
  rw [abs_le] at herror
  linarith

/-- The messages of a write with a bounded torque setpoint. -/
theorem torqueWithin_write {a : Axis ExtRat} {q : ℚ} (hsetpoint : a.torqueSetpoint = .fin q)
    (hq : |q| ≤ c) (hc : c ≤ 32) {msg : Message} (hmsg : msg ∈ a.write (.ofExtRat unspecified))
    {scratch : Scratch} {n : ℕ} {x : Binary32}
    (hx : torqueIn n (frame (.ofExtRat unspecified) scratch a.nodeId msg) = some x) :
    TorqueWithin (rounded c) n (frame (.ofExtRat unspecified) scratch a.nodeId msg) x := by
  have hfeed : ∃ p, (if a.torqueInputEnabled then a.torqueSetpoint else 0) = .fin p ∧ |p| ≤ c := by
    split_ifs
    · exact ⟨q, hsetpoint, hq⟩
    · exact ⟨0, rfl, by rw [abs_zero]; exact (abs_nonneg q).trans hq⟩
  obtain ⟨p, hp, hpc⟩ := hfeed
  have hnode : busId a.nodeId = n := by
    by_contra hne
    rw [torqueIn, hears_frame_of_address_ne _ scratch hne, hears_frame_of_address_ne _ scratch hne,
      hears_frame_of_address_ne _ scratch hne] at hx
    cases hx
  have hmask (y : Binary32) : Binary32.mk (y.bits &&& lowMask 32 32) = y :=
    congrArg Binary32.mk (and_lowMask_self y.bits)
  have hvelPos : setInputVelMsg.cmdId ≠ setInputPosMsg.cmdId := by decide
  have htorquePos : setInputTorqueMsg.cmdId ≠ setInputPosMsg.cmdId := by decide
  have htorqueVel : setInputTorqueMsg.cmdId ≠ setInputVelMsg.cmdId := by decide
  rw [write, hp] at hmsg
  by_cases hpos : a.posInputEnabled = true
  · rw [if_pos hpos] at hmsg
    obtain rfl := List.mem_singleton.mp hmsg
    obtain ⟨d, hd, hdc, hsmall⟩ := exists_value_ofExt hpc hc
    obtain ⟨e, he, hed⟩ := abs_transmitted_milli_sub_lt unspecified hd (hdc.trans hsmall)
    rw [torqueIn, hears_frame, if_pos hnode] at hx
    have hxe : x.value = .fin e := by
      rw [← Option.some.inj hx]
      show (unscaled (scaledVal 16 unspecified _ milli noOffset &&& lowMask 16 16) _ _).value = _
      rw [and_lowMask_self]
      exact he
    refine ⟨e, hxe, Or.inr ⟨by rw [hears_frame, if_pos hnode]; rfl, ?_⟩⟩
    have htriangle := abs_sub_abs_le_abs_sub e d
    linarith
  · rw [if_neg hpos] at hmsg
    split_ifs at hmsg
    · obtain rfl := List.mem_singleton.mp hmsg
      obtain ⟨d, hd, hdc, _⟩ := exists_value_ofExt hpc hc
      rw [torqueIn, hears_frame_of_ne _ scratch hvelPos, hears_frame, if_pos hnode] at hx
      rw [← Option.some.inj hx]
      exact ⟨d, (congrArg Binary32.value (hmask _)).trans hd, Or.inl hdc⟩
    · obtain rfl := List.mem_singleton.mp hmsg
      obtain ⟨d, hd, hdc, _⟩ := exists_value_ofExt hq hc
      rw [torqueIn, hears_frame_of_ne _ scratch htorquePos, hears_frame_of_ne _ scratch htorqueVel,
        hears_frame, if_pos hnode, hsetpoint] at hx
      rw [← Option.some.inj hx]
      exact ⟨d, (congrArg Binary32.value (hmask _)).trans hd, Or.inl hdc⟩
    · exact absurd hmsg List.not_mem_nil

/-- Every effort command of a run is a number within the bound. -/
def CommandsWithin (c : ℚ) (es : List (ODriveEvent ExtRat)) : Prop :=
  ∀ i x, .command i .effort x ∈ es → ∃ q, x = .fin q ∧ |q| ≤ c

/-- So is the setpoint. -/
theorem exists_lastCommand {es : List (ODriveEvent ExtRat)} (hes : CommandsWithin c es)
    (hc : 0 ≤ c) (i : ℕ) : ∃ q, lastCommand i .effort es = .fin q ∧ |q| ≤ c := by
  rw [lastCommand]
  cases hlast : lastSome (commandTo i .effort) es with
  | none => exact ⟨0, rfl, by rwa [abs_zero]⟩
  | some x =>
      obtain ⟨pre, e, post, rfl, he, _⟩ := lastSome_eq_some_iff.mp hlast
      cases e with
      | command j l y =>
          rw [commandTo] at he
          split_ifs at he with hjl
          obtain ⟨rfl, rfl⟩ := hjl
          obtain rfl := Option.some.inj he
          exact hes j y (by simp)
      | activate => cases he
      | deactivate => cases he
      | switch startInterfaces stopInterfaces => cases he
      | read fs => cases he
      | write => cases he

/-- A torque comes with a setpoint. -/
theorem exists_setpointMsg_of_torqueIn {scratch : Scratch} {nodeId : BitVec 32} {msg : Message}
    {n : ℕ} {x : Binary32}
    (hx : torqueIn n (frame (.ofExtRat unspecified) scratch nodeId msg) = some x) :
    ∃ k : Input, msg.format.cmdId = k.setpointMsg.cmdId := by
  by_contra hnone
  rw [not_exists] at hnone
  have hhears (k : Input) :
      hears n k.setpointMsg (frame (.ofExtRat unspecified) scratch nodeId msg) = none :=
    hears_frame_of_ne _ scratch (hnone k)
  have hpos : hears n setInputPosMsg (frame (.ofExtRat unspecified) scratch nodeId msg) = none :=
    hhears .position
  have hvel : hears n setInputVelMsg (frame (.ofExtRat unspecified) scratch nodeId msg) = none :=
    hhears .velocity
  have htorque : hears n setInputTorqueMsg (frame (.ofExtRat unspecified) scratch nodeId msg) =
      none := hhears .effort
  rw [torqueIn, hpos, hvel, htorque] at hx
  cases hx

/-- Every torque that is sent after bounded commands. -/
theorem torqueWithin_wire {active : Bool} {joints : List JointInfo}
    (h : onInit (.ofExtRat unspecified) active joints = some s) {pre : List (Occurrence ExtRat)}
    (hpre : CommandsWithin c (pre.map Prod.fst)) (hc : 0 ≤ c ∧ c ≤ 32) {e : Occurrence ExtRat}
    {f : CanFrame}
    (hf : f ∈ wire (.ofExtRat unspecified) (run (occur (.ofExtRat unspecified)) s pre) e) {n : ℕ}
    {x : Binary32} (hx : torqueIn n f = some x) : TorqueWithin (rounded c) n f x := by
  obtain ⟨t, ht, scratch, rfl⟩ := mem_frames hf
  obtain ⟨b, hb, hmem⟩ := List.mem_flatMap.mp ht
  obtain ⟨msg, hmsg, rfl⟩ := List.mem_map.mp hmem
  obtain ⟨k, hk⟩ := exists_setpointMsg_of_torqueIn hx
  obtain ⟨hwrite, _⟩ := primary_of_setpoint hmsg hk
  rw [hwrite, axisMessages] at hmsg
  -- the setpoint is the last command before the write
  obtain ⟨j, hj⟩ := List.mem_iff_getElem?.mp hb
  rw [run_occur, getElem?_run, Option.map_eq_some_iff] at hj
  obtain ⟨a, ha, rfl⟩ := hj
  have hsetpoint : (run (axisStep (.ofExtRat unspecified) j) a (pre.map Prod.fst)).torqueSetpoint =
      lastCommand j .effort (pre.map Prod.fst) := by
    obtain ⟨joint, nodeId, rfl⟩ := exists_make_of_onInit h ha
    exact setpoint_run j _ _ .effort
  obtain ⟨q, hq, hqc⟩ := exists_lastCommand hpre hc.1 j
  exact torqueWithin_write (hsetpoint.trans hq) hqc hc.2 hmsg hx

theorem CommandsWithin.left {es fs : List (ODriveEvent ExtRat)} (h : CommandsWithin c (es ++ fs)) :
    CommandsWithin c es :=
  fun i x hx => h i x (List.mem_append_left _ hx)

/-- **A bound on the torque commands holds of every torque that is sent**, up to the bound's
rounding, and in a position message up to the resolution of its signals. -/
theorem torques_on_bus {active : Bool} {joints : List JointInfo}
    (h : onInit (.ofExtRat unspecified) active joints = some s) {es : List (Occurrence ExtRat)}
    (hes : CommandsWithin c (es.map Prod.fst)) (hc : 0 ≤ c ∧ c ≤ 32) :
    ∀ f ∈ traffic (.ofExtRat unspecified) s es, ∀ n x, torqueIn n f = some x →
      TorqueWithin (rounded c) n f x := by
  intro f hf n x hx
  obtain ⟨pre, e, post, rfl, hwire⟩ := mem_emitted hf
  rw [List.map_append] at hes
  exact torqueWithin_wire h hes.left hc hwire hx

/-- The setpoint of the controller of the flap's effort. -/
def effortFrame : CanFrame :=
  frame zeroing blank 3 ⟨setInputTorqueMsg, setInputTorque (ofExt (.fin (1 / 2)))⟩

theorem effortFrame_sent : effortFrame ∈ traffic zeroing twoAxes effortStarts :=
  List.mem_iff_getElem?.mpr ⟨5, rfl⟩

theorem torqueIn_effortFrame : torqueIn 3 effortFrame = some (ofExt (.fin (1 / 2))) := by
  have hpos : setInputTorqueMsg.cmdId ≠ setInputPosMsg.cmdId := by decide
  have hvel : setInputTorqueMsg.cmdId ≠ setInputVelMsg.cmdId := by decide
  have hnode : busId 3 = 3 := by decide
  rw [torqueIn, effortFrame, hears_frame_of_ne zeroing blank hpos,
    hears_frame_of_ne zeroing blank hvel, hears_frame, if_pos hnode]
  exact congrArg (fun bits => some (Binary32.mk bits)) (and_lowMask_self _)

/-- The only effort that is commanded there. -/
theorem command_effortStarts {i : ℕ} {x : ExtRat}
    (h : .command i .effort x ∈ effortStarts.map Prod.fst) : x = .fin (1 / 2) := by
  simp only [effortStarts, List.map_cons, List.map_nil, List.mem_cons, List.not_mem_nil, or_false,
    reduceCtorEq, false_or, ODriveEvent.command.injEq] at h
  exact h.2.2

theorem torques_on_bus_effortStarts :
    TorqueWithin (rounded 1) 3 effortFrame (ofExt (.fin (1 / 2))) := by
  refine torques_on_bus onInit_twoJoints (fun i x hx => ?_) ⟨by norm_num, by norm_num⟩ _
    effortFrame_sent _ _ torqueIn_effortFrame
  exact ⟨1 / 2, command_effortStarts hx, by norm_num⟩

/-- **What a drive makes of a position message**: the position as it was sent, and each
feedforward up to 32.767 to less than 1.01 thousandths. -/
theorem setInputPos_received (unspecified : Binary32 → BitVec 16) (scratch : Scratch)
    (nodeId : BitVec 32) (pos : Binary32) {velFF torqueFF : Binary32} {v t : ℚ}
    (hvel : velFF.value = .fin v) (htorque : torqueFF.value = .fin t) (hv : |v| ≤ 32767 / 1000)
    (ht : |t| ≤ 32767 / 1000) :
    ∃ c, hears (busId nodeId) setInputPosMsg (frame (.ofExtRat unspecified) scratch nodeId
        ⟨setInputPosMsg, setInputPos pos velFF torqueFF⟩) = some c ∧ (posInputs c).1 = pos ∧
      (∃ d, (posInputs c).2.1.value = .fin d ∧ |d - v| < 101 / 100000) ∧
        ∃ d, (posInputs c).2.2.value = .fin d ∧ |d - t| < 101 / 100000 := by
  obtain ⟨dv, hdv, hvel'⟩ := abs_transmitted_milli_sub_lt unspecified hvel hv
  obtain ⟨dt, hdt, htorque'⟩ := abs_transmitted_milli_sub_lt unspecified htorque ht
  refine ⟨_, by rw [hears_frame, if_pos rfl], ?_, ⟨dv, ?_, hvel'⟩, dt, ?_, htorque'⟩
  · exact congrArg Binary32.mk (and_lowMask_self pos.bits)
  · show (unscaled (scaledVal 16 unspecified velFF milli noOffset &&& lowMask 16 16) _ _).value = _
    rw [and_lowMask_self]
    exact hdv
  · show (unscaled (scaledVal 16 unspecified torqueFF milli noOffset &&& lowMask 16 16) _ _).value =
      _
    rw [and_lowMask_self]
    exact hdt

/-- One revolution, with feedforwards of -2.5 and 0.25. -/
theorem setInputPos_received_feedforwards :
    ∃ c, hears (busId 3) setInputPosMsg (frame zeroing blank 3
        ⟨setInputPosMsg, setInputPos ⟨0x3f800000⟩ ⟨0xc0200000⟩ ⟨0x3e800000⟩⟩) = some c ∧
      (posInputs c).1 = ⟨0x3f800000⟩ ∧
      (∃ d, (posInputs c).2.1.value = .fin d ∧ |d - -(5 / 2)| < 101 / 100000) ∧
        ∃ d, (posInputs c).2.2.value = .fin d ∧ |d - 1 / 4| < 101 / 100000 := by
  have hvel : (Binary32.mk 0xc0200000).value = .fin (-(5 / 2)) := by decide +kernel
  have htorque : (Binary32.mk 0x3e800000).value = .fin (1 / 4) := by decide +kernel
  refine setInputPos_received _ blank 3 _ hvel htorque ?_ ?_
  · rw [abs_neg, abs_of_nonneg (by norm_num)]
    norm_num
  · rw [abs_of_nonneg (by norm_num)]
    norm_num

end Torque

end MarineHil.Ports
