import MarineHil.Ports.ODriveHardwareInterface

/-!
# What the ODrives are told

A listener at an address of the bus decodes the frames of that address and remembers the
state and the control mode that were requested last.  It knows nothing of the driver:
what it remembers is to be compared with what the controllers asked for, with whatever the
stack put into the frames.

The addresses of the axes must differ; the shift that makes them of the node ids drops
the ids' five high bits.

## Main results

* `heard_of_concerns`: a request has an axis told what it is commanded to do from now on.
* `receive_of_not_concerns`: nothing else changes what was heard.
* `commanded_run`: what an axis is commanded to do is what the requests so far have it do.
-/

namespace MarineHil.Ports

open Verified Axis

/-- The message of a frame, if it is of the format and for the address. -/
def hears (n : ℕ) (f : MessageFormat) (frame : CanFrame) : Option (Contents f.signals) :=
  if address frame = n ∧ cmd frame = f.cmdId then tryDecode f frame else none

/-- What was heard last. -/
structure Heard where
  requestedState : Option (BitVec 32)
  controlMode : Option (BitVec 32)
  inputMode : Option (BitVec 32)

namespace Heard

def nothing : Heard := ⟨none, none, none⟩

def receive (n : ℕ) (h : Heard) (frame : CanFrame) : Heard where
  requestedState := ((hears n setAxisStateMsg frame).map axisRequestedState).or h.requestedState
  controlMode := ((hears n setControllerModeMsg frame).map fun c => (modes c).1).or h.controlMode
  inputMode := ((hears n setControllerModeMsg frame).map fun c => (modes c).2).or h.inputMode

end Heard

/-- The frames of what is sent, each with a stack of its own. -/
def frames {α : Type} (m : Platform α) : (ℕ → Scratch) → List Transmission → List CanFrame
  | _, [] => []
  | stack, t :: rest =>
      frame m (stack 0) t.nodeId t.message :: frames m (fun i => stack (i + 1)) rest

section Wire

variable {α : Type} (m : Platform α) (scratch : Scratch) {n : ℕ}

/-- A frame is heard as the message it was made of. -/
theorem hears_frame (nodeId : BitVec 32) (f : MessageFormat) (c : Contents f.signals) :
    hears n f (frame m scratch nodeId ⟨f, c⟩) =
      if busId nodeId = n then some (transmitted m.unspecified f.signals c) else none := by
  have hdecode : tryDecode f (frame m scratch nodeId ⟨f, c⟩) =
      some (transmitted m.unspecified f.signals c) :=
    (if_neg (lt_irrefl _)).trans (congrArg some (f.decodeBuf_payload c fun _ _ => rfl))
  rw [hears, address_frame, cmd_frame, hdecode]
  simp only [and_true]

theorem hears_frame_of_ne {f : MessageFormat} {nodeId : BitVec 32} {msg : Message}
    (h : msg.format.cmdId ≠ f.cmdId) : hears n f (frame m scratch nodeId msg) = none :=
  if_neg fun hhears => h ((cmd_frame m scratch nodeId msg).symm.trans hhears.2)

theorem hears_frame_of_address_ne {f : MessageFormat} {nodeId : BitVec 32} {msg : Message}
    (h : busId nodeId ≠ n) : hears n f (frame m scratch nodeId msg) = none :=
  if_neg fun hhears => h ((address_frame m scratch nodeId msg).symm.trans hhears.1)

end Wire

/-! ## One message -/

section Receive

variable {α : Type} {m : Platform α} {scratch : Scratch} {n : ℕ} {nodeId : BitVec 32} {h : Heard}

theorem receive_of_address_ne {msg : Message} (hne : busId nodeId ≠ n) :
    h.receive n (frame m scratch nodeId msg) = h := by
  rw [Heard.receive, hears_frame_of_address_ne m scratch hne,
    hears_frame_of_address_ne m scratch hne]
  rfl

theorem receive_of_ne {msg : Message} (hstate : msg.format.cmdId ≠ setAxisStateMsg.cmdId)
    (hmode : msg.format.cmdId ≠ setControllerModeMsg.cmdId) :
    h.receive n (frame m scratch nodeId msg) = h := by
  rw [Heard.receive, hears_frame_of_ne m scratch hstate, hears_frame_of_ne m scratch hmode]
  rfl

theorem receive_setAxisState (x : BitVec 32) :
    h.receive (busId nodeId) (frame m scratch nodeId ⟨setAxisStateMsg, setAxisState x⟩) =
      { h with requestedState := some x } := by
  have hmode : setAxisStateMsg.cmdId ≠ setControllerModeMsg.cmdId := by decide
  rw [Heard.receive, hears_frame, if_pos rfl, hears_frame_of_ne m scratch hmode]
  show (⟨some (x &&& lowMask 32 32), h.controlMode, h.inputMode⟩ : Heard) = _
  rw [and_lowMask_self]

theorem receive_setControllerMode (x y : BitVec 32) :
    h.receive (busId nodeId)
      (frame m scratch nodeId ⟨setControllerModeMsg, setControllerMode x y⟩) =
      { h with controlMode := some x, inputMode := some y } := by
  have hstate : setControllerModeMsg.cmdId ≠ setAxisStateMsg.cmdId := by decide
  rw [Heard.receive, hears_frame, if_pos rfl, hears_frame_of_ne m scratch hstate]
  show (⟨h.requestedState, some (x &&& lowMask 32 32), some (y &&& lowMask 32 32)⟩ : Heard) = _
  rw [and_lowMask_self, and_lowMask_self]

end Receive

/-! ## Lists of messages -/

section Frames

variable {α : Type} {m : Platform α} {n : ℕ} {h : Heard}

theorem exists_frames_append (stack : ℕ → Scratch) (sent more : List Transmission) :
    ∃ stack', frames m stack (sent ++ more) = frames m stack sent ++ frames m stack' more := by
  induction sent generalizing stack with
  | nil => exact ⟨stack, rfl⟩
  | cons t sent ih =>
      obtain ⟨stack', hstack⟩ := ih fun i => stack (i + 1)
      exact ⟨stack', congrArg (frame m (stack 0) t.nodeId t.message :: ·) hstack⟩

/-- A condition on the messages sent is one on their frames. -/
theorem forall_mem_frames {P : CanFrame → Prop} {stack : ℕ → Scratch} {sent : List Transmission}
    (hsent : ∀ t ∈ sent, ∀ scratch, P (frame m scratch t.nodeId t.message)) :
    ∀ f ∈ frames m stack sent, P f := by
  induction sent generalizing stack with
  | nil => exact fun f hf => absurd hf List.not_mem_nil
  | cons t sent ih =>
      intro f hf
      rcases List.mem_cons.mp hf with rfl | hf
      · exact hsent t List.mem_cons_self _
      · exact ih (fun t' ht' => hsent t' (List.mem_cons_of_mem t ht')) f hf

theorem mem_frames {stack : ℕ → Scratch} {sent : List Transmission} {f : CanFrame}
    (hf : f ∈ frames m stack sent) :
    ∃ t ∈ sent, ∃ scratch, f = frame m scratch t.nodeId t.message :=
  forall_mem_frames (P := fun f => ∃ t ∈ sent, ∃ scratch, f = frame m scratch t.nodeId t.message)
    (fun t ht scratch => ⟨t, ht, scratch, rfl⟩) f hf

/-- Frames that change nothing. -/
theorem run_receive_eq_self {fs : List CanFrame} (hfs : ∀ f ∈ fs, ∀ h : Heard, h.receive n f = h) :
    run (Heard.receive n) h fs = h :=
  invariant_run_of_mem (I := fun h' => h' = h) (fun h' f hf hh' => (hfs f hf h').trans hh') rfl

end Frames

/-! ## One event -/

/-- What an axis is to be heard as when it is commanded to follow an input, or none. -/
def Heard.told (c : Option Input) (h : Heard) : Heard :=
  match c with
  | some k => ⟨some axisStateClosedLoopControl, some k.controlMode, some inputModePassthrough⟩
  | none => { h with requestedState := some axisStateIdle }

section Event

variable {α : Type} {m : Platform α} {h : Heard}

theorem run_setAxisCommandMode (stack : ℕ → Scratch) (active : Bool) (a : Axis α) (h : Heard) :
    run (Heard.receive (busId a.nodeId)) h
      (frames m stack ((a.setAxisCommandMode active).map fun msg => ⟨a.nodeId, msg⟩)) =
      h.told (a.commanded active) := by
  rw [setAxisCommandMode_eq]
  cases a.commanded active with
  | none => exact receive_setAxisState axisStateIdle
  | some k =>
      have hclear (scratch : Scratch) (h : Heard) : h.receive (busId a.nodeId)
          (frame m scratch a.nodeId ⟨clearErrorsMsg, clearErrors 0⟩) = h :=
        receive_of_ne (by decide) (by decide)
      simp only [setAxisCommandMode.engage, List.map_cons, List.map_nil, frames, run_cons, run_nil]
      rw [receive_setControllerMode, hclear, receive_setAxisState]
      rfl

variable [Double α]

/-- The state and mode of an axis are requested anew by this event. -/
def Concerns (joint : String) : ODriveEvent α → Prop
  | .activate => True
  | .deactivate => True
  | .switch startInterfaces stopInterfaces => ∃ k : Input,
      joint ++ "/" ++ k.interface ∈ startInterfaces ∨ joint ++ "/" ++ k.interface ∈ stopInterfaces
  | _ => False

/-- A setpoint is neither a state nor a mode. -/
theorem setpointMsg_cmdId_ne (k : Input) : k.setpointMsg.cmdId ≠ setAxisStateMsg.cmdId ∧
    k.setpointMsg.cmdId ≠ setControllerModeMsg.cmdId ∧
    k.setpointMsg.cmdId ≠ clearErrorsMsg.cmdId := by
  cases k <;> decide

/-- Different inputs have different setpoints. -/
theorem setpointMsg_cmdId_injective : Function.Injective fun k : Input => k.setpointMsg.cmdId := by
  intro k l h
  cases k <;> cases l <;> first | rfl | exact absurd h (by decide)

end Event

/-! ## One axis among the others -/

section OneAxis

variable {α : Type} [Double α] {m : Platform α} {s : ODriveHardwareInterface α} {i : ℕ} {a : Axis α}

open ODriveHardwareInterface

/-- The addresses of the axes differ. -/
def Distinct (s : ODriveHardwareInterface α) : Prop :=
  (s.axes.map fun a => busId a.nodeId).Nodup

instance (s : ODriveHardwareInterface α) : Decidable (Distinct s) :=
  inferInstanceAs (Decidable (List.Nodup _))

theorem Distinct.step (hs : Distinct s) (e : ODriveEvent α) :
    Distinct (ODriveHardwareInterface.step m s e) := by
  have hmap (t : ODriveHardwareInterface α) :
      (t.axes.map fun a => busId a.nodeId) = (t.axes.map Axis.nodeId).map busId := by
    rw [List.map_map]
    rfl
  unfold Distinct at *
  rwa [hmap, map_nodeId_step, ← hmap]

/-- What is sent to an axis, among all that is sent. -/
def messagesTo (m : Platform α) (active : Bool) (a : Axis α) (e : ODriveEvent α) :
    List Transmission :=
  (axisMessages m active a e).map fun msg => ⟨a.nodeId, msg⟩

theorem sends_split (hs : Distinct s) (ha : s.axes[i]? = some a) (e : ODriveEvent α) :
    ∃ pre post, s.sends m e = pre ++ (messagesTo m s.active a e ++ post) ∧
      ∀ t ∈ pre ++ post, busId t.nodeId ≠ busId a.nodeId := by
  obtain ⟨pre, post, haxes⟩ := List.append_of_mem (List.mem_of_getElem? ha)
  refine ⟨pre.flatMap fun b => messagesTo m s.active b e,
    post.flatMap fun b => messagesTo m s.active b e, ?_, ?_⟩
  · show s.axes.flatMap (fun b => messagesTo m s.active b e) = _
    rw [haxes, List.flatMap_append, List.flatMap_cons]
  · intro t ht heq
    unfold Distinct at hs
    rw [haxes, List.map_append, List.map_cons, List.nodup_middle, List.nodup_cons,
      ← List.map_append] at hs
    rw [← List.flatMap_append, List.mem_flatMap] at ht
    obtain ⟨b, hb, ht⟩ := ht
    obtain ⟨msg, _, rfl⟩ := List.mem_map.mp ht
    exact hs.1 (List.mem_map.mpr ⟨b, hb, heq⟩)

/-- A message for an address is one to its axis. -/
theorem mem_messagesTo (hs : Distinct s) (ha : s.axes[i]? = some a) {e : ODriveEvent α}
    {t : Transmission} (ht : t ∈ s.sends m e) (hnode : busId t.nodeId = busId a.nodeId) :
    t ∈ messagesTo m s.active a e := by
  obtain ⟨pre, post, hsends, helse⟩ := sends_split (m := m) hs ha e
  rw [hsends, List.mem_append, List.mem_append] at ht
  rcases ht with hpre | hto | hpost
  · exact absurd hnode (helse t (List.mem_append_left _ hpre))
  · exact hto
  · exact absurd hnode (helse t (List.mem_append_right _ hpost))

/-- A listener hears the messages to its axis only. -/
theorem exists_run_sends (hs : Distinct s) (ha : s.axes[i]? = some a) (e : ODriveEvent α)
    (stack : ℕ → Scratch) (h : Heard) :
    ∃ stack', run (Heard.receive (busId a.nodeId)) h (frames m stack (s.sends m e)) =
      run (Heard.receive (busId a.nodeId)) h (frames m stack' (messagesTo m s.active a e)) := by
  obtain ⟨pre, post, hsends, helse⟩ := sends_split (m := m) hs ha e
  obtain ⟨stack₁, hpre⟩ := exists_frames_append (m := m) stack pre
    (messagesTo m s.active a e ++ post)
  obtain ⟨stack₂, hpost⟩ := exists_frames_append (m := m) stack₁ (messagesTo m s.active a e) post
  have hquiet (sent : List Transmission) (stack : ℕ → Scratch) (h : Heard)
      (hsent : ∀ t ∈ sent, busId t.nodeId ≠ busId a.nodeId) :
      run (Heard.receive (busId a.nodeId)) h (frames m stack sent) = h :=
    run_receive_eq_self (forall_mem_frames fun t ht _ _ => receive_of_address_ne (hsent t ht))
  refine ⟨stack₁, ?_⟩
  rw [hsends, hpre, hpost, run_append, run_append,
    hquiet pre stack h fun t ht => helse t (List.mem_append_left _ ht),
    hquiet post stack₂ _ fun t ht => helse t (List.mem_append_right _ ht)]

/-- An event that concerns an axis has it told what it is commanded to do from now on. -/
theorem heard_of_concerns (hs : Distinct s) (ha : s.axes[i]? = some a) {e : ODriveEvent α}
    (he : Concerns a.joint e) (stack : ℕ → Scratch) (h : Heard) :
    run (Heard.receive (busId a.nodeId)) h (frames m stack (s.sends m e)) =
      h.told ((axisStep m i a e).commanded (step m s e).active) := by
  obtain ⟨stack', hrun⟩ := exists_run_sends (m := m) hs ha e stack h
  rw [hrun]
  cases e with
  | activate => exact run_setAxisCommandMode stack' true a h
  | deactivate => exact run_setAxisCommandMode stack' false a h
  | switch startInterfaces stopInterfaces =>
      obtain ⟨hsame, _, hswitch⟩ := a.switchInputs_spec startInterfaces stopInterfaces
      have htold := run_setAxisCommandMode (m := m) stack' s.active
        (a.switchInputs startInterfaces stopInterfaces).1 h
      rw [hsame.nodeId] at htold
      rw [messagesTo, axisMessages, if_pos (hswitch.mpr he)]
      exact htold
  | command j k x => exact he.elim
  | read fs => exact he.elim
  | write => exact he.elim

/-- No frame of any other event is one of state or mode for the axis. -/
theorem receive_of_not_concerns (hs : Distinct s) (ha : s.axes[i]? = some a) {e : ODriveEvent α}
    (he : ¬Concerns a.joint e) (stack : ℕ → Scratch) :
    ∀ f ∈ frames m stack (s.sends m e), ∀ h : Heard, h.receive (busId a.nodeId) f = h := by
  refine forall_mem_frames fun t ht scratch h => ?_
  by_cases hnode : busId t.nodeId = busId a.nodeId
  · obtain ⟨msg, hmem, rfl⟩ := List.mem_map.mp (mem_messagesTo hs ha ht hnode)
    cases e with
    | activate => exact absurd trivial he
    | deactivate => exact absurd trivial he
    | command j k x => exact absurd hmem List.not_mem_nil
    | read fs => exact absurd hmem List.not_mem_nil
    | switch startInterfaces stopInterfaces =>
        obtain ⟨_, _, hswitch⟩ := a.switchInputs_spec startInterfaces stopInterfaces
        rw [axisMessages, if_neg fun htrue => he (hswitch.mp htrue)] at hmem
        exact absurd hmem List.not_mem_nil
    | write =>
        rw [axisMessages] at hmem
        cases hprimary : a.primary with
        | none =>
            rw [write_of_not_primary m hprimary] at hmem
            exact absurd hmem List.not_mem_nil
        | some k =>
            obtain ⟨c, hwrite⟩ := write_of_primary m hprimary
            obtain ⟨hstate, hmode, _⟩ := setpointMsg_cmdId_ne k
            rw [hwrite] at hmem
            obtain rfl := List.mem_singleton.mp hmem
            exact receive_of_ne hstate hmode
  · exact receive_of_address_ne hnode

/-- Nor does it change what the axis is commanded to do. -/
theorem commanded_of_not_concerns {e : ODriveEvent α} (he : ¬Concerns a.joint e) :
    (axisStep m i a e).commanded (step m s e).active = a.commanded s.active := by
  cases e with
  | activate => exact absurd trivial he
  | deactivate => exact absurd trivial he
  | switch startInterfaces stopInterfaces =>
      obtain ⟨_, _, hswitch⟩ := a.switchInputs_spec startInterfaces stopInterfaces
      have hfalse : (a.switchInputs startInterfaces stopInterfaces).2 = false :=
        Bool.eq_false_of_not_eq_true fun htrue => he (hswitch.mp htrue)
      rw [axisStep, switchInputs_eq_self hfalse]
      rfl
  | command j k x => exact commanded_of_enabled (axisStep_spec i a _).2.2
  | read fs =>
      rw [step, active_foldl_onCanMsg]
      exact commanded_of_enabled (axisStep_spec i a _).2.2
  | write => rfl

/-! ## Whole runs -/

/-- An event, and the stack that its frames find. -/
abbrev Occurrence (α : Type) := ODriveEvent α × (ℕ → Scratch)

def occur (m : Platform α) (s : ODriveHardwareInterface α) (e : Occurrence α) :
    ODriveHardwareInterface α := s.step m e.1

/-- The frames on the bus that an event leads to. -/
def wire (m : Platform α) (s : ODriveHardwareInterface α) (e : Occurrence α) : List CanFrame :=
  frames m e.2 (s.sends m e.1)

/-- All the frames of a run. -/
def traffic (m : Platform α) (s : ODriveHardwareInterface α) (es : List (Occurrence α)) :
    List CanFrame := emitted (occur m) (wire m) s es

def activation : ODriveEvent α → Option Bool
  | .activate => some true
  | .deactivate => some false
  | _ => none

/-- The first input, in the order of precedence, that was started after it was last
stopped. -/
def startedInput (joint : String) (es : List (ODriveEvent α)) : Option Input :=
  [.position, .velocity, .effort].find? fun k : Input =>
    (lastSome (keyChange (joint ++ "/" ++ k.interface)) es).getD false

/-- The input that the requests so far have an axis follow. -/
def requestedInput (active : Bool) (joint : String) (es : List (ODriveEvent α)) : Option Input :=
  if (lastSome activation es).getD active then startedInput joint es else none

/-- An axis after a run. -/
theorem getElem?_run (s : ODriveHardwareInterface α) (es : List (ODriveEvent α)) (i : ℕ) :
    (run (step m) s es).axes[i]? = s.axes[i]?.map fun a => run (axisStep m i) a es := by
  induction es using List.reverseRecOn with
  | nil => exact Option.map_id'.symm
  | append_singleton es e ih =>
      rw [run_concat, getElem?_step, ih, Option.map_map]
      congr 1
      funext a
      exact (run_concat a es e).symm

theorem axisStep_run (i : ℕ) (a : Axis α) (es : List (ODriveEvent α)) :
    (run (axisStep m i) a es).joint = a.joint ∧ (run (axisStep m i) a es).nodeId = a.nodeId := by
  refine invariant_run (I := fun b : Axis α => b.joint = a.joint ∧ b.nodeId = a.nodeId)
    (fun b e hb => ?_) ⟨rfl, rfl⟩ es
  obtain ⟨hjoint, hnode, _⟩ := axisStep_spec (m := m) i b e
  exact ⟨hjoint.trans hb.1, hnode.trans hb.2⟩

/-- A flag holds what was asked for last. -/
theorem enabled_run (i : ℕ) (a : Axis α) (es : List (ODriveEvent α)) (k : Input) :
    (run (axisStep m i) a es).enabled k =
      (lastSome (keyChange (a.key k)) es).getD (a.enabled k) := by
  refine latch_run_of_invariant (fun b => b.enabled k) (I := fun b => b.joint = a.joint)
    (fun b e hb => ((axisStep_spec i b e).1).trans hb) (fun b e hb => ?_) rfl es
  rw [(axisStep_spec i b e).2.2 k, key, hb]
  rfl

theorem active_run (s : ODriveHardwareInterface α) (es : List (ODriveEvent α)) :
    (run (step m) s es).active = (lastSome activation es).getD s.active := by
  refine latch_run (fun t : ODriveHardwareInterface α => t.active) (fun t e => ?_) s es
  cases e with
  | read fs => exact active_foldl_onCanMsg t fs
  | activate => rfl
  | deactivate => rfl
  | switch startInterfaces stopInterfaces => rfl
  | command j k x => rfl
  | write => rfl

theorem primary_run {active : Bool} {joints : List JointInfo}
    (h : onInit m active joints = some s) (ha : s.axes[i]? = some a)
    (es : List (ODriveEvent α)) :
    (run (axisStep m i) a es).primary = startedInput a.joint es := by
  obtain ⟨joint, nodeId, rfl⟩ := exists_make_of_onInit h ha
  have hflag (k : Input) : (run (axisStep m i) (make m joint nodeId) es).enabled k =
      (lastSome (keyChange (joint ++ "/" ++ k.interface)) es).getD false := by
    rw [enabled_run]
    cases k <;> rfl
  rw [primary_eq_find, funext hflag]
  rfl

/-- **The driver follows the requests.** -/
theorem commanded_run {active : Bool} {joints : List JointInfo}
    (h : onInit m active joints = some s) (ha : s.axes[i]? = some a)
    (es : List (ODriveEvent α)) :
    (run (axisStep m i) a es).commanded (run (step m) s es).active =
      requestedInput active a.joint es := by
  rw [commanded, active_run, (onInit_spec h).1, requestedInput, primary_run h ha]

/-- The events of a run. -/
theorem run_occur (s : ODriveHardwareInterface α) (es : List (Occurrence α)) :
    run (occur m) s es = run (step m) s (es.map Prod.fst) := by
  rw [run, run, List.foldl_map]
  rfl

theorem Distinct.run (hs : Distinct s) (es : List (Occurrence α)) :
    Distinct (Verified.run (occur m) s es) :=
  invariant_run (I := Distinct) (fun _ e ht => ht.step e.1) hs es

/-- A machine that makes 0 of what it cannot convert. -/
def zeroing : Platform ExtRat := .ofExtRat fun _ => 0#16

def blank : Scratch := ⟨fun _ => 0, fun _ => 0⟩

/-- Two joints at the addresses 3 and 5. -/
def twoJoints : List JointInfo :=
  [⟨"flap", [("node_id", "3")]⟩, ⟨"pto", [("can", "x"), ("node_id", " 5")]⟩]

def twoAxes : ODriveHardwareInterface ExtRat :=
  ⟨true, [make zeroing "flap" 3, make zeroing "pto" 5]⟩

theorem onInit_twoJoints : onInit zeroing true twoJoints = some twoAxes := rfl

/-- A controller of the flap's effort starts, and writes once. -/
def effortStarts : List (Occurrence ExtRat) :=
  [.activate, .switch ["flap/effort"] [], .command 0 .effort (.fin (1 / 2)), .write].map fun e =>
    (e, fun _ => blank)

omit [Double α] in
/-- A command mode is set without a setpoint. -/
theorem setAxisCommandMode_cmdId_ne (active : Bool) (a : Axis α) (k : Input) :
    ∀ msg ∈ a.setAxisCommandMode active, msg.format.cmdId ≠ k.setpointMsg.cmdId := by
  obtain ⟨hstate, hmode, hclear⟩ := setpointMsg_cmdId_ne k
  intro msg hmsg
  rw [setAxisCommandMode_eq] at hmsg
  cases hc : a.commanded active with
  | some l =>
      rw [hc] at hmsg
      simp only [setAxisCommandMode.engage, List.mem_cons, List.not_mem_nil, or_false] at hmsg
      rcases hmsg with rfl | rfl | rfl
      · exact hmode.symm
      · exact hclear.symm
      · exact hstate.symm
  | none =>
      rw [hc] at hmsg
      obtain rfl := List.mem_singleton.mp hmsg
      exact hstate.symm

/-- Setpoints are sent by `write`, in the format of the primary input. -/
theorem primary_of_setpoint {active : Bool} {e : ODriveEvent α} {msg : Message}
    (hmsg : msg ∈ axisMessages m active a e) {k : Input}
    (hk : msg.format.cmdId = k.setpointMsg.cmdId) : e = .write ∧ a.primary = some k := by
  cases e with
  | activate => exact absurd hk (setAxisCommandMode_cmdId_ne _ _ k msg hmsg)
  | deactivate => exact absurd hk (setAxisCommandMode_cmdId_ne _ _ k msg hmsg)
  | switch startInterfaces stopInterfaces =>
      rw [axisMessages] at hmsg
      split_ifs at hmsg
      · exact absurd hk (setAxisCommandMode_cmdId_ne _ _ k msg hmsg)
      · exact absurd hmsg List.not_mem_nil
  | command j l x => exact absurd hmsg List.not_mem_nil
  | read fs => exact absurd hmsg List.not_mem_nil
  | write =>
      rw [axisMessages] at hmsg
      cases hprimary : a.primary with
      | none =>
          rw [write_of_not_primary m hprimary] at hmsg
          exact absurd hmsg List.not_mem_nil
      | some l =>
          obtain ⟨c, hwrite⟩ := write_of_primary m hprimary
          rw [hwrite] at hmsg
          obtain rfl := List.mem_singleton.mp hmsg
          exact ⟨rfl, congrArg some (setpointMsg_cmdId_injective hk)⟩

end OneAxis

end MarineHil.Ports
