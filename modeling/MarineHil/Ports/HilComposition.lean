import MarineHil.Verified.Channel
import MarineHil.Ports.VelocityPidNumbers
import MarineHil.Ports.ChronoFlapHistory
import MarineHil.Ports.HilTorqueMixer

/-!
# The three nodes of HIL mode

The driver of the motor publishes the joint state to `VelocityPidNode` and to
`ChronoFlapNode`; each of them publishes a torque to `HilTorqueMixerNode`, which
commands the motor.  The nodes share a clock and communicate over channels that
lose messages and delay them by at most `d` seconds.

The load of `ChronoFlapNode` ends with its feedback, and the mixer drops an
input it no longer receives.  `VelocityPidNode` does not age its measurements:
it publishes on, and the mixer's watchdog is satisfied.  Whatever its gains, a
feedback that is not a number makes its torques none either.

## Main results

* `Quiet.step`, `Quiet.command`: under passive settings of the PID node, and on
  feedback that are numbers, the command is zero once the feedback, the load and
  the delays have run out.
* `exists_driven`: under any other settings the motor is commanded as long
  after the last feedback as one likes.
* `exists_driven_nan`: so it is under all settings after a feedback that is not a number.
* `stops_iff`: so loss of feedback stops the motor exactly under passive settings,
  on numbers.
-/

namespace MarineHil.Ports

open MarineHil.Verified

/-! ## The system -/

/-- The parameters the nodes are launched with. -/
structure HilLaunch (α : Type) where
  velocityPid : Launch α
  chronoFlap : Launch α
  mixer : Launch α

structure HilSystem (σ κ α : Type) where
  velocityPid : VelocityPidNode α
  chronoFlap : ChronoFlapNode σ κ α
  mixer : HilTorqueMixerNode α
  feedbackToPid : Channel (JointState α)
  feedbackToFlap : Channel (JointState α)
  torques : Channel (List α)
  loads : Channel α

/-- What can happen: the driver publishes a joint state, a message in flight
arrives, a node's timer fires, or a service is called.  The parameters stay as launched. -/
inductive HilEvent (α : Type) where
  | sense (name : List String) (position velocity : List α)
  | feedbackToPid (i : ℕ)
  | feedbackToFlap (i : ℕ)
  | torqueToMixer (i : ℕ)
  | loadToMixer (i : ℕ)
  | pidTick
  | flapTick
  | mixerTick
  | engageHil (data : Bool)
  | enableHydro (data : Bool)
  | enableLoad (data : Bool)

namespace HilSystem

variable {σ κ α : Type} [Double α]

/-- The nodes at their start, with nothing in flight. -/
def start (env : FlapEnvironment σ κ α) (l : HilLaunch α) (loopTime pidTime flapTime : Time) :
    HilSystem σ κ α where
  velocityPid := .start l.velocityPid loopTime pidTime
  chronoFlap := .start env (l.chronoFlap.withString "mode" "hil") flapTime
  mixer := .start l.mixer
  feedbackToPid := []
  feedbackToFlap := []
  torques := []
  loads := []

/-- A delay that the channels allow. -/
def allowed (d : ℚ) (delay : ℤ) : Bool := decide (0 ≤ delay ∧ (seconds delay : ℚ) ≤ d)

def receiveFeedbackPid (d : ℚ) (s : HilSystem σ κ α) (now : Time) (i : ℕ) : HilSystem σ κ α :=
  { s with
    velocityPid :=
      (s.feedbackToPid.receive (allowed d) now i).1.elim s.velocityPid
        s.velocityPid.jointStateCallback
    feedbackToPid := (s.feedbackToPid.receive (allowed d) now i).2 }

def receiveFeedbackFlap (env : FlapEnvironment σ κ α) (d : ℚ) (s : HilSystem σ κ α) (now : Time)
    (i : ℕ) : HilSystem σ κ α :=
  { s with
    chronoFlap :=
      (s.feedbackToFlap.receive (allowed d) now i).1.elim s.chronoFlap fun msg =>
        s.chronoFlap.step env ⟨now, .jointState msg⟩
    feedbackToFlap := (s.feedbackToFlap.receive (allowed d) now i).2 }

def receiveTorque (d : ℚ) (s : HilSystem σ κ α) (now : Time) (i : ℕ) : HilSystem σ κ α :=
  { s with
    mixer :=
      (s.torques.receive (allowed d) now i).1.elim s.mixer fun data =>
        s.mixer.step ⟨now, .pid data⟩
    torques := (s.torques.receive (allowed d) now i).2 }

def receiveLoad (d : ℚ) (s : HilSystem σ κ α) (now : Time) (i : ℕ) : HilSystem σ κ α :=
  { s with
    mixer :=
      (s.loads.receive (allowed d) now i).1.elim s.mixer fun data =>
        s.mixer.step ⟨now, .load data⟩
    loads := (s.loads.receive (allowed d) now i).2 }

/-- The torque is published as an array of one element. -/
def tickPid (m : Libm α) (s : HilSystem σ κ α) (now : Time) : HilSystem σ κ α :=
  let r := s.velocityPid.controlLoop m now
  { s with velocityPid := r.node, torques := s.torques.send now [r.torque] }

def tickFlap (env : FlapEnvironment σ κ α) (s : HilSystem σ κ α) (now : Time) : HilSystem σ κ α :=
  { s with
    chronoFlap := (s.chronoFlap.tick env now).node
    loads := (s.chronoFlap.tick env now).load.elim s.loads (s.loads.send now) }

/-- One event.  The stamp of a joint state is the time it is published; the
mixer's tick publishes its command and changes nothing. -/
def step (env : FlapEnvironment σ κ α) (d : ℚ) (s : HilSystem σ κ α) (e : Timed (HilEvent α)) :
    HilSystem σ κ α :=
  match e.event with
  | .sense name position velocity =>
      let msg : JointState α := ⟨e.time, name, position, velocity⟩
      { s with
        feedbackToPid := s.feedbackToPid.send e.time msg
        feedbackToFlap := s.feedbackToFlap.send e.time msg }
  | .feedbackToPid i => s.receiveFeedbackPid d e.time i
  | .feedbackToFlap i => s.receiveFeedbackFlap env d e.time i
  | .torqueToMixer i => s.receiveTorque d e.time i
  | .loadToMixer i => s.receiveLoad d e.time i
  | .pidTick => s.tickPid env.libm e.time
  | .flapTick => s.tickFlap env e.time
  | .mixerTick => s
  | .engageHil data => { s with chronoFlap := s.chronoFlap.step env ⟨e.time, .engageHil data⟩ }
  | .enableHydro data =>
      { s with chronoFlap := s.chronoFlap.step env ⟨e.time, .enableHydro data⟩ }
  | .enableLoad data => { s with mixer := s.mixer.step ⟨e.time, .enableLoad data⟩ }

/-- A joint state arrives at a node. -/
def Delivers (d : ℚ) (s : HilSystem σ κ α) (e : Timed (HilEvent α)) : Prop :=
  match e.event with
  | .feedbackToPid i => (s.feedbackToPid.receive (allowed d) e.time i).1.isSome = true
  | .feedbackToFlap i => (s.feedbackToFlap.receive (allowed d) e.time i).1.isSome = true
  | _ => False

/-- A joint state that arrives at the PID node gives its joint numbers. -/
def ReceivesNumbers (d : ℚ) (s : HilSystem σ κ ExtRat) (e : Timed (HilEvent ExtRat)) : Prop :=
  match e.event with
  | .feedbackToPid i =>
      ∀ msg, (s.feedbackToPid.receive (allowed d) e.time i).1 = some msg →
        VelocityPidNode.NumbersFor s.velocityPid.jointName msg
  | _ => True

end HilSystem

/-- A run: the readings of the clock at the nodes' starts, and what happens
after them, in order of time. -/
structure HilRun (α : Type) where
  loopTime : Time
  pidTime : Time
  flapTime : Time
  events : List (Timed (HilEvent α))
  ordered : Ordered (max loopTime (max pidTime flapTime)) events

namespace HilSystem

variable {σ κ α : Type} [Double α] (env : FlapEnvironment σ κ α) (l : HilLaunch α) (d : ℚ)

/-- The system at the start of a run. -/
def startOf (r : HilRun α) : HilSystem σ κ α := start env l r.loopTime r.pidTime r.flapTime

/-- No joint state arrives after the given time. -/
def NoFeedbackAfter (r : HilRun α) (T : Time) : Prop :=
  Along (step env d) (fun s e => T < e.time → ¬s.Delivers d e) (startOf env l r) r.events

/-- What the PID node receives of its joint are numbers. -/
def FeedbackNumbers {σ κ : Type} (env : FlapEnvironment σ κ ExtRat) (l : HilLaunch ExtRat) (d : ℚ)
    (r : HilRun ExtRat) : Prop :=
  Along (step env d) (fun s e => s.ReceivesNumbers d e) (startOf env l r) r.events

/-- In every run of a kind the motor is commanded to zero from `D` seconds after the
last joint state on. -/
def StopsWithin (runs : HilRun α → Prop) (D : ℚ) : Prop :=
  ∀ r, runs r → ∀ T, NoFeedbackAfter env l d r T →
    ∀ pre now post, r.events = pre ++ ⟨now, .mixerTick⟩ :: post → D < seconds (now - T) →
      (run (step env d) (startOf env l r) pre).mixer.command now = 0

end HilSystem

/-! ## The load ends with its feedback -/

/-- In `hil` mode under the given watchdog, on feedback that was stamped at `T`
at the latest. -/
structure HilView.StampedBy (timeout : ℚ) (T : Time) (v : HilView ExtRat) : Prop where
  mode : v.mode = .hil
  timeout : v.hilFeedbackTimeoutS = .fin timeout
  stamp : v.hwReceived = true → v.hwStamp ≤ T

section Flap

variable {σ κ : Type} {timeout : ℚ} {T : Time}

theorem HilView.StampedBy.jointState {v : HilView ExtRat} (h : v.StampedBy timeout T) (now : Time)
    {msg : JointState ExtRat} (hstamp : msg.stamp ≤ T) :
    (v.step ⟨now, .jointState msg⟩).StampedBy timeout T := by
  have hstep : v.step ⟨now, .jointState msg⟩ = v.measure msg := if_pos h.mode
  rw [hstep, measure]
  cases msg.name.findIdx? (· = v.jointName) with
  | none => exact h
  | some i => exact ⟨h.mode, h.timeout, fun _ => hstamp⟩

theorem HilView.StampedBy.engageHil {v : HilView ExtRat} (h : v.StampedBy timeout T) (now : Time)
    (data : Bool) : (v.step ⟨now, .engageHil data⟩).StampedBy timeout T := by
  have hstep : v.step ⟨now, .engageHil data⟩ = v.engage now data := if_pos h.mode
  rw [hstep]
  exact ⟨h.mode, h.timeout, h.stamp⟩

/-- The watchdog: no load later than its timeout after the stamp. -/
theorem ChronoFlapNode.loadTorque_of_stampedBy {s : ChronoFlapNode σ κ ExtRat}
    (h : s.hilView.StampedBy timeout T) {env : FlapEnvironment σ κ ExtRat} {now : Time}
    (hne : s.loadTorque env now ≠ 0) : (seconds (now - T) : ℚ) ≤ timeout := by
  by_contra hlate
  refine hne ?_
  have hstale : s.feedbackOk now = false := by
    unfold feedbackOk
    cases hreceived : s.hwReceived with
    | false => rfl
    | true =>
        have hstamp : s.hwStamp ≤ T := h.stamp hreceived
        have htimeout : s.hilFeedbackTimeoutS = .fin timeout := h.timeout
        have hage : (seconds (now - T) : ℚ) ≤ seconds (now - s.hwStamp) :=
          seconds_le_iff.mpr (sub_le_sub_left hstamp now)
        have hlt : ExtRat.fin timeout < seconds (now - s.hwStamp) :=
          (ExtRat.fin_lt _ _).mpr (by linarith : timeout < seconds (now - s.hwStamp))
        rw [htimeout, decide_eq_true hlt]
        rfl
  rw [loadTorque, hstale]
  rfl

end Flap

/-! ## Passive settings -/

/-- A mixer that was sent no torque, and no load later than `timeout` seconds
after `T`. -/
structure HilTorqueMixerNode.Quiet (timeout loadTimeout d : ℚ) (T : Time)
    (s : HilTorqueMixerNode ExtRat) : Prop where
  tauPid : s.tauPid = 0
  tauHydro : s.tauHydro ≠ 0 → (seconds (s.loadLastStamp - T) : ℚ) ≤ timeout + d
  loadTimeout : s.loadTimeoutS = .fin loadTimeout
  clip : ¬s.hardClipNm ≤ 0

section Mixer

variable {timeout loadTimeout d : ℚ} {T now : Time} {s : HilTorqueMixerNode ExtRat}

theorem HilTorqueMixerNode.Quiet.pid (h : s.Quiet timeout loadTimeout d T) {data : List ExtRat}
    (hzero : ∀ y ∈ data, y = 0) : (s.step ⟨now, .pid data⟩).Quiet timeout loadTimeout d T := by
  cases data with
  | nil => exact h
  | cons x data => exact ⟨hzero x List.mem_cons_self, h.tauHydro, h.loadTimeout, h.clip⟩

theorem HilTorqueMixerNode.Quiet.load (h : s.Quiet timeout loadTimeout d T) {data : ExtRat}
    (hlate : data ≠ 0 → (seconds (now - T) : ℚ) ≤ timeout + d) :
    (s.step ⟨now, .load data⟩).Quiet timeout loadTimeout d T :=
  ⟨h.tauPid, hlate, h.loadTimeout, h.clip⟩

/-- When the load has timed out too, the command is zero. -/
theorem HilTorqueMixerNode.Quiet.command (h : s.Quiet timeout loadTimeout d T)
    (hlate : timeout + d + loadTimeout < seconds (now - T)) : s.command now = 0 := by
  have hpid : s.effectivePid now = 0 := by
    rw [effectivePid, h.tauPid, ite_self, ite_self]
  have hload : s.effectiveLoad now = 0 := by
    unfold effectiveLoad
    by_cases hzero : s.tauHydro = 0
    · rw [hzero, ite_self, ite_self, ite_self]
    · have hstamp := h.tauHydro hzero
      have hsum : (seconds (now - T) : ℚ) =
          seconds (now - s.loadLastStamp) + seconds (s.loadLastStamp - T) := by
        simp only [seconds_sub]
        ring
      have hlt : ExtRat.fin loadTimeout < seconds (now - s.loadLastStamp) :=
        (ExtRat.fin_lt _ _).mpr (by linarith : loadTimeout < seconds (now - s.loadLastStamp))
      rw [h.loadTimeout, if_pos hlt, ite_self, ite_self]
  rw [HilTorqueMixerNode.command, hpid, hload, ExtRat.add_fin_zero,
    ExtRat.clamp_eq_zero_iff h.clip]

end Mixer

namespace HilSystem

variable {σ κ : Type}

/-- A system whose PID node lets no torque out, and in which no load is later
than the watchdog of the flap node allows after `T`. -/
structure Quiet (timeout loadTimeout d : ℚ) (T : Time) (s : HilSystem σ κ ExtRat) :
    Prop where
  idle : ∃ p, s.velocityPid.IdleOnNumbers p
  torques : ∀ x ∈ s.torques, ∀ y ∈ x.message, y = 0
  flap : s.chronoFlap.hilView.StampedBy timeout T
  feedback : ∀ x ∈ s.feedbackToFlap, x.message.stamp = x.time
  loads : ∀ x ∈ s.loads, x.message ≠ 0 → (seconds (x.time - T) : ℚ) ≤ timeout
  mixer : s.mixer.Quiet timeout loadTimeout d T

section Quiet

variable {timeout loadTimeout d : ℚ} {T now : Time} {s : HilSystem σ κ ExtRat}

theorem Quiet.receiveFeedbackPid (h : s.Quiet timeout loadTimeout d T) (i : ℕ)
    (hnumbers : ∀ msg, (s.feedbackToPid.receive (allowed d) now i).1 = some msg →
      VelocityPidNode.NumbersFor s.velocityPid.jointName msg) :
    (s.receiveFeedbackPid d now i).Quiet timeout loadTimeout d T := by
  unfold HilSystem.receiveFeedbackPid
  cases hmsg : (s.feedbackToPid.receive (allowed d) now i).1 with
  | none => exact ⟨h.idle, h.torques, h.flap, h.feedback, h.loads, h.mixer⟩
  | some msg =>
      obtain ⟨p, hp⟩ := h.idle
      exact ⟨⟨_, hp.jointStateCallback (hnumbers msg hmsg)⟩, h.torques, h.flap, h.feedback,
        h.loads, h.mixer⟩

/-- A joint state that arrives no later than `T` was stamped no later. -/
theorem Quiet.receiveFeedbackFlap (env : FlapEnvironment σ κ ExtRat)
    (h : s.Quiet timeout loadTimeout d T) (i : ℕ)
    (hT : T < now → ¬(s.feedbackToFlap.receive (allowed d) now i).1.isSome = true) :
    (s.receiveFeedbackFlap env d now i).Quiet timeout loadTimeout d T := by
  have hleft := Channel.forall_receive h.feedback (allowed d) now i
  unfold HilSystem.receiveFeedbackFlap
  cases hmsg : (s.feedbackToFlap.receive (allowed d) now i).1 with
  | none => exact ⟨h.idle, h.torques, h.flap, hleft, h.loads, h.mixer⟩
  | some msg =>
      rw [hmsg] at hT
      have hnow : now ≤ T := not_lt.mp fun hlt => hT hlt rfl
      obtain ⟨x, hx, rfl, hallowed⟩ := Channel.receive_some hmsg
      have hsent : x.time ≤ now := sub_nonneg.mp (of_decide_eq_true hallowed).1
      refine ⟨h.idle, h.torques, ?_, hleft, h.loads, h.mixer⟩
      show (s.chronoFlap.step env ⟨now, .jointState x.message⟩).hilView.StampedBy timeout T
      rw [ChronoFlapNode.step_hilView]
      refine h.flap.jointState now ?_
      rw [h.feedback x hx]
      exact hsent.trans hnow

theorem Quiet.receiveTorque (h : s.Quiet timeout loadTimeout d T) (i : ℕ) :
    (s.receiveTorque d now i).Quiet timeout loadTimeout d T := by
  have hleft := Channel.forall_receive h.torques (allowed d) now i
  unfold HilSystem.receiveTorque
  cases hdata : (s.torques.receive (allowed d) now i).1 with
  | none => exact ⟨h.idle, hleft, h.flap, h.feedback, h.loads, h.mixer⟩
  | some data =>
      obtain ⟨x, hx, rfl, _⟩ := Channel.receive_some hdata
      exact ⟨h.idle, hleft, h.flap, h.feedback, h.loads, h.mixer.pid (h.torques x hx)⟩

theorem Quiet.receiveLoad (h : s.Quiet timeout loadTimeout d T) (i : ℕ) :
    (s.receiveLoad d now i).Quiet timeout loadTimeout d T := by
  have hleft := Channel.forall_receive h.loads (allowed d) now i
  unfold HilSystem.receiveLoad
  cases hdata : (s.loads.receive (allowed d) now i).1 with
  | none => exact ⟨h.idle, h.torques, h.flap, h.feedback, hleft, h.mixer⟩
  | some data =>
      obtain ⟨x, hx, rfl, hallowed⟩ := Channel.receive_some hdata
      have hdelay : (seconds (now - x.time) : ℚ) ≤ d := (of_decide_eq_true hallowed).2
      refine ⟨h.idle, h.torques, h.flap, h.feedback, hleft, h.mixer.load ?_⟩
      intro hne
      have hsent := h.loads x hx hne
      simp only [seconds_sub] at hdelay hsent ⊢
      linarith

theorem Quiet.tickPid {m : Libm ExtRat} (hm : VelocityPidNode.LibmFinite m)
    (h : s.Quiet timeout loadTimeout d T) : (s.tickPid m now).Quiet timeout loadTimeout d T := by
  obtain ⟨p, hp⟩ := h.idle
  obtain ⟨hzero, hidle⟩ := hp.controlLoop hm now
  refine ⟨⟨_, hidle⟩, ?_, h.flap, h.feedback, h.loads, h.mixer⟩
  refine Channel.forall_send h.torques ?_
  intro y hy
  rw [List.mem_singleton.mp hy]
  exact hzero

theorem Quiet.tickFlap (env : FlapEnvironment σ κ ExtRat) (h : s.Quiet timeout loadTimeout d T) :
    (s.tickFlap env now).Quiet timeout loadTimeout d T := by
  have hload := ChronoFlapNode.tick_load h.flap.mode env now
  unfold HilSystem.tickFlap
  rw [hload]
  refine ⟨h.idle, h.torques, ?_, h.feedback, ?_, h.mixer⟩
  · show (s.chronoFlap.tick env now).node.hilView.StampedBy timeout T
    rw [ChronoFlapNode.tick_hilView]
    exact h.flap
  · exact Channel.forall_send h.loads fun hne => ChronoFlapNode.loadTorque_of_stampedBy h.flap hne

/-- One event of a system that receives numbers, and no joint state after `T`. -/
theorem Quiet.step {env : FlapEnvironment σ κ ExtRat} (hm : VelocityPidNode.LibmFinite env.libm)
    (h : s.Quiet timeout loadTimeout d T) (e : Timed (HilEvent ExtRat))
    (hT : T < e.time → ¬s.Delivers d e) (hnumbers : s.ReceivesNumbers d e) :
    (s.step env d e).Quiet timeout loadTimeout d T := by
  obtain ⟨time, event⟩ := e
  cases event with
  | sense name position velocity =>
      exact ⟨h.idle, h.torques, h.flap, Channel.forall_send h.feedback rfl, h.loads, h.mixer⟩
  | feedbackToPid i => exact h.receiveFeedbackPid i hnumbers
  | feedbackToFlap i => exact h.receiveFeedbackFlap env i hT
  | torqueToMixer i => exact h.receiveTorque i
  | loadToMixer i => exact h.receiveLoad i
  | pidTick => exact h.tickPid hm
  | flapTick => exact h.tickFlap env
  | mixerTick => exact h
  | engageHil data =>
      refine ⟨h.idle, h.torques, ?_, h.feedback, h.loads, h.mixer⟩
      show (s.chronoFlap.step env ⟨time, .engageHil data⟩).hilView.StampedBy timeout T
      rw [ChronoFlapNode.step_hilView]
      exact h.flap.engageHil time data
  | enableHydro data =>
      refine ⟨h.idle, h.torques, ?_, h.feedback, h.loads, h.mixer⟩
      show (s.chronoFlap.step env ⟨time, .enableHydro data⟩).hilView.StampedBy timeout T
      rw [ChronoFlapNode.step_hilView]
      exact h.flap
  | enableLoad data =>
      exact ⟨h.idle, h.torques, h.flap, h.feedback, h.loads,
        ⟨h.mixer.tauPid, h.mixer.tauHydro, h.mixer.loadTimeout, h.mixer.clip⟩⟩

end Quiet

section Launch

variable {α : Type} [Double α] (l : HilLaunch α)

/-- The feedback timeout of the flap node. -/
def feedbackTimeout : α := l.chronoFlap.getDouble "hil_feedback_timeout_s" (lit 0.1)

/-- The load timeout of the mixer. -/
def loadTimeout : α := (HilTorqueMixerNode.start l.mixer).loadTimeoutS

/-- The settings of the PID node let no torque out. -/
def PidPassive : Prop := (VelocityPidNode.start l.velocityPid 0 0).Passive

end Launch

/-- What the PID node computes with, and the two timeouts, are numbers. -/
structure LaunchNumbers (l : HilLaunch ExtRat) : Prop where
  velocityPid : VelocityPidNode.FiniteLaunch l.velocityPid
  feedbackTimeout : (feedbackTimeout l).IsFinite
  loadTimeout : (loadTimeout l).IsFinite

section Stops

variable (env : FlapEnvironment σ κ ExtRat) {l : HilLaunch ExtRat} (d : ℚ)

theorem startOf_quiet (hl : LaunchNumbers l) (h : PidPassive l) (r : HilRun ExtRat) (T : Time) :
    (startOf env l r).Quiet (feedbackTimeout l).toRat (loadTimeout l).toRat d T := by
  have hpassive := (VelocityPidNode.passive_start_iff l.velocityPid r.loopTime r.pidTime).mpr h
  have hmode : (ChronoFlapNode.start env (l.chronoFlap.withString "mode" "hil")
      r.flapTime).hilView.mode = .hil := by
    show ChronoFlapNode.resolveMode ((l.chronoFlap.withString "mode" "hil").getString "mode" "")
      ((l.chronoFlap.withString "mode" "hil").getBool "sil_mode" false) = .hil
    rw [Launch.getString_withString]
    rfl
  exact
    { idle := ⟨_, hpassive.idleOnNumbers hl.velocityPid⟩
      torques := nofun
      flap := ⟨hmode, (ExtRat.fin_toRat hl.feedbackTimeout).symm, nofun⟩
      feedback := nofun
      loads := nofun
      mixer := ⟨rfl, fun hne => absurd rfl hne, (ExtRat.fin_toRat hl.loadTimeout).symm,
        HilTorqueMixerNode.start_hardClipNm_not_le l.mixer⟩ }

/-- Under passive settings, and on numbers, the motor stops when the feedback, the load
and the delay have run out. -/
theorem stopsWithin_of_passive (hm : VelocityPidNode.LibmFinite env.libm) (hl : LaunchNumbers l)
    (h : PidPassive l) :
    StopsWithin env l d (FeedbackNumbers env l d)
      ((feedbackTimeout l).toRat + d + (loadTimeout l).toRat) := by
  intro r hnumbers T hnone pre now post hevents hlate
  have hboth : Along (step env d)
      (fun s e => (T < e.time → ¬s.Delivers d e) ∧ s.ReceivesNumbers d e) (startOf env l r)
      r.events :=
    fun pre e post hes => ⟨hnone pre e post hes, hnumbers pre e post hes⟩
  have hquiet := hboth.imp
    (I := Quiet (feedbackTimeout l).toRat (loadTimeout l).toRat d T)
    (Q := fun s _ => s.Quiet (feedbackTimeout l).toRat (loadTimeout l).toRat d T)
    (fun _ _ hs _ => hs) (fun s e hs he => hs.step hm e he.1 he.2)
    (startOf_quiet env d hl h r T)
  exact (hquiet pre ⟨now, .mixerTick⟩ post hevents).mixer.command hlate

end Stops

/-! ## Feedback that drives the motor -/

section Drive

variable {α : Type} [Double α]

/-- The driver publishes a measurement, and it arrives at the PID node. -/
def measureEvents (s : VelocityPidNode α) (y : α × α) : List (Timed (HilEvent α)) :=
  [ ⟨0, .sense [s.jointName] [s.oriented y.1] [s.oriented y.2]⟩, ⟨0, .feedbackToPid 0⟩ ]

/-- The same for several measurements, each with a tick of the PID node. -/
def probeEvents (m : Libm α) : VelocityPidNode α → List (α × α) → List (Timed (HilEvent α))
  | _, [] => []
  | s, y :: ys => measureEvents s y ++ ⟨0, .pidTick⟩ :: probeEvents m (s.probe m 0 y) ys

/-- Measurements with a tick each, and one more after them. -/
def measurements (m : Libm α) (s : VelocityPidNode α) (ys : List (α × α)) (y : α × α) :
    List (Timed (HilEvent α)) :=
  probeEvents m s ys ++ measureEvents (run (VelocityPidNode.probe m 0) s ys) y

/-- A tick of the PID node, whose torque arrives at the mixer at once. -/
def driveEvents (now : Time) : List (Timed (HilEvent α)) :=
  [⟨now, .pidTick⟩, ⟨now, .torqueToMixer 0⟩]

/-- What holds of the events of a measurement, and of a tick, holds of all of them. -/
theorem forall_mem_measurements {P : Timed (HilEvent α) → Prop} {m : Libm α}
    (htick : P ⟨0, .pidTick⟩) {ys : List (α × α)} {y : α × α}
    (hmeasure : ∀ s : VelocityPidNode α, ∀ x ∈ ys ++ [y], ∀ e ∈ measureEvents s x, P e)
    (s : VelocityPidNode α) : ∀ e ∈ measurements m s ys y, P e := by
  induction ys generalizing s with
  | nil => exact hmeasure s y (by simp)
  | cons x ys ih =>
      have hrest := ih (fun t z hz => hmeasure t z (by simp_all)) (s.probe m 0 x)
      intro e he
      have hsplit : measurements m s (x :: ys) y =
          measureEvents s x ++ ⟨0, .pidTick⟩ :: measurements m (s.probe m 0 x) ys y := by
        simp [measurements, probeEvents, run_cons]
      rw [hsplit, List.mem_append, List.mem_cons] at he
      rcases he with he | rfl | he
      · exact hmeasure s x (by simp) e he
      · exact htick
      · exact hrest e he

variable (env : FlapEnvironment σ κ α) {d : ℚ}

theorem allowed_self (hd : 0 ≤ d) (now : Time) : allowed d (now - now) = true := by
  rw [sub_self, allowed, decide_eq_true_eq, seconds, lit_rat, Int.cast_zero, zero_div]
  exact ⟨le_refl 0, hd⟩

theorem run_measureEvents (hd : 0 ≤ d) (s : HilSystem σ κ α) (y : α × α) :
    (run (step env d) s (measureEvents s.velocityPid y)).velocityPid = s.velocityPid.measure y ∧
      (run (step env d) s (measureEvents s.velocityPid y)).mixer = s.mixer := by
  refine ⟨?_, rfl⟩
  show ((Channel.receive (allowed d) (s.feedbackToPid.send 0 _) 0 0).1).elim _ _ = _
  rw [Channel.receive_send (allowed_self hd 0)]
  rfl

theorem run_probeEvents (hd : 0 ≤ d) (s : HilSystem σ κ α) (ys : List (α × α)) :
    (run (step env d) s (probeEvents env.libm s.velocityPid ys)).velocityPid =
        run (VelocityPidNode.probe env.libm 0) s.velocityPid ys ∧
      (run (step env d) s (probeEvents env.libm s.velocityPid ys)).mixer = s.mixer := by
  induction ys generalizing s with
  | nil => exact ⟨rfl, rfl⟩
  | cons y ys ih =>
      obtain ⟨hpid, hmixer⟩ := run_measureEvents env hd s y
      rw [probeEvents, run_append, run_cons, run_cons]
      generalize run (step env d) s (measureEvents s.velocityPid y) = s' at hpid hmixer
      have hprobe : (s'.step env d ⟨0, .pidTick⟩).velocityPid =
          s.velocityPid.probe env.libm 0 y := by
        rw [VelocityPidNode.probe, ← hpid]
        rfl
      have ih' := ih (s'.step env d ⟨0, .pidTick⟩)
      rw [hprobe] at ih'
      exact ⟨ih'.1, ih'.2.trans hmixer⟩

theorem run_measurements (hd : 0 ≤ d) (s : HilSystem σ κ α) (ys : List (α × α)) (y : α × α) :
    (run (step env d) s (measurements env.libm s.velocityPid ys y)).velocityPid =
        (run (VelocityPidNode.probe env.libm 0) s.velocityPid ys).measure y ∧
      (run (step env d) s (measurements env.libm s.velocityPid ys y)).mixer = s.mixer := by
  obtain ⟨hpid, hmixer⟩ := run_probeEvents env hd s ys
  rw [measurements, run_append]
  generalize run (step env d) s (probeEvents env.libm s.velocityPid ys) = s' at hpid hmixer
  obtain ⟨hpid', hmixer'⟩ := run_measureEvents env hd s' y
  rw [← hpid]
  exact ⟨hpid', hmixer'.trans hmixer⟩

theorem run_driveEvents (hd : 0 ≤ d) (s : HilSystem σ κ α) (now : Time) :
    (run (step env d) s (driveEvents now)).mixer =
      s.mixer.step ⟨now, .pid [(s.velocityPid.controlLoop env.libm now).torque]⟩ := by
  show ((Channel.receive (allowed d) (s.torques.send now _) now 0).1).elim _ _ = _
  rw [Channel.receive_send (allowed_self hd now)]
  rfl

theorem time_of_mem_measurements {m : Libm α} {s : VelocityPidNode α} {ys : List (α × α)}
    {y : α × α} {e : Timed (HilEvent α)} (he : e ∈ measurements m s ys y) : e.time = 0 := by
  refine forall_mem_measurements (P := fun e => e.time = 0) rfl ?_ s e he
  intro t x _ e he
  simp only [measureEvents, List.mem_cons, List.not_mem_nil, or_false] at he
  rcases he with rfl | rfl
  · rfl
  · rfl

omit [Double α] in
/-- What follows the measurements is one of three events at one time. -/
theorem mem_driveEvents {now : Time} {e : Timed (HilEvent α)}
    (he : e ∈ driveEvents now ++ [⟨now, .mixerTick⟩]) :
    e = ⟨now, .pidTick⟩ ∨ e = ⟨now, .torqueToMixer 0⟩ ∨ e = ⟨now, .mixerTick⟩ := by
  simpa [driveEvents] using he

/-- Measurements at time 0; at `now` a tick of the PID node, its torque at the
mixer, and a tick of the mixer. -/
def drivenRun (m : Libm α) (s : VelocityPidNode α) (ys : List (α × α)) (y : α × α) {now : Time}
    (hnow : 0 < now) : HilRun α where
  loopTime := 0
  pidTime := 0
  flapTime := 0
  events := measurements m s ys y ++ (driveEvents now ++ [⟨now, .mixerTick⟩])
  ordered := ordered_append_of_eq (fun _ he => time_of_mem_measurements he)
    (fun _ he => by rcases mem_driveEvents he with rfl | rfl | rfl <;> rfl) hnow.le

theorem drivenRun_noFeedback (l : HilLaunch α) (s : VelocityPidNode α) (ys : List (α × α))
    (y : α × α) {now : Time} (hnow : 0 < now) :
    NoFeedbackAfter env l d (drivenRun env.libm s ys y hnow) 0 := by
  apply along_of_forall
  intro e he s' hlate
  rcases List.mem_append.mp he with he | he
  · exact absurd (time_of_mem_measurements he) hlate.ne'
  · rcases mem_driveEvents he with rfl | rfl | rfl <;> exact id

end Drive

/-- There is a time as late as one likes. -/
theorem exists_later (D : ℚ) : ∃ t : Time, 0 < t ∧ D < seconds (t - 0) := by
  refine ⟨(max 0 ⌈D⌉ + 1) * 1000000000, by positivity, ?_⟩
  have hceil : D ≤ ((max 0 ⌈D⌉ : ℤ) : ℚ) :=
    (Int.le_ceil D).trans (Int.cast_le.mpr (le_max_right 0 ⌈D⌉))
  have hsec : (seconds ((max 0 ⌈D⌉ + 1) * 1000000000 - 0) : ℚ) = ((max 0 ⌈D⌉ : ℤ) : ℚ) + 1 := by
    rw [sub_zero, seconds, lit_rat, Int.cast_mul, Int.cast_add, Int.cast_one]
    norm_num
  rw [hsec]
  linarith

/-! ## Other settings, and other feedback -/

section Driven

variable (env : FlapEnvironment σ κ ExtRat) (l : HilLaunch ExtRat) {d : ℚ}

/-- Measurements after which the PID node publishes a torque command the motor. -/
theorem not_stopsWithin_of_torque (hd : 0 ≤ d) {runs : HilRun ExtRat → Prop} {D : ℚ} {t : Time}
    (ht : 0 < t) (hD : D < seconds (t - 0)) (ys : List (ExtRat × ExtRat)) (y : ExtRat × ExtRat)
    (hrun : runs (drivenRun env.libm (.start l.velocityPid 0 0) ys y ht))
    (htorque : (((run (VelocityPidNode.probe env.libm 0) (.start l.velocityPid 0 0) ys).measure
      y).controlLoop env.libm t).torque ≠ 0) : ¬StopsWithin env l d runs D := by
  intro hstops
  let s := VelocityPidNode.start l.velocityPid 0 0
  let r := drivenRun env.libm s ys y ht
  have hsplit : r.events = (measurements env.libm s ys y ++ driveEvents t) ++ [⟨t, .mixerTick⟩] :=
    (List.append_assoc _ _ _).symm
  have hcommand := hstops r hrun 0 (drivenRun_noFeedback env l s ys y ht) _ t [] hsplit hD
  -- the measurements leave the mixer as it starts
  have hpid₀ : (startOf env l r).velocityPid = s := rfl
  have hmixer₀ : (startOf env l r).mixer = .start l.mixer := rfl
  obtain ⟨hpid, hmixer⟩ := run_measurements env hd (startOf env l r) ys y
  rw [hpid₀] at hpid hmixer
  rw [run_append, run_driveEvents env hd, hpid, hmixer, hmixer₀] at hcommand
  exact HilTorqueMixerNode.command_of_fresh_pid l.mixer htorque t hcommand

/-- A joint state that is published has no other readings than numbers. -/
def SensesNumbers (e : Timed (HilEvent ExtRat)) : Prop :=
  match e.event with
  | .sense _ position velocity => (∀ x ∈ position, x.IsFinite) ∧ ∀ x ∈ velocity, x.IsFinite
  | _ => True

/-- What was published is received. -/
theorem feedbackNumbers_of_senses {r : HilRun ExtRat} (h : ∀ e ∈ r.events, SensesNumbers e) :
    FeedbackNumbers env l d r := by
  refine Along.imp (P := fun _ e => SensesNumbers e)
    (I := fun s => ∀ x ∈ s.feedbackToPid, ∀ joint, VelocityPidNode.NumbersFor joint x.message)
    ?_ ?_ nofun (along_of_forall fun e he _ => h e he)
  · rintro s ⟨time, event⟩ hs _
    cases event with
    | feedbackToPid i =>
        intro msg hmsg
        obtain ⟨x, hx, rfl, _⟩ := Channel.receive_some hmsg
        exact hs x hx _
    | _ => trivial
  · rintro s ⟨time, event⟩ hs he
    cases event with
    | sense name position velocity =>
        refine Channel.forall_send hs fun joint i _ => ⟨?_, ?_⟩
        · exact fun x hx => he.1 x (List.mem_of_getElem? hx)
        · exact fun x hx => he.2 x (List.mem_of_getElem? hx)
    | feedbackToPid i => exact Channel.forall_receive hs (allowed d) time i
    | _ => exact hs

/-- Measurements that are numbers. -/
theorem drivenRun_numbers (s : VelocityPidNode ExtRat) (ys : List (ℚ × ℚ)) (y : ℚ × ℚ) {t : Time}
    (ht : 0 < t) :
    FeedbackNumbers env l d (drivenRun env.libm s (ys.map VelocityPidNode.readings)
      (VelocityPidNode.readings y) ht) := by
  apply feedbackNumbers_of_senses
  intro e he
  rcases List.mem_append.mp he with he | he
  · refine forall_mem_measurements (P := SensesNumbers) trivial ?_ s e he
    intro s' x hx e he
    obtain ⟨z, _, rfl⟩ : ∃ z ∈ ys ++ [y], VelocityPidNode.readings z = x := by
      rw [← List.mem_map, List.map_append]
      exact hx
    simp only [measureEvents, List.mem_cons, List.not_mem_nil, or_false] at he
    rcases he with rfl | rfl
    · refine ⟨fun x hx => ?_, fun x hx => ?_⟩
      · rw [List.mem_singleton.mp hx]
        exact VelocityPidNode.oriented_isFinite (ExtRat.isFinite_fin z.1)
      · rw [List.mem_singleton.mp hx]
        exact VelocityPidNode.oriented_isFinite (ExtRat.isFinite_fin z.2)
    · trivial
  · rcases mem_driveEvents he with rfl | rfl | rfl <;> trivial

/-- **Under any other settings the motor is driven without feedback.**  However
long one waits, some run commands a torque so long after its last joint state. -/
theorem exists_driven (hm : VelocityPidNode.LibmFinite env.libm) (hl : LaunchNumbers l)
    (hd : 0 ≤ d) (h : ¬PidPassive l) (D : ℚ) :
    ¬StopsWithin env l d (FeedbackNumbers env l d) D := by
  obtain ⟨t, ht, hD⟩ := exists_later D
  obtain ⟨ys, y, htorque⟩ := VelocityPidNode.exists_acting_onNumbers hl.velocityPid h hm ht
  exact not_stopsWithin_of_torque env l hd ht hD _ _ (drivenRun_numbers env l _ ys y ht) htorque

/-- **And so it is under all settings** after a joint state that is not a number. -/
theorem exists_driven_nan (hd : 0 ≤ d) (D : ℚ) : ¬StopsWithin env l d (fun _ => True) D := by
  obtain ⟨t, ht, hD⟩ := exists_later D
  refine not_stopsWithin_of_torque env l hd ht hD [] (.nan, .nan) trivial ?_
  rw [run_nil, VelocityPidNode.torque_of_nan_feedback]
  exact nofun

/-- **When loss of feedback stops the motor.**  A bound on the time from the
last joint state to the last command exists, for the runs on numbers, exactly when the
settings of the PID node let no torque out at all; for all runs there is none. -/
theorem stops_iff (hm : VelocityPidNode.LibmFinite env.libm) (hl : LaunchNumbers l) (hd : 0 ≤ d) :
    ((∃ D, StopsWithin env l d (FeedbackNumbers env l d) D) ↔ PidPassive l) ∧
      ¬∃ D, StopsWithin env l d (fun _ => True) D := by
  refine ⟨⟨?_, ?_⟩, ?_⟩
  · rintro ⟨D, hstops⟩
    by_contra h
    exact exists_driven env l hm hl hd h D hstops
  · intro h
    exact ⟨_, stopsWithin_of_passive env d hm hl h⟩
  · rintro ⟨D, hstops⟩
    exact exists_driven_nan env l hd D hstops

/-- A launch that switches the gains of the position PID off, and sets both timeouts. -/
def slackLaunch : HilLaunch ExtRat where
  velocityPid :=
    ((Launch.empty.withDouble "kp_pos" (.fin 0)).withDouble "ki_pos" (.fin 0)).withDouble
      "kd_pos" (.fin 0)
  chronoFlap := Launch.empty.withDouble "hil_feedback_timeout_s" (.fin (1 / 5))
  mixer := Launch.empty.withDouble "load_timeout_s" (.fin (1 / 10))

theorem slackLaunch_numbers : LaunchNumbers slackLaunch where
  velocityPid :=
    ((VelocityPidNode.finiteLaunch_empty.withDouble _ _).withDouble _ _).withDouble _ _
  feedbackTimeout := by decide +kernel
  loadTimeout := by decide +kernel

theorem slackLaunch_passive : PidPassive slackLaunch := by
  have hmode : (VelocityPidNode.start slackLaunch.velocityPid 0 0).controlMode =
      .positionOnly := by
    decide +kernel
  unfold PidPassive
  rw [VelocityPidNode.passive_positionOnly hmode]
  decide +kernel

theorem bare_libmFinite : VelocityPidNode.LibmFinite FlapEnvironment.bare.libm :=
  fun _ hx => ⟨hx, ExtRat.isFinite_fin 1⟩

theorem stops_iff_slack :
    (∃ D, StopsWithin .bare slackLaunch (1 / 100)
        (FeedbackNumbers .bare slackLaunch (1 / 100)) D) ∧
      ¬∃ D, StopsWithin .bare slackLaunch (1 / 100) (fun _ => True) D := by
  have h := stops_iff .bare slackLaunch bare_libmFinite slackLaunch_numbers
    (by norm_num : (0 : ℚ) ≤ 1 / 100)
  exact ⟨h.1.mpr slackLaunch_passive, h.2⟩

/-- Every parameter at its default. -/
def defaultLaunch : HilLaunch ExtRat := ⟨.empty, .empty, .empty⟩

theorem defaultLaunch_numbers : LaunchNumbers defaultLaunch where
  velocityPid := VelocityPidNode.finiteLaunch_empty
  feedbackTimeout := by decide +kernel
  loadTimeout := by decide +kernel

theorem default_not_passive : ¬PidPassive defaultLaunch := by
  have hmode : (VelocityPidNode.start defaultLaunch.velocityPid 0 0).controlMode =
      .positionOnly := by
    decide +kernel
  have hgain : (VelocityPidNode.start defaultLaunch.velocityPid 0 0).kpPos ≠ 0 := by
    decide +kernel
  unfold PidPassive
  rw [VelocityPidNode.passive_positionOnly hmode]
  intro h
  exact hgain h.1

/-- With every parameter at its default and messages delayed by at most 10 ms
there is no such bound, on numbers or not. -/
theorem default_never_stops :
    (¬∃ D, StopsWithin .bare defaultLaunch (1 / 100)
        (FeedbackNumbers .bare defaultLaunch (1 / 100)) D) ∧
      ¬∃ D, StopsWithin .bare defaultLaunch (1 / 100) (fun _ => True) D := by
  constructor
  · rintro ⟨D, hstops⟩
    exact exists_driven .bare defaultLaunch bare_libmFinite defaultLaunch_numbers (by norm_num)
      default_not_passive D hstops
  · rintro ⟨D, hstops⟩
    exact exists_driven_nan .bare defaultLaunch (by norm_num) D hstops

end Driven

end HilSystem

end MarineHil.Ports
