import MarineHil.Ports.HilComposition
import MarineHil.Ports.LoadWatchdog
import MarineHil.Ports.MixerHistory

/-!
# Where the torque of the motor comes from

Between the nodes of HIL mode messages are lost, delayed and overtaken; their parameters stay
as launched.  Still each node does a run of its own on the messages that it receives, so that
what is known of the nodes holds in the system; and what it receives was sent.

## Main results

* `run_mixer`, `run_chronoFlap`, `run_velocityPid`: the runs of the nodes.
* `torque_received`, `load_received`, `pidFeedback_received`, `flapFeedback_received`: where
  their messages come from.
* `sensed_of_torque`, `sensed_of_load`: the joint state behind what the nodes publish.
* `command_provenance`: what the motor is commanded is made of nothing but a torque and a load
  that the nodes published lately, behind a joint state that names their joint.
-/

namespace MarineHil.Ports

open MarineHil.Verified

namespace HilSystem

variable {σ κ : Type}

/-! ## The nodes on their own -/

/-- What an event is to the mixer. -/
def mixerEvent (d : ℚ) (s : HilSystem σ κ ℚ) (e : Timed (HilEvent ℚ)) :
    Option (Timed (MixerEvent ℚ)) :=
  match e.event with
  | .torqueToMixer i =>
      (s.torques.receive (allowed d) e.time i).1.map fun data => ⟨e.time, .pid data⟩
  | .loadToMixer i => (s.loads.receive (allowed d) e.time i).1.map fun data => ⟨e.time, .load data⟩
  | .enableLoad data => some ⟨e.time, .enableLoad data⟩
  | .mixerTick => some ⟨e.time, .tick⟩
  | _ => none

/-- What an event is to the flap node. -/
def flapEvent (d : ℚ) (s : HilSystem σ κ ℚ) (e : Timed (HilEvent ℚ)) :
    Option (Timed (FlapEvent ℚ)) :=
  match e.event with
  | .feedbackToFlap i =>
      (s.feedbackToFlap.receive (allowed d) e.time i).1.map fun msg => ⟨e.time, .jointState msg⟩
  | .engageHil data => some ⟨e.time, .engageHil data⟩
  | .enableHydro data => some ⟨e.time, .enableHydro data⟩
  | .flapTick => some ⟨e.time, .tick⟩
  | _ => none

/-- What an event is to the PID node. -/
def pidEvent (d : ℚ) (s : HilSystem σ κ ℚ) (e : Timed (HilEvent ℚ)) :
    Option (Timed (VelocityPidEvent ℚ)) :=
  match e.event with
  | .feedbackToPid i =>
      (s.feedbackToPid.receive (allowed d) e.time i).1.map fun msg => ⟨e.time, .jointState msg⟩
  | .pidTick => some ⟨e.time, .controlLoop⟩
  | _ => none

section Nodes

variable (env : FlapEnvironment σ κ ℚ) (d : ℚ) (s : HilSystem σ κ ℚ)
  (es : List (Timed (HilEvent ℚ)))

theorem run_mixer : (run (step env d) s es).mixer =
    run HilTorqueMixerNode.step s.mixer (outputs (step env d) (mixerEvent d) s es) := by
  refine run_outputs mixer (along_of_forall ?_)
  rintro ⟨time, event⟩ - s
  cases event with
  | torqueToMixer i =>
      simp only [step, receiveTorque, mixerEvent]
      cases (s.torques.receive (allowed d) time i).1 <;> rfl
  | loadToMixer i =>
      simp only [step, receiveLoad, mixerEvent]
      cases (s.loads.receive (allowed d) time i).1 <;> rfl
  | _ => rfl

theorem run_chronoFlap : (run (step env d) s es).chronoFlap =
    run (ChronoFlapNode.step env) s.chronoFlap (outputs (step env d) (flapEvent d) s es) := by
  refine run_outputs chronoFlap (along_of_forall ?_)
  rintro ⟨time, event⟩ - s
  cases event with
  | feedbackToFlap i =>
      simp only [step, receiveFeedbackFlap, flapEvent]
      cases (s.feedbackToFlap.receive (allowed d) time i).1 <;> rfl
  | _ => rfl

theorem run_velocityPid : (run (step env d) s es).velocityPid =
    run (VelocityPidNode.step env.libm) s.velocityPid
      (outputs (step env d) (pidEvent d) s es) := by
  refine run_outputs velocityPid (along_of_forall ?_)
  rintro ⟨time, event⟩ - s
  cases event with
  | feedbackToPid i =>
      simp only [step, receiveFeedbackPid, pidEvent]
      cases (s.feedbackToPid.receive (allowed d) time i).1 <;> rfl
  | _ => rfl

end Nodes

/-! ## What is received was sent -/

def sentFeedback (_ : HilSystem σ κ ℚ) (e : Timed (HilEvent ℚ)) : Option (Sent (JointState ℚ)) :=
  match e.event with
  | .sense name position velocity => some ⟨e.time, ⟨e.time, name, position, velocity⟩⟩
  | _ => none

def sentTorque (m : Libm ℚ) (s : HilSystem σ κ ℚ) (e : Timed (HilEvent ℚ)) :
    Option (Sent (List ℚ)) :=
  match e.event with
  | .pidTick => some ⟨e.time, [(s.velocityPid.controlLoop m e.time).torque]⟩
  | _ => none

def sentLoad (env : FlapEnvironment σ κ ℚ) (s : HilSystem σ κ ℚ) (e : Timed (HilEvent ℚ)) :
    Option (Sent ℚ) :=
  match e.event with
  | .flapTick => (s.chronoFlap.tick env e.time).load.map fun load => ⟨e.time, load⟩
  | _ => none

/-- A joint state that names the joint is published. -/
def Senses (joint : String) (t : Time) (es : List (Timed (HilEvent ℚ))) : Prop :=
  ∃ name position velocity, ⟨t, .sense name position velocity⟩ ∈ es ∧ joint ∈ name

section Sent

variable {env : FlapEnvironment σ κ ℚ} {d : ℚ}

theorem torques_step (s : HilSystem σ κ ℚ) (e : Timed (HilEvent ℚ)) :
    ∀ x ∈ (s.step env d e).torques, x ∈ s.torques ∨ sentTorque env.libm s e = some x := by
  obtain ⟨time, event⟩ := e
  intro x hx
  cases event with
  | torqueToMixer i => exact Or.inl (Channel.mem_of_mem_receive hx)
  | pidTick =>
      obtain rfl | hold := List.mem_cons.mp hx
      · exact Or.inr rfl
      · exact Or.inl hold
  | _ => exact Or.inl hx

theorem loads_step (s : HilSystem σ κ ℚ) (e : Timed (HilEvent ℚ)) :
    ∀ x ∈ (s.step env d e).loads, x ∈ s.loads ∨ sentLoad env s e = some x := by
  obtain ⟨time, event⟩ := e
  intro x hx
  cases event with
  | loadToMixer i => exact Or.inl (Channel.mem_of_mem_receive hx)
  | flapTick =>
      simp only [step, tickFlap] at hx
      simp only [sentLoad]
      cases hload : (s.chronoFlap.tick env time).load with
      | none =>
          rw [hload] at hx
          exact Or.inl hx
      | some load =>
          rw [hload] at hx
          obtain rfl | hold := List.mem_cons.mp hx
          · exact Or.inr rfl
          · exact Or.inl hold
  | _ => exact Or.inl hx

theorem feedbackToFlap_step (s : HilSystem σ κ ℚ) (e : Timed (HilEvent ℚ)) :
    ∀ x ∈ (s.step env d e).feedbackToFlap, x ∈ s.feedbackToFlap ∨ sentFeedback s e = some x := by
  obtain ⟨time, event⟩ := e
  intro x hx
  cases event with
  | feedbackToFlap i => exact Or.inl (Channel.mem_of_mem_receive hx)
  | sense name position velocity =>
      obtain rfl | hold := List.mem_cons.mp hx
      · exact Or.inr rfl
      · exact Or.inl hold
  | _ => exact Or.inl hx

theorem feedbackToPid_step (s : HilSystem σ κ ℚ) (e : Timed (HilEvent ℚ)) :
    ∀ x ∈ (s.step env d e).feedbackToPid, x ∈ s.feedbackToPid ∨ sentFeedback s e = some x := by
  obtain ⟨time, event⟩ := e
  intro x hx
  cases event with
  | feedbackToPid i => exact Or.inl (Channel.mem_of_mem_receive hx)
  | sense name position velocity =>
      obtain rfl | hold := List.mem_cons.mp hx
      · exact Or.inr rfl
      · exact Or.inl hold
  | _ => exact Or.inl hx

variable {s : HilSystem σ κ ℚ} {es : List (Timed (HilEvent ℚ))} {t : Time}

/-- A torque that reaches the mixer was published by the PID node, at most `d` before. -/
theorem torque_received (h : s.torques = []) {data : List ℚ}
    (hmem : ⟨t, .pid data⟩ ∈ outputs (step env d) (mixerEvent d) s es) :
    ∃ pre now post, es = pre ++ ⟨now, .pidTick⟩ :: post ∧
      data = [((run (step env d) s pre).velocityPid.controlLoop env.libm now).torque] ∧
        (seconds (t - now) : ℚ) ≤ d := by
  obtain ⟨pre, ⟨time, event⟩, post, rfl, he⟩ := exists_of_mem_outputs hmem
  cases event with
  | torqueToMixer i =>
      obtain ⟨data', hdata, heq⟩ := Option.map_eq_some_iff.mp he
      cases heq
      obtain ⟨x, hx, rfl, hallowed⟩ := Channel.receive_some hdata
      obtain ⟨pre', ⟨now, event'⟩, post', rfl, he'⟩ := Channel.exists_sent torques_step h hx
      cases event' with
      | pidTick =>
          obtain rfl := Option.some.inj he'
          exact ⟨pre', now, post' ++ ⟨time, .torqueToMixer i⟩ :: post, by simp, rfl,
            (of_decide_eq_true hallowed).2⟩
      | _ => simp [sentTorque] at he'
  | loadToMixer i =>
      obtain ⟨data', -, heq⟩ := Option.map_eq_some_iff.mp he
      cases heq
  | _ => simp [mixerEvent] at he

/-- A load that reaches the mixer was published by the flap node, at most `d` before. -/
theorem load_received (h : s.loads = []) {data : ℚ}
    (hmem : ⟨t, .load data⟩ ∈ outputs (step env d) (mixerEvent d) s es) :
    ∃ pre now post, es = pre ++ ⟨now, .flapTick⟩ :: post ∧
      ((run (step env d) s pre).chronoFlap.tick env now).load = some data ∧
        (seconds (t - now) : ℚ) ≤ d := by
  obtain ⟨pre, ⟨time, event⟩, post, rfl, he⟩ := exists_of_mem_outputs hmem
  cases event with
  | loadToMixer i =>
      obtain ⟨data', hdata, heq⟩ := Option.map_eq_some_iff.mp he
      cases heq
      obtain ⟨x, hx, rfl, hallowed⟩ := Channel.receive_some hdata
      obtain ⟨pre', ⟨now, event'⟩, post', rfl, he'⟩ := Channel.exists_sent loads_step h hx
      cases event' with
      | flapTick =>
          obtain ⟨load, hload, rfl⟩ := Option.map_eq_some_iff.mp he'
          exact ⟨pre', now, post' ++ ⟨time, .loadToMixer i⟩ :: post, by simp, hload,
            (of_decide_eq_true hallowed).2⟩
      | _ => simp [sentLoad] at he'
  | torqueToMixer i =>
      obtain ⟨data', -, heq⟩ := Option.map_eq_some_iff.mp he
      cases heq
  | _ => simp [mixerEvent] at he

/-- A joint state that is received on a channel was published by the driver, and carries that
time. -/
theorem feedback_received {channel : HilSystem σ κ ℚ → Channel (JointState ℚ)}
    (hstep : ∀ s e, ∀ x ∈ channel (step env d s e), x ∈ channel s ∨ sentFeedback s e = some x)
    (h : channel s = []) {i : ℕ} {msg : JointState ℚ}
    (hmsg : ((channel (run (step env d) s es)).receive (allowed d) t i).1 = some msg) :
    ⟨msg.stamp, .sense msg.name msg.position msg.velocity⟩ ∈ es := by
  obtain ⟨x, hx, rfl, -⟩ := Channel.receive_some hmsg
  obtain ⟨pre, ⟨time, event⟩, post, rfl, he⟩ := Channel.exists_sent hstep h hx
  cases event with
  | sense name position velocity =>
      obtain rfl := Option.some.inj he
      simp
  | _ => simp [sentFeedback] at he

/-- A joint state that reaches the PID node was published by the driver. -/
theorem pidFeedback_received (h : s.feedbackToPid = []) {msg : JointState ℚ}
    (hmem : ⟨t, .jointState msg⟩ ∈ outputs (step env d) (pidEvent d) s es) :
    ⟨msg.stamp, .sense msg.name msg.position msg.velocity⟩ ∈ es := by
  obtain ⟨pre, ⟨time, event⟩, post, rfl, he⟩ := exists_of_mem_outputs hmem
  cases event with
  | feedbackToPid i =>
      obtain ⟨msg', hmsg, heq⟩ := Option.map_eq_some_iff.mp he
      cases heq
      exact List.mem_append_left _ (feedback_received feedbackToPid_step h hmsg)
  | _ => simp [pidEvent] at he

/-- A joint state that reaches the flap node was published by the driver. -/
theorem flapFeedback_received (h : s.feedbackToFlap = []) {msg : JointState ℚ}
    (hmem : ⟨t, .jointState msg⟩ ∈ outputs (step env d) (flapEvent d) s es) :
    ⟨msg.stamp, .sense msg.name msg.position msg.velocity⟩ ∈ es := by
  obtain ⟨pre, ⟨time, event⟩, post, rfl, he⟩ := exists_of_mem_outputs hmem
  cases event with
  | feedbackToFlap i =>
      obtain ⟨msg', hmsg, heq⟩ := Option.map_eq_some_iff.mp he
      cases heq
      exact List.mem_append_left _ (feedback_received feedbackToFlap_step h hmsg)
  | _ => simp [flapEvent] at he

end Sent

/-! ## Behind every torque a joint state -/

section Sensed

variable (env : FlapEnvironment σ κ ℚ) (l : HilLaunch ℚ) (d : ℚ) (t₀ t₁ t₂ : Time)

/-- The joint of the flap node. -/
def flapJoint (l : HilLaunch ℚ) : String :=
  ChronoFlapNode.jointOf (l.chronoFlap.withString "mode" "hil")

/-- The PID node publishes a torque only after a joint state that names its joint. -/
theorem sensed_of_torque {pre : List (Timed (HilEvent ℚ))} {now : Time}
    (hne : ((run (step env d) (start env l t₀ t₁ t₂) pre).velocityPid.controlLoop
      env.libm now).torque ≠ 0) :
    ∃ t, Senses (VelocityPidNode.jointNameOf l.velocityPid) t pre := by
  have hnode := run_velocityPid env d (start env l t₀ t₁ t₂) pre
  have hindex : ¬(run (step env d) (start env l t₀ t₁ t₂) pre).velocityPid.jointIndex < 0 := by
    intro hlost
    rw [VelocityPidNode.controlLoop_lost hlost] at hne
    exact hne rfl
  have hstart : (start env l t₀ t₁ t₂).velocityPid = .start l.velocityPid t₀ t₁ := rfl
  rw [hnode, hstart, VelocityPidNode.run_jointIndex_neg_iff, Bool.not_eq_false,
    VelocityPidNode.jointFound] at hindex
  -- the last joint state that the node received
  cases hlast : VelocityPidNode.lastJointState (outputs (step env d) (pidEvent d)
      (start env l t₀ t₁ t₂) pre) with
  | none =>
      rw [hlast] at hindex
      cases hindex
  | some msg =>
      rw [hlast] at hindex
      have hname : VelocityPidNode.jointNameOf l.velocityPid ∈ msg.name := of_decide_eq_true hindex
      obtain ⟨before, ⟨time, event⟩, after, hes, he, -⟩ := lastSome_eq_some_iff.mp hlast
      cases event with
      | jointState msg' =>
          obtain rfl := Option.some.inj he
          have hsensed := pidFeedback_received rfl
            (hes ▸ List.mem_append_right before List.mem_cons_self)
          exact ⟨msg'.stamp, msg'.name, msg'.position, msg'.velocity, hsensed, hname⟩
      | _ => cases he

/-- No parameter of the flap node is set in the system. -/
theorem flapEvent_ne_setParameters {s : HilSystem σ κ ℚ} {es : List (Timed (HilEvent ℚ))}
    {e : Timed (FlapEvent ℚ)} (he : e ∈ outputs (step env d) (flapEvent d) s es)
    (batch : List (Parameter ℚ)) : e.event ≠ .setParameters batch := by
  obtain ⟨pre, ⟨time, event⟩, post, rfl, he'⟩ := exists_of_mem_outputs he
  rintro heq
  cases event with
  | feedbackToFlap i =>
      obtain ⟨msg, -, rfl⟩ := Option.map_eq_some_iff.mp he'
      cases heq
  | engageHil data =>
      obtain rfl := Option.some.inj he'
      cases heq
  | enableHydro data =>
      obtain rfl := Option.some.inj he'
      cases heq
  | flapTick =>
      obtain rfl := Option.some.inj he'
      cases heq
  | _ => simp [flapEvent] at he'

theorem start_mode :
    (ChronoFlapNode.start env (l.chronoFlap.withString "mode" "hil") t₂).mode = .hil := by
  show ChronoFlapNode.resolveMode ((l.chronoFlap.withString "mode" "hil").getString "mode" "")
    ((l.chronoFlap.withString "mode" "hil").getBool "sil_mode" false) = .hil
  rw [Launch.getString_withString]
  rfl

theorem timeout_run (s : HilSystem σ κ ℚ) (es : List (Timed (HilEvent ℚ))) :
    (run (ChronoFlapNode.step env)
      (ChronoFlapNode.start env (l.chronoFlap.withString "mode" "hil") t₂)
      (outputs (step env d) (flapEvent d) s es)).hilFeedbackTimeoutS = feedbackTimeout l := by
  have hnone : lastSome (ChronoFlapNode.doubleUpdate (l.chronoFlap.withString "mode" "hil")
      "hil_feedback_timeout_s") (outputs (step env d) (flapEvent d) s es) = none := by
    refine lastSome_eq_none_iff.mpr fun e he => ?_
    have hbatch := flapEvent_ne_setParameters env d he
    obtain ⟨time, event⟩ := e
    cases event with
    | setParameters batch => exact absurd rfl (hbatch batch)
    | _ => rfl
  refine (ChronoFlapNode.run_member env _ t₂ _ .hilFeedbackTimeoutS).trans ?_
  show (lastSome (ChronoFlapNode.doubleUpdate _ "hil_feedback_timeout_s") _).getD _ = _
  rw [hnone]
  rfl

/-- The flap node publishes a load only on a joint state that names its joint and is not
older than the feedback timeout. -/
theorem sensed_of_load {pre : List (Timed (HilEvent ℚ))} {now : Time} {load : ℚ}
    (hload : ((run (step env d) (start env l t₀ t₁ t₂) pre).chronoFlap.tick env now).load =
      some load) (hne : load ≠ 0) :
    ∃ t, Senses (flapJoint l) t pre ∧ (seconds (now - t) : ℚ) ≤ feedbackTimeout l := by
  have hstart : (start env l t₀ t₁ t₂).chronoFlap =
      .start env (l.chronoFlap.withString "mode" "hil") t₂ := rfl
  have hmode := start_mode env l t₂
  have hheld := ChronoFlapNode.run_feedback env _ t₂ hmode
    (outputs (step env d) (flapEvent d) (start env l t₀ t₁ t₂) pre)
  have htimeout := timeout_run env l d t₂ (start env l t₀ t₁ t₂) pre
  have hmode' := (ChronoFlapNode.run_mode env _
    (outputs (step env d) (flapEvent d) (start env l t₀ t₁ t₂) pre)).trans hmode
  rw [run_chronoFlap, hstart, ChronoFlapNode.tick_load hmode', Option.some_inj] at hload
  -- the watchdog holds a stamp, and lets the load pass
  have hfresh : ¬∀ stamp, lastSome (HilView.stampNaming (flapJoint l))
      (outputs (step env d) (flapEvent d) (start env l t₀ t₁ t₂) pre) = some stamp →
        feedbackTimeout l < seconds (now - stamp) := by
    intro hstale
    rw [flapJoint, ← hheld, ← htimeout, ← ChronoFlapNode.feedbackOk_eq_false_iff] at hstale
    rw [ChronoFlapNode.loadTorque, hstale] at hload
    exact hne hload.symm
  push Not at hfresh
  obtain ⟨stamp, hstamp, hage⟩ := hfresh
  refine ⟨stamp, ?_, hage⟩
  obtain ⟨before, ⟨time, event⟩, after, hes, he, -⟩ := lastSome_eq_some_iff.mp hstamp
  cases event with
  | jointState msg =>
      have hsensed := flapFeedback_received rfl
        (hes ▸ List.mem_append_right before List.mem_cons_self)
      simp only [HilView.stampNaming] at he
      split_ifs at he with hname
      obtain rfl := Option.some.inj he
      exact ⟨msg.name, msg.position, msg.velocity, hsensed, hname⟩
  | _ => cases he

end Sensed

/-! ## What the motor is commanded -/

section Command

variable (env : FlapEnvironment σ κ ℚ) (l : HilLaunch ℚ) (d : ℚ) (t₀ t₁ t₂ : Time)

/-- The PID timeout of the mixer. -/
def pidTimeout (l : HilLaunch ℚ) : ℚ := (HilTorqueMixerNode.start l.mixer).pidTimeoutS

/-- The clip of the mixer. -/
def hardClip (l : HilLaunch ℚ) : ℚ := (HilTorqueMixerNode.start l.mixer).hardClipNm

/-- A torque that the PID node has published, lately as the mixer sees it, after a joint state
that names its joint. -/
def PublishedTorque (es : List (Timed (HilEvent ℚ))) (now : Time) (torque : ℚ) : Prop :=
  ∃ pre t post, es = pre ++ ⟨t, .pidTick⟩ :: post ∧
    ((run (step env d) (start env l t₀ t₁ t₂) pre).velocityPid.controlLoop env.libm t).torque =
      torque ∧
    (seconds (now - t) : ℚ) ≤ pidTimeout l + d ∧
    ∃ t', Senses (VelocityPidNode.jointNameOf l.velocityPid) t' pre

/-- A load that the flap node has published, lately as the mixer sees it, on a joint state that
names its joint and is not older than the feedback timeout. -/
def PublishedLoad (es : List (Timed (HilEvent ℚ))) (now : Time) (load : ℚ) : Prop :=
  ∃ pre t post, es = pre ++ ⟨t, .flapTick⟩ :: post ∧
    ((run (step env d) (start env l t₀ t₁ t₂) pre).chronoFlap.tick env t).load = some load ∧
    (seconds (now - t) : ℚ) ≤ loadTimeout l + d ∧
    ∃ t', Senses (flapJoint l) t' pre ∧ (seconds (t - t') : ℚ) ≤ feedbackTimeout l

variable {env l d t₀ t₁ t₂}

/-- An input behind its watchdog is zero, or a message that is not too old. -/
theorem fresh_of_watched {timeout x : ℚ} {now : Time} {held : Option (Time × ℚ)}
    (h : HilTorqueMixerNode.watched timeout now held = x) (hne : x ≠ 0) :
    ∃ stamp, held = some (stamp, x) ∧ (seconds (now - stamp) : ℚ) ≤ timeout := by
  cases held with
  | none => exact absurd h.symm hne
  | some message =>
      obtain ⟨stamp, y⟩ := message
      rw [HilTorqueMixerNode.watched] at h
      by_cases hold : timeout < seconds (now - stamp)
      · rw [if_pos hold] at h
        exact absurd h.symm hne
      · rw [if_neg hold] at h
        exact ⟨stamp, by rw [h], not_lt.mp hold⟩

/-- The sum of the two delays of a message. -/
theorem seconds_le_of_delays {a b c : Time} {x y : ℚ} (h : (seconds (a - b) : ℚ) ≤ x)
    (h' : (seconds (b - c) : ℚ) ≤ y) : (seconds (a - c) : ℚ) ≤ x + y := by
  rw [seconds_sub] at h h' ⊢
  linarith

theorem publishedTorque_of_watched {es : List (Timed (HilEvent ℚ))} {now : Time} {torque : ℚ}
    (h : HilTorqueMixerNode.watched (pidTimeout l) now (lastSome HilTorqueMixerNode.pidSample
      (outputs (step env d) (mixerEvent d) (start env l t₀ t₁ t₂) es)) = torque)
    (hne : torque ≠ 0) : PublishedTorque env l d t₀ t₁ t₂ es now torque := by
  obtain ⟨stamp, hheld, hage⟩ := fresh_of_watched h hne
  obtain ⟨before, ⟨time, event⟩, after, hes, he, -⟩ := lastSome_eq_some_iff.mp hheld
  cases event with
  | pid data =>
      cases data with
      | nil => cases he
      | cons x data =>
          obtain ⟨rfl, rfl⟩ := Prod.mk.inj (Option.some.inj he)
          obtain ⟨pre, t, post, rfl, hdata, hdelay⟩ :=
            torque_received rfl (hes ▸ List.mem_append_right before List.mem_cons_self)
          obtain ⟨rfl, -⟩ := List.cons.inj hdata
          exact ⟨pre, t, post, rfl, rfl, seconds_le_of_delays hage hdelay,
            sensed_of_torque env l d t₀ t₁ t₂ hne⟩
  | _ => cases he

theorem publishedLoad_of_watched {es : List (Timed (HilEvent ℚ))} {now : Time} {load : ℚ}
    (h : HilTorqueMixerNode.watched (loadTimeout l) now (lastSome HilTorqueMixerNode.loadSample
      (outputs (step env d) (mixerEvent d) (start env l t₀ t₁ t₂) es)) = load)
    (hne : load ≠ 0) : PublishedLoad env l d t₀ t₁ t₂ es now load := by
  obtain ⟨stamp, hheld, hage⟩ := fresh_of_watched h hne
  obtain ⟨before, ⟨time, event⟩, after, hes, he, -⟩ := lastSome_eq_some_iff.mp hheld
  cases event with
  | load data =>
      obtain ⟨rfl, rfl⟩ := Prod.mk.inj (Option.some.inj he)
      obtain ⟨pre, t, post, rfl, hdata, hdelay⟩ :=
        load_received rfl (hes ▸ List.mem_append_right before List.mem_cons_self)
      exact ⟨pre, t, post, rfl, hdata, seconds_le_of_delays hage hdelay,
        sensed_of_load env l d t₀ t₁ t₂ hdata hne⟩
  | pid data => cases data <;> cases he
  | _ => cases he

/-- No limit of the mixer is set in the system. -/
theorem limitUpdate_eq_none {s : HilSystem σ κ ℚ} {es : List (Timed (HilEvent ℚ))} (name : String) :
    lastSome (HilTorqueMixerNode.limitUpdate l.mixer name)
      (outputs (step env d) (mixerEvent d) s es) = none := by
  refine lastSome_eq_none_iff.mpr fun e he => ?_
  obtain ⟨pre, ⟨time, event⟩, post, -, he'⟩ := exists_of_mem_outputs he
  cases event with
  | torqueToMixer i =>
      obtain ⟨data, -, rfl⟩ := Option.map_eq_some_iff.mp he'
      rfl
  | loadToMixer i =>
      obtain ⟨data, -, rfl⟩ := Option.map_eq_some_iff.mp he'
      rfl
  | enableLoad data =>
      obtain rfl := Option.some.inj he'
      rfl
  | mixerTick =>
      obtain rfl := Option.some.inj he'
      rfl
  | _ => simp [mixerEvent] at he'

/-- **Where the torque of the motor comes from.**  In every run with constant parameters,
whatever is lost, delayed or overtaken, a command is the clipped sum of a torque and a load
that the nodes published not longer ago than the timeouts of the mixer and the delay allow, if
they are not zero. -/
theorem command_provenance (env : FlapEnvironment σ κ ℚ) (l : HilLaunch ℚ) (d : ℚ)
    (t₀ t₁ t₂ : Time) (es : List (Timed (HilEvent ℚ))) (now : Time) :
    ∃ torque load,
      (run (step env d) (start env l t₀ t₁ t₂) es).mixer.command now =
        clamp (torque + load) (-hardClip l) (hardClip l) ∧
      (torque = 0 ∨ PublishedTorque env l d t₀ t₁ t₂ es now torque) ∧
        (load = 0 ∨ PublishedLoad env l d t₀ t₁ t₂ es now load) := by
  have hstart : (start env l t₀ t₁ t₂).mixer = .start l.mixer := rfl
  rw [run_mixer, hstart, HilTorqueMixerNode.command_eq, HilTorqueMixerNode.hardClipInForce,
    HilTorqueMixerNode.pidInput, HilTorqueMixerNode.pidTimeoutInForce,
    HilTorqueMixerNode.loadInput, HilTorqueMixerNode.loadTimeoutInForce, limitUpdate_eq_none,
    limitUpdate_eq_none, limitUpdate_eq_none]
  refine ⟨_, _, rfl, ?_, ?_⟩
  · by_contra hnot
    obtain ⟨hne, hnone⟩ := not_or.mp hnot
    exact hnone (publishedTorque_of_watched rfl hne)
  · split_ifs
    · by_contra hnot
      obtain ⟨hne, hnone⟩ := not_or.mp hnot
      exact hnone (publishedLoad_of_watched rfl hne)
    · exact Or.inl rfl

end Command

end HilSystem

end MarineHil.Ports
