import MarineHil.Ports.HilComposition

/-!
# The epoch of the clock

The nodes of HIL mode store readings of their clock: as times, and the start of the ramp in
seconds.  They use them in differences only, so that the system does the same whatever the
clock counts from.

## Main results

* `controlLoop_shift`, `tick_shift`, `command_shift`: the timers of the three nodes.
* `step_shift`: the system, with what is in flight.
* `commands_shift`: the motor is commanded the same after every change of the epoch.
-/

namespace MarineHil.Ports

open MarineHil.Verified

/-- The same at another epoch. -/
def later (δ : ℤ) {ε : Type} (e : Timed ε) : Timed ε := ⟨e.time + δ, e.event⟩

/-- A joint state as it is stamped then. -/
def restamped {α : Type} (δ : ℤ) (msg : JointState α) : JointState α :=
  { msg with stamp := msg.stamp + δ }

theorem later_sub (now start δ : ℤ) : now + δ - (start + δ) = now - start :=
  add_sub_add_right_eq_sub now start δ

theorem seconds_add (s t : ℤ) : (seconds (s + t) : ℚ) = seconds s + seconds t := by
  simp only [seconds, lit_rat, Int.cast_add]
  ring

theorem seconds_later (now start δ : ℤ) :
    (seconds (now + δ) - seconds (start + δ) : ℚ) = seconds now - seconds start := by
  rw [seconds_add, seconds_add]
  ring

/-! ## `VelocityPidNode` -/

namespace VelocityPidNode

variable {α : Type} [Double α] (s : VelocityPidNode α) (δ : ℤ)

def shift {α : Type} (s : VelocityPidNode α) (δ : ℤ) : VelocityPidNode α :=
  { s with startTime := s.startTime + δ, lastLoopTime := s.lastLoopTime + δ }

theorem readVelocity_shift (msg : JointState α) :
    (s.shift δ).readVelocity (restamped δ msg) = (s.readVelocity msg).shift δ := by
  have hread : (restamped δ msg).velocity[(s.shift δ).jointIndex.toNat]? =
      msg.velocity[s.jointIndex.toNat]? := rfl
  unfold readVelocity
  rw [hread]
  cases msg.velocity[s.jointIndex.toNat]? <;> rfl

theorem readPosition_shift (msg : JointState α) :
    (s.shift δ).readPosition (restamped δ msg) = (s.readPosition msg).shift δ := by
  have hread : (restamped δ msg).position[(s.shift δ).jointIndex.toNat]? =
      msg.position[s.jointIndex.toNat]? := rfl
  unfold readPosition
  rw [hread]
  cases msg.position[s.jointIndex.toNat]? <;> rfl

theorem jointStateCallback_shift (msg : JointState α) :
    (s.shift δ).jointStateCallback (restamped δ msg) =
      (s.jointStateCallback msg).shift δ := by
  show (if s.locateJoint msg < 0 then shift { s with jointIndex := s.locateJoint msg } δ
    else ((shift { s with jointIndex := s.locateJoint msg } δ).readVelocity
      (restamped δ msg)).readPosition (restamped δ msg)) =
        shift (if s.locateJoint msg < 0 then _ else _) δ
  rw [readVelocity_shift, readPosition_shift]
  split_ifs <;> rfl

theorem runOuterLoop_shift (m : Libm α) (posRef velFf dt : α) :
    (s.shift δ).runOuterLoop m posRef velFf dt =
      ((s.runOuterLoop m posRef velFf dt).1.shift δ, (s.runOuterLoop m posRef velFf dt).2) := by
  unfold runOuterLoop
  show (if s.outerLoopFires m = true then _ else _) = _
  split_ifs <;> rfl

theorem dispatch_shift (m : Libm α) (traj : TrajectoryRef α) (dt : α) :
    (s.shift δ).dispatch m traj dt =
      { s.dispatch m traj dt with node := (s.dispatch m traj dt).node.shift δ } := by
  have hmode : (s.shift δ).controlMode = s.controlMode := rfl
  unfold dispatch
  rw [hmode]
  cases s.controlMode with
  | cascade =>
      dsimp only
      rw [runOuterLoop_shift]
      rfl
  | velocityOnly => rfl
  | positionOnly => rfl

/-- The timer: only differences of readings count. -/
theorem controlLoop_shift (m : Libm α) (now : Time) :
    (s.shift δ).controlLoop m (now + δ) =
      { s.controlLoop m now with node := (s.controlLoop m now).node.shift δ } := by
  have htraj : (s.shift δ).trajectoryAt m (now + δ) = s.trajectoryAt m now := by
    show s.computeTrajectory m (seconds (now + δ - (s.startTime + δ))) = _
    rw [later_sub]
    rfl
  have hdt : (s.shift δ).stepDt (now + δ) = s.stepDt now := by
    unfold stepDt
    show (if 0 < (seconds (now + δ - (s.lastLoopTime + δ)) : α) then
      seconds (now + δ - (s.lastLoopTime + δ)) else s.dt) = _
    rw [later_sub]
  have hnode : ({ s.shift δ with lastLoopTime := now + δ } : VelocityPidNode α) =
      shift { s with lastLoopTime := now } δ := rfl
  dsimp only at hnode
  by_cases hindex : s.jointIndex < 0
  · have hindex' : (s.shift δ).jointIndex < 0 := hindex
    rw [controlLoop, if_pos hindex', controlLoop, if_pos hindex]
  · have hindex' : ¬(s.shift δ).jointIndex < 0 := hindex
    rw [controlLoop, if_neg hindex', controlLoop, if_neg hindex]
    dsimp only
    rw [htraj, hdt, hnode, dispatch_shift]
    rfl

theorem start_shift (l : Launch α) (loopTime startTime : Time) :
    start l (loopTime + δ) (startTime + δ) = (start l loopTime startTime).shift δ := rfl

end VelocityPidNode

/-! ## `ChronoFlapNode` -/

namespace ChronoFlapNode

variable {σ κ : Type} (env : FlapEnvironment σ κ ℚ) (s : ChronoFlapNode σ κ ℚ) (δ : ℤ)

/-- The stamp counts once a message has set it. -/
def shift {σ κ : Type} (s : ChronoFlapNode σ κ ℚ) (δ : ℤ) : ChronoFlapNode σ κ ℚ :=
  { s with
    startTime := s.startTime + δ
    hilRampStartTime := s.hilRampStartTime + seconds δ
    hwStamp := if s.hwReceived then s.hwStamp + δ else s.hwStamp }

theorem feedbackOk_shift (now : Time) :
    (s.shift δ).feedbackOk (now + δ) = s.feedbackOk now := by
  unfold feedbackOk
  show (s.hwReceived && !decide (s.hilFeedbackTimeoutS <
    seconds (now + δ - if s.hwReceived then s.hwStamp + δ else s.hwStamp))) = _
  cases s.hwReceived with
  | false => rfl
  | true => rw [if_pos rfl, later_sub]

theorem measuredHydroStep_shift (now : Time) :
    (s.shift δ).measuredHydroStep env (now + δ) = s.measuredHydroStep env now := by
  unfold measuredHydroStep
  show s.hydroStep env (s.measuredSystem env.chrono)
    (seconds (now + δ) - seconds (s.startTime + δ)) = _
  rw [seconds_later]

theorem loadTorque_shift (now : Time) :
    (s.shift δ).loadTorque env (now + δ) = s.loadTorque env now := by
  have hungated : (s.shift δ).ungatedLoad env (now + δ) = s.ungatedLoad env now := by
    unfold ungatedLoad
    rw [measuredHydroStep_shift]
    cases s.measuredHydroStep env now with
    | some h => rfl
    | none =>
        exact congrArg (s.computeLoadTorque env.libm s.hwPos s.hwVel)
          (seconds_later now s.startTime δ)
  have hprogress : (s.shift δ).rampProgress (now + δ) = s.rampProgress now := by
    unfold rampProgress
    show clamp ((seconds (now + δ) - (s.hilRampStartTime + seconds δ)) / s.hilRampTimeS) 0 _ = _
    rw [seconds_add, add_sub_add_right_eq_sub]
  have hgate (tau : ℚ) : (s.shift δ).rampGate (now + δ) tau = s.rampGate now tau := by
    unfold rampGate
    rw [hprogress]
    rfl
  rw [loadTorque, loadTorque, feedbackOk_shift, hgate, hungated]

theorem shadowStep_shift (now : Time) :
    (s.shift δ).shadowStep env.libm (now + δ) = s.shadowStep env.libm now := by
  unfold shadowStep
  show (if s.shadowSyncTrajectory then _ else s.shadowPid.compute env.libm s.simPosition
    s.simVelocity (seconds (now + δ - (s.startTime + δ))) s.publishDt) = _
  rw [later_sub]
  rfl

theorem simTick_shift (now : Time) :
    ((s.shift δ).simTick env (now + δ)).node = (s.simTick env now).node.shift δ := by
  have hhydro : (s.shift δ).hydroStep env (s.shift δ).sys
      (seconds (now + δ - (s.shift δ).startTime)) =
        s.hydroStep env s.sys (seconds (now - s.startTime)) := by
    show s.hydroStep env s.sys (seconds (now + δ - (s.startTime + δ))) = _
    rw [later_sub]
  have hafter (step : ShadowStep ℚ) : (s.shift δ).afterShadow step =
      (s.afterShadow step).shift δ := by
    unfold afterShadow
    show (if s.useShadowPid then _ else _) = _
    split_ifs <;> rfl
  have htorque (step : ShadowStep ℚ) : (s.shift δ).torqueCmd step = s.torqueCmd step := rfl
  have hrecord (t : ChronoFlapNode σ κ ℚ) (h : Option (HydroStep σ κ ℚ)) :
      ((t.shift δ).afterHydro h).recordClip (resultOf h).wasClipped =
        ((t.afterHydro h).recordClip (resultOf h).wasClipped).shift δ := by
    cases h <;> rfl
  have hsubstep (t : ChronoFlapNode σ κ ℚ) (torque : ℚ) :
      (t.shift δ).substep env.chrono torque = t.substep env.chrono torque := rfl
  have hfollow (t : ChronoFlapNode σ κ ℚ) (sys : σ) :
      (t.shift δ).followEngine env.chrono sys = (t.followEngine env.chrono sys).shift δ := rfl
  have hsubsteps (t : ChronoFlapNode σ κ ℚ) : (t.shift δ).substeps = t.substeps := rfl
  have hsys (t : ChronoFlapNode σ κ ℚ) : (t.shift δ).sys = t.sys := rfl
  rw [simTick, simTick, publish_node, publish_node, shadowStep_shift, hhydro, hafter, htorque]
  rw [hrecord, hsubstep, hsubsteps, hsys, hfollow]

theorem hilTick_shift (now : Time) :
    ((s.shift δ).hilTick env (now + δ)).node = (s.hilTick env now).node.shift δ := by
  rw [hilTick, hilTick, feedbackOk_shift, measuredHydroStep_shift]
  cases (if s.feedbackOk now then s.measuredHydroStep env now else none) <;> rfl

/-- The loop of `run`, in any mode. -/
theorem tick_shift (now : Time) :
    ((s.shift δ).tick env (now + δ)).node = (s.tick env now).node.shift δ ∧
      ((s.shift δ).tick env (now + δ)).load = (s.tick env now).load := by
  by_cases hmode : s.mode = .hil
  · have hmode' : (s.shift δ).mode = .hil := hmode
    rw [tick, if_pos hmode', tick, if_pos hmode]
    exact ⟨s.hilTick_shift env δ now, congrArg some (s.loadTorque_shift env δ now)⟩
  · have hmode' : ¬(s.shift δ).mode = .hil := hmode
    rw [tick, if_neg hmode', tick, if_neg hmode]
    have hload (t : ChronoFlapNode σ κ ℚ) (time : Time) : (t.simTick env time).load = none := rfl
    exact ⟨s.simTick_shift env δ now, (hload _ _).trans (hload _ _).symm⟩

theorem jointState_shift (now : Time) (msg : JointState ℚ) :
    (s.shift δ).step env ⟨now + δ, .jointState (restamped δ msg)⟩ =
      (s.step env ⟨now, .jointState msg⟩).shift δ := by
  show (if s.mode = .hil then
    (s.shift δ).jointStateCallback (restamped δ msg) else s.shift δ) =
      (if s.mode = .hil then s.jointStateCallback msg else s).shift δ
  split_ifs
  · have hfind : (restamped δ msg).name.findIdx? (· = (s.shift δ).jointName) =
        msg.name.findIdx? (· = s.jointName) := rfl
    unfold jointStateCallback
    rw [hfind]
    cases msg.name.findIdx? (· = s.jointName) <;> rfl
  · rfl

theorem engageHil_shift (now : Time) (data : Bool) :
    (s.shift δ).step env ⟨now + δ, .engageHil data⟩ =
      (s.step env ⟨now, .engageHil data⟩).shift δ := by
  show (if s.mode = .hil then ((s.shift δ).engageService (now + δ) data).1 else s.shift δ) =
    (if s.mode = .hil then (s.engageService now data).1 else s).shift δ
  split_ifs
  · rw [engageService, engageService, seconds_add]
    rfl
  · rfl

theorem start_shift (l : Launch ℚ) (now : Time) :
    start env l (now + δ) = (start env l now).shift δ := by
  have hstart : start env l (now + δ) = { start env l now with
      startTime := now + δ, hilRampStartTime := seconds (now + δ) } := rfl
  rw [hstart, seconds_add]
  rfl

end ChronoFlapNode

/-! ## `HilTorqueMixerNode` -/

namespace HilTorqueMixerNode

variable (s : HilTorqueMixerNode ℚ) (δ : ℤ)

/-- The stamps count once a message has set them. -/
def shift (s : HilTorqueMixerNode ℚ) (δ : ℤ) : HilTorqueMixerNode ℚ :=
  { s with
    pidLastStamp := if s.pidReceived then s.pidLastStamp + δ else s.pidLastStamp
    loadLastStamp := if s.loadReceived then s.loadLastStamp + δ else s.loadLastStamp }

theorem pid_shift (now : Time) (data : List ℚ) :
    (s.shift δ).step ⟨now + δ, .pid data⟩ = (s.step ⟨now, .pid data⟩).shift δ := by
  cases data <;> rfl

theorem command_shift (now : Time) : (s.shift δ).command (now + δ) = s.command now := by
  have hpid : (s.shift δ).effectivePid (now + δ) = s.effectivePid now := by
    unfold effectivePid
    show (if s.pidReceived then (if s.pidTimeoutS < seconds (now + δ -
      if s.pidReceived then s.pidLastStamp + δ else s.pidLastStamp) then 0 else s.tauPid) else 0) =
        _
    by_cases hreceived : s.pidReceived = true
    · rw [if_pos hreceived, if_pos hreceived, if_pos hreceived, later_sub]
    · rw [if_neg hreceived, if_neg hreceived]
  have hload : (s.shift δ).effectiveLoad (now + δ) = s.effectiveLoad now := by
    unfold effectiveLoad
    show (if s.enableLoad then (if s.loadReceived then (if s.loadTimeoutS < seconds (now + δ -
      if s.loadReceived then s.loadLastStamp + δ else s.loadLastStamp) then 0 else s.tauHydro)
        else 0) else 0) = _
    by_cases hreceived : s.loadReceived = true
    · rw [if_pos hreceived, if_pos hreceived, if_pos hreceived, later_sub]
    · rw [if_neg hreceived, if_neg hreceived]
  rw [command, command, hpid, hload]
  rfl

end HilTorqueMixerNode

/-! ## The system -/

namespace HilSystem

/-- What is in flight, sent at another epoch. -/
def laterSent {β : Type} (δ : ℤ) (later : β → β) (sent : Channel β) : Channel β :=
  sent.map fun x => ⟨x.time + δ, later x.message⟩

theorem receive_laterSent {β : Type} (allowed : ℤ → Bool) (sent : Channel β) (δ : ℤ)
    (f : β → β) (now : Time) (i : ℕ) :
    (laterSent δ f sent).receive allowed (now + δ) i =
      ((sent.receive allowed now i).1.map f, laterSent δ f (sent.receive allowed now i).2) := by
  unfold Channel.receive laterSent
  rw [List.getElem?_map]
  cases hx : sent[i]? with
  | none => rfl
  | some x =>
      dsimp only [Option.map_some]
      rw [later_sub, List.eraseIdx_map]
      split_ifs <;> rfl

variable {σ κ : Type} (env : FlapEnvironment σ κ ℚ) (s : HilSystem σ κ ℚ) (d : ℚ) (δ : ℤ)

def shift {σ κ : Type} (s : HilSystem σ κ ℚ) (δ : ℤ) : HilSystem σ κ ℚ where
  velocityPid := s.velocityPid.shift δ
  chronoFlap := s.chronoFlap.shift δ
  mixer := s.mixer.shift δ
  feedbackToPid := laterSent δ (restamped δ) s.feedbackToPid
  feedbackToFlap := laterSent δ (restamped δ) s.feedbackToFlap
  torques := laterSent δ id s.torques
  loads := laterSent δ id s.loads

theorem receiveFeedbackPid_shift (now : Time) (i : ℕ) :
    (s.shift δ).receiveFeedbackPid d (now + δ) i = (s.receiveFeedbackPid d now i).shift δ := by
  have hreceive := receive_laterSent (allowed d) s.feedbackToPid δ (restamped δ) now i
  have hsent : (s.shift δ).feedbackToPid = laterSent δ (restamped δ) s.feedbackToPid := rfl
  unfold receiveFeedbackPid
  rw [hsent, hreceive]
  generalize s.feedbackToPid.receive (allowed d) now i = r
  obtain ⟨received, rest⟩ := r
  cases received with
  | none => rfl
  | some msg =>
      have hcallback := s.velocityPid.jointStateCallback_shift δ msg
      exact congrArg (fun t => ({ shift s δ with
        velocityPid := t
        feedbackToPid := laterSent δ (restamped δ) rest } : HilSystem σ κ ℚ)) hcallback

theorem receiveFeedbackFlap_shift (now : Time) (i : ℕ) :
    (s.shift δ).receiveFeedbackFlap env d (now + δ) i =
      (s.receiveFeedbackFlap env d now i).shift δ := by
  have hreceive := receive_laterSent (allowed d) s.feedbackToFlap δ (restamped δ) now i
  have hsent : (s.shift δ).feedbackToFlap = laterSent δ (restamped δ) s.feedbackToFlap := rfl
  unfold receiveFeedbackFlap
  rw [hsent, hreceive]
  generalize s.feedbackToFlap.receive (allowed d) now i = r
  obtain ⟨received, rest⟩ := r
  cases received with
  | none => rfl
  | some msg =>
      have hstep := s.chronoFlap.jointState_shift env δ now msg
      exact congrArg (fun t => ({ shift s δ with
        chronoFlap := t
        feedbackToFlap := laterSent δ (restamped δ) rest } : HilSystem σ κ ℚ)) hstep

theorem receiveTorque_shift (now : Time) (i : ℕ) :
    (s.shift δ).receiveTorque d (now + δ) i = (s.receiveTorque d now i).shift δ := by
  have hreceive := receive_laterSent (allowed d) s.torques δ id now i
  have hsent : (s.shift δ).torques = laterSent δ id s.torques := rfl
  unfold receiveTorque
  rw [hsent, hreceive]
  generalize s.torques.receive (allowed d) now i = r
  obtain ⟨received, rest⟩ := r
  cases received with
  | none => rfl
  | some data =>
      have hstep := s.mixer.pid_shift δ now data
      exact congrArg (fun t => ({ shift s δ with
        mixer := t
        torques := laterSent δ id rest } : HilSystem σ κ ℚ)) hstep

theorem receiveLoad_shift (now : Time) (i : ℕ) :
    (s.shift δ).receiveLoad d (now + δ) i = (s.receiveLoad d now i).shift δ := by
  have hreceive := receive_laterSent (allowed d) s.loads δ id now i
  have hsent : (s.shift δ).loads = laterSent δ id s.loads := rfl
  unfold receiveLoad
  rw [hsent, hreceive]
  generalize s.loads.receive (allowed d) now i = r
  obtain ⟨received, rest⟩ := r
  cases received <;> rfl

theorem tickPid_shift (m : Libm ℚ) (now : Time) :
    (s.shift δ).tickPid m (now + δ) = (s.tickPid m now).shift δ := by
  have htick := s.velocityPid.controlLoop_shift δ m now
  have hnode : (s.shift δ).velocityPid = s.velocityPid.shift δ := rfl
  unfold tickPid
  rw [hnode, htick]
  rfl

theorem tickFlap_shift (now : Time) :
    (s.shift δ).tickFlap env (now + δ) = (s.tickFlap env now).shift δ := by
  obtain ⟨hnode, hload⟩ := s.chronoFlap.tick_shift env δ now
  have hflap : (s.shift δ).chronoFlap = s.chronoFlap.shift δ := rfl
  unfold tickFlap
  rw [hflap, hnode, hload]
  cases (s.chronoFlap.tick env now).load <;> rfl

/-- One event. -/
theorem step_shift (e : Timed (HilEvent ℚ)) :
    (s.shift δ).step env d (later δ e) = (s.step env d e).shift δ := by
  obtain ⟨now, event⟩ := e
  cases event with
  | sense name position velocity => rfl
  | feedbackToPid i => exact s.receiveFeedbackPid_shift d δ now i
  | feedbackToFlap i => exact s.receiveFeedbackFlap_shift env d δ now i
  | torqueToMixer i => exact s.receiveTorque_shift d δ now i
  | loadToMixer i => exact s.receiveLoad_shift d δ now i
  | pidTick => exact s.tickPid_shift δ env.libm now
  | flapTick => exact s.tickFlap_shift env δ now
  | mixerTick => rfl
  | engageHil data =>
      exact congrArg (fun t => ({ shift s δ with chronoFlap := t } : HilSystem σ κ ℚ))
        (s.chronoFlap.engageHil_shift env δ now data)
  | enableHydro data => rfl
  | enableLoad data => rfl

theorem start_shift (l : HilLaunch ℚ) (loopTime pidTime flapTime : Time) :
    (start env l (loopTime + δ) (pidTime + δ) (flapTime + δ) : HilSystem σ κ ℚ) =
      (start env l loopTime pidTime flapTime).shift δ := by
  unfold start
  rw [ChronoFlapNode.start_shift]
  rfl

/-- What goes to the motor. -/
def commanded (s : HilSystem σ κ ℚ) (e : Timed (HilEvent ℚ)) : Option ℚ :=
  match e.event with
  | .mixerTick => some (s.mixer.command e.time)
  | _ => none

/-- **The epoch of the clock does not matter.**  With all readings moved by the same amount,
the same messages, losses, delays, timers and calls lead to the same commands. -/
theorem commands_shift (l : HilLaunch ℚ) (d : ℚ) (δ : ℤ) (loopTime pidTime flapTime : Time)
    (es : List (Timed (HilEvent ℚ))) :
    outputs (step env d) commanded (start env l (loopTime + δ) (pidTime + δ) (flapTime + δ))
        (es.map (later δ)) =
      outputs (step env d) commanded (start env l loopTime pidTime flapTime) es := by
  rw [start_shift]
  have hout (s : HilSystem σ κ ℚ) (e : Timed (HilEvent ℚ)) :
      commanded (s.shift δ) (later δ e) = commanded s e := by
    obtain ⟨now, event⟩ := e
    cases event with
    | mixerTick => exact congrArg some (s.mixer.command_shift δ now)
    | _ => rfl
  exact outputs_map (fun s : HilSystem σ κ ℚ => s.shift δ) (later δ)
    (fun s e => s.step_shift env d δ e) hout (start env l loopTime pidTime flapTime) es

end HilSystem

end MarineHil.Ports
