import MarineHil.Ports.VelocityPidDemand
import MarineHil.Ports.VelocityPidShadow

/-!
# The shadow on the published references

With `shadow_sync_trajectory` the shadow runs on the `position_command` and
`velocity_command` of the node.  In cascade mode the node publishes the output
of its outer loop, which already holds the trajectory's velocity and the
position correction, and the shadow's own outer loop adds its correction a
second time.  The two controllers agree as long as every firing of the outer
loop is neutral: no correction to add, or a command already at the limit to
which the correction pushes.

## Main results

* `dispatch_published_iff`: one tick agrees exactly when it is neutral.
* `sync_agrees_of_neutral`: on neutral runs the shadow returns the torque the
  node publishes, and the velocity commands agree on no other runs.
* `sync_cascade_differs`: a first tick in cascade mode that is not neutral.
-/

namespace MarineHil.Ports.VelocityPidNode

open MarineHil.Verified

/-! ## The two programs under trajectory sync -/

section Sync

variable {α : Type} [Double α]

/-- The shadow's tick on the references the node publishes at its own tick.  A
tick that publishes none feeds none. -/
def syncedTick (m : Libm α) {joint : String} (s : VelocityPidNode α)
    (c : ShadowPidController α) (x : TickInput α joint) : ShadowStep α :=
  match (s.sampledTick m x).diagnostics with
  | some d =>
      c.computeExternal m x.sample.position x.sample.velocity d.positionCommand
        d.velocityCommand ((s.jointStateCallback x.sample.message).stepDt x.now)
  | none => { shadow := c, torque := 0, clamps := [] }

/-- Both programs after one tick. -/
def syncedStep (m : Libm α) {joint : String}
    (p : VelocityPidNode α × ShadowPidController α) (x : TickInput α joint) :
    VelocityPidNode α × ShadowPidController α :=
  ((p.1.sampledTick m x).node, (syncedTick m p.1 p.2 x).shadow)

/-- The shadow returns the torque that the node publishes. -/
def SameTorque (m : Libm α) {joint : String}
    (p : VelocityPidNode α × ShadowPidController α) (x : TickInput α joint) : Prop :=
  (syncedTick m p.1 p.2 x).torque = (p.1.sampledTick m x).torque

/-- The shadow holds the velocity command that the node holds. -/
def SameVCmd (m : Libm α) {joint : String}
    (p : VelocityPidNode α × ShadowPidController α) (x : TickInput α joint) : Prop :=
  (syncedTick m p.1 p.2 x).shadow.vCmd = (p.1.sampledTick m x).node.vCmd

end Sync

/-- Adding the correction to the velocity command a second time changes
nothing: the outer loop does not run, or it corrects nothing, or it corrects
towards the limit the command has reached. -/
def Neutral (s : VelocityPidNode ℚ) (m : Libm ℚ) (now : Time) : Prop :=
  s.controlMode = .cascade → s.outerLoopFires m = true →
    let o := s.positionCorrection (s.trajectoryAt m now) (s.stepDt now)
    let ff := (s.trajectoryAt m now).vel
    o = 0 ∨ (0 < o ∧ s.posOutputLimit ≤ o + ff) ∨ (o < 0 ∧ o + ff ≤ -s.posOutputLimit)

/-! ## One tick -/

section Tick

variable {s : VelocityPidNode ℚ} {m : Libm ℚ}

/-- Without acceleration gain the inner loop does not see the acceleration. -/
theorem runInnerLoop_accel (h : s.kaff = 0) (velSetpoint a a' dt : ℚ) :
    s.runInnerLoop velSetpoint a dt = s.runInnerLoop velSetpoint a' dt := by
  unfold runInnerLoop feedforward
  rw [h, zero_mul, zero_mul]

/-- Two references that clamp to one command give one outer loop. -/
theorem runOuterLoop_velFf (hfires : s.outerLoopFires m = true) {posRef ff ff' dt : ℚ}
    (h : clamp ((s.posPid.compute posRef s.lastMeasuredPos (s.outerDtAccum + dt)).output + ff')
        (-s.posOutputLimit) s.posOutputLimit =
      clamp ((s.posPid.compute posRef s.lastMeasuredPos (s.outerDtAccum + dt)).output + ff)
        (-s.posOutputLimit) s.posOutputLimit) :
    s.runOuterLoop m posRef ff' dt = s.runOuterLoop m posRef ff dt := by
  unfold runOuterLoop
  rw [if_pos hfires, if_pos hfires]
  dsimp only
  rw [h]

/-- In cascade mode the dispatch sees the reference through the outer loop only. -/
theorem dispatch_cascade_congr (hmode : s.controlMode = .cascade) (hkaff : s.kaff = 0)
    {traj traj' : TrajectoryRef ℚ} {dt : ℚ}
    (h : s.runOuterLoop m traj'.pos traj'.vel dt = s.runOuterLoop m traj.pos traj.vel dt) :
    s.dispatch m traj' dt = s.dispatch m traj dt := by
  rw [dispatch_cascade m traj dt hmode, dispatch_cascade m traj' dt hmode, h]
  have hkaff' : (s.runOuterLoop m traj.pos traj.vel dt).1.kaff = 0 := by
    rw [(s.runOuterLoop_inner m traj.pos traj.vel dt).2.1]
    exact hkaff
  generalize s.runOuterLoop m traj.pos traj.vel dt = o at hkaff'
  dsimp only
  rw [runInnerLoop_accel hkaff' o.1.vCmd traj'.accel traj.accel dt]

/-- Where the outer loop does not fire, the published references give the tick
that the trajectory gives. -/
theorem dispatch_published_of_waits (hkaff : s.kaff = 0)
    (hwaits : s.controlMode = .cascade → s.outerLoopFires m = false)
    (traj : TrajectoryRef ℚ) (dt : ℚ) :
    s.dispatch m ⟨traj.pos, (s.dispatch m traj dt).node.vCmd, 0⟩ dt = s.dispatch m traj dt := by
  cases hmode : s.controlMode with
  | velocityOnly =>
      rw [dispatch_velocityOnly m traj dt hmode, dispatch_velocityOnly m _ dt hmode]
      exact runInnerLoop_accel (s := { s with vCmd := traj.vel }) hkaff _ _ _ _
  | positionOnly =>
      rw [dispatch_positionOnly m traj dt hmode, dispatch_positionOnly m _ dt hmode]
  | cascade =>
      have hfires := hwaits hmode
      apply dispatch_cascade_congr hmode hkaff
      rw [runOuterLoop_waits hfires, runOuterLoop_waits hfires]

/-- There the published references give the same tick if they give the same
velocity command. -/
theorem dispatch_published_of_vCmd (hmode : s.controlMode = .cascade) (hkaff : s.kaff = 0)
    (hfires : s.outerLoopFires m = true) {traj traj' : TrajectoryRef ℚ}
    (hpos : traj'.pos = traj.pos) {dt : ℚ}
    (h : (s.dispatch m traj' dt).node.vCmd = (s.dispatch m traj dt).node.vCmd) :
    s.dispatch m traj' dt = s.dispatch m traj dt := by
  apply dispatch_cascade_congr hmode hkaff
  rw [dispatch_vCmd_of_fires hmode hfires, dispatch_vCmd_of_fires hmode hfires,
    positionCorrection, hpos] at h
  rw [hpos]
  exact runOuterLoop_velFf hfires h

/-- The mode dispatch on the published references: it gives the same velocity
command exactly when the correction is neutral, and then the same tick. -/
theorem dispatch_published_iff (hkaff : s.kaff = 0) (hb : 0 < s.posOutputLimit)
    (traj : TrajectoryRef ℚ) (dt : ℚ) :
    let r := s.dispatch m traj dt
    let r' := s.dispatch m ⟨traj.pos, r.node.vCmd, 0⟩ dt
    let o := s.positionCorrection traj dt
    let neutral := s.controlMode = .cascade → s.outerLoopFires m = true →
      o = 0 ∨ (0 < o ∧ s.posOutputLimit ≤ o + traj.vel) ∨
        (o < 0 ∧ o + traj.vel ≤ -s.posOutputLimit)
    (r'.node.vCmd = r.node.vCmd ↔ neutral) ∧ (neutral → r' = r) := by
  intro r r' o neutral
  by_cases hcorrects : s.controlMode = .cascade ∧ s.outerLoopFires m = true
  · obtain ⟨hmode, hfires⟩ := hcorrects
    have hv : r.node.vCmd = clamp (o + traj.vel) (-s.posOutputLimit) s.posOutputLimit :=
      dispatch_vCmd_of_fires hmode hfires traj dt
    have hv' : r'.node.vCmd = clamp (o + r.node.vCmd) (-s.posOutputLimit) s.posOutputLimit :=
      dispatch_vCmd_of_fires hmode hfires ⟨traj.pos, r.node.vCmd, 0⟩ dt
    have hneutral : r'.node.vCmd = r.node.vCmd ↔ neutral := by
      rw [hv', hv, clamp_add_clamp_iff hb]
      exact ⟨fun h _ _ => h, fun h => h hmode hfires⟩
    have hpos : (⟨traj.pos, r.node.vCmd, 0⟩ : TrajectoryRef ℚ).pos = traj.pos := rfl
    refine ⟨hneutral, ?_⟩
    intro hn
    exact dispatch_published_of_vCmd hmode hkaff hfires hpos (hneutral.mpr hn)
  · have hr : r' = r := by
      apply dispatch_published_of_waits hkaff
      intro hmode
      exact Bool.eq_false_iff.mpr fun hfires => hcorrects ⟨hmode, hfires⟩
    have hn : neutral := fun hmode hfires => absurd ⟨hmode, hfires⟩ hcorrects
    exact ⟨iff_of_true (by rw [hr]) hn, fun _ => hr⟩

end Tick

/-! ## Runs -/

/-- The tick that follows the sample is neutral. -/
def NeutralTick (m : Libm ℚ) {joint : String} (p : VelocityPidNode ℚ × ShadowPidController ℚ)
    (x : TickInput ℚ joint) : Prop :=
  (p.1.jointStateCallback x.sample.message).Neutral m x.now

/-- What holds of both programs while they agree. -/
structure SyncInv (joint : String) (p : VelocityPidNode ℚ × ShadowPidController ℚ) : Prop where
  replicates : Replicates joint p.1 p.2
  kaff : p.1.kaff = 0
  limit : 0 < p.1.posOutputLimit

/-- The synced tick of the shadow is the node's own dispatch on the references
it publishes. -/
theorem Replicates.syncedTick_eq {joint : String} {s : VelocityPidNode ℚ}
    {c : ShadowPidController ℚ} (h : Replicates joint s c) (m : Libm ℚ) (x : TickInput ℚ joint) :
    let s' := s.jointStateCallback x.sample.message
    let published : TrajectoryRef ℚ :=
      ⟨(s'.trajectoryAt m x.now).pos, (s'.controlLoop m x.now).node.vCmd, 0⟩
    let own := dispatch { s' with lastLoopTime := x.now } m published (s'.stepDt x.now)
    (syncedTick m s c x).torque = own.torque ∧
      (syncedTick m s c x).shadow = own.node.toShadow := by
  obtain ⟨hready, hpos, hfilter⟩ := h.sample x.sample
  unfold syncedTick sampledTick
  dsimp only
  generalize s.jointStateCallback x.sample.message = s' at hready hpos hfilter
  obtain ⟨d, hd, hdpos, hdvel⟩ := controlLoop_diagnostics hready.found m x.now
  have hown := dispatch_toShadow (s := { s' with lastLoopTime := x.now }) hready.measured m
    ⟨(s'.trajectoryAt m x.now).pos, (s'.controlLoop m x.now).node.vCmd, 0⟩ (s'.stepDt x.now)
  rw [hd]
  dsimp only
  rw [hdpos, hdvel, ShadowPidController.computeExternal, hfilter, ← hpos]
  exact hown

/-- The node's own dispatch on the references that it publishes. -/
theorem controlLoop_published_iff {s : VelocityPidNode ℚ} (hfound : ¬s.jointIndex < 0)
    (hkaff : s.kaff = 0) (hb : 0 < s.posOutputLimit) (m : Libm ℚ) (now : Time) :
    let published : TrajectoryRef ℚ :=
      ⟨(s.trajectoryAt m now).pos, (s.controlLoop m now).node.vCmd, 0⟩
    let own := dispatch { s with lastLoopTime := now } m published (s.stepDt now)
    (own.node.vCmd = (s.controlLoop m now).node.vCmd ↔ s.Neutral m now) ∧
      (s.Neutral m now → own = (s.controlLoop m now).toVelocityPidStep) := by
  have hiff := dispatch_published_iff (s := { s with lastLoopTime := now }) (m := m) hkaff hb
    (s.trajectoryAt m now) (s.stepDt now)
  rw [← controlLoop_found hfound] at hiff
  exact hiff

/-- One tick agrees on the velocity command exactly when it is neutral, and
then it agrees on everything. -/
theorem SyncInv.tick {joint : String} {p : VelocityPidNode ℚ × ShadowPidController ℚ}
    (h : SyncInv joint p) (m : Libm ℚ) (x : TickInput ℚ joint) :
    (NeutralTick m p x ↔ SameVCmd m p x) ∧
      (NeutralTick m p x → SameTorque m p x ∧ SyncInv joint (syncedStep m p x)) := by
  obtain ⟨s, c⟩ := p
  obtain ⟨hready, _, _⟩ := h.replicates.sample x.sample
  obtain ⟨htorque, hstate⟩ := h.replicates.syncedTick_eq m x
  have hsettled := (s.jointStateCallback_settings x.sample.message).members
  have hkaff : (s.jointStateCallback x.sample.message).kaff = 0 := by
    rw [hsettled]
    exact h.kaff
  have hlimit : 0 < (s.jointStateCallback x.sample.message).posOutputLimit := by
    rw [hsettled]
    exact h.limit
  unfold NeutralTick SameVCmd SameTorque syncedStep
  dsimp only at htorque hstate ⊢
  rw [htorque, hstate, sampledTick]
  generalize s.jointStateCallback x.sample.message = s' at hready hkaff hlimit
  obtain ⟨hiff, hown⟩ := controlLoop_published_iff hready.found hkaff hlimit m x.now
  have hticked := (s'.controlLoop_settings m x.now).members
  refine ⟨hiff.symm, ?_⟩
  intro hneutral
  rw [hown hneutral]
  refine ⟨rfl, hready.replicates m x.now, ?_, ?_⟩
  · show (s'.controlLoop m x.now).node.kaff = 0
    rw [hticked]
    exact hkaff
  · show 0 < (s'.controlLoop m x.now).node.posOutputLimit
    rw [hticked]
    exact hlimit

/-- The node without inversion and without acceleration gain, and a fresh
shadow with its settings. -/
def syncStart (l : Launch ℚ) (t₀ t₁ : Time) : VelocityPidNode ℚ × ShadowPidController ℚ :=
  let node := start ((l.withBool "invert_output" false).withDouble "kaff" 0) t₀ t₁
  (node, node.freshShadow)

theorem syncStart_inv (l : Launch ℚ) (t₀ t₁ : Time) :
    SyncInv (jointNameOf l) (syncStart l t₀ t₁) := by
  have hmembers := startMembers_eq ((l.withBool "invert_output" false).withDouble "kaff" 0)
  have hvalid := startMembers_limitsValid ((l.withBool "invert_output" false).withDouble "kaff" 0)
  generalize hL : (l.withBool "invert_output" false).withDouble "kaff" 0 = L at hmembers hvalid
  have hinvert : (startMembers L).invertOutput = false := by
    rw [hmembers, ← hL]
    exact Launch.getBool_withBool l "invert_output" false false
  have hkaff : (startMembers L).kaff = 0 := by
    rw [hmembers, ← hL]
    exact Launch.getDouble_withDouble (l.withBool "invert_output" false) "kaff" 0 (lit 0.20)
  have hrep : Replicates (jointNameOf L) (start L t₀ t₁) (start L t₀ t₁).freshShadow :=
    start_replicates hinvert
  have hjoint : jointNameOf L = jointNameOf l := by
    rw [← hL]
    rfl
  unfold syncStart
  rw [hL, ← hjoint]
  exact ⟨hrep, hkaff, hvalid.posOutput⟩

/-- **Trajectory sync on neutral ticks.**  In a run whose ticks are all
neutral, the shadow on the published references returns the torque the node
publishes at every tick; and the two velocity commands agree along a run
exactly when all its ticks are neutral. -/
theorem sync_agrees_of_neutral (m : Libm ℚ) (l : Launch ℚ) (t₀ t₁ : Time)
    (xs : List (TickInput ℚ (jointNameOf l))) :
    (Along (syncedStep m) (NeutralTick m) (syncStart l t₀ t₁) xs →
        Along (syncedStep m) (SameTorque m) (syncStart l t₀ t₁) xs) ∧
      (Along (syncedStep m) (NeutralTick m) (syncStart l t₀ t₁) xs ↔
        Along (syncedStep m) (SameVCmd m) (syncStart l t₀ t₁) xs) := by
  have hstart := syncStart_inv l t₀ t₁
  constructor
  · intro h
    exact h.imp (I := SyncInv (jointNameOf l)) (fun p x hp hn => ((hp.tick m x).2 hn).1)
      (fun p x hp hn => ((hp.tick m x).2 hn).2) hstart
  · exact along_iff (I := SyncInv (jointNameOf l)) (fun p x hp => (hp.tick m x).1)
      (fun p x hp hn => ((hp.tick m x).2 hn).2) hstart xs

/-- Cascade mode, all other parameters as by default, and the joint 0.1 rad
from its setpoint: the shadow returns twice the torque at the first tick. -/
theorem sync_cascade_differs :
    let l : Launch ℚ := Launch.empty.withString "control_mode" "cascade"
    ¬Along (syncedStep ⟨fun _ => 0, fun _ => 1, fun _ => 0⟩)
      (SameTorque ⟨fun _ => 0, fun _ => 1, fun _ => 0⟩) (syncStart l 0 0)
      [(⟨⟨.single 0 "motor_joint" (1 / 10) 0, 1 / 10, 0, JointState.single_carries _ _ _ _⟩,
        10000000⟩ : TickInput ℚ (jointNameOf l))] := by
  intro l h
  refine absurd (along_cons.mp h).1 ?_
  unfold SameTorque
  decide +kernel

end MarineHil.Ports.VelocityPidNode
