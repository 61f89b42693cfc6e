import MarineHil.Ports.VelocityPidParameters
import MarineHil.Ports.VelocityPidSpecialValues

/-!
# Recovery from NaN feedback

The driver of the motor reports NaN until its first encoder frame.  The node
does not check its samples, and a NaN can lodge in the velocity filter, in
either integral, in the held velocity command, or in the previous measurement
of a derivative.  Of these only the last one clears itself, with the next
finite measurement.

`Sound` and `Poisoned` say, for each control mode, which states recover and
which never do, and `Harmless` is the exact condition under which an event
keeps a sound state sound.  In velocity modes no NaN velocity is harmless; in
cascade mode no outer loop may read a NaN position; in position mode a tick
that reads a NaN position is harmless only if the PID controller was saturated.

## Main results

* `status_step`: a step keeps sound states sound exactly if it is harmless, and
  otherwise poisons them; a poisoned state stays so.
* `recovers_iff`: when every tick after two finite samples publishes a bounded
  number.
* `no_recovery`: one NaN sample and one tick under the default settings.
-/

namespace MarineHil.Ports.VelocityPidNode

open MarineHil.Verified
open MarineHil.Verified.ExtRat
open PidController

/-! ## Feedback with missing readings -/

/-- A reading of the encoder, NaN before its first frame. -/
def reading : Option ℚ → ExtRat
  | some q => fin q
  | none => nan

/-- A `JointState` sample for the joint. -/
structure FeedbackSample (joint : String) where
  position : Option ℚ
  velocity : Option ℚ
  message : JointState ExtRat
  carries : message.Carries joint (reading position) (reading velocity)

/-- Both readings are numbers. -/
def FeedbackSample.valid {joint : String} (x : FeedbackSample joint) : Bool :=
  x.position.isSome && x.velocity.isSome

inductive FeedbackEvent (joint : String) where
  | sample (x : FeedbackSample joint)
  | controlLoop

section Feedback

variable {joint : String}

def feedbackStep (m : Libm ExtRat) (s : VelocityPidNode ExtRat)
    (e : Timed (FeedbackEvent joint)) : VelocityPidNode ExtRat :=
  match e.event with
  | .sample x => s.jointStateCallback x.message
  | .controlLoop => (s.controlLoop m e.time).node

/-- Count the valid samples since the last one that is not. -/
def countValid (n : ℕ) (e : Timed (FeedbackEvent joint)) : ℕ :=
  match e.event with
  | .sample x => if x.valid then n + 1 else 0
  | .controlLoop => n

/-- The valid samples at the end of a history. -/
def validSince (es : List (Timed (FeedbackEvent joint))) : ℕ := run countValid 0 es

end Feedback

/-! ## Sound and poisoned states -/

/-- The velocity filter holds numbers. -/
structure VelFinite (s : VelocityPidNode ExtRat) : Prop where
  measured : s.lastMeasuredVel.IsFinite
  filtered : s.filteredVel.IsFinite

/-- The velocity filter holds NaN. -/
structure VelNan (s : VelocityPidNode ExtRat) : Prop where
  measured : s.lastMeasuredVel = nan
  filtered : s.filteredVel = nan
  initialized : s.filterInitialized = true

/-- The states that publish numbers once the feedback is finite. -/
def Sound (s : VelocityPidNode ExtRat) : Prop :=
  match s.controlMode with
  | .velocityOnly => s.VelFinite ∧ s.velPid.FiniteState
  | .cascade =>
      s.VelFinite ∧ s.velPid.FiniteState ∧ s.posPid.FiniteState ∧ s.vCmd.IsFinite
  | .positionOnly =>
      s.posPid.integral.IsFinite ∧
        (s.posPid.prevMeasurement.IsFinite ∨
          (s.posPid.prevMeasurement = nan ∧ s.posPid.firstRun = false ∧
            s.posPid.saturated = false))

/-- The states that publish NaN at every tick from now on.  In cascade mode a
NaN velocity command takes one more tick to reach the integral. -/
def Poisoned (s : VelocityPidNode ExtRat) : Prop :=
  match s.controlMode with
  | .velocityOnly => s.VelNan
  | .cascade =>
      s.VelNan ∨ s.velPid.integral = nan ∨
        (s.vCmd = nan ∧ s.velPid.saturated = false ∧ s.posPid.prevMeasurement = nan ∧
          s.posPid.firstRun = false)
  | .positionOnly => s.posPid.integral = nan

/-- A tick on the held measurements keeps a sound state sound. -/
def HarmlessTick (m : Libm ExtRat) (s : VelocityPidNode ExtRat) : Prop :=
  match s.controlMode with
  | .velocityOnly => True
  | .cascade => s.outerLoopFires m = true → s.lastMeasuredPos ≠ nan
  | .positionOnly => s.lastMeasuredPos = nan → s.posPid.saturated = true

/-- An event keeps a sound state sound. -/
def Harmless (m : Libm ExtRat) {joint : String} (s : VelocityPidNode ExtRat)
    (e : Timed (FeedbackEvent joint)) : Prop :=
  match e.event with
  | .sample x => s.controlMode ≠ .positionOnly → x.velocity ≠ none
  | .controlLoop => ¬s.jointIndex < 0 → s.HarmlessTick m

/-- None of these looks at the time of the last tick. -/
theorem FiniteSettings.at_time {s : VelocityPidNode ExtRat} (h : s.FiniteSettings) (now : Time) :
    FiniteSettings { s with lastLoopTime := now } :=
  ⟨h.members, ⟨h.configured.vel, h.configured.pos⟩, h.dt, h.accum⟩

theorem Sound.at_time {s : VelocityPidNode ExtRat} (h : s.Sound) (now : Time) :
    Sound { s with lastLoopTime := now } := by
  unfold Sound at h ⊢
  cases hmode : s.controlMode with
  | velocityOnly =>
      rw [hmode] at h
      exact ⟨⟨h.1.measured, h.1.filtered⟩, h.2⟩
  | cascade =>
      rw [hmode] at h
      exact ⟨⟨h.1.measured, h.1.filtered⟩, h.2⟩
  | positionOnly =>
      rw [hmode] at h
      exact h

theorem Poisoned.at_time {s : VelocityPidNode ExtRat} (h : s.Poisoned) (now : Time) :
    Poisoned { s with lastLoopTime := now } := by
  unfold Poisoned at h ⊢
  cases hmode : s.controlMode with
  | velocityOnly =>
      rw [hmode] at h
      exact ⟨h.measured, h.filtered, h.initialized⟩
  | cascade =>
      rw [hmode] at h
      exact h.imp_left (fun hv => ⟨hv.measured, hv.filtered, hv.initialized⟩)
  | positionOnly =>
      rw [hmode] at h
      exact h

/-- What holds whatever the feedback was: finite settings, and a held position
that is a number or NaN. -/
structure Fed (joint : String) (s : VelocityPidNode ExtRat) : Prop where
  settings : s.FiniteSettings
  position : s.lastMeasuredPos.IsFinite ∨ s.lastMeasuredPos = nan
  jointName : s.jointName = joint

/-! ## One tick -/

section Tick

variable {s : VelocityPidNode ExtRat} {m : Libm ExtRat} {traj : TrajectoryRef ExtRat}
  {dt : ExtRat}

theorem accum_add_pos (h : s.FiniteSettings) (ht : FiniteTick traj dt) :
    (s.outerDtAccum + dt).IsFinite ∧ 0 < s.outerDtAccum + dt := by
  obtain ⟨hfin, hnonneg⟩ := h.accum
  obtain ⟨a, ha⟩ := isFinite_iff.mp hfin
  obtain ⟨d, hd⟩ := isFinite_iff.mp ht.step
  have hpos := ht.positive
  rw [ha, zero_def, fin_le] at hnonneg
  rw [hd, zero_def, fin_lt] at hpos
  rw [ha, hd, fin_add, zero_def, fin_lt]
  exact ⟨isFinite_fin _, add_pos_of_nonneg_of_pos hnonneg hpos⟩

theorem FiniteSettings.dispatch (h : s.FiniteSettings) (ht : FiniteTick traj dt) :
    (s.dispatch m traj dt).node.FiniteSettings := by
  have hset := (dispatch_frame s m traj dt).1
  have haccum : (s.dispatch m traj dt).node.outerDtAccum.IsFinite ∧
      0 ≤ (s.dispatch m traj dt).node.outerDtAccum := by
    cases hmode : s.controlMode with
    | velocityOnly =>
        rw [dispatch_velocityOnly_outer hmode]
        exact h.accum
    | positionOnly =>
        rw [(dispatch_posPid hmode m traj dt).2]
        exact h.accum
    | cascade =>
        cases hfires : s.outerLoopFires m with
        | true =>
            rw [(dispatch_posPid_fires hmode hfires traj dt).2]
            exact ⟨isFinite_zero, (fin_le 0 0).mpr le_rfl⟩
        | false =>
            rw [(dispatch_posPid_waits hmode hfires traj dt).2]
            obtain ⟨hfin, hpos⟩ := accum_add_pos h ht
            obtain ⟨q, hq⟩ := isFinite_iff.mp hfin
            rw [hq, zero_def, fin_lt] at hpos
            rw [hq, zero_def, fin_le]
            exact ⟨isFinite_fin q, hpos.le⟩
  refine ⟨?_, h.configured.dispatch m traj dt, ?_, haccum⟩
  · rw [hset.members]
    exact h.members
  · rw [hset.dt]
    exact h.dt

/-- A NaN in the velocity reaches the sum of the inner loop. -/
private theorem velSum_of_velNan (h : s.VelNan) (setpoint : ExtRat) :
    s.velPid.sum setpoint s.lastMeasuredVel dt = nan := by
  apply sum_eq_nan_of_error
  rw [h.measured]
  exact error_of_nan_measurement

/-- So does a NaN in its setpoint. -/
private theorem velSum_of_nan_setpoint {setpoint : ExtRat} (h : setpoint = nan) :
    s.velPid.sum setpoint s.lastMeasuredVel dt = nan := by
  apply sum_eq_nan_of_error
  rw [h]
  exact error_of_nan_setpoint

/-- A NaN in the position reaches the sum of the position loop. -/
private theorem posSum_of_nan (h : s.lastMeasuredPos = nan) (posRef : ExtRat) :
    s.posPid.sum posRef s.lastMeasuredPos dt = nan := by
  apply sum_eq_nan_of_error
  rw [h]
  exact error_of_nan_measurement

private theorem velSetpoint_of_velocityOnly (hmode : s.controlMode = .velocityOnly)
    (ht : FiniteTick traj dt) : (s.velSetpoint m traj dt).IsFinite := by
  unfold velSetpoint
  rw [hmode]
  exact ht.vel

theorem VelNan.dispatch (h : s.VelNan) : (s.dispatch m traj dt).node.VelNan := by
  have hmeas := (dispatch_frame s m traj dt).2.1
  exact ⟨hmeas.lastMeasuredVel.trans h.measured, hmeas.filteredVel.trans h.filtered,
    hmeas.filterInitialized.trans h.initialized⟩

theorem VelFinite.dispatch (h : s.VelFinite) : (s.dispatch m traj dt).node.VelFinite := by
  have hmeas := (dispatch_frame s m traj dt).2.1
  refine ⟨?_, ?_⟩
  · rw [hmeas.lastMeasuredVel]
    exact h.measured
  · rw [hmeas.filteredVel]
    exact h.filtered

/-- A harmless tick in position mode. -/
theorem position_sound (h : s.FiniteSettings) (hmode : s.controlMode = .positionOnly)
    (hint : s.posPid.integral.IsFinite)
    (hread : s.lastMeasuredPos.IsFinite ∨ s.lastMeasuredPos = nan) (ht : FiniteTick traj dt)
    (hharm : s.lastMeasuredPos = nan → s.posPid.saturated = true) :
    let c := (s.dispatch m traj dt).node.posPid
    c.integral.IsFinite ∧
      (c.prevMeasurement.IsFinite ∨
        (c.prevMeasurement = nan ∧ c.firstRun = false ∧ c.saturated = false)) := by
  have hpid := (dispatch_posPid hmode m traj dt).1
  dsimp only
  rcases hread with hfin | hnan
  · -- a finite position replaces the previous measurement
    have hnext := nextIntegral_isFinite h.posGains hint
      (error_isFinite (c := s.posPid) ht.pos hfin) ht.step
    rw [hpid]
    exact ⟨compute_integral_isFinite h.posGains hnext, Or.inl hfin⟩
  · -- a NaN position is not integrated under the flag
    have hsat := hharm hnan
    have hnext :
        (s.posPid.nextIntegral (s.posPid.error traj.pos s.lastMeasuredPos) dt).IsFinite := by
      rw [hnan, error_of_nan_measurement, nextIntegral_of_nan_error, hsat]
      exact hint
    have hsum : s.posPid.sum traj.pos s.lastMeasuredPos dt = nan := posSum_of_nan hnan traj.pos
    have hdown := (position_of_nan (m := m) hmode hsum).2
    rw [hpid] at hdown ⊢
    exact ⟨compute_integral_isFinite h.posGains hnext, Or.inr ⟨hnan, rfl, hdown⟩⟩

/-- A harmless tick keeps a sound state sound. -/
theorem Sound.dispatch (hs : s.Sound) (h : s.FiniteSettings)
    (hread : s.lastMeasuredPos.IsFinite ∨ s.lastMeasuredPos = nan) (ht : FiniteTick traj dt)
    (hharm : s.HarmlessTick m) : (s.dispatch m traj dt).node.Sound := by
  have hmode' := (dispatch_frame s m traj dt).1.controlMode
  unfold Sound at hs ⊢
  unfold HarmlessTick at hharm
  rw [hmode']
  cases hmode : s.controlMode with
  | velocityOnly =>
      rw [hmode] at hs
      obtain ⟨hvel, hpid⟩ := hs
      have hne : s.controlMode ≠ .positionOnly := by rw [hmode]; decide
      have hset := velSetpoint_of_velocityOnly (m := m) hmode ht
      exact ⟨hvel.dispatch, (inner_isFinite h hne ht hset hvel.measured hpid).2.1⟩
  | cascade =>
      rw [hmode] at hs hharm
      obtain ⟨hvel, hpid, hpos, hvCmd⟩ := hs
      have hne : s.controlMode ≠ .positionOnly := by rw [hmode]; decide
      have hp : s.outerLoopFires m = true → s.lastMeasuredPos.IsFinite :=
        fun hfires => hread.resolve_right (hharm hfires)
      obtain ⟨hset, hpos'⟩ := velSetpoint_isFinite h hmode ht hpos hvCmd hp
      obtain ⟨_, hpid', hvCmd'⟩ := inner_isFinite h hne ht hset hvel.measured hpid
      exact ⟨hvel.dispatch, hpid', hpos', hvCmd'⟩
  | positionOnly =>
      rw [hmode] at hs hharm
      exact position_sound h hmode hs.1 hread ht hharm

/-- A tick that is not harmless poisons whatever state it finds. -/
theorem poisoned_of_harm (hharm : ¬s.HarmlessTick m) :
    (s.dispatch m traj dt).node.Poisoned := by
  have hmode' := (dispatch_frame s m traj dt).1.controlMode
  unfold Poisoned
  unfold HarmlessTick at hharm
  rw [hmode']
  cases hmode : s.controlMode with
  | velocityOnly =>
      rw [hmode] at hharm
      exact absurd trivial hharm
  | cascade =>
      rw [hmode] at hharm
      push Not at hharm
      obtain ⟨hfires, hnan⟩ := hharm
      have hne : s.controlMode ≠ .positionOnly := by rw [hmode]; decide
      have hset : s.velSetpoint m traj dt = nan :=
        velSetpoint_of_nan hmode hfires (posSum_of_nan hnan _)
      have hpos := (dispatch_posPid_fires hmode hfires traj dt).1
      refine Or.inr (Or.inr ⟨(dispatch_velPid hne m traj dt).2.trans hset,
        (inner_of_nan hne (velSum_of_nan_setpoint hset)).2, ?_, ?_⟩)
      · rw [hpos]
        exact hnan
      · rw [hpos]
        rfl
  | positionOnly =>
      rw [hmode] at hharm
      push Not at hharm
      obtain ⟨hnan, hsat⟩ := hharm
      dsimp only
      rw [(dispatch_posPid hmode m traj dt).1]
      apply compute_integral_of_nan_error _ (Bool.eq_false_iff.mpr hsat)
      rw [hnan]
      exact error_of_nan_measurement

/-- A poisoned state publishes NaN and stays poisoned. -/
theorem Poisoned.dispatch (hp : s.Poisoned) (h : s.FiniteSettings) (ht : FiniteTick traj dt) :
    (s.dispatch m traj dt).torque = nan ∧ (s.dispatch m traj dt).node.Poisoned := by
  have hmode' := (dispatch_frame s m traj dt).1.controlMode
  unfold Poisoned at hp ⊢
  rw [hmode']
  cases hmode : s.controlMode with
  | velocityOnly =>
      rw [hmode] at hp
      have hne : s.controlMode ≠ .positionOnly := by rw [hmode]; decide
      exact ⟨(inner_of_nan hne (velSum_of_velNan hp _)).1, VelNan.dispatch hp⟩
  | cascade =>
      rw [hmode] at hp
      have hne : s.controlMode ≠ .positionOnly := by rw [hmode]; decide
      rcases hp with hvel | hint | ⟨hvCmd, hsat, hprev, hrun⟩
      · exact ⟨(inner_of_nan hne (velSum_of_velNan hvel _)).1, Or.inl hvel.dispatch⟩
      · exact ⟨(inner_of_nan hne (sum_eq_nan_of_integral hint)).1,
          Or.inr (Or.inl (inner_integral_of_nan hne hint))⟩
      · -- held or computed anew from a NaN derivative, the command is NaN
        have hset : s.velSetpoint m traj dt = nan := by
          cases hfires : s.outerLoopFires m with
          | true =>
              exact velSetpoint_of_nan hmode hfires
                (sum_eq_nan_of_derivative hrun hprev (accum_add_pos h ht).2)
          | false =>
              unfold velSetpoint
              rw [hmode]
              dsimp only
              rw [hfires, if_neg Bool.false_ne_true]
              exact hvCmd
        exact ⟨(inner_of_nan hne (velSum_of_nan_setpoint hset)).1,
          Or.inr (Or.inl (inner_integral_of_nan_setpoint hne hset hsat))⟩
  | positionOnly =>
      rw [hmode] at hp
      dsimp only at hp ⊢
      refine ⟨(position_of_nan hmode (sum_eq_nan_of_integral hp)).1, ?_⟩
      rw [(dispatch_posPid hmode m traj dt).1]
      exact compute_integral_of_nan hp

/-- On a finite position a sound state publishes a bounded number, unless the
derivative still reads a NaN. -/
theorem Sound.torque_iff (hs : s.Sound) (h : s.FiniteSettings)
    (hpos : s.lastMeasuredPos.IsFinite) (ht : FiniteTick traj dt) :
    s.BoundedTorque (s.dispatch m traj dt).torque ↔
      (s.controlMode = .positionOnly → s.posPid.prevMeasurement ≠ nan) := by
  unfold Sound at hs
  cases hmode : s.controlMode with
  | velocityOnly =>
      rw [hmode] at hs
      obtain ⟨hvel, hpid⟩ := hs
      have hne : s.controlMode ≠ .positionOnly := by rw [hmode]; decide
      have hset := velSetpoint_of_velocityOnly (m := m) hmode ht
      have hbounded := (inner_isFinite h hne ht hset hvel.measured hpid).1
      exact ⟨fun _ hm => (nomatch hm), fun _ => hbounded⟩
  | cascade =>
      rw [hmode] at hs
      obtain ⟨hvel, hpid, hposPid, hvCmd⟩ := hs
      have hne : s.controlMode ≠ .positionOnly := by rw [hmode]; decide
      have hset := (velSetpoint_isFinite (m := m) h hmode ht hposPid hvCmd (fun _ => hpos)).1
      have hbounded := (inner_isFinite h hne ht hset hvel.measured hpid).1
      exact ⟨fun _ hm => (nomatch hm), fun _ => hbounded⟩
  | positionOnly =>
      rw [hmode] at hs
      obtain ⟨hint, hprev⟩ := hs
      constructor
      · intro hbounded _ hnan
        have hrun : s.posPid.firstRun = false := by
          rcases hprev with hfin | ⟨_, hrun, _⟩
          · exact absurd hnan hfin.ne_nan
          · exact hrun
        exact hbounded.ne_nan
          (position_of_nan hmode (sum_eq_nan_of_derivative hrun hnan ht.positive)).1
      · intro hne
        have hfin : s.posPid.prevMeasurement.IsFinite :=
          hprev.resolve_right (fun hnan => hne rfl hnan.1)
        exact position_isFinite h hmode ht hpos ⟨hint, fun _ => hfin⟩

end Tick

/-! ## One sample -/

section Sample

variable {joint : String} {s : VelocityPidNode ExtRat}

theorem reading_cases (r : Option ℚ) : (reading r).IsFinite ∨ reading r = nan := by
  cases r with
  | some q => exact Or.inl (isFinite_fin q)
  | none => exact Or.inr rfl

theorem oriented_isFinite {x : ExtRat} (h : x.IsFinite) : (s.oriented x).IsFinite := by
  unfold oriented
  split
  · exact h.neg
  · exact h

theorem oriented_nan : s.oriented nan = nan := by
  unfold oriented
  split <;> rfl

theorem oriented_reading_some {r : Option ℚ} (h : r ≠ none) :
    (s.oriented (reading r)).IsFinite := by
  obtain ⟨q, rfl⟩ := Option.ne_none_iff_exists'.mp h
  exact oriented_isFinite (isFinite_fin q)

/-- A node after a sample of its joint. -/
theorem Fed.sample_eq (h : Fed joint s) (x : FeedbackSample joint) :
    s.jointStateCallback x.message =
      { ({ s with jointIndex := s.locateJoint x.message }.filterVelocity
          (s.oriented (reading x.velocity))) with
        lastMeasuredPos := s.oriented (reading x.position) } := by
  refine jointStateCallback_carries ?_
  rw [h.jointName]
  exact x.carries

theorem Fed.sample (h : Fed joint s) (x : FeedbackSample joint) :
    Fed joint (s.jointStateCallback x.message) ∧
      ¬(s.jointStateCallback x.message).jointIndex < 0 ∧
      (x.position ≠ none → (s.jointStateCallback x.message).lastMeasuredPos.IsFinite) := by
  obtain ⟨hset, hloops, hidx⟩ := s.jointStateCallback_frame x.message
  have hpos : (s.jointStateCallback x.message).lastMeasuredPos =
      s.oriented (reading x.position) := by
    rw [h.sample_eq x]
  have hsettings : (s.jointStateCallback x.message).FiniteSettings := by
    refine ⟨?_, h.settings.configured.jointStateCallback _, ?_, ?_⟩
    · rw [hset.members]
      exact h.settings.members
    · rw [hset.dt]
      exact h.settings.dt
    · rw [hloops.outerDtAccum]
      exact h.settings.accum
  refine ⟨⟨hsettings, ?_, hset.jointName.trans h.jointName⟩, ?_, ?_⟩
  · rw [hpos]
    rcases reading_cases x.position with hfin | hnan
    · exact Or.inl (oriented_isFinite hfin)
    · rw [hnan]
      exact Or.inr oriented_nan
  · rw [hidx, s.locateJoint_neg_iff, h.jointName, not_not]
    exact x.carries.listed
  · intro hsome
    rw [hpos]
    exact oriented_reading_some hsome

/-- A finite velocity keeps a finite filter finite. -/
theorem VelFinite.sample (hv : s.VelFinite) (h : Fed joint s) {x : FeedbackSample joint}
    (hx : x.velocity ≠ none) : (s.jointStateCallback x.message).VelFinite := by
  have hraw := oriented_reading_some (s := s) hx
  have hfiltered : ((s.filterVelocity (s.oriented (reading x.velocity))).filteredVel).IsFinite := by
    unfold filterVelocity
    dsimp only
    split
    · exact (h.settings.members.filterAlpha.mul hv.filtered).add
        (((isFinite_lit 1).sub h.settings.members.filterAlpha).mul hraw)
    · exact hraw
  rw [h.sample_eq x]
  exact ⟨hfiltered, hfiltered⟩

/-- A NaN velocity gets into the filter, and never out of it. -/
theorem VelNan.sample (h : Fed joint s) {x : FeedbackSample joint}
    (hx : x.velocity = none ∨ s.VelNan) : (s.jointStateCallback x.message).VelNan := by
  have hfiltered : (s.filterVelocity (s.oriented (reading x.velocity))).filteredVel = nan := by
    unfold filterVelocity
    dsimp only
    rcases hx with hnone | hnan
    · rw [hnone]
      show (if s.filterInitialized = true then
          s.filterAlpha * s.filteredVel + (lit 1 - s.filterAlpha) * s.oriented nan
        else s.oriented nan) = nan
      rw [oriented_nan, mul_nan, add_nan, ite_self]
    · rw [hnan.initialized, if_pos rfl, hnan.filtered, mul_nan, nan_add]
  rw [h.sample_eq x]
  exact ⟨hfiltered, hfiltered, rfl⟩

theorem Sound.sample (hs : s.Sound) (h : Fed joint s) {x : FeedbackSample joint}
    (hx : s.controlMode ≠ .positionOnly → x.velocity ≠ none) :
    (s.jointStateCallback x.message).Sound := by
  obtain ⟨hset, hloops, _⟩ := s.jointStateCallback_frame x.message
  unfold Sound at hs ⊢
  rw [hset.controlMode, hloops.velPid, hloops.posPid, hloops.vCmd]
  cases hmode : s.controlMode with
  | velocityOnly =>
      rw [hmode] at hs hx
      exact ⟨hs.1.sample h (hx (by decide)), hs.2⟩
  | cascade =>
      rw [hmode] at hs hx
      exact ⟨hs.1.sample h (hx (by decide)), hs.2⟩
  | positionOnly =>
      rw [hmode] at hs
      exact hs

theorem Poisoned.of_sample (h : Fed joint s) {x : FeedbackSample joint}
    (hx : ¬(s.controlMode ≠ .positionOnly → x.velocity ≠ none)) :
    (s.jointStateCallback x.message).Poisoned := by
  push Not at hx
  obtain ⟨hmode, hnone⟩ := hx
  have hnan := VelNan.sample h (Or.inl hnone)
  unfold Poisoned
  rw [(s.jointStateCallback_settings x.message).controlMode]
  cases hm : s.controlMode with
  | velocityOnly => exact hnan
  | cascade => exact Or.inl hnan
  | positionOnly => exact absurd hm hmode

theorem Poisoned.sample (hp : s.Poisoned) (h : Fed joint s) (x : FeedbackSample joint) :
    (s.jointStateCallback x.message).Poisoned := by
  obtain ⟨hset, hloops, _⟩ := s.jointStateCallback_frame x.message
  unfold Poisoned at hp ⊢
  rw [hset.controlMode, hloops.velPid, hloops.posPid, hloops.vCmd]
  cases hmode : s.controlMode with
  | velocityOnly =>
      rw [hmode] at hp
      exact VelNan.sample h (Or.inr hp)
  | cascade =>
      rw [hmode] at hp
      exact hp.imp_left (fun hnan => VelNan.sample h (Or.inr hnan))
  | positionOnly =>
      rw [hmode] at hp
      exact hp

end Sample

/-! ## Runs -/

section Runs

variable {joint : String} {m : Libm ExtRat} (hm : LibmFinite m)

include hm

theorem Fed.step {s : VelocityPidNode ExtRat} (h : Fed joint s)
    (e : Timed (FeedbackEvent joint)) : Fed joint (feedbackStep m s e) := by
  obtain ⟨time, event⟩ := e
  cases event with
  | sample x => exact (h.sample x).1
  | controlLoop =>
      show Fed joint (s.controlLoop m time).node
      by_cases hlost : s.jointIndex < 0
      · rw [controlLoop_lost hlost]
        exact h
      · have hset := s.controlLoop_settings m time
        have hmeas := s.controlLoop_measurements m time
        refine ⟨?_, ?_, hset.jointName.trans h.jointName⟩
        · rw [controlLoop_found hlost]
          exact (h.settings.at_time time).dispatch (h.settings.trajectoryAt hm time)
        · rw [hmeas.lastMeasuredPos]
          exact h.position

/-- A step keeps a sound state sound exactly if it is harmless, and poisons it
otherwise; a poisoned state stays poisoned. -/
theorem status_step {s : VelocityPidNode ExtRat} (h : Fed joint s)
    (e : Timed (FeedbackEvent joint)) :
    (s.Sound → Harmless m s e → (feedbackStep m s e).Sound) ∧
      (s.Sound → ¬Harmless m s e → (feedbackStep m s e).Poisoned) ∧
      (s.Poisoned → (feedbackStep m s e).Poisoned) := by
  obtain ⟨time, event⟩ := e
  cases event with
  | sample x =>
      exact ⟨fun hs hx => hs.sample h hx, fun _ hx => Poisoned.of_sample h hx,
        fun hp => hp.sample h x⟩
  | controlLoop =>
      show (s.Sound → (¬s.jointIndex < 0 → s.HarmlessTick m) → (s.controlLoop m time).node.Sound) ∧
        (s.Sound → ¬(¬s.jointIndex < 0 → s.HarmlessTick m) →
          (s.controlLoop m time).node.Poisoned) ∧
        (s.Poisoned → (s.controlLoop m time).node.Poisoned)
      by_cases hlost : s.jointIndex < 0
      · rw [controlLoop_lost hlost]
        exact ⟨fun hs _ => hs, fun _ hharm => absurd (fun hfound => absurd hlost hfound) hharm,
          fun hp => hp⟩
      · rw [controlLoop_found hlost]
        have hnow := h.settings.at_time time
        have ht := h.settings.trajectoryAt hm time
        refine ⟨fun hs hharm => ?_, fun _ hharm => ?_, fun hp => ?_⟩
        · exact (hs.at_time time).dispatch hnow h.position ht (hharm hlost)
        · exact poisoned_of_harm (s := { s with lastLoopTime := time })
            (fun htick => hharm (fun _ => htick))
        · exact ((hp.at_time time).dispatch hnow ht).2

/-- The state after a run: fed throughout, sound if every event was harmless,
and poisoned otherwise. -/
theorem run_status {s : VelocityPidNode ExtRat} (h : Fed joint s) (hs : s.Sound)
    (es : List (Timed (FeedbackEvent joint))) :
    Fed joint (run (feedbackStep m) s es) ∧
      (Along (feedbackStep m) (Harmless m) s es → (run (feedbackStep m) s es).Sound) ∧
      (¬Along (feedbackStep m) (Harmless m) s es → (run (feedbackStep m) s es).Poisoned) := by
  induction es using List.reverseRecOn with
  | nil => exact ⟨h, fun _ => hs, fun hno => absurd (along_nil s) hno⟩
  | append_singleton es e ih =>
      obtain ⟨hfed, hsound, hpoisoned⟩ := ih
      obtain ⟨hkeep, hspoil, hstay⟩ := status_step hm hfed e
      rw [run_concat, along_concat]
      refine ⟨hfed.step hm e, fun hboth => hkeep (hsound hboth.1) hboth.2, fun hno => ?_⟩
      by_cases halong : Along (feedbackStep m) (Harmless m) s es
      · exact hspoil (hsound halong) (fun hharm => hno ⟨halong, hharm⟩)
      · exact hstay (hpoisoned halong)

/-- After a valid sample the joint is found and its position is a number, until
the next sample. -/
theorem run_valid {s : VelocityPidNode ExtRat} (h : Fed joint s)
    (es : List (Timed (FeedbackEvent joint))) (hvalid : 0 < validSince es) :
    ¬(run (feedbackStep m) s es).jointIndex < 0 ∧
      (run (feedbackStep m) s es).lastMeasuredPos.IsFinite := by
  induction es using List.reverseRecOn with
  | nil => exact absurd hvalid (lt_irrefl 0)
  | append_singleton es e ih =>
      have hfed : Fed joint (run (feedbackStep m) s es) :=
        invariant_run (I := Fed joint) (fun t e ht => ht.step hm e) h es
      unfold validSince at hvalid ih
      rw [run_concat] at hvalid ⊢
      obtain ⟨time, event⟩ := e
      cases event with
      | sample x =>
          obtain ⟨_, hfound, hpos⟩ := hfed.sample x
          refine ⟨hfound, hpos ?_⟩
          intro hnone
          have hinvalid : x.valid = false := by
            unfold FeedbackSample.valid
            rw [hnone]
            rfl
          have hzero : countValid (run countValid 0 es) ⟨time, .sample x⟩ = 0 := by
            show (if x.valid = true then _ else 0) = 0
            rw [hinvalid]
            rfl
          rw [hzero] at hvalid
          exact absurd hvalid (lt_irrefl 0)
      | controlLoop =>
          obtain ⟨hfound, hpos⟩ := ih hvalid
          have hmeas := (run (feedbackStep m) s es).controlLoop_measurements m time
          show ¬((run (feedbackStep m) s es).controlLoop m time).node.jointIndex < 0 ∧
            ((run (feedbackStep m) s es).controlLoop m time).node.lastMeasuredPos.IsFinite
          rw [hmeas.jointIndex, hmeas.lastMeasuredPos]
          exact ⟨hfound, hpos⟩

end Runs

/-! ## The start -/

/-- Every launch value is a number. -/
def FiniteLaunch (l : Launch ExtRat) : Prop := ∀ name x, l.double name = some x → x.IsFinite

theorem finiteLaunch_empty : FiniteLaunch .empty := nofun

theorem FiniteLaunch.withDouble {l : Launch ExtRat} (h : FiniteLaunch l) (name : String) (q : ℚ) :
    FiniteLaunch (l.withDouble name (fin q)) := by
  intro other x hx
  simp only [Launch.withDouble, Function.update_apply] at hx
  split_ifs at hx
  · obtain rfl := Option.some.inj hx
    exact isFinite_fin q
  · exact h other x hx

theorem FiniteLaunch.getDouble {l : Launch ExtRat} (h : FiniteLaunch l) (name : String)
    (default : ℚ) : (l.getDouble name (fin default)).IsFinite := by
  unfold Launch.getDouble
  cases hx : l.double name with
  | some x => exact h name x hx
  | none => exact isFinite_fin default

theorem positiveOr_isFinite {default x : ExtRat} (hd : default.IsFinite) (hx : x.IsFinite) :
    (positiveOr default x).IsFinite := by
  unfold positiveOr
  split
  · exact hx
  · exact hd

theorem positiveOr_fin {x : ExtRat} {default : ℚ} (hd : 0 < default) (hx : x.IsFinite) :
    ∃ b, positiveOr (fin default) x = fin b ∧ 0 < b := by
  obtain ⟨q, rfl⟩ := isFinite_iff.mp hx
  unfold positiveOr
  by_cases h : (0 : ExtRat) < fin q
  · rw [if_pos h]
    exact ⟨q, rfl, (fin_lt 0 q).mp h⟩
  · rw [if_neg h]
    exact ⟨default, rfl, hd⟩

theorem startMembers_finite {l : Launch ExtRat} (h : FiniteLaunch l) :
    FiniteMembers (startMembers l) := by
  have hd := h.getDouble
  rw [startMembers_eq]
  have halpha : (unitOr (fin 0.90) (l.getDouble "filter_alpha" (fin 0.90))).IsFinite := by
    unfold unitOr
    split
    · exact hd _ _
    · exact isFinite_fin _
  exact
    { amplitudeRadS := hd _ 0
      omegaRadS := hd _ 0
      kp := hd _ _
      ki := hd _ _
      kd := hd _ 0
      kff := hd _ _
      kaff := hd _ _
      torqueLimitNm := positiveOr_fin (by norm_num) (hd _ _)
      integralLimit := positiveOr_isFinite isFinite_zero (hd _ 0)
      kpPos := hd _ _
      kiPos := hd _ _
      kdPos := hd _ _
      posIntegralLimit := positiveOr_isFinite (isFinite_fin _) (hd _ _)
      posOutputLimit := positiveOr_isFinite (isFinite_fin _) (hd _ _)
      filterAlpha := halpha
      positionSetpoint := hd _ 0 }

theorem start_fed {l : Launch ExtRat} (h : FiniteLaunch l) (t₀ t₁ : Time) :
    Fed (jointNameOf l) (start l t₀ t₁) := by
  have hrate : ∃ b, (startMembers l).rateHz = fin b ∧ 0 < b := by
    rw [startMembers_eq]
    exact positiveOr_fin (by norm_num) (h.getDouble _ _)
  have hdt : (start l t₀ t₁).dt.IsFinite ∧ 0 < (start l t₀ t₁).dt := by
    obtain ⟨b, hb, hpos⟩ := hrate
    have hdef : (start l t₀ t₁).dt = lit 1 / (startMembers l).rateHz := rfl
    rw [hdef, hb, lit_def, fin_div 1 b hpos.ne', zero_def, fin_lt]
    exact ⟨isFinite_fin _, by positivity⟩
  exact ⟨⟨startMembers_finite h, start_pidsConfigured l t₀ t₁, hdt,
    ⟨isFinite_zero, (fin_le 0 0).mpr le_rfl⟩⟩, Or.inl isFinite_zero, rfl⟩

theorem start_sound (l : Launch ExtRat) (t₀ t₁ : Time) : (start l t₀ t₁).Sound := by
  have hvel : (start l t₀ t₁).VelFinite := ⟨isFinite_zero, isFinite_zero⟩
  have hvelPid : (start l t₀ t₁).velPid.FiniteState := ⟨isFinite_zero, fun _ => isFinite_zero⟩
  have hposPid : (start l t₀ t₁).posPid.FiniteState := ⟨isFinite_zero, fun _ => isFinite_zero⟩
  have hprev : (start l t₀ t₁).posPid.prevMeasurement.IsFinite := isFinite_zero
  have hvCmd : (start l t₀ t₁).vCmd.IsFinite := isFinite_zero
  generalize start l t₀ t₁ = s at hvel hvelPid hposPid hprev hvCmd
  unfold Sound
  cases s.controlMode with
  | velocityOnly => exact ⟨hvel, hvelPid⟩
  | cascade => exact ⟨hvel, hvelPid, hposPid, hvCmd⟩
  | positionOnly => exact ⟨hposPid.integral, Or.inl hprev⟩

/-! ## Recovery -/

section Recovery

variable {joint : String}

/-- Every tick after two valid samples publishes a bounded number. -/
def Recovers (m : Libm ExtRat) (s : VelocityPidNode ExtRat)
    (es : List (Timed (FeedbackEvent joint))) : Prop :=
  ∀ pre now post, es = pre ++ ⟨now, .controlLoop⟩ :: post → 2 ≤ validSince pre →
    let s' := run (feedbackStep m) s pre
    s'.BoundedTorque (s'.controlLoop m now).torque

/-- Before every tick after two valid samples: no event so far did harm, and in
position mode the last tick did not read a NaN position. -/
def Unharmed (m : Libm ExtRat) (s : VelocityPidNode ExtRat)
    (es : List (Timed (FeedbackEvent joint))) : Prop :=
  ∀ pre now post, es = pre ++ ⟨now, .controlLoop⟩ :: post → 2 ≤ validSince pre →
    let s' := run (feedbackStep m) s pre
    Along (feedbackStep m) (Harmless m) s pre ∧
      (s'.controlMode = .positionOnly → s'.posPid.prevMeasurement ≠ nan)

end Recovery

/-- **When the node recovers.**  With finite parameters, every tick after two
valid samples publishes a bounded number exactly when the run is unharmed. -/
theorem recovers_iff {m : Libm ExtRat} (hm : LibmFinite m) {l : Launch ExtRat}
    (hl : FiniteLaunch l) (t₀ t₁ : Time) (es : List (Timed (FeedbackEvent (jointNameOf l)))) :
    Recovers m (start l t₀ t₁) es ↔ Unharmed m (start l t₀ t₁) es := by
  have hfed := start_fed hl t₀ t₁
  have hsound := start_sound l t₀ t₁
  have htick (pre : List (Timed (FeedbackEvent (jointNameOf l)))) (now : Time)
      (hvalid : 2 ≤ validSince pre) :
      let s' := run (feedbackStep m) (start l t₀ t₁) pre
      s'.BoundedTorque (s'.controlLoop m now).torque ↔
        Along (feedbackStep m) (Harmless m) (start l t₀ t₁) pre ∧
          (s'.controlMode = .positionOnly → s'.posPid.prevMeasurement ≠ nan) := by
    intro s'
    obtain ⟨hfed', hkept, hspoilt⟩ := run_status hm hfed hsound pre
    obtain ⟨hfound, hpos⟩ := run_valid hm hfed pre (by omega)
    have hnow := hfed'.settings.at_time now
    have ht := hfed'.settings.trajectoryAt hm now
    rw [controlLoop_found hfound]
    by_cases halong : Along (feedbackStep m) (Harmless m) (start l t₀ t₁) pre
    · have hiff := ((hkept halong).at_time now).torque_iff (m := m) hnow hpos ht
      exact hiff.trans ⟨fun hprev => ⟨halong, hprev⟩, fun hboth => hboth.2⟩
    · have hnan := (((hspoilt halong).at_time now).dispatch (m := m) hnow ht).1
      exact iff_of_false (fun hbounded => hbounded.ne_nan hnan) (fun hboth => halong hboth.1)
  constructor
  · intro h pre now post hes hvalid
    exact (htick pre now hvalid).mp (h pre now post hes hvalid)
  · intro h pre now post hes hvalid
    exact (htick pre now hvalid).mpr (h pre now post hes hvalid)

/-- A sample in a message of its own. -/
def sampleOf (joint : String) (position velocity : Option ℚ) : FeedbackSample joint where
  position := position
  velocity := velocity
  message := .single 0 joint (reading position) (reading velocity)
  carries := JointState.single_carries 0 joint _ _

/-- A launch that sets a gain and the torque limit. -/
def stiffLaunch : Launch ExtRat :=
  (Launch.empty.withDouble "kp_pos" (fin (5 / 2))).withDouble "torque_limit_nm" (fin (3 / 10))

theorem stiffLaunch_finite : FiniteLaunch stiffLaunch :=
  (finiteLaunch_empty.withDouble _ _).withDouble _ _

/-- A NaN sample before the first tick, and two valid samples with a tick each after it. -/
theorem recovers_iff_stiff :
    let m : Libm ExtRat := ⟨fun _ => fin 0, fun _ => fin 1, fun _ => 0⟩
    let node : VelocityPidNode ExtRat := start stiffLaunch 0 0
    let es : List (Timed (FeedbackEvent (jointNameOf stiffLaunch))) :=
      [⟨0, .sample (sampleOf _ none none)⟩,
        ⟨1000000, .sample (sampleOf _ (some (1 / 10)) (some 0))⟩, ⟨10000000, .controlLoop⟩,
        ⟨15000000, .sample (sampleOf _ (some (1 / 5)) (some 1))⟩, ⟨20000000, .controlLoop⟩]
    Recovers m node es ↔ Unharmed m node es :=
  recovers_iff (fun _ _ => ⟨isFinite_fin 0, isFinite_fin 1⟩) stiffLaunch_finite 0 0 _

/-- The default settings, one NaN sample and one tick: after two valid samples
the torque is still NaN. -/
theorem no_recovery :
    ¬Recovers ⟨fun _ => fin 0, fun _ => fin 1, fun _ => 0⟩ (start Launch.empty 0 0)
      ([⟨0, .sample (sampleOf _ none none)⟩, ⟨10000000, .controlLoop⟩,
        ⟨15000000, .sample (sampleOf _ (some (1 / 10)) (some 0))⟩,
        ⟨25000000, .sample (sampleOf _ (some (1 / 10)) (some 0))⟩, ⟨30000000, .controlLoop⟩] :
        List (Timed (FeedbackEvent (jointNameOf (Launch.empty : Launch ExtRat))))) := by
  intro h
  have hbounded := h
    [⟨0, .sample (sampleOf _ none none)⟩, ⟨10000000, .controlLoop⟩,
      ⟨15000000, .sample (sampleOf _ (some (1 / 10)) (some 0))⟩,
      ⟨25000000, .sample (sampleOf _ (some (1 / 10)) (some 0))⟩] 30000000 [] rfl (by decide)
  refine hbounded.ne_nan ?_
  decide +kernel

end MarineHil.Ports.VelocityPidNode
