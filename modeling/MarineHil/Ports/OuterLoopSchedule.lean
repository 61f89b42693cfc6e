import MarineHil.Verified.Divider
import MarineHil.Ports.DerivativeTimeBase
import MarineHil.Ports.ControlSymmetry

/-!
# The schedule of the outer loop

In cascade mode both controllers count their ticks and sum their steps of time, and run
the position PID when the count reaches `outer_loop_divider`, rounded and cast to `int`.
Both drive a rate divider, so both keep its schedule; the threshold it has is the
rounded divider exactly where that fits.

## Main results

* `drives_step`, `drives_call`: the two controllers drive a divider.
* `onSchedule_iff`: the period is the rounded one exactly below the last half of `int`.
* `outer_loop_schedule_iff`: over the runs of both controllers.
-/

namespace MarineHil.Ports

open MarineHil.Verified

/-- `max(1, ⌊divider + 1/2⌋)`: the ticks from one run of the outer loop to the next. -/
def nominalPeriod (divider : ℚ) : ℕ := Divider.period ⌊divider + 1 / 2⌋

/-- What the code compares its count with. -/
def dividerThreshold (m : Libm ℚ) (divider : ℚ) : ℤ := toInt32 (llround m divider)

theorem period_threshold {divider : ℚ} (h : 0 < divider) (hint : divider < 2 ^ 31 - 1 / 2)
    (m : Libm ℚ) : Divider.period (dividerThreshold m divider) = nominalPeriod divider := by
  rw [dividerThreshold, toInt32_llround h.le hint]
  rfl

/-- Past the range of `int` the code's period is too short, whatever the conversion
yields. -/
theorem period_threshold_lt {divider : ℚ} (hint : 2 ^ 31 - 1 / 2 ≤ divider) (m : Libm ℚ) :
    Divider.period (dividerThreshold m divider) < nominalPeriod divider := by
  have hround : 2 ^ 31 ≤ ⌊divider + 1 / 2⌋ := by
    rw [Int.le_floor]
    push_cast
    linarith
  have hcast : dividerThreshold m divider < 2 ^ 31 := toInt32_lt _
  unfold nominalPeriod Divider.period
  omega

/-- A program whose runs keep the schedule of the code's threshold, and have a tick
that acts on it, keeps the nominal one exactly below the last half of `int`. -/
theorem onSchedule_iff {σ ε δ : Type} {p : Divided σ ε ℚ δ} {s : σ} {steady : List ε → Prop}
    {m : Libm ℚ} {divider : ℚ} (hdivider : 0 < divider)
    (hschedule : ∀ es, steady es →
      p.OnSchedule (Divider.period (dividerThreshold m divider)) s es)
    (hacts : ∃ pre e dt, steady (pre ++ [e]) ∧ p.tickDt (run p.step s pre) e = some dt ∧
      (outputs p.step p.tickDt s pre).length + 1 =
        Divider.period (dividerThreshold m divider)) :
    (∀ es, steady es → p.OnSchedule (nominalPeriod divider) s es) ↔
      divider < 2 ^ 31 - 1 / 2 := by
  constructor
  · intro hnominal
    by_contra hint
    obtain ⟨pre, e, dt, hsteady, htick, hcount⟩ := hacts
    have hdvd := (hschedule _ hsteady).dvd (hnominal _ hsteady) rfl htick hcount
    have hle := Nat.le_of_dvd (Divider.period_pos _) hdvd
    exact absurd (period_threshold_lt (not_lt.mp hint) m) (not_lt.mpr hle)
  · intro hint es hsteady
    rw [← period_threshold hdivider hint m]
    exact hschedule es hsteady

namespace VelocityPidNode

/-- The ticks of the node that find the joint, and the `dt` of its position PID. -/
def outerLoop (m : Libm ℚ) : Divided (VelocityPidNode ℚ) (Timed (VelocityPidEvent ℚ)) ℚ ℚ where
  step := step m
  tickDt s e :=
    match e.event with
    | .controlLoop => if s.jointIndex < 0 then none else some (s.stepDt e.time)
    | _ => none
  handsOn s e :=
    match e.event with
    | .controlLoop => if s.callsPos m then some (s.posDt e.time) else none
    | _ => none
  divider s := ⟨s.outerLoopCounter, s.outerDtAccum⟩
  held s := s.vCmd

/-- The event is no accepted change of the mode or the divider. -/
def KeepsOuterLoop (s : VelocityPidNode ℚ) (e : Timed (VelocityPidEvent ℚ)) : Prop :=
  ∀ batch, e.event = .setParameters batch → s.restartsOuterLoop batch = false

/-- Cascade mode with a given divider. -/
structure CascadeAt (divider : ℚ) (s : VelocityPidNode ℚ) : Prop where
  mode : s.controlMode = .cascade
  divider : s.outerLoopDivider = divider

section Step

variable {s : VelocityPidNode ℚ} {divider : ℚ}

/-- A batch that does not name the divider keeps it. -/
theorem setParameters_outerLoopDivider {batch : List (Parameter ℚ)}
    (h : s.restartsOuterLoop batch = false) :
    (s.setParameters batch).outerLoopDivider = s.outerLoopDivider := by
  unfold restartsOuterLoop at h
  show TableMember.outerLoopDivider.get (s.setParameters batch).toVelocityPidMembers = _
  rw [setParameters_members]
  split_ifs with haccepts
  · rw [haccepts, Bool.true_and, Bool.or_eq_false_iff] at h
    have hnone : lastSome (Parameter.doubleNamed "outer_loop_divider") batch = none := by
      rw [lastSome_eq_none_iff]
      intro p hp
      exact if_neg (by simpa using List.any_eq_false.mp h.2 p hp)
    have hlatch := latch_run (fun u => TableMember.outerLoopDivider.get u)
      (fun u p => get_assignNamed .outerLoopDivider p u) s.toVelocityPidMembers batch
    exact hlatch.trans (congrArg (Option.getD · s.outerLoopDivider) hnone)
  · rfl

theorem CascadeAt.step (h : s.CascadeAt divider) (m : Libm ℚ) {e : Timed (VelocityPidEvent ℚ)}
    (he : s.KeepsOuterLoop e) : (s.step m e).CascadeAt divider := by
  obtain ⟨time, event⟩ := e
  cases event with
  | jointState msg =>
      have hset := s.jointStateCallback_settings msg
      exact ⟨hset.controlMode.trans h.mode,
        (congrArg VelocityPidMembers.outerLoopDivider hset.members).trans h.divider⟩
  | setParameters batch =>
      have hkeeps := he batch rfl
      exact ⟨((s.setParameters_outer batch).2.2 hkeeps).trans h.mode,
        (setParameters_outerLoopDivider hkeeps).trans h.divider⟩
  | controlLoop =>
      have hset := s.controlLoop_settings m time
      exact ⟨hset.controlMode.trans h.mode,
        (congrArg VelocityPidMembers.outerLoopDivider hset.members).trans h.divider⟩

/-- The velocity command of a tick on which the outer loop waits. -/
theorem controlLoop_vCmd_waits {m : Libm ℚ} (hfound : ¬s.jointIndex < 0)
    (hmode : s.controlMode = .cascade) (hwaits : s.outerLoopFires m = false) (now : Time) :
    (s.controlLoop m now).node.vCmd = s.vCmd := by
  rw [controlLoop_cascade hfound m now hmode,
    runOuterLoop_waits (s := { s with lastLoopTime := now }) hwaits]
  rfl

/-- A tick that finds the joint drives the divider. -/
theorem drives_controlLoop (h : s.CascadeAt divider) (m : Libm ℚ) (hfound : ¬s.jointIndex < 0)
    (now : Time) :
    (outerLoop m).Drives (dividerThreshold m divider) s ⟨now, .controlLoop⟩ := by
  have hfires : ((outerLoop m).divider s).fires (dividerThreshold m divider) =
      s.outerLoopFires m := by
    rw [← h.divider]
    rfl
  have hdivider : (outerLoop m).divider ((outerLoop m).step s ⟨now, .controlLoop⟩) =
      ⟨(s.controlLoop m now).node.outer.counter, (s.controlLoop m now).node.outer.accum⟩ := rfl
  refine Divided.drives_of_some (if_neg hfound) ?_ ?_ ?_
  · rw [hdivider, Divider.tick, hfires]
    cases hnow : s.outerLoopFires m with
    | true =>
        rw [controlLoop_outer_fires m now hfound h.mode hnow]
        rfl
    | false =>
        rw [controlLoop_outer_waits m now hfound h.mode hnow]
        rfl
  · have hcalls : s.callsPos m = s.outerLoopFires m := by
      simp [callsPos, hfound, h.mode]
    show (if s.callsPos m then some (s.posDt now) else none) = _
    rw [hfires, hcalls, posDt, if_pos h.mode]
    rfl
  · intro hwaits
    rw [hfires] at hwaits
    exact controlLoop_vCmd_waits hfound h.mode hwaits now

/-- **In cascade mode the node drives a divider.** -/
theorem drives_step (h : s.CascadeAt divider) (m : Libm ℚ) {e : Timed (VelocityPidEvent ℚ)}
    (he : s.KeepsOuterLoop e) : (outerLoop m).Drives (dividerThreshold m divider) s e := by
  obtain ⟨time, event⟩ := e
  cases event with
  | jointState msg =>
      have hloops := (s.jointStateCallback_frame msg).2.1
      refine Divided.drives_of_none rfl ?_
      show (⟨(s.jointStateCallback msg).outerLoopCounter,
        (s.jointStateCallback msg).outerDtAccum⟩ : Divider ℚ) = _
      rw [hloops.outerLoopCounter, hloops.outerDtAccum]
      rfl
  | setParameters batch =>
      obtain ⟨hcounter, haccum, _⟩ := s.setParameters_outer batch
      rw [he batch rfl, if_neg Bool.false_ne_true] at hcounter haccum
      refine Divided.drives_of_none rfl ?_
      show (⟨(s.setParameters batch).outerLoopCounter,
        (s.setParameters batch).outerDtAccum⟩ : Divider ℚ) = _
      rw [hcounter, haccum]
      rfl
  | controlLoop =>
      by_cases hlost : s.jointIndex < 0
      · refine Divided.drives_of_none (if_pos hlost) ?_
        show (outerLoop m).divider (s.controlLoop m time).node = _
        rw [controlLoop_lost hlost]
      · exact drives_controlLoop h m hlost time

end Step

section Run

variable {s : VelocityPidNode ℚ} (m : Libm ℚ)

/-- Cascade mode, just after the counter was reset. -/
structure OuterLoopReset (s : VelocityPidNode ℚ) : Prop where
  mode : s.controlMode = .cascade
  divider : 0 < s.outerLoopDivider
  counter : s.outerLoopCounter = 0
  accum : s.outerDtAccum = 0

/-- The runs without further changes of the mode or the divider. -/
def Undisturbed (s : VelocityPidNode ℚ) (es : List (Timed (VelocityPidEvent ℚ))) : Prop :=
  Along (step m) KeepsOuterLoop s es

theorem OuterLoopReset.onSchedule (h : s.OuterLoopReset)
    {es : List (Timed (VelocityPidEvent ℚ))} (hes : s.Undisturbed m es) :
    (outerLoop m).OnSchedule (Divider.period (dividerThreshold m s.outerLoopDivider)) s es := by
  refine Divided.onSchedule_of_drives ?_ ?_
  · show (⟨s.outerLoopCounter, s.outerDtAccum⟩ : Divider ℚ) = .zero
    rw [h.counter, h.accum]
    rfl
  · exact Along.imp (I := CascadeAt s.outerLoopDivider) (fun _ _ ht he => drives_step ht m he)
      (fun _ _ ht he => ht.step m he) ⟨h.mode, rfl⟩ hes

/-- The joint is found, and then the timer fires. -/
def ticking (s : VelocityPidNode ℚ) (n : ℕ) : List (Timed (VelocityPidEvent ℚ)) :=
  ⟨0, .jointState (.single 0 s.jointName 0 0)⟩ :: List.replicate n ⟨0, .controlLoop⟩

theorem undisturbed_ticking (s : VelocityPidNode ℚ) (n : ℕ) :
    s.Undisturbed m (s.ticking n) := by
  refine along_of_forall ?_
  intro e he t batch hbatch
  rw [ticking, List.mem_cons, List.mem_replicate] at he
  rcases he with rfl | ⟨_, rfl⟩
  · cases hbatch
  · cases hbatch

theorem ticking_succ (s : VelocityPidNode ℚ) (n : ℕ) :
    s.ticking n ++ [⟨0, .controlLoop⟩] = s.ticking (n + 1) := by
  unfold ticking
  rw [List.replicate_succ', List.cons_append]

/-- After any number of ticks there is one more. -/
theorem exists_tick (s : VelocityPidNode ℚ) (n : ℕ) :
    ∃ pre e dt, s.Undisturbed m (pre ++ [e]) ∧
      (outerLoop m).tickDt (run (step m) s pre) e = some dt ∧
      (outputs (step m) (outerLoop m).tickDt s pre).length = n := by
  have hfound : ¬(s.jointStateCallback (.single 0 s.jointName 0 0)).jointIndex < 0 := by
    rw [(s.jointStateCallback_frame _).2.2, locateJoint_neg_iff]
    simp [JointState.single]
  have hkeeps (t : VelocityPidNode ℚ) (ht : ¬t.jointIndex < 0) :
      ¬(t.step m ⟨0, .controlLoop⟩).jointIndex < 0 := by
    show ¬(t.controlLoop m 0).node.jointIndex < 0
    rwa [(t.controlLoop_measurements m 0).jointIndex]
  have hlast : ¬(run (step m) s (s.ticking n)).jointIndex < 0 := by
    show ¬(run (step m) (s.jointStateCallback (.single 0 s.jointName 0 0))
      (List.replicate n ⟨0, .controlLoop⟩)).jointIndex < 0
    refine invariant_run_of_mem (I := fun t : VelocityPidNode ℚ => ¬t.jointIndex < 0) ?_ hfound
    intro t e he
    rw [List.eq_of_mem_replicate he]
    exact hkeeps t
  refine ⟨s.ticking n, ⟨0, .controlLoop⟩, _, ?_, if_neg hlast, ?_⟩
  · rw [ticking_succ]
    exact undisturbed_ticking m s (n + 1)
  · refine length_outputs_replicate (I := fun t : VelocityPidNode ℚ => ¬t.jointIndex < 0) hkeeps
      ?_ hfound n
    intro t ht
    show (if t.jointIndex < 0 then none else some (t.stepDt 0)).isSome = true
    rw [if_neg ht]
    rfl

/-- **The schedule of the node.** -/
theorem OuterLoopReset.onSchedule_iff (h : s.OuterLoopReset) :
    (∀ es, s.Undisturbed m es → (outerLoop m).OnSchedule (nominalPeriod s.outerLoopDivider) s es) ↔
      s.outerLoopDivider < 2 ^ 31 - 1 / 2 := by
  refine Ports.onSchedule_iff (m := m) h.divider (fun _ hes => h.onSchedule m hes) ?_
  have hpos := Divider.period_pos (dividerThreshold m s.outerLoopDivider)
  obtain ⟨pre, e, dt, hes, htick, hcount⟩ :=
    exists_tick m s (Divider.period (dividerThreshold m s.outerLoopDivider) - 1)
  refine ⟨pre, e, dt, hes, htick, ?_⟩
  show (outputs (step m) (outerLoop m).tickDt s pre).length + 1 = _
  rw [hcount]
  omega

end Run

end VelocityPidNode

namespace ShadowPidController

section Tick

variable {c : ShadowPidController ℚ} (m : Libm ℚ)

/-- The counter and the accumulator of the outer loop. -/
def outerDivider (c : ShadowPidController ℚ) : Divider ℚ := ⟨c.outerLoopCounter, c.outerDtAccum⟩

/-- The outer loop fires on this tick. -/
def outerLoopFires (c : ShadowPidController ℚ) : Bool :=
  c.outerDivider.fires (dividerThreshold m c.outerLoopDivider)

/-- The `dt` a tick gives to the position PID, where it calls it. -/
def posDt (c : ShadowPidController ℚ) (dt : ℚ) : Option ℚ :=
  match c.controlMode with
  | .cascade => if c.outerLoopFires m then some (c.outerDtAccum + dt) else none
  | .positionOnly => some dt
  | .velocityOnly => none

theorem runOuterLoop_fires {m : Libm ℚ} (h : c.outerLoopFires m = true)
    (posRef velFf simPosition dt : ℚ) :
    c.runOuterLoop m posRef velFf simPosition dt =
      let r := c.posPid.compute posRef simPosition (c.outerDtAccum + dt)
      let vCmd := clamp (r.output + velFf) (-c.posOutputLimit) c.posOutputLimit
      ({ c with
          outerLoopCounter := 0
          posPid := { r.pid with saturated := decide (c.posOutputLimit ≤ fabs vCmd) }
          vCmd := vCmd
          outerDtAccum := 0 },
        r.clamps ++ [(-c.posOutputLimit, c.posOutputLimit)]) :=
  if_pos (of_decide_eq_true h)

theorem runOuterLoop_waits {m : Libm ℚ} (h : c.outerLoopFires m = false)
    (posRef velFf simPosition dt : ℚ) :
    c.runOuterLoop m posRef velFf simPosition dt =
      ({ c with
          outerLoopCounter := c.outerLoopCounter + 1
          outerDtAccum := c.outerDtAccum + dt }, []) :=
  if_neg (of_decide_eq_false h)

/-- **The one call of the position PID in a tick.** -/
theorem dispatch_posPid (simPosition : ℚ) (ref : TrajectoryRef ℚ) (dt : ℚ) :
    ∃ saturated, (c.dispatch m simPosition ref dt).shadow.posPid =
      (c.posDt m dt).elim c.posPid fun given =>
        { (c.posPid.compute ref.pos simPosition given).pid with saturated := saturated } := by
  unfold posDt
  cases hmode : c.controlMode with
  | cascade =>
      rw [dispatch_cascade m simPosition ref dt hmode]
      cases hfires : c.outerLoopFires m with
      | true =>
          rw [runOuterLoop_fires hfires]
          exact ⟨_, rfl⟩
      | false =>
          rw [runOuterLoop_waits hfires]
          exact ⟨false, rfl⟩
  | positionOnly =>
      rw [dispatch_positionOnly m simPosition ref dt hmode]
      exact ⟨_, rfl⟩
  | velocityOnly =>
      rw [dispatch_velocityOnly m simPosition ref dt hmode]
      exact ⟨false, rfl⟩

/-- Cascade mode with a given divider. -/
structure CascadeAt (divider : ℚ) (c : ShadowPidController ℚ) : Prop where
  mode : c.controlMode = .cascade
  divider : c.outerLoopDivider = divider

/-- A tick in cascade mode. -/
structure CascadeTick (c r : ShadowPidController ℚ) (dt : ℚ) : Prop where
  cascade : r.CascadeAt c.outerLoopDivider
  divider : r.outerDivider = c.outerDivider.tick (dividerThreshold m c.outerLoopDivider) dt
  vCmd : c.outerLoopFires m = false → r.vCmd = c.vCmd

theorem dispatch_tick (hmode : c.controlMode = .cascade) (simPosition : ℚ)
    (ref : TrajectoryRef ℚ) (dt : ℚ) :
    c.CascadeTick m (c.dispatch m simPosition ref dt).shadow dt := by
  rw [dispatch_cascade m simPosition ref dt hmode]
  cases hfires : c.outerLoopFires m with
  | true =>
      rw [runOuterLoop_fires hfires]
      refine ⟨⟨hmode, rfl⟩, (if_pos hfires).symm, fun hfalse => ?_⟩
      cases hfires.symm.trans hfalse
  | false =>
      rw [runOuterLoop_waits hfires]
      exact ⟨⟨hmode, rfl⟩, (if_neg (Bool.eq_false_iff.mp hfires)).symm, fun _ => rfl⟩

/-- What a tick does before it dispatches is not about the outer loop. -/
theorem filterVelocity_outer (simVelocity : ℚ) :
    let c' := c.applyGains.filterVelocity simVelocity
    c'.controlMode = c.controlMode ∧ c'.outerLoopDivider = c.outerLoopDivider ∧
      c'.outerDivider = c.outerDivider ∧ c'.vCmd = c.vCmd := by
  unfold filterVelocity
  dsimp only
  split <;> exact ⟨rfl, rfl, rfl, rfl⟩

/-- A tick of either overload in cascade mode. -/
theorem dispatch_prepared (hmode : c.controlMode = .cascade) (simPosition simVelocity : ℚ)
    (ref : TrajectoryRef ℚ) (dt : ℚ) :
    c.CascadeTick m
      ((c.applyGains.filterVelocity simVelocity).dispatch m simPosition ref dt).shadow dt := by
  obtain ⟨hm, hdivider, houter, hcmd⟩ := c.filterVelocity_outer simVelocity
  obtain ⟨hcascade, htick, hwaits⟩ := dispatch_tick m (hm.trans hmode) simPosition ref dt
  rw [hdivider] at hcascade htick
  rw [houter] at htick
  refine ⟨hcascade, htick, fun hfalse => (hwaits ?_).trans hcmd⟩
  unfold outerLoopFires at hfalse ⊢
  rw [houter, hdivider]
  exact hfalse

end Tick

/-- The step of time of a call that is a tick. -/
def Call.dt : Call → Option ℚ
  | .compute _ _ _ dt => some dt
  | .computeExternal _ _ _ _ dt => some dt
  | _ => none

/-- The ticks of the shadow controller, and the `dt` of its position PID. -/
def outerLoop (m : Libm ℚ) : Divided (ShadowPidController ℚ) Call ℚ ℚ where
  step := call m
  tickDt _ k := k.dt
  handsOn c k := k.dt.bind (c.posDt m)
  divider := outerDivider
  held c := c.vCmd

/-- The call keeps the mode and the divider and does not reset. -/
def KeepsOuterLoop (c : ShadowPidController ℚ) : Call → Prop
  | .configure settings => settings.fields.controlMode = c.controlMode ∧
      settings.fields.outerLoopDivider = c.outerLoopDivider
  | .reset => False
  | _ => True

section Run

variable {c : ShadowPidController ℚ} {divider : ℚ} (m : Libm ℚ)

/-- What a tick does keeps the mode and drives the divider. -/
theorem CascadeTick.drives (h : c.CascadeAt divider) {k : Call} {dt : ℚ} (hk : k.dt = some dt)
    (htick : c.CascadeTick m (c.call m k) dt) :
    (c.call m k).CascadeAt divider ∧
      (outerLoop m).Drives (dividerThreshold m divider) c k := by
  obtain ⟨hcascade, hdivider, hcmd⟩ := htick
  have hposDt : c.posDt m dt =
      if c.outerLoopFires m then some (c.outerDtAccum + dt) else none := by
    rw [posDt, h.mode]
  rw [h.divider] at hcascade hdivider
  refine ⟨hcascade, Divided.drives_of_some hk hdivider ?_ ?_⟩
  · show k.dt.bind (c.posDt m) = _
    rw [hk, Option.bind_some, hposDt, outerLoopFires, h.divider]
    rfl
  · intro hwaits
    refine hcmd ?_
    rw [outerLoopFires, h.divider]
    exact hwaits

/-- **In cascade mode the shadow controller drives a divider.** -/
theorem drives_call (h : c.CascadeAt divider) {k : Call} (hk : c.KeepsOuterLoop k) :
    (c.call m k).CascadeAt divider ∧
      (outerLoop m).Drives (dividerThreshold m divider) c k := by
  cases k with
  | configure settings =>
      exact ⟨⟨hk.1.trans h.mode, hk.2.trans h.divider⟩, Divided.drives_of_none rfl rfl⟩
  | reset => exact hk.elim
  | compute simPosition simVelocity t dt =>
      exact CascadeTick.drives m h rfl (dispatch_prepared m h.mode simPosition simVelocity _ dt)
  | computeExternal simPosition simVelocity posRef velRef dt =>
      exact CascadeTick.drives m h rfl (dispatch_prepared m h.mode simPosition simVelocity _ dt)

/-- Cascade mode, just after a reset. -/
structure OuterLoopReset (c : ShadowPidController ℚ) : Prop where
  mode : c.controlMode = .cascade
  divider : 0 < c.outerLoopDivider
  counter : c.outerLoopCounter = 0
  accum : c.outerDtAccum = 0

/-- The runs without further changes of the mode or the divider. -/
def Undisturbed (c : ShadowPidController ℚ) (ks : List Call) : Prop :=
  Along (call m) KeepsOuterLoop c ks

theorem OuterLoopReset.onSchedule (h : c.OuterLoopReset) {ks : List Call}
    (hks : c.Undisturbed m ks) :
    (outerLoop m).OnSchedule (Divider.period (dividerThreshold m c.outerLoopDivider)) c ks := by
  refine Divided.onSchedule_of_drives ?_ ?_
  · show (⟨c.outerLoopCounter, c.outerDtAccum⟩ : Divider ℚ) = .zero
    rw [h.counter, h.accum]
    rfl
  · exact Along.imp (I := CascadeAt c.outerLoopDivider)
      (fun _ _ ht hk => (drives_call m ht hk).2) (fun _ _ ht hk => (drives_call m ht hk).1)
      ⟨h.mode, rfl⟩ hks

/-- **The schedule of the shadow controller.** -/
theorem OuterLoopReset.onSchedule_iff (h : c.OuterLoopReset) :
    (∀ ks, c.Undisturbed m ks →
        (outerLoop m).OnSchedule (nominalPeriod c.outerLoopDivider) c ks) ↔
      c.outerLoopDivider < 2 ^ 31 - 1 / 2 := by
  refine Ports.onSchedule_iff (m := m) h.divider (fun _ hks => h.onSchedule m hks) ?_
  have hpos := Divider.period_pos (dividerThreshold m c.outerLoopDivider)
  refine ⟨List.replicate (Divider.period (dividerThreshold m c.outerLoopDivider) - 1)
    (.computeExternal 0 0 0 0 1), .computeExternal 0 0 0 0 1, 1, ?_, rfl, ?_⟩
  · refine along_of_forall ?_
    intro k hk t
    rw [List.mem_append, List.mem_singleton, List.mem_replicate] at hk
    rcases hk with ⟨_, rfl⟩ | rfl
    · trivial
    · trivial
  · rw [length_outputs_replicate (I := fun _ => True) (fun _ _ => trivial) (fun _ _ => rfl)
      trivial]
    omega

end Run

end ShadowPidController

/-- **Both controllers keep the schedule of the rounded divider, in every run, exactly
below the last half of `int`.** -/
theorem outer_loop_schedule_iff (m : Libm ℚ) (s : VelocityPidNode ℚ) (c : ShadowPidController ℚ)
    (hs : s.OuterLoopReset) (hc : c.OuterLoopReset) :
    ((∀ es, s.Undisturbed m es →
        (VelocityPidNode.outerLoop m).OnSchedule (nominalPeriod s.outerLoopDivider) s es) ↔
      s.outerLoopDivider < 2 ^ 31 - 1 / 2) ∧
    ((∀ ks, c.Undisturbed m ks →
        (ShadowPidController.outerLoop m).OnSchedule (nominalPeriod c.outerLoopDivider) c ks) ↔
      c.outerLoopDivider < 2 ^ 31 - 1 / 2) :=
  ⟨hs.onSchedule_iff m, hc.onSchedule_iff m⟩

/-- A node in cascade mode with a divider. -/
def cascadeNode (divider : ℚ) : VelocityPidNode ℚ :=
  .start ((Launch.empty.withString "control_mode" "cascade").withDouble "outer_loop_divider"
    divider) 0 0

/-- A shadow controller in cascade mode with a divider. -/
def cascadeShadow (divider : ℚ) : ShadowPidController ℚ :=
  { (.fresh : ShadowPidController ℚ) with controlMode := .cascade, outerLoopDivider := divider }

/-- A divider of `2 ^ 31` becomes a negative `int`: the outer loop runs on the first
tick. -/
theorem schedule_wraps :
    (cascadeNode (2 ^ 31)).outerLoopDivider = 2 ^ 31 ∧
      (cascadeNode (2 ^ 31)).Undisturbed ⟨fun _ => 0, fun _ => 1, fun _ => 0⟩
        ((cascadeNode (2 ^ 31)).ticking 1) ∧
      ¬(VelocityPidNode.outerLoop ⟨fun _ => 0, fun _ => 1, fun _ => 0⟩).OnSchedule
        (nominalPeriod (2 ^ 31)) (cascadeNode (2 ^ 31)) ((cascadeNode (2 ^ 31)).ticking 1) ∧
      ¬(ShadowPidController.outerLoop ⟨fun _ => 0, fun _ => 1, fun _ => 0⟩).OnSchedule
        (nominalPeriod (2 ^ 31)) (cascadeShadow (2 ^ 31)) [.computeExternal 0 0 0 0 1] := by
  refine ⟨by decide +kernel, VelocityPidNode.undisturbed_ticking _ _ 1, fun h => ?_, fun h => ?_⟩
  · have hacts := (h ((cascadeNode (2 ^ 31)).ticking 0) ⟨0, .controlLoop⟩ [] (1 / 100) rfl
      (by decide +kernel)).1
    exact absurd hacts (by decide +kernel)
  · have hacts := (h [] (.computeExternal 0 0 0 0 1) [] 1 rfl rfl).1
    exact absurd hacts (by decide +kernel)

theorem halves_schedule_iff :
    ((∀ es, (cascadeNode (5 / 2)).Undisturbed ⟨fun _ => 0, fun _ => 1, fun _ => 0⟩ es →
        (VelocityPidNode.outerLoop ⟨fun _ => 0, fun _ => 1, fun _ => 0⟩).OnSchedule
          (nominalPeriod (cascadeNode (5 / 2)).outerLoopDivider) (cascadeNode (5 / 2)) es) ↔
      (cascadeNode (5 / 2)).outerLoopDivider < 2 ^ 31 - 1 / 2) ∧
    nominalPeriod (cascadeNode (5 / 2)).outerLoopDivider = 3 := by
  have hnode : (cascadeNode (5 / 2)).OuterLoopReset :=
    ⟨by decide +kernel, by decide +kernel, by decide +kernel, by decide +kernel⟩
  have hshadow : (cascadeShadow (5 / 2)).OuterLoopReset :=
    ⟨rfl, by decide +kernel, rfl, rfl⟩
  exact ⟨(outer_loop_schedule_iff _ _ _ hnode hshadow).1, by decide +kernel⟩

end MarineHil.Ports
