import MarineHil.Ports.VelocityPidDemand

/-!
# The time base of the derivative

`compute` divides the change of a measurement by the `dt` it is given, which is
meant to be the time since its last call.  The node makes `dt` from two clocks that
know nothing of the calls: `last_loop_time_`, which every tick of every mode
advances, and the accumulator of the outer loop, which a change of the mode or of
the divider clears.

## Main results

* `run_velMemory`, `run_posMemory`: what each controller compares with is the
  measurement of its previous call.
* `velGap_law`, `posGap_law`: how far each `dt` falls short, step by step.
* `time_base_iff`: every call has the true time base exactly where nothing came
  between it and the call before.
* `derivative_misled`: two changes of the mode.
-/

namespace MarineHil.Ports

open MarineHil.Verified

/-- The measurement the derivative compares with, once there is one. -/
def PidController.memory {α : Type} (c : PidController α) : Option α :=
  if c.firstRun then none else some c.prevMeasurement

/-- What a controller holds from one call to the next. -/
structure PidController.Held (α : Type) where
  integral : α
  prevMeasurement : α
  saturated : Bool
  firstRun : Bool

def PidController.held {α : Type} (c : PidController α) : PidController.Held α :=
  ⟨c.integral, c.prevMeasurement, c.saturated, c.firstRun⟩

def PidController.Held.memory {α : Type} (h : PidController.Held α) : Option α :=
  if h.firstRun then none else some h.prevMeasurement

namespace VelocityPidNode

section Calls

variable {α : Type} [Double α]

/-! ## The calls -/

/-- A tick at this state calls the velocity PID. -/
def callsVel (s : VelocityPidNode α) : Bool :=
  !decide (s.jointIndex < 0) && s.controlMode != .positionOnly

/-- A tick at this state calls the position PID. -/
def callsPos (m : Libm α) (s : VelocityPidNode α) : Bool :=
  !decide (s.jointIndex < 0) &&
    (s.controlMode == .positionOnly || (s.controlMode == .cascade && s.outerLoopFires m))

/-- The `dt` such a tick gives to the position PID. -/
def posDt (s : VelocityPidNode α) (now : Time) : α :=
  if s.controlMode = .cascade then s.outerDtAccum + s.stepDt now else s.stepDt now

/-- The batch is accepted and resets the controller with the given flag. -/
def resetsPid (flag : ℕ) (s : VelocityPidNode α) (batch : List (Parameter α)) : Bool :=
  s.acceptsBatch batch && batch.any (gainsChanged flag)

/-- The batch is accepted and restarts the outer loop. -/
def restartsOuterLoop (s : VelocityPidNode α) (batch : List (Parameter α)) : Bool :=
  s.acceptsBatch batch &&
    (batch.any (fun p => p.name = "control_mode") ||
      batch.any (fun p => p.name = "outer_loop_divider"))

/-- A call of the velocity PID, with its time and measurement, or a reset. -/
def velCall (s : VelocityPidNode α) (e : Timed (VelocityPidEvent α)) :
    Option (Option (Time × α)) :=
  match e.event with
  | .controlLoop => if s.callsVel then some (some (e.time, s.lastMeasuredVel)) else none
  | .setParameters batch => if s.resetsPid kResetVel batch then some none else none
  | .jointState _ => none

def posCall (m : Libm α) (s : VelocityPidNode α) (e : Timed (VelocityPidEvent α)) :
    Option (Option (Time × α)) :=
  match e.event with
  | .controlLoop => if s.callsPos m then some (some (e.time, s.lastMeasuredPos)) else none
  | .setParameters batch => if s.resetsPid kResetPos batch then some none else none
  | .jointState _ => none

/-- A tick in `position_only` mode advances the clock without the velocity PID. -/
def velInterrupts (s : VelocityPidNode α) (e : Timed (VelocityPidEvent α)) : Bool :=
  match e.event with
  | .controlLoop => !decide (s.jointIndex < 0) && s.controlMode == .positionOnly
  | _ => false

/-- A tick in `velocity_only` mode advances the clock without the accumulator, and a
restart between two firings clears the accumulator. -/
def posInterrupts (s : VelocityPidNode α) (e : Timed (VelocityPidEvent α)) : Bool :=
  match e.event with
  | .controlLoop => !decide (s.jointIndex < 0) && s.controlMode == .velocityOnly
  | .setParameters batch => s.restartsOuterLoop batch && decide (0 < s.outerLoopCounter)
  | .jointState _ => false

/-! ## What a batch does to the loops -/

theorem run_applyParameter_outer (s : VelocityPidNode α) (batch : List (Parameter α)) :
    (run applyParameter s batch).outerLoopCounter =
        (if batch.any (fun p => p.name = "control_mode") then 0 else s.outerLoopCounter) ∧
      (run applyParameter s batch).outerDtAccum =
        (if batch.any (fun p => p.name = "control_mode") then 0 else s.outerDtAccum) ∧
      (batch.any (fun p => p.name = "control_mode") = false →
        (run applyParameter s batch).controlMode = s.controlMode) := by
  induction batch using List.reverseRecOn with
  | nil => exact ⟨rfl, rfl, fun _ => rfl⟩
  | append_singleton batch p ih =>
      obtain ⟨hcounter, haccum, hmode⟩ := ih
      rw [run_concat, applyParameter_eq, List.any_append, List.any_cons, List.any_nil,
        Bool.or_false]
      dsimp only
      by_cases hname : p.name = "control_mode"
      · rw [if_pos hname, if_pos hname, decide_eq_true hname, Bool.or_true]
        refine ⟨rfl, rfl, fun hfalse => by cases hfalse⟩
      · rw [if_neg hname, if_neg hname, if_neg hname, decide_eq_false hname, Bool.or_false]
        exact ⟨hcounter, haccum, hmode⟩

/-- What a batch does to the outer loop. -/
theorem setParameters_outer (s : VelocityPidNode α) (batch : List (Parameter α)) :
    (s.setParameters batch).outerLoopCounter =
        (if s.restartsOuterLoop batch then 0 else s.outerLoopCounter) ∧
      (s.setParameters batch).outerDtAccum =
        (if s.restartsOuterLoop batch then 0 else s.outerDtAccum) ∧
      (s.restartsOuterLoop batch = false →
        (s.setParameters batch).controlMode = s.controlMode) := by
  unfold setParameters restartsOuterLoop
  cases s.acceptsBatch batch with
  | false => exact ⟨rfl, rfl, fun _ => rfl⟩
  | true =>
      obtain ⟨hcounter, haccum, hmode⟩ :=
        run_applyParameter_outer { s with parameters := s.parameters.setAll batch } batch
      unfold onApplyParameters
      dsimp only
      cases batch.any (fun p => p.name = "outer_loop_divider") with
      | true =>
          rw [Bool.or_true]
          exact ⟨rfl, rfl, fun hfalse => by cases hfalse⟩
      | false =>
          rw [Bool.or_false, Bool.true_and, if_pos rfl, if_neg Bool.false_ne_true]
          refine ⟨?_, ?_, ?_⟩
          · refine Eq.trans ?_ hcounter
            split_ifs <;> rfl
          · refine Eq.trans ?_ haccum
            split_ifs <;> rfl
          · intro hnone
            refine Eq.trans ?_ (hmode hnone)
            split_ifs <;> rfl

/-- What a batch does to what the two controllers hold. -/
theorem setParameters_held (s : VelocityPidNode α) (batch : List (Parameter α)) :
    (s.setParameters batch).velPid.held =
        (if s.resetsPid kResetVel batch then s.velPid.reset.held else s.velPid.held) ∧
      (s.setParameters batch).posPid.held =
        (if s.resetsPid kResetPos batch then s.posPid.reset.held else s.posPid.held) := by
  unfold setParameters resetsPid
  cases s.acceptsBatch batch with
  | false => exact ⟨rfl, rfl⟩
  | true =>
      have hdevices := run_applyParameter_devices
        { s with parameters := s.parameters.setAll batch } batch
      have hvel := congrArg PidController.held hdevices.velPid
      have hpos := congrArg PidController.held hdevices.posPid
      rw [Bool.true_and, Bool.true_and]
      unfold onApplyParameters
      dsimp only
      constructor
      · cases batch.any (gainsChanged kResetVel) with
        | true => split_ifs <;> rfl
        | false =>
            rw [if_pos rfl, if_neg Bool.false_ne_true, if_neg Bool.false_ne_true]
            refine Eq.trans ?_ hvel
            split_ifs <;> rfl
      · cases batch.any (gainsChanged kResetPos) with
        | true => split_ifs <;> rfl
        | false =>
            rw [if_pos rfl, if_neg Bool.false_ne_true, if_neg Bool.false_ne_true]
            refine Eq.trans ?_ hpos
            split_ifs <;> rfl

/-- What a batch does to the memory of the two controllers. -/
theorem setParameters_memory (s : VelocityPidNode α) (batch : List (Parameter α)) :
    (s.setParameters batch).velPid.memory =
        (if s.resetsPid kResetVel batch then none else s.velPid.memory) ∧
      (s.setParameters batch).posPid.memory =
        (if s.resetsPid kResetPos batch then none else s.posPid.memory) := by
  obtain ⟨hvel, hpos⟩ := s.setParameters_held batch
  refine ⟨(congrArg PidController.Held.memory hvel).trans ?_,
    (congrArg PidController.Held.memory hpos).trans ?_⟩
  · split_ifs <;> rfl
  · split_ifs <;> rfl

/-! ## What a tick does to the loops -/

section Tick

variable {s : VelocityPidNode α} (m : Libm α) (now : Time)

/-- The one call of the velocity PID in a tick, with the `dt` of the tick. -/
theorem controlLoop_velPid :
    ∃ setpoint saturated, (s.controlLoop m now).node.velPid =
      if s.callsVel then
        { (s.velPid.compute setpoint s.lastMeasuredVel (s.stepDt now)).pid with
          saturated := saturated }
      else s.velPid := by
  unfold callsVel
  by_cases hlost : s.jointIndex < 0
  · rw [controlLoop_lost hlost, decide_eq_true hlost]
    exact ⟨0, false, rfl⟩
  · rw [decide_eq_false hlost, Bool.not_false, Bool.true_and]
    by_cases hmode : s.controlMode = .positionOnly
    · rw [controlLoop_positionOnly hlost m now hmode, hmode]
      exact ⟨0, false, rfl⟩
    · rw [controlLoop_found hlost]
      obtain ⟨setpoint, saturated, hpid⟩ := dispatch_velPid_call
        (s := { s with lastLoopTime := now }) hmode m (s.trajectoryAt m now) (s.stepDt now)
      exact ⟨setpoint, saturated, hpid.trans (if_pos (bne_iff_ne.mpr hmode)).symm⟩

/-- The one call of the position PID in a tick, with the accumulated `dt` in cascade
mode. -/
theorem controlLoop_posPid :
    ∃ setpoint saturated, (s.controlLoop m now).node.posPid =
      if s.callsPos m then
        { (s.posPid.compute setpoint s.lastMeasuredPos (s.posDt now)).pid with
          saturated := saturated }
      else s.posPid := by
  by_cases hlost : s.jointIndex < 0
  · have hcalls : s.callsPos m = false := by simp [callsPos, hlost]
    rw [controlLoop_lost hlost, hcalls]
    exact ⟨0, false, rfl⟩
  · by_cases hcascade : s.controlMode = .cascade
    · have hdt : s.posDt now = s.outerDtAccum + s.stepDt now := if_pos hcascade
      cases hfires : s.outerLoopFires m with
      | true =>
          have hcalls : s.callsPos m = true := by simp [callsPos, hlost, hcascade, hfires]
          have hpid := (dispatch_posPid_fires (s := { s with lastLoopTime := now }) hcascade
            hfires (s.trajectoryAt m now) (s.stepDt now)).1
          rw [controlLoop_found hlost, hcalls, hdt]
          exact ⟨_, _, hpid⟩
      | false =>
          have hcalls : s.callsPos m = false := by simp [callsPos, hcascade, hfires]
          rw [hcalls, controlLoop_cascade hlost m now hcascade,
            runOuterLoop_waits (s := { s with lastLoopTime := now }) hfires]
          exact ⟨0, false, rfl⟩
    · have hdt : s.posDt now = s.stepDt now := if_neg hcascade
      by_cases hposition : s.controlMode = .positionOnly
      · have hcalls : s.callsPos m = true := by simp [callsPos, hlost, hposition]
        obtain ⟨saturated, hpid⟩ := dispatch_posPid_call
          (s := { s with lastLoopTime := now }) hposition m (s.trajectoryAt m now) (s.stepDt now)
        rw [controlLoop_found hlost, hcalls, hdt]
        exact ⟨_, saturated, hpid⟩
      · have hvelocity : s.controlMode = .velocityOnly := by
          cases hmode : s.controlMode with
          | cascade => exact absurd hmode hcascade
          | positionOnly => exact absurd hmode hposition
          | velocityOnly => rfl
        have hcalls : s.callsPos m = false := by simp [callsPos, hcascade, hposition]
        rw [hcalls, controlLoop_velocityOnly hlost m now hvelocity]
        exact ⟨0, false, rfl⟩

/-- The velocity PID remembers the measurement of the tick that called it. -/
theorem controlLoop_velMemory :
    (s.controlLoop m now).node.velPid.memory =
      if s.callsVel then some s.lastMeasuredVel else s.velPid.memory := by
  obtain ⟨setpoint, saturated, hpid⟩ := controlLoop_velPid (s := s) m now
  rw [hpid]
  cases s.callsVel <;> rfl

theorem controlLoop_posMemory :
    (s.controlLoop m now).node.posPid.memory =
      if s.callsPos m then some s.lastMeasuredPos else s.posPid.memory := by
  obtain ⟨setpoint, saturated, hpid⟩ := controlLoop_posPid (s := s) m now
  rw [hpid]
  cases s.callsPos m <;> rfl

/-- The two counters of the outer loop. -/
structure OuterState (α : Type) where
  counter : ℤ
  accum : α

def outer (s : VelocityPidNode α) : OuterState α := ⟨s.outerLoopCounter, s.outerDtAccum⟩

section Found

variable (hfound : ¬s.jointIndex < 0)

include hfound

theorem controlLoop_outer_positionOnly (hmode : s.controlMode = .positionOnly) :
    (s.controlLoop m now).node.outer = s.outer := by
  rw [controlLoop_positionOnly hfound m now hmode]
  rfl

theorem controlLoop_outer_velocityOnly (hmode : s.controlMode = .velocityOnly) :
    (s.controlLoop m now).node.outer = s.outer := by
  rw [controlLoop_velocityOnly hfound m now hmode]
  rfl

theorem controlLoop_outer_fires (hmode : s.controlMode = .cascade)
    (hfires : s.outerLoopFires m = true) :
    (s.controlLoop m now).node.outer = ⟨0, 0⟩ := by
  rw [controlLoop_cascade hfound m now hmode,
    runOuterLoop_fires (s := { s with lastLoopTime := now }) hfires]
  rfl

theorem controlLoop_outer_waits (hmode : s.controlMode = .cascade)
    (hfires : s.outerLoopFires m = false) :
    (s.controlLoop m now).node.outer =
      ⟨s.outerLoopCounter + 1, s.outerDtAccum + s.stepDt now⟩ := by
  rw [controlLoop_cascade hfound m now hmode,
    runOuterLoop_waits (s := { s with lastLoopTime := now }) hfires]
  rfl

end Found

end Tick

/-! ## The memory over a run -/

section Memory

variable (m : Libm α) (l : Launch α) (t₀ t₁ : Time) (es : List (Timed (VelocityPidEvent α)))

theorem step_velMemory (s : VelocityPidNode α) (e : Timed (VelocityPidEvent α)) :
    (s.step m e).velPid.memory =
      ((s.velCall e).map (Option.map Prod.snd)).getD s.velPid.memory := by
  obtain ⟨time, event⟩ := e
  cases event with
  | jointState msg =>
      exact congrArg PidController.memory (s.jointStateCallback_frame msg).2.1.velPid
  | setParameters batch =>
      refine (s.setParameters_memory batch).1.trans ?_
      unfold velCall
      dsimp only
      split <;> rfl
  | controlLoop =>
      refine (s.controlLoop_velMemory m time).trans ?_
      unfold velCall
      dsimp only
      split <;> rfl

theorem step_posMemory (s : VelocityPidNode α) (e : Timed (VelocityPidEvent α)) :
    (s.step m e).posPid.memory =
      ((s.posCall m e).map (Option.map Prod.snd)).getD s.posPid.memory := by
  obtain ⟨time, event⟩ := e
  cases event with
  | jointState msg =>
      exact congrArg PidController.memory (s.jointStateCallback_frame msg).2.1.posPid
  | setParameters batch =>
      refine (s.setParameters_memory batch).2.trans ?_
      unfold posCall
      dsimp only
      split <;> rfl
  | controlLoop =>
      refine (s.controlLoop_posMemory m time).trans ?_
      unfold posCall
      dsimp only
      split <;> rfl

/-- **The velocity PID remembers the measurement of its previous call**, and none
before the first one since its construction or reset. -/
theorem run_velMemory :
    (run (step m) (start l t₀ t₁) es).velPid.memory =
      (previousCall (step m) velCall (start l t₀ t₁) es).map Prod.snd := by
  have hrun := output_run (fun s : VelocityPidNode α => s.velPid.memory)
    (I := fun _ => True) (fun _ _ _ => trivial) (fun s e _ => step_velMemory m s e)
    (s := start l t₀ t₁) trivial es
  rw [hrun, lastOutput_map, previousCall]
  cases lastOutput (step m) velCall (start l t₀ t₁) es <;> rfl

/-- **The position PID remembers the measurement of its previous call.** -/
theorem run_posMemory :
    (run (step m) (start l t₀ t₁) es).posPid.memory =
      (previousCall (step m) (posCall m) (start l t₀ t₁) es).map Prod.snd := by
  have hrun := output_run (fun s : VelocityPidNode α => s.posPid.memory)
    (I := fun _ => True) (fun _ _ _ => trivial) (fun s e _ => step_posMemory m s e)
    (s := start l t₀ t₁) trivial es
  rw [hrun, lastOutput_map, previousCall]
  cases lastOutput (step m) (posCall m) (start l t₀ t₁) es <;> rfl

end Memory

end Calls

/-! ## The clock -/

/-- The reading of the clock in a tick. -/
def tickTime {α : Type} (e : Timed (VelocityPidEvent α)) : Option Time :=
  match e.event with
  | .controlLoop => some e.time
  | _ => none

/-- The readings of the clock increase, from the constructor's on. -/
def ClockIncreases {α : Type} (t₀ : Time) (es : List (Timed (VelocityPidEvent α))) : Prop :=
  (t₀ :: es.filterMap tickTime).Pairwise (· < ·)

instance {α : Type} (t₀ : Time) (es : List (Timed (VelocityPidEvent α))) :
    Decidable (ClockIncreases t₀ es) :=
  inferInstanceAs (Decidable (List.Pairwise _ _))

/-- A tick reads the clock after the tick before. -/
def ReadsLater (s : VelocityPidNode ℚ) (e : Timed (VelocityPidEvent ℚ)) : Prop :=
  e.event = .controlLoop → s.lastLoopTime < e.time

section Clock

variable (m : Libm ℚ) (l : Launch ℚ) (t₀ t₁ : Time)

theorem run_lastLoopTime_mem (es : List (Timed (VelocityPidEvent ℚ))) :
    (run (step m) (start l t₀ t₁) es).lastLoopTime ∈ t₀ :: es.filterMap tickTime := by
  induction es using List.reverseRecOn with
  | nil => exact List.mem_cons_self
  | append_singleton es e ih =>
      rw [run_concat, List.filterMap_append, ← List.cons_append]
      obtain ⟨time, event⟩ := e
      cases event with
      | jointState msg =>
          refine List.mem_append_left _ ?_
          show (jointStateCallback _ msg).lastLoopTime ∈ _
          rw [(jointStateCallback_frame _ msg).2.1.lastLoopTime]
          exact ih
      | setParameters batch =>
          refine List.mem_append_left _ ?_
          show (setParameters _ batch).lastLoopTime ∈ _
          rw [(setParameters_clock _ batch).lastLoopTime]
          exact ih
      | controlLoop =>
          show (controlLoop _ m time).node.lastLoopTime ∈ _
          by_cases hlost : (run (step m) (start l t₀ t₁) es).jointIndex < 0
          · rw [controlLoop_lost hlost]
            exact List.mem_append_left _ ih
          · rw [controlLoop_lastLoopTime hlost]
            exact List.mem_append_right _ List.mem_cons_self

theorem ClockIncreases.along {es : List (Timed (VelocityPidEvent ℚ))}
    (h : ClockIncreases t₀ es) : Along (step m) ReadsLater (start l t₀ t₁) es := by
  intro pre e post hes htick
  have htime : tickTime e = some e.time := by
    unfold tickTime
    rw [htick]
  unfold ClockIncreases at h
  rw [hes, List.filterMap_append, ← List.cons_append, List.pairwise_append] at h
  refine h.2.2 _ (run_lastLoopTime_mem m l t₀ t₁ pre) _ ?_
  rw [List.filterMap_cons_some htime]
  exact List.mem_cons_self

theorem ClockIncreases.before {t₀ : Time} {pre post : List (Timed (VelocityPidEvent ℚ))}
    {e : Timed (VelocityPidEvent ℚ)} (h : ClockIncreases t₀ (pre ++ e :: post)) :
    ClockIncreases t₀ (pre ++ [e]) := by
  rw [List.append_cons] at h
  unfold ClockIncreases at h ⊢
  rw [List.filterMap_append, ← List.cons_append, List.pairwise_append] at h
  exact h.1

end Clock

/-! ## The outer loop between two firings -/

/-- The accumulator holds time exactly between two firings, and there is nothing
between in a mode without the outer loop. -/
structure OuterInv (s : VelocityPidNode ℚ) : Prop where
  dt : 0 < s.dt
  counter : 0 ≤ s.outerLoopCounter
  mode : s.controlMode ≠ .cascade → s.outerLoopCounter = 0
  empty : s.outerLoopCounter = 0 → s.outerDtAccum = 0
  filled : 0 < s.outerLoopCounter → 0 < s.outerDtAccum

section OuterInv

variable {s : VelocityPidNode ℚ}

theorem stepDt_pos (h : 0 < s.dt) (now : Time) : 0 < s.stepDt now := by
  unfold stepDt
  dsimp only
  split
  · assumption
  · exact h

theorem OuterInv.accum_eq_zero (h : s.OuterInv) (hmode : s.controlMode ≠ .cascade) :
    s.outerDtAccum = 0 := h.empty (h.mode hmode)

theorem OuterInv.accum_nonneg (h : s.OuterInv) : 0 ≤ s.outerDtAccum := by
  rcases h.counter.eq_or_lt with hzero | hpos
  · exact (h.empty hzero.symm).ge
  · exact (h.filled hpos).le

theorem OuterInv.posDt_pos (h : s.OuterInv) (now : Time) : 0 < s.posDt now := by
  have hstep := stepDt_pos h.dt now
  have haccum := h.accum_nonneg
  unfold posDt
  split_ifs <;> linarith

/-- The same with the same counter, accumulator and mode. -/
theorem OuterInv.congr (h : s.OuterInv) {s' : VelocityPidNode ℚ} (hdt : s'.dt = s.dt)
    (hmode : s'.controlMode = s.controlMode) (hcounter : s'.outerLoopCounter = s.outerLoopCounter)
    (haccum : s'.outerDtAccum = s.outerDtAccum) : s'.OuterInv := by
  constructor
  · rw [hdt]
    exact h.dt
  · rw [hcounter]
    exact h.counter
  · rw [hmode, hcounter]
    exact h.mode
  · rw [hcounter, haccum]
    exact h.empty
  · rw [hcounter, haccum]
    exact h.filled

/-- A restarted outer loop. -/
theorem OuterInv.of_zero (hdt : 0 < s.dt) (hcounter : s.outerLoopCounter = 0)
    (haccum : s.outerDtAccum = 0) : s.OuterInv := by
  refine ⟨hdt, hcounter.ge, fun _ => hcounter, fun _ => haccum, ?_⟩
  intro hpos
  exact absurd hcounter hpos.ne'

theorem OuterInv.setParameters (h : s.OuterInv) (batch : List (Parameter ℚ)) :
    (s.setParameters batch).OuterInv := by
  obtain ⟨hcounter, haccum, hmode⟩ := s.setParameters_outer batch
  have hdt := (s.setParameters_clock batch).dt
  cases hrestarts : s.restartsOuterLoop batch with
  | true =>
      rw [hrestarts, if_pos rfl] at hcounter haccum
      exact OuterInv.of_zero (by rw [hdt]; exact h.dt) hcounter haccum
  | false =>
      rw [hrestarts, if_neg Bool.false_ne_true] at hcounter haccum
      exact h.congr hdt (hmode hrestarts) hcounter haccum

theorem OuterInv.controlLoop (h : s.OuterInv) (m : Libm ℚ) (now : Time) :
    (s.controlLoop m now).node.OuterInv := by
  have hsettings := s.controlLoop_settings m now
  by_cases hlost : s.jointIndex < 0
  · rw [controlLoop_lost hlost]
    exact h
  · cases hmode : s.controlMode with
    | positionOnly =>
        have houter := controlLoop_outer_positionOnly m now hlost hmode
        exact h.congr hsettings.dt hsettings.controlMode (congrArg OuterState.counter houter)
          (congrArg OuterState.accum houter)
    | velocityOnly =>
        have houter := controlLoop_outer_velocityOnly m now hlost hmode
        exact h.congr hsettings.dt hsettings.controlMode (congrArg OuterState.counter houter)
          (congrArg OuterState.accum houter)
    | cascade =>
        cases hfires : s.outerLoopFires m with
        | true =>
            have houter := controlLoop_outer_fires m now hlost hmode hfires
            exact OuterInv.of_zero (by rw [hsettings.dt]; exact h.dt)
              (congrArg OuterState.counter houter) (congrArg OuterState.accum houter)
        | false =>
            have houter := controlLoop_outer_waits m now hlost hmode hfires
            have hcounter : (s.controlLoop m now).node.outerLoopCounter =
                s.outerLoopCounter + 1 := congrArg OuterState.counter houter
            have haccum : (s.controlLoop m now).node.outerDtAccum =
                s.outerDtAccum + s.stepDt now := congrArg OuterState.accum houter
            have hnonneg := h.accum_nonneg
            have hstep := stepDt_pos h.dt now
            have hcount := h.counter
            refine ⟨by rw [hsettings.dt]; exact h.dt, by omega, ?_, by omega, ?_⟩
            · intro hne
              exact absurd (hsettings.controlMode.trans hmode) hne
            · intro _
              rw [haccum]
              linarith

theorem OuterInv.step (h : s.OuterInv) (m : Libm ℚ) (e : Timed (VelocityPidEvent ℚ)) :
    (s.step m e).OuterInv := by
  obtain ⟨time, event⟩ := e
  cases event with
  | jointState msg =>
      have hset := s.jointStateCallback_settings msg
      have hloops := (s.jointStateCallback_frame msg).2.1
      exact h.congr hset.dt hset.controlMode hloops.outerLoopCounter hloops.outerDtAccum
  | setParameters batch => exact h.setParameters batch
  | controlLoop => exact h.controlLoop m time

theorem start_outerInv (l : Launch ℚ) (t₀ t₁ : Time) : (start l t₀ t₁).OuterInv := by
  refine OuterInv.of_zero ?_ rfl rfl
  show 0 < lit 1 / (startMembers l).rateHz
  rw [startMembers_eq]
  exact div_pos (by norm_num) (positiveOr_pos (by norm_num) _)

end OuterInv

/-! ## How far a `dt` falls short -/

/-- What the `dt` of the next call of the velocity PID lacks of the time since `call`. -/
def velGap (s : VelocityPidNode ℚ) (call : Time × ℚ) : ℚ := seconds (s.lastLoopTime - call.1)

/-- What the `dt` of the next call of the position PID lacks: the accumulator makes
up for the ticks it waited. -/
def posGap (s : VelocityPidNode ℚ) (call : Time × ℚ) : ℚ :=
  seconds (s.lastLoopTime - call.1) - s.outerDtAccum

section Gap

theorem seconds_self (t : Time) : (seconds (t - t) : ℚ) = 0 := by
  rw [seconds_sub, sub_self]

theorem seconds_sub_pos {t t' : Time} (h : t < t') : (0 : ℚ) < seconds (t' - t) := by
  rw [seconds_sub, sub_pos]
  exact lt_of_not_ge fun hle => absurd (seconds_le_iff.mp hle) (not_le.mpr h)

theorem seconds_split (t₀ t t' : Time) :
    (seconds (t' - t₀) : ℚ) = seconds (t' - t) + seconds (t - t₀) := by
  rw [seconds_sub, seconds_sub, seconds_sub]
  ring

variable {s : VelocityPidNode ℚ}

/-- Under a clock that moves, a tick measures its `dt`. -/
theorem stepDt_of_lt {now : Time} (h : s.lastLoopTime < now) :
    s.stepDt now = seconds (now - s.lastLoopTime) :=
  if_pos (seconds_sub_pos h)

/-- A batch makes no call. -/
theorem velCall_setParameters (now : Time) (batch : List (Parameter ℚ)) (b : Time × ℚ) :
    s.velCall ⟨now, .setParameters batch⟩ ≠ some (some b) := by
  unfold velCall
  dsimp only
  split <;> nofun

theorem posCall_setParameters (m : Libm ℚ) (now : Time) (batch : List (Parameter ℚ))
    (b : Time × ℚ) : s.posCall m ⟨now, .setParameters batch⟩ ≠ some (some b) := by
  unfold posCall
  dsimp only
  split <;> nofun

theorem velCall_of_calls (h : s.callsVel = true) (now : Time) :
    s.velCall ⟨now, .controlLoop⟩ = some (some (now, s.lastMeasuredVel)) := if_pos h

theorem velCall_of_not_calls (h : s.callsVel = false) (now : Time) (b : Time × ℚ) :
    s.velCall ⟨now, .controlLoop⟩ ≠ some (some b) := by
  have hnone : s.velCall ⟨now, .controlLoop⟩ = none :=
    if_neg (Bool.eq_false_iff.mp h)
  rw [hnone]
  nofun

theorem posCall_of_calls {m : Libm ℚ} (h : s.callsPos m = true) (now : Time) :
    s.posCall m ⟨now, .controlLoop⟩ = some (some (now, s.lastMeasuredPos)) := if_pos h

theorem posCall_of_not_calls {m : Libm ℚ} (h : s.callsPos m = false) (now : Time)
    (b : Time × ℚ) : s.posCall m ⟨now, .controlLoop⟩ ≠ some (some b) := by
  have hnone : s.posCall m ⟨now, .controlLoop⟩ = none :=
    if_neg (Bool.eq_false_iff.mp h)
  rw [hnone]
  nofun

/-- **How far the `dt` of the velocity PID falls short.** -/
theorem velGap_law (m : Libm ℚ) {e : Timed (VelocityPidEvent ℚ)} (hclock : s.ReadsLater e) :
    GapLaw (step m) velCall velInterrupts velGap s e := by
  obtain ⟨now, event⟩ := e
  cases event with
  | jointState msg =>
      refine GapLaw.of_keeps nofun rfl fun b => ?_
      show seconds ((s.jointStateCallback msg).lastLoopTime - b.1) = _
      rw [(s.jointStateCallback_frame msg).2.1.lastLoopTime]
      rfl
  | setParameters batch =>
      refine GapLaw.of_keeps (velCall_setParameters now batch) rfl fun b => ?_
      show seconds ((s.setParameters batch).lastLoopTime - b.1) = _
      rw [(s.setParameters_clock batch).lastLoopTime]
      rfl
  | controlLoop =>
      by_cases hlost : s.jointIndex < 0
      · have hcalls : s.callsVel = false := by simp [callsVel, hlost]
        refine GapLaw.of_keeps (velCall_of_not_calls hcalls now)
          (by simp [velInterrupts, hlost]) fun b => ?_
        show velGap (s.controlLoop m now).node b = _
        rw [controlLoop_lost hlost]
      · have hgap (b : Time × ℚ) :
            velGap (step m s ⟨now, .controlLoop⟩) b = seconds (now - b.1) := by
          show seconds ((s.controlLoop m now).node.lastLoopTime - b.1) = _
          rw [controlLoop_lastLoopTime hlost]
        by_cases hmode : s.controlMode = .positionOnly
        · have hcalls : s.callsVel = false := by simp [callsVel, hmode]
          refine GapLaw.of_grows (velCall_of_not_calls hcalls now)
            (by simp [velInterrupts, hlost, hmode]) ?_
          intro b hnonneg
          rw [hgap, seconds_split b.1 s.lastLoopTime now]
          exact add_pos_of_pos_of_nonneg (seconds_sub_pos (hclock rfl)) hnonneg
        · have hcalls : s.callsVel = true := by simp [callsVel, hlost, hmode]
          refine GapLaw.of_call (velCall_of_calls hcalls now) ?_
          rw [hgap, seconds_self]

/-- A batch stops the accumulator where it clears it between two firings. -/
theorem posGap_law_setParameters (m : Libm ℚ) (h : s.OuterInv) (now : Time)
    (batch : List (Parameter ℚ)) :
    GapLaw (step m) (posCall m) posInterrupts posGap s ⟨now, .setParameters batch⟩ := by
  have hcall := posCall_setParameters (s := s) m now batch
  obtain ⟨_, haccum, _⟩ := s.setParameters_outer batch
  have hgap (b : Time × ℚ) : posGap (step m s ⟨now, .setParameters batch⟩) b =
      seconds (s.lastLoopTime - b.1) -
        if s.restartsOuterLoop batch then 0 else s.outerDtAccum := by
    show seconds ((s.setParameters batch).lastLoopTime - b.1) -
      (s.setParameters batch).outerDtAccum = _
    rw [(s.setParameters_clock batch).lastLoopTime, haccum]
  cases hrestarts : s.restartsOuterLoop batch with
  | false =>
      refine GapLaw.of_keeps hcall (by simp [posInterrupts, hrestarts]) fun b => ?_
      rw [hgap, hrestarts, if_neg Bool.false_ne_true]
      rfl
  | true =>
      rcases h.counter.eq_or_lt with hzero | hpos
      · refine GapLaw.of_keeps hcall (by simp [posInterrupts, ← hzero]) fun b => ?_
        rw [hgap, hrestarts, if_pos rfl, posGap, h.empty hzero.symm]
      · refine GapLaw.of_grows hcall (by simp [posInterrupts, hrestarts, hpos]) ?_
        intro b hnonneg
        have hfilled := h.filled hpos
        rw [hgap, hrestarts, if_pos rfl, sub_zero]
        unfold posGap at hnonneg
        linarith

/-- A tick calls, is made up for by the accumulator, or passes it by. -/
theorem posGap_law_controlLoop (m : Libm ℚ) (h : s.OuterInv) {now : Time}
    (hlater : s.lastLoopTime < now) :
    GapLaw (step m) (posCall m) posInterrupts posGap s ⟨now, .controlLoop⟩ := by
  by_cases hlost : s.jointIndex < 0
  · have hcalls : s.callsPos m = false := by simp [callsPos, hlost]
    refine GapLaw.of_keeps (posCall_of_not_calls hcalls now)
      (by simp [posInterrupts, hlost]) fun b => ?_
    show posGap (s.controlLoop m now).node b = _
    rw [controlLoop_lost hlost]
  · have hgap (b : Time × ℚ) : posGap (step m s ⟨now, .controlLoop⟩) b =
        seconds (now - b.1) - (s.controlLoop m now).node.outer.accum := by
      show seconds ((s.controlLoop m now).node.lastLoopTime - b.1) - _ = _
      rw [controlLoop_lastLoopTime hlost]
      rfl
    cases hmode : s.controlMode with
    | positionOnly =>
        have hcalls : s.callsPos m = true := by simp [callsPos, hlost, hmode]
        have hempty : s.outer.accum = 0 := h.accum_eq_zero (by rw [hmode]; decide)
        refine GapLaw.of_call (posCall_of_calls hcalls now) ?_
        rw [hgap, controlLoop_outer_positionOnly m now hlost hmode, seconds_self, hempty,
          sub_zero]
    | velocityOnly =>
        have hcalls : s.callsPos m = false := by simp [callsPos, hmode]
        refine GapLaw.of_grows (posCall_of_not_calls hcalls now)
          (by simp [posInterrupts, hlost, hmode]) ?_
        intro b hnonneg
        have hstep := seconds_sub_pos hlater
        rw [hgap, controlLoop_outer_velocityOnly m now hlost hmode,
          seconds_split b.1 s.lastLoopTime now]
        unfold posGap at hnonneg
        show 0 < _ - s.outerDtAccum
        linarith
    | cascade =>
        cases hfires : s.outerLoopFires m with
        | true =>
            have hcalls : s.callsPos m = true := by simp [callsPos, hlost, hmode, hfires]
            refine GapLaw.of_call (posCall_of_calls hcalls now) ?_
            rw [hgap, controlLoop_outer_fires m now hlost hmode hfires, seconds_self, sub_zero]
        | false =>
            have hcalls : s.callsPos m = false := by simp [callsPos, hmode, hfires]
            refine GapLaw.of_keeps (posCall_of_not_calls hcalls now)
              (by simp [posInterrupts, hmode]) fun b => ?_
            -- the accumulator takes what the clock advances
            rw [hgap, controlLoop_outer_waits m now hlost hmode hfires, stepDt_of_lt hlater,
              seconds_split b.1 s.lastLoopTime now]
            unfold posGap
            ring

/-- **How far the `dt` of the position PID falls short.** -/
theorem posGap_law (m : Libm ℚ) {e : Timed (VelocityPidEvent ℚ)} (h : s.OuterInv)
    (hclock : s.ReadsLater e) : GapLaw (step m) (posCall m) posInterrupts posGap s e := by
  obtain ⟨now, event⟩ := e
  cases event with
  | jointState msg =>
      refine GapLaw.of_keeps nofun rfl fun b => ?_
      have hloops := (s.jointStateCallback_frame msg).2.1
      show seconds ((s.jointStateCallback msg).lastLoopTime - b.1) -
        (s.jointStateCallback msg).outerDtAccum = _
      rw [hloops.lastLoopTime, hloops.outerDtAccum]
      rfl
  | setParameters batch =>
      exact posGap_law_setParameters m h now batch
  | controlLoop => exact posGap_law_controlLoop m h (hclock rfl)

end Gap

/-! ## The time base -/

/-- A call with the given `dt` measures the mean rate since the call before it. -/
structure TrueRate (c : PidController ℚ) (measurement dt : ℚ) (now : Time)
    (call : Time × ℚ) : Prop where
  base : dt = seconds (now - call.1)
  derivative : c.derivative measurement dt = -(measurement - call.2) / seconds (now - call.1)

/-- With the memory of the call before, the right `dt` is all it takes. -/
theorem trueRate_iff {c : PidController ℚ} {call : Time × ℚ} (hmemory : c.memory = some call.2)
    {dt : ℚ} (hdt : 0 < dt) (measurement : ℚ) (now : Time) :
    TrueRate c measurement dt now call ↔ dt = seconds (now - call.1) := by
  refine ⟨TrueRate.base, fun hbase => ⟨hbase, ?_⟩⟩
  unfold PidController.memory at hmemory
  cases hfirst : c.firstRun with
  | true =>
      rw [hfirst] at hmemory
      cases hmemory
  | false =>
      rw [hfirst] at hmemory
      have hprevious : c.prevMeasurement = call.2 := Option.some.inj hmemory
      unfold PidController.derivative
      rw [if_pos ⟨hfirst, hdt⟩, hprevious, hbase]

/-- The `dt` of the velocity PID is right where its gap is closed. -/
theorem velDt_iff {s : VelocityPidNode ℚ} {now : Time} (h : s.lastLoopTime < now)
    (call : Time × ℚ) : s.stepDt now = seconds (now - call.1) ↔ s.velGap call = 0 := by
  unfold velGap
  rw [stepDt_of_lt h, seconds_split call.1 s.lastLoopTime now, left_eq_add]

theorem posDt_iff {s : VelocityPidNode ℚ} (hinv : s.OuterInv) {now : Time}
    (h : s.lastLoopTime < now) (call : Time × ℚ) :
    s.posDt now = seconds (now - call.1) ↔ s.posGap call = 0 := by
  have hdt : s.posDt now = s.outerDtAccum + s.stepDt now := by
    unfold posDt
    split_ifs with hmode
    · rfl
    · rw [hinv.accum_eq_zero hmode, zero_add]
  unfold posGap
  rw [hdt, stepDt_of_lt h, seconds_split call.1 s.lastLoopTime now, add_comm, add_right_inj,
    sub_eq_zero, eq_comm]

section Run

variable (m : Libm ℚ) (l : Launch ℚ) (t₀ t₁ : Time) (es : List (Timed (VelocityPidEvent ℚ)))

/-- The calls a tick makes after the run have the true time base. -/
structure TimeBase (now : Time) : Prop where
  velPid : (run (step m) (start l t₀ t₁) es).callsVel = true →
    ∀ call, previousCall (step m) velCall (start l t₀ t₁) es = some call →
      TrueRate (run (step m) (start l t₀ t₁) es).velPid
        (run (step m) (start l t₀ t₁) es).lastMeasuredVel
        ((run (step m) (start l t₀ t₁) es).stepDt now) now call
  posPid : (run (step m) (start l t₀ t₁) es).callsPos m = true →
    ∀ call, previousCall (step m) (posCall m) (start l t₀ t₁) es = some call →
      TrueRate (run (step m) (start l t₀ t₁) es).posPid
        (run (step m) (start l t₀ t₁) es).lastMeasuredPos
        ((run (step m) (start l t₀ t₁) es).posDt now) now call

/-- Nothing came between those calls and the ones before them. -/
structure Uninterrupted : Prop where
  velPid : (run (step m) (start l t₀ t₁) es).callsVel = true →
    (previousCall (step m) velCall (start l t₀ t₁) es).isSome →
      ¬Interrupted (step m) velCall velInterrupts (start l t₀ t₁) es
  posPid : (run (step m) (start l t₀ t₁) es).callsPos m = true →
    (previousCall (step m) (posCall m) (start l t₀ t₁) es).isSome →
      ¬Interrupted (step m) (posCall m) posInterrupts (start l t₀ t₁) es

variable {m l t₀ t₁ es}

/-- A non-first call of the velocity PID measures the time since the one before
exactly where no `position_only` tick came between. -/
theorem vel_time_base_iff {now : Time} (h : ClockIncreases t₀ (es ++ [⟨now, .controlLoop⟩]))
    {call : Time × ℚ} (hcall : previousCall (step m) velCall (start l t₀ t₁) es = some call) :
    TrueRate (run (step m) (start l t₀ t₁) es).velPid
        (run (step m) (start l t₀ t₁) es).lastMeasuredVel
        ((run (step m) (start l t₀ t₁) es).stepDt now) now call ↔
      ¬Interrupted (step m) velCall velInterrupts (start l t₀ t₁) es := by
  obtain ⟨hbefore, hnow⟩ := along_concat.mp (h.along m l t₀ t₁)
  have hinv : (run (step m) (start l t₀ t₁) es).OuterInv :=
    invariant_run (fun s e hs => hs.step m e) (start_outerInv l t₀ t₁) es
  have hlaw : Along (step m) (GapLaw (step m) velCall velInterrupts velGap) (start l t₀ t₁) es :=
    hbefore.imp (I := fun _ => True) (fun s e _ hclock => velGap_law m hclock)
      (fun _ _ _ _ => trivial) trivial
  have hmemory := run_velMemory m l t₀ t₁ es
  rw [hcall] at hmemory
  rw [trueRate_iff hmemory (stepDt_pos hinv.dt now), velDt_iff (hnow rfl)]
  exact (gap_run hlaw hcall).2

/-- A non-first call of the position PID measures the time since the one before
exactly where nothing stopped or cleared the accumulator between. -/
theorem pos_time_base_iff {now : Time} (h : ClockIncreases t₀ (es ++ [⟨now, .controlLoop⟩]))
    {call : Time × ℚ} (hcall : previousCall (step m) (posCall m) (start l t₀ t₁) es = some call) :
    TrueRate (run (step m) (start l t₀ t₁) es).posPid
        (run (step m) (start l t₀ t₁) es).lastMeasuredPos
        ((run (step m) (start l t₀ t₁) es).posDt now) now call ↔
      ¬Interrupted (step m) (posCall m) posInterrupts (start l t₀ t₁) es := by
  obtain ⟨hbefore, hnow⟩ := along_concat.mp (h.along m l t₀ t₁)
  have hinv : (run (step m) (start l t₀ t₁) es).OuterInv :=
    invariant_run (fun s e hs => hs.step m e) (start_outerInv l t₀ t₁) es
  have hlaw : Along (step m) (GapLaw (step m) (posCall m) posInterrupts posGap)
      (start l t₀ t₁) es :=
    hbefore.imp (I := OuterInv) (fun s e hs hclock => posGap_law m hs hclock)
      (fun s e hs _ => hs.step m e) (start_outerInv l t₀ t₁)
  have hmemory := run_posMemory m l t₀ t₁ es
  rw [hcall] at hmemory
  rw [trueRate_iff hmemory (hinv.posDt_pos now), posDt_iff hinv (hnow rfl)]
  exact (gap_run hlaw hcall).2

theorem tick_time_base_iff {now : Time} (h : ClockIncreases t₀ (es ++ [⟨now, .controlLoop⟩])) :
    TimeBase m l t₀ t₁ es now ↔ Uninterrupted m l t₀ t₁ es := by
  constructor
  · intro hbase
    constructor
    · intro hcalls hsome
      obtain ⟨call, hcall⟩ := Option.isSome_iff_exists.mp hsome
      exact (vel_time_base_iff h hcall).mp (hbase.velPid hcalls call hcall)
    · intro hcalls hsome
      obtain ⟨call, hcall⟩ := Option.isSome_iff_exists.mp hsome
      exact (pos_time_base_iff h hcall).mp (hbase.posPid hcalls call hcall)
  · intro hfree
    constructor
    · intro hcalls call hcall
      exact (vel_time_base_iff h hcall).mpr (hfree.velPid hcalls (Option.isSome_of_eq_some hcall))
    · intro hcalls call hcall
      exact (pos_time_base_iff h hcall).mpr (hfree.posPid hcalls (Option.isSome_of_eq_some hcall))

/-- **The derivatives of a run measure the true mean rates exactly where all its calls
are uninterrupted.** -/
theorem time_base_iff (m : Libm ℚ) (l : Launch ℚ) (t₀ t₁ : Time)
    (es : List (Timed (VelocityPidEvent ℚ))) (h : ClockIncreases t₀ es) :
    (∀ pre now post, es = pre ++ ⟨now, .controlLoop⟩ :: post → TimeBase m l t₀ t₁ pre now) ↔
      ∀ pre now post, es = pre ++ ⟨now, .controlLoop⟩ :: post →
        Uninterrupted m l t₀ t₁ pre := by
  refine forall_congr' fun pre => forall_congr' fun now => forall_congr' fun post => ?_
  refine imp_congr_right fun hes => tick_time_base_iff ?_
  rw [hes] at h
  exact h.before

end Run

/-! ## Two changes of the mode -/

/-- A velocity of 1 rad/s called on at 10 ms; a tick in `position_only` mode; and a
velocity of 2 rad/s by 30 ms. -/
def detour : List (Timed (VelocityPidEvent ℚ)) :=
  [⟨0, .jointState (.single 0 "motor_joint" 0 1)⟩, ⟨10000000, .controlLoop⟩,
    ⟨15000000, .setParameters [⟨"control_mode", .string "position_only"⟩]⟩,
    ⟨20000000, .controlLoop⟩,
    ⟨25000000, .setParameters [⟨"control_mode", .string "velocity_only"⟩]⟩,
    ⟨26000000, .jointState (.single 0 "motor_joint" 0 11)⟩]

/-- The derivative at 30 ms doubles a rate of 50 rad/s², in a run whose clock
increases. -/
theorem derivative_misled :
    ClockIncreases 0 (detour ++ [⟨30000000, .controlLoop⟩]) ∧
      ¬TimeBase ⟨fun _ => 0, fun _ => 1, fun _ => 0⟩
        (Launch.empty.withString "control_mode" "velocity_only") 0 0 detour 30000000 := by
  refine ⟨by decide +kernel, fun h => ?_⟩
  have hbase := h.velPid (by decide +kernel) (10000000, 1) (by decide +kernel)
  exact absurd hbase.derivative (by decide +kernel)

theorem detour_time_base_iff :
    ClockIncreases 0 (detour ++ [⟨30000000, .controlLoop⟩]) ∧
      ((∀ pre now post, detour ++ [⟨30000000, .controlLoop⟩] = pre ++ ⟨now, .controlLoop⟩ :: post →
          TimeBase ⟨fun _ => 0, fun _ => 1, fun _ => 0⟩
            (Launch.empty.withString "control_mode" "velocity_only") 0 0 pre now) ↔
        ∀ pre now post, detour ++ [⟨30000000, .controlLoop⟩] = pre ++ ⟨now, .controlLoop⟩ :: post →
          Uninterrupted ⟨fun _ => 0, fun _ => 1, fun _ => 0⟩
            (Launch.empty.withString "control_mode" "velocity_only") 0 0 pre) :=
  ⟨by decide +kernel, time_base_iff _ _ 0 0 _ (by decide +kernel)⟩

end VelocityPidNode

end MarineHil.Ports
