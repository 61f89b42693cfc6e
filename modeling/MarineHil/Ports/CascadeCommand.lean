import MarineHil.Verified.Extended
import MarineHil.Ports.VelocityPidDemand

/-!
# The velocity command in `cascade` mode

The outer loop clamps the command to `pos_output_limit` where it fires and holds it
where it waits.  What is held was written by an earlier tick, possibly in another
mode, which does not clamp, or under another limit: neither a change of the mode
nor an update of the limit touches the held value.  And the clamp passes NaN through,
so a measurement that is none reaches the command.

## Main results

* `step_vCmd`: only a writing tick changes the command.
* `fabs_written_le_iff`: what a writing tick leaves, from the state before it.
* `cascade_command_bounded_iff`: the command of a cascade tick is within the limit
  in force exactly where the last write was.
* `held_command_exceeds`: a limit lowered between two firings.
-/

namespace MarineHil.Ports.VelocityPidNode

open MarineHil.Verified
open MarineHil.Verified.ExtRat

/-! ## Who writes the command -/

section Writer

variable {α : Type} [Double α]

/-- A tick writes the velocity command unless it is lost, or waits in `cascade`
mode. -/
def writesCommand (s : VelocityPidNode α) (m : Libm α) : Bool :=
  !decide (s.jointIndex < 0) && (s.controlMode != .cascade || s.outerLoopFires m)

/-- The state before a tick that writes the command, and its time. -/
def writer (m : Libm α) (s : VelocityPidNode α) (e : Timed (VelocityPidEvent α)) :
    Option (VelocityPidNode α × Time) :=
  match e.event with
  | .controlLoop => if s.writesCommand m then some (s, e.time) else none
  | _ => none

/-- The last tick of a run that wrote the command. -/
def lastWriter (m : Libm α) (s : VelocityPidNode α) (es : List (Timed (VelocityPidEvent α))) :
    Option (VelocityPidNode α × Time) :=
  lastOutput (step m) (writer m) s es

/-- The command a tick leaves. -/
def commandAfter (m : Libm α) (w : VelocityPidNode α × Time) : α :=
  (w.1.controlLoop m w.2).node.vCmd

/-- A tick that does not write holds the command. -/
theorem controlLoop_vCmd_held {s : VelocityPidNode α} {m : Libm α}
    (h : s.writesCommand m = false) (now : Time) : (s.controlLoop m now).node.vCmd = s.vCmd := by
  by_cases hlost : s.jointIndex < 0
  · rw [controlLoop_lost hlost]
  · unfold writesCommand at h
    rw [decide_eq_false hlost, Bool.not_false, Bool.true_and, Bool.or_eq_false_iff] at h
    have hmode : s.controlMode = .cascade := by
      have hne := h.1
      rw [bne_eq_false_iff_eq] at hne
      exact hne
    rw [controlLoop_cascade hlost m now hmode,
      runOuterLoop_waits (s := { s with lastLoopTime := now }) h.2]
    rfl

/-- Only a writing tick changes the command. -/
theorem step_vCmd (m : Libm α) (s : VelocityPidNode α) (e : Timed (VelocityPidEvent α)) :
    (s.step m e).vCmd = ((writer m s e).map (commandAfter m)).getD s.vCmd := by
  obtain ⟨time, event⟩ := e
  cases event with
  | jointState msg => exact (s.jointStateCallback_frame msg).2.1.vCmd
  | setParameters batch => exact (s.setParameters_clock batch).vCmd
  | controlLoop =>
      show (s.controlLoop m time).node.vCmd =
        ((if s.writesCommand m then some (s, time) else none).map (commandAfter m)).getD s.vCmd
      cases hwrites : s.writesCommand m with
      | true => rfl
      | false => exact controlLoop_vCmd_held hwrites time

/-- **The command after a run is what the last writing tick left.** -/
theorem run_vCmd (m : Libm α) (l : Launch α) (t₀ t₁ : Time)
    (es : List (Timed (VelocityPidEvent α))) :
    (run (step m) (start l t₀ t₁) es).vCmd =
      ((lastWriter m (start l t₀ t₁) es).map (commandAfter m)).getD 0 := by
  rw [lastWriter, ← lastOutput_map]
  exact output_run (fun s : VelocityPidNode α => s.vCmd) (I := fun _ => True)
    (fun _ _ _ => trivial) (fun s e _ => step_vCmd m s e) trivial es

/-! ### The three writers -/

section Command

variable {s : VelocityPidNode α} {m : Libm α} (hfound : ¬s.jointIndex < 0) {now : Time}

include hfound

theorem commandAfter_positionOnly (hmode : s.controlMode = .positionOnly) :
    commandAfter m (s, now) = 0 := by
  rw [commandAfter, controlLoop_positionOnly hfound m now hmode]
  rfl

theorem commandAfter_velocityOnly (hmode : s.controlMode = .velocityOnly) :
    commandAfter m (s, now) = (s.trajectoryAt m now).vel := by
  rw [commandAfter, controlLoop_velocityOnly hfound m now hmode]
  rfl

theorem commandAfter_fires (hmode : s.controlMode = .cascade) (hfires : s.outerLoopFires m = true) :
    commandAfter m (s, now) =
      clamp (s.positionCorrection (s.trajectoryAt m now) (s.stepDt now) +
        (s.trajectoryAt m now).vel) (-s.posOutputLimit) s.posOutputLimit := by
  rw [commandAfter, controlLoop_found hfound,
    dispatch_vCmd_of_fires (s := { s with lastLoopTime := now }) hmode hfires]
  rfl

end Command

end Writer

/-! ## The bound -/

/-- A writing tick leaves a command within `b`: zero in `position_only` mode, the
reference itself in `velocity_only` mode, and in `cascade` mode the sum of correction
and reference, if that is not NaN, clamped to the limit of that tick. -/
def WritesWithin (m : Libm ExtRat) (w : VelocityPidNode ExtRat × Time) (b : ExtRat) : Prop :=
  let traj := w.1.trajectoryAt m w.2
  match w.1.controlMode with
  | .positionOnly => True
  | .velocityOnly => fabs traj.vel ≤ b
  | .cascade =>
      let sum := w.1.positionCorrection traj (w.1.stepDt w.2) + traj.vel
      sum ≠ nan ∧ (fabs sum ≤ b ∨ w.1.posOutputLimit ≤ b)

/-- What a writing tick leaves is within `b` exactly where the state before it says
so. -/
theorem fabs_written_le_iff {s : VelocityPidNode ExtRat} (hl : LimitsValid s.toVelocityPidMembers)
    {m : Libm ExtRat} (h : s.writesCommand m = true) {b : ExtRat} (hb : 0 ≤ b) (now : Time) :
    fabs (commandAfter m (s, now)) ≤ b ↔ WritesWithin m (s, now) b := by
  unfold writesCommand at h
  rw [Bool.and_eq_true] at h
  have hfound : ¬s.jointIndex < 0 := by
    have hdecide := h.1
    rw [Bool.not_eq_true', decide_eq_false_iff_not] at hdecide
    exact hdecide
  unfold WritesWithin
  dsimp only
  cases hmode : s.controlMode with
  | positionOnly =>
      rw [commandAfter_positionOnly hfound hmode]
      exact iff_of_true hb trivial
  | velocityOnly =>
      rw [commandAfter_velocityOnly hfound hmode]
  | cascade =>
      have hfires : s.outerLoopFires m = true := by
        have hor := h.2
        rw [hmode] at hor
        exact hor
      rw [commandAfter_fires hfound hmode hfires, fabs_clamp_le_iff (nonneg_of_pos hl.posOutput)]

/-- A cascade tick passes and publishes a command within `limit`. -/
def CommandBounded (m : Libm ExtRat) (limit : ExtRat) (s : VelocityPidNode ExtRat)
    (now : Time) : Prop :=
  s.controlMode = .cascade → ∀ d, (s.controlLoop m now).diagnostics = some d →
    fabs (s.velSetpoint m (s.trajectoryAt m now) (s.stepDt now)) ≤ limit ∧
      fabs d.velocityCommand ≤ limit

/-- The setpoint of the inner loop is what the tick leaves and publishes. -/
theorem commandBounded_iff (m : Libm ExtRat) (limit : ExtRat) {s : VelocityPidNode ExtRat}
    (hmode : s.controlMode = .cascade) (hfound : ¬s.jointIndex < 0) (now : Time) :
    CommandBounded m limit s now ↔ fabs (commandAfter m (s, now)) ≤ limit := by
  obtain ⟨d, hd, _, hcommand⟩ := controlLoop_diagnostics hfound m now
  have hsetpoint : (s.controlLoop m now).node.vCmd =
      s.velSetpoint m (s.trajectoryAt m now) (s.stepDt now) := by
    rw [controlLoop_found hfound]
    refine (dispatch_velPid (s := { s with lastLoopTime := now }) ?_ m _ _).2
    show s.controlMode ≠ .positionOnly
    rw [hmode]
    decide
  unfold CommandBounded commandAfter
  constructor
  · intro h
    rw [← hcommand]
    exact (h hmode d hd).2
  · intro h _ d' hd'
    obtain rfl := Option.some.inj (hd'.symm.trans hd)
    rw [← hsetpoint, hcommand]
    exact ⟨h, h⟩

section Run

variable (m : Libm ExtRat) (l : Launch ExtRat) (t₀ t₁ : Time)
  (es : List (Timed (VelocityPidEvent ExtRat)))

/-- The last writer of a run is a state of the run, at a writing tick. -/
theorem lastWriter_spec {w : VelocityPidNode ExtRat × Time}
    (h : lastWriter m (start l t₀ t₁) es = some w) :
    LimitsValid w.1.toVelocityPidMembers ∧ w.1.writesCommand m = true := by
  obtain ⟨pre, ⟨time, event⟩, post, _, he⟩ := exists_of_lastOutput h
  cases event with
  | controlLoop =>
      have hwriter : (if (run (step m) (start l t₀ t₁) pre).writesCommand m then
          some (run (step m) (start l t₀ t₁) pre, time) else none) = some w := he
      split at hwriter
      · rename_i hwrites
        obtain rfl := Option.some.inj hwriter
        exact ⟨run_limitsValid m l t₀ t₁ pre, hwrites⟩
      · cases hwriter
  | jointState msg => cases he
  | setParameters batch => cases he

/-- What a tick leaves is within `b` exactly where the last write was, its own
included. -/
theorem fabs_command_le_iff {b : ExtRat} (hb : 0 ≤ b) (now : Time) :
    fabs (commandAfter m (run (step m) (start l t₀ t₁) es, now)) ≤ b ↔
      ∀ w, lastWriter m (start l t₀ t₁) (es ++ [⟨now, .controlLoop⟩]) = some w →
        WritesWithin m w b := by
  have hleft : commandAfter m (run (step m) (start l t₀ t₁) es, now) =
      ((lastWriter m (start l t₀ t₁) (es ++ [⟨now, .controlLoop⟩])).map
        (commandAfter m)).getD 0 := by
    rw [← run_vCmd, run_concat]
    rfl
  rw [hleft]
  cases hlast : lastWriter m (start l t₀ t₁) (es ++ [⟨now, .controlLoop⟩]) with
  | none =>
      refine iff_of_true ?_ (fun w hw => by cases hw)
      show fabs (0 : ExtRat) ≤ b
      exact hb
  | some w =>
      obtain ⟨hvalid, hwrites⟩ := lastWriter_spec m l t₀ t₁ _ hlast
      have hiff := fabs_written_le_iff hvalid hwrites hb w.2
      constructor
      · intro h w' hw'
        obtain rfl := Option.some.inj hw'
        exact hiff.mp h
      · intro h
        exact hiff.mpr (h w rfl)

/-- **When the velocity command is bounded**: at a cascade tick with the joint found,
exactly where the last tick that wrote the command, this one if the outer loop fires,
left one within the limit in force now. -/
theorem cascade_command_bounded_iff (now : Time) :
    let s := run (step m) (start l t₀ t₁) es
    let limit := inForce l .posOutputLimit es
    CommandBounded m limit s now ↔
      (s.controlMode = .cascade → ¬s.jointIndex < 0 →
        ∀ w, lastWriter m (start l t₀ t₁) (es ++ [⟨now, .controlLoop⟩]) = some w →
          WritesWithin m w limit) := by
  intro s limit
  have hlimit : s.posOutputLimit = limit := run_tableMember m l t₀ t₁ .posOutputLimit es
  have hvalid : LimitsValid s.toVelocityPidMembers := run_limitsValid m l t₀ t₁ es
  have hpos : 0 ≤ limit := by
    rw [← hlimit]
    exact nonneg_of_pos hvalid.posOutput
  by_cases hmode : s.controlMode = .cascade
  · by_cases hfound : s.jointIndex < 0
    · refine iff_of_true ?_ (fun _ hne => absurd hfound hne)
      intro _ d hd
      rw [controlLoop_lost hfound] at hd
      cases hd
    · rw [commandBounded_iff m limit hmode hfound, fabs_command_le_iff m l t₀ t₁ es hpos now]
      exact ⟨fun h _ _ => h, fun h => h hmode hfound⟩
  · exact iff_of_true (fun h => absurd h hmode) (fun h => absurd h hmode)

end Run

/-! ## A limit lowered between two firings -/

/-- The outer loop fires at every second tick, far from the setpoint. -/
def farSetpoint : Launch ExtRat :=
  ((Launch.empty.withString "control_mode" "cascade").withDouble "outer_loop_divider"
    (fin 2)).withDouble "position_setpoint" (fin 10)

/-- Two ticks, the second of which writes the limit of 2 rad/s, and then a lower one. -/
def loweredLimit : List (Timed (VelocityPidEvent ExtRat)) :=
  [⟨0, .jointState (.single 0 "motor_joint" 0 0)⟩, ⟨10000000, .controlLoop⟩,
    ⟨20000000, .controlLoop⟩, ⟨25000000, .setParameters [⟨"pos_output_limit", .double (fin 1)⟩]⟩]

/-- The third tick passes on and publishes 2 rad/s under a limit of 1 rad/s. -/
theorem held_command_exceeds :
    ¬CommandBounded ⟨fun _ => 0, fun _ => fin 1, fun _ => 0⟩ (inForce farSetpoint .posOutputLimit
        loweredLimit)
      (run (step ⟨fun _ => 0, fun _ => fin 1, fun _ => 0⟩) (start farSetpoint 0 0) loweredLimit)
      30000000 := by
  intro h
  refine absurd ((commandBounded_iff _ _ ?_ ?_ _).mp h) ?_
  · decide +kernel
  · decide +kernel
  · decide +kernel

end MarineHil.Ports.VelocityPidNode
