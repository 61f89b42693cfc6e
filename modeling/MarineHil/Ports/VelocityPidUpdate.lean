import MarineHil.Ports.DerivativeTimeBase

/-!
# The frame of a live parameter update

`on_apply_parameters` runs every accepted batch through one loop over the table, then
resets the controllers whose gains it saw, synchronises both, and scans the batch again
for the divider of the outer loop.

## Main results

* `gainsChanged_vel`, `gainsChanged_pos`: the names behind the reset flags.
* `run_controlMode`: the mode after a batch.
* `live_update_frame`: what an accepted batch changes, and what it leaves, in every
  reachable state.
-/

namespace MarineHil.Ports

open MarineHil.Verified

namespace VelocityPidNode

/-- The parameters that reset the velocity PID. -/
def velGains : List String := ["kp", "ki", "kd", "kff", "kaff"]

/-- The parameters that reset the position PID. -/
def posGains : List String := ["kp_pos", "ki_pos", "kd_pos"]

/-- The parameters that restart the outer loop. -/
def outerLoopNames : List String := ["control_mode", "outer_loop_divider"]

/-- The batch has a parameter of one of the names. -/
def names (listed : List String) {α : Type} (batch : List (Parameter α)) : Bool :=
  batch.any fun p => decide (p.name ∈ listed)

section Names

variable {α : Type} [Double α]

/-- The names of the table with their reset flags. -/
def resetTable : List (String × ℕ) :=
  [ ("amplitude_rad_s", 0), ("omega_rad_s", 0), ("kp", kResetVel), ("ki", kResetVel)
  , ("kd", kResetVel), ("kff", kResetVel), ("kaff", kResetVel), ("torque_limit_nm", 0)
  , ("integral_limit", 0), ("deadband_rad_s", 0), ("kp_pos", kResetPos), ("ki_pos", kResetPos)
  , ("kd_pos", kResetPos), ("pos_integral_limit", 0), ("pos_output_limit", 0)
  , ("outer_loop_divider", 0), ("rate_hz", 0), ("filter_alpha", 0), ("invert_output", 0)
  , ("position_setpoint", 0) ]

theorem map_paramDefs :
    (paramDefs (α := α)).map (fun d => (d.name, d.resetFlags)) = resetTable := rfl

/-- What the reset flags say, name by name. -/
theorem gainsChanged_eq {flag : ℕ} {listed : List String}
    (htable : ∀ entry ∈ resetTable,
      (entry.1 != "control_mode" && entry.2 &&& flag != 0) = decide (entry.1 ∈ listed))
    (hsub : ∀ name ∈ listed, name ∈ tableNames) (p : Parameter α) :
    gainsChanged flag p = decide (p.name ∈ listed) := by
  unfold gainsChanged
  cases hfind : findDef (α := α) p.name with
  | none =>
      rw [Bool.and_false]
      exact (decide_eq_false fun hmem => not_mem_tableNames hfind (hsub _ hmem)).symm
  | some d =>
      obtain ⟨hd, hname⟩ := findDef_some hfind
      rw [← hname]
      refine htable (d.name, d.resetFlags) ?_
      rw [← map_paramDefs (α := α)]
      exact List.mem_map_of_mem hd

theorem gainsChanged_vel (p : Parameter α) :
    gainsChanged kResetVel p = decide (p.name ∈ velGains) :=
  gainsChanged_eq (by decide) (by decide) p

theorem gainsChanged_pos (p : Parameter α) :
    gainsChanged kResetPos p = decide (p.name ∈ posGains) :=
  gainsChanged_eq (by decide) (by decide) p

theorem any_gainsChanged_vel (batch : List (Parameter α)) :
    batch.any (gainsChanged kResetVel) = names velGains batch :=
  congrArg batch.any (funext gainsChanged_vel)

theorem any_gainsChanged_pos (batch : List (Parameter α)) :
    batch.any (gainsChanged kResetPos) = names posGains batch :=
  congrArg batch.any (funext gainsChanged_pos)

omit [Double α] in
/-- The two scans of a batch that restart the outer loop. -/
theorem names_outerLoopNames (batch : List (Parameter α)) :
    names outerLoopNames batch =
      (batch.any (fun p => p.name = "control_mode") ||
        batch.any (fun p => p.name = "outer_loop_divider")) := by
  rw [Bool.eq_iff_iff]
  simp [names, outerLoopNames, and_or_left, exists_or]

end Names

section Update

variable {α : Type} [Double α]

/-- The mode a parameter selects. -/
def modeNamed (p : Parameter α) : Option ControlMode :=
  if p.name = "control_mode" then p.value.asString.bind ControlMode.ofString else none

/-- What an accepted batch makes of a node. -/
structure LiveUpdate (s s' : VelocityPidNode α) (batch : List (Parameter α)) : Prop where
  velHeld : s'.velPid.held = if names velGains batch then s.velPid.reset.held else s.velPid.held
  posHeld : s'.posPid.held = if names posGains batch then s.posPid.reset.held else s.posPid.held
  outerLoopCounter :
    s'.outerLoopCounter = if names outerLoopNames batch then 0 else s.outerLoopCounter
  outerDtAccum : s'.outerDtAccum = if names outerLoopNames batch then 0 else s.outerDtAccum
  measurements : s.SameMeasurements s'
  clock : s.SameClock s'
  members : ∀ d : TableMember, d.get s'.toVelocityPidMembers =
    (lastSome (Parameter.doubleNamed d.name) batch).getD (d.get s.toVelocityPidMembers)
  invertOutput : s'.invertOutput =
    (lastSome (Parameter.boolNamed "invert_output") batch).getD s.invertOutput
  controlMode : s'.controlMode = (lastSome modeNamed batch).getD s.controlMode
  configured : s'.PidsConfigured

/-- The mode after a batch is the last one it selects. -/
theorem run_controlMode (s : VelocityPidNode α) (batch : List (Parameter α)) :
    (run applyParameter s batch).controlMode = (lastSome modeNamed batch).getD s.controlMode := by
  refine latch_run (fun t : VelocityPidNode α => t.controlMode) ?_ s batch
  intro t p
  rw [applyParameter_eq, modeNamed]
  split_ifs <;> rfl

variable {s : VelocityPidNode α} {batch : List (Parameter α)}

theorem setParameters_of_accepts (h : s.acceptsBatch batch = true) :
    s.setParameters batch =
      onApplyParameters { s with parameters := s.parameters.setAll batch } batch := if_pos h

/-- **What an accepted batch changes, and what it leaves.** -/
theorem liveUpdate (hs : s.PidsConfigured) (h : s.acceptsBatch batch = true) :
    s.LiveUpdate (s.setParameters batch) batch := by
  obtain ⟨hvel, hpos⟩ := s.setParameters_held batch
  obtain ⟨hcounter, haccum, _⟩ := s.setParameters_outer batch
  have hrestarts : s.restartsOuterLoop batch = names outerLoopNames batch := by
    rw [restartsOuterLoop, h, Bool.true_and, names_outerLoopNames]
  rw [resetsPid, h, Bool.true_and, any_gainsChanged_vel] at hvel
  rw [resetsPid, h, Bool.true_and, any_gainsChanged_pos] at hpos
  rw [hrestarts] at hcounter haccum
  have hmembers := (s.setParameters_members batch).trans (if_pos h)
  refine ⟨hvel, hpos, hcounter, haccum, (s.setParameters_joint batch).2,
    s.setParameters_clock batch, ?_, ?_, ?_, hs.setParameters batch⟩
  · intro d
    rw [hmembers]
    exact latch_run (fun u => d.get u) (fun u p => get_assignNamed d p u) _ batch
  · rw [hmembers]
    exact latch_run (fun u : VelocityPidMembers α => u.invertOutput) (fun _ _ => rfl) _ batch
  · rw [setParameters_of_accepts h, onApplyParameters_controlMode, run_controlMode]

/-- **The frame of a live update, in every reachable state.** -/
theorem live_update_frame (m : Libm α) (l : Launch α) (t₀ t₁ : Time)
    (es : List (Timed (VelocityPidEvent α))) (batch : List (Parameter α))
    (h : (run (step m) (start l t₀ t₁) es).acceptsBatch batch = true) :
    (run (step m) (start l t₀ t₁) es).LiveUpdate
      ((run (step m) (start l t₀ t₁) es).setParameters batch) batch :=
  liveUpdate (run_pidsConfigured m l t₀ t₁ es) h

end Update

/-- A gain given twice, a change of the mode between, and a wider deadband. -/
def mixedBatch : List (Parameter ℚ) :=
  [⟨"kp", .double 1⟩, ⟨"control_mode", .string "cascade"⟩, ⟨"deadband_rad_s", .double 0.1⟩,
    ⟨"kp", .double 2⟩]

theorem live_update_mixedBatch :
    (start (α := ℚ) .empty 0 0).acceptsBatch mixedBatch = true ∧
      (start .empty 0 0).LiveUpdate ((start .empty 0 0).setParameters mixedBatch) mixedBatch :=
  ⟨by decide +kernel,
    live_update_frame ⟨fun _ => 0, fun _ => 1, fun _ => 0⟩ .empty 0 0 [] mixedBatch
      (by decide +kernel)⟩

/-- The position PID keeps its own deadband, which no parameter sets. -/
theorem deadband_not_shared :
    (start (α := ℚ) .empty 0 0).acceptsBatch mixedBatch = true ∧
      ((start (α := ℚ) .empty 0 0).setParameters mixedBatch).posPid.deadband ≠
        ((start (α := ℚ) .empty 0 0).setParameters mixedBatch).deadbandRadS :=
  ⟨by decide +kernel, by decide +kernel⟩

end VelocityPidNode

end MarineHil.Ports
