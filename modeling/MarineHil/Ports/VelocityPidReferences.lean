import MarineHil.Ports.VelocityPidDemand

/-!
# Feedback in the published references of `VelocityPidNode`

`~/position_command` is the trajectory.  `~/velocity_command` is `v_cmd_`, which
carries the trajectory's velocity in one mode, nothing in another, and in cascade
mode the position correction.  Two nodes that differ in their feedback alone go
through the same `references`, the part of the state no measurement reaches, until
an outer loop of theirs fires and corrects differently.

## Main results

* `setParameters_references`, `dispatch_references`: what a callback makes of the
  references.
* `SameReferences.samePublished_iff`: what one tick publishes on either side.
* `references_independent_iff`: the same over whole runs.
-/

namespace MarineHil.Ports.VelocityPidNode

open MarineHil.Verified

/-! ## The part of the node that no measurement reaches -/

section References

variable {α : Type} [Double α]

/-- The node without its measurements and without the controllers they feed. -/
def references (s : VelocityPidNode α) : VelocityPidNode α :=
  { s with
    jointIndex := 0
    lastMeasuredVel := 0
    filteredVel := 0
    filterInitialized := false
    lastMeasuredPos := 0
    velPid := .fresh
    posPid := .fresh }

variable (s : VelocityPidNode α)

theorem jointStateCallback_references (msg : JointState α) :
    (s.jointStateCallback msg).references = s.references := by
  unfold jointStateCallback readVelocity readPosition
  dsimp only
  split
  · rfl
  · split
    · split
      · rfl
      · rfl
    · split
      · rfl
      · rfl

theorem applyParameter_references (p : Parameter α) :
    (s.applyParameter p).references = s.references.applyParameter p := by
  unfold applyParameter
  by_cases hmode : p.name = "control_mode"
  · rw [if_pos hmode, if_pos hmode]
    rfl
  · rw [if_neg hmode, if_neg hmode]
    cases findDef (α := α) p.name with
    | none => rfl
    | some d => rfl

theorem run_applyParameter_references (batch : List (Parameter α)) :
    (run applyParameter s batch).references = run applyParameter s.references batch := by
  induction batch generalizing s with
  | nil => rfl
  | cons p batch ih =>
      rw [run_cons, run_cons, ih, applyParameter_references]

theorem onApplyParameters_references (batch : List (Parameter α)) :
    (s.onApplyParameters batch).references = (s.references.onApplyParameters batch).references := by
  have hrun := run_applyParameter_references s batch
  have hrun' := run_applyParameter_references s.references batch
  unfold onApplyParameters
  dsimp only
  have hsame : (run applyParameter s.references batch).references =
      (run applyParameter s batch).references := hrun'.trans hrun.symm
  generalize run applyParameter s.references batch = t' at hsame
  generalize run applyParameter s batch = t at hsame
  -- resets and gains concern the controllers; only the divider restarts something
  have hrestarted : ({ t.references with outerLoopCounter := 0, outerDtAccum := 0 } :
      VelocityPidNode α) = { t'.references with outerLoopCounter := 0, outerDtAccum := 0 } := by
    rw [hsame]
  split_ifs
  all_goals first | exact hsame.symm | exact hrestarted

/-- A batch sees nothing but the references and leaves nothing else in them. -/
theorem setParameters_references (batch : List (Parameter α)) :
    (s.setParameters batch).references = (s.references.setParameters batch).references := by
  unfold setParameters
  by_cases haccepts : s.acceptsBatch batch = true
  · have hreferences : s.references.acceptsBatch batch = true := haccepts
    rw [if_pos haccepts, if_pos hreferences]
    exact onApplyParameters_references { s with parameters := s.parameters.setAll batch } batch
  · have hreferences : ¬s.references.acceptsBatch batch = true := haccepts
    rw [if_neg haccepts, if_neg hreferences]
    rfl

/-- A dispatch changes the references as it would without measurements, but for
the velocity command. -/
theorem dispatch_references (m : Libm α) (traj : TrajectoryRef α) (dt : α) :
    (s.dispatch m traj dt).node.references =
      { (s.references.dispatch m traj dt).node.references with
        vCmd := (s.dispatch m traj dt).node.vCmd } := by
  cases hmode : s.controlMode with
  | velocityOnly =>
      have hmode' : s.references.controlMode = .velocityOnly := hmode
      rw [dispatch_velocityOnly m traj dt hmode, dispatch_velocityOnly m traj dt hmode']
      rfl
  | positionOnly =>
      have hmode' : s.references.controlMode = .positionOnly := hmode
      rw [dispatch_positionOnly m traj dt hmode, dispatch_positionOnly m traj dt hmode']
      rfl
  | cascade =>
      have hmode' : s.references.controlMode = .cascade := hmode
      rw [dispatch_cascade m traj dt hmode, dispatch_cascade m traj dt hmode']
      cases hfires : s.outerLoopFires m with
      | true =>
          have hfires' : s.references.outerLoopFires m = true := hfires
          rw [runOuterLoop_fires hfires, runOuterLoop_fires hfires']
          rfl
      | false =>
          have hfires' : s.references.outerLoopFires m = false := hfires
          rw [runOuterLoop_waits hfires, runOuterLoop_waits hfires']
          rfl

/-- The velocity command comes from the references alone unless the outer loop
fires. -/
theorem dispatch_vCmd_of_not_fires (m : Libm α) (traj : TrajectoryRef α) (dt : α)
    (h : s.controlMode = .cascade → s.outerLoopFires m = false) :
    (s.dispatch m traj dt).node.vCmd = (s.references.dispatch m traj dt).node.vCmd := by
  cases hmode : s.controlMode with
  | velocityOnly =>
      have hmode' : s.references.controlMode = .velocityOnly := hmode
      rw [dispatch_velocityOnly m traj dt hmode, dispatch_velocityOnly m traj dt hmode']
      rfl
  | positionOnly =>
      have hmode' : s.references.controlMode = .positionOnly := hmode
      rw [dispatch_positionOnly m traj dt hmode, dispatch_positionOnly m traj dt hmode']
      rfl
  | cascade =>
      have hmode' : s.references.controlMode = .cascade := hmode
      have hwaits := h hmode
      have hwaits' : s.references.outerLoopFires m = false := hwaits
      rw [dispatch_cascade m traj dt hmode, dispatch_cascade m traj dt hmode',
        runOuterLoop_waits hwaits, runOuterLoop_waits hwaits']
      rfl

/-- What a tick publishes as references. -/
def published (m : Libm α) (now : Time) : Option (α × α) :=
  (s.controlLoop m now).diagnostics.map fun d => (d.positionCommand, d.velocityCommand)

/-- The references after a tick, but for the velocity command. -/
def tickReferences (m : Libm α) (now : Time) : VelocityPidNode α :=
  ({ s.references with lastLoopTime := now }.dispatch m (s.trajectoryAt m now)
    (s.stepDt now)).node

variable {s} {m : Libm α} {now : Time}

theorem published_lost (h : s.jointIndex < 0) : s.published m now = none := by
  unfold published
  rw [controlLoop_lost h]
  rfl

theorem published_found (h : ¬s.jointIndex < 0) :
    s.published m now = some ((s.trajectoryAt m now).pos, (s.controlLoop m now).node.vCmd) := by
  obtain ⟨d, hd, hpos, hvel⟩ := controlLoop_diagnostics h m now
  unfold published
  rw [hd, Option.map_some, hpos, hvel]

theorem controlLoop_references (h : ¬s.jointIndex < 0) :
    (s.controlLoop m now).node.references =
      { (s.tickReferences m now).references with vCmd := (s.controlLoop m now).node.vCmd } := by
  rw [controlLoop_found h]
  exact dispatch_references { s with lastLoopTime := now } m _ _

theorem controlLoop_vCmd_of_not_fires (h : ¬s.jointIndex < 0)
    (hwaits : s.controlMode = .cascade → s.outerLoopFires m = false) :
    (s.controlLoop m now).node.vCmd = (s.tickReferences m now).vCmd := by
  rw [controlLoop_found h]
  exact dispatch_vCmd_of_not_fires { s with lastLoopTime := now } m _ _ hwaits

theorem controlLoop_vCmd_of_fires (h : ¬s.jointIndex < 0) (hmode : s.controlMode = .cascade)
    (hfires : s.outerLoopFires m = true) :
    (s.controlLoop m now).node.vCmd =
      clamp (s.positionCorrection (s.trajectoryAt m now) (s.stepDt now) +
        (s.trajectoryAt m now).vel) (-s.posOutputLimit) s.posOutputLimit := by
  rw [controlLoop_found h]
  exact dispatch_vCmd_of_fires (s := { s with lastLoopTime := now }) hmode hfires _ _

end References

/-! ## Two nodes with different feedback -/

/-- What one node hears between two other events: messages that list the joint. -/
structure Heard (joint : String) where
  messages : List (JointState ℚ)
  nonempty : messages ≠ []
  listed : ∀ msg ∈ messages, joint ∈ msg.name

/-- The feedback differs; the updates and the ticks are shared. -/
inductive ReferenceEvent (joint : String) where
  | feedback (left right : Heard joint)
  | setParameters (batch : List (Parameter ℚ))
  | controlLoop

section Pair

variable {joint : String}

def hear (s : VelocityPidNode ℚ) (h : Heard joint) : VelocityPidNode ℚ :=
  run jointStateCallback s h.messages

/-- Both nodes after one event. -/
def referenceStep (m : Libm ℚ) (p : VelocityPidNode ℚ × VelocityPidNode ℚ)
    (e : Timed (ReferenceEvent joint)) : VelocityPidNode ℚ × VelocityPidNode ℚ :=
  match e.event with
  | .feedback left right => (p.1.hear left, p.2.hear right)
  | .setParameters batch => (p.1.setParameters batch, p.2.setParameters batch)
  | .controlLoop => ((p.1.controlLoop m e.time).node, (p.2.controlLoop m e.time).node)

/-- A tick publishes the same references on both sides. -/
def SamePublished (m : Libm ℚ) (p : VelocityPidNode ℚ × VelocityPidNode ℚ)
    (e : Timed (ReferenceEvent joint)) : Prop :=
  match e.event with
  | .controlLoop => p.1.published m e.time = p.2.published m e.time
  | _ => True

/-- Where the outer loop fires, both nodes correct their positions alike, or both
end up at the same limit. -/
def SameCorrection (m : Libm ℚ) (p : VelocityPidNode ℚ × VelocityPidNode ℚ)
    (e : Timed (ReferenceEvent joint)) : Prop :=
  match e.event with
  | .controlLoop =>
      ¬p.1.jointIndex < 0 → p.1.controlMode = .cascade → p.1.outerLoopFires m = true →
        let o := p.1.positionCorrection (p.1.trajectoryAt m e.time) (p.1.stepDt e.time)
        let o' := p.2.positionCorrection (p.2.trajectoryAt m e.time) (p.2.stepDt e.time)
        let ff := (p.1.trajectoryAt m e.time).vel
        o = o' ∨ (p.1.posOutputLimit ≤ o + ff ∧ p.1.posOutputLimit ≤ o' + ff) ∨
          (o + ff ≤ -p.1.posOutputLimit ∧ o' + ff ≤ -p.1.posOutputLimit)
  | _ => True

/-- Two nodes that feedback has not set apart. -/
structure SameReferences (joint : String) (p : VelocityPidNode ℚ × VelocityPidNode ℚ) :
    Prop where
  references : p.2.references = p.1.references
  found : p.2.jointIndex < 0 ↔ p.1.jointIndex < 0
  jointName : p.1.jointName = joint
  limits : LimitsValid p.1.toVelocityPidMembers

theorem hear_references (s : VelocityPidNode ℚ) (h : Heard joint) :
    (s.hear h).references = s.references :=
  invariant_run (I := fun t : VelocityPidNode ℚ => t.references = s.references)
    (by intro t msg ht; exact (t.jointStateCallback_references msg).trans ht) rfl h.messages

/-- Once messages that list the joint have come, it is found. -/
theorem hear_found {s : VelocityPidNode ℚ} (hname : s.jointName = joint) (h : Heard joint) :
    ¬(s.hear h).jointIndex < 0 := by
  obtain ⟨messages, hnonempty, hlisted⟩ := h
  obtain ⟨earlier, msg, rfl⟩ := (List.eq_nil_or_concat' messages).resolve_left hnonempty
  unfold hear
  dsimp only
  have hsame : (run jointStateCallback s earlier).jointName = s.jointName :=
    invariant_run (I := fun t : VelocityPidNode ℚ => t.jointName = s.jointName)
      (by intro t x ht; exact (t.jointStateCallback_settings x).jointName.trans ht) rfl earlier
  rw [run_concat, (jointStateCallback_frame _ msg).2.2, locateJoint_neg_iff, hsame, hname, not_not]
  exact hlisted msg (by simp)

theorem SameReferences.feedback {p : VelocityPidNode ℚ × VelocityPidNode ℚ}
    (h : SameReferences joint p) (left right : Heard joint) :
    SameReferences joint (p.1.hear left, p.2.hear right) := by
  have hname' : p.2.jointName = joint :=
    (congrArg VelocityPidNode.jointName h.references).trans h.jointName
  constructor
  · exact (hear_references _ right).trans (h.references.trans (hear_references _ left).symm)
  · exact iff_of_false (hear_found hname' right) (hear_found h.jointName left)
  · exact (congrArg VelocityPidNode.jointName (hear_references p.1 left)).trans h.jointName
  · show LimitsValid (p.1.hear left).references.toVelocityPidMembers
    rw [hear_references]
    exact h.limits

theorem SameReferences.setParameters {p : VelocityPidNode ℚ × VelocityPidNode ℚ}
    (h : SameReferences joint p) (m : Libm ℚ) (batch : List (Parameter ℚ)) :
    SameReferences joint (p.1.setParameters batch, p.2.setParameters batch) := by
  constructor
  · show (p.2.setParameters batch).references = (p.1.setParameters batch).references
    rw [p.2.setParameters_references, h.references, ← p.1.setParameters_references]
  · show (p.2.setParameters batch).jointIndex < 0 ↔ (p.1.setParameters batch).jointIndex < 0
    rw [(p.2.setParameters_joint batch).2.jointIndex, (p.1.setParameters_joint batch).2.jointIndex]
    exact h.found
  · exact (p.1.setParameters_joint batch).1.trans h.jointName
  · exact h.limits.step m ⟨0, .setParameters batch⟩

/-- A tick on either side: the same is published exactly when the same command is
left. -/
theorem SameReferences.published_eq_iff {p : VelocityPidNode ℚ × VelocityPidNode ℚ}
    (h : SameReferences joint p) (m : Libm ℚ) (now : Time) (hfound : ¬p.1.jointIndex < 0) :
    p.1.published m now = p.2.published m now ↔
      (p.1.controlLoop m now).node.vCmd = (p.2.controlLoop m now).node.vCmd := by
  have htraj : p.2.trajectoryAt m now = p.1.trajectoryAt m now := by
    show p.2.references.trajectoryAt m now = p.1.references.trajectoryAt m now
    rw [h.references]
  have hfound' : ¬p.2.jointIndex < 0 := fun hlost => hfound (h.found.mp hlost)
  rw [published_found hfound, published_found hfound', htraj, Option.some_inj, Prod.mk.injEq]
  exact and_iff_right rfl

theorem SameReferences.tickReferences {p : VelocityPidNode ℚ × VelocityPidNode ℚ}
    (h : SameReferences joint p) (m : Libm ℚ) (now : Time) :
    p.2.tickReferences m now = p.1.tickReferences m now := by
  have hsame (s : VelocityPidNode ℚ) :
      s.tickReferences m now = s.references.tickReferences m now := rfl
  rw [hsame p.2, h.references, ← hsame p.1]

/-- The command left by a tick, on either side. -/
theorem SameReferences.vCmd_iff {p : VelocityPidNode ℚ × VelocityPidNode ℚ}
    (h : SameReferences joint p) (m : Libm ℚ) (now : Time) (hfound : ¬p.1.jointIndex < 0) :
    (p.1.controlLoop m now).node.vCmd = (p.2.controlLoop m now).node.vCmd ↔
      SameCorrection m p (⟨now, .controlLoop⟩ : Timed (ReferenceEvent joint)) := by
  have hfound' : ¬p.2.jointIndex < 0 := fun hlost => hfound (h.found.mp hlost)
  have hmode : p.2.controlMode = p.1.controlMode := by
    show p.2.references.controlMode = p.1.references.controlMode
    rw [h.references]
  have hfires : p.2.outerLoopFires m = p.1.outerLoopFires m := by
    show p.2.references.outerLoopFires m = p.1.references.outerLoopFires m
    rw [h.references]
  by_cases hcorrects : p.1.controlMode = .cascade ∧ p.1.outerLoopFires m = true
  · obtain ⟨hmode₁, hfires₁⟩ := hcorrects
    have hlimit : p.2.posOutputLimit = p.1.posOutputLimit := by
      show p.2.references.posOutputLimit = p.1.references.posOutputLimit
      rw [h.references]
    have hff : (p.2.trajectoryAt m now).vel = (p.1.trajectoryAt m now).vel := by
      show (p.2.references.trajectoryAt m now).vel = (p.1.references.trajectoryAt m now).vel
      rw [h.references]
    rw [controlLoop_vCmd_of_fires hfound hmode₁ hfires₁,
      controlLoop_vCmd_of_fires hfound' (hmode.trans hmode₁) (hfires.trans hfires₁), hlimit, hff,
      clamp_eq_clamp_iff h.limits.posOutput, add_left_inj]
    exact ⟨fun hsame _ _ _ => hsame, fun hsame => hsame hfound hmode₁ hfires₁⟩
  · have hwaits : p.1.controlMode = .cascade → p.1.outerLoopFires m = false := fun hcascade =>
      Bool.eq_false_iff.mpr fun hfires₁ => hcorrects ⟨hcascade, hfires₁⟩
    have hwaits' : p.2.controlMode = .cascade → p.2.outerLoopFires m = false := fun hcascade =>
      hfires.trans (hwaits (hmode.symm.trans hcascade))
    refine iff_of_true ?_ fun _ hcascade hfires₁ => absurd ⟨hcascade, hfires₁⟩ hcorrects
    rw [controlLoop_vCmd_of_not_fires hfound hwaits,
      controlLoop_vCmd_of_not_fires hfound' hwaits', h.tickReferences m now]

/-- **What one tick publishes on either side.** -/
theorem SameReferences.samePublished_iff {p : VelocityPidNode ℚ × VelocityPidNode ℚ}
    (h : SameReferences joint p) (m : Libm ℚ) (e : Timed (ReferenceEvent joint)) :
    SamePublished m p e ↔ SameCorrection m p e := by
  obtain ⟨now, event⟩ := e
  cases event with
  | feedback left right => exact Iff.rfl
  | setParameters batch => exact Iff.rfl
  | controlLoop =>
      by_cases hfound : p.1.jointIndex < 0
      · have hnone : p.1.published m now = p.2.published m now := by
          rw [published_lost hfound, published_lost (h.found.mpr hfound)]
        exact iff_of_true hnone fun hnot => absurd hfound hnot
      · exact (h.published_eq_iff m now hfound).trans (h.vCmd_iff m now hfound)

/-- Nodes that publish the same references are not set apart. -/
theorem SameReferences.step {p : VelocityPidNode ℚ × VelocityPidNode ℚ}
    (h : SameReferences joint p) (m : Libm ℚ) (e : Timed (ReferenceEvent joint))
    (hsame : SamePublished m p e) : SameReferences joint (referenceStep m p e) := by
  obtain ⟨now, event⟩ := e
  cases event with
  | feedback left right => exact h.feedback left right
  | setParameters batch => exact h.setParameters m batch
  | controlLoop =>
      have hidx := (p.1.controlLoop_measurements m now).jointIndex
      have hidx' := (p.2.controlLoop_measurements m now).jointIndex
      constructor
      · show (p.2.controlLoop m now).node.references = (p.1.controlLoop m now).node.references
        by_cases hfound : p.1.jointIndex < 0
        · rw [controlLoop_lost hfound, controlLoop_lost (h.found.mpr hfound)]
          exact h.references
        · have hfound' : ¬p.2.jointIndex < 0 := fun hlost => hfound (h.found.mp hlost)
          rw [controlLoop_references hfound, controlLoop_references hfound', h.tickReferences m now,
            (h.published_eq_iff m now hfound).mp hsame]
      · show (p.2.controlLoop m now).node.jointIndex < 0 ↔
          (p.1.controlLoop m now).node.jointIndex < 0
        rw [hidx, hidx']
        exact h.found
      · exact (p.1.controlLoop_settings m now).jointName.trans h.jointName
      · exact h.limits.step m ⟨now, .controlLoop⟩

/-- **When the published references do not depend on feedback.**  Two runs that
differ in the measurements alone publish the same references at every tick exactly
when their outer loops, wherever they fire, correct alike. -/
theorem references_independent_iff (m : Libm ℚ) (l : Launch ℚ) (t₀ t₁ : Time)
    (es : List (Timed (ReferenceEvent (jointNameOf l)))) :
    Along (referenceStep m) (SamePublished m) (start l t₀ t₁, start l t₀ t₁) es ↔
      Along (referenceStep m) (SameCorrection m) (start l t₀ t₁, start l t₀ t₁) es := by
  refine along_iff (I := SameReferences (jointNameOf l)) (fun p e h => h.samePublished_iff m e)
    (fun p e h hsame => h.step m e hsame) ?_ es
  exact ⟨rfl, Iff.rfl, rfl, startMembers_limitsValid l⟩

end Pair

/-! ## A cascade that follows its feedback -/

/-- One message at a position. -/
def heardAt (joint : String) (position : ℚ) : Heard joint where
  messages := [.single 0 joint position 0]
  nonempty := List.cons_ne_nil _ _
  listed := by
    intro msg hmsg
    rw [List.mem_singleton.mp hmsg]
    exact List.mem_singleton.mpr rfl

/-- The default gains in cascade mode, one node at its setpoint and the other 0.1 rad
off: the first tick publishes different velocity commands. -/
theorem cascade_publishes_feedback :
    ¬Along (referenceStep ⟨fun _ => 0, fun _ => 1, fun _ => 0⟩)
      (SamePublished ⟨fun _ => 0, fun _ => 1, fun _ => 0⟩)
      (start (Launch.empty.withString "control_mode" "cascade") 0 0,
        start (Launch.empty.withString "control_mode" "cascade") 0 0)
      [⟨0, .feedback (heardAt "motor_joint" 0) (heardAt "motor_joint" (1 / 10))⟩,
        ⟨10000000, .controlLoop⟩] := by
  intro h
  refine absurd (along_cons.mp (along_cons.mp h).2).1 ?_
  unfold SamePublished
  decide +kernel

end MarineHil.Ports.VelocityPidNode
