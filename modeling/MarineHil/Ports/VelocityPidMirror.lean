import MarineHil.Ports.VelocityPidPassive
import MarineHil.Ports.VelocityPidShadow

/-!
# `invert_output` against its mirror image

With `invert_output` the node flips the signs of the measured position and
velocity, and publishes its torque as it is.  Fed a feedback, the inverted node
therefore goes through the very states of the upright node fed the mirrored
feedback, and publishes the same torque, where a mirror would publish the
opposite one.

## Main results

* `MirrorInv.step`: the two nodes stay in the same state of control.
* `mirrored_iff`: so the inverted node mirrors the upright one along exactly the
  runs on which nothing is demanded, and on all runs only under passive settings.
* `mirror_fails`: the first tick of the default settings, off the setpoint.
-/

namespace MarineHil.Ports.VelocityPidNode

open MarineHil.Verified

/-- One feedback `(position, velocity)` for the inverted node, and its mirror
image for the upright one. -/
structure MirroredSample (joint : String) where
  position : ℚ
  velocity : ℚ
  inverted : JointState ℚ
  upright : JointState ℚ
  invertedCarries : inverted.Carries joint position velocity
  uprightCarries : upright.Carries joint (-position) (-velocity)

inductive MirrorEvent (joint : String) where
  | feedback (x : MirroredSample joint)
  | controlLoop

section Mirror

variable {joint : String}

/-- Both nodes, the inverted one first, after one event. -/
def mirrorStep (m : Libm ℚ) (p : VelocityPidNode ℚ × VelocityPidNode ℚ)
    (e : Timed (MirrorEvent joint)) : VelocityPidNode ℚ × VelocityPidNode ℚ :=
  match e.event with
  | .feedback x => (p.1.jointStateCallback x.inverted, p.2.jointStateCallback x.upright)
  | .controlLoop => ((p.1.controlLoop m e.time).node, (p.2.controlLoop m e.time).node)

/-- A tick of the inverted node publishes the negated torque of the upright one. -/
def Mirrored (m : Libm ℚ) (p : VelocityPidNode ℚ × VelocityPidNode ℚ)
    (e : Timed (MirrorEvent joint)) : Prop :=
  match e.event with
  | .feedback _ => True
  | .controlLoop => (p.1.controlLoop m e.time).torque = -(p.2.controlLoop m e.time).torque

/-- A tick with the joint found demands nothing: the terms of the PID controller
and the feedforward cancel. -/
def NothingDemanded (m : Libm ℚ) (p : VelocityPidNode ℚ × VelocityPidNode ℚ)
    (e : Timed (MirrorEvent joint)) : Prop :=
  match e.event with
  | .feedback _ => True
  | .controlLoop =>
      ¬p.1.jointIndex < 0 →
        p.1.demand m (p.1.trajectoryAt m e.time) (p.1.stepDt e.time) = 0

/-- Two nodes in the same state of control, one inverted and one upright. -/
structure MirrorInv (joint : String) (p : VelocityPidNode ℚ × VelocityPidNode ℚ) : Prop where
  state : p.2.toShadow = p.1.toShadow
  position : p.2.lastMeasuredPos = p.1.lastMeasuredPos
  dt : p.2.dt = p.1.dt
  startTime : p.2.startTime = p.1.startTime
  lastLoopTime : p.2.lastLoopTime = p.1.lastLoopTime
  found : p.2.jointIndex < 0 ↔ p.1.jointIndex < 0
  measured : p.1.lastMeasuredVel = p.1.filteredVel ∧ p.2.lastMeasuredVel = p.2.filteredVel
  inverted : p.1.invertOutput = true ∧ p.2.invertOutput = false
  jointName : p.1.jointName = joint ∧ p.2.jointName = joint
  limits : LimitsValid p.1.toVelocityPidMembers

/-- A feedback and its mirror image are measured alike. -/
theorem MirrorInv.feedback {p : VelocityPidNode ℚ × VelocityPidNode ℚ} (h : MirrorInv joint p)
    (x : MirroredSample joint) :
    MirrorInv joint (p.1.jointStateCallback x.inverted, p.2.jointStateCallback x.upright) := by
  obtain ⟨s, s'⟩ := p
  obtain ⟨hstate, _, hdt, hstart, hlast, _, _, ⟨hinv, hup⟩, ⟨hname, hname'⟩, hlimits⟩ := h
  dsimp only at hstate hdt hstart hlast hinv hup hname hname' hlimits
  have hcarries : x.inverted.Carries s.jointName x.position x.velocity := by
    rw [hname]
    exact x.invertedCarries
  have hcarries' : x.upright.Carries s'.jointName (-x.position) (-x.velocity) := by
    rw [hname']
    exact x.uprightCarries
  have horient (y : ℚ) : s.oriented y = -y := by
    rw [oriented, if_pos hinv]
  have horient' (y : ℚ) : s'.oriented y = y := by
    rw [oriented, if_neg (by rw [hup]; exact Bool.false_ne_true)]
  have hloc : ¬s.locateJoint x.inverted < 0 := by
    rw [s.locateJoint_neg_iff, not_not]
    exact hcarries.listed
  have hloc' : ¬s'.locateJoint x.upright < 0 := by
    rw [s'.locateJoint_neg_iff, not_not]
    exact hcarries'.listed
  rw [jointStateCallback_carries hcarries, jointStateCallback_carries hcarries', horient, horient,
    horient', horient']
  have hfilter : (s'.filterVelocity (-x.velocity)).toShadow =
      (s.filterVelocity (-x.velocity)).toShadow := by
    rw [← filterVelocity_toShadow, ← filterVelocity_toShadow, hstate]
  exact ⟨hfilter, rfl, hdt, hstart, hlast, iff_of_false hloc' hloc, ⟨rfl, rfl⟩, ⟨hinv, hup⟩,
    ⟨hname, hname'⟩, hlimits⟩

/-- A tick publishes the same torque on both sides. -/
theorem MirrorInv.tick {p : VelocityPidNode ℚ × VelocityPidNode ℚ} (h : MirrorInv joint p)
    (m : Libm ℚ) (now : Time) :
    (p.2.controlLoop m now).torque = (p.1.controlLoop m now).torque ∧
      MirrorInv joint ((p.1.controlLoop m now).node, (p.2.controlLoop m now).node) := by
  obtain ⟨s, s'⟩ := p
  obtain ⟨hstate, hpos, hdt, hstart, hlast, hfound, ⟨hmeas, hmeas'⟩, ⟨hinv, hup⟩,
    ⟨hname, hname'⟩, hlimits⟩ := h
  dsimp only at hstate hpos hdt hstart hlast hfound hmeas hmeas' hinv hup hname hname' hlimits ⊢
  by_cases hlost : s.jointIndex < 0
  · rw [controlLoop_lost hlost, controlLoop_lost (hfound.mpr hlost)]
    exact ⟨rfl, hstate, hpos, hdt, hstart, hlast, hfound, ⟨hmeas, hmeas'⟩, ⟨hinv, hup⟩,
      ⟨hname, hname'⟩, hlimits⟩
  · have hlost' : ¬s'.jointIndex < 0 := fun hneg => hlost (hfound.mp hneg)
    have htraj : s'.trajectoryAt m now = s.trajectoryAt m now := by
      show s'.toShadow.trajectory m (seconds (now - s'.startTime)) =
        s.toShadow.trajectory m (seconds (now - s.startTime))
      rw [hstate, hstart]
    have hstep : (s'.stepDt now : ℚ) = s.stepDt now := by
      unfold stepDt
      rw [hlast, hdt]
    -- both ticks are ticks of one shadow
    obtain ⟨htorque, hnode⟩ := controlLoop_toShadow hlost hmeas m now
    obtain ⟨htorque', hnode'⟩ := controlLoop_toShadow hlost' hmeas' m now
    rw [hstate, hpos, htraj, hstep] at htorque' hnode'
    have hset := s.controlLoop_settings m now
    have hset' := s'.controlLoop_settings m now
    have hmeasure := s.controlLoop_measurements m now
    have hmeasure' := s'.controlLoop_measurements m now
    refine ⟨htorque'.symm.trans htorque, ?_⟩
    constructor
    · exact hnode'.symm.trans hnode
    · exact hmeasure'.lastMeasuredPos.trans (hpos.trans hmeasure.lastMeasuredPos.symm)
    · exact hset'.dt.trans (hdt.trans hset.dt.symm)
    · exact hset'.startTime.trans (hstart.trans hset.startTime.symm)
    · exact (controlLoop_lastLoopTime hlost' m now).trans
        (controlLoop_lastLoopTime hlost m now).symm
    · rw [hmeasure.jointIndex, hmeasure'.jointIndex]
      exact hfound
    · rw [hmeasure.lastMeasuredVel, hmeasure'.lastMeasuredVel, hmeasure.filteredVel,
        hmeasure'.filteredVel]
      exact ⟨hmeas, hmeas'⟩
    · rw [hset.members, hset'.members]
      exact ⟨hinv, hup⟩
    · exact ⟨hset.jointName.trans hname, hset'.jointName.trans hname'⟩
    · rw [hset.members]
      exact hlimits

theorem MirrorInv.step {p : VelocityPidNode ℚ × VelocityPidNode ℚ} (h : MirrorInv joint p)
    (m : Libm ℚ) (e : Timed (MirrorEvent joint)) : MirrorInv joint (mirrorStep m p e) := by
  obtain ⟨time, event⟩ := e
  cases event with
  | feedback x => exact h.feedback x
  | controlLoop => exact (h.tick m time).2

/-- A number is its own opposite only at zero. -/
private theorem eq_neg_self_iff_zero {x : ℚ} : x = -x ↔ x = 0 := by
  constructor <;> intro h <;> linarith

/-- A tick is mirrored exactly when nothing is demanded. -/
theorem MirrorInv.tick_mirrored_iff {p : VelocityPidNode ℚ × VelocityPidNode ℚ}
    (h : MirrorInv joint p) (m : Libm ℚ) (e : Timed (MirrorEvent joint)) :
    Mirrored m p e ↔ NothingDemanded m p e := by
  obtain ⟨time, event⟩ := e
  cases event with
  | feedback x => exact Iff.rfl
  | controlLoop =>
      show (p.1.controlLoop m time).torque = -(p.2.controlLoop m time).torque ↔ _
      rw [(h.tick m time).1, eq_neg_self_iff_zero]
      unfold NothingDemanded
      by_cases hlost : p.1.jointIndex < 0
      · rw [controlLoop_lost hlost]
        exact ⟨fun _ hfound => absurd hlost hfound, fun _ => rfl⟩
      · rw [controlLoop_torque_eq_zero_iff hlost h.limits]
        exact ⟨fun hzero _ => hzero, fun hzero => hzero hlost⟩

end Mirror

/-- The inverted and the upright node of a launch. -/
def mirrorStart (l : Launch ℚ) (t₀ t₁ : Time) : VelocityPidNode ℚ × VelocityPidNode ℚ :=
  (start (l.withBool "invert_output" true) t₀ t₁, start (l.withBool "invert_output" false) t₀ t₁)

theorem mirrorStart_inv (l : Launch ℚ) (t₀ t₁ : Time) :
    MirrorInv (jointNameOf l) (mirrorStart l t₀ t₁) := by
  have hlimits : LimitsValid (start l t₀ t₁).toVelocityPidMembers := startMembers_limitsValid l
  have hmeasured : (start l t₀ t₁).lastMeasuredVel = (start l t₀ t₁).filteredVel := rfl
  have hname : (start l t₀ t₁).jointName = jointNameOf l := rfl
  unfold mirrorStart
  rw [start_withBool_invert_eq, start_withBool_invert_eq]
  generalize start l t₀ t₁ = s at hlimits hmeasured hname
  exact ⟨rfl, rfl, rfl, rfl, rfl, Iff.rfl, ⟨hmeasured, hmeasured⟩, ⟨rfl, rfl⟩, ⟨hname, hname⟩,
    ⟨hlimits.torque, hlimits.integral, hlimits.posIntegral, hlimits.posOutput⟩⟩

/-! ## Passive settings, and only those, are mirrored on all runs -/

/-- The feedback under which the upright node measures `y`. -/
def mirroredSample (joint : String) (y : ℚ × ℚ) : MirroredSample joint where
  position := -y.1
  velocity := -y.2
  inverted := .single 0 joint (-y.1) (-y.2)
  upright := .single 0 joint y.1 y.2
  invertedCarries := JointState.single_carries 0 joint (-y.1) (-y.2)
  uprightCarries := by
    rw [neg_neg, neg_neg]
    exact JointState.single_carries 0 joint y.1 y.2

/-- The events of one probe of the upright node. -/
def probeEvents (joint : String) (t : Time) (y : ℚ × ℚ) : List (Timed (MirrorEvent joint)) :=
  [⟨t, .feedback (mirroredSample joint y)⟩, ⟨t, .controlLoop⟩]

/-- On such events the upright node goes through the probes. -/
theorem run_probeEvents {joint : String} (m : Libm ℚ) (t : Time) (ys : List (ℚ × ℚ))
    {p : VelocityPidNode ℚ × VelocityPidNode ℚ} (h : MirrorInv joint p) :
    (run (mirrorStep m) p (ys.flatMap (probeEvents joint t))).2 = run (probe m t) p.2 ys ∧
      MirrorInv joint (run (mirrorStep m) p (ys.flatMap (probeEvents joint t))) := by
  induction ys generalizing p with
  | nil => exact ⟨rfl, h⟩
  | cons y ys ih =>
      rw [List.flatMap_cons, run_append, run_cons]
      have hp : MirrorInv joint (run (mirrorStep m) p (probeEvents joint t y)) :=
        invariant_run (I := MirrorInv joint) (fun q e hq => hq.step m e) h _
      have hprobe : (run (mirrorStep m) p (probeEvents joint t y)).2 = probe m t p.2 y := by
        have horient (x : ℚ) : p.2.oriented x = x := by
          rw [oriented, if_neg (by rw [h.inverted.2]; exact Bool.false_ne_true)]
        unfold probe measure
        rw [horient, horient, h.jointName.2]
        rfl
      rw [← hprobe]
      exact ih hp

/-- Where every run is mirrored, no feedback gives a torque. -/
theorem passive_of_mirrored {l : Launch ℚ} {t₀ t₁ : Time} (m : Libm ℚ)
    (h : ∀ es, Along (mirrorStep m) (Mirrored m) (mirrorStart l t₀ t₁)
      (es : List (Timed (MirrorEvent (jointNameOf l))))) :
    (start (l.withBool "invert_output" false) t₀ t₁).Passive := by
  by_contra hact
  obtain ⟨ys, y, htorque⟩ := exists_acting hact m (lt_add_one t₀)
  have hstart := mirrorStart_inv l t₀ t₁
  obtain ⟨hrun, hinv⟩ := run_probeEvents m t₀ ys hstart
  have htick := h (ys.flatMap (probeEvents (jointNameOf l) t₀) ++
    [⟨t₀, .feedback (mirroredSample (jointNameOf l) y)⟩, ⟨t₀ + 1, .controlLoop⟩])
    (ys.flatMap (probeEvents (jointNameOf l) t₀) ++
      [⟨t₀, .feedback (mirroredSample (jointNameOf l) y)⟩]) ⟨t₀ + 1, .controlLoop⟩ []
    (by simp)
  rw [run_concat] at htick
  generalize hp : run (mirrorStep m) (mirrorStart l t₀ t₁)
    (ys.flatMap (probeEvents (jointNameOf l) t₀)) = p at hrun hinv htick
  have hmeasure : (mirrorStep m p ⟨t₀, .feedback (mirroredSample (jointNameOf l) y)⟩).2 =
      p.2.measure y := by
    have horient (x : ℚ) : p.2.oriented x = x := by
      rw [oriented, if_neg (by rw [hinv.inverted.2]; exact Bool.false_ne_true)]
    unfold measure
    rw [horient, horient, hinv.jointName.2]
    rfl
  have hsame := ((hinv.step m ⟨t₀, .feedback (mirroredSample (jointNameOf l) y)⟩).tick m
    (t₀ + 1)).1
  unfold Mirrored at htick
  dsimp only at htick
  rw [← hsame, eq_neg_self_iff_zero, hmeasure, hrun] at htick
  exact htorque htick

/-- Under passive settings both nodes publish zero. -/
theorem mirrored_of_passive {l : Launch ℚ} {t₀ t₁ : Time} (m : Libm ℚ)
    (h : (start (l.withBool "invert_output" true) t₀ t₁).Passive)
    (es : List (Timed (MirrorEvent (jointNameOf l)))) :
    Along (mirrorStep m) (Mirrored m) (mirrorStart l t₀ t₁) es := by
  refine along_of_invariant (I := fun p => MirrorInv (jointNameOf l) p ∧ p.1.Idle) ?_ ?_
    ⟨mirrorStart_inv l t₀ t₁, h.idle⟩ es
  · intro p e hp
    refine (hp.1.tick_mirrored_iff m e).mpr ?_
    obtain ⟨time, event⟩ := e
    cases event with
    | feedback x => trivial
    | controlLoop =>
        intro _
        exact hp.2.demand_eq_zero m _ _
  · intro p e hp
    refine ⟨hp.1.step m e, ?_⟩
    obtain ⟨time, event⟩ := e
    cases event with
    | feedback x => exact hp.2.jointStateCallback _
    | controlLoop => exact (hp.2.controlLoop m hp.1.limits time).2

/-- `invert_output` is no gain. -/
theorem passive_withBool_invert (l : Launch ℚ) (b : Bool) (t₀ t₁ : Time) :
    (start (l.withBool "invert_output" b) t₀ t₁).Passive ↔ (start l t₀ t₁).Passive := by
  rw [start_withBool_invert_eq]
  generalize start l t₀ t₁ = s
  exact Iff.rfl

/-- **When `invert_output` is a mirror.**  Along a run the inverted node
publishes the negated torque of the upright node at every tick exactly when
nothing is demanded at any tick; and it does so along every run exactly when
the settings are passive. -/
theorem mirrored_iff (m : Libm ℚ) (l : Launch ℚ) (t₀ t₁ : Time) :
    (∀ es : List (Timed (MirrorEvent (jointNameOf l))),
        Along (mirrorStep m) (Mirrored m) (mirrorStart l t₀ t₁) es ↔
          Along (mirrorStep m) (NothingDemanded m) (mirrorStart l t₀ t₁) es) ∧
      ((∀ es : List (Timed (MirrorEvent (jointNameOf l))),
          Along (mirrorStep m) (Mirrored m) (mirrorStart l t₀ t₁) es) ↔
        (start l t₀ t₁).Passive) := by
  constructor
  · intro es
    exact along_iff (I := MirrorInv (jointNameOf l)) (fun p e hp => hp.tick_mirrored_iff m e)
      (fun p e hp _ => hp.step m e) (mirrorStart_inv l t₀ t₁) es
  · constructor
    · intro h
      exact (passive_withBool_invert l false t₀ t₁).mp (passive_of_mirrored m h)
    · intro h es
      exact mirrored_of_passive m ((passive_withBool_invert l true t₀ t₁).mpr h) es

/-- The default settings and the joint 0.1 rad from its setpoint: both nodes
publish the same nonzero torque at the first tick. -/
theorem mirror_fails :
    ¬Along (mirrorStep ⟨fun _ => 0, fun _ => 1, fun _ => 0⟩)
      (Mirrored ⟨fun _ => 0, fun _ => 1, fun _ => 0⟩) (mirrorStart Launch.empty 0 0)
      [⟨0, .feedback (mirroredSample (jointNameOf (Launch.empty : Launch ℚ)) (1 / 10, 0))⟩,
        ⟨10000000, .controlLoop⟩] := by
  intro h
  refine absurd (along_cons.mp (along_cons.mp h).2).1 ?_
  unfold Mirrored
  decide +kernel

end MarineHil.Ports.VelocityPidNode
