import MarineHil.Verified.Rotation
import MarineHil.Ports.FlapParameters

/-!
# The pose of the flap

The motor holds the flap on a hinge along the Y axis.  Two paths of the node write
the flap's state past the motor: `hil` mode turns the flap to the measured angle
before it asks SEA-Stack, and an update of the flap's shape calls
`update_flap_inertia` again, which was written for the flap as it is built, upright
and at rest.  Neither puts the centre of mass where the hinge would have it.

## Main results

* `motorAxis_eq`: the motor turns the flap about the Y axis backwards.
* `build_hinged`: the flap is built on its hinge.
* `hilPose_iff`: exactly when the state SEA-Stack is asked about in `hil` mode is
  the one the motor would bring the flap to.
* `liveUpdate_hinged_iff`: exactly when an update of the shape keeps the flap on its
  hinge in its motion.
* `hingeInertia_iff`: exactly when the flap has the moment of inertia of the physics
  model about the hinge.
-/

namespace MarineHil.Ports

open MarineHil.Verified Matrix

variable {σ κ : Type}

/-! ## The flap in the engine -/

def ChVector3d.toVector3 (v : ChVector3d ℝ) : Vector3 := ![v.x, v.y, v.z]

/-- What the engine promises of the state `flap sys` of the flap: `SetPos` and
`SetPosDt` place and move the centre of mass, `SetRot` and `SetAngVelParent` change
the rotation and the angular velocity alone, and a force does nothing until the
next step of the dynamics. -/
structure Chrono.MovesFlap (ch : Chrono σ ℝ) (flap : σ → RigidBody) : Prop where
  build : ∀ body : FlapBody ℝ, flap (ch.build body) =
    ⟨id, body.pos.toVector3, body.posDt.toVector3, body.angVelParent.toVector3⟩
  setFlap : ∀ (body : FlapBody ℝ) sys, flap (ch.setFlap body sys) =
    ⟨(flap sys).rot, body.pos.toVector3, body.posDt.toVector3, body.angVelParent.toVector3⟩
  setRot : ∀ angle (axis : ChVector3d ℝ) sys, axis.toVector3 ⬝ᵥ axis.toVector3 = 1 →
    flap (ch.setRot angle axis sys) = { flap sys with rot := rotate axis.toVector3 angle }
  setAngVelParent : ∀ (rate : ChVector3d ℝ) sys,
    flap (ch.setAngVelParent rate sys) = { flap sys with angVel := rate.toVector3 }
  addAccumulator : ∀ sys, flap (ch.addAccumulator sys).2 = flap sys
  emptyAccumulator : ∀ i sys, flap (ch.emptyAccumulator i sys) = flap sys
  accumulateTorque : ∀ i torque sys, flap (ch.accumulateTorque i torque sys) = flap sys

def yAxis : Vector3 := ![0, 1, 0]

/-- The z axis of the frame `QuatFromAngleX(CH_PI_2)` of the motor. -/
noncomputable def motorAxis : Vector3 := rotate ![1, 0, 0] (Real.pi / 2) ![0, 0, 1]

/-- From the hinge to the centre of mass of the upright flap. -/
noncomputable def flapArm (length : ℝ) : Vector3 := ![0, 0, length / 2]

/-- The motor holds a flap of the given length. -/
def Chrono.OnMotor (ch : Chrono σ ℝ) (flap : σ → RigidBody) (length : ℝ) (sys : σ) : Prop :=
  flap sys = hinged motorAxis (flapArm length) (ch.getMotorAngle sys) (ch.getMotorAngleDt sys)

section Axes

theorem yAxis_unit : yAxis ⬝ᵥ yAxis = 1 := by simp [yAxis, dotProduct, Fin.sum_univ_three]

theorem yAxis_perp_flapArm (length : ℝ) : yAxis ⬝ᵥ flapArm length = 0 := by
  simp [yAxis, flapArm, dotProduct, Fin.sum_univ_three]

theorem flapArm_eq_zero_iff {length : ℝ} : flapArm length = 0 ↔ length = 0 := by
  constructor
  · intro h
    have hz : length / 2 = 0 := congrFun h 2
    linarith
  · rintro rfl
    funext i
    fin_cases i <;> simp [flapArm]

/-- **The motor turns the flap about the Y axis backwards.** -/
theorem motorAxis_eq : motorAxis = -yAxis := by
  have hcross : ![(1 : ℝ), 0, 0] ⨯₃ ![0, 0, 1] = -yAxis := by
    rw [cross_apply]
    funext i
    fin_cases i <;> simp [yAxis]
  have hperp : ![(1 : ℝ), 0, 0] ⬝ᵥ ![0, 0, 1] = 0 := by simp [dotProduct, Fin.sum_univ_three]
  rw [motorAxis, rotate_of_perp hperp, hcross, Real.cos_pi_div_two, Real.sin_pi_div_two, zero_smul,
    one_smul, zero_add]

theorem rotate_yAxis_iff {θ φ : ℝ} :
    rotate yAxis θ = rotate yAxis φ ↔ Real.cos θ = Real.cos φ ∧ Real.sin θ = Real.sin φ := by
  refine rotate_eq_rotate_iff yAxis_unit (yAxis_perp_flapArm 1) ?_
  exact mt flapArm_eq_zero_iff.mp one_ne_zero

end Axes

theorem toVector3_zero : (⟨0, 0, 0⟩ : ChVector3d ℝ).toVector3 = 0 := by
  funext i
  fin_cases i <;> rfl

/-- An angular velocity about the Y axis. -/
theorem toVector3_yAxis (rate : ℝ) : (⟨0, rate, 0⟩ : ChVector3d ℝ).toVector3 = rate • yAxis := by
  funext i
  fin_cases i <;> simp [ChVector3d.toVector3, yAxis]

namespace ChronoFlapNode

theorem flapBody_pos (length width mass : ℝ) :
    (flapBody length width mass).pos.toVector3 = flapArm length := by
  have htwo : (lit 2 : ℝ) = 2 := by norm_num [lit_real]
  unfold ChVector3d.toVector3 flapArm
  rw [← htwo]
  rfl

/-- The flap is built on its hinge, upright and at rest. -/
theorem build_hinged {ch : Chrono σ ℝ} {flap : σ → RigidBody} (hch : ch.MovesFlap flap)
    (length width mass : ℝ) :
    flap (ch.build (flapBody length width mass)) = hinged motorAxis (flapArm length) 0 0 := by
  have hrest : (flapBody length width mass).posDt.toVector3 = 0 ∧
      (flapBody length width mass).angVelParent.toVector3 = 0 :=
    ⟨toVector3_zero, toVector3_zero⟩
  rw [hch.build, flapBody_pos, hrest.1, hrest.2, hinged, rotate_zero, zero_smul, map_zero,
    LinearMap.zero_apply]
  rfl

/-! ## Updates of the shape -/

section Update

variable {ch : Chrono σ ℝ} {flap : σ → RigidBody} {s : ChronoFlapNode σ κ ℝ}
variable {batch : List (Parameter ℝ)}

/-- A batch that does not change the body leaves the length. -/
theorem setParameters_flapLength (hbody : bodyNeedsUpdate batch = false) (ch : Chrono σ ℝ)
    (s : ChronoFlapNode σ κ ℝ) : (s.setParameters ch batch).flapLength = s.flapLength := by
  have hnone : lastSome (Parameter.doubleNamed (α := ℝ) "flap_length_m") batch = none := by
    rw [lastSome_eq_none_iff]
    intro p hp
    have hname := of_decide_eq_false (eq_false_of_ne_true (List.any_eq_false.mp hbody p hp))
    refine if_neg ?_
    rintro hlength
    rw [hlength] at hname
    exact hname (by decide)
  have h := get_setParameters .flapLength ch s batch
  rw [FlapMember.name, hnone, Option.getD_none, ite_self] at h
  exact h

/-- What an accepted batch makes of the flap: it leaves it alone, or lifts it upright
and stops it, whatever its rotation. -/
theorem setParameters_flap (hch : ch.MovesFlap flap) (haccepts : s.acceptsBatch batch = true) :
    flap (s.setParameters ch batch).sys =
      if bodyNeedsUpdate batch then
        ⟨(flap s.sys).rot, flapArm (s.setParameters ch batch).flapLength, 0, 0⟩
      else flap s.sys := by
  have hrun (t : ChronoFlapNode σ κ ℝ) : (run applyParameter t batch).sys = t.sys :=
    invariant_run (I := fun u : ChronoFlapNode σ κ ℝ => u.sys = t.sys)
      (by intro u p hu; exact hu) rfl batch
  have hshadow (t : ChronoFlapNode σ κ ℝ) (changed : Bool) :
      (t.refreshShadow changed).sys = t.sys ∧
        (t.refreshShadow changed).flapLength = t.flapLength := by
    cases changed <;> exact ⟨rfl, rfl⟩
  unfold setParameters
  rw [if_pos haccepts, onApplyParameters, (hshadow _ _).1, (hshadow _ _).2]
  cases hbody : bodyNeedsUpdate batch with
  | false =>
      rw [if_neg Bool.false_ne_true]
      exact congrArg flap (hrun _)
  | true =>
      rw [if_pos rfl, refreshBody, if_pos rfl, hch.setFlap, flapBody_pos, hrun]
      show RigidBody.mk _ _ (ChVector3d.toVector3 ⟨0, 0, 0⟩) (ChVector3d.toVector3 ⟨0, 0, 0⟩) = _
      rw [toVector3_zero]

/-- **An update of the shape keeps the flap on its hinge in its motion exactly at
rest and upright.** -/
theorem liveUpdate_hinged_iff (hch : ch.MovesFlap flap)
    (haccepts : s.acceptsBatch batch = true) (hbody : bodyNeedsUpdate batch = true) {θ ω : ℝ}
    (hhinged : flap s.sys = hinged yAxis (flapArm s.flapLength) θ ω) :
    flap (s.setParameters ch batch).sys =
        hinged yAxis (flapArm (s.setParameters ch batch).flapLength) θ ω ↔
      ω = 0 ∧ (Real.cos θ = 1 ∨ (s.setParameters ch batch).flapLength = 0) := by
  generalize hlength : (s.setParameters ch batch).flapLength = length
  have hafter : flap (s.setParameters ch batch).sys = turned yAxis (flapArm length) θ 0 := by
    rw [setParameters_flap hch haccepts, if_pos hbody, hhinged, hlength, turned, zero_smul]
    rfl
  rw [hafter, turned_eq_hinged_iff yAxis_unit (yAxis_perp_flapArm length), flapArm_eq_zero_iff]
  constructor
  · rintro ⟨-, hpos, -, hrate⟩
    exact ⟨hrate.symm, hpos⟩
  · rintro ⟨rfl, hpos⟩
    exact ⟨rfl, hpos, Or.inl rfl, rfl⟩

end Update

/-! ## The state of `hil` mode -/

section Hil

variable {env : FlapEnvironment σ κ ℝ} {flap : σ → RigidBody}

/-- In `hil` mode the centre of mass stays where `update_flap_inertia` puts it. -/
structure Standing (flap : σ → RigidBody) (s : ChronoFlapNode σ κ ℝ) : Prop where
  mode : s.mode = .hil
  pos : (flap s.sys).pos = flapArm s.flapLength
  posDt : (flap s.sys).posDt = 0

/-- The adapter's constructor leaves the flap alone. -/
theorem new_flap (hch : env.chrono.MovesFlap flap) {p : SeaStackHydroParams ℝ} {sys : σ}
    {built : SeaStackHydroAdapter κ ℝ × σ}
    (hnew : SeaStackHydroAdapter.new env.chrono env.seaStack p sys = .ok built) :
    flap built.2 = flap sys := by
  unfold SeaStackHydroAdapter.new at hnew
  split at hnew
  · cases hnew
  · split at hnew
    · cases hbuild : env.seaStack.build p.h5Path p.seaState with
      | error text =>
          rw [hbuild] at hnew
          cases hnew
      | ok coupler =>
          rw [hbuild] at hnew
          obtain rfl := Except.ok.inj hnew
          exact hch.addAccumulator sys
    · cases hnew

/-- So does its step. -/
theorem hydroStep_flap (hch : env.chrono.MovesFlap flap) {s : ChronoFlapNode σ κ ℝ} {sys : σ}
    {t : ℝ} {h : HydroStep σ κ ℝ} (hstep : s.hydroStep env sys t = some h) :
    flap h.sys = flap sys := by
  unfold hydroStep at hstep
  split at hstep
  · split at hstep
    · obtain rfl := Option.some.inj hstep
      exact (hch.accumulateTorque _ _ _).trans (hch.emptyAccumulator _ _)
    · cases hstep
  · cases hstep

/-- The state SEA-Stack is asked about. -/
theorem measuredSystem_flap (hch : env.chrono.MovesFlap flap) (s : ChronoFlapNode σ κ ℝ) :
    flap (s.measuredSystem env.chrono) =
      ⟨rotate yAxis s.hwPos, (flap s.sys).pos, (flap s.sys).posDt, s.hwVel • yAxis⟩ := by
  have hone : (⟨0, lit 1, 0⟩ : ChVector3d ℝ).toVector3 = yAxis := by
    have hlit : (lit 1 : ℝ) = 1 := by norm_num [lit_real]
    rw [hlit, toVector3_yAxis, one_smul]
  have hunit := yAxis_unit
  rw [← hone] at hunit
  rw [measuredSystem, hch.setAngVelParent, hch.setRot _ _ _ hunit, hone, toVector3_yAxis]

theorem Standing.of_eq {s s' : ChronoFlapNode σ κ ℝ} (h : s.Standing flap)
    (hmode : s'.mode = s.mode) (hlength : s'.flapLength = s.flapLength)
    (hpos : (flap s'.sys).pos = (flap s.sys).pos)
    (hposDt : (flap s'.sys).posDt = (flap s.sys).posDt) : s'.Standing flap := by
  refine ⟨hmode.trans h.mode, ?_, hposDt.trans h.posDt⟩
  rw [hpos, h.pos, hlength]

theorem standing_start (hch : env.chrono.MovesFlap flap) (l : Launch ℝ) (t₀ : Time)
    (hmode : (start env l t₀).mode = .hil) : (start env l t₀).Standing flap := by
  have hsys : flap (start env l t₀).sys =
      flap (env.chrono.build (flapBody ((declared l).getDouble "flap_length_m")
        ((declared l).getDouble "flap_width_m") ((declared l).getDouble "flap_mass_kg"))) := by
    show flap (startHydro env (declared l) _).2 = _
    unfold startHydro
    split
    · rfl
    · split
      · rename_i built hnew
        exact new_flap hch hnew
      · rfl
  rw [hch.build, flapBody_pos] at hsys
  refine ⟨hmode, ?_, ?_⟩
  · rw [hsys]
    rfl
  · rw [hsys]
    exact toVector3_zero

/-- A tick leaves the centre of mass. -/
theorem Standing.tick (hch : env.chrono.MovesFlap flap) {s : ChronoFlapNode σ κ ℝ}
    (h : s.Standing flap) (now : Time) : (s.tick env now).node.Standing flap := by
  have hlength : (s.tick env now).node.flapLength = s.flapLength :=
    get_of_settings .flapLength (s.tick_settings env now)
  have hmode : (s.tick env now).node.mode = s.mode :=
    s.step_mode env ⟨now, .tick⟩
  have hsys : (flap (s.tick env now).node.sys).pos = (flap s.sys).pos ∧
      (flap (s.tick env now).node.sys).posDt = (flap s.sys).posDt := by
    rw [ChronoFlapNode.tick, if_pos h.mode]
    show (flap (s.afterHydro (if s.feedbackOk now then _ else none)).sys).pos = _ ∧
      (flap (s.afterHydro (if s.feedbackOk now then _ else none)).sys).posDt = _
    split
    · cases hstep : s.measuredHydroStep env now with
      | none => exact ⟨rfl, rfl⟩
      | some r =>
          show (flap r.sys).pos = _ ∧ (flap r.sys).posDt = _
          rw [hydroStep_flap hch hstep, measuredSystem_flap hch]
          exact ⟨rfl, rfl⟩
    · exact ⟨rfl, rfl⟩
  exact h.of_eq hmode hlength hsys.1 hsys.2

theorem Standing.setParameters (hch : env.chrono.MovesFlap flap) {s : ChronoFlapNode σ κ ℝ}
    (h : s.Standing flap) (batch : List (Parameter ℝ)) :
    (s.setParameters env.chrono batch).Standing flap := by
  have hmode : (s.setParameters env.chrono batch).mode = s.mode :=
    s.step_mode env ⟨0, .setParameters batch⟩
  by_cases haccepts : s.acceptsBatch batch = true
  · have hflap := setParameters_flap hch haccepts
    cases hbody : bodyNeedsUpdate batch with
    | false =>
        rw [hbody, if_neg Bool.false_ne_true] at hflap
        refine h.of_eq hmode (setParameters_flapLength hbody _ s) ?_ ?_
        · rw [hflap]
        · rw [hflap]
    | true =>
        rw [hbody, if_pos rfl] at hflap
        refine ⟨hmode.trans h.mode, ?_, ?_⟩
        · rw [hflap]
        · rw [hflap]
  · rw [ChronoFlapNode.setParameters, if_neg haccepts]
    exact h

theorem Standing.step (hch : env.chrono.MovesFlap flap) {s : ChronoFlapNode σ κ ℝ}
    (h : s.Standing flap) (e : Timed (FlapEvent ℝ)) : (s.step env e).Standing flap := by
  obtain ⟨time, event⟩ := e
  have hquiet (htick : event ≠ .tick) (hbatch : ∀ batch, event ≠ .setParameters batch) :
      (s.step env ⟨time, event⟩).Standing flap := by
    have hsame := s.step_sameSimulation env (e := ⟨time, event⟩) htick hbatch
    have hlength := s.step_settings_of_not_batch env (e := ⟨time, event⟩) hbatch
    refine h.of_eq (s.step_mode env _) (get_of_settings .flapLength hlength) ?_ ?_
    · rw [hsame.sys]
    · rw [hsame.sys]
  cases event with
  | tick => exact h.tick hch time
  | setParameters batch => exact h.setParameters hch batch
  | _ => exact hquiet (by rintro ⟨⟩) (by rintro _ ⟨⟩)

theorem standing_run (hch : env.chrono.MovesFlap flap) (l : Launch ℝ) (t₀ : Time)
    (hmode : (start env l t₀).mode = .hil) (es : List (Timed (FlapEvent ℝ))) :
    (run (step env) (start env l t₀) es).Standing flap :=
  invariant_run (I := Standing flap) (by intro s e h; exact h.step hch e)
    (standing_start hch l t₀ hmode) es

/-- **What SEA-Stack is asked about in `hil` mode is the motor's state exactly at rest
upright**, or hanging down if the flap has no length. -/
theorem Standing.measuredSystem_iff (hch : env.chrono.MovesFlap flap) {s : ChronoFlapNode σ κ ℝ}
    (h : s.Standing flap) (sil : σ) (hmotor : env.chrono.OnMotor flap s.flapLength sil)
    (hangle : env.chrono.getMotorAngle sil = s.hwPos)
    (hrate : env.chrono.getMotorAngleDt sil = s.hwVel) :
    flap (s.measuredSystem env.chrono) = flap sil ↔
      s.hwVel = 0 ∧ Real.sin s.hwPos = 0 ∧ (Real.cos s.hwPos = 1 ∨ s.flapLength = 0) := by
  have hmeasured : flap (s.measuredSystem env.chrono) =
      turned yAxis (flapArm s.flapLength) s.hwPos s.hwVel := by
    rw [measuredSystem_flap hch, h.pos, h.posDt, turned]
  rw [hmeasured, hmotor, hangle, hrate, motorAxis_eq, hinged_neg_axis,
    turned_eq_hinged_iff yAxis_unit (yAxis_perp_flapArm _), rotate_yAxis_iff, flapArm_eq_zero_iff,
    Real.cos_neg, Real.sin_neg]
  constructor
  · rintro ⟨⟨-, hsin⟩, hpos, -, hvel⟩
    exact ⟨by linarith, by linarith, hpos⟩
  · rintro ⟨hvel, hsin, hpos⟩
    rw [hvel, hsin, neg_zero]
    exact ⟨⟨rfl, rfl⟩, hpos, Or.inl rfl, rfl⟩

/-- **The two paths agree exactly at rest and upright.**  After any run of `hil` mode,
what SEA-Stack is asked about is what the motor would hold at the measured angle and
rate exactly when the rate is zero, the sine of the angle is zero, and its cosine is
one or the flap has no length. -/
theorem hilPose_iff (hch : env.chrono.MovesFlap flap) (l : Launch ℝ) (t₀ : Time)
    (hmode : (start env l t₀).mode = .hil) (es : List (Timed (FlapEvent ℝ)))
    {s : ChronoFlapNode σ κ ℝ} (hs : s = run (step env) (start env l t₀) es) (sil : σ)
    (hmotor : env.chrono.OnMotor flap s.flapLength sil)
    (hangle : env.chrono.getMotorAngle sil = s.hwPos)
    (hrate : env.chrono.getMotorAngleDt sil = s.hwVel) :
    flap (s.measuredSystem env.chrono) = flap sil ↔
      s.hwVel = 0 ∧ Real.sin s.hwPos = 0 ∧ (Real.cos s.hwPos = 1 ∨ s.flapLength = 0) := by
  have hstanding := standing_run hch l t₀ hmode es
  rw [← hs] at hstanding
  exact hstanding.measuredSystem_iff hch sil hmotor hangle hrate

end Hil

/-! ## An engine that keeps poses -/

/-- The flap's state, and what the motor reads. -/
structure Kinematics where
  flap : RigidBody
  motorAngle : ℝ
  motorAngleDt : ℝ

/-- An engine without dynamics, and calm water. -/
noncomputable def kinematic : FlapEnvironment Kinematics Unit ℝ where
  libm := ⟨Real.sin, Real.cos, fun _ => 0⟩
  chrono :=
    { Chrono.still ⟨⟨id, 0, 0, 0⟩, 0, 0⟩ with
      build := fun body => ⟨⟨id, body.pos.toVector3, body.posDt.toVector3,
        body.angVelParent.toVector3⟩, 0, 0⟩
      setFlap := fun body sys => { sys with flap := ⟨sys.flap.rot, body.pos.toVector3,
        body.posDt.toVector3, body.angVelParent.toVector3⟩ }
      setRot := fun angle axis sys =>
        { sys with flap := { sys.flap with rot := rotate axis.toVector3 angle } }
      setAngVelParent := fun rate sys =>
        { sys with flap := { sys.flap with angVel := rate.toVector3 } }
      getPos := fun sys => ⟨sys.flap.pos 0, sys.flap.pos 1, sys.flap.pos 2⟩
      getMotorAngle := Kinematics.motorAngle
      getMotorAngleDt := Kinematics.motorAngleDt }
  seaStack :=
    { fileExists := fun _ => true
      build := fun _ _ => .ok ()
      evaluate := fun _ _ _ => ([], ())
      getElevation := fun _ _ _ => 0 }

theorem kinematic_movesFlap : kinematic.chrono.MovesFlap Kinematics.flap where
  build _ := rfl
  setFlap _ _ := rfl
  setRot _ _ _ _ := rfl
  setAngVelParent _ _ := rfl
  addAccumulator _ := rfl
  emptyAccumulator _ _ := rfl
  accumulateTorque _ _ _ := rfl

/-- `hil` mode with SEA-Stack engaged. -/
def coupledLaunch : Launch ℝ :=
  ((Launch.empty.withString "mode" "hil").withString "seastack_h5_path" "flap.h5").withBool
    "hydro_engaged_default" true

/-- The node of `hil` mode once it has received an angle and a rate. -/
noncomputable def measuredNode (angle rate : ℝ) : ChronoFlapNode Kinematics Unit ℝ :=
  run (step kinematic) (start kinematic coupledLaunch 0)
    [⟨0, .jointState ⟨0, ["motor_joint"], [angle], [rate]⟩⟩]

/-- The flap on the motor. -/
noncomputable def motorState (length angle rate : ℝ) : Kinematics :=
  ⟨hinged motorAxis (flapArm length) angle rate, angle, rate⟩

theorem coupled_mode : (start kinematic coupledLaunch 0).mode = .hil := by decide +kernel

theorem measuredNode_hw (angle rate : ℝ) :
    (measuredNode angle rate).hwPos = angle ∧ (measuredNode angle rate).hwVel = rate := by
  have hjoint : (start kinematic coupledLaunch 0).jointName = "motor_joint" := by decide +kernel
  have hstep : measuredNode angle rate =
      if (start kinematic coupledLaunch 0).mode = .hil then
        (start kinematic coupledLaunch 0).jointStateCallback
          ⟨0, ["motor_joint"], [angle], [rate]⟩
      else start kinematic coupledLaunch 0 := rfl
  rw [hstep, if_pos coupled_mode, jointStateCallback, hjoint]
  exact ⟨rfl, rfl⟩

/-- Upright and at rest the two paths agree. -/
theorem hilPose_upright :
    ((measuredNode 0 0).measuredSystem kinematic.chrono).flap =
      (motorState (measuredNode 0 0).flapLength 0 0).flap := by
  obtain ⟨hpos, hvel⟩ := measuredNode_hw 0 0
  refine (hilPose_iff (s := measuredNode 0 0) kinematic_movesFlap coupledLaunch 0 coupled_mode _
    rfl (motorState (measuredNode 0 0).flapLength 0 0) rfl hpos.symm hvel.symm).mpr ?_
  rw [hpos, hvel, Real.sin_zero, Real.cos_zero]
  exact ⟨rfl, rfl, Or.inl rfl⟩

/-- Half a radian forward and at rest, `hil` mode asks SEA-Stack about a flap turned the
other way, with its centre of mass still upright. -/
theorem hilPose_halfRadian :
    ((measuredNode (1 / 2) 0).measuredSystem kinematic.chrono).flap ≠
      (motorState (measuredNode (1 / 2) 0).flapLength (1 / 2) 0).flap := by
  obtain ⟨hpos, hvel⟩ := measuredNode_hw (1 / 2) 0
  have hstanding : (measuredNode (1 / 2) 0).Standing Kinematics.flap :=
    standing_run kinematic_movesFlap coupledLaunch 0 coupled_mode _
  intro hsame
  have h := (hstanding.measuredSystem_iff kinematic_movesFlap
    (motorState (measuredNode (1 / 2) 0).flapLength (1 / 2) 0) rfl hpos.symm hvel.symm).mp hsame
  rw [hpos] at h
  have hsin : 0 < Real.sin (1 / 2) :=
    Real.sin_pos_of_pos_of_lt_pi (by norm_num) (by linarith [Real.two_le_pi])
  exact hsin.ne' h.2.1

/-- The node of `sil` mode with the flap on its hinge. -/
noncomputable def swingingNode (angle rate : ℝ) : ChronoFlapNode Kinematics Unit ℝ :=
  { start kinematic (Launch.empty.withString "mode" "sil") 0 with
    sys := ⟨hinged yAxis (flapArm (start kinematic (Launch.empty.withString "mode" "sil")
      0).flapLength) angle rate, -angle, -rate⟩ }

/-- A longer flap. -/
noncomputable def lengthened : List (Parameter ℝ) := [⟨"flap_length_m", .double (2 / 5)⟩]

theorem lengthened_body : bodyNeedsUpdate lengthened = true := rfl

theorem swinging_accepts (angle rate : ℝ) :
    (swingingNode angle rate).acceptsBatch lengthened = true := by
  have hpos : nonPositive (2 / 5 : ℝ) = false := decide_eq_false (not_le.mpr (by positivity))
  have hvalid : onValidateParameters lengthened = some .success := by
    simp [lengthened, onValidateParameters, validateAll, validateParameter, checkImmutable,
      checkShadowControlMode, checkFlapGeometry, checkJointDynamics, checkShadowPositive,
      checkFilterAlpha, checkHilPositive, checkHilNonNegative, checkDouble, kImmutableParams,
      flapGeometry, jointDynamics, kShadowPositive, kHilPositiveParams, kHilNonNegativeParams, hpos,
      SetParametersResult.success]
  have htypes : (swingingNode angle rate).parameters.types "flap_length_m" = some .double :=
    declared_types .flapLength (Launch.empty.withString "mode" "sil")
  have hadmits : (swingingNode angle rate).parameters.admits lengthened = true := by
    rw [ParameterStore.admits, lengthened, List.all_cons, List.all_nil, Bool.and_true]
    exact decide_eq_true htypes
  rw [acceptsBatch, accepts, hadmits, hvalid]
  rfl

/-- Lengthening the flap while it stands upright and at rest keeps it on its hinge. -/
theorem liveUpdate_upright :
    ((swingingNode 0 0).setParameters kinematic.chrono lengthened).sys.flap =
      hinged yAxis (flapArm ((swingingNode 0 0).setParameters kinematic.chrono
        lengthened).flapLength) 0 0 :=
  (liveUpdate_hinged_iff kinematic_movesFlap (swinging_accepts 0 0) lengthened_body rfl).mpr
    ⟨rfl, Or.inl Real.cos_zero⟩

/-- Lengthening it while it swings stops it. -/
theorem liveUpdate_swinging :
    (swingingNode (1 / 2) 1).sys.flap =
        hinged yAxis (flapArm (swingingNode (1 / 2) 1).flapLength) (1 / 2) 1 ∧
      (swingingNode (1 / 2) 1).acceptsBatch lengthened = true ∧
      ((swingingNode (1 / 2) 1).setParameters kinematic.chrono lengthened).sys.flap ≠
        hinged yAxis (flapArm ((swingingNode (1 / 2) 1).setParameters kinematic.chrono
          lengthened).flapLength) (1 / 2) 1 := by
  have haccepts := swinging_accepts (1 / 2) 1
  refine ⟨rfl, haccepts, ?_⟩
  have hflap := setParameters_flap kinematic_movesFlap haccepts
  rw [if_pos lengthened_body] at hflap
  intro hhinged
  have hangVel := congrArg RigidBody.angVel (hflap.symm.trans hhinged)
  have hrate : (0 : ℝ) = 1 * 1 := congrFun hangVel 1
  norm_num at hrate

/-! ## The moment of inertia -/

/-- The moment of inertia about the hinge: about the Y axis through the centre of mass,
and the parallel-axis share of its distance. -/
def hingeInertia (body : FlapBody ℝ) : ℝ :=
  body.inertiaXX.y + body.mass * (body.pos.x ^ 2 + body.pos.z ^ 2)

/-- The moment the code sets about the Y axis has the width where a plate on this
hinge has its length. -/
theorem hingeInertia_flapBody (length width mass : ℝ) :
    hingeInertia (flapBody length width mass) =
      1 / 3 * mass * length ^ 2 + mass * (width ^ 2 - length ^ 2) / 12 := by
  unfold hingeInertia flapBody
  simp only [lit_real]
  push_cast
  ring

/-- **The flap has the inertia of the physics model exactly when it is square.** -/
theorem hingeInertia_iff {length width mass : ℝ} (hlength : 0 < length) (hwidth : 0 < width)
    (hmass : 0 < mass) :
    hingeInertia (flapBody length width mass) = 1 / 3 * mass * length ^ 2 ↔ width = length := by
  rw [hingeInertia_flapBody, add_eq_left, div_eq_zero_iff, or_iff_left (by norm_num),
    mul_eq_zero_iff_left hmass.ne', sub_eq_zero]
  exact pow_left_inj₀ hwidth.le hlength.le two_ne_zero

theorem hingeInertia_square :
    hingeInertia (flapBody 0.3 0.3 0.197) = 1 / 3 * 0.197 * 0.3 ^ 2 :=
  (hingeInertia_iff (by norm_num) (by norm_num) (by norm_num)).mpr rfl

/-- A flap twice as wide as it is long. -/
theorem hingeInertia_wide :
    hingeInertia (flapBody 0.3 0.6 0.197) ≠ 1 / 3 * 0.197 * 0.3 ^ 2 := by
  rw [hingeInertia_flapBody]
  norm_num

end ChronoFlapNode

end MarineHil.Ports
