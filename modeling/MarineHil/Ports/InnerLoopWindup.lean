import MarineHil.Ports.PidRuns
import MarineHil.Ports.VelocityPidInvariants

/-!
# The anti-windup of the velocity loop

`run_inner_loop` adds feedforward to the output of its PID controller, clamps the sum
at the torque limit, and notes in `saturated` that it did, but not on which side.  The
controller then freezes its integral where error and integral have the same sign,
which is the saturated side only when the integral is what saturates the loop.

The node and the shadow controller both drive a `VelocityLoop`; what is proved of
any such loop holds of both.

## Main results

* `freezes_iff`: one call after a clamped one.
* `antiWindup_iff`: over the runs of both loops.
-/

namespace MarineHil.Ports

open MarineHil.Verified

/-- What one call of `run_inner_loop` is given. -/
structure InnerCall (α : Type) where
  velSetpoint : α
  accelFf : α
  measurement : α
  dt : α

/-- A loop around a PID controller, whose final clamp decides on the saturation flag. -/
structure VelocityLoop (σ : Type) where
  pid : σ → PidController ℚ
  torqueLimit : σ → ℚ
  call : σ → InnerCall ℚ → σ
  torque : σ → InnerCall ℚ → ℚ
  pid_call : ∀ s k, pid (call s k) =
    { ((pid s).compute k.velSetpoint k.measurement k.dt).pid with
      saturated := decide (torqueLimit s ≤ |torque s k|) }

namespace VelocityLoop

variable {σ : Type} (loop : VelocityLoop σ)

/-- The error a call sees. -/
def error (s : σ) (k : InnerCall ℚ) : ℚ := (loop.pid s).error k.velSetpoint k.measurement

/-- The call `k₀` is clamped at the limit that integrating at the next call `k` would
push further against. -/
def PushesOn (s : σ) (k₀ k : InnerCall ℚ) : Prop :=
  (loop.torque s k₀ = loop.torqueLimit s ∧ 0 < loop.error (loop.call s k₀) k) ∨
    (loop.torque s k₀ = -loop.torqueLimit s ∧ loop.error (loop.call s k₀) k < 0)

/-- `P` holds wherever a run calls the loop in the state `s` after a call that was
clamped on the side of the present error. -/
def WherePushed (P : σ → InnerCall ℚ → Prop) (s : σ) (ks : List (InnerCall ℚ)) : Prop :=
  ∀ pre k₀ k post, ks = pre ++ k₀ :: k :: post →
    loop.PushesOn (run loop.call s pre) k₀ k → P (loop.call (run loop.call s pre) k₀) k

/-- The call leaves the integral unchanged. -/
def LeavesIntegral (s : σ) (k : InnerCall ℚ) : Prop :=
  (loop.pid (loop.call s k)).integral = (loop.pid s).integral

/-- The integral is on the side of the error, or may not leave zero. -/
def SameSide (s : σ) (k : InnerCall ℚ) : Prop :=
  0 < loop.error s k * (loop.pid s).integral ∨ (loop.pid s).integralLimit = 0

/-- The integral is within its limit. -/
def WithinLimit (s : σ) : Prop := |(loop.pid s).integral| ≤ (loop.pid s).integralLimit

section Call

variable {loop} {s : σ} {k k₀ : InnerCall ℚ}

theorem PushesOn.error_ne_zero (h : loop.PushesOn s k₀ k) :
    loop.error (loop.call s k₀) k ≠ 0 := by
  rcases h with ⟨_, hpos⟩ | ⟨_, hneg⟩
  · exact hpos.ne'
  · exact hneg.ne

/-- A clamped call sets the flag. -/
theorem PushesOn.saturated (h : loop.PushesOn s k₀ k) :
    (loop.pid (loop.call s k₀)).saturated = true := by
  rw [loop.pid_call]
  refine decide_eq_true ?_
  rcases h with ⟨hmax, _⟩ | ⟨hmin, _⟩
  · rw [hmax]
    exact le_abs_self _
  · rw [hmin, abs_neg]
    exact le_abs_self _

theorem integralLimit_call (s : σ) (k : InnerCall ℚ) :
    (loop.pid (loop.call s k)).integralLimit = (loop.pid s).integralLimit := by
  rw [loop.pid_call]
  rfl

theorem integral_call (s : σ) (k : InnerCall ℚ) : (loop.pid (loop.call s k)).integral =
    ((loop.pid s).compute k.velSetpoint k.measurement k.dt).pid.integral := by
  rw [loop.pid_call]

/-- A call keeps the integral within its limit. -/
theorem WithinLimit.call (h : loop.WithinLimit s) (k : InnerCall ℚ) :
    loop.WithinLimit (loop.call s k) := by
  have hlimited := PidController.limited_of_abs_le h k.velSetpoint k.measurement k.dt
  unfold WithinLimit
  rw [integral_call, integralLimit_call, ← fabs_rat]
  exact hlimited.stored

/-- A call stores the integral it used. -/
theorem WithinLimit.integral_call (h : loop.WithinLimit s) (k : InnerCall ℚ) :
    (loop.pid (loop.call s k)).integral = (loop.pid s).nextIntegral (loop.error s k) k.dt := by
  have hlimited := PidController.limited_of_abs_le h k.velSetpoint k.measurement k.dt
  have hused := hlimited.used
  rw [fabs_rat] at hused
  have hmem := abs_le.mp hused
  rw [VelocityLoop.integral_call]
  unfold PidController.compute
  dsimp only
  split_ifs with hleaves
  · exact clamp_of_mem hmem.1 hmem.2
  · rfl

end Call

end VelocityLoop

/-- Integrating against the sign of the integral moves it, unless it may not move. -/
theorem clamp_step_eq_iff {i x b : ℚ} (hi : |i| ≤ b) (hx : x ≠ 0) (hsign : x * i ≤ 0) :
    clamp (i + x) (-b) b = i ↔ b = 0 := by
  obtain ⟨hlo, hhi⟩ := abs_le.mp hi
  have hord : -b ≤ b := by linarith
  constructor
  · intro h
    rcases lt_or_gt_of_ne hx with hneg | hpos
    · have hnonneg : 0 ≤ i := nonneg_of_mul_nonpos_right hsign hneg
      rcases le_total (i + x) (-b) with hmin | hmin
      · rw [clamp_of_le hord hmin] at h
        linarith
      · rw [clamp_of_mem hmin (by linarith)] at h
        linarith
    · have hnonpos : i ≤ 0 := nonpos_of_mul_nonpos_right hsign hpos
      rcases le_total b (i + x) with hmax | hmax
      · rw [clamp_of_ge hord hmax] at h
        linarith
      · rw [clamp_of_mem (by linarith) hmax] at h
        linarith
  · rintro rfl
    have hzero : i = 0 := by linarith
    rw [clamp_zero_bounds, hzero]

namespace VelocityLoop

variable {σ : Type} {loop : VelocityLoop σ} {s : σ} {k : InnerCall ℚ}

/-- **A saturated call freezes the integral exactly where the integral is on the side
of the error.** -/
theorem freezes_iff (h : loop.WithinLimit s) (hsat : (loop.pid s).saturated = true)
    (herror : loop.error s k ≠ 0) (hdt : 0 < k.dt) :
    loop.LeavesIntegral s k ↔ loop.SameSide s k := by
  unfold LeavesIntegral SameSide
  rw [h.integral_call]
  rcases lt_or_ge 0 (loop.error s k * (loop.pid s).integral) with hsign | hsign
  · have hfrozen : (loop.pid s).integrates (loop.error s k) = false := by
      rw [PidController.integrates_saturated hsat, decide_eq_false (not_le.mpr hsign)]
    rw [PidController.nextIntegral_frozen hfrozen]
    exact iff_of_true rfl (Or.inl hsign)
  · have hintegrates : (loop.pid s).integrates (loop.error s k) = true := by
      rw [PidController.integrates_saturated hsat, decide_eq_true hsign]
    have hstep : loop.error s k * k.dt * (loop.pid s).integral ≤ 0 := by
      calc loop.error s k * k.dt * (loop.pid s).integral
          = loop.error s k * (loop.pid s).integral * k.dt := by ring
        _ ≤ 0 := mul_nonpos_of_nonpos_of_nonneg hsign hdt.le
    rw [PidController.nextIntegral_integrates hintegrates,
      clamp_step_eq_iff h (mul_ne_zero herror hdt.ne') hstep]
    exact (or_iff_right (not_lt.mpr hsign)).symm

/-- The same wherever a run of the loop is pushed on. -/
theorem leaves_iff (h : loop.WithinLimit s) {ks : List (InnerCall ℚ)}
    (hks : ∀ k ∈ ks, 0 < k.dt) :
    loop.WherePushed loop.LeavesIntegral s ks ↔ loop.WherePushed loop.SameSide s ks := by
  refine forall_congr' fun pre => forall_congr' fun k₀ => forall_congr' fun k =>
    forall_congr' fun post => ?_
  refine imp_congr_right fun hsplit => imp_congr_right fun hpush => ?_
  have hbefore : loop.WithinLimit (run loop.call s pre) :=
    invariant_run (I := loop.WithinLimit) (fun _ d hs => hs.call d) h pre
  exact freezes_iff (hbefore.call k₀) hpush.saturated hpush.error_ne_zero
    (hks k (by simp [hsplit]))

end VelocityLoop

/-! ## The two loops -/

/-- `VelocityPidNode::run_inner_loop` with the velocity it measures. -/
def VelocityPidNode.callInner {α : Type} [Double α] (s : VelocityPidNode α) (k : InnerCall α) :
    VelocityPidStep α :=
  { s with lastMeasuredVel := k.measurement }.runInnerLoop k.velSetpoint k.accelFf k.dt

/-- `ShadowPidController::run_inner_loop` with the velocity it measures. -/
def ShadowPidController.callInner {α : Type} [Double α] (c : ShadowPidController α)
    (k : InnerCall α) : ShadowStep α :=
  { c with filteredVel := k.measurement }.runInnerLoop k.velSetpoint k.accelFf k.dt

def VelocityPidNode.velocityLoop : VelocityLoop (VelocityPidNode ℚ) where
  pid s := s.velPid
  torqueLimit s := s.torqueLimitNm
  call s k := (s.callInner k).node
  torque s k := (s.callInner k).torque
  pid_call s k := by
    rw [← fabs_rat]
    rfl

def ShadowPidController.velocityLoop : VelocityLoop (ShadowPidController ℚ) where
  pid c := c.velPid
  torqueLimit c := c.torqueLimitNm
  call c k := (c.callInner k).shadow
  torque c k := (c.callInner k).torque
  pid_call c k := by
    rw [← fabs_rat]
    rfl

/-- **Anti-windup acts in the direction of saturation exactly where the integral has
the sign of the error**, in every run of either loop. -/
theorem antiWindup_iff (s : VelocityPidNode ℚ) (c : ShadowPidController ℚ)
    (ks : List (InnerCall ℚ)) (hs : VelocityPidNode.velocityLoop.WithinLimit s)
    (hc : ShadowPidController.velocityLoop.WithinLimit c) (hks : ∀ k ∈ ks, 0 < k.dt) :
    let node := VelocityPidNode.velocityLoop
    let shadow := ShadowPidController.velocityLoop
    (node.WherePushed node.LeavesIntegral s ks ↔ node.WherePushed node.SameSide s ks) ∧
      (shadow.WherePushed shadow.LeavesIntegral c ks ↔
        shadow.WherePushed shadow.SameSide c ks) :=
  ⟨VelocityLoop.leaves_iff hs hks, VelocityLoop.leaves_iff hc hks⟩

/-- A negative error winds the integral down; a large setpoint with a small positive
error then saturates the loop upwards by its feedforward, and stays. -/
def turned : List (InnerCall ℚ) :=
  [⟨0, 0, 1, 1⟩, ⟨2, 0, 2 - 1 / 10, 1⟩, ⟨2, 0, 2 - 1 / 10, 1⟩]

/-- A node as constructed, with default gains. -/
def turnedNode : VelocityPidNode ℚ := .start (Launch.empty.withDouble "integral_limit" 1) 0 0

/-- A shadow controller with default gains, synchronised. -/
def turnedShadow : ShadowPidController ℚ :=
  { (.fresh : ShadowPidController ℚ) with integralLimit := 1 }.applyGains

/-- On either loop the last call is clamped at the positive limit, sees a positive
error, and raises its negative integral. -/
theorem integrates_into_saturation :
    (0 < turnedNode.velPid.ki ∧ 0 < turnedNode.kp ∧ 0 < turnedNode.torqueLimitNm) ∧
      (0 < turnedShadow.velPid.ki ∧ 0 < turnedShadow.kp ∧ 0 < turnedShadow.torqueLimitNm) ∧
      (∀ k ∈ turned, 0 < k.dt) ∧
      ¬VelocityPidNode.velocityLoop.WherePushed VelocityPidNode.velocityLoop.LeavesIntegral
        turnedNode turned ∧
      ¬ShadowPidController.velocityLoop.WherePushed
        ShadowPidController.velocityLoop.LeavesIntegral turnedShadow turned := by
  refine ⟨by decide +kernel, by decide +kernel, by decide +kernel, fun h => ?_, fun h => ?_⟩
  · have hlast := h [⟨0, 0, 1, 1⟩] ⟨2, 0, 2 - 1 / 10, 1⟩ ⟨2, 0, 2 - 1 / 10, 1⟩ [] rfl
      (Or.inl (by decide +kernel))
    unfold VelocityLoop.LeavesIntegral at hlast
    exact absurd hlast (by decide +kernel)
  · have hlast := h [⟨0, 0, 1, 1⟩] ⟨2, 0, 2 - 1 / 10, 1⟩ ⟨2, 0, 2 - 1 / 10, 1⟩ [] rfl
      (Or.inl (by decide +kernel))
    unfold VelocityLoop.LeavesIntegral at hlast
    exact absurd hlast (by decide +kernel)

theorem turned_antiWindup_iff :
    VelocityPidNode.velocityLoop.WithinLimit turnedNode ∧
      ShadowPidController.velocityLoop.WithinLimit turnedShadow ∧
      (∀ k ∈ turned, 0 < k.dt) ∧
      (VelocityPidNode.velocityLoop.WherePushed VelocityPidNode.velocityLoop.LeavesIntegral
          turnedNode turned ↔
        VelocityPidNode.velocityLoop.WherePushed VelocityPidNode.velocityLoop.SameSide
          turnedNode turned) := by
  have hnode : VelocityPidNode.velocityLoop.WithinLimit turnedNode := by
    unfold VelocityLoop.WithinLimit
    decide +kernel
  have hshadow : ShadowPidController.velocityLoop.WithinLimit turnedShadow := by
    unfold VelocityLoop.WithinLimit
    decide +kernel
  have hdt : ∀ k ∈ turned, 0 < k.dt := by decide +kernel
  exact ⟨hnode, hshadow, hdt, (antiWindup_iff turnedNode turnedShadow turned hnode hshadow hdt).1⟩

end MarineHil.Ports
