import MarineHil.Ports.DerivativeTimeBase

/-!
# The clock of the control loop while the joint is missing

`control_loop` publishes zero torque and returns when the joint is not found, before
it reads the clock: `last_loop_time_` stays where the last tick that found the joint
left it, and the next tick that finds it integrates over the whole outage.

## Main results

* `lastLoopTime_after_tick`: what a tick and the callbacks after it leave of the clock.
* `clock_current_iff`: every `dt` is the time since the tick before exactly where no
  tick that finds the joint comes after one that does not.
-/

namespace MarineHil.Ports

open MarineHil.Verified

namespace VelocityPidNode

/-- The reading of the clock in the last tick of a history, or at construction. -/
def previousTick {α : Type} (t₀ : Time) (es : List (Timed (VelocityPidEvent α))) : Time :=
  (lastSome tickTime es).getD t₀

/-- The last tick of a history, if there is one, found the joint. -/
def FollowsFound {α : Type} (joint : String) (es : List (Timed (VelocityPidEvent α))) : Prop :=
  ∀ pre t mid, es = pre ++ ⟨t, .controlLoop⟩ :: mid → (∀ e ∈ mid, tickTime e = none) →
    jointFound joint pre = true

section Clock

variable {s : VelocityPidNode ℚ} (m : Libm ℚ)

/-- Between ticks the clock is not read. -/
theorem step_lastLoopTime {e : Timed (VelocityPidEvent ℚ)} (h : tickTime e = none) :
    (s.step m e).lastLoopTime = s.lastLoopTime := by
  obtain ⟨time, event⟩ := e
  cases event with
  | jointState msg => exact (s.jointStateCallback_frame msg).2.1.lastLoopTime
  | setParameters batch => exact (s.setParameters_clock batch).lastLoopTime
  | controlLoop => cases h

theorem run_lastLoopTime {es : List (Timed (VelocityPidEvent ℚ))}
    (h : ∀ e ∈ es, tickTime e = none) :
    (run (step m) s es).lastLoopTime = s.lastLoopTime := by
  refine invariant_run_of_mem (I := fun t : VelocityPidNode ℚ =>
    t.lastLoopTime = s.lastLoopTime) ?_ rfl
  intro t e he ht
  exact (step_lastLoopTime m (h e he)).trans ht

/-- What a tick, and callbacks that are none, leave of the clock. -/
theorem lastLoopTime_after_tick (t : Time) {mid : List (Timed (VelocityPidEvent ℚ))}
    (h : ∀ e ∈ mid, tickTime e = none) :
    (run (step m) s (⟨t, .controlLoop⟩ :: mid)).lastLoopTime =
      if s.jointIndex < 0 then s.lastLoopTime else t := by
  rw [run_cons, run_lastLoopTime m h]
  show (s.controlLoop m t).node.lastLoopTime = _
  split_ifs with hlost
  · rw [controlLoop_lost hlost]
  · exact controlLoop_lastLoopTime hlost m t

theorem seconds_sub_inj {now t t' : Time} :
    (seconds (now - t) : ℚ) = seconds (now - t') ↔ t = t' := by
  constructor
  · intro h
    have hle := seconds_le_iff.mp h.le
    have hge := seconds_le_iff.mp h.ge
    exact le_antisymm ((sub_le_sub_iff_left now).mp hge) ((sub_le_sub_iff_left now).mp hle)
  · rintro rfl
    rfl

/-- The `dt` of a tick, measured from any earlier time. -/
theorem stepDt_eq_iff {now : Time} (h : s.lastLoopTime < now) (t : Time) :
    s.stepDt now = seconds (now - t) ↔ s.lastLoopTime = t := by
  rw [stepDt_of_lt h, seconds_sub_inj]

end Clock

section Run

variable {m : Libm ℚ} {l : Launch ℚ} {t₀ t₁ : Time} {es : List (Timed (VelocityPidEvent ℚ))}

/-- The `dt` of a tick after the history is the time since the tick before. -/
def ClockCurrent (m : Libm ℚ) (l : Launch ℚ) (t₀ t₁ : Time)
    (es : List (Timed (VelocityPidEvent ℚ))) (now : Time) : Prop :=
  (run (step m) (start l t₀ t₁) es).stepDt now = seconds (now - previousTick t₀ es)

/-- The node holds the reading of the tick before exactly where that tick found the
joint. -/
theorem lastLoopTime_eq_previousTick_iff (h : ClockIncreases t₀ es) :
    (run (step m) (start l t₀ t₁) es).lastLoopTime = previousTick t₀ es ↔
      FollowsFound (jointNameOf l) es := by
  -- the tick before, at a split of the history
  have hsplit {pre mid : List (Timed (VelocityPidEvent ℚ))} {t : Time}
      (hes : es = pre ++ ⟨t, .controlLoop⟩ :: mid) (hmid : ∀ e ∈ mid, tickTime e = none) :
      (run (step m) (start l t₀ t₁) es).lastLoopTime = previousTick t₀ es ↔
        jointFound (jointNameOf l) pre = true := by
    have hprevious : previousTick t₀ es = t := by
      have hlast : lastSome tickTime es = some t :=
        lastSome_eq_some_iff.mpr ⟨pre, ⟨t, .controlLoop⟩, mid, hes, rfl, hmid⟩
      rw [previousTick, hlast]
      rfl
    have hearlier := h.along m l t₀ t₁ pre ⟨t, .controlLoop⟩ mid hes rfl
    have hfound := run_jointIndex_neg_iff m l t₀ t₁ pre
    rw [hprevious, hes, run_append, lastLoopTime_after_tick m t hmid]
    split_ifs with hlost
    · rw [hfound.mp hlost]
      exact iff_of_false hearlier.ne Bool.false_ne_true
    · exact iff_of_true rfl (Bool.eq_true_of_not_eq_false fun hf => hlost (hfound.mpr hf))
  constructor
  · intro heq pre t mid hes hmid
    exact (hsplit hes hmid).mp heq
  · intro hfollows
    cases hlast : lastSome tickTime es with
    | none =>
        rw [previousTick, hlast, run_lastLoopTime m (lastSome_eq_none_iff.mp hlast)]
        rfl
    | some t =>
        obtain ⟨pre, ⟨time, event⟩, mid, hes, htick, hmid⟩ := lastSome_eq_some_iff.mp hlast
        cases event with
        | jointState msg => cases htick
        | setParameters batch => cases htick
        | controlLoop => exact (hsplit hes hmid).mpr (hfollows pre time mid hes hmid)

/-- **The clock of the loop is current at every tick that finds the joint exactly where
the tick before each of them found it too.** -/
theorem clock_current_iff (m : Libm ℚ) (l : Launch ℚ) (t₀ t₁ : Time)
    (es : List (Timed (VelocityPidEvent ℚ))) (h : ClockIncreases t₀ es) :
    (∀ pre now post, es = pre ++ ⟨now, .controlLoop⟩ :: post →
        jointFound (jointNameOf l) pre = true → ClockCurrent m l t₀ t₁ pre now) ↔
      ∀ pre now post, es = pre ++ ⟨now, .controlLoop⟩ :: post →
        jointFound (jointNameOf l) pre = true → FollowsFound (jointNameOf l) pre := by
  refine forall_congr' fun pre => forall_congr' fun now => forall_congr' fun post => ?_
  refine imp_congr_right fun hes => imp_congr_right fun _ => ?_
  rw [hes] at h
  obtain ⟨_, hnow⟩ := along_concat.mp (h.before.along m l t₀ t₁)
  rw [ClockCurrent, stepDt_eq_iff (hnow rfl)]
  refine lastLoopTime_eq_previousTick_iff ?_
  unfold ClockIncreases at h ⊢
  rw [List.filterMap_append, ← List.cons_append, List.pairwise_append] at h
  exact h.1

end Run

/-- The motor is not seen yet at 10 ms, and is by 20 ms. -/
def lateJoint : List (Timed (VelocityPidEvent ℚ)) :=
  [⟨10000000, .controlLoop⟩, ⟨15000000, .jointState (.single 0 "motor_joint" 0 0)⟩,
    ⟨20000000, .controlLoop⟩]

/-- The tick at 20 ms integrates over 20 ms, in a run whose clock increases. -/
theorem outage_integrated :
    ClockIncreases 0 lateJoint ∧
      jointFound (jointNameOf (α := ℚ) .empty) (lateJoint.take 2) = true ∧
      ¬ClockCurrent ⟨fun _ => 0, fun _ => 1, fun _ => 0⟩ .empty 0 0 (lateJoint.take 2)
        20000000 := by
  refine ⟨by decide +kernel, by decide +kernel, ?_⟩
  unfold ClockCurrent
  decide +kernel

theorem lateJoint_clock_current_iff :
    ClockIncreases 0 lateJoint ∧
      ((∀ pre now post, lateJoint = pre ++ ⟨now, .controlLoop⟩ :: post →
          jointFound (jointNameOf (α := ℚ) .empty) pre = true →
            ClockCurrent ⟨fun _ => 0, fun _ => 1, fun _ => 0⟩ .empty 0 0 pre now) ↔
        ∀ pre now post, lateJoint = pre ++ ⟨now, .controlLoop⟩ :: post →
          jointFound (jointNameOf (α := ℚ) .empty) pre = true →
            FollowsFound (jointNameOf (α := ℚ) .empty) pre) :=
  ⟨by decide +kernel, clock_current_iff _ .empty 0 0 lateJoint (by decide +kernel)⟩

end VelocityPidNode

end MarineHil.Ports
