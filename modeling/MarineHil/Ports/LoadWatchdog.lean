import MarineHil.Ports.LoadClamp

/-!
# The watchdog on the feedback

The load is to be zero once no message has named the joint for
`hil_feedback_timeout_s`.  The node keeps the stamp in the header of the last
such message, which its sender has chosen, and never asks when the message came.
So the watchdog goes by the sender's clock.  Where it lets a stale measurement through,
the load is zero only if it is a number to begin with: the gate multiplies by zero, and
that leaves NaN what it is.

## Main results

* `run_feedback`: the node holds the stamp of the last message that names the joint.
* `feedbackOk_eq_false_iff`: what the watchdog of a history looks at.
* `watchdog_iff`: exactly when a silent sender leaves no load.
-/

namespace MarineHil.Ports

open MarineHil.Verified
open MarineHil.Verified.ExtRat

namespace HilView

variable {α : Type} [Double α]

/-- The feedback the view holds: the stamp, once a message has come. -/
def heldStamp (v : HilView α) : Option Time := if v.hwReceived then some v.hwStamp else none

omit [Double α] in
/-- The stamp of a message that names the joint. -/
def stampNaming (joint : String) (e : Timed (FlapEvent α)) : Option Time :=
  match e.event with
  | .jointState msg => if joint ∈ msg.name then some msg.stamp else none
  | _ => none

theorem measure_heldStamp (v : HilView α) (msg : JointState α) :
    (v.measure msg).heldStamp =
      if v.jointName ∈ msg.name then some msg.stamp else v.heldStamp := by
  unfold measure
  cases hfind : msg.name.findIdx? (· = v.jointName) with
  | some i =>
      obtain ⟨hi, hname, _⟩ := List.findIdx?_eq_some_iff_getElem.mp hfind
      have hmem : v.jointName ∈ msg.name := by
        rw [← of_decide_eq_true hname]
        exact List.getElem_mem hi
      rw [if_pos hmem]
      rfl
  | none =>
      have hmem : v.jointName ∉ msg.name := by
        intro hmem
        have hne := List.findIdx?_eq_none_iff.mp hfind _ hmem
        simp at hne
      rw [if_neg hmem]

/-- In `hil` mode a callback leaves the stamp of its message, if that names the
joint. -/
theorem step_heldStamp {v : HilView α} (hmode : v.mode = .hil) (e : Timed (FlapEvent α)) :
    (v.step e).heldStamp = ((stampNaming v.jointName e).map some).getD v.heldStamp := by
  obtain ⟨time, event⟩ := e
  cases event with
  | jointState msg =>
      have hstep : v.step ⟨time, .jointState msg⟩ = v.measure msg := if_pos hmode
      rw [hstep, measure_heldStamp]
      unfold stampNaming
      dsimp only
      split
      · rfl
      · rfl
  | engageHil data =>
      have hstep : v.step ⟨time, .engageHil data⟩ = v.engage time data := if_pos hmode
      rw [hstep]
      rfl
  | setParameters batch =>
      have hstep : v.step ⟨time, .setParameters batch⟩ = v.setParameters batch := rfl
      rw [hstep, setParameters, run_applyParameter_eq]
      split
      · rfl
      · rfl
  | effort data => rfl
  | positionCommand data => rfl
  | velocityCommand data => rfl
  | enableHydro data => rfl
  | tick => rfl

end HilView

namespace ChronoFlapNode

section Feedback

variable {σ κ α : Type} [Double α] (env : FlapEnvironment σ κ α) (l : Launch α) (t₀ : Time)

/-- The joint of a launch. -/
def jointOf (l : Launch α) : String := (declared l).getString "joint_name"

/-- After every run the node holds the stamp of the last message that names the
joint. -/
theorem run_feedback (hmode : (start env l t₀).mode = .hil) (es : List (Timed (FlapEvent α))) :
    (run (step env) (start env l t₀) es).hilView.heldStamp =
      lastSome (HilView.stampNaming (jointOf l)) es := by
  have hstart : (start env l t₀).hilView.heldStamp = none := rfl
  rw [run_hilView]
  have hlatch := @latch_run_of_invariant _ _ _
    (fun e => (HilView.stampNaming (jointOf l) e).map some)
    HilView.step HilView.heldStamp (fun v : HilView α => v.mode = .hil ∧ v.jointName = jointOf l)
    (by
      intro v e h
      obtain ⟨hm, hj⟩ := v.step_fixed e
      exact ⟨hm.trans h.1, hj.trans h.2⟩)
    (by
      intro v e h
      rw [← h.2]
      exact HilView.step_heldStamp h.1 e)
    (start env l t₀).hilView ⟨hmode, rfl⟩ es
  rw [hlatch, lastSome_map, hstart]
  cases lastSome (HilView.stampNaming (jointOf l)) es <;> rfl

/-- The watchdog cuts the load off when no message has named the joint, or when the
stamp of the last that has is too old. -/
theorem feedbackOk_eq_false_iff (s : ChronoFlapNode σ κ α) (now : Time) :
    s.feedbackOk now = false ↔
      ∀ stamp, s.hilView.heldStamp = some stamp →
        s.hilFeedbackTimeoutS < seconds (now - stamp) := by
  have hheld : s.hilView.heldStamp = if s.hwReceived then some s.hwStamp else none := rfl
  unfold feedbackOk
  rw [hheld]
  cases s.hwReceived with
  | false => exact iff_of_true rfl nofun
  | true =>
      rw [Bool.true_and, Bool.not_eq_false', decide_eq_true_iff]
      constructor
      · intro h stamp hstamp
        obtain rfl := Option.some.inj hstamp
        exact h
      · intro h
        exact h s.hwStamp rfl

/-- No message that names the joint was received within the timeout in force. -/
def Silent (pre : List (Timed (FlapEvent α))) (now : Time) : Prop :=
  ∀ e ∈ pre, (HilView.stampNaming (jointOf l) e).isSome = true →
    ¬seconds (now - e.time) ≤ doubleInForce l "hil_feedback_timeout_s" pre

/-- By its stamp, the last message that names the joint, if there is one, is older
than the timeout in force. -/
def StampedOld (pre : List (Timed (FlapEvent α))) (now : Time) : Prop :=
  ∀ stamp, lastSome (HilView.stampNaming (jointOf l)) pre = some stamp →
    doubleInForce l "hil_feedback_timeout_s" pre < seconds (now - stamp)

end Feedback

/-! ## A silent sender -/

section Watchdog

variable {σ κ : Type} (env : FlapEnvironment σ κ ExtRat) (l : Launch ExtRat) (t₀ : Time)

/-- **When the watchdog works.**  In every run in `hil` mode the load is zero at
every tick with a silent sender exactly when at each of them the last message is
old by its own stamp as well, or there is nothing to cut off: a gate that is shut, or
a load before it that is a number, with the load or the ramp factor at zero. -/
theorem watchdog_iff (hmode : (start env l t₀).mode = .hil)
    (es : List (Timed (FlapEvent ExtRat))) :
    (AtTicks es fun pre now => Silent l pre now →
        ((run (step env) (start env l t₀) pre).tick env now).load = some 0) ↔
      AtTicks es fun pre now => Silent l pre now →
        StampedOld l pre now ∨
          (run (step env) (start env l t₀) pre).Shut ∨
          (((run (step env) (start env l t₀) pre).ungatedLoad env now).IsFinite ∧
            ((run (step env) (start env l t₀) pre).ungatedLoad env now = 0 ∨
              (run (step env) (start env l t₀) pre).rampFactor now = 0)) := by
  refine atTicks_congr ?_ es
  intro pre now
  have hmode' : (run (step env) (start env l t₀) pre).mode = .hil :=
    (run_mode env _ pre).trans hmode
  have htimeout : (run (step env) (start env l t₀) pre).hilFeedbackTimeoutS =
      doubleInForce l "hil_feedback_timeout_s" pre :=
    run_member env l t₀ pre .hilFeedbackTimeoutS
  obtain ⟨t, hstart⟩ := run_rampStart env l t₀ hmode pre
  unfold StampedOld
  rw [← run_feedback env l t₀ hmode pre, ← htimeout]
  generalize run (step env) (start env l t₀) pre = s at hmode' hstart
  rw [tick_load hmode', Option.some_inj, ← feedbackOk_eq_false_iff, loadTorque]
  refine imp_congr_right fun _ => ?_
  cases s.feedbackOk now with
  | false => exact iff_of_true rfl (Or.inl rfl)
  | true =>
      rw [if_pos rfl, rampGate_eq_zero_iff hstart]
      constructor
      · exact Or.inr
      · intro h
        exact h.resolve_left Bool.noConfusion

end Watchdog

/-! ## A stamp from the future -/

/-- The defaults in `hil` mode. -/
def hilLaunch : Launch ExtRat := Launch.empty.withString "mode" "hil"

/-- One message, stamped ten seconds ahead, and a tick five seconds later. -/
def futureStamp : List (Timed (FlapEvent ExtRat)) :=
  [ ⟨0, .engageHil true⟩, ⟨0, .jointState (.single 10000000000 "motor_joint" 0 0)⟩
  , ⟨5000000000, .tick⟩ ]

theorem watchdog_iff_futureStamp :
    (AtTicks futureStamp fun pre now => Silent hilLaunch pre now →
        ((run (step .bare) (start .bare hilLaunch 0) pre).tick .bare now).load = some 0) ↔
      AtTicks futureStamp fun pre now => Silent hilLaunch pre now →
        StampedOld hilLaunch pre now ∨
          (run (step .bare) (start .bare hilLaunch 0) pre).Shut ∨
          (((run (step .bare) (start .bare hilLaunch 0) pre).ungatedLoad .bare now).IsFinite ∧
            ((run (step .bare) (start .bare hilLaunch 0) pre).ungatedLoad .bare now = 0 ∨
              (run (step .bare) (start .bare hilLaunch 0) pre).rampFactor now = 0)) :=
  watchdog_iff .bare hilLaunch 0 (by decide +kernel) futureStamp

/-- Five seconds after the only message, with a timeout of 0.1 s, the full load is
still published. -/
theorem load_on_silent_feedback :
    ¬AtTicks futureStamp fun pre now => Silent hilLaunch pre now →
        ((run (step .bare) (start .bare hilLaunch 0) pre).tick .bare now).load = some 0 := by
  intro h
  have hzero := h
    [⟨0, .engageHil true⟩, ⟨0, .jointState (.single 10000000000 "motor_joint" 0 0)⟩] 5000000000
    [] rfl
  have hsilent : Silent hilLaunch
      [⟨0, .engageHil true⟩, ⟨0, .jointState (.single 10000000000 "motor_joint" 0 0)⟩]
      5000000000 := by
    unfold Silent
    decide +kernel
  have hload : ((run (step .bare) (start .bare hilLaunch 0)
      [⟨0, .engageHil true⟩, ⟨0, .jointState (.single 10000000000 "motor_joint" 0 0)⟩]).tick
        .bare 5000000000).load = some (fin (1 / 10)) := by
    decide +kernel
  have hcut := hload.symm.trans (hzero hsilent)
  exact absurd (fin.inj (Option.some.inj hcut)) (by norm_num)

end ChronoFlapNode

end MarineHil.Ports
