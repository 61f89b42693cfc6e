import MarineHil.Ports.RampGate

/-!
# The engage gate of `ChronoFlapNode`

While the load is not engaged nothing should reach the load topic.  But the
gate has one ramp start for both directions, and whatever writes it plays the
ramp down from the full load: the constructor, and every call with `false`,
also one that repeats the last.  A longer ramp time does the same to a ramp
that has run out.  `gateClosed_iff` says exactly at which ticks the gate is
closed nevertheless, over every order of calls, batches, messages and ticks,
and over measurements that need not be numbers.
-/

namespace MarineHil.Ports.ChronoFlapNode

open MarineHil.Verified
open MarineHil.Verified.ExtRat

variable {σ κ : Type}

/-! ## One tick -/

section Gate

variable {s : ChronoFlapNode σ κ ExtRat}

/-- The disengaged gate publishes zero when there is no ramp, and otherwise of
a number that is zero or whose ramp has run out. -/
theorem disengaged_eq_zero_iff {now : Time} {start : ℚ} (hengaged : s.hilEngaged = false)
    (hstart : s.hilRampStartTime = fin start) (tau : ExtRat) :
    s.rampGate now tau = 0 ↔
      ¬0 < s.hilRampTimeS ∨
        (tau.IsFinite ∧ (tau = 0 ∨ s.hilRampTimeS ≤ seconds now - s.hilRampStartTime)) := by
  rw [rampGate_eq_zero_iff hstart, Shut, rampFactor, hengaged]
  by_cases hpos : 0 < s.hilRampTimeS
  · obtain ⟨p, hp, _, hfull⟩ := rampProgress_eq now hstart hpos
    rw [if_neg Bool.false_ne_true, if_pos hpos, hp, lit_def, fin_sub, zero_def, fin.injEq, hfull]
    exact or_congr_left (and_iff_right rfl)
  · exact iff_of_true (Or.inl ⟨rfl, hpos⟩) (Or.inl hpos)

end Gate

/-! ## The gate of a history -/

section History

variable {α : Type} [Double α]

/-- The launches the gate is about: `hil` mode, started disengaged. -/
def disengagedLaunch (l : Launch α) : Launch α :=
  (l.withString "mode" "hil").withBool "hil_engaged_default" false

/-- The ramp time in force after a history. -/
def rampTimeInForce (l : Launch α) (es : List (Timed (FlapEvent α))) : α :=
  (lastSome (HilView.rampTimeUpdate (declared (disengagedLaunch l))) es).getD
    ((disengagedLaunch l).getDouble "hil_ramp_time_s" (lit 1))

/-- The time of the last call of the engage service, or of the start. -/
def lastCallTime (t₀ : Time) (es : List (Timed (FlapEvent α))) : Time :=
  ((lastSome HilView.engageCall es).map Prod.snd).getD t₀

/-- No call engages the load. -/
def NoEngage (es : List (Timed (FlapEvent α))) : Prop :=
  ∀ e ∈ es, e.event ≠ .engageHil true

/-- The load is not engaged at a tick at `now` after a history: no call has
engaged it yet, or a call has disengaged it, none has engaged it since, and at
some moment since then, the tick at the latest, the ramp time then in force had
elapsed since that call. -/
inductive NotEngaged (l : Launch α) : List (Timed (FlapEvent α)) → Time → Prop
  | notYet {es : List (Timed (FlapEvent α))} {now : Time} (hno : NoEngage es) :
      NotEngaged l es now
  | disengaged {before later : List (Timed (FlapEvent α))} {called now : Time}
      (hno : NoEngage later)
      (helapsed : ∃ done e rest, later ++ [⟨now, .tick⟩] = done ++ e :: rest ∧
        rampTimeInForce l (before ++ ⟨called, .engageHil false⟩ :: done) ≤
          seconds (e.time - called)) :
      NotEngaged l (before ++ ⟨called, .engageHil false⟩ :: later) now

omit [Double α] in
theorem lastSome_engageCall_of_noEngage {es : List (Timed (FlapEvent α))} (hno : NoEngage es)
    {c : Bool × Time} (hlast : lastSome HilView.engageCall es = some c) : c.1 = false := by
  obtain ⟨data, called⟩ := c
  obtain ⟨pre, e, post, rfl, hcall, _⟩ := lastSome_eq_some_iff.mp hlast
  have hne : e.event ≠ .engageHil true := hno e (by simp)
  rw [HilView.engageCall_eq_some hcall] at hne
  cases data with
  | false => rfl
  | true => exact absurd rfl hne

/-- While the load is not engaged, the last call was not one that engages it. -/
theorem NotEngaged.lastCall {l : Launch α} {es : List (Timed (FlapEvent α))} {now : Time}
    (h : NotEngaged l es now) :
    ((lastSome HilView.engageCall es).map Prod.fst).getD false = false := by
  cases h with
  | notYet hno =>
      cases hlast : lastSome HilView.engageCall es with
      | none => rfl
      | some c => exact lastSome_engageCall_of_noEngage hno hlast
  | @disengaged before later called _ hno _ =>
      rw [show before ++ (⟨called, .engageHil false⟩ : Timed (FlapEvent α)) :: later =
        (before ++ [⟨called, .engageHil false⟩]) ++ later by simp, lastSome_append,
        lastSome_concat]
      cases hlast : lastSome HilView.engageCall later with
      | none => rfl
      | some c => exact lastSome_engageCall_of_noEngage hno hlast

variable (env : FlapEnvironment σ κ α) (l : Launch α) (t₀ : Time)

/-- The node after a history. -/
def after (es : List (Timed (FlapEvent α))) : ChronoFlapNode σ κ α :=
  run (step env) (start env (disengagedLaunch l) t₀) es

theorem start_disengaged :
    (start env (disengagedLaunch l) t₀).hilView.mode = .hil ∧
      (start env (disengagedLaunch l) t₀).hilView.hilEngaged = false ∧
      (start env (disengagedLaunch l) t₀).hilView.hilRampStartTime = seconds t₀ ∧
      (start env (disengagedLaunch l) t₀).hilView.hilRampTimeS =
        (disengagedLaunch l).getDouble "hil_ramp_time_s" (lit 1) := by
  refine ⟨?_, ?_, rfl, rfl⟩
  · show resolveMode ((disengagedLaunch l).getString "mode" "")
      ((disengagedLaunch l).getBool "sil_mode" false) = .hil
    rw [show (disengagedLaunch l).getString "mode" "" = "hil" from
      Launch.getString_withString l "mode" "hil" ""]
    rfl
  · show (disengagedLaunch l).getBool "hil_engaged_default" false = false
    exact Launch.getBool_withBool _ _ _ _

/-- The gate after a history. -/
theorem after_gate (es : List (Timed (FlapEvent α))) :
    (after env l t₀ es).mode = .hil ∧
      (after env l t₀ es).hilEngaged =
        ((lastSome HilView.engageCall es).map Prod.fst).getD false ∧
      (after env l t₀ es).hilRampStartTime = seconds (lastCallTime t₀ es) ∧
      (after env l t₀ es).hilRampTimeS = rampTimeInForce l es := by
  have hview := run_hilView env (start env (disengagedLaunch l) t₀) es
  obtain ⟨hmode, hengaged, hstart, hramp⟩ := start_disengaged env l t₀
  obtain ⟨hgate, hclock⟩ := HilView.run_gate hmode es
  have hramp' := HilView.run_rampTime hmode es
  have hmode' := HilView.run_mode hmode es
  rw [hengaged] at hgate
  rw [hstart] at hclock
  rw [hramp] at hramp'
  rw [← hview] at hgate hclock hramp' hmode'
  refine ⟨hmode', hgate, hclock.trans ?_, hramp'⟩
  unfold lastCallTime
  cases lastSome HilView.engageCall es with
  | none => rfl
  | some c => rfl

end History

/-! ## When the gate is closed -/

section Closed

variable (env : FlapEnvironment σ κ ExtRat) (l : Launch ExtRat) (t₀ : Time)

/-- Every tick at which the load is not engaged publishes zero. -/
def GateClosed (es : List (Timed (FlapEvent ExtRat))) : Prop :=
  ∀ pre now post, es = pre ++ ⟨now, .tick⟩ :: post → NotEngaged l pre now →
    ((after env l t₀ pre).tick env now).load = some 0

/-- What holds a disengaged tick at zero: feedback that is missing or stale, no
ramp time, or a load that is a number and either zero itself or past a ramp
that has run out since the last call of the service, whatever its value, or
since the start. -/
def HeldAtZero (pre : List (Timed (FlapEvent ExtRat))) (now : Time) : Prop :=
  (after env l t₀ pre).feedbackOk now = false ∨
    ¬0 < rampTimeInForce l pre ∨
    (((after env l t₀ pre).ungatedLoad env now).IsFinite ∧
      ((after env l t₀ pre).ungatedLoad env now = 0 ∨
        rampTimeInForce l pre ≤ seconds now - seconds (lastCallTime t₀ pre)))

/-- **When the gate is closed.**  In every run every tick at which the load is
not engaged publishes zero exactly when each of them is held at zero. -/
theorem gateClosed_iff (es : List (Timed (FlapEvent ExtRat))) :
    GateClosed env l t₀ es ↔
      ∀ pre now post, es = pre ++ ⟨now, .tick⟩ :: post → NotEngaged l pre now →
        HeldAtZero env l t₀ pre now := by
  have htick (pre : List (Timed (FlapEvent ExtRat))) (now : Time) (hnot : NotEngaged l pre now) :
      ((after env l t₀ pre).tick env now).load = some 0 ↔ HeldAtZero env l t₀ pre now := by
    obtain ⟨hmode, hengaged, hstart, hramp⟩ := after_gate env l t₀ pre
    rw [hnot.lastCall] at hengaged
    unfold HeldAtZero
    rw [← hramp, ← hstart]
    generalize after env l t₀ pre = s at hmode hengaged hstart hramp ⊢
    rw [tick_load hmode, Option.some_inj, loadTorque]
    cases hok : s.feedbackOk now with
    | false => exact iff_of_true rfl (Or.inl rfl)
    | true =>
        rw [if_pos rfl, disengaged_eq_zero_iff hengaged hstart]
        exact ⟨Or.inr, fun h => h.resolve_left (by decide)⟩
  constructor
  · intro h pre now post hes hnot
    exact (htick pre now hnot).mp (h pre now post hes hnot)
  · intro h pre now post hes hnot
    exact (htick pre now hnot).mpr (h pre now post hes hnot)

end Closed

/-! ## A start that lets the load through -/

/-- With every parameter at its default, 10 ms after the start and never
engaged, the node publishes 99 % of the load. -/
theorem load_published_before_engage :
    ¬GateClosed .bare Launch.empty 0
      [⟨5000000, .jointState (.single 5000000 "motor_joint" 0 0)⟩, ⟨10000000, .tick⟩] := by
  intro h
  have hzero := h [⟨5000000, .jointState (.single 5000000 "motor_joint" 0 0)⟩] 10000000 [] rfl
    (.notYet (by simp [NoEngage]))
  have hload : ((after .bare Launch.empty 0
      [⟨5000000, .jointState (.single 5000000 "motor_joint" 0 0)⟩]).tick
        .bare 10000000).load = some (fin (99 / 1000)) := by
    decide +kernel
  rw [hload] at hzero
  exact absurd (fin.inj (Option.some.inj hzero)) (by norm_num)

end MarineHil.Ports.ChronoFlapNode
