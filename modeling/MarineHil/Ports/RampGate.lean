import MarineHil.Ports.ChronoFlapHistory
import MarineHil.Verified.Extended

/-!
# The ramp of `ChronoFlapNode`

Between two calls of the engage service the factor of the ramp gate moves no
faster than its ramp time allows.  A call restarts the ramp from one end,
wherever it was, so the factor jumps by what the call throws away: a call that
repeats the setting in force throws away what the ramp has gone, one that
reverses it what it still had to go.

## Main results

* `rampGate_eq_mul`: what the gate multiplies the load by.
* `rampGate_extended`, `rampGate_eq_zero_iff`: what it makes of infinities and NaN.
* `smoothRamp_iff`: the calls that keep the factor from jumping, in every run
  of constant ramp time.
-/

namespace MarineHil.Ports.ChronoFlapNode

open MarineHil.Verified

variable {σ κ : Type}

/-! ## The factor -/

/-- The factor by which the ramp gate multiplies the load. -/
def rampFactor {α : Type} [Double α] (s : ChronoFlapNode σ κ α) (now : Time) : α :=
  if s.hilEngaged then if 0 < s.hilRampTimeS then s.rampProgress now else lit 1
  else if 0 < s.hilRampTimeS then lit 1 - s.rampProgress now else 0

section Factor

variable {s : ChronoFlapNode σ κ ℚ} (now : Time)

theorem rampGate_eq_mul (tau : ℚ) : s.rampGate now tau = tau * s.rampFactor now := by
  unfold rampGate rampFactor
  by_cases hengaged : s.hilEngaged = true
  · rw [if_pos hengaged, if_pos hengaged]
    split
    · rfl
    · exact (mul_one tau).symm
  · rw [if_neg hengaged, if_neg hengaged]
    split
    · rfl
    · exact (mul_zero tau).symm

theorem rampProgress_mem : 0 ≤ s.rampProgress now ∧ s.rampProgress now ≤ 1 :=
  ⟨le_clamp zero_le_one, clamp_le zero_le_one⟩

/-- With a positive ramp time the factor is the progress of the ramp or what is
left of it. -/
theorem rampFactor_eq (hramp : 0 < s.hilRampTimeS) :
    s.rampFactor now = if s.hilEngaged then s.rampProgress now else 1 - s.rampProgress now := by
  unfold rampFactor
  rw [if_pos hramp, if_pos hramp, lit_rat]

end Factor

/-! ## On infinities and NaN -/

/-- The gate is shut whatever comes to it: disengaged, with no ramp to play. -/
def Shut {α : Type} [Double α] (s : ChronoFlapNode σ κ α) : Prop :=
  s.hilEngaged = false ∧ ¬0 < s.hilRampTimeS

section Extended

open ExtRat

variable {s : ChronoFlapNode σ κ ExtRat}

/-- The share of a positive ramp time that has elapsed, as a number. -/
theorem rampProgress_eq (now : Time) {start : ℚ} (hstart : s.hilRampStartTime = fin start)
    (hpos : 0 < s.hilRampTimeS) :
    ∃ p, s.rampProgress now = fin p ∧ (0 ≤ p ∧ p ≤ 1) ∧
      (1 - p = 0 ↔ s.hilRampTimeS ≤ seconds now - s.hilRampStartTime) := by
  unfold rampProgress
  rw [hstart, seconds, lit_def, lit_def, fin_sub]
  obtain ⟨r, hr, hpos'⟩ | hinf := pos_iff.mp hpos
  · rw [hr, fin_div _ _ hpos'.ne', zero_def, clamp_fin]
    refine ⟨_, rfl, ⟨le_clamp zero_le_one, clamp_le zero_le_one⟩, ?_⟩
    rw [sub_eq_zero, eq_comm, clamp_unit_eq_one_iff, le_div_iff₀ hpos', one_mul, fin_le]
  · rw [hinf]
    refine ⟨clamp 0 0 1, clamp_fin 0 0 1, ?_⟩
    rw [clamp_of_mem (le_refl 0) zero_le_one]
    exact ⟨⟨le_refl 0, zero_le_one⟩, iff_of_false (by norm_num) Bool.false_ne_true⟩

/-- The factor is a number between zero and one, even where the load is none. -/
theorem rampFactor_eq_fin (now : Time) {start : ℚ} (hstart : s.hilRampStartTime = fin start) :
    ∃ p, s.rampFactor now = fin p ∧ 0 ≤ p ∧ p ≤ 1 := by
  unfold rampFactor
  by_cases hpos : 0 < s.hilRampTimeS
  · obtain ⟨p, hp, ⟨hlow, hhigh⟩, _⟩ := rampProgress_eq now hstart hpos
    rw [if_pos hpos, if_pos hpos, hp, lit_def, fin_sub]
    split
    · exact ⟨p, rfl, hlow, hhigh⟩
    · exact ⟨1 - p, rfl, by linarith, by linarith⟩
  · rw [if_neg hpos, if_neg hpos]
    split
    · exact ⟨1, rfl, zero_le_one, le_refl 1⟩
    · exact ⟨0, rfl, le_refl 0, zero_le_one⟩

/-- A gate that is not shut multiplies, also a NaN. -/
theorem rampGate_extended (now : Time) (tau : ExtRat) :
    (s.Shut → s.rampGate now tau = 0) ∧
      (¬s.Shut → s.rampGate now tau = tau * s.rampFactor now) := by
  have hone : tau * fin 1 = tau := by
    cases tau with
    | fin q => rw [fin_mul, mul_one]
    | posInf => exact posInf_mul_fin one_pos
    | negInf => exact negInf_mul_fin one_pos
    | nan => rfl
  unfold Shut rampGate rampFactor
  rw [lit_def]
  by_cases hpos : 0 < s.hilRampTimeS
  · simp only [if_pos hpos]
    refine ⟨fun h => absurd hpos h.2, fun _ => ?_⟩
    split
    · rfl
    · rfl
  · simp only [if_neg hpos]
    cases s.hilEngaged with
    | true => exact ⟨fun h => absurd h.1 Bool.noConfusion, fun _ => hone.symm⟩
    | false => exact ⟨fun _ => rfl, fun h => absurd ⟨rfl, hpos⟩ h⟩

/-- The gate publishes zero when it is shut, and otherwise of a number that is zero or
whose factor is. -/
theorem rampGate_eq_zero_iff {now : Time} {start : ℚ}
    (hstart : s.hilRampStartTime = fin start) (tau : ExtRat) :
    s.rampGate now tau = 0 ↔
      s.Shut ∨ (tau.IsFinite ∧ (tau = 0 ∨ s.rampFactor now = 0)) := by
  obtain ⟨hshut, hopen⟩ := s.rampGate_extended now tau
  by_cases h : s.Shut
  · exact iff_of_true (hshut h) (Or.inl h)
  · obtain ⟨p, hp, _⟩ := s.rampFactor_eq_fin now hstart
    rw [hopen h, hp, mul_fin_eq_zero_iff, or_iff_right h, zero_def, fin.injEq]

end Extended

section Clock

variable {α : Type} [Double α] (env : FlapEnvironment σ κ α) (l : Launch α) (t₀ : Time)

/-- The ramp starts at the clock of a call, or of the start. -/
theorem run_rampStart (hmode : (start env l t₀).mode = .hil) (es : List (Timed (FlapEvent α))) :
    ∃ t : Time, (run (step env) (start env l t₀) es).hilRampStartTime = seconds t := by
  have hclock := (HilView.run_gate (v := (start env l t₀).hilView) hmode es).2
  have hstart : (start env l t₀).hilView.hilRampStartTime = seconds t₀ := rfl
  rw [← run_hilView env, hstart] at hclock
  cases hlast : lastSome HilView.engageCall es with
  | none =>
      rw [hlast] at hclock
      exact ⟨t₀, hclock⟩
  | some c =>
      rw [hlast] at hclock
      exact ⟨c.2, hclock⟩

end Clock

/-- What a call of the service throws away at a tick, in seconds of the ramp: a
call that repeats the setting in force what the ramp has gone, one that
reverses it what it still had to go. -/
def thrownAway (s : ChronoFlapNode σ κ ℚ) (now : Time) (data : Bool) : ℚ :=
  let gone := clamp (seconds now - s.hilRampStartTime) 0 s.hilRampTimeS
  if data = s.hilEngaged then gone else s.hilRampTimeS - gone

/-! ## Two ticks -/

section Ticks

variable {s s' : ChronoFlapNode σ κ ℚ} {t₁ t₂ : Time}

/-- The same ramp at two ticks. -/
theorem rampFactor_same_ramp (hramp : 0 < s.hilRampTimeS)
    (hengaged : s'.hilEngaged = s.hilEngaged) (hstart : s'.hilRampStartTime = s.hilRampStartTime)
    (htime : s'.hilRampTimeS = s.hilRampTimeS) (hle : t₁ ≤ t₂) :
    |s'.rampFactor t₂ - s.rampFactor t₁| ≤ seconds (t₂ - t₁) / s.hilRampTimeS := by
  have hprogress : |s'.rampProgress t₂ - s.rampProgress t₁| ≤
      seconds (t₂ - t₁) / s.hilRampTimeS := by
    have hsec : (seconds t₁ : ℚ) ≤ seconds t₂ := seconds_le_iff.mpr hle
    unfold rampProgress
    rw [hstart, htime]
    refine (abs_clamp_sub_clamp_le zero_le_one).trans ?_
    rw [← sub_div, abs_div, abs_of_pos hramp, seconds_sub, sub_sub_sub_cancel_right,
      abs_of_nonneg (by linarith)]
  rw [rampFactor_eq t₂ (by rw [htime]; exact hramp), rampFactor_eq t₁ hramp, hengaged]
  cases s.hilEngaged with
  | true => exact hprogress
  | false =>
      rw [if_neg Bool.false_ne_true, if_neg Bool.false_ne_true, sub_sub_sub_cancel_left,
        abs_sub_comm]
      exact hprogress

/-- A call between two ticks restarts the ramp from one end.  Measured from that
end, the factor at the first tick is the share of the ramp that the call throws
away. -/
theorem exists_share (t₁ t₂ : Time) (hramp : 0 < s.hilRampTimeS) {data : Bool}
    (hengaged : s'.hilEngaged = data) (htime : s'.hilRampTimeS = s.hilRampTimeS) :
    ∃ q, (0 ≤ q ∧ q ≤ 1) ∧
      |s'.rampFactor t₂ - s.rampFactor t₁| = |s'.rampProgress t₂ - q| ∧
      s.thrownAway t₁ data = q * s.hilRampTimeS := by
  obtain ⟨hlow, hhigh⟩ := s.rampProgress_mem t₁
  have hgone : s.rampProgress t₁ * s.hilRampTimeS =
      clamp (seconds t₁ - s.hilRampStartTime) 0 s.hilRampTimeS := clamp_div_mul hramp
  have hleft : s.hilRampTimeS - s.rampProgress t₁ * s.hilRampTimeS =
      (1 - s.rampProgress t₁) * s.hilRampTimeS := by ring
  have hleft_mem : 0 ≤ 1 - s.rampProgress t₁ ∧ 1 - s.rampProgress t₁ ≤ 1 :=
    ⟨by linarith, by linarith⟩
  unfold thrownAway
  rw [rampFactor_eq t₂ (by rw [htime]; exact hramp), rampFactor_eq t₁ hramp, hengaged, ← hgone]
  -- a repeated setting throws away what the ramp has gone, a reversed one the rest
  cases data with
  | true =>
      cases s.hilEngaged with
      | true => exact ⟨s.rampProgress t₁, ⟨hlow, hhigh⟩, rfl, rfl⟩
      | false => exact ⟨1 - s.rampProgress t₁, hleft_mem, rfl, hleft⟩
  | false =>
      cases s.hilEngaged with
      | true =>
          refine ⟨1 - s.rampProgress t₁, hleft_mem, ?_, hleft⟩
          show |1 - s'.rampProgress t₂ - s.rampProgress t₁| = _
          rw [sub_right_comm, abs_sub_comm]
      | false =>
          refine ⟨s.rampProgress t₁, ⟨hlow, hhigh⟩, ?_, rfl⟩
          show |1 - s'.rampProgress t₂ - (1 - s.rampProgress t₁)| = _
          rw [sub_sub_sub_cancel_left, abs_sub_comm]

/-- A ramp restarted between two ticks, by a call at `called`. -/
theorem rampFactor_restarted (hramp : 0 < s.hilRampTimeS) {called : Time} {data : Bool}
    (hengaged : s'.hilEngaged = data) (hstart : s'.hilRampStartTime = seconds called)
    (htime : s'.hilRampTimeS = s.hilRampTimeS) (hcalled : t₁ ≤ called) (hle : called ≤ t₂) :
    |s'.rampFactor t₂ - s.rampFactor t₁| ≤ seconds (t₂ - t₁) / s.hilRampTimeS ↔
      s.thrownAway t₁ data ≤ seconds (t₂ - called) + seconds (t₂ - t₁) := by
  have hsec₁ : (seconds t₁ : ℚ) ≤ seconds called := seconds_le_iff.mpr hcalled
  have hsec₂ : (seconds called : ℚ) ≤ seconds t₂ := seconds_le_iff.mpr hle
  have hprogress : s'.rampProgress t₂ = clamp (seconds (t₂ - called) / s.hilRampTimeS) 0 1 := by
    unfold rampProgress
    rw [hstart, htime, seconds_sub]
    rfl
  have hgone : (0 : ℚ) ≤ seconds (t₂ - called) / s.hilRampTimeS := by
    rw [seconds_sub]
    exact div_nonneg (by linarith) hramp.le
  have hshorter : seconds (t₂ - called) / s.hilRampTimeS ≤
      seconds (t₂ - t₁) / s.hilRampTimeS := by
    rw [div_le_div_iff_of_pos_right hramp, seconds_sub, seconds_sub]
    linarith
  obtain ⟨q, hq, hfactor, hthrown⟩ := exists_share t₁ t₂ hramp hengaged htime
  rw [hfactor, hthrown, hprogress, abs_clamp_sub_le_iff hgone hshorter hq, ← add_div,
    le_div_iff₀ hramp]

end Ticks

/-! ## Runs of constant ramp time -/

/-- The event is no batch that names the ramp time. -/
def KeepsRampTime (e : Timed (FlapEvent ℚ)) : Prop :=
  ∀ batch, e.event = .setParameters batch → ∀ p ∈ batch, p.name ≠ "hil_ramp_time_s"

/-- The run has a tick at `t₁` after `pre` and its next tick at `t₂`, with `mid`
between them. -/
structure ConsecutiveTicks (es pre : List (Timed (FlapEvent ℚ))) (t₁ : Time)
    (mid : List (Timed (FlapEvent ℚ))) (t₂ : Time) : Prop where
  split : ∃ post, es = pre ++ ⟨t₁, .tick⟩ :: (mid ++ ⟨t₂, .tick⟩ :: post)
  noTick : ∀ e ∈ mid, e.event ≠ .tick
  later : t₁ < t₂

section Consecutive

variable {es pre mid : List (Timed (FlapEvent ℚ))} {t₀ t₁ t₂ : Time}

theorem ConsecutiveTicks.mem_of_mem_pre (h : ConsecutiveTicks es pre t₁ mid t₂)
    {e : Timed (FlapEvent ℚ)} (he : e ∈ pre) : e ∈ es := by
  obtain ⟨post, rfl⟩ := h.split
  exact List.mem_append_left _ he

theorem ConsecutiveTicks.mem_of_mem_mid (h : ConsecutiveTicks es pre t₁ mid t₂)
    {e : Timed (FlapEvent ℚ)} (he : e ∈ ⟨t₁, .tick⟩ :: mid) : e ∈ es := by
  obtain ⟨post, rfl⟩ := h.split
  refine List.mem_append_right _ ?_
  rcases List.mem_cons.mp he with rfl | he
  · exact List.mem_cons_self
  · exact List.mem_cons_of_mem _ (List.mem_append_left _ he)

/-- A call between two ticks is made at a time between them. -/
theorem ConsecutiveTicks.called_mem (h : ConsecutiveTicks es pre t₁ mid t₂)
    (hordered : Ordered t₀ es) {data : Bool} {called : Time}
    (hcall : lastSome HilView.engageCall mid = some (data, called)) :
    t₁ ≤ called ∧ called ≤ t₂ := by
  obtain ⟨post, rfl⟩ := h.split
  obtain ⟨before, e, rest, rfl, he, _⟩ := lastSome_eq_some_iff.mp hcall
  obtain rfl := HilView.engageCall_eq_some he
  have htail : Ordered t₁ ((before ++ ⟨called, .engageHil data⟩ :: rest) ++ ⟨t₂, .tick⟩ :: post) :=
    hordered.tail
  have hmem : (⟨called, .engageHil data⟩ : Timed (FlapEvent ℚ)) ∈
      before ++ ⟨called, .engageHil data⟩ :: rest :=
    List.mem_append_right _ List.mem_cons_self
  constructor
  · exact htail.start_le (List.mem_append_left _ hmem)
  · exact htail.le_of_append hmem List.mem_cons_self

end Consecutive

/-- Between consecutive ticks the factor changes by at most the time between
them over the ramp time. -/
def SmoothRamp (env : FlapEnvironment σ κ ℚ) (s : ChronoFlapNode σ κ ℚ)
    (es : List (Timed (FlapEvent ℚ))) : Prop :=
  ∀ pre t₁ mid t₂, ConsecutiveTicks es pre t₁ mid t₂ →
    |(run (step env) s (pre ++ ⟨t₁, .tick⟩ :: mid)).rampFactor t₂ -
        (run (step env) s pre).rampFactor t₁| ≤
      seconds (t₂ - t₁) / s.hilRampTimeS

/-- The last call between two consecutive ticks, if there is one, throws away no
more than the ramp can make up for: what it has gone since the call, and what a
ramp goes from tick to tick. -/
def CallsSmooth (env : FlapEnvironment σ κ ℚ) (s : ChronoFlapNode σ κ ℚ)
    (es : List (Timed (FlapEvent ℚ))) : Prop :=
  ∀ pre t₁ mid t₂, ConsecutiveTicks es pre t₁ mid t₂ →
    ∀ data called, lastSome HilView.engageCall mid = some (data, called) →
      (run (step env) s pre).thrownAway t₁ data ≤
        seconds (t₂ - called) + seconds (t₂ - t₁)

theorem rampTimeUpdate_of_keeps (store : ParameterStore ℚ) {e : Timed (FlapEvent ℚ)}
    (h : KeepsRampTime e) : HilView.rampTimeUpdate store e = none := by
  unfold HilView.rampTimeUpdate
  split
  · rename_i batch hevent
    split
    · rw [lastSome_eq_none_iff]
      intro p hp
      exact if_neg (h batch hevent p hp)
    · rfl
  · rfl

section Run

variable (env : FlapEnvironment σ κ ℚ) {s : ChronoFlapNode σ κ ℚ}

/-- A run of constant ramp time, as far as the gate goes. -/
theorem run_gate_of_keeps (hmode : s.mode = .hil) {es : List (Timed (FlapEvent ℚ))}
    (hkeeps : ∀ e ∈ es, KeepsRampTime e) :
    (run (step env) s es).mode = .hil ∧
      (run (step env) s es).hilRampTimeS = s.hilRampTimeS ∧
      (run (step env) s es).hilEngaged =
        ((lastSome HilView.engageCall es).map Prod.fst).getD s.hilEngaged ∧
      (run (step env) s es).hilRampStartTime =
        ((lastSome HilView.engageCall es).map fun c => seconds c.2).getD s.hilRampStartTime := by
  have hview := run_hilView env s es
  have hmode' := HilView.run_mode (v := s.hilView) hmode es
  have hramp := HilView.run_rampTime (v := s.hilView) hmode es
  obtain ⟨hengaged, hstart⟩ := HilView.run_gate (v := s.hilView) hmode es
  have hnone : lastSome (HilView.rampTimeUpdate s.hilView.parameters) es = none :=
    lastSome_eq_none_iff.mpr fun e he => rampTimeUpdate_of_keeps _ (hkeeps e he)
  rw [hnone] at hramp
  rw [← hview] at hmode' hramp hengaged hstart
  exact ⟨hmode', hramp, hengaged, hstart⟩

/-- One pair of consecutive ticks. -/
theorem rampFactor_change_iff (hmode : s.mode = .hil) (hramp : 0 < s.hilRampTimeS) {t₀ : Time}
    {es : List (Timed (FlapEvent ℚ))} (hordered : Ordered t₀ es)
    (hkeeps : ∀ e ∈ es, KeepsRampTime e) {pre mid : List (Timed (FlapEvent ℚ))} {t₁ t₂ : Time}
    (hticks : ConsecutiveTicks es pre t₁ mid t₂) :
    |(run (step env) s (pre ++ ⟨t₁, .tick⟩ :: mid)).rampFactor t₂ -
        (run (step env) s pre).rampFactor t₁| ≤ seconds (t₂ - t₁) / s.hilRampTimeS ↔
      ∀ data called, lastSome HilView.engageCall mid = some (data, called) →
        (run (step env) s pre).thrownAway t₁ data ≤
          seconds (t₂ - called) + seconds (t₂ - t₁) := by
  obtain ⟨hmode₁, hramp₁, _, _⟩ :=
    run_gate_of_keeps env hmode fun e he => hkeeps e (hticks.mem_of_mem_pre he)
  rw [run_append]
  generalize run (step env) s pre = s₁ at hmode₁ hramp₁ ⊢
  obtain ⟨_, hramp₂, hengaged₂, hstart₂⟩ :=
    run_gate_of_keeps env hmode₁ fun e he => hkeeps e (hticks.mem_of_mem_mid he)
  rw [lastSome_cons_of_none rfl] at hengaged₂ hstart₂
  rw [← hramp₁] at hramp ⊢
  cases hcall : lastSome HilView.engageCall mid with
  | none =>
      rw [hcall] at hengaged₂ hstart₂
      refine iff_of_true ?_ nofun
      exact rampFactor_same_ramp hramp hengaged₂ hstart₂ hramp₂ hticks.later.le
  | some c =>
      obtain ⟨data, called⟩ := c
      rw [hcall] at hengaged₂ hstart₂
      obtain ⟨hafter, hbefore⟩ := hticks.called_mem hordered hcall
      rw [rampFactor_restarted hramp hengaged₂ hstart₂ hramp₂ hafter hbefore]
      constructor
      · rintro h _ _ ⟨⟩
        exact h
      · intro h
        exact h data called rfl

/-- **Which calls keep the ramp smooth.**  In every run of constant, positive
ramp time, from every state in `hil` mode, the factor never jumps between
consecutive ticks exactly when no call throws away more than the ramp can make
up for. -/
theorem smoothRamp_iff (hmode : s.mode = .hil) (hramp : 0 < s.hilRampTimeS) {t₀ : Time}
    {es : List (Timed (FlapEvent ℚ))} (hordered : Ordered t₀ es)
    (hkeeps : ∀ e ∈ es, KeepsRampTime e) :
    SmoothRamp env s es ↔ CallsSmooth env s es := by
  constructor
  · intro h pre t₁ mid t₂ hticks
    have hpair := rampFactor_change_iff env hmode hramp hordered hkeeps hticks
    exact hpair.mp (h pre t₁ mid t₂ hticks)
  · intro h pre t₁ mid t₂ hticks
    have hpair := rampFactor_change_iff env hmode hramp hordered hkeeps hticks
    exact hpair.mpr (h pre t₁ mid t₂ hticks)

end Run

/-! ## A call that changes nothing -/

/-- The node in `hil` mode with every other parameter at its default. -/
def startHil : ChronoFlapNode Unit Empty ℚ :=
  start .bare (Launch.empty.withString "mode" "hil") 0

/-- A call between two ticks, from 2 s after the start. -/
def callBetweenTicks (data : Bool) : List (Timed (FlapEvent ℚ)) :=
  [⟨2000000000, .tick⟩, ⟨2005000000, .engageHil data⟩, ⟨2010000000, .tick⟩]

theorem smoothRamp_iff_engage :
    SmoothRamp .bare startHil (callBetweenTicks true) ↔
      CallsSmooth .bare startHil (callBetweenTicks true) := by
  have hordered : Ordered 0 (callBetweenTicks true) := by simp [Ordered, callBetweenTicks]
  exact smoothRamp_iff .bare (by decide +kernel) (by decide +kernel) hordered
    (by simp [KeepsRampTime, callBetweenTicks])

/-- Two seconds after the start the load is fully disengaged.  A call that
disengages it once more makes the factor jump to 99.5 % within 10 ms. -/
theorem disengage_again_jumps :
    startHil.mode = .hil ∧ startHil.hilRampTimeS = 1 ∧ startHil.rampFactor 2000000000 = 0 ∧
      ¬SmoothRamp .bare startHil (callBetweenTicks false) := by
  refine ⟨by decide +kernel, by decide +kernel, by decide +kernel, ?_⟩
  intro h
  have hjump := h [] 2000000000 [⟨2005000000, .engageHil false⟩] 2010000000
    ⟨⟨[], rfl⟩, by simp, by norm_num⟩
  have hlarge : ¬|(run (step .bare) startHil
      [⟨2000000000, .tick⟩, ⟨2005000000, .engageHil false⟩]).rampFactor 2010000000 -
        (run (step .bare) startHil []).rampFactor 2000000000| ≤
      seconds (2010000000 - 2000000000) / startHil.hilRampTimeS := by
    decide +kernel
  exact hlarge hjump

end MarineHil.Ports.ChronoFlapNode
