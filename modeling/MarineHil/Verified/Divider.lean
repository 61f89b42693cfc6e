import Mathlib.Algebra.BigOperators.Group.List.Basic
import Mathlib.Algebra.Order.Ring.Int
import MarineHil.Verified.Run

/-!
# Rate dividers

A counter and an accumulator beside it let a program do on every `k`-th tick what it
would do on each: the counter says when, and the accumulator how much time has passed.
The counter is compared with a threshold that need not be positive.

## Main results

* `run_tick`: the counter and the accumulator after any ticks.
* `onSchedule_of_drives`: a program that drives a divider acts on every
  `period threshold`-th tick, and hands on the time since it acted before.
* `OnSchedule.dvd`: two schedules of one run.
-/

namespace MarineHil.Verified

variable {σ ε γ δ : Type}

/-- The sum of the last `k` entries. -/
def lastSum [Zero γ] [Add γ] (k : ℕ) (dts : List γ) : γ := (dts.drop (dts.length - k)).sum

section LastSum

variable [AddMonoid γ]

theorem lastSum_zero (dts : List γ) : lastSum 0 dts = 0 := by
  rw [lastSum, Nat.sub_zero, List.drop_length, List.sum_nil]

theorem lastSum_concat {k : ℕ} {dts : List γ} (h : k ≤ dts.length) (dt : γ) :
    lastSum (k + 1) (dts ++ [dt]) = lastSum k dts + dt := by
  have hdrop : (dts ++ [dt]).length - (k + 1) = dts.length - k := by
    rw [List.length_append, List.length_singleton]
    omega
  rw [lastSum, hdrop, List.drop_append_of_le_length (Nat.sub_le _ _), List.sum_append,
    List.sum_singleton]
  rfl

end LastSum

structure Divider (γ : Type) where
  counter : ℤ
  accum : γ

namespace Divider

/-- The divider fires on this tick. -/
def fires (threshold : ℤ) (d : Divider γ) : Bool := decide (threshold ≤ d.counter + 1)

/-- The ticks from one firing to the next. -/
def period (threshold : ℤ) : ℕ := (max 1 threshold).toNat

theorem period_pos (threshold : ℤ) : 0 < period threshold := by
  unfold period
  omega

variable [Zero γ] [Add γ]

/-- A divider that starts anew. -/
def zero : Divider γ := ⟨0, 0⟩

def tick (threshold : ℤ) (d : Divider γ) (dt : γ) : Divider γ :=
  if d.fires threshold then zero else ⟨d.counter + 1, d.accum + dt⟩

end Divider

/-- The remainder that the next number brings to a whole period. -/
theorem dvd_succ_iff {k : ℕ} (hk : 0 < k) (n : ℕ) : k ∣ n + 1 ↔ n % k + 1 = k := by
  have hlt := Nat.mod_lt n hk
  rw [Nat.dvd_iff_mod_eq_zero, ← Nat.mod_add_mod]
  constructor
  · intro hzero
    by_contra hne
    rw [Nat.mod_eq_of_lt (by omega)] at hzero
    omega
  · intro hfull
    rw [hfull, Nat.mod_self]

/-- The remainder counts up to the period and starts anew. -/
theorem succ_mod {k : ℕ} (hk : 0 < k) (n : ℕ) :
    (n + 1) % k = if k ∣ n + 1 then 0 else n % k + 1 := by
  have hlt := Nat.mod_lt n hk
  split_ifs with hdvd
  · exact Nat.mod_eq_zero_of_dvd hdvd
  · rw [dvd_succ_iff hk] at hdvd
    rw [← Nat.mod_add_mod]
    exact Nat.mod_eq_of_lt (by omega)

namespace Divider

section Run

variable (threshold : ℤ)

/-- With `n` ticks behind it, a divider fires on each tick that makes whole periods. -/
theorem fires_iff (n : ℕ) (accum : γ) :
    fires threshold (⟨(n % period threshold : ℕ), accum⟩ : Divider γ) =
      decide (period threshold ∣ n + 1) := by
  have hlt := Nat.mod_lt n (period_pos threshold)
  rw [fires, decide_eq_decide, dvd_succ_iff (period_pos threshold)]
  show threshold ≤ ((n % period threshold : ℕ) : ℤ) + 1 ↔ _
  generalize n % period threshold = r at hlt ⊢
  unfold period at *
  omega

variable [AddMonoid γ]

/-- **The counter holds the ticks since the last firing, and the accumulator their time.** -/
theorem run_tick (dts : List γ) :
    run (tick threshold) zero dts =
      ⟨(dts.length % period threshold : ℕ), lastSum (dts.length % period threshold) dts⟩ := by
  induction dts using List.reverseRecOn with
  | nil =>
      rw [List.length_nil, Nat.zero_mod, lastSum_zero]
      rfl
  | append_singleton dts dt ih =>
      rw [run_concat, ih, List.length_append, List.length_singleton,
        succ_mod (period_pos threshold), tick, fires_iff]
      by_cases hdvd : period threshold ∣ dts.length + 1
      · rw [if_pos (decide_eq_true hdvd), if_pos hdvd, lastSum_zero]
        rfl
      · rw [if_neg (by simpa using hdvd), if_neg hdvd,
          lastSum_concat (Nat.mod_le _ _)]
        rfl

/-- The time a firing tick hands on is that of its whole period. -/
theorem accum_add {dts : List γ} (hdvd : period threshold ∣ dts.length + 1) (dt : γ) :
    (run (tick threshold) zero dts).accum + dt = lastSum (period threshold) (dts ++ [dt]) := by
  have hfull := (dvd_succ_iff (period_pos threshold) dts.length).mp hdvd
  rw [run_tick, ← lastSum_concat (Nat.mod_le _ _), hfull]

end Run

end Divider

/-! ## Programs that drive a divider -/

/-- A program with ticks, some of which hand the time that has passed on to an
activity; the activity writes what the program holds between. -/
structure Divided (σ ε γ δ : Type) where
  step : σ → ε → σ
  /-- The step of time of an event that is a tick. -/
  tickDt : σ → ε → Option γ
  /-- The time an event hands on, if it does. -/
  handsOn : σ → ε → Option γ
  divider : σ → Divider γ
  held : σ → δ

namespace Divided

variable [AddMonoid γ] (p : Divided σ ε γ δ)

/-- The event drives the divider, and acts when it fires. -/
structure Drives (threshold : ℤ) (s : σ) (e : ε) : Prop where
  divider : p.divider (p.step s e) =
    run (Divider.tick threshold) (p.divider s) (p.tickDt s e).toList
  handsOn : ∀ dt, p.tickDt s e = some dt → p.handsOn s e =
    if (p.divider s).fires threshold then some ((p.divider s).accum + dt) else none
  held : ∀ dt, p.tickDt s e = some dt → (p.divider s).fires threshold = false →
    p.held (p.step s e) = p.held s

/-- The program acts on exactly the ticks `k`, `2 * k`, `3 * k` and so on of a run; it
hands on the time of the last `k` ticks; and the other ticks leave what it holds. -/
def OnSchedule (k : ℕ) (s : σ) (es : List ε) : Prop :=
  ∀ pre e post dt, es = pre ++ e :: post → p.tickDt (run p.step s pre) e = some dt →
    let dts := outputs p.step p.tickDt s pre
    p.handsOn (run p.step s pre) e =
        (if k ∣ dts.length + 1 then some (lastSum k (dts ++ [dt])) else none) ∧
      (¬k ∣ dts.length + 1 →
        p.held (p.step (run p.step s pre) e) = p.held (run p.step s pre))

variable {p} {s : σ} {es : List ε}

/-- An event that is no tick passes the divider by. -/
theorem drives_of_none {threshold : ℤ} {e : ε} (htick : p.tickDt s e = none)
    (hdivider : p.divider (p.step s e) = p.divider s) : p.Drives threshold s e := by
  refine ⟨?_, fun dt hdt => ?_, fun dt hdt => ?_⟩
  · rw [hdivider, htick]
    rfl
  · cases htick.symm.trans hdt
  · cases htick.symm.trans hdt

/-- What a tick has to do. -/
theorem drives_of_some {threshold : ℤ} {e : ε} {dt : γ} (htick : p.tickDt s e = some dt)
    (hdivider : p.divider (p.step s e) = (p.divider s).tick threshold dt)
    (hhands : p.handsOn s e =
      if (p.divider s).fires threshold then some ((p.divider s).accum + dt) else none)
    (hheld : (p.divider s).fires threshold = false → p.held (p.step s e) = p.held s) :
    p.Drives threshold s e := by
  refine ⟨?_, fun dt' hdt => ?_, fun _ _ => hheld⟩
  · rw [hdivider, htick]
    rfl
  · obtain rfl := Option.some.inj (htick.symm.trans hdt)
    exact hhands

/-- **A program that drives a divider keeps its schedule.** -/
theorem onSchedule_of_drives {threshold : ℤ} (hstart : p.divider s = .zero)
    (h : Along p.step (p.Drives threshold) s es) :
    p.OnSchedule (Divider.period threshold) s es := by
  intro pre e post dt hes htick dts
  have hdrives := h pre e post hes
  have hpre : Along p.step (fun t d => p.divider (p.step t d) =
      run (Divider.tick threshold) (p.divider t) (p.tickDt t d).toList) s pre := by
    intro before d after hsplit
    refine (h before d (after ++ e :: post) ?_).divider
    rw [hes, hsplit, List.append_assoc, List.cons_append]
  have hdivider : p.divider (run p.step s pre) = run (Divider.tick threshold) .zero dts := by
    rw [run_outputs p.divider hpre, hstart]
  have hfires : (p.divider (run p.step s pre)).fires threshold =
      decide (Divider.period threshold ∣ dts.length + 1) := by
    rw [hdivider, Divider.run_tick, Divider.fires_iff]
  constructor
  · rw [hdrives.handsOn dt htick, hfires]
    by_cases hdvd : Divider.period threshold ∣ dts.length + 1
    · rw [if_pos (decide_eq_true hdvd), if_pos hdvd, hdivider, Divider.accum_add threshold hdvd]
    · rw [if_neg (by simpa using hdvd), if_neg hdvd]
  · intro hdvd
    refine hdrives.held dt htick ?_
    rw [hfires]
    exact decide_eq_false hdvd

/-- Where a run acts on its `k`-th tick, any schedule it keeps has a period that
divides `k`. -/
theorem OnSchedule.dvd {k k' : ℕ} (h : p.OnSchedule k s es) (h' : p.OnSchedule k' s es)
    {pre post : List ε} {e : ε} {dt : γ} (hes : es = pre ++ e :: post)
    (htick : p.tickDt (run p.step s pre) e = some dt)
    (hcount : (outputs p.step p.tickDt s pre).length + 1 = k) : k' ∣ k := by
  have hacts := (h pre e post dt hes htick).1
  have hacts' := (h' pre e post dt hes htick).1
  rw [hcount, if_pos (dvd_refl k)] at hacts
  rw [hcount, hacts] at hacts'
  by_contra hdvd
  rw [if_neg hdvd] at hacts'
  cases hacts'

end Divided

end MarineHil.Verified
