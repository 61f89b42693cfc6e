import MarineHil.Verified.Extended
import MarineHil.Ports.MixerHistory

/-!
# The mixer on infinities and NaN

`std::clamp` passes NaN through, and both of the validators reject a limit by
`value <= 0.0`, which NaN and +∞ survive.  So the last safety layer bounds a
command only where the sum of the fresh inputs is a number, or at least ordered
against finite bounds.  `commandsBounded_iff` gives the exact condition on the
inputs, over every history.
-/

namespace MarineHil.Ports.HilTorqueMixerNode

open MarineHil.Verified
open MarineHil.Verified.ExtRat

/-- A published command is a number, within a clip that is a positive number. -/
def BoundedNumber (clip command : ExtRat) : Prop :=
  ∃ q, command = fin q ∧ ∀ b, clip = fin b → 0 < b → |q| ≤ b

/-- Every command of the run is a bounded number. -/
def CommandsBounded (l : Launch ExtRat) (es : List (Timed (MixerEvent ExtRat))) : Prop :=
  ∀ pre now post, es = pre ++ ⟨now, .tick⟩ :: post →
    BoundedNumber (hardClipInForce l pre) ((run step (start l) pre).command now)

/-- Two inputs add up to something other than NaN. -/
def NumberSum (p q : ExtRat) : Prop :=
  p ≠ nan ∧ q ≠ nan ∧ ¬(p = posInf ∧ q = negInf) ∧ ¬(p = negInf ∧ q = posInf)

/-- What a tick needs of its inputs: with a finite clip their sum is not NaN,
and with any other clip both are numbers. -/
def InputsSafe (clip p q : ExtRat) : Prop :=
  (clip.IsFinite ∧ NumberSum p q) ∨ (p.IsFinite ∧ q.IsFinite)

theorem numberSum_iff {p q : ExtRat} : NumberSum p q ↔ p + q ≠ nan := by
  rw [Ne, add_eq_nan_iff, NumberSum]
  tauto

/-- A clip that is not `≤ 0` is a positive number, +∞ or NaN. -/
theorem clip_cases {c : ExtRat} (h : ¬c ≤ 0) : (∃ b, c = fin b ∧ 0 < b) ∨ c = posInf ∨ c = nan := by
  cases c with
  | fin b =>
      rw [zero_def, fin_le] at h
      exact Or.inl ⟨b, rfl, not_le.mp h⟩
  | posInf => exact Or.inr (Or.inl rfl)
  | negInf => exact absurd rfl h
  | nan => exact Or.inr (Or.inr rfl)

/-- One clamp: the exact condition for a bounded number. -/
theorem boundedNumber_clamp_iff {c p q : ExtRat} (hc : ¬c ≤ 0) :
    BoundedNumber c (clamp (p + q) (-c) c) ↔ InputsSafe c p q := by
  have hinfinite (hclip : ∀ b, c ≠ fin b) (hpass : clamp (p + q) (-c) c = p + q) :
      BoundedNumber c (clamp (p + q) (-c) c) ↔ InputsSafe c p q := by
    have hnot : ¬c.IsFinite := fun hf => by
      obtain ⟨b, hb⟩ := isFinite_iff.mp hf
      exact hclip b hb
    rw [hpass, InputsSafe, ← isFinite_add_iff]
    constructor
    · rintro ⟨r, hr, _⟩
      exact Or.inr (isFinite_iff.mpr ⟨r, hr⟩)
    · rintro (⟨hf, _⟩ | hsum)
      · exact absurd hf hnot
      · obtain ⟨r, hr⟩ := isFinite_iff.mp hsum
        exact ⟨r, hr, fun b hb => absurd hb (hclip b)⟩
  rcases clip_cases hc with ⟨b, rfl, hb⟩ | rfl | rfl
  · constructor
    · rintro ⟨r, hr, _⟩
      refine Or.inl ⟨trivial, numberSum_iff.mpr fun hnan => ?_⟩
      rw [hnan, clamp_nan] at hr
      cases hr
    · intro hsafe
      have hnum : p + q ≠ nan := by
        rcases hsafe with ⟨_, hsum⟩ | ⟨hp, hq⟩
        · exact numberSum_iff.mp hsum
        · exact (hp.add hq).ne_nan
      obtain ⟨r, hr, hle⟩ := clamp_finite_bound hnum hb.le
      refine ⟨r, hr, ?_⟩
      rintro b' hb' _
      cases hb'
      exact hle
  · exact hinfinite (fun b hb => by cases hb) (clamp_infinite_bound _)
  · exact hinfinite (fun b hb => by cases hb) (clamp_nan_bounds _)

/-- **When every command of a run is a bounded number.**  Exactly when at
every tick the inputs that count (fresh, and for the load enabled) are safe
for the clip in force. -/
theorem commandsBounded_iff (l : Launch ExtRat) (es : List (Timed (MixerEvent ExtRat))) :
    CommandsBounded l es ↔
      ∀ pre now post, es = pre ++ ⟨now, .tick⟩ :: post →
        InputsSafe (hardClipInForce l pre) (pidInput l pre now) (loadInput l pre now) := by
  have hdefault : ¬(lit 0.5 : ExtRat) ≤ 0 := by
    rw [lit_def, zero_def, fin_le]
    norm_num
  have htick (pre : List (Timed (MixerEvent ExtRat))) (now : Time) :
      BoundedNumber (hardClipInForce l pre) ((run step (start l) pre).command now) ↔
        InputsSafe (hardClipInForce l pre) (pidInput l pre now) (loadInput l pre now) := by
    rw [command_eq]
    exact boundedNumber_clamp_iff (hardClipInForce_not_nonpos l pre hdefault)
  constructor
  · intro h pre now post hes
    exact (htick pre now).mp (h pre now post hes)
  · intro h pre now post hes
    exact (htick pre now).mpr (h pre now post hes)

/-- One NaN on the PID input, 5 ms before a tick, reaches the motor command. -/
theorem nan_payload_published :
    ¬CommandsBounded Launch.empty
      [⟨0, .pid [nan]⟩, ⟨5000000, .tick⟩] := by
  intro h
  obtain ⟨q, hq, _⟩ := h [⟨0, .pid [nan]⟩] 5000000 [] rfl
  have hnan : (run step (start Launch.empty) [⟨0, .pid [nan]⟩]).command 5000000 = nan := by
    decide +kernel
  rw [hnan] at hq
  cases hq

end MarineHil.Ports.HilTorqueMixerNode
