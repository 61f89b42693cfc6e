import MarineHil.Verified.Window
import MarineHil.Ports.ChronoFlapHistory

/-!
# The rolling clip percentage of `chrono_flap_node`

Every tick pushes one flag to `clip_engaged_history_`, pops the oldest beyond 100,
and publishes the share that is set.  The flag is computed by the adapter, or left
at its default when the adapter does not run; either way it says whether the two
torques published at that tick differ.

## Main results

* `tick_wasClipped`: the flag against the published torques.
* `run_clipEngagedHistory`: the history is the last 100 flags of the run.
* `clipPercentage`: the published percentage, in every mode.
-/

namespace MarineHil.Ports

open MarineHil.Verified

/-- The published torques differ. -/
def HydroStepResult.clipped (r : HydroStepResult ℚ) : Bool :=
  decide (r.torqueRawNm ≠ r.torqueClipNm)

namespace ChronoFlapNode

variable {σ κ : Type} (env : FlapEnvironment σ κ ℚ) (s : ChronoFlapNode σ κ ℚ)

/-! ## One tick -/

/-- The adapter's flag, and its default, say whether the torques differ. -/
theorem hydroStep_wasClipped (sys : σ) (t : ℚ) :
    (resultOf (s.hydroStep env sys t)).wasClipped = (resultOf (s.hydroStep env sys t)).clipped := by
  unfold hydroStep
  cases s.hydroAdapter with
  | none => rfl
  | some a =>
      dsimp only
      split
      · exact decide_not.symm
      · rfl

theorem tick_wasClipped (now : Time) :
    (s.tick env now).hydro.wasClipped = (s.tick env now).hydro.clipped := by
  unfold tick
  split
  · show (resultOf (if s.feedbackOk now then s.measuredHydroStep env now else none)).wasClipped =
      (resultOf (if s.feedbackOk now then s.measuredHydroStep env now else none)).clipped
    split
    · exact s.hydroStep_wasClipped env _ _
    · rfl
  · exact s.hydroStep_wasClipped env _ _

theorem afterHydro_clipEngagedHistory (h : Option (HydroStep σ κ ℚ)) :
    (s.afterHydro h).clipEngagedHistory = s.clipEngagedHistory := by
  cases h <;> rfl

/-- A tick pushes its flag, and publishes the share of the flags that are set. -/
theorem tick_clipEngagedHistory (now : Time) :
    (s.tick env now).node.clipEngagedHistory =
        push 100 s.clipEngagedHistory (s.tick env now).hydro.clipped ∧
      (s.tick env now).clipEngagedPct = (s.tick env now).node.clipEngagedPct := by
  rw [← tick_wasClipped]
  unfold tick
  split
  · refine ⟨?_, rfl⟩
    show push 100 (s.afterHydro _).clipEngagedHistory _ = _
    rw [afterHydro_clipEngagedHistory]
    rfl
  · refine ⟨?_, rfl⟩
    show push 100 ((s.afterShadow _).afterHydro _).clipEngagedHistory _ = _
    rw [afterHydro_clipEngagedHistory, afterShadow]
    split <;> rfl

/-! ## Runs -/

/-- The hydro telemetry a tick publishes. -/
def hydroTelemetry (e : Timed (FlapEvent ℚ)) : Option (HydroStepResult ℚ) :=
  match e.event with
  | .tick => some (s.tick env e.time).hydro
  | _ => none

theorem step_clipEngagedHistory (e : Timed (FlapEvent ℚ)) :
    (s.step env e).clipEngagedHistory =
      run (fun window (r : HydroStepResult ℚ) => push 100 window r.clipped) s.clipEngagedHistory
        (s.hydroTelemetry env e).toList := by
  have hquiet (htick : e.event ≠ .tick) (hbatch : ∀ batch, e.event ≠ .setParameters batch) :
      (s.step env e).clipEngagedHistory = s.clipEngagedHistory := by
    obtain ⟨i, hstep⟩ := s.step_receive env htick hbatch
    rw [hstep]
    rfl
  obtain ⟨time, event⟩ := e
  cases event with
  | tick => exact (s.tick_clipEngagedHistory env time).1
  | setParameters batch =>
      exact s.setParameters_frame (fun t => t.clipEngagedHistory) (fun _ _ => rfl)
        (fun _ _ => rfl) (fun _ _ => rfl) (fun _ _ => rfl) batch
  | _ => exact hquiet (by rintro ⟨⟩) (by rintro _ ⟨⟩)

variable (l : Launch ℚ) (t : Time) (es : List (Timed (FlapEvent ℚ)))

/-- The hydro telemetry of a run, tick by tick. -/
def hydroPublished : List (HydroStepResult ℚ) :=
  outputs (step env) (hydroTelemetry env) (start env l t) es

/-- **The history is the last 100 flags of the run.** -/
theorem run_clipEngagedHistory : (run (step env) (start env l t) es).clipEngagedHistory =
    ((hydroPublished env l t es).map HydroStepResult.clipped).rtake 100 := by
  have hrun : (run (step env) (start env l t) es).clipEngagedHistory =
      run (fun window r => push 100 window r.clipped) [] (hydroPublished env l t es) :=
    run_outputs (fun s : ChronoFlapNode σ κ ℚ => s.clipEngagedHistory)
      (along_of_forall (by intro e _ s; exact s.step_clipEngagedHistory env e))
  rw [← run_push, hrun]
  exact List.foldl_map.symm

/-- The last 100 ticks, or all of them where there are fewer. -/
def clipWindow (published : List (HydroStepResult ℚ)) : List (HydroStepResult ℚ) :=
  published.rtake (min published.length 100)

/-- A percentage against the telemetry published so far: the share of the window whose
torques differ. -/
structure ClipShare (published : List (HydroStepResult ℚ)) (pct : ℚ) : Prop where
  eq_share : pct =
    100 * ((clipWindow published).countP HydroStepResult.clipped : ℚ) /
      (min published.length 100 : ℕ)
  nonneg : 0 ≤ pct
  le_hundred : pct ≤ 100

theorem length_clipWindow (published : List (HydroStepResult ℚ)) :
    (clipWindow published).length = min published.length 100 := by
  rw [clipWindow, rtake_min_length, length_rtake, min_comm]

/-- What a tick publishes after its flag was pushed. -/
theorem clipEngagedPct_eq {s : ChronoFlapNode σ κ ℚ} {published : List (HydroStepResult ℚ)}
    (hne : published ≠ [])
    (h : s.clipEngagedHistory = (published.map HydroStepResult.clipped).rtake 100) :
    s.clipEngagedPct = 100 * ((clipWindow published).countP HydroStepResult.clipped : ℚ) /
      (min published.length 100 : ℕ) := by
  have hhistory : s.clipEngagedHistory = (clipWindow published).map HydroStepResult.clipped := by
    rw [h, rtake_map, clipWindow, rtake_min_length]
  have hcount (rs : List (HydroStepResult ℚ)) :
      (rs.map HydroStepResult.clipped).count true = rs.countP HydroStepResult.clipped := by
    rw [List.count_eq_countP, List.countP_map]
    congr 1
    funext r
    exact beq_true _
  have hone : 1 ≤ min published.length 100 :=
    le_min (List.length_pos_iff.mpr hne) (by norm_num)
  rw [clipEngagedPct, hhistory, hcount, List.length_map, length_clipWindow, lit_rat, lit_rat,
    lit_rat, max_eq_right (by exact_mod_cast hone)]

/-- **The published percentage** is the share of the last 100 ticks, this one included,
whose published torques differ. -/
theorem clipPercentage (now : Time) :
    ClipShare (hydroPublished env l t (es ++ [⟨now, .tick⟩]))
        ((run (step env) (start env l t) es).tick env now).clipEngagedPct ∧
      (run (step env) (start env l t) es).clipEngagedHistory.length ≤ 100 := by
  have hnode : ((run (step env) (start env l t) es).tick env now).node =
      run (step env) (start env l t) (es ++ [⟨now, .tick⟩]) := by
    rw [run_concat]
    rfl
  have hne : hydroPublished env l t (es ++ [⟨now, .tick⟩]) ≠ [] := by
    rw [hydroPublished, outputs_concat]
    exact List.append_ne_nil_of_right_ne_nil _ (List.cons_ne_nil _ _)
  have hshare : ((run (step env) (start env l t) es).tick env now).clipEngagedPct =
      100 * ((clipWindow (hydroPublished env l t (es ++ [⟨now, .tick⟩]))).countP
        HydroStepResult.clipped : ℚ) /
          (min (hydroPublished env l t (es ++ [⟨now, .tick⟩])).length 100 : ℕ) := by
    rw [(tick_clipEngagedHistory env _ now).2, hnode]
    exact clipEngagedPct_eq hne (run_clipEngagedHistory env l t _)
  have hrange := share_mem_Icc (γ := ℚ) HydroStepResult.clipped
    (clipWindow (hydroPublished env l t (es ++ [⟨now, .tick⟩])))
  rw [length_clipWindow] at hrange
  refine ⟨⟨hshare, hshare ▸ hrange.1, hshare ▸ hrange.2⟩, ?_⟩
  rw [run_clipEngagedHistory, length_rtake]
  exact min_le_left 100 _

end ChronoFlapNode

end MarineHil.Ports
