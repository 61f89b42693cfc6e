import MarineHil.Ports.MixerSpecialValues
import MarineHil.Ports.ODriveSetpoints

/-!
# From the mixer to the motor

In HIL mode an effort controller hands the commands of the mixer to the driver: late, more
than once or not at all, but no others.  The clip of the mixer is then a bound on the torque
frames of the bus, as far as single precision has the clip itself.

## Main results

* `clip_on_bus`: with inputs that add up to a number, no torque on the bus exceeds the
  largest clip that was in force.
-/

namespace MarineHil.Ports

open Verified ExtRat HilTorqueMixerNode ODriveHardwareInterface

/-- The mixer published this command at some time of the run. -/
def Published (l : Launch ExtRat) (mixed : List (Timed (MixerEvent ExtRat))) (x : ExtRat) : Prop :=
  ∃ pre now post, mixed = pre ++ ⟨now, .tick⟩ :: post ∧
    (Verified.run HilTorqueMixerNode.step (HilTorqueMixerNode.start l) pre).command now = x

/-- At every tick the inputs are safe, and the clip is a number up to the bound. -/
def ClippedSafely (l : Launch ExtRat) (mixed : List (Timed (MixerEvent ExtRat))) (c : ℚ) : Prop :=
  ∀ pre now post, mixed = pre ++ ⟨now, .tick⟩ :: post →
    InputsSafe (hardClipInForce l pre) (pidInput l pre now) (loadInput l pre now) ∧
      ∃ b, hardClipInForce l pre = fin b ∧ b ≤ c

section Composition

variable {l : Launch ExtRat} {mixed : List (Timed (MixerEvent ExtRat))} {c : ℚ}

/-- What is published safely is a number within the bound. -/
theorem exists_of_published (hsafe : ClippedSafely l mixed c) {x : ExtRat}
    (hx : Published l mixed x) : ∃ q, x = fin q ∧ |q| ≤ c := by
  obtain ⟨pre, now, post, hmixed, rfl⟩ := hx
  obtain ⟨hinputs, b, hb, hbc⟩ := hsafe pre now post hmixed
  have hdefault : ¬(lit 0.5 : ExtRat) ≤ 0 := by
    rw [lit_def, zero_def, fin_le]
    norm_num
  have hclip := hardClipInForce_not_nonpos l pre hdefault
  obtain ⟨q, hq, hbound⟩ := (boundedNumber_clamp_iff hclip).mpr hinputs
  have hpos : 0 < b := by
    rw [hb, zero_def, fin_le, not_le] at hclip
    exact hclip
  exact ⟨q, (command_eq l pre now).trans hq, (hbound b hb hpos).trans hbc⟩

/-- **The clip of the mixer holds on the bus.** -/
theorem clip_on_bus {unspecified : Binary32 → BitVec 16} {active : Bool} {joints : List JointInfo}
    {s : ODriveHardwareInterface ExtRat}
    (h : onInit (.ofExtRat unspecified) active joints = some s)
    (hsafe : ClippedSafely l mixed c) (hc : 0 ≤ c ∧ c ≤ 32) {es : List (Occurrence ExtRat)}
    (hfrom : ∀ i x, .command i .effort x ∈ es.map Prod.fst → Published l mixed x) :
    ∀ f ∈ traffic (.ofExtRat unspecified) s es, ∀ n x, torqueIn n f = some x →
      TorqueWithin (Binary32.rounded c) n f x := by
  intro f hf n x hx
  obtain ⟨pre, e, post, rfl, hwire⟩ := mem_emitted hf
  have hpre : CommandsWithin c (pre.map Prod.fst) := by
    intro i y hy
    refine exists_of_published hsafe (hfrom i y ?_)
    rw [List.map_append]
    exact List.mem_append_left _ hy
  exact torqueWithin_wire h hpre hc hwire hx

/-- A PID input of 1 Nm, 1 ms before a tick. -/
def oneTick : List (Timed (MixerEvent ExtRat)) := [⟨0, .pid [fin 1]⟩, ⟨1000000, .tick⟩]

theorem tick_of_oneTick {pre post : List (Timed (MixerEvent ExtRat))} {now : Time}
    (h : oneTick = pre ++ ⟨now, .tick⟩ :: post) : pre = [⟨0, .pid [fin 1]⟩] ∧ now = 1000000 := by
  cases pre with
  | nil => cases h
  | cons e pre =>
      obtain ⟨rfl, htail⟩ := List.cons.inj h
      cases pre with
      | nil =>
          obtain ⟨hevent, _⟩ := List.cons.inj htail
          cases hevent
          exact ⟨rfl, rfl⟩
      | cons d pre =>
          obtain ⟨_, hnil⟩ := List.cons.inj htail
          exact absurd hnil (by simp)

theorem clip_on_bus_oneTick :
    TorqueWithin (Binary32.rounded (1 / 2)) 3 effortFrame (Binary32.ofExt (fin (1 / 2))) := by
  have hsafe : ClippedSafely Launch.empty oneTick (1 / 2) := by
    intro pre now post hmixed
    obtain ⟨rfl, rfl⟩ := tick_of_oneTick hmixed
    exact ⟨Or.inr ⟨by decide +kernel, by decide +kernel⟩, 1 / 2, by decide +kernel, le_rfl⟩
  refine clip_on_bus onInit_twoJoints hsafe ⟨by norm_num, by norm_num⟩ (fun i x hx => ?_) _
    effortFrame_sent _ _ torqueIn_effortFrame
  rw [command_effortStarts hx]
  exact ⟨[⟨0, .pid [fin 1]⟩], 1000000, [], rfl, by decide +kernel⟩

end Composition

end MarineHil.Ports
