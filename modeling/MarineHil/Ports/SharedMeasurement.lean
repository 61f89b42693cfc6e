import MarineHil.Verified.Extended
import MarineHil.Ports.JointLookup
import MarineHil.Ports.ChronoFlapHistory

/-!
# One joint state at two nodes

In HIL mode `VelocityPidNode` and `ChronoFlapNode` listen to the same topic.  Where a
message lists the joint but its arrays are too short for it, the first node holds the
value it has, and the second puts zero in its place.  And the first node passes the
velocity through a filter, which without a weight still multiplies its old value by
zero: after a sample that is not a number every later one is NaN.

## Main results

* `jointStateCallback_plain`, `jointStateCallback_measured`: what one message does to
  each node.
* `filterVelocity_plain`: what a filter without a weight does.
* `run_held`: what the first node holds of the values that messages carried.
* `measurements_agree_iff`: the two agree exactly where no zero is put in the place of
  another value, and no sample has spoilt the filter.
-/

namespace MarineHil.Ports

open MarineHil.Verified
open MarineHil.Verified.ExtRat

/-! ## Entries of distinct joints -/

namespace JointState

variable {α : Type}

/-- The entry of a joint in one of the arrays of a message, at the first place where
the joint is listed. -/
def entryOf (msg : JointState α) (joint : String) (values : List α) : Option α :=
  (msg.name.findIdx? (· = joint)).bind fun i => values[i]?

/-- Where the joint is listed, if it is. -/
theorem findIdx?_of_mem {names : List String} {joint : String} (h : joint ∈ names) :
    ∃ i, names.findIdx? (· = joint) = some i ∧ names[i]? = some joint := by
  cases hfind : names.findIdx? (· = joint) with
  | none => exact absurd (List.findIdx?_eq_none_iff.mp hfind joint h) (by simp)
  | some i =>
      obtain ⟨hi, hname, _⟩ := List.findIdx?_eq_some_iff_getElem.mp hfind
      refine ⟨i, rfl, ?_⟩
      rw [List.getElem?_eq_getElem hi, of_decide_eq_true hname]

end JointState

namespace VelocityPidNode

variable {α : Type}

/-- Names that are distinct have no second place to cache. -/
theorem located_eq_findIdx? (s : VelocityPidNode α) {msg : JointState α}
    (hnodup : msg.name.Nodup) : s.located msg = msg.name.findIdx? (· = s.jointName) := by
  cases hlocated : s.located msg with
  | none =>
      refine (List.findIdx?_eq_none_iff.mpr ?_).symm
      intro name hname
      exact decide_eq_false fun heq => located_eq_none_iff.mp hlocated (heq ▸ hname)
  | some k =>
      have hk := name_of_located hlocated
      obtain ⟨i, hfind, hi⟩ := JointState.findIdx?_of_mem (List.mem_of_getElem? hk)
      have hlength : i < msg.name.length := (List.getElem?_eq_some_iff.mp hi).1
      rw [hfind, (List.getElem?_inj hlength hnodup).mp (hi.trans hk.symm)]

/-- One message with the sign as it is: the position is taken, and the velocity filtered. -/
theorem jointStateCallback_plain {s : VelocityPidNode ExtRat} {msg : JointState ExtRat}
    (hnodup : msg.name.Nodup) (hinvert : s.invertOutput = false) :
    let t := (msg.entryOf s.jointName msg.velocity).elim s s.filterVelocity
    (s.jointStateCallback msg).lastMeasuredPos =
        (msg.entryOf s.jointName msg.position).getD s.lastMeasuredPos ∧
      (s.jointStateCallback msg).filteredVel = t.filteredVel ∧
      (s.jointStateCallback msg).filterInitialized = t.filterInitialized ∧
      (s.jointStateCallback msg).lastMeasuredVel = t.lastMeasuredVel := by
  have hentry (values : List ExtRat) : s.entry msg values = msg.entryOf s.jointName values := by
    have horiented : s.oriented = id := by
      funext raw
      rw [oriented, hinvert]
      rfl
    rw [entry, located_eq_findIdx? s hnodup, horiented, Option.map_id]
    rfl
  have hvelocity := s.jointStateCallback_velocity msg
  rw [hentry] at hvelocity
  refine ⟨?_, hvelocity⟩
  rw [jointStateCallback_position, hentry]

/-- The filter holds nothing but numbers. -/
def Unspoilt (s : VelocityPidNode ExtRat) : Prop :=
  s.filterInitialized = true → s.filteredVel.IsFinite

/-- A filter without a weight forgets a number, and makes NaN of anything else. -/
theorem filterVelocity_plain {s : VelocityPidNode ExtRat} (halpha : s.filterAlpha = 0)
    (raw : ExtRat) :
    (s.Unspoilt → (s.filterVelocity raw).filteredVel = raw) ∧
      (¬s.Unspoilt → (s.filterVelocity raw).filteredVel = nan) := by
  have hraw : (lit 1 - 0) * raw = raw := by
    rw [lit_def, zero_def, fin_sub, sub_zero]
    cases raw with
    | fin q => rw [fin_mul, one_mul]
    | posInf => rfl
    | negInf => rfl
    | nan => rfl
  have hfiltered : (s.filterVelocity raw).filteredVel =
      if s.filterInitialized then 0 * s.filteredVel + raw else raw := by
    unfold filterVelocity
    dsimp only
    rw [halpha, hraw]
  rw [hfiltered]
  unfold Unspoilt
  cases s.filterInitialized with
  | false => exact ⟨fun _ => rfl, fun h => absurd nofun h⟩
  | true =>
      rw [if_pos rfl]
      constructor
      · intro h
        obtain ⟨q, hq⟩ := isFinite_iff.mp (h rfl)
        rw [hq, zero_def, fin_mul, zero_mul]
        cases raw with
        | fin q => rw [fin_add, zero_add]
        | posInf => rfl
        | negInf => rfl
        | nan => rfl
      · intro h
        have hnan : 0 * s.filteredVel = nan := by
          cases hv : s.filteredVel with
          | fin q => exact absurd (fun _ => hv ▸ isFinite_fin q) h
          | posInf => rfl
          | negInf => rfl
          | nan => rfl
        rw [hnan, nan_add]

/-- A sample leaves the filter unspoilt exactly when it is a number and finds it so. -/
theorem unspoilt_filterVelocity {s : VelocityPidNode ExtRat} (halpha : s.filterAlpha = 0)
    (raw : ExtRat) : (s.filterVelocity raw).Unspoilt ↔ s.Unspoilt ∧ raw.IsFinite := by
  obtain ⟨hclean, hspoilt⟩ := filterVelocity_plain halpha raw
  have hstarted : (s.filterVelocity raw).Unspoilt ↔
      (s.filterVelocity raw).filteredVel.IsFinite := forall_prop_of_true rfl
  rw [hstarted]
  by_cases h : s.Unspoilt
  · rw [hclean h]
    exact (and_iff_right h).symm
  · rw [hspoilt h]
    exact iff_of_false (fun hnan => hnan) (fun hboth => h hboth.1)

end VelocityPidNode

namespace ChronoFlapNode

variable {σ κ : Type}

/-- The measurements after one message that lists the joint. -/
theorem jointStateCallback_measured {s : ChronoFlapNode σ κ ExtRat} {msg : JointState ExtRat}
    (h : s.jointName ∈ msg.name) :
    (s.jointStateCallback msg).hwPos = (msg.entryOf s.jointName msg.position).getD 0 ∧
      (s.jointStateCallback msg).hwVel = (msg.entryOf s.jointName msg.velocity).getD 0 := by
  obtain ⟨i, hfind, _⟩ := JointState.findIdx?_of_mem h
  unfold jointStateCallback JointState.entryOf
  rw [hfind]
  exact ⟨rfl, rfl⟩

end ChronoFlapNode

/-! ## Both nodes -/

structure Listeners (σ κ : Type) where
  velocityPid : VelocityPidNode ExtRat
  chronoFlap : ChronoFlapNode σ κ ExtRat

/-- What can happen: a message reaches both nodes, or another callback of one of them
runs. -/
inductive ListenerEvent where
  | jointState (msg : JointState ExtRat)
  | velocityPid (event : VelocityPidEvent ExtRat) (own : ∀ msg, event ≠ .jointState msg)
  | chronoFlap (event : FlapEvent ExtRat) (own : ∀ msg, event ≠ .jointState msg)

namespace Listeners

variable {σ κ : Type}

def step (env : FlapEnvironment σ κ ExtRat) (s : Listeners σ κ) (e : Timed ListenerEvent) :
    Listeners σ κ :=
  match e.event with
  | .jointState msg =>
      { velocityPid := s.velocityPid.step env.libm ⟨e.time, .jointState msg⟩
        chronoFlap := s.chronoFlap.step env ⟨e.time, .jointState msg⟩ }
  | .velocityPid event _ => { s with velocityPid := s.velocityPid.step env.libm ⟨e.time, event⟩ }
  | .chronoFlap event _ => { s with chronoFlap := s.chronoFlap.step env ⟨e.time, event⟩ }

/-- Both nodes listen for the joint, the second one in HIL mode. -/
structure ListensFor (joint : String) (s : Listeners σ κ) : Prop where
  velocityPid : s.velocityPid.jointName = joint
  chronoFlap : s.chronoFlap.jointName = joint
  mode : s.chronoFlap.mode = .hil

/-- Both nodes hold the same measurement. -/
structure Agree (s : Listeners σ κ) : Prop where
  position : s.velocityPid.lastMeasuredPos = s.chronoFlap.hwPos
  velocity : s.velocityPid.lastMeasuredVel = s.chronoFlap.hwVel

/-- A message with distinct names reaches the first node without a filter and with the
sign as it is. -/
def Plain (s : Listeners σ κ) (e : Timed ListenerEvent) : Prop :=
  ∀ msg, e.event = .jointState msg →
    msg.name.Nodup ∧ s.velocityPid.invertOutput = false ∧ s.velocityPid.filterAlpha = 0

/-! ## What messages carry -/

def messageOf (e : Timed ListenerEvent) : Option (JointState ExtRat) :=
  match e.event with
  | .jointState msg => some msg
  | _ => none

def positionOf (joint : String) (e : Timed ListenerEvent) : Option ExtRat :=
  (messageOf e).bind fun msg => msg.entryOf joint msg.position

def velocityOf (joint : String) (e : Timed ListenerEvent) : Option ExtRat :=
  (messageOf e).bind fun msg => msg.entryOf joint msg.velocity

/-- A message has carried both values. -/
def CarriedBoth (joint : String) (es : List (Timed ListenerEvent)) : Prop :=
  ∃ e ∈ es, (positionOf joint e).isSome = true ∧ (velocityOf joint e).isSome = true

/-- The nodes agree after every message that lists the joint, once one has carried
both values. -/
def MeasurementsAgree (env : FlapEnvironment σ κ ExtRat) (joint : String) (s : Listeners σ κ)
    (es : List (Timed ListenerEvent)) : Prop :=
  ∀ pre now msg post, es = pre ++ ⟨now, .jointState msg⟩ :: post → joint ∈ msg.name →
    CarriedBoth joint pre → Agree (run (step env) s (pre ++ [⟨now, .jointState msg⟩]))

/-- A message carries a value, or the last one carried was zero. -/
def Supplied (valueOf : Timed ListenerEvent → Option ExtRat) (pre : List (Timed ListenerEvent))
    (e : Timed ListenerEvent) : Prop :=
  (valueOf e).isSome = true ∨ lastSome valueOf pre = some 0

/-- The filter starts with nothing but numbers in it, and no message has put anything
else there. -/
def Clean (joint : String) (s : Listeners σ κ) (pre : List (Timed ListenerEvent)) : Prop :=
  s.velocityPid.Unspoilt ∧ ∀ e ∈ pre, ∀ v, velocityOf joint e = some v → v.IsFinite

/-- The velocity of a message is NaN, or it is supplied and the filter is clean. -/
def VelocitySupplied (joint : String) (s : Listeners σ κ) (pre : List (Timed ListenerEvent))
    (e : Timed ListenerEvent) : Prop :=
  velocityOf joint e = some nan ∨ (Clean joint s pre ∧ Supplied (velocityOf joint) pre e)

/-! ## One step -/

variable {env : FlapEnvironment σ κ ExtRat} {joint : String}

theorem ListensFor.step {s : Listeners σ κ} (h : s.ListensFor joint) (e : Timed ListenerEvent) :
    (s.step env e).ListensFor joint := by
  have hpid (e' : Timed (VelocityPidEvent ExtRat)) :
      (s.velocityPid.step env.libm e').jointName = joint :=
    (VelocityPidNode.step_jointName env.libm _ e').trans h.velocityPid
  have hflap (e' : Timed (FlapEvent ExtRat)) :
      (s.chronoFlap.step env e').jointName = joint ∧ (s.chronoFlap.step env e').mode = .hil := by
    have hfixed := s.chronoFlap.hilView.step_fixed e'
    rw [← s.chronoFlap.step_hilView env e'] at hfixed
    exact ⟨hfixed.2.trans h.chronoFlap, hfixed.1.trans h.mode⟩
  obtain ⟨time, event⟩ := e
  cases event with
  | jointState msg => exact ⟨hpid _, (hflap _).1, (hflap _).2⟩
  | velocityPid event own => exact ⟨hpid _, h.chronoFlap, h.mode⟩
  | chronoFlap event own => exact ⟨h.velocityPid, (hflap _).1, (hflap _).2⟩

/-- The first node takes the position a message carries, and filters its velocity. -/
theorem step_held {s : Listeners σ κ} (h : s.ListensFor joint) {e : Timed ListenerEvent}
    (hplain : s.Plain e) :
    let t := (velocityOf joint e).elim s.velocityPid s.velocityPid.filterVelocity
    (s.step env e).velocityPid.lastMeasuredPos =
        (positionOf joint e).getD s.velocityPid.lastMeasuredPos ∧
      (s.step env e).velocityPid.filteredVel = t.filteredVel ∧
      (s.step env e).velocityPid.filterInitialized = t.filterInitialized ∧
      (s.step env e).velocityPid.lastMeasuredVel = t.lastMeasuredVel := by
  obtain ⟨time, event⟩ := e
  cases event with
  | jointState msg =>
      obtain ⟨hnodup, hinvert, _⟩ := hplain msg rfl
      have hmsg := VelocityPidNode.jointStateCallback_plain hnodup hinvert
      rw [h.velocityPid] at hmsg
      exact hmsg
  | velocityPid event own =>
      cases event with
      | jointState msg => exact absurd rfl (own msg)
      | setParameters batch =>
          have hsame := (s.velocityPid.setParameters_joint batch).2
          exact ⟨hsame.lastMeasuredPos, hsame.filteredVel, hsame.filterInitialized,
            hsame.lastMeasuredVel⟩
      | controlLoop =>
          have hsame := s.velocityPid.controlLoop_measurements env.libm time
          exact ⟨hsame.lastMeasuredPos, hsame.filteredVel, hsame.filterInitialized,
            hsame.lastMeasuredVel⟩
  | chronoFlap event own => exact ⟨rfl, rfl, rfl, rfl⟩

/-- A velocity reaches a filter without a weight. -/
theorem filterAlpha_of_velocityOf {s : Listeners σ κ} {e : Timed ListenerEvent}
    (hplain : s.Plain e) {raw : ExtRat} (h : velocityOf joint e = some raw) :
    s.velocityPid.filterAlpha = 0 := by
  obtain ⟨msg, hmsg, _⟩ := Option.bind_eq_some_iff.mp h
  obtain ⟨time, event⟩ := e
  cases event with
  | jointState msg => exact (hplain msg rfl).2.2
  | velocityPid event own => cases hmsg
  | chronoFlap event own => cases hmsg

theorem clean_concat {s : Listeners σ κ} {es : List (Timed ListenerEvent)}
    {e : Timed ListenerEvent} :
    Clean joint s (es ++ [e]) ↔
      Clean joint s es ∧ ∀ v, velocityOf joint e = some v → v.IsFinite := by
  unfold Clean
  rw [List.forall_mem_append, List.forall_mem_singleton, and_assoc]

variable (env) in
/-- The second node takes what the message carries, or zero. -/
theorem step_measured {s : Listeners σ κ} (h : s.ListensFor joint) (now : Time)
    {msg : JointState ExtRat} (hmem : joint ∈ msg.name) :
    (s.step env ⟨now, .jointState msg⟩).chronoFlap.hwPos =
        (positionOf joint ⟨now, .jointState msg⟩).getD 0 ∧
      (s.step env ⟨now, .jointState msg⟩).chronoFlap.hwVel =
        (velocityOf joint ⟨now, .jointState msg⟩).getD 0 := by
  have hstep : (s.step env ⟨now, .jointState msg⟩).chronoFlap =
      s.chronoFlap.jointStateCallback msg := if_pos h.mode
  rw [← h.chronoFlap] at hmem
  have hmsg := ChronoFlapNode.jointStateCallback_measured hmem
  rw [h.chronoFlap] at hmsg
  rw [hstep]
  exact hmsg

/-! ## Whole runs -/

/-- Holding and putting zero in its place come to the same where there is a value, or
where zero is what is held. -/
theorem getD_eq_getD_iff (value : Option ExtRat) {held : Option ExtRat} (hheld : held.isSome = true)
    (x : ExtRat) :
    value.getD (held.getD x) = value.getD 0 ↔ value.isSome = true ∨ held = some 0 := by
  obtain ⟨y, rfl⟩ := Option.isSome_iff_exists.mp hheld
  cases value with
  | none => simp
  | some v => simp

section Run

variable {s : Listeners σ κ} (h : s.ListensFor joint) {es : List (Timed ListenerEvent)}

include h

theorem run_listensFor : (run (Listeners.step env) s es).ListensFor joint :=
  invariant_run (I := fun t : Listeners σ κ => t.ListensFor joint)
    (by intro t e ht; exact ht.step e) h es

/-- What the first node holds after a history. -/
structure Held (joint : String) (s : Listeners σ κ) (es : List (Timed ListenerEvent))
    (p : VelocityPidNode ExtRat) : Prop where
  position : p.lastMeasuredPos = (lastSome (positionOf joint) es).getD s.velocityPid.lastMeasuredPos
  unspoilt : p.Unspoilt ↔ Clean joint s es
  velocity : ∀ v, lastSome (velocityOf joint) es = some v →
    p.filterInitialized = true ∧ p.lastMeasuredVel = p.filteredVel ∧
      (Clean joint s es → p.filteredVel = v)

/-- **The first node holds the last position carried, and the last velocity if no
sample has spoilt the filter.** -/
theorem run_held (hplain : Along (Listeners.step env) Plain s es) :
    Held joint s es (run (Listeners.step env) s es).velocityPid := by
  induction es using List.reverseRecOn with
  | nil => exact ⟨rfl, (and_iff_left nofun).symm, nofun⟩
  | append_singleton es e ih =>
      obtain ⟨hbefore, hnow⟩ := along_concat.mp hplain
      have hheld := ih hbefore
      obtain ⟨hpos, hfiltered, hinit, hlast⟩ := step_held (run_listensFor h) hnow
      rw [run_concat]
      refine ⟨?_, ?_, ?_⟩
      · rw [hpos, hheld.position, lastSome_concat]
        cases positionOf joint e <;> rfl
      · have hsame : (Listeners.step env (run (Listeners.step env) s es) e).velocityPid.Unspoilt ↔
            ((velocityOf joint e).elim (run (Listeners.step env) s es).velocityPid
              (run (Listeners.step env) s es).velocityPid.filterVelocity).Unspoilt := by
          unfold VelocityPidNode.Unspoilt
          rw [hfiltered, hinit]
        rw [hsame, clean_concat, ← hheld.unspoilt]
        cases hvel : velocityOf joint e with
        | none => exact (and_iff_left nofun).symm
        | some raw =>
            have halpha := filterAlpha_of_velocityOf hnow hvel
            refine (VelocityPidNode.unspoilt_filterVelocity halpha raw).trans ?_
            simp
      · intro v hv
        rw [lastSome_concat] at hv
        rw [hfiltered, hinit, hlast, clean_concat]
        cases hvel : velocityOf joint e with
        | none =>
            rw [hvel] at hv
            obtain ⟨hstarted, hsame, hvalue⟩ := hheld.velocity v hv
            exact ⟨hstarted, hsame, fun hclean => hvalue hclean.1⟩
        | some raw =>
            rw [hvel] at hv
            obtain rfl := Option.some.inj hv
            have halpha := filterAlpha_of_velocityOf hnow hvel
            refine ⟨rfl, rfl, fun hclean => ?_⟩
            exact (VelocityPidNode.filterVelocity_plain halpha raw).1
              (hheld.unspoilt.mpr hclean.1)

/-- One velocity, after any history. -/
theorem velocity_agree_iff {now : Time} {msg : JointState ExtRat}
    (hplain : Along (Listeners.step env) Plain s (es ++ [⟨now, .jointState msg⟩]))
    (hmem : joint ∈ msg.name) (hcarried : (lastSome (velocityOf joint) es).isSome = true) :
    (run (Listeners.step env) s (es ++ [⟨now, .jointState msg⟩])).velocityPid.lastMeasuredVel =
        (run (Listeners.step env) s (es ++ [⟨now, .jointState msg⟩])).chronoFlap.hwVel ↔
      VelocitySupplied joint s es ⟨now, .jointState msg⟩ := by
  obtain ⟨hbefore, hnow⟩ := along_concat.mp hplain
  have hlisten : (run (Listeners.step env) s es).ListensFor joint := run_listensFor h
  have hheld := run_held h hbefore
  obtain ⟨_, _, _, hlast⟩ := step_held hlisten hnow
  obtain ⟨v, hv⟩ := Option.isSome_iff_exists.mp hcarried
  obtain ⟨hstarted, hsame, hvalue⟩ := hheld.velocity v hv
  rw [run_concat, hlast, (step_measured env hlisten now hmem).2]
  unfold VelocitySupplied Supplied
  rw [← hheld.unspoilt, hv]
  rw [← hheld.unspoilt] at hvalue
  generalize hp : (run (Listeners.step env) s es).velocityPid = p at *
  cases hvel : velocityOf joint ⟨now, .jointState msg⟩ with
  | none =>
      -- the first node holds the filtered velocity, the second one zero
      show p.lastMeasuredVel = 0 ↔ _
      rw [hsame]
      constructor
      · intro hzero
        have hunspoilt : p.Unspoilt := fun _ => hzero ▸ isFinite_zero
        exact Or.inr ⟨hunspoilt, Or.inr (by rw [← hvalue hunspoilt, hzero])⟩
      · rintro (hnan | ⟨hunspoilt, hsome | hzero⟩)
        · cases hnan
        · cases hsome
        · exact (hvalue hunspoilt).trans (Option.some.inj hzero)
  | some raw =>
      -- both take the new one, but for a filter that is spoilt
      obtain ⟨hclean, hspoilt⟩ := VelocityPidNode.filterVelocity_plain
        (hp ▸ filterAlpha_of_velocityOf hnow hvel) raw
      show (p.filterVelocity raw).filteredVel = raw ↔ _
      by_cases hunspoilt : p.Unspoilt
      · exact iff_of_true (hclean hunspoilt) (Or.inr ⟨hunspoilt, Or.inl rfl⟩)
      · rw [hspoilt hunspoilt, eq_comm, Option.some_inj]
        exact (or_iff_left fun hboth => hunspoilt hboth.1).symm

/-- One message, after any history. -/
theorem agree_iff {now : Time} {msg : JointState ExtRat}
    (hplain : Along (Listeners.step env) Plain s (es ++ [⟨now, .jointState msg⟩]))
    (hmem : joint ∈ msg.name) (hboth : CarriedBoth joint es) :
    Agree (run (Listeners.step env) s (es ++ [⟨now, .jointState msg⟩])) ↔
      Supplied (positionOf joint) es ⟨now, .jointState msg⟩ ∧
        VelocitySupplied joint s es ⟨now, .jointState msg⟩ := by
  obtain ⟨first, hfirst, hpos, hvel⟩ := hboth
  obtain ⟨hbefore, hnow⟩ := along_concat.mp hplain
  have hlisten : (run (Listeners.step env) s es).ListensFor joint := run_listensFor h
  have hposition := getD_eq_getD_iff (positionOf joint ⟨now, .jointState msg⟩)
    (isSome_lastSome hfirst hpos) s.velocityPid.lastMeasuredPos
  have hrun : run (Listeners.step env) s (es ++ [⟨now, .jointState msg⟩]) =
      Listeners.step env (run (Listeners.step env) s es) ⟨now, .jointState msg⟩ :=
    run_concat s es ⟨now, .jointState msg⟩
  rw [← (run_held h hbefore).position, ← (step_held hlisten hnow).1,
    ← (step_measured env hlisten now hmem).1, ← hrun] at hposition
  have hvelocity := velocity_agree_iff h hplain hmem (isSome_lastSome hfirst hvel)
  exact ⟨fun hagree => ⟨hposition.mp hagree.position, hvelocity.mp hagree.velocity⟩,
    fun hsupplied => ⟨hposition.mpr hsupplied.1, hvelocity.mpr hsupplied.2⟩⟩

/-- **The two nodes agree** exactly where no zero is put in the place of another value,
and no sample has spoilt the filter. -/
theorem measurements_agree_iff (hplain : Along (Listeners.step env) Plain s es) :
    MeasurementsAgree env joint s es ↔
      ∀ pre now msg post, es = pre ++ ⟨now, .jointState msg⟩ :: post → joint ∈ msg.name →
        CarriedBoth joint pre →
          Supplied (positionOf joint) pre ⟨now, .jointState msg⟩ ∧
            VelocitySupplied joint s pre ⟨now, .jointState msg⟩ := by
  refine forall_congr' fun pre => forall_congr' fun now => forall_congr' fun msg => ?_
  refine forall_congr' fun post => imp_congr_right fun hsplit => imp_congr_right fun hmem => ?_
  refine imp_congr_right fun hboth => agree_iff h ?_ hmem hboth
  rw [hsplit, List.append_cons] at hplain
  exact hplain.left

end Run

/-- Messages change no settings, so those before the first one decide. -/
theorem along_plain {s : Listeners σ κ} {es : List (Timed ListenerEvent)}
    (hinvert : s.velocityPid.invertOutput = false) (halpha : s.velocityPid.filterAlpha = 0)
    (hes : ∀ e ∈ es, ∃ msg, e.event = .jointState msg ∧ msg.name.Nodup) :
    Along (Listeners.step env) Plain s es := by
  induction es generalizing s with
  | nil => exact along_nil _
  | cons e es ih =>
      obtain ⟨⟨msg, hmsg, hnodup⟩, hrest⟩ := List.forall_mem_cons.mp hes
      obtain ⟨time, event⟩ := e
      cases hmsg
      have hmembers := (s.velocityPid.jointStateCallback_settings msg).members
      refine along_cons.mpr ⟨?_, ih ?_ ?_ hrest⟩
      · rintro _ ⟨⟩
        exact ⟨hnodup, hinvert, halpha⟩
      · exact (congrArg VelocityPidMembers.invertOutput hmembers).trans hinvert
      · exact (congrArg VelocityPidMembers.filterAlpha hmembers).trans halpha

/-! ## A message without a position -/

/-- The two nodes at their defaults, the first one without a filter. -/
def launched : Listeners Unit Empty where
  velocityPid := .start (Launch.empty.withDouble "filter_alpha" 0) 0 0
  chronoFlap := .start .bare (Launch.empty.withString "mode" "hil") 0

/-- A message of the motor with the given arrays. -/
def motorState (position velocity : List ExtRat) : Timed ListenerEvent :=
  ⟨0, .jointState ⟨0, ["motor_joint"], position, velocity⟩⟩

theorem launched_listensFor : launched.ListensFor "motor_joint" :=
  ⟨by decide +kernel, by decide +kernel, by decide +kernel⟩

theorem motorStates_plain {es : List (Timed ListenerEvent)}
    (hes : ∀ e ∈ es, ∃ position velocity, e = motorState position velocity) :
    Along (Listeners.step .bare) Plain launched es := by
  refine along_plain (by decide +kernel) (by decide +kernel) ?_
  intro e he
  obtain ⟨position, velocity, rfl⟩ := hes e he
  exact ⟨_, rfl, List.nodup_singleton _⟩

/-- Two messages that carry both values. -/
theorem full_messages_agree :
    MeasurementsAgree .bare "motor_joint" launched
      [motorState [fin 1] [fin 2], motorState [fin 3] [fin 4]] := by
  have hplain : Along (Listeners.step .bare) Plain launched
      [motorState [fin 1] [fin 2], motorState [fin 3] [fin 4]] :=
    motorStates_plain (by simp [motorState])
  refine (measurements_agree_iff launched_listensFor hplain).mpr ?_
  intro pre now msg post hsplit hmem hboth
  rcases pre with _ | ⟨first, _ | ⟨second, pre⟩⟩
  · obtain ⟨e, he, _⟩ := hboth
    exact absurd he List.not_mem_nil
  · cases hsplit
    have hclean : Clean "motor_joint" launched [motorState [fin 1] [fin 2]] := by
      refine ⟨nofun, ?_⟩
      intro e he v hv
      obtain rfl := List.mem_singleton.mp he
      cases hv
      exact isFinite_fin 2
    exact ⟨Or.inl rfl, Or.inr ⟨hclean, Or.inl rfl⟩⟩
  · exact absurd (congrArg List.length hsplit) (by simp)

/-- The second message has no position: one node stays at the first position, and the
other one is at zero. -/
theorem short_message_disagrees :
    launched.ListensFor "motor_joint" ∧
      Along (Listeners.step .bare) Plain launched
        [motorState [fin 1] [fin 2], motorState [] [fin 2]] ∧
      ¬MeasurementsAgree .bare "motor_joint" launched
        [motorState [fin 1] [fin 2], motorState [] [fin 2]] := by
  refine ⟨launched_listensFor, motorStates_plain (by simp [motorState]), ?_⟩
  intro h
  have hboth : CarriedBoth "motor_joint" [motorState [fin 1] [fin 2]] :=
    ⟨_, List.mem_singleton_self _, rfl, rfl⟩
  have hagree := h [motorState [fin 1] [fin 2]] 0 ⟨0, ["motor_joint"], [], [fin 2]⟩ [] rfl
    (List.mem_singleton_self _) hboth
  exact absurd hagree.position (by decide +kernel)

end Listeners

end MarineHil.Ports
