import MarineHil.Ports.HilTorqueMixer

/-!
# The mixer against its event history

The node latches stamps, flags and values.  Here the same command is written
down from the history of events alone: the last message on each input, the
last value of each limit that was accepted, the last setting of the load
switch.  `command_eq` says that the latches hold exactly these, over every
order of the callbacks, and `command_eq_specification` reads it over exact
rationals as the specification of the node.
-/

namespace MarineHil.Ports.HilTorqueMixerNode

open MarineHil.Verified

/-! ## What an event carries -/

section History

variable {α : Type} [Double α]

/-- A non-empty PID message, with its time of receipt. -/
def pidSample (e : Timed (MixerEvent α)) : Option (Time × α) :=
  match e.event with
  | .pid (x :: _) => some (e.time, x)
  | _ => none

/-- A load message, with its time of receipt. -/
def loadSample (e : Timed (MixerEvent α)) : Option (Time × α) :=
  match e.event with
  | .load x => some (e.time, x)
  | _ => none

/-- The value an accepted batch gives to the named limit. -/
def limitUpdate (l : Launch α) (name : String) (e : Timed (MixerEvent α)) : Option α :=
  match e.event with
  | .setParameters batch =>
      if (start l).acceptsBatch batch then lastSome (Parameter.doubleNamed name) batch
      else none
  | _ => none

/-- The setting of the load switch, by its service or by its parameter. -/
def enableUpdate (l : Launch α) (e : Timed (MixerEvent α)) : Option Bool :=
  match e.event with
  | .enableLoad b => some b
  | .setParameters batch =>
      if (start l).acceptsBatch batch then lastSome (Parameter.boolNamed "enable_load") batch
      else none
  | _ => none

/-! ## The values in force -/

variable (l : Launch α) (es : List (Timed (MixerEvent α)))

def hardClipInForce : α :=
  (lastSome (limitUpdate l "hard_clip_nm") es).getD (start l).hardClipNm

def pidTimeoutInForce : α :=
  (lastSome (limitUpdate l "pid_timeout_s") es).getD (start l).pidTimeoutS

def loadTimeoutInForce : α :=
  (lastSome (limitUpdate l "load_timeout_s") es).getD (start l).loadTimeoutS

def loadEnabled : Bool :=
  (lastSome (enableUpdate l) es).getD (l.getBool "enable_load" true)

/-- An input behind its watchdog, as the node compares. -/
def watched (timeout : α) (now : Time) : Option (Time × α) → α
  | some (stamp, x) => if timeout < seconds (now - stamp) then 0 else x
  | none => 0

/-- The PID input of the history at a tick. -/
def pidInput (now : Time) : α := watched (pidTimeoutInForce l es) now (lastSome pidSample es)

/-- The load input of the history at a tick. -/
def loadInput (now : Time) : α :=
  if loadEnabled l es then watched (loadTimeoutInForce l es) now (lastSome loadSample es) else 0

end History

/-! ## The latches hold the history -/

section Latches

variable {α : Type} [Double α]

/-- The PID message the node holds. -/
def heldPid (s : HilTorqueMixerNode α) : Option (Time × α) :=
  if s.pidReceived then some (s.pidLastStamp, s.tauPid) else none

/-- The load message the node holds. -/
def heldLoad (s : HilTorqueMixerNode α) : Option (Time × α) :=
  if s.loadReceived then some (s.loadLastStamp, s.tauHydro) else none

theorem effectivePid_eq (s : HilTorqueMixerNode α) (now : Time) :
    s.effectivePid now = watched s.pidTimeoutS now s.heldPid := by
  unfold effectivePid heldPid
  split <;> rfl

theorem effectiveLoad_eq (s : HilTorqueMixerNode α) (now : Time) :
    s.effectiveLoad now =
      if s.enableLoad then watched s.loadTimeoutS now s.heldLoad else 0 := by
  unfold effectiveLoad heldLoad
  split
  · split <;> rfl
  · rfl

omit [Double α] in
/-- A batch of assignments leaves in each assigned member the last value named. -/
theorem run_applyParameter (s : HilTorqueMixerNode α) (batch : List (Parameter α)) :
    (run applyParameter s batch).hardClipNm =
        (lastSome (Parameter.doubleNamed "hard_clip_nm") batch).getD s.hardClipNm ∧
      (run applyParameter s batch).pidTimeoutS =
        (lastSome (Parameter.doubleNamed "pid_timeout_s") batch).getD s.pidTimeoutS ∧
      (run applyParameter s batch).loadTimeoutS =
        (lastSome (Parameter.doubleNamed "load_timeout_s") batch).getD s.loadTimeoutS ∧
      (run applyParameter s batch).enableLoad =
        (lastSome (Parameter.boolNamed "enable_load") batch).getD s.enableLoad := by
  refine ⟨?_, ?_, ?_, ?_⟩
  · exact latch_run hardClipNm (by intro t p; rfl) s batch
  · exact latch_run pidTimeoutS (by intro t p; rfl) s batch
  · exact latch_run loadTimeoutS (by intro t p; rfl) s batch
  · exact latch_run enableLoad (by intro t p; rfl) s batch

omit [Double α] in
/-- A batch of assignments leaves the held messages alone. -/
theorem run_applyParameter_held (s : HilTorqueMixerNode α) (batch : List (Parameter α)) :
    (run applyParameter s batch).heldPid = s.heldPid ∧
      (run applyParameter s batch).heldLoad = s.heldLoad :=
  invariant_run
    (I := fun t : HilTorqueMixerNode α => t.heldPid = s.heldPid ∧ t.heldLoad = s.heldLoad)
    (by intro t p h; exact h) ⟨rfl, rfl⟩ batch

theorem step_heldPid (s : HilTorqueMixerNode α) (e : Timed (MixerEvent α)) :
    (s.step e).heldPid = (pidSample e).or s.heldPid := by
  obtain ⟨time, event⟩ := e
  cases event with
  | pid data => cases data <;> rfl
  | load data => rfl
  | enableLoad data => rfl
  | tick => rfl
  | setParameters batch =>
      show (s.setParameters batch).heldPid = s.heldPid
      unfold setParameters
      split
      · exact (run_applyParameter_held _ batch).1
      · rfl

theorem step_heldLoad (s : HilTorqueMixerNode α) (e : Timed (MixerEvent α)) :
    (s.step e).heldLoad = (loadSample e).or s.heldLoad := by
  obtain ⟨time, event⟩ := e
  cases event with
  | pid data => cases data <;> rfl
  | load data => rfl
  | enableLoad data => rfl
  | tick => rfl
  | setParameters batch =>
      show (s.setParameters batch).heldLoad = s.heldLoad
      unfold setParameters
      split
      · exact (run_applyParameter_held _ batch).2
      · rfl

/-- Limits and switch after one callback.  The declared types are those of the
start state, so acceptance does not depend on the state. -/
theorem step_limits (l : Launch α) (s : HilTorqueMixerNode α)
    (htypes : s.parameters.types = (start l).parameters.types) (e : Timed (MixerEvent α)) :
    (s.step e).hardClipNm = (limitUpdate l "hard_clip_nm" e).getD s.hardClipNm ∧
      (s.step e).pidTimeoutS = (limitUpdate l "pid_timeout_s" e).getD s.pidTimeoutS ∧
      (s.step e).loadTimeoutS = (limitUpdate l "load_timeout_s" e).getD s.loadTimeoutS ∧
      (s.step e).enableLoad = (enableUpdate l e).getD s.enableLoad := by
  obtain ⟨time, event⟩ := e
  cases event with
  | pid data => cases data <;> exact ⟨rfl, rfl, rfl, rfl⟩
  | load data => exact ⟨rfl, rfl, rfl, rfl⟩
  | enableLoad data => exact ⟨rfl, rfl, rfl, rfl⟩
  | tick => exact ⟨rfl, rfl, rfl, rfl⟩
  | setParameters batch =>
      simp only [step, setParameters, limitUpdate, enableUpdate, acceptsBatch_congr htypes]
      split
      · exact run_applyParameter _ batch
      · exact ⟨rfl, rfl, rfl, rfl⟩

variable (l : Launch α) (es : List (Timed (MixerEvent α)))

theorem run_limits :
    (run step (start l) es).hardClipNm = hardClipInForce l es ∧
      (run step (start l) es).pidTimeoutS = pidTimeoutInForce l es ∧
      (run step (start l) es).loadTimeoutS = loadTimeoutInForce l es ∧
      (run step (start l) es).enableLoad = loadEnabled l es := by
  have hI : ∀ s (e : Timed (MixerEvent α)),
      s.parameters.types = (start l).parameters.types →
        (step s e).parameters.types = (start l).parameters.types :=
    fun s e h => (step_types s e).trans h
  refine ⟨?_, ?_, ?_, ?_⟩
  · exact latch_run_of_invariant hardClipNm hI
      (fun s e h => (step_limits l s h e).1) rfl es
  · exact latch_run_of_invariant pidTimeoutS hI
      (fun s e h => (step_limits l s h e).2.1) rfl es
  · exact latch_run_of_invariant loadTimeoutS hI
      (fun s e h => (step_limits l s h e).2.2.1) rfl es
  · exact latch_run_of_invariant enableLoad hI
      (fun s e h => (step_limits l s h e).2.2.2) rfl es

theorem run_heldPid : (run step (start l) es).heldPid = lastSome pidSample es := by
  rw [optional_latch_run heldPid step_heldPid]
  exact Option.or_none

theorem run_heldLoad : (run step (start l) es).heldLoad = lastSome loadSample es := by
  rw [optional_latch_run heldLoad step_heldLoad]
  exact Option.or_none

/-- **The latched command is the command of the history**, in any arithmetic. -/
theorem command_eq (now : Time) :
    (run step (start l) es).command now =
      clamp (pidInput l es now + loadInput l es now)
        (-hardClipInForce l es) (hardClipInForce l es) := by
  obtain ⟨hclip, hpid, hload, henable⟩ := run_limits l es
  rw [command, effectivePid_eq, effectiveLoad_eq, run_heldPid, run_heldLoad, hclip, hpid,
    hload, henable]
  rfl

/-- The clip in force has passed a check for not being `≤ 0`. -/
theorem hardClipInForce_not_nonpos (hdef : ¬(lit 0.5 : α) ≤ 0) : ¬hardClipInForce l es ≤ 0 := by
  unfold hardClipInForce
  cases hlast : lastSome (limitUpdate l "hard_clip_nm") es with
  | none =>
      show ¬resetNonPositive (l.getDouble "hard_clip_nm" (lit 0.5)) (lit 0.5) ≤ 0
      unfold resetNonPositive
      split
      · exact hdef
      · assumption
  | some c =>
      obtain ⟨_, e, _, _, he, _⟩ := lastSome_eq_some_iff.mp hlast
      obtain ⟨time, event⟩ := e
      cases event with
      | setParameters batch =>
          simp only [limitUpdate] at he
          split at he
          · rename_i hacc
            obtain ⟨pre, p, post, rfl, hp, _⟩ := lastSome_eq_some_iff.mp he
            unfold Parameter.doubleNamed at hp
            split at hp
            · rename_i hname
              obtain ⟨r, hr, hok⟩ := (acceptsBatch_iff.mp hacc).2 p (by simp)
              exact validateParameter_limit hr hok (Or.inl hname) hp
            · cases hp
          · cases he
      | pid data => cases he
      | load data => cases he
      | enableLoad data => cases he
      | tick => cases he

end Latches

/-! ## The specification over exact rationals -/

section Specification

variable (l : Launch ℚ) (es : List (Timed (MixerEvent ℚ)))

theorem hardClipInForce_pos : 0 < hardClipInForce l es :=
  not_le.mp (hardClipInForce_not_nonpos l es (by rw [lit_rat]; norm_num))

/-- A message counts when it was received at most `timeout` before the tick. -/
def freshOrZero (timeout : ℚ) (now : Time) : Option (Time × ℚ) → ℚ
  | some (stamp, x) => if seconds (now - stamp) ≤ timeout then x else 0
  | none => 0

theorem watched_eq_freshOrZero (timeout : ℚ) (now : Time) (held : Option (Time × ℚ)) :
    watched timeout now held = freshOrZero timeout now held := by
  cases held with
  | none => rfl
  | some h =>
      obtain ⟨stamp, x⟩ := h
      by_cases hle : (seconds (now - stamp) : ℚ) ≤ timeout
      · rw [watched, freshOrZero, if_pos hle, if_neg (not_lt.mpr hle)]
      · rw [watched, freshOrZero, if_neg hle, if_pos (not_le.mp hle)]

/-- What the node is for: the clamped sum of the fresh inputs. -/
def specifiedCommand (now : Time) : ℚ :=
  clamp
    (freshOrZero (pidTimeoutInForce l es) now (lastSome pidSample es) +
      if loadEnabled l es then
        freshOrZero (loadTimeoutInForce l es) now (lastSome loadSample es)
      else 0)
    (-hardClipInForce l es) (hardClipInForce l es)

/-- **The mixer meets its history specification.**  After every history of
callbacks the published command is the specified one, and it lies within the
clip in force. -/
theorem command_eq_specification (now : Time) :
    (run step (start l) es).command now = specifiedCommand l es now ∧
      |(run step (start l) es).command now| ≤ hardClipInForce l es := by
  have heq : (run step (start l) es).command now = specifiedCommand l es now := by
    rw [command_eq, pidInput, loadInput, watched_eq_freshOrZero, watched_eq_freshOrZero]
    rfl
  refine ⟨heq, ?_⟩
  rw [heq]
  exact abs_clamp_le (hardClipInForce_pos l es).le

end Specification

end MarineHil.Ports.HilTorqueMixerNode
