import MarineHil.Verified.Extended
import MarineHil.Ports.RosNode

/-!
# `HilTorqueMixerNode`

The node that sums the PID torque and the load torque, each behind its own
watchdog, and clamps the sum before it commands the motor.

Its events are the callbacks of the single-threaded executor: a message on
either input, a call of `~/enable_load`, a parameter batch, and the timer.
`step` is the state after one callback; the timer also publishes `command`.
-/

namespace MarineHil.Ports

open MarineHil.Verified

structure HilTorqueMixerNode (α : Type) where
  outputRateHz : α
  hardClipNm : α
  pidTimeoutS : α
  loadTimeoutS : α
  enableLoad : Bool
  tauPid : α
  tauHydro : α
  pidLastStamp : Time
  loadLastStamp : Time
  pidReceived : Bool
  loadReceived : Bool
  parameters : ParameterStore α

inductive MixerEvent (α : Type) where
  | pid (data : List α)
  | load (data : α)
  | enableLoad (data : Bool)
  | setParameters (batch : List (Parameter α))
  | tick

namespace HilTorqueMixerNode

variable {α : Type} [Double α]

/-! ## Construction -/

/-- Startup validation: a value that is not positive is reset. -/
def resetNonPositive (value default : α) : α := if value ≤ 0 then default else value

/-- The declared parameters with their launch values. -/
def declared (l : Launch α) : ParameterStore α :=
  .declare
    [ ("pid_torque_topic",
        .string (l.getString "pid_torque_topic" "/velocity_pid_node/torque_command"))
    , ("load_torque_topic",
        .string (l.getString "load_torque_topic" "/chrono_flap_node/load_torque"))
    , ("output_topic",
        .string (l.getString "output_topic" "/motor_effort_controller/commands"))
    , ("output_rate_hz", .double (l.getDouble "output_rate_hz" (lit 200)))
    , ("hard_clip_nm", .double (l.getDouble "hard_clip_nm" (lit 0.5)))
    , ("pid_timeout_s", .double (l.getDouble "pid_timeout_s" (lit 0.2)))
    , ("load_timeout_s", .double (l.getDouble "load_timeout_s" (lit 0.2)))
    , ("enable_load", .bool (l.getBool "enable_load" true)) ]

/-- The constructor.  The stamps are read only after a message has set them. -/
def start (l : Launch α) : HilTorqueMixerNode α where
  outputRateHz := resetNonPositive (l.getDouble "output_rate_hz" (lit 200)) (lit 200)
  hardClipNm := resetNonPositive (l.getDouble "hard_clip_nm" (lit 0.5)) (lit 0.5)
  pidTimeoutS := resetNonPositive (l.getDouble "pid_timeout_s" (lit 0.2)) (lit 0.2)
  loadTimeoutS := resetNonPositive (l.getDouble "load_timeout_s" (lit 0.2)) (lit 0.2)
  enableLoad := l.getBool "enable_load" true
  tauPid := 0
  tauHydro := 0
  pidLastStamp := 0
  loadLastStamp := 0
  pidReceived := false
  loadReceived := false
  parameters := declared l

/-! ## Parameter callbacks -/

def kImmutableParams : List String :=
  ["pid_torque_topic", "load_torque_topic", "output_topic", "output_rate_hz"]

/-- The body of the loop of `on_validate_parameters`. -/
def validateParameter (p : Parameter α) : Option SetParametersResult :=
  if p.name ∈ kImmutableParams then
    some (.failure ("Parameter '" ++ p.name ++ "' cannot be changed at runtime."))
  else if p.name = "hard_clip_nm" ∨ p.name = "pid_timeout_s" ∨ p.name = "load_timeout_s" then
    match p.value with
    | .double v =>
        if v ≤ 0 then some (.failure (p.name ++ " must be positive.")) else some .success
    | _ => some (.failure (p.name ++ " must be positive."))
  else some .success

def onValidateParameters (batch : List (Parameter α)) : Option SetParametersResult :=
  validateAll validateParameter batch

/-- The body of the loop of the post-set callback. -/
def applyParameter (s : HilTorqueMixerNode α) (p : Parameter α) : HilTorqueMixerNode α :=
  { s with
    hardClipNm := (p.doubleNamed "hard_clip_nm").getD s.hardClipNm
    pidTimeoutS := (p.doubleNamed "pid_timeout_s").getD s.pidTimeoutS
    loadTimeoutS := (p.doubleNamed "load_timeout_s").getD s.loadTimeoutS
    enableLoad := (p.boolNamed "enable_load").getD s.enableLoad }

/-- The batch would be applied. -/
def acceptsBatch (s : HilTorqueMixerNode α) (batch : List (Parameter α)) : Bool :=
  accepts s.parameters onValidateParameters batch

def setParameters (s : HilTorqueMixerNode α) (batch : List (Parameter α)) :
    HilTorqueMixerNode α :=
  if s.acceptsBatch batch then
    run applyParameter { s with parameters := s.parameters.setAll batch } batch
  else s

/-! ## Message, service and timer callbacks -/

def pidCallback (s : HilTorqueMixerNode α) (now : Time) (data : List α) :
    HilTorqueMixerNode α :=
  match data with
  | [] => s
  | x :: _ => { s with tauPid := x, pidLastStamp := now, pidReceived := true }

def loadCallback (s : HilTorqueMixerNode α) (now : Time) (data : α) : HilTorqueMixerNode α :=
  { s with tauHydro := data, loadLastStamp := now, loadReceived := true }

def enableService (s : HilTorqueMixerNode α) (data : Bool) :
    HilTorqueMixerNode α × SetBoolResponse :=
  ({ s with enableLoad := data },
    ⟨true, if data then "Load torque ENABLED" else "Load torque DISABLED"⟩)

/-- The PID input after its watchdog. -/
def effectivePid (s : HilTorqueMixerNode α) (now : Time) : α :=
  if s.pidReceived then
    if s.pidTimeoutS < seconds (now - s.pidLastStamp) then 0 else s.tauPid
  else 0

/-- The load input after its switch and its watchdog. -/
def effectiveLoad (s : HilTorqueMixerNode α) (now : Time) : α :=
  if s.enableLoad then
    if s.loadReceived then
      if s.loadTimeoutS < seconds (now - s.loadLastStamp) then 0 else s.tauHydro
    else 0
  else 0

/-- What `tick` publishes. -/
def command (s : HilTorqueMixerNode α) (now : Time) : α :=
  clamp (s.effectivePid now + s.effectiveLoad now) (-s.hardClipNm) s.hardClipNm

/-- One callback. -/
def step (s : HilTorqueMixerNode α) (e : Timed (MixerEvent α)) : HilTorqueMixerNode α :=
  match e.event with
  | .pid data => s.pidCallback e.time data
  | .load data => s.loadCallback e.time data
  | .enableLoad data => (s.enableService data).1
  | .setParameters batch => s.setParameters batch
  | .tick => s

/-! ## A fresh torque -/

theorem resetNonPositive_not_le {value default : ExtRat} (h : 0 < default) :
    ¬resetNonPositive value default ≤ 0 := by
  unfold resetNonPositive
  split
  · exact ExtRat.not_le_zero_iff.mpr (Or.inr h)
  · assumption

theorem start_hardClipNm_not_le (l : Launch ExtRat) : ¬(start l).hardClipNm ≤ 0 :=
  resetNonPositive_not_le (SignedDouble.lit_pos (by norm_num))

theorem start_pidTimeoutS_not_le (l : Launch ExtRat) : ¬(start l).pidTimeoutS ≤ 0 :=
  resetNonPositive_not_le (SignedDouble.lit_pos (by norm_num))

/-- A torque that has just arrived at a mixer without a load reaches the motor. -/
theorem command_of_fresh_pid (l : Launch ExtRat) {x : ExtRat} (hx : x ≠ 0) (now : Time) :
    ((start l).step ⟨now, .pid [x]⟩).command now ≠ 0 := by
  have hpid : ((start l).step ⟨now, .pid [x]⟩).effectivePid now = x := by
    have hfresh : ¬(start l).pidTimeoutS < seconds (now - now) := by
      rw [sub_self, seconds, Int.cast_zero, zero_div]
      exact ExtRat.not_lt_zero_of_not_le (start_pidTimeoutS_not_le l)
    exact (if_pos rfl).trans (if_neg hfresh)
  have hload : ((start l).step ⟨now, .pid [x]⟩).effectiveLoad now = 0 := by
    unfold effectiveLoad
    rw [show ((start l).step ⟨now, .pid [x]⟩).loadReceived = false from rfl,
      if_neg Bool.false_ne_true, ite_self]
  rw [command, hpid, hload, ExtRat.add_fin_zero]
  exact fun hzero => hx ((ExtRat.clamp_eq_zero_iff (start_hardClipNm_not_le l)).mp hzero)

/-! ## What a parameter batch does -/

theorem acceptsBatch_iff {s : HilTorqueMixerNode α} {batch : List (Parameter α)} :
    s.acceptsBatch batch = true ↔ s.parameters.admits batch = true ∧
      ∀ p ∈ batch, ∃ r, validateParameter p = some r ∧ r.successful = true := by
  rw [acceptsBatch, accepts_iff, onValidateParameters, validateAll_successful_iff]

theorem acceptsBatch_congr {s s' : HilTorqueMixerNode α}
    (h : s.parameters.types = s'.parameters.types) (batch : List (Parameter α)) :
    s.acceptsBatch batch = s'.acceptsBatch batch :=
  accepts_congr h onValidateParameters batch

omit [Double α] in
theorem run_applyParameter_parameters (s : HilTorqueMixerNode α)
    (batch : List (Parameter α)) :
    (run applyParameter s batch).parameters = s.parameters :=
  invariant_run (I := fun t : HilTorqueMixerNode α => t.parameters = s.parameters)
    (by intro t p h; exact h) rfl batch

/-- The batch of an event. -/
def batchOf (e : Timed (MixerEvent α)) : Option (List (Parameter α)) :=
  match e.event with
  | .setParameters batch => some batch
  | _ => none

/-- The store changes by accepted batches alone. -/
theorem storesBatches :
    StoresBatches (onValidateParameters (α := α)) batchOf step parameters := by
  intro s e
  obtain ⟨time, event⟩ := e
  cases event with
  | pid data => cases data <;> rfl
  | load data => rfl
  | enableLoad data => rfl
  | tick => rfl
  | setParameters batch =>
      show (s.setParameters batch).parameters = _
      have hbatch : acceptedBatch onValidateParameters batchOf s.parameters
          (⟨time, .setParameters batch⟩ : Timed (MixerEvent α)) =
            if s.acceptsBatch batch then some batch else none := rfl
      rw [hbatch, setParameters]
      split
      · exact run_applyParameter_parameters _ batch
      · rfl

/-- No callback changes the type of a declared parameter. -/
theorem step_types (s : HilTorqueMixerNode α) (e : Timed (MixerEvent α)) :
    (s.step e).parameters.types = s.parameters.types :=
  storesBatches.types_step s e

/-- A parameter is accepted as a limit only when it is a double that is not
`≤ 0`. -/
theorem validateParameter_limit {p : Parameter α} {r : SetParametersResult}
    (h : validateParameter p = some r) (hr : r.successful = true)
    (hname : p.name = "hard_clip_nm" ∨ p.name = "pid_timeout_s" ∨ p.name = "load_timeout_s")
    {v : α} (hv : p.value.asDouble = some v) : ¬v ≤ 0 := by
  by_cases himm : p.name ∈ kImmutableParams
  · rw [validateParameter, if_pos himm] at h
    cases h
    exact absurd hr Bool.false_ne_true
  · rw [validateParameter, if_neg himm, if_pos hname] at h
    cases hval : p.value with
    | double w =>
        rw [hval] at h hv
        cases hv
        intro hle
        simp only [if_pos hle] at h
        cases h
        exact absurd hr Bool.false_ne_true
    | bool b => rw [hval] at hv; cases hv
    | integer i => rw [hval] at hv; cases hv
    | string t => rw [hval] at hv; cases hv

end HilTorqueMixerNode

end MarineHil.Ports
