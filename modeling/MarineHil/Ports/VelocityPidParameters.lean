import MarineHil.Ports.VelocityPidInvariants

/-!
# The parameter table of `VelocityPidNode`, at start and at run time

The constructor reads the table entry by entry and falls back to a default
where a validator objects; a batch is checked by the same validators and then
assigned.  This module states both once and for all members.

## Main results

* `startMembers_eq`: the members the constructor leaves, as a function of the
  launch values.
* `LimitsValid.step`: the limits every clamp relies on hold from the start and
  survive every callback.
* `applyParameter_members`: what one parameter of a batch does to the members.
* `run_tableMember`: every member holds the last accepted value of its parameter.
* `run_filterAlpha`: the weight of the velocity filter is in [0, 1) in every reachable
  state.
-/

namespace MarineHil.Ports.VelocityPidNode

open MarineHil.Verified

section Start

variable {α : Type} [Double α]

/-- A launch value a `positive_validator` has passed, or the default. -/
def positiveOr (default x : α) : α := if 0 < x then x else default

/-- A launch value a `unit_range_validator` has passed, or the default. -/
def unitOr (default x : α) : α := if 0 ≤ x ∧ x < lit 1 then x else default

variable (l : Launch α) (m : VelocityPidMembers α) (name : String) (flags : ℕ)

omit [Double α] in
private theorem readParameter_free (default : α) (member : Member α α) :
    readParameter l m ⟨name, .double default member, none, flags⟩ =
      member.set (l.getDouble name default) m := rfl

omit [Double α] in
private theorem readParameter_bool (default : Bool) (member : Member α Bool) :
    readParameter l m ⟨name, .bool default member, none, flags⟩ =
      member.set (l.getBool name default) m := rfl

private theorem readParameter_positive (default : α) (member : Member α α) :
    readParameter l m
        ⟨name, .double default member, some (positiveValidator name), flags⟩ =
      member.set (positiveOr default (l.getDouble name default)) m := by
  unfold readParameter positiveOr
  simp only [MemberSlot.assign, MemberSlot.launchValue, ParameterValue.asDouble,
    MemberSlot.value, member.get_set, positiveValidator, MemberSlot.setDefault]
  by_cases h : 0 < l.getDouble name default
  · simp only [if_pos h, SetParametersResult.success, if_true]
  · simp only [if_neg h, SetParametersResult.failure, Bool.false_eq_true, if_false,
      member.set_set]

private theorem readParameter_unit (default : α) (member : Member α α) :
    readParameter l m
        ⟨name, .double default member, some (unitRangeValidator name), flags⟩ =
      member.set (unitOr default (l.getDouble name default)) m := by
  unfold readParameter unitOr
  simp only [MemberSlot.assign, MemberSlot.launchValue, ParameterValue.asDouble,
    MemberSlot.value, member.get_set, unitRangeValidator, MemberSlot.setDefault]
  by_cases h : 0 ≤ l.getDouble name default ∧ l.getDouble name default < lit 1
  · simp only [if_pos h, SetParametersResult.success, if_true]
  · simp only [if_neg h, SetParametersResult.failure, Bool.false_eq_true, if_false,
      member.set_set]

/-- The members the constructor leaves. -/
theorem startMembers_eq :
    startMembers l =
      { amplitudeRadS := l.getDouble "amplitude_rad_s" 0
        omegaRadS := l.getDouble "omega_rad_s" 0
        kp := l.getDouble "kp" (lit 0.35)
        ki := l.getDouble "ki" (lit 0.01)
        kd := l.getDouble "kd" 0
        kff := l.getDouble "kff" (lit 0.40)
        kaff := l.getDouble "kaff" (lit 0.20)
        torqueLimitNm := positiveOr (lit 0.40) (l.getDouble "torque_limit_nm" (lit 0.40))
        integralLimit := positiveOr 0 (l.getDouble "integral_limit" 0)
        deadbandRadS := l.getDouble "deadband_rad_s" 0
        kpPos := l.getDouble "kp_pos" (lit 2)
        kiPos := l.getDouble "ki_pos" (lit 0.01)
        kdPos := l.getDouble "kd_pos" (lit 0.025)
        posIntegralLimit := positiveOr (lit 1) (l.getDouble "pos_integral_limit" (lit 1))
        posOutputLimit := positiveOr (lit 2) (l.getDouble "pos_output_limit" (lit 2))
        outerLoopDivider := positiveOr (lit 1) (l.getDouble "outer_loop_divider" (lit 1))
        rateHz := positiveOr (lit 100) (l.getDouble "rate_hz" (lit 100))
        filterAlpha := unitOr (lit 0.90) (l.getDouble "filter_alpha" (lit 0.90))
        invertOutput := l.getBool "invert_output" false
        positionSetpoint := l.getDouble "position_setpoint" 0 } := by
  unfold startMembers run paramDefs
  simp only [List.foldl_cons, List.foldl_nil, readParameter_free, readParameter_bool,
    readParameter_positive, readParameter_unit]

/-- Overriding `invert_output` changes that member only. -/
theorem startMembers_withBool_invert (b : Bool) :
    startMembers (l.withBool "invert_output" b) = { startMembers l with invertOutput := b } := by
  rw [startMembers_eq, startMembers_eq, Launch.getBool_withBool]
  rfl

/-- The node started with `invert_output` overridden. -/
theorem start_withBool_invert_eq (b : Bool) (t₀ t₁ : Time) :
    start (l.withBool "invert_output" b) t₀ t₁ =
      { start l t₀ t₁ with
        invertOutput := b
        parameters := declared (l.withBool "invert_output" b) } := by
  unfold start
  rw [startMembers_withBool_invert]
  generalize startMembers l = members
  rfl

/-- `invert_output` as the launch sets it. -/
theorem start_withBool_invert (b : Bool) (t₀ t₁ : Time) :
    (start (l.withBool "invert_output" b) t₀ t₁).invertOutput = b := by
  rw [start_withBool_invert_eq]

end Start

/-! ## Accepted parameters -/

section Accepted

variable {α : Type} [Double α]

theorem findDef_some {name : String} {d : ParamDef α} (h : findDef name = some d) :
    d ∈ paramDefs ∧ d.name = name := by
  have hname := List.find?_some h
  exact ⟨List.mem_of_find?_eq_some h, of_decide_eq_true hname⟩

/-- An accepted parameter has passed every table entry of its name. -/
theorem checkDef_of_validateParameter {p : Parameter α}
    (h : ∃ r, validateParameter p = some r ∧ r.successful = true) :
    ∀ d ∈ paramDefs, ∃ r, checkDef p d = some r ∧ r.successful = true := by
  obtain ⟨r, hr, hok⟩ := h
  unfold validateParameter at hr
  by_cases himm : p.name ∈ kImmutableParams
  · rw [if_pos himm] at hr
    cases hr
    exact absurd hok Bool.false_ne_true
  · rw [if_neg himm] at hr
    by_cases hmode : (checkControlMode p).successful = true
    · rw [if_pos hmode] at hr
      exact validateAll_successful_iff.mp ⟨r, hr, hok⟩
    · rw [if_neg hmode] at hr
      cases hr
      exact absurd hok hmode

/-- A `positive_validator` passes nothing but positive doubles. -/
theorem pos_of_checkDef {p : Parameter α} {slot : MemberSlot α} {flags : ℕ}
    (h : ∃ r, checkDef p ⟨p.name, slot, some (positiveValidator p.name), flags⟩ = some r ∧
      r.successful = true) :
    ∃ x, p.value = .double x ∧ 0 < x := by
  obtain ⟨r, hr, hok⟩ := h
  rw [checkDef, if_pos rfl] at hr
  cases hv : p.value with
  | double x =>
      refine ⟨x, rfl, ?_⟩
      by_contra hx
      simp only [hv, incoming, Option.bind_some, positiveValidator, if_neg hx] at hr
      cases hr
      exact Bool.false_ne_true hok
  | bool b =>
      rw [hv] at hr
      cases hr
  | integer i =>
      rw [hv] at hr
      cases hr
  | string t =>
      rw [hv] at hr
      cases hr

end Accepted

/-! ## Limits -/

section Limits

variable {α : Type} [Double α]

theorem positiveOr_pos {default : α} (h : 0 < default) (x : α) : 0 < positiveOr default x := by
  unfold positiveOr
  split
  · assumption
  · exact h

theorem positiveOr_zero_nonneg [SignedDouble α] (x : α) : 0 ≤ positiveOr 0 x := by
  unfold positiveOr
  split
  · exact SignedDouble.nonneg_of_pos ‹0 < x›
  · exact SignedDouble.zero_nonneg

/-- The limits every clamp relies on.  `integral_limit` alone may be zero: its
default fails its own validator. -/
structure LimitsValid (m : VelocityPidMembers α) : Prop where
  torque : 0 < m.torqueLimitNm
  integral : 0 ≤ m.integralLimit
  posIntegral : 0 < m.posIntegralLimit
  posOutput : 0 < m.posOutputLimit

variable [SignedDouble α]

theorem startMembers_limitsValid (l : Launch α) : LimitsValid (startMembers l) := by
  rw [startMembers_eq]
  exact ⟨positiveOr_pos (SignedDouble.lit_pos (by norm_num)) _, positiveOr_zero_nonneg _,
    positiveOr_pos (SignedDouble.lit_pos (by norm_num)) _,
    positiveOr_pos (SignedDouble.lit_pos (by norm_num)) _⟩

/-- An assignment that has passed its validator keeps the limits. -/
theorem LimitsValid.assign {m : VelocityPidMembers α} (h : LimitsValid m) {d : ParamDef α}
    (hd : d ∈ paramDefs) {p : Parameter α} (hname : d.name = p.name)
    (hok : ∃ r, checkDef p d = some r ∧ r.successful = true) :
    LimitsValid (d.slot.assign p.value m) := by
  obtain ⟨name, value⟩ := p
  simp only [paramDefs, List.mem_cons, List.not_mem_nil, or_false] at hd
  rcases hd with rfl | rfl | rfl | rfl | rfl | rfl | rfl | rfl | rfl | rfl | rfl | rfl | rfl |
    rfl | rfl | rfl | rfl | rfl | rfl | rfl
  -- the entries without a validator are no limits
  all_goals
    cases hname
    first
    | (obtain ⟨x, hx, hpos⟩ := pos_of_checkDef hok
       cases hx
       first
       | exact ⟨hpos, h.integral, h.posIntegral, h.posOutput⟩
       | exact ⟨h.torque, SignedDouble.nonneg_of_pos hpos, h.posIntegral, h.posOutput⟩
       | exact ⟨h.torque, h.integral, hpos, h.posOutput⟩
       | exact ⟨h.torque, h.integral, h.posIntegral, hpos⟩
       | exact ⟨h.torque, h.integral, h.posIntegral, h.posOutput⟩)
    | (cases value <;> exact ⟨h.torque, h.integral, h.posIntegral, h.posOutput⟩)

theorem LimitsValid.applyParameter {s : VelocityPidNode α}
    (h : LimitsValid s.toVelocityPidMembers) {p : Parameter α}
    (hok : ∃ r, validateParameter p = some r ∧ r.successful = true) :
    LimitsValid (s.applyParameter p).toVelocityPidMembers := by
  unfold VelocityPidNode.applyParameter
  by_cases hmode : p.name = "control_mode"
  · rw [if_pos hmode]
    exact h
  · rw [if_neg hmode]
    cases hfind : findDef (α := α) p.name with
    | none => exact h
    | some d =>
        obtain ⟨hd, hname⟩ := findDef_some hfind
        exact h.assign hd hname (checkDef_of_validateParameter hok d hd)

/-- The limits survive every callback. -/
theorem LimitsValid.step {s : VelocityPidNode α} (h : LimitsValid s.toVelocityPidMembers)
    (m : Libm α) (e : Timed (VelocityPidEvent α)) :
    LimitsValid (s.step m e).toVelocityPidMembers := by
  obtain ⟨time, event⟩ := e
  cases event with
  | jointState msg =>
      show LimitsValid (s.jointStateCallback msg).toVelocityPidMembers
      rw [(s.jointStateCallback_settings msg).members]
      exact h
  | controlLoop =>
      show LimitsValid (s.controlLoop m time).node.toVelocityPidMembers
      rw [(s.controlLoop_settings m time).members]
      exact h
  | setParameters batch =>
      show LimitsValid (s.setParameters batch).toVelocityPidMembers
      unfold VelocityPidNode.setParameters
      by_cases hacc : s.acceptsBatch batch = true
      · rw [if_pos hacc, onApplyParameters_members]
        have hok := (acceptsBatch_iff.mp hacc).2
        exact invariant_run_of_mem
          (I := fun t : VelocityPidNode α => LimitsValid t.toVelocityPidMembers)
          (by intro t p hp ht; exact ht.applyParameter (hok p hp)) h
      · rw [if_neg hacc]
        exact h

theorem run_limitsValid (m : Libm α) (l : Launch α) (t₀ t₁ : Time)
    (es : List (Timed (VelocityPidEvent α))) :
    LimitsValid (run (step m) (start l t₀ t₁) es).toVelocityPidMembers :=
  invariant_run (I := fun t : VelocityPidNode α => LimitsValid t.toVelocityPidMembers)
    (by intro s e h; exact h.step m e) (startMembers_limitsValid l) es

end Limits

/-! ## The members, one by one -/

/-- The double parameters of the table. -/
inductive TableMember where
  | amplitudeRadS
  | omegaRadS
  | kp
  | ki
  | kd
  | kff
  | kaff
  | torqueLimitNm
  | integralLimit
  | deadbandRadS
  | kpPos
  | kiPos
  | kdPos
  | posIntegralLimit
  | posOutputLimit
  | outerLoopDivider
  | rateHz
  | filterAlpha
  | positionSetpoint
  deriving DecidableEq

namespace TableMember

def name : TableMember → String
  | amplitudeRadS => "amplitude_rad_s"
  | omegaRadS => "omega_rad_s"
  | kp => "kp"
  | ki => "ki"
  | kd => "kd"
  | kff => "kff"
  | kaff => "kaff"
  | torqueLimitNm => "torque_limit_nm"
  | integralLimit => "integral_limit"
  | deadbandRadS => "deadband_rad_s"
  | kpPos => "kp_pos"
  | kiPos => "ki_pos"
  | kdPos => "kd_pos"
  | posIntegralLimit => "pos_integral_limit"
  | posOutputLimit => "pos_output_limit"
  | outerLoopDivider => "outer_loop_divider"
  | rateHz => "rate_hz"
  | filterAlpha => "filter_alpha"
  | positionSetpoint => "position_setpoint"

def get {α : Type} (m : VelocityPidMembers α) : TableMember → α
  | amplitudeRadS => m.amplitudeRadS
  | omegaRadS => m.omegaRadS
  | kp => m.kp
  | ki => m.ki
  | kd => m.kd
  | kff => m.kff
  | kaff => m.kaff
  | torqueLimitNm => m.torqueLimitNm
  | integralLimit => m.integralLimit
  | deadbandRadS => m.deadbandRadS
  | kpPos => m.kpPos
  | kiPos => m.kiPos
  | kdPos => m.kdPos
  | posIntegralLimit => m.posIntegralLimit
  | posOutputLimit => m.posOutputLimit
  | outerLoopDivider => m.outerLoopDivider
  | rateHz => m.rateHz
  | filterAlpha => m.filterAlpha
  | positionSetpoint => m.positionSetpoint

variable {α : Type} [Double α]

def default : TableMember → α
  | kp => lit 0.35
  | ki => lit 0.01
  | kff => lit 0.40
  | kaff => lit 0.20
  | torqueLimitNm => lit 0.40
  | kpPos => lit 2
  | kiPos => lit 0.01
  | kdPos => lit 0.025
  | posIntegralLimit => lit 1
  | posOutputLimit => lit 2
  | outerLoopDivider => lit 1
  | rateHz => lit 100
  | filterAlpha => lit 0.90
  | _ => 0

/-- The members with a `positive_validator`. -/
def positive : List TableMember :=
  [.torqueLimitNm, .integralLimit, .posIntegralLimit, .posOutputLimit, .outerLoopDivider, .rateHz]

/-- What the constructor makes of a launch value. -/
def admitted (d : TableMember) (x : α) : α :=
  if d ∈ positive then positiveOr d.default x
  else if d = filterAlpha then unitOr d.default x
  else x

/-- The value a parameter is declared with. -/
def launchValue (d : TableMember) (l : Launch α) : α := l.getDouble d.name d.default

end TableMember

section Table

variable {α : Type}

/-- The members after one parameter, with every entry of the table in view. -/
def assignNamed (p : Parameter α) (m : VelocityPidMembers α) : VelocityPidMembers α where
  amplitudeRadS := (p.doubleNamed "amplitude_rad_s").getD m.amplitudeRadS
  omegaRadS := (p.doubleNamed "omega_rad_s").getD m.omegaRadS
  kp := (p.doubleNamed "kp").getD m.kp
  ki := (p.doubleNamed "ki").getD m.ki
  kd := (p.doubleNamed "kd").getD m.kd
  kff := (p.doubleNamed "kff").getD m.kff
  kaff := (p.doubleNamed "kaff").getD m.kaff
  torqueLimitNm := (p.doubleNamed "torque_limit_nm").getD m.torqueLimitNm
  integralLimit := (p.doubleNamed "integral_limit").getD m.integralLimit
  deadbandRadS := (p.doubleNamed "deadband_rad_s").getD m.deadbandRadS
  kpPos := (p.doubleNamed "kp_pos").getD m.kpPos
  kiPos := (p.doubleNamed "ki_pos").getD m.kiPos
  kdPos := (p.doubleNamed "kd_pos").getD m.kdPos
  posIntegralLimit := (p.doubleNamed "pos_integral_limit").getD m.posIntegralLimit
  posOutputLimit := (p.doubleNamed "pos_output_limit").getD m.posOutputLimit
  outerLoopDivider := (p.doubleNamed "outer_loop_divider").getD m.outerLoopDivider
  rateHz := (p.doubleNamed "rate_hz").getD m.rateHz
  filterAlpha := (p.doubleNamed "filter_alpha").getD m.filterAlpha
  invertOutput := (p.boolNamed "invert_output").getD m.invertOutput
  positionSetpoint := (p.doubleNamed "position_setpoint").getD m.positionSetpoint

theorem get_assignNamed (d : TableMember) (p : Parameter α) (m : VelocityPidMembers α) :
    d.get (assignNamed p m) = (p.doubleNamed d.name).getD (d.get m) := by
  cases d <;> rfl

/-- The names of the table. -/
def tableNames : List String := "invert_output" ::
  [ "amplitude_rad_s", "omega_rad_s", "kp", "ki", "kd", "kff", "kaff", "torque_limit_nm"
  , "integral_limit", "deadband_rad_s", "kp_pos", "ki_pos", "kd_pos", "pos_integral_limit"
  , "pos_output_limit", "outer_loop_divider", "rate_hz", "filter_alpha", "position_setpoint" ]

theorem assignNamed_of_not_mem {p : Parameter α} (h : p.name ∉ tableNames)
    (m : VelocityPidMembers α) : assignNamed p m = m := by
  have hne (name : String) (hname : name ∈ tableNames) : p.name ≠ name := by
    rintro rfl
    exact h hname
  have hdouble (name : String) (hname : name ∈ tableNames) : p.doubleNamed name = none :=
    if_neg (hne name hname)
  have hbool (name : String) (hname : name ∈ tableNames) : p.boolNamed name = none :=
    if_neg (hne name hname)
  unfold assignNamed
  simp (disch := decide) only [hdouble, hbool, Option.getD_none]

variable [Double α]

/-- The entry of a name assigns the member of that name. -/
theorem assign_eq_assignNamed {d : ParamDef α} (hd : d ∈ paramDefs) (value : ParameterValue α)
    (m : VelocityPidMembers α) : d.slot.assign value m = assignNamed ⟨d.name, value⟩ m := by
  simp only [paramDefs, List.mem_cons, List.not_mem_nil, or_false] at hd
  rcases hd with rfl | rfl | rfl | rfl | rfl | rfl | rfl | rfl | rfl | rfl | rfl | rfl | rfl |
    rfl | rfl | rfl | rfl | rfl | rfl | rfl
  all_goals cases value <;> rfl

theorem not_mem_tableNames {name : String} (h : findDef (α := α) name = none) :
    name ∉ tableNames := by
  intro hmem
  have hsome : (findDef (α := α) name).isSome = true := by
    unfold tableNames at hmem
    simp only [List.mem_cons, List.not_mem_nil, or_false] at hmem
    rcases hmem with rfl | rfl | rfl | rfl | rfl | rfl | rfl | rfl | rfl | rfl | rfl | rfl | rfl |
      rfl | rfl | rfl | rfl | rfl | rfl | rfl
    all_goals rfl
  rw [h] at hsome
  cases hsome

/-- **What one parameter of a batch does to the members.** -/
theorem applyParameter_members (s : VelocityPidNode α) (p : Parameter α) :
    (s.applyParameter p).toVelocityPidMembers = assignNamed p s.toVelocityPidMembers := by
  unfold applyParameter
  by_cases hmode : p.name = "control_mode"
  · rw [if_pos hmode, assignNamed_of_not_mem (by rw [hmode]; decide)]
  · rw [if_neg hmode]
    cases hfind : findDef (α := α) p.name with
    | none => exact (assignNamed_of_not_mem (not_mem_tableNames hfind) _).symm
    | some d =>
        obtain ⟨hd, hname⟩ := findDef_some hfind
        have hassign := assign_eq_assignNamed hd p.value s.toVelocityPidMembers
        rw [hname] at hassign
        exact hassign

/-- What one parameter of a batch does to the node. -/
theorem applyParameter_eq (s : VelocityPidNode α) (p : Parameter α) :
    s.applyParameter p =
      { s with
        toVelocityPidMembers := assignNamed p s.toVelocityPidMembers
        controlMode :=
          if p.name = "control_mode" then
            (p.value.asString.bind ControlMode.ofString).getD s.controlMode
          else s.controlMode
        outerLoopCounter := if p.name = "control_mode" then 0 else s.outerLoopCounter
        outerDtAccum := if p.name = "control_mode" then 0 else s.outerDtAccum } := by
  rw [← applyParameter_members]
  unfold applyParameter
  by_cases hmode : p.name = "control_mode"
  · simp only [if_pos hmode]
  · simp only [if_neg hmode]
    cases findDef (α := α) p.name with
    | none => rfl
    | some d => rfl

/-- The members the constructor leaves. -/
theorem get_startMembers (d : TableMember) (l : Launch α) :
    d.get (startMembers l) = d.admitted (d.launchValue l) := by
  rw [startMembers_eq]
  cases d <;> rfl

end Table

/-! ## The members over runs -/

section TableRun

variable {α : Type} [Double α] (m : Libm α) (l : Launch α) (t₀ t₁ : Time)

/-- The value an accepted batch gives to a double parameter. -/
def doubleUpdate (l : Launch α) (name : String) (e : Timed (VelocityPidEvent α)) : Option α :=
  match e.event with
  | .setParameters batch =>
      if accepts (declared l) onValidateParameters batch then
        lastSome (Parameter.doubleNamed name) batch
      else none
  | _ => none

/-- The value an accepted batch gives to a boolean parameter. -/
def boolUpdate (l : Launch α) (name : String) (e : Timed (VelocityPidEvent α)) : Option Bool :=
  match e.event with
  | .setParameters batch =>
      if accepts (declared l) onValidateParameters batch then
        lastSome (Parameter.boolNamed name) batch
      else none
  | _ => none

/-- The last accepted value of a parameter, and before any the one the constructor
let through. -/
def inForce (l : Launch α) (d : TableMember) (es : List (Timed (VelocityPidEvent α))) : α :=
  (lastSome (doubleUpdate l d.name) es).getD (d.admitted (d.launchValue l))

theorem acceptsBatch_eq {s : VelocityPidNode α} (h : s.parameters.types = (declared l).types)
    (batch : List (Parameter α)) :
    s.acceptsBatch batch = accepts (declared l) onValidateParameters batch :=
  accepts_congr h onValidateParameters batch

/-- The members after a batch. -/
theorem setParameters_members (s : VelocityPidNode α) (batch : List (Parameter α)) :
    (s.setParameters batch).toVelocityPidMembers =
      if s.acceptsBatch batch then run (fun u p => assignNamed p u) s.toVelocityPidMembers batch
      else s.toVelocityPidMembers := by
  have hrun (u : VelocityPidNode α) : (run applyParameter u batch).toVelocityPidMembers =
      run (fun v p => assignNamed p v) u.toVelocityPidMembers batch := by
    induction batch generalizing u with
    | nil => rfl
    | cons p batch ih => rw [run_cons, run_cons, ih, applyParameter_members]
  unfold setParameters
  split
  · rw [onApplyParameters_members, hrun]
  · rfl

/-- The members after one callback. -/
theorem step_members (s : VelocityPidNode α) (e : Timed (VelocityPidEvent α)) :
    (s.step m e).toVelocityPidMembers =
      match e.event with
      | .setParameters batch =>
          if s.acceptsBatch batch then run (fun u p => assignNamed p u) s.toVelocityPidMembers batch
          else s.toVelocityPidMembers
      | _ => s.toVelocityPidMembers := by
  obtain ⟨time, event⟩ := e
  cases event with
  | jointState msg => exact (s.jointStateCallback_settings msg).members
  | controlLoop => exact (s.controlLoop_settings m time).members
  | setParameters batch => exact s.setParameters_members batch

theorem step_tableMember (d : TableMember) {s : VelocityPidNode α}
    (h : s.parameters.types = (declared l).types) (e : Timed (VelocityPidEvent α)) :
    d.get (s.step m e).toVelocityPidMembers =
      (doubleUpdate l d.name e).getD (d.get s.toVelocityPidMembers) := by
  rw [step_members]
  unfold doubleUpdate
  cases e.event with
  | setParameters batch =>
      dsimp only
      rw [acceptsBatch_eq l h]
      split
      · exact latch_run (fun u => d.get u) (fun u p => get_assignNamed d p u) _ batch
      · rfl
  | _ => rfl

/-- **Every member holds the last accepted value of its parameter.** -/
theorem run_tableMember (d : TableMember) (es : List (Timed (VelocityPidEvent α))) :
    d.get (run (step m) (start l t₀ t₁) es).toVelocityPidMembers = inForce l d es := by
  rw [inForce, ← get_startMembers]
  exact latch_run_of_invariant (fun s : VelocityPidNode α => d.get s.toVelocityPidMembers)
    (I := fun s => s.parameters.types = (declared l).types)
    (by intro s e h; exact (step_types m s e).trans h)
    (by intro s e h; exact step_tableMember m l d h e) rfl es

end TableRun

/-! ## The weight of the velocity filter -/

section FilterAlpha

/-- A `unit_range_validator` passes nothing but doubles of the range. -/
theorem unit_of_checkDef {p : Parameter ℚ} {slot : MemberSlot ℚ} {flags : ℕ}
    (h : ∃ r, checkDef p ⟨p.name, slot, some (unitRangeValidator p.name), flags⟩ = some r ∧
      r.successful = true) {x : ℚ} (hx : p.value = .double x) : 0 ≤ x ∧ x < 1 := by
  obtain ⟨r, hr, hok⟩ := h
  rw [checkDef, if_pos rfl] at hr
  by_contra hrange
  have hfail : unitRangeValidator p.name (.double x) =
      some (.failure (p.name ++ " must be in [0.0, 1.0).")) := congrArg some (if_neg hrange)
  simp only [hx, incoming, Option.bind_some, hfail] at hr
  cases hr
  exact Bool.false_ne_true hok

theorem unitOr_mem {default : ℚ} (h : 0 ≤ default ∧ default < 1) (x : ℚ) :
    0 ≤ unitOr default x ∧ unitOr default x < 1 := by
  unfold unitOr
  split
  · assumption
  · exact h

/-- The value of an accepted batch is that of an accepted parameter. -/
theorem accepted_of_doubleUpdate {l : Launch ℚ} {name : String}
    {e : Timed (VelocityPidEvent ℚ)} {x : ℚ} (h : doubleUpdate l name e = some x) :
    ∃ p : Parameter ℚ, p.name = name ∧ p.value = .double x ∧
      ∃ r, validateParameter p = some r ∧ r.successful = true := by
  obtain ⟨time, event⟩ := e
  cases event with
  | setParameters batch =>
      change (if accepts (declared l) onValidateParameters batch then _ else none) = some x at h
      split at h
      · obtain ⟨pre, p, post, rfl, hp, _⟩ := lastSome_eq_some_iff.mp h
        obtain ⟨_, hvalid⟩ := accepts_iff.mp ‹_›
        have hok := validateAll_successful_iff.mp hvalid p (by simp)
        unfold Parameter.doubleNamed at hp
        split at hp
        · refine ⟨p, ‹_›, ?_, hok⟩
          cases hv : p.value with
          | double y =>
              rw [hv] at hp
              exact congrArg _ (Option.some.inj hp)
          | _ =>
              rw [hv] at hp
              cases hp
        · cases hp
      · cases h
  | _ => cases h

/-- **The weight is in the unit range in every reachable state.** -/
theorem run_filterAlpha (m : Libm ℚ) (l : Launch ℚ) (t₀ t₁ : Time)
    (es : List (Timed (VelocityPidEvent ℚ))) :
    0 ≤ (run (step m) (start l t₀ t₁) es).filterAlpha ∧
      (run (step m) (start l t₀ t₁) es).filterAlpha < 1 := by
  have hmember : (run (step m) (start l t₀ t₁) es).filterAlpha = inForce l .filterAlpha es :=
    run_tableMember m l t₀ t₁ .filterAlpha es
  rw [hmember, inForce]
  cases hlast : lastSome (doubleUpdate l TableMember.filterAlpha.name) es with
  | none => exact unitOr_mem (by show (0 : ℚ) ≤ 0.90 ∧ (0.90 : ℚ) < 1; norm_num) _
  | some x =>
      obtain ⟨pre, e, post, _, hx, _⟩ := lastSome_eq_some_iff.mp hlast
      obtain ⟨p, hname, hvalue, hok⟩ := accepted_of_doubleUpdate hx
      obtain ⟨name, value⟩ := p
      cases hname
      have hentry : ∃ slot flags,
          ⟨"filter_alpha", slot, some (unitRangeValidator "filter_alpha"), flags⟩ ∈
            paramDefs (α := ℚ) := ⟨_, _, List.mem_of_getElem? (i := 17) rfl⟩
      obtain ⟨slot, flags, hmem⟩ := hentry
      exact unit_of_checkDef (checkDef_of_validateParameter hok _ hmem) hvalue

end FilterAlpha

end MarineHil.Ports.VelocityPidNode
