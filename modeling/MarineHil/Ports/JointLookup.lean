import MarineHil.Ports.VelocityPidInvariants

/-!
# The cached joint index of `VelocityPidNode`

`joint_state_callback` keeps the index at which it last found its joint and
searches the names again only when that entry is not the joint any more.  The
model reads the arrays of a message with `[i]?`; here the callback is
transcribed once more with the source's own order of tests, its search loop and
its unguarded `operator[]`, and the two are shown to agree, so that no access of
the source is out of bounds.

## Main results

* `checkedCallback_eq`: the transcription never leaves an array, and computes the model.
* `located_eq_none_iff`, `name_of_located`: the index a message is read at.
* `jointStateCallback_position`, `jointStateCallback_velocity`: what a message does
  to the measurements.
* `jointCached_run`: over whole runs the cache is as good as a fresh search.
-/

namespace MarineHil.Ports.VelocityPidNode

open MarineHil.Verified

variable {α : Type} [Double α]

/-! ## The source's own accesses -/

omit [Double α] in
/-- The test for a stale index, from left to right; `none` is an access outside
the array of names. -/
def cacheStale (s : VelocityPidNode α) (msg : JointState α) : Option Bool :=
  if s.jointIndex < 0 then some true
  else if msg.name.length ≤ s.jointIndex.toNat then some true
  else msg.name[s.jointIndex.toNat]?.map fun name => name != s.jointName

/-- The search loop from `i` on, which leaves −1 where it finds nothing. -/
def searchJoint (names : List String) (jointName : String) (i : ℕ) : Option ℤ :=
  if i < names.length then
    names[i]?.bind fun name =>
      if name = jointName then some i else searchJoint names jointName (i + 1)
  else some (-1)
termination_by names.length - i

/-- The read of the velocity, once the index is known. -/
def checkedVelocity (s : VelocityPidNode α) (msg : JointState α) (idx : ℕ) :
    Option (VelocityPidNode α) :=
  if idx < msg.velocity.length then
    msg.velocity[idx]?.map fun raw => s.filterVelocity (s.oriented raw)
  else some s

/-- The read of the position. -/
def checkedPosition (s : VelocityPidNode α) (msg : JointState α) (idx : ℕ) :
    Option (VelocityPidNode α) :=
  if idx < msg.position.length then
    msg.position[idx]?.map fun raw => { s with lastMeasuredPos := s.oriented raw }
  else some s

def checkedReads (s : VelocityPidNode α) (msg : JointState α) : Option (VelocityPidNode α) :=
  (s.checkedVelocity msg s.jointIndex.toNat).bind fun t =>
    t.checkedPosition msg s.jointIndex.toNat

/-- `joint_state_callback` with the accesses of the source; `none` is an access
outside an array. -/
def checkedCallback (s : VelocityPidNode α) (msg : JointState α) : Option (VelocityPidNode α) :=
  s.cacheStale msg |>.bind fun stale =>
    if stale then
      searchJoint msg.name s.jointName 0 |>.bind fun index =>
        if index < 0 then some { s with jointIndex := index }
        else checkedReads { s with jointIndex := index } msg
    else s.checkedReads msg

omit [Double α] in
/-- The whole condition is that the entry at the index is not the joint. -/
theorem cacheStale_eq (s : VelocityPidNode α) (msg : JointState α) :
    s.cacheStale msg =
      some (decide (s.jointIndex < 0 ∨ msg.name[s.jointIndex.toNat]? ≠ some s.jointName)) := by
  unfold cacheStale
  by_cases hneg : s.jointIndex < 0
  · rw [if_pos hneg, decide_eq_true (Or.inl hneg)]
  · rw [if_neg hneg]
    by_cases hlen : msg.name.length ≤ s.jointIndex.toNat
    · have hnone : msg.name[s.jointIndex.toNat]? = none := List.getElem?_eq_none hlen
      rw [if_pos hlen, hnone, decide_eq_true (Or.inr (Option.some_ne_none _).symm)]
    · rw [if_neg hlen, List.getElem?_eq_getElem (not_le.mp hlen), Option.map_some]
      simp [hneg, bne, beq_eq_decide]

/-- The loop finds the first entry of the joint's name at or after `i`. -/
theorem searchJoint_eq (names : List String) (jointName : String) (i : ℕ) :
    searchJoint names jointName i =
      some (((names.drop i).findIdx? (· = jointName)).elim (-1) fun k => ((i + k : ℕ) : ℤ)) := by
  fun_induction searchJoint names jointName i with
  | case1 i hlt ih =>
      rw [List.getElem?_eq_getElem hlt, Option.bind_some, List.drop_eq_getElem_cons hlt,
        List.findIdx?_cons]
      by_cases hname : names[i] = jointName
      · simp [hname]
      · rw [if_neg hname, ih, decide_eq_false hname]
        cases (names.drop (i + 1)).findIdx? (· = jointName) with
        | none => rfl
        | some k =>
            show some ((i + 1 + k : ℕ) : ℤ) = some ((i + (k + 1) : ℕ) : ℤ)
            rw [Nat.add_assoc, Nat.add_comm 1 k]
  | case2 i hge =>
      rw [List.drop_eq_nil_of_le (not_lt.mp hge)]
      rfl

theorem checkedReads_eq (s : VelocityPidNode α) (msg : JointState α) :
    s.checkedReads msg = some ((s.readVelocity msg).readPosition msg) := by
  have hvelocity : s.checkedVelocity msg s.jointIndex.toNat = some (s.readVelocity msg) := by
    unfold checkedVelocity readVelocity
    split
    · rw [List.getElem?_eq_getElem ‹_›]
      rfl
    · rw [List.getElem?_eq_none (not_lt.mp ‹_›)]
  have hposition (t : VelocityPidNode α) :
      t.checkedPosition msg t.jointIndex.toNat = some (t.readPosition msg) := by
    unfold checkedPosition readPosition
    split
    · rw [List.getElem?_eq_getElem ‹_›]
      rfl
    · rw [List.getElem?_eq_none (not_lt.mp ‹_›)]
  have hindex : (s.readVelocity msg).jointIndex = s.jointIndex := (s.readVelocity_frame msg).2.2
  rw [checkedReads, hvelocity, Option.bind_some, ← hindex, hposition]

/-- **No access of the callback is out of bounds**, and the model is what it computes. -/
theorem checkedCallback_eq (s : VelocityPidNode α) (msg : JointState α) :
    s.checkedCallback msg = some (s.jointStateCallback msg) := by
  unfold checkedCallback jointStateCallback
  rw [cacheStale_eq]
  by_cases hstale : s.jointIndex < 0 ∨ msg.name[s.jointIndex.toNat]? ≠ some s.jointName
  · have hsearch : searchJoint msg.name s.jointName 0 = some (s.locateJoint msg) := by
      rw [searchJoint_eq, List.drop_zero, locateJoint, if_pos hstale]
      cases msg.name.findIdx? (· = s.jointName) with
      | none => rfl
      | some i => exact congrArg some (congrArg Nat.cast (Nat.zero_add i))
    rw [decide_eq_true hstale, hsearch]
    show (if s.locateJoint msg < 0 then some { s with jointIndex := s.locateJoint msg }
      else checkedReads { s with jointIndex := s.locateJoint msg } msg) = _
    rw [checkedReads_eq]
    exact (apply_ite some _ _ _).symm
  · have hkept : s.locateJoint msg = s.jointIndex := if_neg hstale
    have hfound : ¬s.jointIndex < 0 := fun h => hstale (Or.inl h)
    rw [decide_eq_false hstale, hkept, if_neg hfound]
    exact s.checkedReads_eq msg

/-! ## The index a message is read at -/

section Located

omit [Double α]

/-- The index of the joint in a message that lists it. -/
def located (s : VelocityPidNode α) (msg : JointState α) : Option ℕ :=
  if s.locateJoint msg < 0 then none else some (s.locateJoint msg).toNat

theorem located_eq_none_iff {s : VelocityPidNode α} {msg : JointState α} :
    s.located msg = none ↔ s.jointName ∉ msg.name := by
  rw [← locateJoint_neg_iff, located]
  split
  · exact iff_of_true rfl ‹_›
  · exact iff_of_false (Option.some_ne_none _) ‹_›

/-- It points at an entry of the joint. -/
theorem name_of_located {s : VelocityPidNode α} {msg : JointState α} {i : ℕ}
    (h : s.located msg = some i) : msg.name[i]? = some s.jointName := by
  unfold located at h
  split at h
  · cases h
  · cases h
    rcases s.locateJoint_cases msg with ⟨hneg, _⟩ | ⟨_, hname⟩
    · exact absurd hneg ‹_›
    · exact hname

end Located

/-- The sign-adjusted entry of the joint in one of the arrays of a message. -/
def entry (s : VelocityPidNode α) (msg : JointState α) (values : List α) : Option α :=
  ((s.located msg).bind fun i => values[i]?).map s.oriented

section Entries

variable (s : VelocityPidNode α) (msg : JointState α)

private theorem readVelocity_lastMeasuredPos :
    (s.readVelocity msg).lastMeasuredPos = s.lastMeasuredPos := by
  unfold readVelocity
  split <;> rfl

private theorem readPosition_lastMeasuredPos : (s.readPosition msg).lastMeasuredPos =
    (msg.position[s.jointIndex.toNat]?.map s.oriented).getD s.lastMeasuredPos := by
  unfold readPosition
  cases msg.position[s.jointIndex.toNat]? <;> rfl

/-- The position held after a message. -/
theorem jointStateCallback_position : (s.jointStateCallback msg).lastMeasuredPos =
    (s.entry msg msg.position).getD s.lastMeasuredPos := by
  unfold jointStateCallback entry located
  by_cases h : s.locateJoint msg < 0
  · rw [if_pos h, if_pos h]
    rfl
  · obtain ⟨hsettings, _, hindex⟩ :=
      readVelocity_frame { s with jointIndex := s.locateJoint msg } msg
    have hpos := readVelocity_lastMeasuredPos { s with jointIndex := s.locateJoint msg } msg
    have horiented : oriented (readVelocity { s with jointIndex := s.locateJoint msg } msg) =
        s.oriented := by
      funext raw
      rw [oriented, hsettings.members, oriented]
    rw [if_neg h, if_neg h, readPosition_lastMeasuredPos, hindex, hpos, horiented]
    rfl

/-- The two velocities held after a message, and whether the filter has started. -/
theorem jointStateCallback_velocity :
    let t := (s.entry msg msg.velocity).elim s s.filterVelocity
    (s.jointStateCallback msg).filteredVel = t.filteredVel ∧
      (s.jointStateCallback msg).filterInitialized = t.filterInitialized ∧
      (s.jointStateCallback msg).lastMeasuredVel = t.lastMeasuredVel := by
  have hposition (t : VelocityPidNode α) : (t.readPosition msg).filteredVel = t.filteredVel ∧
      (t.readPosition msg).filterInitialized = t.filterInitialized ∧
      (t.readPosition msg).lastMeasuredVel = t.lastMeasuredVel := by
    unfold readPosition
    split <;> exact ⟨rfl, rfl, rfl⟩
  unfold jointStateCallback entry located
  by_cases h : s.locateJoint msg < 0
  · rw [if_pos h, if_pos h]
    exact ⟨rfl, rfl, rfl⟩
  · obtain ⟨hfiltered, hinit, hlast⟩ :=
      hposition (readVelocity { s with jointIndex := s.locateJoint msg } msg)
    rw [if_neg h, if_neg h, hfiltered, hinit, hlast]
    unfold readVelocity
    show _ ∧ _ ∧ _
    rw [Option.bind_some]
    cases msg.velocity[(s.locateJoint msg).toNat]? <;> exact ⟨rfl, rfl, rfl⟩

end Entries

/-- An entry comes from the joint's own index. -/
theorem exists_of_entry {s : VelocityPidNode α} {msg : JointState α} {values : List α} {x : α}
    (h : s.entry msg values = some x) :
    ∃ (i : ℕ) (raw : α), msg.name[i]? = some s.jointName ∧ values[i]? = some raw ∧
      x = s.oriented raw := by
  obtain ⟨raw, hraw, rfl⟩ := Option.map_eq_some_iff.mp h
  obtain ⟨i, hi, hvalue⟩ := Option.bind_eq_some_iff.mp hraw
  exact ⟨i, raw, name_of_located hi, hvalue, rfl⟩

/-! ## Whole runs -/

/-- The cached index against the last message of a history, and what the node does
with it: the torque, the accesses of the next message, and the measurements. -/
structure JointCached (m : Libm α) (joint : String) (last : Option (JointState α))
    (s : VelocityPidNode α) : Prop where
  found_iff : 0 ≤ s.jointIndex ↔ ∃ msg, last = some msg ∧ joint ∈ msg.name
  points : 0 ≤ s.jointIndex →
    ∃ msg, last = some msg ∧ msg.name[s.jointIndex.toNat]? = some joint
  torque : ∀ now, (s.controlLoop m now).torque ≠ 0 → ∃ msg, last = some msg ∧ joint ∈ msg.name
  inBounds : ∀ msg, s.checkedCallback msg = some (s.jointStateCallback msg)

/-- An entry of the joint in an array of the message of an event. -/
def EntryOf (joint : String) (e : Timed (VelocityPidEvent α)) (values : JointState α → List α)
    (raw : α) : Prop :=
  ∃ (msg : JointState α) (i : ℕ),
    e.event = .jointState msg ∧ msg.name[i]? = some joint ∧ (values msg)[i]? = some raw

/-- A callback leaves the measurements, or takes them from entries of the joint. -/
structure ReadsJoint (joint : String) (e : Timed (VelocityPidEvent α))
    (s s' : VelocityPidNode α) : Prop where
  position : s'.lastMeasuredPos = s.lastMeasuredPos ∨
    ∃ raw, EntryOf joint e JointState.position raw ∧ s'.lastMeasuredPos = s.oriented raw
  velocity : s'.filteredVel = s.filteredVel ∨
    ∃ raw, EntryOf joint e JointState.velocity raw ∧
      s'.filteredVel = (s.filterVelocity (s.oriented raw)).filteredVel

theorem step_readsJoint (m : Libm α) (s : VelocityPidNode α) (e : Timed (VelocityPidEvent α)) :
    ReadsJoint s.jointName e s (s.step m e) := by
  obtain ⟨time, event⟩ := e
  cases event with
  | setParameters batch =>
      have hsame := (s.setParameters_joint batch).2
      exact ⟨Or.inl hsame.lastMeasuredPos, Or.inl hsame.filteredVel⟩
  | controlLoop =>
      have hsame := s.controlLoop_measurements m time
      exact ⟨Or.inl hsame.lastMeasuredPos, Or.inl hsame.filteredVel⟩
  | jointState msg =>
      have hpos := s.jointStateCallback_position msg
      have hvel := (s.jointStateCallback_velocity msg).1
      constructor
      · cases hentry : s.entry msg msg.position with
        | none =>
            rw [hentry] at hpos
            exact Or.inl hpos
        | some x =>
            obtain ⟨i, raw, hname, hraw, rfl⟩ := exists_of_entry hentry
            rw [hentry] at hpos
            exact Or.inr ⟨raw, ⟨msg, i, rfl, hname, hraw⟩, hpos⟩
      · cases hentry : s.entry msg msg.velocity with
        | none =>
            rw [hentry] at hvel
            exact Or.inl hvel
        | some x =>
            obtain ⟨i, raw, hname, hraw, rfl⟩ := exists_of_entry hentry
            rw [hentry] at hvel
            exact Or.inr ⟨raw, ⟨msg, i, rfl, hname, hraw⟩, hvel⟩

section Run

variable (m : Libm α) (l : Launch α) (t₀ t₁ : Time) (es : List (Timed (VelocityPidEvent α)))

/-- **The cached index is as good as a fresh search**, whatever messages came. -/
theorem jointCached_run :
    JointCached m (jointNameOf l) (lastJointState es) (run (step m) (start l t₀ t₁) es) ∧
      ∀ e, ReadsJoint (jointNameOf l) e (run (step m) (start l t₀ t₁) es)
        (run (step m) (start l t₀ t₁) (es ++ [e])) := by
  have hlisted (h : 0 ≤ (run (step m) (start l t₀ t₁) es).jointIndex) :
      ∃ msg, lastJointState es = some msg ∧ jointNameOf l ∈ msg.name := by
    obtain ⟨msg, hlast, hat⟩ := run_jointIndex_points h
    exact ⟨msg, hlast, List.mem_of_getElem? hat⟩
  refine ⟨⟨⟨hlisted, ?_⟩, run_jointIndex_points, ?_, checkedCallback_eq _⟩, ?_⟩
  · rintro ⟨msg, hlast, hmem⟩
    rw [← not_lt, run_jointIndex_neg_iff, jointFound, hlast]
    simpa using hmem
  · intro now htorque
    refine hlisted (not_lt.mp ?_)
    intro hneg
    exact htorque (congrArg (fun r => r.torque) (controlLoop_lost hneg m now))
  · intro e
    rw [run_concat, ← run_jointName m l t₀ t₁ es]
    exact step_readsJoint m _ e

end Run

end MarineHil.Ports.VelocityPidNode
