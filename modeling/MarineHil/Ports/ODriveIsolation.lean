import MarineHil.Ports.ODriveBus

/-!
# One axis among the others

All the axes go through the same mode switches, and each frame is offered to all of them.
Still an axis is not touched by what is meant for another: it takes of a mode switch its own
keys, of a read the frames of its node, and of the commands its own.

## Main results

* `axisStep_ownPart`: the part of an event that concerns an axis is all of it.
* `axes_isolated`: two histories that have the same events for an axis lead to the same
  state of it and to the same messages at its address.
-/

namespace MarineHil.Ports

open Verified Axis ODriveHardwareInterface

variable {α : Type}

/-- The keys of an axis. -/
def Axis.owns (a : Axis α) (key : String) : Bool := (a.interfaces.map Prod.fst).contains key

/-- The part of an event that concerns an axis. -/
def ownPart (a : Axis α) : ODriveEvent α → ODriveEvent α
  | .switch startInterfaces stopInterfaces =>
      .switch (startInterfaces.filter a.owns) (stopInterfaces.filter a.owns)
  | .read frames => .read (frames.filter fun f : CanFrame => f.canId >>> 5 = a.nodeId)
  | e => e

/-- Whether there is anything in it for the `i`-th axis. -/
def matters (i : ℕ) : ODriveEvent α → Bool
  | .switch [] [] => false
  | .read [] => false
  | .command j _ _ => j = i
  | _ => true

/-- The history of an axis. -/
def ownEvents (i : ℕ) (a : Axis α) (es : List (ODriveEvent α)) : List (ODriveEvent α) :=
  (es.map (ownPart a)).filter (matters i)

/-! ## One event -/

section Event

variable {a b : Axis α}

/-- Keys of other axes are passed over. -/
theorem foldl_applyKey_filter (value : Bool) (own : String → Bool) (keys : List String)
    (s : Axis α × Bool) (hown : ∀ k, own (s.1.key k) = true) :
    (keys.filter own).foldl (applyKey value) s = keys.foldl (applyKey value) s := by
  induction keys generalizing s with
  | nil => rfl
  | cons key keys ih =>
      have hkey : ∀ k, own ((applyKey value s key).1.key k) = true := by
        obtain ⟨hsame, _⟩ := foldl_applyKey_spec value [key] s
        intro k
        rw [show (applyKey value s key).1.key k = s.1.key k from hsame.key k]
        exact hown k
      cases hmine : own key with
      | true =>
          rw [List.filter_cons_of_pos hmine]
          exact ih _ hkey
      | false =>
          have hne : ∀ k, s.1.key k ≠ key := by
            rintro k rfl
            rw [hown k] at hmine
            cases hmine
          rw [List.filter_cons_of_neg (by rw [hmine]; exact Bool.false_ne_true), List.foldl_cons,
            applyKey_of_ne hne]
          exact ih s hown

theorem owns_key (a : Axis α) (k : Input) : a.owns (a.key k) = true := by
  cases k <;> simp [owns, interfaces, key]

theorem switchInputs_filter (hkey : b.joint = a.joint)
    (startInterfaces stopInterfaces : List String) :
    b.switchInputs (startInterfaces.filter a.owns) (stopInterfaces.filter a.owns) =
      b.switchInputs startInterfaces stopInterfaces := by
  have howns (c : Axis α) (hc : c.joint = a.joint) (k : Input) : a.owns (c.key k) = true := by
    have hsame : c.key k = a.key k := by rw [Axis.key, Axis.key, hc]
    rw [hsame]
    exact owns_key a k
  have hstop := foldl_applyKey_spec false stopInterfaces (b, false)
  rw [switchInputs, switchInputs,
    foldl_applyKey_filter false a.owns stopInterfaces _ (howns b hkey),
    foldl_applyKey_filter true a.owns startInterfaces _ (howns _ (hstop.1.joint.trans hkey))]

variable [Double α] {m : Platform α}

/-- Frames of other nodes are passed over. -/
theorem foldl_dispatch_filter (frames : List CanFrame) (b : Axis α) (hb : b.nodeId = a.nodeId) :
    (frames.filter fun f : CanFrame => f.canId >>> 5 = a.nodeId).foldl (dispatch m) b =
      frames.foldl (dispatch m) b := by
  induction frames generalizing b with
  | nil => rfl
  | cons f frames ih =>
      by_cases hf : f.canId >>> 5 = a.nodeId
      · rw [List.filter_cons_of_pos (by simpa using hf), List.foldl_cons, List.foldl_cons]
        refine ih _ ?_
        rw [sameButEstimates_dispatch m b f]
        exact hb
      · have hpass : b.dispatch m f = b := if_neg fun heq => hf (heq.trans hb)
        rw [List.filter_cons_of_neg (by simpa using hf), List.foldl_cons, hpass]
        exact ih b hb

/-- **The part of an event that concerns an axis is all of it.** -/
theorem axisStep_ownPart (hjoint : b.joint = a.joint) (hnode : b.nodeId = a.nodeId) (i : ℕ)
    (active : Bool) (e : ODriveEvent α) :
    axisStep m i b (ownPart a e) = axisStep m i b e ∧
      axisMessages m active b (ownPart a e) = axisMessages m active b e ∧
        activation (ownPart a e) = activation e := by
  cases e with
  | switch startInterfaces stopInterfaces =>
      refine ⟨?_, ?_, rfl⟩
      · rw [ownPart, axisStep, axisStep, switchInputs_filter hjoint]
      · rw [ownPart, axisMessages, axisMessages, switchInputs_filter hjoint]
  | read frames => exact ⟨foldl_dispatch_filter frames b hnode, rfl, rfl⟩
  | activate => exact ⟨rfl, rfl, rfl⟩
  | deactivate => exact ⟨rfl, rfl, rfl⟩
  | command j k x => exact ⟨rfl, rfl, rfl⟩
  | write => exact ⟨rfl, rfl, rfl⟩

theorem axisStep_of_not_matters {i : ℕ} {e : ODriveEvent α} (he : matters i e = false)
    (active : Bool) (b : Axis α) :
    axisStep m i b e = b ∧ axisMessages m active b e = [] ∧ activation e = none := by
  cases e with
  | switch startInterfaces stopInterfaces =>
      cases startInterfaces with
      | cons key keys => cases he
      | nil =>
          cases stopInterfaces with
          | cons key keys => cases he
          | nil => exact ⟨rfl, rfl, rfl⟩
  | read frames =>
      cases frames with
      | cons f frames => cases he
      | nil => exact ⟨rfl, rfl, rfl⟩
  | command j k x => exact ⟨if_neg (of_decide_eq_false he), rfl, rfl⟩
  | activate => cases he
  | deactivate => cases he
  | write => cases he

end Event

/-! ## Runs -/

section Runs

variable [Double α] {m : Platform α} {s : ODriveHardwareInterface α} {i : ℕ} {a : Axis α}

/-- An axis by itself, with `active_`. -/
def aloneStep (m : Platform α) (i : ℕ) (p : Bool × Axis α) (e : ODriveEvent α) : Bool × Axis α :=
  ((activation e).getD p.1, axisStep m i p.2 e)

/-- The messages at one address. -/
def sentTo (m : Platform α) (n : ℕ) (s : ODriveHardwareInterface α) (e : ODriveEvent α) :
    List Transmission := (s.sends m e).filter fun t => busId t.nodeId = n

theorem sentTo_eq (hs : Distinct s) (ha : s.axes[i]? = some a) (e : ODriveEvent α) :
    sentTo m (busId a.nodeId) s e = messagesTo m s.active a e := by
  obtain ⟨pre, post, hsends, helse⟩ := sends_split (m := m) hs ha e
  have hmine : ∀ t ∈ messagesTo m s.active a e,
      decide (busId t.nodeId = busId a.nodeId) = true := by
    intro t ht
    obtain ⟨msg, _, rfl⟩ := List.mem_map.mp ht
    exact decide_eq_true rfl
  have hother : ∀ t ∈ pre ++ post, ¬decide (busId t.nodeId = busId a.nodeId) = true :=
    fun t ht heq => helse t ht (of_decide_eq_true heq)
  rw [sentTo, hsends, List.filter_append, List.filter_append, List.filter_eq_self.mpr hmine,
    List.filter_eq_nil_iff.mpr fun t ht => hother t (List.mem_append_left _ ht),
    List.filter_eq_nil_iff.mpr fun t ht => hother t (List.mem_append_right _ ht),
    List.nil_append, List.append_nil]

/-- An axis of the driver is sent what it would be sent alone. -/
theorem emitted_sentTo (hs : Distinct s) (ha : s.axes[i]? = some a) (es : List (ODriveEvent α)) :
    emitted (step m) (sentTo m (busId a.nodeId)) s es =
      emitted (aloneStep m i) (fun p e => messagesTo m p.1 p.2 e) (s.active, a) es := by
  refine emitted_of_related (R := fun (t : ODriveHardwareInterface α) (p : Bool × Axis α) =>
    t.active = p.1 ∧ t.axes[i]? = some p.2 ∧ Distinct t ∧ p.2.nodeId = a.nodeId) ?_ ?_
    ⟨rfl, ha, hs, rfl⟩ es
  · rintro t p e ⟨hactive, haxis, hdistinct, hnode⟩
    refine ⟨?_, ?_, hdistinct.step e, ?_⟩
    · have hrun := active_run (m := m) t [e]
      have hlast : lastSome activation [e] = activation e := by
        rw [← List.nil_append [e], lastSome_concat]
        exact Option.or_none
      rw [run_cons, run_nil, hlast, hactive] at hrun
      exact hrun
    · rw [getElem?_step, haxis]
      rfl
    · exact (axisStep_spec (m := m) i p.2 e).2.1.trans hnode
  · rintro t p e ⟨hactive, haxis, hdistinct, hnode⟩
    rw [← hnode, sentTo_eq hdistinct haxis, hactive]

/-- Alone, an axis notices its own events only. -/
theorem emitted_ownEvents (active : Bool) (es : List (ODriveEvent α)) :
    emitted (aloneStep m i) (fun p e => messagesTo m p.1 p.2 e) (active, a) es =
        emitted (aloneStep m i) (fun p e => messagesTo m p.1 p.2 e) (active, a)
          (ownEvents i a es) ∧
      run (aloneStep m i) (active, a) es = run (aloneStep m i) (active, a) (ownEvents i a es) := by
  refine emitted_filter_map (I := fun p : Bool × Axis α =>
    p.2.joint = a.joint ∧ p.2.nodeId = a.nodeId) ?_ ?_ ?_ ⟨rfl, rfl⟩ es
  · rintro p e ⟨hjoint, hnode⟩
    obtain ⟨hjoint', hnode', _⟩ := axisStep_spec (m := m) i p.2 e
    exact ⟨hjoint'.trans hjoint, hnode'.trans hnode⟩
  · rintro p e ⟨hjoint, hnode⟩
    obtain ⟨hstep, hmessages, hactive⟩ := axisStep_ownPart (m := m) hjoint hnode i p.1 e
    rw [aloneStep, aloneStep, messagesTo, messagesTo, hstep, hmessages, hactive]
    exact ⟨rfl, rfl⟩
  · intro p e he
    obtain ⟨hstep, hmessages, hactive⟩ := axisStep_of_not_matters (m := m) he p.1 p.2
    rw [aloneStep, messagesTo, hstep, hmessages, hactive]
    exact ⟨rfl, rfl⟩

theorem run_aloneStep (p : Bool × Axis α) (es : List (ODriveEvent α)) :
    (run (aloneStep m i) p es).2 = run (axisStep m i) p.2 es := by
  induction es generalizing p with
  | nil => rfl
  | cons e es ih => exact ih (aloneStep m i p e)

/-- **The axes do not interfere.**  Two histories with the same events for an axis lead to the
same state of it, and to the same messages at its address. -/
theorem axes_isolated (hs : Distinct s) (ha : s.axes[i]? = some a) {es fs : List (ODriveEvent α)}
    (hsame : ownEvents i a es = ownEvents i a fs) :
    (run (step m) s es).axes[i]? = (run (step m) s fs).axes[i]? ∧
      emitted (step m) (sentTo m (busId a.nodeId)) s es =
        emitted (step m) (sentTo m (busId a.nodeId)) s fs := by
  obtain ⟨hes, hrunEs⟩ := emitted_ownEvents (m := m) (i := i) (a := a) s.active es
  obtain ⟨hfs, hrunFs⟩ := emitted_ownEvents (m := m) (i := i) (a := a) s.active fs
  constructor
  · rw [getElem?_run, getElem?_run, ha]
    have hrun := congrArg Prod.snd (hrunEs.trans ((congrArg _ hsame).trans hrunFs.symm))
    rw [run_aloneStep, run_aloneStep] at hrun
    exact congrArg some hrun
  · rw [emitted_sentTo hs ha, emitted_sentTo hs ha, hes, hfs, hsame]

/-- The other joint is switched and commanded as well. -/
theorem axes_isolated_twoJoints :
    emitted (step zeroing) (sentTo zeroing 3) twoAxes
        [.switch ["flap/effort"] [], .switch ["pto/position"] [], .command 1 .position 0,
          .command 0 .effort 0, .write] =
      emitted (step zeroing) (sentTo zeroing 3) twoAxes
        [.switch ["flap/effort"] [], .command 0 .effort 0, .write] :=
  (axes_isolated (i := 0) (a := make zeroing "flap" 3) (by decide) rfl rfl).2

end Runs

end MarineHil.Ports
