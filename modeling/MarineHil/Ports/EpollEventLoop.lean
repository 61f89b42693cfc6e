import Mathlib.Data.List.Basic
import Mathlib.Logic.Function.Basic

/-!
# `EpollEventLoop`

An event is registered with a file descriptor and gets an `EventContext` on the heap.  The
kernel keeps the address of the context with the descriptor, and hands it back when the
descriptor is ready.  Deregistering an event frees its context, and clears the addresses of
it that the current batch still holds.

An address stands for an allocation, so that it is never used for two contexts.  What a
callback does to the loop is given with the event: any registrations and deregistrations, and
the closing of descriptors.  `drop_event` is called by `deregister_event` alone.

## Main results

* `runUntilEmpty_ne_true`: a loop that has events does not end by becoming empty, because
  `n_events_` is never decremented.
* `round_spec`: no callback is called through a freed context, and one is called through a
  cleared address exactly when a callback frees the context of an event that is still to come.
* `runUntilEmpty_ne_fault`: a loop whose callbacks deregister no other event calls no
  callback through either.
-/

namespace MarineHil.Ports

/-- Why there is no defined result: a callback called through a cleared address or through
a freed context, or a freed context passed by a client. -/
inductive LoopFault where
  | nullHandler
  | freedHandler
  | freedArgument
  deriving DecidableEq

/-- The loop, with the part of the heap and of the kernel that belongs to it: `contexts` has
the descriptor of each context that exists, and `interest` the address that the kernel keeps
with each descriptor it watches. -/
structure EpollEventLoop where
  contexts : ℕ → Option ℕ
  nextAddress : ℕ
  interest : ℕ → Option ℕ
  nEvents : ℕ
  triggered : List (Option ℕ × ℕ)

/-- What a client or a callback does to the loop.  The kernel may refuse a registration. -/
inductive LoopCall where
  | register (fd : ℕ) (accepted : Bool)
  | deregister (evt : Option ℕ)
  | close (fd : ℕ)
  deriving DecidableEq

/-- A descriptor that is ready, with its mask, and what its callback does this time, by the
address of its context. -/
structure Ready where
  fd : ℕ
  mask : ℕ
  callback : ℕ → List LoopCall

namespace EpollEventLoop

def kMaxEventsPerIteration : ℕ := 16

def start : EpollEventLoop := ⟨fun _ => none, 0, fun _ => none, 0, []⟩

/-- What `register_event` does once the kernel watches the descriptor. -/
def watch (loop : EpollEventLoop) (fd : ℕ) : EpollEventLoop :=
  { loop with
    contexts := Function.update loop.contexts loop.nextAddress (some fd)
    nextAddress := loop.nextAddress + 1
    interest := Function.update loop.interest fd (some loop.nextAddress)
    nEvents := loop.nEvents + 1 }

/-- `register_event`: the new context, unless `epoll_ctl` fails. -/
def registerEvent (loop : EpollEventLoop) (fd : ℕ) (accepted : Bool) :
    EpollEventLoop × Option ℕ :=
  if accepted ∧ loop.interest fd = none then (loop.watch fd, some loop.nextAddress)
  else (loop, none)

/-- `drop_event`. -/
def dropEvent (loop : EpollEventLoop) (evt : ℕ) : EpollEventLoop :=
  { loop with
    triggered := loop.triggered.map fun t => if t.1 = some evt then (none, t.2) else t }

/-- What `deregister_event` does once the kernel has found the descriptor. -/
def release (loop : EpollEventLoop) (evt fd : ℕ) : EpollEventLoop :=
  { loop.dropEvent evt with
    contexts := Function.update loop.contexts evt none
    interest := Function.update loop.interest fd none }

/-- `deregister_event`. -/
def deregisterEvent (loop : EpollEventLoop) (evt : Option ℕ) :
    Except LoopFault (EpollEventLoop × Bool) :=
  match evt with
  | none => .ok (loop, false)
  | some evt =>
      match loop.contexts evt with
      | none => .error .freedArgument
      | some fd =>
          if loop.interest fd = none then .ok (loop, false)
          else .ok (loop.release evt fd, true)

/-- `close`: the kernel stops watching a descriptor that is closed. -/
def closeFd (loop : EpollEventLoop) (fd : ℕ) : EpollEventLoop :=
  { loop with interest := Function.update loop.interest fd none }

def call (loop : EpollEventLoop) : LoopCall → Except LoopFault EpollEventLoop
  | .register fd accepted => .ok (loop.registerEvent fd accepted).1
  | .deregister evt => (loop.deregisterEvent evt).map Prod.fst
  | .close fd => .ok (loop.closeFd fd)

def calls (loop : EpollEventLoop) : List LoopCall → Except LoopFault EpollEventLoop
  | [] => .ok loop
  | c :: rest => (loop.call c).bind fun loop => loop.calls rest

/-- The loop of `run_until_empty` over a batch, of which `i` events have been handled. -/
def dispatch (loop : EpollEventLoop) (i : ℕ) : List Ready → Except LoopFault EpollEventLoop
  | [] => .ok loop
  | r :: rest =>
      match loop.triggered[i]? with
      | some (some evt, _) =>
          if (loop.contexts evt).isSome then
            (loop.calls (r.callback evt)).bind fun loop => loop.dispatch (i + 1) rest
          else .error .freedHandler
      | _ => .error .nullHandler

/-- The batch that `epoll_wait` returns when the descriptors `ready` are. -/
def batch (loop : EpollEventLoop) (ready : List Ready) : List (ℕ × Ready) :=
  (ready.filterMap fun r : Ready =>
    (loop.interest r.fd).map fun evt => (evt, r)).take kMaxEventsPerIteration

/-- `epoll_wait` fills `triggered_events_`. -/
def wait (loop : EpollEventLoop) (ready : List Ready) : EpollEventLoop :=
  { loop with triggered := (loop.batch ready).map fun t : ℕ × Ready => (some t.1, t.2.mask) }

/-- One round of `run_until_empty`. -/
def round (loop : EpollEventLoop) (ready : List Ready) : Except LoopFault EpollEventLoop :=
  (loop.wait ready).dispatch 0 ((loop.batch ready).map Prod.snd)

/-- How `run_until_empty` is left, if it is. -/
inductive Exit where
  | returned (result : Bool)
  | fault (reason : LoopFault)
  | waiting

/-- `run_until_empty`, for what `epoll_wait` finds: ready descriptors, or an error. -/
def runUntilEmpty (loop : EpollEventLoop) : List (Option (List Ready)) → Exit
  | [] => if loop.nEvents = 0 then .returned true else .waiting
  | found :: rest =>
      if loop.nEvents = 0 then .returned true
      else
        match found with
        | none => .returned false
        | some ready =>
            match loop.round ready with
            | .ok loop => loop.runUntilEmpty rest
            | .error reason => .fault reason

/-- The states that a loop gets into: clients call it, and it handles batches. -/
inductive Reachable : EpollEventLoop → Prop
  | start : Reachable start
  | call {loop loop' : EpollEventLoop} {c : LoopCall} :
      Reachable loop → loop.call c = .ok loop' → Reachable loop'
  | round {loop loop' : EpollEventLoop} {ready : List Ready} :
      Reachable loop → loop.round ready = .ok loop' → Reachable loop'

/-! ## What a call does -/

section Call

variable {loop loop' : EpollEventLoop}

/-- A call that goes through does nothing, or adds a context, frees one, or has the kernel
forget a descriptor. -/
theorem call_cases {c : LoopCall} (h : loop.call c = .ok loop') :
    loop' = loop ∨
      (∃ fd, loop.interest fd = none ∧ loop' = loop.watch fd) ∨
      (∃ evt fd, c = .deregister (some evt) ∧ loop.contexts evt = some fd ∧
        loop' = loop.release evt fd) ∨
      ∃ fd, loop' = loop.closeFd fd := by
  cases c with
  | register fd accepted =>
      obtain rfl := Except.ok.inj h
      unfold registerEvent
      split_ifs with hfd
      · exact .inr (.inl ⟨fd, hfd.2, rfl⟩)
      · exact .inl rfl
  | close fd => exact .inr (.inr (.inr ⟨fd, (Except.ok.inj h).symm⟩))
  | deregister evt =>
      cases evt with
      | none => exact .inl (Except.ok.inj h).symm
      | some evt =>
          rw [call, deregisterEvent] at h
          cases hevt : loop.contexts evt with
          | none =>
              rw [hevt] at h
              cases h
          | some fd =>
              rw [hevt] at h
              dsimp only at h
              split_ifs at h
              · exact .inl (Except.ok.inj h).symm
              · exact .inr (.inr (.inl ⟨evt, fd, rfl, hevt, (Except.ok.inj h).symm⟩))

/-- The only thing that can go wrong in a call is that the client passes a freed context. -/
theorem error_call {c : LoopCall} {reason : LoopFault} (h : loop.call c = .error reason) :
    reason = .freedArgument := by
  cases c with
  | register fd accepted => cases h
  | close fd => cases h
  | deregister evt =>
      cases evt with
      | none => cases h
      | some evt =>
          rw [call, deregisterEvent] at h
          cases hevt : loop.contexts evt with
          | none =>
              rw [hevt] at h
              exact (Except.error.inj h).symm
          | some fd =>
              rw [hevt] at h
              dsimp only at h
              split_ifs at h <;> cases h

theorem error_calls {cs : List LoopCall} {reason : LoopFault}
    (h : loop.calls cs = .error reason) : reason = .freedArgument := by
  induction cs generalizing loop with
  | nil => cases h
  | cons c cs ih =>
      rw [calls] at h
      cases hc : loop.call c with
      | error fault =>
          rw [hc] at h
          obtain rfl := Except.error.inj h
          exact error_call hc
      | ok loop₁ =>
          rw [hc] at h
          exact ih h

/-- What each of some calls keeps, all of them keep. -/
theorem calls_induct {P : EpollEventLoop → Prop} {cs : List LoopCall}
    (hcall : ∀ {loop loop' : EpollEventLoop} {c : LoopCall},
      c ∈ cs → P loop → loop.call c = .ok loop' → P loop')
    (h : P loop) (hcs : loop.calls cs = .ok loop') : P loop' := by
  induction cs generalizing loop with
  | nil =>
      obtain rfl := Except.ok.inj hcs
      exact h
  | cons c cs ih =>
      rw [calls] at hcs
      cases hc : loop.call c with
      | error fault =>
          rw [hc] at hcs
          cases hcs
      | ok loop₁ =>
          rw [hc] at hcs
          have h₁ : P loop₁ := hcall List.mem_cons_self h hc
          exact ih (fun hmem => hcall (List.mem_cons_of_mem c hmem)) h₁ hcs

/-- One event of a batch that has been dispatched: its callback was called through a context
that exists. -/
theorem dispatch_cons {i : ℕ} {r : Ready} {rest : List Ready}
    (h : loop.dispatch i (r :: rest) = .ok loop') :
    ∃ evt mask loop₁, loop.triggered[i]? = some (some evt, mask) ∧
      loop.calls (r.callback evt) = .ok loop₁ ∧ loop₁.dispatch (i + 1) rest = .ok loop' := by
  rw [dispatch] at h
  split at h
  · rename_i evt mask hi
    split_ifs at h
    cases hcs : loop.calls (r.callback evt) with
    | error fault =>
        rw [hcs] at h
        cases h
    | ok loop₁ =>
        rw [hcs] at h
        exact ⟨evt, mask, loop₁, hi, hcs, h⟩
  · cases h

/-- What each call keeps, a batch keeps. -/
theorem dispatch_induct {P : EpollEventLoop → Prop}
    (hcall : ∀ {loop loop' : EpollEventLoop} {c : LoopCall},
      P loop → loop.call c = .ok loop' → P loop')
    {i : ℕ} {rs : List Ready} (h : P loop) (hrun : loop.dispatch i rs = .ok loop') : P loop' := by
  induction rs generalizing loop i with
  | nil =>
      obtain rfl := Except.ok.inj hrun
      exact h
  | cons r rest ih =>
      obtain ⟨evt, mask, loop₁, -, hcs, hrest⟩ := dispatch_cons hrun
      exact ih (calls_induct (fun _ => hcall) h hcs) hrest

end Call

/-! ## `n_events_` -/

/-- Descriptors 3 and 4, with the contexts 0 and 1. -/
def twoEvents : EpollEventLoop :=
  ((start.registerEvent 3 true).1.registerEvent 4 true).1

theorem reachable_twoEvents : Reachable twoEvents :=
  (Reachable.start.call (c := .register 3 true) rfl).call (c := .register 4 true) rfl

def bothReady (callback : ℕ → List LoopCall) : List Ready := [⟨3, 1, callback⟩, ⟨4, 1, callback⟩]

def deregistersItself (evt : ℕ) : List LoopCall := [.deregister (some evt)]

def deregistersNext (evt : ℕ) : List LoopCall := [.deregister (some (evt + 1))]

section Count

variable {loop loop' : EpollEventLoop}

/-- A registration that succeeds is counted; a deregistration is not. -/
theorem nEvents_call {c : LoopCall} (h : loop.call c = .ok loop') :
    loop.nEvents ≤ loop'.nEvents := by
  obtain rfl | ⟨fd, -, rfl⟩ | ⟨evt, fd, -, -, rfl⟩ | ⟨fd, rfl⟩ := call_cases h
  · exact Nat.le_refl _
  · exact Nat.le_succ loop.nEvents
  · exact Nat.le_refl loop.nEvents
  · exact Nat.le_refl loop.nEvents

/-- Once an event has been registered `run_until_empty` never returns `true`, whatever the
callbacks register, deregister and close. -/
theorem runUntilEmpty_ne_true {loop : EpollEventLoop} (hloop : loop.nEvents ≠ 0)
    (found : List (Option (List Ready))) : loop.runUntilEmpty found ≠ .returned true := by
  induction found generalizing loop with
  | nil =>
      rw [runUntilEmpty, if_neg hloop]
      exact Exit.noConfusion
  | cons wait rest ih =>
      cases wait with
      | none =>
          rw [runUntilEmpty, if_neg hloop]
          simp
      | some ready =>
          rw [runUntilEmpty, if_neg hloop]
          split
          · rename_i loop' hloop'
            have hwait : (loop.wait ready).nEvents ≠ 0 := hloop
            have hkeep : loop'.nEvents ≠ 0 :=
              dispatch_induct (P := fun loop => loop.nEvents ≠ 0)
                (fun h hc => by have := nEvents_call hc; omega) hwait hloop'
            exact ih hkeep
          · exact Exit.noConfusion

theorem runUntilEmpty_ne_true_twoEvents :
    twoEvents.runUntilEmpty [some (bothReady deregistersItself)] ≠ .returned true :=
  runUntilEmpty_ne_true (by decide) [some (bothReady deregistersItself)]

end Count

/-! ## The contexts that exist -/

/-- The kernel keeps addresses of contexts that exist, and none exists at an address that is
still to be used. -/
structure WellFormed (loop : EpollEventLoop) : Prop where
  interest : ∀ evt fd, loop.interest fd = some evt → loop.contexts evt = some fd
  fresh : ∀ evt, loop.nextAddress ≤ evt → loop.contexts evt = none

section Contexts

variable {loop loop' : EpollEventLoop}

theorem wellFormed_start : start.WellFormed :=
  ⟨fun _ _ h => by simp [start] at h, fun _ _ => rfl⟩

theorem WellFormed.watch (h : loop.WellFormed) (fd : ℕ) : (loop.watch fd).WellFormed where
  interest evt fd' := by
    have hnew := h.fresh loop.nextAddress (Nat.le_refl _)
    have hevt := h.interest evt fd'
    simp only [EpollEventLoop.watch, Function.update_apply]
    grind
  fresh evt hevt := by
    have hold := h.fresh evt
    simp only [EpollEventLoop.watch, Function.update_apply] at hevt ⊢
    grind

theorem WellFormed.release (h : loop.WellFormed) {evt fd : ℕ}
    (hevt : loop.contexts evt = some fd) : (loop.release evt fd).WellFormed where
  interest evt' fd' := by
    have hold := h.interest evt' fd'
    simp only [EpollEventLoop.release, Function.update_apply]
    grind
  fresh evt' hevt' := by
    have hold := h.fresh evt' hevt'
    simp only [EpollEventLoop.release, Function.update_apply]
    grind

theorem WellFormed.closeFd (h : loop.WellFormed) (fd : ℕ) : (loop.closeFd fd).WellFormed where
  interest evt fd' := by
    have hold := h.interest evt fd'
    simp only [EpollEventLoop.closeFd, Function.update_apply]
    grind
  fresh := h.fresh

theorem WellFormed.call (h : loop.WellFormed) {c : LoopCall} (hc : loop.call c = .ok loop') :
    loop'.WellFormed := by
  obtain rfl | ⟨fd, -, rfl⟩ | ⟨evt, fd, -, hevt, rfl⟩ | ⟨fd, rfl⟩ := call_cases hc
  · exact h
  · exact h.watch fd
  · exact h.release hevt
  · exact h.closeFd fd

theorem WellFormed.wait (h : loop.WellFormed) (ready : List Ready) :
    (loop.wait ready).WellFormed := ⟨h.interest, h.fresh⟩

theorem Reachable.wellFormed (h : loop.Reachable) : loop.WellFormed := by
  induction h with
  | start => exact wellFormed_start
  | call _ hc ih => exact ih.call hc
  | @round loop loop' ready _ hround ih =>
      exact dispatch_induct (fun h hc => WellFormed.call h hc) (ih.wait ready) hround

@[simp] theorem contexts_wait (ready : List Ready) : (loop.wait ready).contexts = loop.contexts :=
  rfl

theorem mem_of_mem_batch {ready : List Ready} {t : ℕ × Ready} (ht : t ∈ loop.batch ready) :
    t.2 ∈ ready := by
  obtain ⟨r, hmem, hr⟩ := List.mem_filterMap.mp (List.mem_of_mem_take ht)
  obtain ⟨evt, -, rfl⟩ := Option.map_eq_some_iff.mp hr
  exact hmem

/-- The context of a descriptor that is ready exists. -/
theorem WellFormed.contexts_batch (h : loop.WellFormed) {ready : List Ready} {t : ℕ × Ready}
    (ht : t ∈ loop.batch ready) : loop.contexts t.1 = some t.2.fd := by
  obtain ⟨r, -, hr⟩ := List.mem_filterMap.mp (List.mem_of_mem_take ht)
  obtain ⟨evt, hevt, rfl⟩ := Option.map_eq_some_iff.mp hr
  exact h.interest evt r.fd hevt

/-- The contexts of a batch are distinct when the descriptors are. -/
theorem WellFormed.pairwise_batch (h : loop.WellFormed) {ready : List Ready}
    (hready : (ready.map Ready.fd).Nodup) :
    (loop.batch ready).Pairwise fun t later => t.1 ≠ later.1 := by
  refine List.Pairwise.take (List.Pairwise.filterMap _ ?_ (List.pairwise_map.mp hready))
  intro r r' hne t ht t' ht' heq
  obtain ⟨evt, hevt, rfl⟩ := Option.map_eq_some_iff.mp ht
  obtain ⟨evt', hevt', rfl⟩ := Option.map_eq_some_iff.mp ht'
  obtain rfl : evt = evt' := heq
  have hfd := h.interest evt r.fd hevt
  have hfd' := h.interest evt r'.fd hevt'
  exact hne (Option.some.inj (hfd.symm.trans hfd'))

/-- A context that is not deregistered goes on existing. -/
theorem contexts_calls {evt : ℕ} {cs : List LoopCall} (hnot : .deregister (some evt) ∉ cs)
    (hevt : loop.contexts evt ≠ none) (hcs : loop.calls cs = .ok loop') :
    loop'.contexts evt ≠ none := by
  refine calls_induct (P := fun loop => loop.contexts evt ≠ none) ?_ hevt hcs
  intro loop loop' c hmem hevt hc
  obtain rfl | ⟨fd, -, rfl⟩ | ⟨other, fd, rfl, -, rfl⟩ | ⟨fd, rfl⟩ := call_cases hc
  · exact hevt
  · simp only [watch, Function.update_apply]
    grind
  · have hne : evt ≠ other := by
      rintro rfl
      exact hnot hmem
    simpa [release, Function.update_apply, hne] using hevt
  · exact hevt

/-- A context that has been freed never exists again. -/
theorem freed_call {evt : ℕ} {c : LoopCall}
    (h : evt < loop.nextAddress ∧ loop.contexts evt = none) (hc : loop.call c = .ok loop') :
    evt < loop'.nextAddress ∧ loop'.contexts evt = none := by
  obtain ⟨hlt, hevt⟩ := h
  obtain rfl | ⟨fd, -, rfl⟩ | ⟨other, fd, -, -, rfl⟩ | ⟨fd, rfl⟩ := call_cases hc
  · exact ⟨hlt, hevt⟩
  · have hne : evt ≠ loop.nextAddress := by omega
    refine ⟨Nat.lt_succ_of_lt hlt, ?_⟩
    simpa [watch, Function.update_apply, hne] using hevt
  · refine ⟨hlt, ?_⟩
    simp only [release, Function.update_apply]
    grind
  · exact ⟨hlt, hevt⟩

end Contexts

/-! ## A batch -/

/-- An entry of a batch: the address of a context, cleared when the context has been freed. -/
def entry (loop : EpollEventLoop) (t : ℕ × Ready) : Option ℕ × ℕ :=
  (if (loop.contexts t.1).isSome then some t.1 else none, t.2.mask)

/-- What the loop holds of a batch from the `i`-th event on. -/
structure Holds (loop : EpollEventLoop) (i : ℕ) (rest : List (ℕ × Ready)) : Prop where
  triggered : loop.triggered.drop i = rest.map loop.entry
  old : ∀ t ∈ rest, t.1 < loop.nextAddress

/-- No callback frees the context of an event that is still to come. -/
def Spares (loop : EpollEventLoop) : List (ℕ × Ready) → Prop
  | [] => True
  | t :: rest => ∀ loop', loop.calls (t.2.callback t.1) = .ok loop' →
      (∀ u ∈ rest, loop'.contexts u.1 ≠ none) ∧ loop'.Spares rest

section Batch

variable {loop loop' : EpollEventLoop} {i : ℕ} {t : ℕ × Ready} {rest : List (ℕ × Ready)}

theorem Holds.call (h : loop.Holds i rest) {c : LoopCall} (hc : loop.call c = .ok loop') :
    loop'.Holds i rest := by
  obtain rfl | ⟨fd, -, rfl⟩ | ⟨evt, fd, -, hevt, rfl⟩ | ⟨fd, rfl⟩ := call_cases hc
  · exact h
  · refine ⟨h.triggered.trans (List.map_congr_left fun t ht => ?_), fun t ht => ?_⟩
    · have hne : t.1 ≠ loop.nextAddress := Nat.ne_of_lt (h.old t ht)
      simp [entry, watch, hne]
    · exact Nat.lt_succ_of_lt (h.old t ht)
  · refine ⟨?_, h.old⟩
    rw [release, dropEvent, ← List.map_drop, h.triggered, List.map_map]
    refine List.map_congr_left fun t _ => ?_
    by_cases ht : t.1 = evt
    · simp [entry, ht, hevt]
    · cases hctx : loop.contexts t.1 <;> simp [entry, ht, hctx]
  · exact ⟨h.triggered, h.old⟩

theorem Holds.calls (h : loop.Holds i rest) {cs : List LoopCall}
    (hcs : loop.calls cs = .ok loop') : loop'.Holds i rest :=
  calls_induct (fun _ h hc => Holds.call h hc) h hcs

theorem Holds.tail (h : loop.Holds i (t :: rest)) : loop.Holds (i + 1) rest where
  triggered := by
    have htail := congrArg List.tail h.triggered
    rwa [List.tail_drop] at htail
  old u hu := h.old u (List.mem_cons_of_mem t hu)

/-- One event of a batch: its callback is called if its context still exists, and else called
through the cleared address. -/
theorem Holds.dispatch (h : loop.Holds i (t :: rest)) (rs : List Ready) :
    loop.dispatch i (t.2 :: rs) =
      if (loop.contexts t.1).isSome then
        (loop.calls (t.2.callback t.1)).bind fun loop => loop.dispatch (i + 1) rs
      else .error .nullHandler := by
  have hhead := congrArg List.head? h.triggered
  rw [List.head?_drop] at hhead
  rw [EpollEventLoop.dispatch, hhead]
  by_cases hctx : (loop.contexts t.1).isSome
  · simp [entry, hctx]
  · simp [entry, hctx]

/-- What is in the batch is not freed: it has been cleared instead. -/
theorem Holds.ne_freedHandler (h : loop.Holds i rest) :
    loop.dispatch i (rest.map Prod.snd) ≠ .error .freedHandler := by
  induction rest generalizing loop i with
  | nil => exact fun h => by cases h
  | cons t rest ih =>
      rw [List.map_cons, h.dispatch]
      split_ifs
      · cases hcs : loop.calls (t.2.callback t.1) with
        | error fault =>
            obtain rfl := error_calls hcs
            simp [Except.bind]
        | ok loop₁ => exact ih (h.tail.calls hcs)
      · simp

theorem Holds.ok_iff (h : loop.Holds i rest)
    (hclient : loop.dispatch i (rest.map Prod.snd) ≠ .error .freedArgument) :
    (∃ loop', loop.dispatch i (rest.map Prod.snd) = .ok loop') ↔
      (∀ t ∈ rest, loop.contexts t.1 ≠ none) ∧ loop.Spares rest := by
  induction rest generalizing loop i with
  | nil => exact ⟨fun _ => ⟨by simp, trivial⟩, fun _ => ⟨loop, rfl⟩⟩
  | cons t rest ih =>
      rw [List.map_cons, h.dispatch] at hclient ⊢
      by_cases hctx : (loop.contexts t.1).isSome
      · rw [if_pos hctx] at hclient ⊢
        cases hcs : loop.calls (t.2.callback t.1) with
        | error fault =>
            obtain rfl := error_calls hcs
            rw [hcs] at hclient
            exact absurd rfl hclient
        | ok loop₁ =>
            rw [hcs] at hclient
            -- what exists after the callback existed before
            have hbefore : ∀ u ∈ rest, loop₁.contexts u.1 ≠ none → loop.contexts u.1 ≠ none := by
              intro u hu hafter hnone
              exact hafter (calls_induct (fun _ => freed_call) ⟨h.tail.old u hu, hnone⟩ hcs).2
            have hrest := ih (h.tail.calls hcs) hclient
            simp only [Except.bind, Spares, List.forall_mem_cons]
            rw [hrest]
            constructor
            · rintro ⟨hexist, hspares⟩
              refine ⟨⟨Option.isSome_iff_ne_none.mp hctx, fun u hu => ?_⟩, ?_⟩
              · exact hbefore u hu (hexist u hu)
              · rintro loop' hok
                obtain rfl := Except.ok.inj (hcs.symm.trans hok)
                exact ⟨hexist, hspares⟩
            · rintro ⟨-, hspares⟩
              exact hspares loop₁ hcs
      · rw [if_neg hctx]
        constructor
        · rintro ⟨loop', hok⟩
          cases hok
        · rintro ⟨hexist, -⟩
          exact absurd (Option.isSome_iff_ne_none.mpr (hexist t List.mem_cons_self)) hctx

/-- After `epoll_wait` the loop holds the batch. -/
theorem WellFormed.holds_wait (h : loop.WellFormed) (ready : List Ready) :
    (loop.wait ready).Holds 0 (loop.batch ready) where
  triggered := List.map_congr_left fun t ht => by
    have hctx := h.contexts_batch ht
    simp [entry, hctx]
  old t ht := by
    have hctx := h.contexts_batch ht
    by_contra hlt
    rw [h.fresh t.1 (Nat.le_of_not_lt hlt)] at hctx
    cases hctx

/-- A batch never calls a callback through a freed context; if no client passes one, it is
dispatched to the end if and only if no callback frees the context of an event that is still
to come. -/
theorem round_spec (hloop : loop.Reachable) (ready : List Ready) :
    loop.round ready ≠ .error .freedHandler ∧
      (loop.round ready ≠ .error .freedArgument →
        ((∃ loop', loop.round ready = .ok loop') ↔
          (loop.wait ready).Spares (loop.batch ready))) := by
  have hholds := hloop.wellFormed.holds_wait ready
  refine ⟨hholds.ne_freedHandler, fun hclient => (hholds.ok_iff hclient).trans ?_⟩
  refine and_iff_right fun t ht => ?_
  simp [hloop.wellFormed.contexts_batch ht]

theorem round_spec_twoEvents :
    ¬ ∃ loop', twoEvents.round (bothReady deregistersNext) = .ok loop' := by
  have hclient : twoEvents.round (bothReady deregistersNext) ≠ .error .freedArgument := by
    rintro ⟨⟩
  rw [(round_spec reachable_twoEvents (bothReady deregistersNext)).2 hclient]
  intro hspares
  obtain ⟨hexist, -⟩ := hspares _ rfl
  exact hexist (1, ⟨4, 1, deregistersNext⟩) List.mem_cons_self rfl

/-- Callbacks that deregister no event but their own spare the others. -/
theorem spares_of_own (hexist : ∀ t ∈ rest, loop.contexts t.1 ≠ none)
    (hown : ∀ t ∈ rest, ∀ other, .deregister (some other) ∈ t.2.callback t.1 → other = t.1)
    (hdistinct : rest.Pairwise fun t later => t.1 ≠ later.1) : loop.Spares rest := by
  induction rest generalizing loop with
  | nil => trivial
  | cons t rest ih =>
      obtain ⟨hfirst, hlater⟩ := List.pairwise_cons.mp hdistinct
      intro loop' hcs
      have hexist' : ∀ u ∈ rest, loop'.contexts u.1 ≠ none := by
        intro u hu
        refine contexts_calls (fun hmem => ?_) (hexist u (List.mem_cons_of_mem t hu)) hcs
        exact hfirst u hu (hown t List.mem_cons_self u.1 hmem).symm
      exact ⟨hexist', ih hexist' (fun u hu => hown u (List.mem_cons_of_mem t hu)) hlater⟩

/-- A loop whose callbacks deregister no event but their own never calls a callback through
a cleared address or a freed context, over all its batches. -/
theorem runUntilEmpty_ne_fault (hloop : loop.Reachable) {found : List (Option (List Ready))}
    (hfound : ∀ ready, some ready ∈ found → (ready.map Ready.fd).Nodup ∧
      ∀ r ∈ ready, ∀ evt other, .deregister (some other) ∈ r.callback evt → other = evt) :
    loop.runUntilEmpty found ≠ .fault .nullHandler ∧
      loop.runUntilEmpty found ≠ .fault .freedHandler := by
  induction found generalizing loop with
  | nil =>
      rw [runUntilEmpty]
      split_ifs <;> simp
  | cons wait rest ih =>
      cases wait with
      | none =>
          rw [runUntilEmpty]
          split_ifs <;> simp
      | some ready =>
          obtain ⟨hnodup, hown⟩ := hfound ready List.mem_cons_self
          have hspares : (loop.wait ready).Spares (loop.batch ready) := by
            refine spares_of_own (fun t ht => ?_) (fun t ht => ?_)
              (hloop.wellFormed.pairwise_batch hnodup)
            · simp [hloop.wellFormed.contexts_batch ht]
            · exact hown t.2 (mem_of_mem_batch ht) t.1
          obtain ⟨hfreed, hok⟩ := round_spec hloop ready
          rw [runUntilEmpty]
          split_ifs
          · simp
          · cases hrun : loop.round ready with
            | ok loop' =>
                exact ih (hloop.round hrun) fun ready hready =>
                  hfound ready (List.mem_cons_of_mem _ hready)
            | error fault =>
                rw [hrun] at hfreed hok
                cases fault with
                | freedHandler => exact absurd rfl hfreed
                | freedArgument => simp
                | nullHandler =>
                    obtain ⟨loop', hloop'⟩ := (hok (by simp)).mpr hspares
                    cases hloop'

theorem runUntilEmpty_ne_fault_twoEvents :
    twoEvents.runUntilEmpty [some (bothReady deregistersItself)] ≠ .fault .nullHandler ∧
      twoEvents.runUntilEmpty [some (bothReady deregistersItself)] ≠ .fault .freedHandler := by
  refine runUntilEmpty_ne_fault reachable_twoEvents fun ready h => ?_
  obtain rfl : ready = bothReady deregistersItself := by simpa using h
  refine ⟨by decide, fun r hr evt other hmem => ?_⟩
  have hcallback : r.callback = deregistersItself := by
    simp only [bothReady, List.mem_cons, List.not_mem_nil, or_false] at hr
    obtain rfl | rfl := hr <;> rfl
  rw [hcallback] at hmem
  simpa [deregistersItself] using hmem

end Batch

end EpollEventLoop

end MarineHil.Ports
