import MarineHil.Ports.EpollEventLoop
import MarineHil.Verified.Run

/-!
# `SocketCanIntf` over the lifecycle of the hardware interface

`on_configure` opens the socket and registers it with the event loop; `on_cleanup` calls
`deinit`.  The flag `broken_` is to keep `deinit` from deregistering twice, but nothing
resets it: after the first cleanup no later one deregisters anything.

## Main results

* `contexts_run`: over every history of configurations and cleanups no freed context is
  passed, the kernel watches the socket exactly while the interface is configured, and of
  all the contexts that were registered only the first is ever freed.
-/

namespace MarineHil.Ports

open Verified

/-- `socket_id_` is `none` for -1.  `socket_evt_id_` has no initializer. -/
structure SocketCanIntf where
  socketId : Option ℕ
  socketEvtId : Option ℕ
  broken : Bool

/-- What the kernel answers when a socket is opened: the descriptor, and whether `ioctl`,
`bind`, `recvmsg` and `epoll_ctl` go through. -/
structure Answers where
  socket : Option ℕ
  ioctl : Bool
  bind : Bool
  recvmsg : Bool
  accepted : Bool

/-- `can_intf_` and `event_loop_` of the hardware interface, which `on_configure` takes from
unconfigured to configured and `on_cleanup` back. -/
structure CanLifecycle where
  loop : EpollEventLoop
  intf : SocketCanIntf
  configured : Bool

inductive LifecycleEvent where
  | configure (answers : Answers)
  | cleanup

namespace SocketCanIntf

/-- `init`. -/
def init (intf : SocketCanIntf) (loop : EpollEventLoop) (answers : Answers) :
    EpollEventLoop × SocketCanIntf × Bool :=
  match answers.socket with
  | none => (loop, { intf with socketId := none }, false)
  | some fd =>
      if ¬ answers.ioctl ∨ ¬ answers.bind then
        (loop.closeFd fd, { intf with socketId := some fd }, false)
      else if ¬ answers.recvmsg then
        (loop.closeFd fd, { intf with socketId := some 0 }, false)
      else
        match loop.registerEvent fd answers.accepted with
        | (loop, some evt) => (loop, ⟨some fd, some evt, intf.broken⟩, true)
        | (loop, none) => (loop.closeFd fd, { intf with socketId := some 0 }, false)

/-- `deinit`. -/
def deinit (intf : SocketCanIntf) (loop : EpollEventLoop) :
    Except LoopFault (EpollEventLoop × SocketCanIntf) :=
  (if intf.broken then .ok loop
    else (loop.deregisterEvent intf.socketEvtId).map Prod.fst).map fun loop =>
      (match intf.socketId with
        | none => loop
        | some fd => loop.closeFd fd, { intf with broken := true })

end SocketCanIntf

namespace CanLifecycle

/-- Before the first `on_configure`. -/
def start (uninitialized : Option ℕ) : CanLifecycle :=
  ⟨.start, ⟨none, uninitialized, false⟩, false⟩

/-- `on_configure`, with what it returns. -/
def onConfigure (s : CanLifecycle) (answers : Answers) : CanLifecycle × Bool :=
  match s.intf.init s.loop answers with
  | (loop, intf, ok) => (⟨loop, intf, ok⟩, ok)

/-- `on_cleanup`. -/
def onCleanup (s : CanLifecycle) : Except LoopFault CanLifecycle :=
  (s.intf.deinit s.loop).map fun result => ⟨result.1, result.2, false⟩

/-- The lifecycle calls `on_configure` only when unconfigured and `on_cleanup` only when
configured.  The flag says whether the interface has just been opened. -/
def step (s : CanLifecycle) : LifecycleEvent → Except LoopFault (CanLifecycle × Bool)
  | .configure answers => .ok (if s.configured then (s, false) else s.onConfigure answers)
  | .cleanup => if s.configured then s.onCleanup.map fun s => (s, false) else .ok (s, false)

/-- The state after a history, and how often it opened the interface. -/
def history (s : CanLifecycle) : List LifecycleEvent → Except LoopFault (CanLifecycle × ℕ)
  | [] => .ok (s, 0)
  | e :: es =>
      (s.step e).bind fun next =>
        (next.1.history es).map fun last => (last.1, next.2.toNat + last.2)

/-- What every step keeps.  While `broken_` is not set the interface has been opened at most
once. -/
structure Inv (s : CanLifecycle) : Prop where
  next : s.loop.nextAddress = s.loop.nEvents
  contexts : ∀ evt, s.loop.contexts evt ≠ none ↔
    evt < s.loop.nEvents ∧ (evt = 0 → s.intf.broken = false)
  broken : s.intf.broken = false → s.loop.nEvents = s.configured.toNat
  opened : s.intf.broken = true → s.configured.toNat < s.loop.nEvents
  unwatched : s.configured = false → s.loop.interest = fun _ => none
  watched : s.configured = true → ∃ fd evt, s.loop.nEvents = evt + 1 ∧
    s.intf.socketId = some fd ∧ s.intf.socketEvtId = some evt ∧
      (s.intf.broken = false → s.loop.contexts evt = some fd) ∧
        s.loop.interest = Function.update (fun _ => none) fd (some evt)

theorem inv_start (uninitialized : Option ℕ) : (start uninitialized).Inv where
  next := rfl
  contexts evt := by simp [start, EpollEventLoop.start]
  broken _ := rfl
  opened h := by cases h
  unwatched _ := rfl
  watched h := by cases h

theorem closeFd_of_unwatched {loop : EpollEventLoop} (h : loop.interest = fun _ => none)
    (fd : ℕ) : loop.closeFd fd = loop := by
  have hsame : Function.update loop.interest fd none = loop.interest := by
    rw [h]
    exact Function.update_eq_self fd _
  rw [EpollEventLoop.closeFd, hsame]

/-- `on_configure` opens the interface, or leaves the loop as it was. -/
theorem onConfigure_cases {s : CanLifecycle} (h : s.loop.interest = fun _ => none)
    (answers : Answers) :
    (∃ socketId, s.onConfigure answers =
        (⟨s.loop, { s.intf with socketId := socketId }, false⟩, false)) ∨
      ∃ fd, s.onConfigure answers =
        (⟨s.loop.watch fd, ⟨some fd, some s.loop.nextAddress, s.intf.broken⟩, true⟩, true) := by
  rw [onConfigure, SocketCanIntf.init]
  cases hsocket : answers.socket with
  | none => exact .inl ⟨none, rfl⟩
  | some fd =>
      dsimp only
      by_cases hopen : ¬ answers.ioctl ∨ ¬ answers.bind
      · rw [if_pos hopen, closeFd_of_unwatched h]
        exact .inl ⟨some fd, rfl⟩
      · rw [if_neg hopen]
        by_cases hrecv : ¬ answers.recvmsg
        · rw [if_pos hrecv, closeFd_of_unwatched h]
          exact .inl ⟨some 0, rfl⟩
        · rw [if_neg hrecv]
          by_cases hadd : answers.accepted
          · refine .inr ⟨fd, ?_⟩
            rw [EpollEventLoop.registerEvent, if_pos ⟨hadd, congrFun h fd⟩]
          · rw [EpollEventLoop.registerEvent, if_neg fun hboth => hadd hboth.1]
            dsimp only
            rw [closeFd_of_unwatched h]
            exact .inl ⟨some 0, rfl⟩

end CanLifecycle

/-- A broken interface only closes its socket. -/
theorem SocketCanIntf.deinit_of_broken {intf : SocketCanIntf} {fd : ℕ}
    (hid : intf.socketId = some fd) (hbroken : intf.broken = true) (loop : EpollEventLoop) :
    intf.deinit loop = .ok (loop.closeFd fd, { intf with broken := true }) := by
  rw [deinit, hbroken, hid]
  rfl

theorem SocketCanIntf.deinit_of_not_broken {intf : SocketCanIntf} {fd evt : ℕ}
    (hid : intf.socketId = some fd) (hevt : intf.socketEvtId = some evt)
    (hbroken : intf.broken = false) {loop : EpollEventLoop} (hctx : loop.contexts evt = some fd)
    (hint : loop.interest fd ≠ none) :
    intf.deinit loop = .ok ((loop.release evt fd).closeFd fd, { intf with broken := true }) := by
  rw [deinit, hbroken, hid, hevt, EpollEventLoop.deregisterEvent]
  dsimp only
  rw [hctx]
  dsimp only
  rw [if_neg hint]
  rfl

namespace CanLifecycle

/-- `on_cleanup` deregisters the first context only. -/
theorem onCleanup_eq {s : CanLifecycle} (h : s.Inv) (hconf : s.configured = true) :
    ∃ loop, s.onCleanup = .ok ⟨loop, { s.intf with broken := true }, false⟩ ∧
      loop.nextAddress = s.loop.nextAddress ∧ loop.nEvents = s.loop.nEvents ∧
        (loop.interest = fun _ => none) ∧
          loop.contexts = if s.intf.broken then s.loop.contexts
            else Function.update s.loop.contexts 0 none := by
  obtain ⟨fd, evt, hn, hid, hevt, hctx, hint⟩ := h.watched hconf
  cases hbroken : s.intf.broken with
  | true =>
      refine ⟨s.loop.closeFd fd, ?_, rfl, rfl, ?_, rfl⟩
      · rw [onCleanup, SocketCanIntf.deinit_of_broken hid hbroken]
        rfl
      · rw [EpollEventLoop.closeFd, hint]
        simp
  | false =>
      have hone : s.loop.nEvents = 1 := by rw [h.broken hbroken, hconf]; rfl
      obtain rfl : evt = 0 := by omega
      have hfd : s.loop.interest fd ≠ none := by simp [hint]
      refine ⟨(s.loop.release 0 fd).closeFd fd, ?_, rfl, rfl, ?_, rfl⟩
      · rw [onCleanup, SocketCanIntf.deinit_of_not_broken hid hevt hbroken (hctx hbroken) hfd]
        rfl
      · simp [EpollEventLoop.closeFd, EpollEventLoop.release, hint]

/-- A configuration that fails changes at most `socket_id_`; one that succeeds registers the
next context. -/
theorem Inv.configure {s : CanLifecycle} (h : s.Inv) (hconf : s.configured = false)
    (answers : Answers) :
    (s.onConfigure answers).1.Inv ∧ (s.onConfigure answers).1.loop.nEvents =
      s.loop.nEvents + (s.onConfigure answers).2.toNat := by
  have hint := h.unwatched hconf
  obtain ⟨socketId, heq⟩ | ⟨fd, heq⟩ := onConfigure_cases hint answers
  · rw [heq]
    refine ⟨?_, rfl⟩
    exact
      { next := h.next
        contexts := h.contexts
        broken := fun hbroken => by rw [h.broken hbroken, hconf]
        opened := fun hbroken => hconf ▸ h.opened hbroken
        unwatched := fun _ => hint
        watched := fun h => by cases h }
  · rw [heq]
    refine ⟨?_, rfl⟩
    exact
      { next := congrArg (· + 1) h.next
        contexts := fun evt => by
          have hold := h.contexts evt
          have hopened := h.opened
          have hnext := h.next
          cases hbroken : s.intf.broken <;>
            simp only [EpollEventLoop.watch, Function.update_apply] <;> grind
        broken := fun hbroken => by
          have hcount := h.broken hbroken
          rw [hconf] at hcount
          exact congrArg (· + 1) hcount
        opened := fun hbroken => by
          have hopened := h.opened hbroken
          rw [hconf] at hopened
          exact Nat.succ_lt_succ hopened
        unwatched := fun h => by cases h
        watched := fun _ => by
          refine ⟨fd, s.loop.nextAddress, congrArg (· + 1) h.next.symm, rfl, rfl, ?_, ?_⟩
          · simp [EpollEventLoop.watch]
          · exact congrArg (Function.update · fd (some s.loop.nextAddress)) hint }

theorem Inv.cleanup {s : CanLifecycle} (h : s.Inv) (hconf : s.configured = true) :
    ∃ s', s.onCleanup = .ok s' ∧ s'.Inv ∧ s'.loop.nEvents = s.loop.nEvents := by
  obtain ⟨loop, heq, hnext, hn, hint, hctx⟩ := onCleanup_eq h hconf
  refine ⟨⟨loop, { s.intf with broken := true }, false⟩, heq, ?_, hn⟩
  exact
    { next := hnext.trans (h.next.trans hn.symm)
      contexts := fun evt => by
        have hold := h.contexts evt
        simp only [hctx, hn]
        cases hbroken : s.intf.broken with
        | true => simpa [hbroken] using hold
        | false =>
            -- This is the only cleanup that frees a context, the one at address 0.
            rw [hbroken] at hold
            have hone := h.broken hbroken
            rw [hconf] at hone
            grind [Function.update_apply]
      broken := fun h => by cases h
      opened := fun _ => by
        obtain ⟨fd, evt, hcount, -⟩ := h.watched hconf
        exact hn.symm ▸ hcount ▸ Nat.succ_pos evt
      unwatched := fun _ => hint
      watched := fun h => by cases h }

theorem Inv.step {s : CanLifecycle} (h : s.Inv) (e : LifecycleEvent) :
    ∃ s' opened, s.step e = .ok (s', opened) ∧ s'.Inv ∧
      s'.loop.nEvents = s.loop.nEvents + opened.toNat := by
  cases hconf : s.configured with
  | false =>
      cases e with
      | cleanup => exact ⟨s, false, by rw [CanLifecycle.step, hconf]; rfl, h, rfl⟩
      | configure answers =>
          exact ⟨_, _, by rw [CanLifecycle.step, hconf]; rfl, h.configure hconf answers⟩
  | true =>
      cases e with
      | configure answers => exact ⟨s, false, by rw [CanLifecycle.step, hconf]; rfl, h, rfl⟩
      | cleanup =>
          obtain ⟨s', heq, h', hn⟩ := h.cleanup hconf
          exact ⟨s', false, by rw [CanLifecycle.step, hconf, heq]; rfl, h', hn⟩

/-- Every history goes through; each opening registers a context. -/
theorem Inv.history {s : CanLifecycle} (h : s.Inv) (es : List LifecycleEvent) :
    ∃ s' n, s.history es = .ok (s', n) ∧ s'.Inv ∧ s'.loop.nEvents = s.loop.nEvents + n := by
  induction es generalizing s with
  | nil => exact ⟨s, 0, rfl, h, rfl⟩
  | cons e es ih =>
      obtain ⟨s₁, opened, hstep, h₁, hn₁⟩ := h.step e
      obtain ⟨s₂, n, hrest, h₂, hn₂⟩ := ih h₁
      refine ⟨s₂, opened.toNat + n, ?_, h₂, by omega⟩
      rw [CanLifecycle.history, hstep]
      change (s₁.history es).map _ = _
      rw [hrest]
      rfl

/-- Whatever the history, and whatever `socket_evt_id_` held at first: no freed context is
passed, the kernel watches the newest context exactly while the interface is configured, and
all contexts but the first are never freed. -/
theorem contexts_run (uninitialized : Option ℕ) (es : List LifecycleEvent) :
    ∃ s n, (start uninitialized).history es = .ok (s, n) ∧ s.loop.nEvents = n ∧
      (∀ evt, s.loop.contexts evt ≠ none ↔
        evt < n ∧ (evt = 0 → n = 1 ∧ s.configured = true)) ∧
      ∀ fd evt, s.loop.interest fd = some evt ↔
        s.configured = true ∧ s.intf.socketId = some fd ∧ evt + 1 = n := by
  obtain ⟨s, n, hrun, h, hn⟩ := (inv_start uninitialized).history es
  obtain rfl : s.loop.nEvents = n := hn.trans (Nat.zero_add n)
  refine ⟨s, s.loop.nEvents, hrun, rfl, ?_, ?_⟩
  · intro evt
    rw [h.contexts evt]
    refine and_congr_right fun hlt => forall_congr' ?_
    rintro rfl
    constructor
    · intro hbroken
      have hcount := h.broken hbroken
      cases hconf : s.configured with
      | false =>
          rw [hconf] at hcount
          exact absurd hlt (hcount ▸ Nat.lt_irrefl 0)
      | true => exact ⟨by rw [hcount, hconf]; rfl, rfl⟩
    · rintro ⟨hone, hconf⟩
      by_contra hbroken
      have hopened := h.opened (by simpa using hbroken)
      rw [hone, hconf] at hopened
      exact absurd hopened (by decide)
  · intro fd evt
    cases hconf : s.configured with
    | false => simp [h.unwatched hconf]
    | true =>
        obtain ⟨fd', evt', hn', hid, -, -, hint⟩ := h.watched hconf
        rw [hint, hid, Function.update_apply]
        grind

end CanLifecycle

end MarineHil.Ports
