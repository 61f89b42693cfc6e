import MarineHil.Verified.Run

/-!
# Channels that lose and delay messages

A channel holds what was sent and not yet received, with the time of sending.
Any message in flight may be received next, if its delay is one the channel
allows, so messages overtake each other; a message that is never received is
lost.

A sender that loses some of what it sends keeps the rest in order.

## Main results

* `receive_some`: what is received was sent, within an allowed delay.
* `forall_send`, `forall_receive`: what holds of every message in flight.
* `receive_send`: the last message sent can be received at once.
* `exists_sent`: what is in flight was sent.
* `run_kept`, `lastSome_kept`: losses that a listener does not notice.
-/

namespace MarineHil.Verified

variable {β : Type}

/-- A message and the time it was sent. -/
structure Sent (β : Type) where
  time : ℤ
  message : β

/-- The messages in flight. -/
abbrev Channel (β : Type) := List (Sent β)

namespace Channel

def send (sent : Channel β) (now : ℤ) (message : β) : Channel β := ⟨now, message⟩ :: sent

/-- Try to receive the `i`-th message in flight: what is received, and what is
left.  A message with a delay that is not allowed is gone. -/
def receive (allowed : ℤ → Bool) (sent : Channel β) (now : ℤ) (i : ℕ) : Option β × Channel β :=
  match sent[i]? with
  | some x => (if allowed (now - x.time) then some x.message else none, sent.eraseIdx i)
  | none => (none, sent)

section Receive

variable {allowed : ℤ → Bool} {sent : Channel β} {now : ℤ} {i : ℕ}

theorem receive_some {message : β} (h : (sent.receive allowed now i).1 = some message) :
    ∃ x ∈ sent, x.message = message ∧ allowed (now - x.time) = true := by
  unfold receive at h
  cases hx : sent[i]? with
  | none =>
      rw [hx] at h
      cases h
  | some x =>
      rw [hx] at h
      by_cases hallowed : allowed (now - x.time) = true
      · simp only [if_pos hallowed, Option.some.injEq] at h
        exact ⟨x, List.mem_of_getElem? hx, h, hallowed⟩
      · simp only [if_neg hallowed] at h
        cases h

theorem forall_send {P : Sent β → Prop} (h : ∀ x ∈ sent, P x) {message : β}
    (hnew : P ⟨now, message⟩) : ∀ x ∈ sent.send now message, P x := by
  intro x hx
  rcases List.mem_cons.mp hx with rfl | hx
  · exact hnew
  · exact h x hx

theorem forall_receive {P : Sent β → Prop} (h : ∀ x ∈ sent, P x) (allowed : ℤ → Bool) (now : ℤ)
    (i : ℕ) : ∀ x ∈ (sent.receive allowed now i).2, P x := by
  intro x hx
  unfold receive at hx
  split at hx
  · exact h x (List.mem_of_mem_eraseIdx hx)
  · exact h x hx

theorem mem_of_mem_receive {x : Sent β} (hx : x ∈ (sent.receive allowed now i).2) : x ∈ sent :=
  forall_receive (P := (· ∈ sent)) (fun _ h => h) allowed now i x hx

theorem receive_send {message : β} {later : ℤ} (h : allowed (later - now) = true) :
    (sent.send now message).receive allowed later 0 = (some message, sent) := by
  simp [receive, send, h]

end Receive

/-- What is in flight after a run that starts with nothing in flight was sent by one of its
steps. -/
theorem exists_sent {σ ε : Type} {step : σ → ε → σ} {channel : σ → Channel β}
    {sent : σ → ε → Option (Sent β)}
    (hstep : ∀ s e, ∀ x ∈ channel (step s e), x ∈ channel s ∨ sent s e = some x) {s : σ}
    (h : channel s = []) {es : List ε} {x : Sent β} (hx : x ∈ channel (run step s es)) :
    ∃ pre e post, es = pre ++ e :: post ∧ sent (run step s pre) e = some x := by
  induction es using List.reverseRecOn with
  | nil =>
      rw [run_nil, h] at hx
      exact absurd hx List.not_mem_nil
  | append_singleton es e ih =>
      rw [run_concat] at hx
      obtain hold | hnew := hstep (run step s es) e x hx
      · obtain ⟨pre, e', post, hes, he'⟩ := ih hold
        exact ⟨pre, e', post ++ [e], by simp [hes], he'⟩
      · exact ⟨es, e, [], rfl, hnew⟩

end Channel

/-! ## Losses -/

/-- What is left of a sequence when only the elements that are sent get through. -/
def kept (sent : ℕ → Bool) : List β → List β
  | [] => []
  | b :: bs =>
      if sent 0 = true then b :: kept (fun i => sent (i + 1)) bs
      else kept (fun i => sent (i + 1)) bs

/-- The others. -/
def lost (sent : ℕ → Bool) (bs : List β) : List β := kept (fun i => !sent i) bs

section Kept

variable {sent : ℕ → Bool} {bs : List β}

theorem kept_sublist (sent : ℕ → Bool) (bs : List β) : (kept sent bs).Sublist bs := by
  induction bs generalizing sent with
  | nil => exact List.Sublist.slnil
  | cons b bs ih =>
      rw [kept]
      split_ifs
      · exact (ih _).cons_cons b
      · exact (ih _).cons b

theorem lost_cons_of_sent {b : β} (h : sent 0 = true) :
    lost sent (b :: bs) = lost (fun i => sent (i + 1)) bs := by
  rw [lost, kept, h]
  exact if_neg Bool.false_ne_true

theorem lost_cons_of_not_sent {b : β} (h : ¬sent 0 = true) :
    lost sent (b :: bs) = b :: lost (fun i => sent (i + 1)) bs := by
  rw [lost, kept, eq_false_of_ne_true h]
  exact if_pos rfl

/-- What would change nothing may be lost. -/
theorem run_kept {σ : Type} {step : σ → β → σ} (h : ∀ b ∈ lost sent bs, ∀ s, step s b = s) (s : σ) :
    run step s (kept sent bs) = run step s bs := by
  induction bs generalizing sent s with
  | nil => rfl
  | cons b bs ih =>
      by_cases hsent : sent 0 = true
      · rw [lost_cons_of_sent hsent] at h
        rw [kept, if_pos hsent, run_cons, run_cons, ih h]
      · rw [lost_cons_of_not_sent hsent] at h
        rw [kept, if_neg hsent, ih fun c hc => h c (List.mem_cons_of_mem b hc), run_cons,
          h b List.mem_cons_self]

/-- The last value carried is carried still, unless what carries it is lost. -/
theorem lastSome_kept {γ : Type} {f : β → Option γ} {x : γ} (hlast : lastSome f bs = some x)
    (h : ∀ b ∈ lost sent bs, f b ≠ some x) : lastSome f (kept sent bs) = some x := by
  induction bs generalizing sent with
  | nil => exact hlast
  | cons b bs ih =>
      rw [lastSome_cons] at hlast
      cases hlater : lastSome f bs with
      | some y =>
          rw [hlater] at hlast
          obtain rfl : y = x := Option.some.inj hlast
          by_cases hsent : sent 0 = true
          · rw [lost_cons_of_sent hsent] at h
            rw [kept, if_pos hsent, lastSome_cons, ih hlater h]
            rfl
          · rw [lost_cons_of_not_sent hsent] at h
            rw [kept, if_neg hsent]
            exact ih hlater fun c hc => h c (List.mem_cons_of_mem b hc)
      | none =>
          rw [hlater] at hlast
          have hsent : sent 0 = true := by
            by_contra hnot
            rw [lost_cons_of_not_sent hnot] at h
            exact h b List.mem_cons_self hlast
          have hnone : lastSome f (kept (fun i => sent (i + 1)) bs) = none :=
            lastSome_eq_none_iff.mpr fun c hc =>
              lastSome_eq_none_iff.mp hlater c ((kept_sublist _ bs).subset hc)
          rw [kept, if_pos hsent, lastSome_cons, hnone]
          exact hlast

end Kept

end MarineHil.Verified
