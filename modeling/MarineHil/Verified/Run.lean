import Mathlib.Data.List.Induction
import Mathlib.Data.Int.Order.Basic

/-!
# Runs of an event-driven program

A program that reacts to callbacks is a step function on its state.  This
module runs such a function over a list of events and collects the
inductions the developments need, so that no later proof repeats them:

* `invariant_run`: what every step keeps holds after every run;
* `run_map`: a map of states that commutes with every step commutes with every run;
* `latch_run`, `optional_latch_run`: a component that a step either overwrites
  or leaves alone holds the value of the last event that carries one;
* `along_iff`, `Along.imp`: two conditions on the events of a run, compared under
  an invariant that one of them keeps;
* `Throughout`: what holds in every state of a run, and so at its start and after
  each of its events;
* `output_run`: the same as `latch_run` for values a step makes of its state;
* `run_outputs`: a component that each step changes by its output;
* `outputs_map`, `outputs_filter`: changes of the state, and events, that do not show;
* `emitted_of_related`, `emitted_filter_map`: programs that send the same;
* `along_emitted`: a listener that hears all a program sends;
* `gap_run`: a quantity measured from the last call, while nothing interrupts it;
* `Ordered`: what a clock that never goes back says about the parts of a run.
-/

namespace MarineHil.Verified

variable {σ ε β γ : Type}

/-- The state reached from `s` on the events `es`. -/
def run (step : σ → ε → σ) (s : σ) (es : List ε) : σ := es.foldl step s

section Run

variable {step : σ → ε → σ}

@[simp] theorem run_nil (s : σ) : run step s [] = s := rfl

@[simp] theorem run_cons (s : σ) (e : ε) (es : List ε) :
    run step s (e :: es) = run step (step s e) es := rfl

theorem run_append (s : σ) (es fs : List ε) :
    run step s (es ++ fs) = run step (run step s es) fs :=
  List.foldl_append

theorem run_concat (s : σ) (es : List ε) (e : ε) :
    run step s (es ++ [e]) = step (run step s es) e := by
  rw [run_append, run_cons, run_nil]

/-- A run that only records its events. -/
theorem run_history (es : List ε) : run (fun before e => before ++ [e]) [] es = es := by
  induction es using List.reverseRecOn with
  | nil => rfl
  | append_singleton es e ih => rw [run_concat, ih]

/-- What every step keeps holds after every run. -/
theorem invariant_run {I : σ → Prop} (hstep : ∀ s e, I s → I (step s e))
    {s : σ} (h : I s) (es : List ε) : I (run step s es) := by
  induction es generalizing s with
  | nil => exact h
  | cons e es ih => exact ih (hstep s e h)

/-- The same when only the events that do occur keep the invariant. -/
theorem invariant_run_of_mem {I : σ → Prop} {es : List ε}
    (hstep : ∀ s, ∀ e ∈ es, I s → I (step s e)) {s : σ} (h : I s) :
    I (run step s es) := by
  induction es generalizing s with
  | nil => exact h
  | cons e es ih =>
      exact ih (fun s e' he' => hstep s e' (List.mem_cons_of_mem e he'))
        (hstep s e List.mem_cons_self h)

/-- A map of states that every step commutes with, under an invariant the step law
may rest on, commutes with every run. -/
theorem run_map {τ δ : Type} {step' : τ → δ → τ} (f : σ → τ) (g : ε → δ) {I : σ → Prop}
    (hI : ∀ s e, I s → I (step s e)) (hstep : ∀ s e, I s → step' (f s) (g e) = f (step s e))
    {s : σ} (h : I s) (es : List ε) : run step' (f s) (es.map g) = f (run step s es) := by
  induction es generalizing s with
  | nil => rfl
  | cons e es ih => rw [List.map_cons, run_cons, run_cons, hstep s e h, ih (hI s e h)]

/-- At every event of the run, `P` holds of the event and the state before it. -/
def Along (step : σ → ε → σ) (P : σ → ε → Prop) (s : σ) (es : List ε) : Prop :=
  ∀ pre e post, es = pre ++ e :: post → P (run step s pre) e

section Along

variable {P Q : σ → ε → Prop}

theorem along_nil (s : σ) : Along step P s [] := by
  intro pre e post h
  exact absurd h (by simp)

theorem along_cons {s : σ} {e : ε} {es : List ε} :
    Along step P s (e :: es) ↔ P s e ∧ Along step P (step s e) es := by
  constructor
  · intro h
    refine ⟨h [] e es rfl, ?_⟩
    intro pre e' post hes
    exact h (e :: pre) e' post (by rw [hes]; rfl)
  · intro h pre e' post hes
    cases pre with
    | nil =>
        obtain ⟨rfl, _⟩ := List.cons.inj hes
        exact h.1
    | cons d pre =>
        obtain ⟨rfl, htail⟩ := List.cons.inj hes
        exact h.2 pre e' post htail

theorem along_concat {s : σ} {es : List ε} {e : ε} :
    Along step P s (es ++ [e]) ↔ Along step P s es ∧ P (run step s es) e := by
  induction es generalizing s with
  | nil =>
      rw [List.nil_append, along_cons, run_nil]
      exact ⟨fun h => ⟨along_nil s, h.1⟩, fun h => ⟨h.2, along_nil _⟩⟩
  | cons d es ih =>
      rw [List.cons_append, along_cons, along_cons, ih, run_cons, and_assoc]

theorem along_append {s : σ} {es fs : List ε} :
    Along step P s (es ++ fs) ↔ Along step P s es ∧ Along step P (run step s es) fs := by
  induction es generalizing s with
  | nil => exact ⟨fun h => ⟨along_nil s, h⟩, fun h => h.2⟩
  | cons e es ih => rw [List.cons_append, along_cons, along_cons, ih, run_cons, and_assoc]

/-- The condition on a run is one on its beginnings. -/
theorem Along.left {s : σ} {es fs : List ε} (h : Along step P s (es ++ fs)) :
    Along step P s es := by
  intro pre e post hes
  exact h pre e (post ++ fs) (by rw [hes, List.append_assoc, List.cons_append])

/-- What an invariant entails along a run. -/
theorem along_of_invariant {I : σ → Prop} (himp : ∀ s e, I s → P s e)
    (hstep : ∀ s e, I s → I (step s e)) {s : σ} (h : I s) (es : List ε) : Along step P s es := by
  intro pre e post _
  exact himp _ e (invariant_run hstep h pre)

/-- A condition on the events alone. -/
theorem along_of_forall {s : σ} {es : List ε} (h : ∀ e ∈ es, ∀ t, P t e) : Along step P s es := by
  intro pre e post hes
  exact h e (by simp [hes]) _

/-- A condition along events that change nothing. -/
theorem along_of_const {s : σ} {es : List ε} (hstep : ∀ e ∈ es, ∀ t, step t e = t)
    (h : ∀ e ∈ es, P s e) : Along step P s es := by
  intro pre e post hes
  have hpre : run step s pre = s := invariant_run_of_mem (I := fun t => t = s)
    (fun t e' he' ht => (hstep e' (by simp [hes, he']) t).trans ht) rfl
  rw [hpre]
  exact h e (by simp [hes])

/-- While `P` keeps an invariant under which `P` and `Q` say the same, they say
the same along a whole run. -/
theorem along_iff {I : σ → Prop} (hiff : ∀ s e, I s → (P s e ↔ Q s e))
    (hstep : ∀ s e, I s → P s e → I (step s e)) {s : σ} (h : I s) (es : List ε) :
    Along step P s es ↔ Along step Q s es := by
  induction es generalizing s with
  | nil => exact ⟨fun _ => along_nil s, fun _ => along_nil s⟩
  | cons e es ih =>
      rw [along_cons, along_cons, ← hiff s e h]
      constructor
      · intro hP
        exact ⟨hP.1, (ih (hstep s e h hP.1)).mp hP.2⟩
      · intro hQ
        exact ⟨hQ.1, (ih (hstep s e h hQ.1)).mpr hQ.2⟩

/-- What `P` entails along a run on which it keeps an invariant. -/
theorem Along.imp {I : σ → Prop} (himp : ∀ s e, I s → P s e → Q s e)
    (hstep : ∀ s e, I s → P s e → I (step s e)) {s : σ} (h : I s) {es : List ε}
    (hP : Along step P s es) : Along step Q s es := by
  induction es generalizing s with
  | nil => exact along_nil s
  | cons e es ih =>
      rw [along_cons] at hP ⊢
      exact ⟨himp s e h hP.1, ih (hstep s e h hP.1) hP.2⟩

end Along

/-- `P` holds in every state of the run. -/
def Throughout (step : σ → ε → σ) (P : σ → Prop) (s : σ) (es : List ε) : Prop :=
  ∀ pre post, es = pre ++ post → P (run step s pre)

section Throughout

variable {P : σ → Prop} {s : σ} {es : List ε}

theorem Throughout.start (h : Throughout step P s es) : P s := h [] es rfl

/-- It holds just after each event of the run. -/
theorem Throughout.after_split (h : Throughout step P s es) {pre post : List ε} {e : ε}
    (hes : es = pre ++ e :: post) : P (run step s (pre ++ [e])) := by
  refine h (pre ++ [e]) post ?_
  rw [hes, List.append_cons]

theorem Throughout.after (h : Throughout step P s es) {e : ε} (he : e ∈ es) :
    ∃ pre, P (run step s (pre ++ [e])) := by
  obtain ⟨pre, post, hes⟩ := List.append_of_mem he
  exact ⟨pre, h.after_split hes⟩

end Throughout

end Run

/-! ## Latches -/

/-- The value carried by the last event of `es` that carries one. -/
def lastSome (f : ε → Option β) (es : List ε) : Option β := es.reverse.findSome? f

section Latch

variable {f : ε → Option β}

theorem lastSome_concat (es : List ε) (e : ε) :
    lastSome f (es ++ [e]) = (f e).or (lastSome f es) := by
  unfold lastSome
  rw [List.reverse_append, List.reverse_singleton, List.singleton_append, List.findSome?_cons]
  cases f e <;> rfl

theorem lastSome_append (es fs : List ε) :
    lastSome f (es ++ fs) = (lastSome f fs).or (lastSome f es) := by
  rw [lastSome, List.reverse_append, List.findSome?_append, lastSome, lastSome]

theorem lastSome_cons (e : ε) (es : List ε) : lastSome f (e :: es) = (lastSome f es).or (f e) := by
  have hsingle : lastSome f [e] = f e := by
    rw [← List.nil_append [e], lastSome_concat]
    exact Option.or_none
  rw [← List.singleton_append, lastSome_append, hsingle]

theorem lastSome_cons_of_none {e : ε} (h : f e = none) (es : List ε) :
    lastSome f (e :: es) = lastSome f es := by
  have hsingle : lastSome f [e] = none := by
    rw [← List.nil_append [e], lastSome_concat, h]
    rfl
  rw [← List.singleton_append, lastSome_append, hsingle]
  exact Option.or_none

theorem lastSome_map (g : β → γ) (es : List ε) :
    lastSome (fun e => (f e).map g) es = (lastSome f es).map g :=
  List.map_findSome?.symm

theorem lastSome_eq_none_iff {es : List ε} : lastSome f es = none ↔ ∀ e ∈ es, f e = none := by
  simp [lastSome, List.findSome?_eq_none_iff]

/-- An event that carries a value leaves one. -/
theorem isSome_lastSome {es : List ε} {e : ε} (he : e ∈ es) (h : (f e).isSome = true) :
    (lastSome f es).isSome = true := by
  rw [Option.isSome_iff_ne_none]
  intro hnone
  rw [lastSome_eq_none_iff.mp hnone e he] at h
  exact Bool.false_ne_true h

/-- The event whose value a latch holds: nothing after it carries a value. -/
theorem lastSome_eq_some_iff {es : List ε} {b : β} :
    lastSome f es = some b ↔
      ∃ pre e post, es = pre ++ e :: post ∧ f e = some b ∧ ∀ e' ∈ post, f e' = none := by
  rw [lastSome, List.findSome?_eq_some_iff]
  constructor
  · rintro ⟨l₁, e, l₂, hes, he, hnone⟩
    refine ⟨l₂.reverse, e, l₁.reverse, ?_, he, fun e' he' => hnone e' (List.mem_reverse.mp he')⟩
    rw [← List.reverse_reverse es, hes]
    simp
  · rintro ⟨pre, e, post, rfl, he, hnone⟩
    exact ⟨post.reverse, e, pre.reverse, by simp, he,
      fun e' he' => hnone e' (List.mem_reverse.mp he')⟩

theorem lastSome_concat_of_some {e : ε} {b : β} (h : f e = some b) (es : List ε) :
    lastSome f (es ++ [e]) = some b := by
  rw [lastSome_concat, h]
  rfl

/-- A latch that is only ever given the value it has. -/
theorem lastSome_getD_of_forall {es : List ε} {b : β} (h : ∀ e ∈ es, ∀ x, f e = some x → x = b) :
    (lastSome f es).getD b = b := by
  cases hlast : lastSome f es with
  | none => rfl
  | some x =>
      obtain ⟨pre, e, post, rfl, he, _⟩ := lastSome_eq_some_iff.mp hlast
      exact h e (by simp) x he

/-- A component that each step overwrites with the event's value, if it has
one, holds the last such value of the run.  `I` is an invariant the step law
may rest on. -/
theorem latch_run_of_invariant {step : σ → ε → σ} (get : σ → β) {I : σ → Prop}
    (hI : ∀ s e, I s → I (step s e))
    (hget : ∀ s e, I s → get (step s e) = (f e).getD (get s))
    {s : σ} (h : I s) (es : List ε) :
    get (run step s es) = (lastSome f es).getD (get s) := by
  induction es using List.reverseRecOn with
  | nil => rfl
  | append_singleton es e ih =>
      rw [run_concat, hget _ _ (invariant_run hI h es), ih, lastSome_concat]
      cases f e <;> rfl

theorem latch_run {step : σ → ε → σ} (get : σ → β)
    (hget : ∀ s e, get (step s e) = (f e).getD (get s)) (s : σ) (es : List ε) :
    get (run step s es) = (lastSome f es).getD (get s) :=
  latch_run_of_invariant get (fun _ _ _ => trivial) (fun s e _ => hget s e) (I := fun _ => True)
    trivial es

/-- A latch that starts empty. -/
theorem optional_latch_run {step : σ → ε → σ} (get : σ → Option β)
    (hget : ∀ s e, get (step s e) = (f e).or (get s)) (s : σ) (es : List ε) :
    get (run step s es) = (lastSome f es).or (get s) := by
  induction es using List.reverseRecOn with
  | nil => rfl
  | append_singleton es e ih =>
      rw [run_concat, hget, ih, lastSome_concat, Option.or_assoc]

end Latch

/-! ## Outputs -/

/-- The output of the last step of a run that has one. -/
def lastOutput (step : σ → ε → σ) (f : σ → ε → Option β) : σ → List ε → Option β
  | _, [] => none
  | s, e :: es => (lastOutput step f (step s e) es).or (f s e)

section Output

variable {step : σ → ε → σ} {f : σ → ε → Option β}

theorem lastOutput_concat (s : σ) (es : List ε) (e : ε) :
    lastOutput step f s (es ++ [e]) =
      (f (run step s es) e).or (lastOutput step f s es) := by
  induction es generalizing s with
  | nil =>
      show (none : Option β).or (f s e) = (f s e).or none
      rw [Option.none_or, Option.or_none]
  | cons d es ih =>
      show (lastOutput step f (step s d) (es ++ [e])).or (f s d) = _
      rw [ih, Option.or_assoc]
      rfl

theorem lastOutput_map (g : β → γ) (s : σ) (es : List ε) :
    lastOutput step (fun t e => (f t e).map g) s es = (lastOutput step f s es).map g := by
  induction es generalizing s with
  | nil => rfl
  | cons e es ih =>
      show (lastOutput step (fun t e => (f t e).map g) (step s e) es).or ((f s e).map g) =
        ((lastOutput step f (step s e) es).or (f s e)).map g
      rw [ih]
      cases lastOutput step f (step s e) es <;> rfl

/-- The step whose output is the last one. -/
theorem exists_of_lastOutput {s : σ} {es : List ε} {b : β} (h : lastOutput step f s es = some b) :
    ∃ pre e post, es = pre ++ e :: post ∧ f (run step s pre) e = some b := by
  induction es generalizing s with
  | nil => cases h
  | cons d es ih =>
      obtain hlater | ⟨_, hnow⟩ := Option.or_eq_some_iff.mp h
      · obtain ⟨pre, e, post, hes, he⟩ := ih hlater
        exact ⟨d :: pre, e, post, by rw [hes]; rfl, he⟩
      · exact ⟨[], d, es, rfl, hnow⟩

/-- A component that each step overwrites with its output, if it has one, holds
the last output of the run. -/
theorem output_run (get : σ → β) {I : σ → Prop} (hI : ∀ s e, I s → I (step s e))
    (hget : ∀ s e, I s → get (step s e) = (f s e).getD (get s)) {s : σ} (h : I s)
    (es : List ε) : get (run step s es) = (lastOutput step f s es).getD (get s) := by
  induction es using List.reverseRecOn with
  | nil => rfl
  | append_singleton es e ih =>
      rw [run_concat, hget _ _ (invariant_run hI h es), ih, lastOutput_concat]
      cases f (run step s es) e <;> rfl

/-- The outputs of the steps of a run, in order. -/
def outputs (step : σ → ε → σ) (f : σ → ε → Option β) : σ → List ε → List β
  | _, [] => []
  | s, e :: es => (f s e).toList ++ outputs step f (step s e) es

theorem outputs_cons (s : σ) (e : ε) (es : List ε) :
    outputs step f s (e :: es) = (f s e).toList ++ outputs step f (step s e) es := rfl

theorem outputs_concat (s : σ) (es : List ε) (e : ε) :
    outputs step f s (es ++ [e]) = outputs step f s es ++ (f (run step s es) e).toList := by
  induction es generalizing s with
  | nil => exact List.append_nil _
  | cons d es ih =>
      rw [List.cons_append, outputs_cons, outputs_cons, ih, List.append_assoc, run_cons]

/-- A component that each step changes by its output, if it has one, is what the
outputs of the run make of it. -/
theorem run_outputs (get : σ → γ) {update : γ → β → γ} {s : σ} {es : List ε}
    (h : Along step (fun t e => get (step t e) = run update (get t) (f t e).toList) s es) :
    get (run step s es) = run update (get s) (outputs step f s es) := by
  induction es generalizing s with
  | nil => rfl
  | cons e es ih =>
      obtain ⟨hnow, hrest⟩ := along_cons.mp h
      rw [run_cons, ih hrest, hnow, outputs_cons, run_append]

/-- What every output satisfies, under an invariant of the run. -/
theorem forall_mem_outputs {P : β → Prop} {I : σ → Prop} (hI : ∀ s e, I s → I (step s e))
    (hf : ∀ s e b, I s → f s e = some b → P b) {s : σ} (h : I s) (es : List ε) :
    ∀ b ∈ outputs step f s es, P b := by
  induction es generalizing s with
  | nil => intro b hb; exact absurd hb List.not_mem_nil
  | cons e es ih =>
      intro b hb
      rw [outputs_cons, List.mem_append, Option.mem_toList] at hb
      rcases hb with hnow | hlater
      · exact hf s e b h hnow
      · exact ih (hI s e h) b hlater

/-- A step that has an output every time. -/
theorem length_outputs_replicate {I : σ → Prop} {e : ε} (hstep : ∀ s, I s → I (step s e))
    (hf : ∀ s, I s → (f s e).isSome = true) {s : σ} (h : I s) (n : ℕ) :
    (outputs step f s (List.replicate n e)).length = n := by
  induction n generalizing s with
  | zero => rfl
  | succ n ih =>
      obtain ⟨b, hb⟩ := Option.isSome_iff_exists.mp (hf s h)
      rw [List.replicate_succ, outputs_cons, hb, List.length_append, ih (hstep s h), Nat.add_comm]
      rfl

/-- A map of states that every step commutes with, and that outputs do not show. -/
theorem outputs_map {τ δ : Type} {step' : τ → δ → τ} {f' : τ → δ → Option β} (g : σ → τ) (h : ε → δ)
    (hstep : ∀ s e, step' (g s) (h e) = g (step s e)) (hout : ∀ s e, f' (g s) (h e) = f s e) (s : σ)
    (es : List ε) : outputs step' f' (g s) (es.map h) = outputs step f s es := by
  induction es generalizing s with
  | nil => rfl
  | cons e es ih => rw [List.map_cons, outputs_cons, outputs_cons, hout, hstep, ih]

/-- Events that a run does not show: they leave what is seen of the state as it is, and have
no output.  The other events do the same wherever the same is seen. -/
theorem outputs_filter {τ : Type} (see : σ → τ) {I : σ → Prop} {visible : ε → Bool} {es : List ε}
    (hI : ∀ e ∈ es, ∀ s, I s → I (step s e))
    (hhidden : ∀ s e, I s → visible e = false → see (step s e) = see s ∧ f s e = none)
    (hvisible : ∀ s t e, I s → I t → see s = see t → visible e = true →
      see (step s e) = see (step t e) ∧ f s e = f t e)
    {s t : σ} (hs : I s) (ht : I t) (hst : see s = see t) :
    outputs step f s es = outputs step f t (es.filter visible) := by
  induction es generalizing s t with
  | nil => rfl
  | cons e es ih =>
      have hrest : ∀ e' ∈ es, ∀ s, I s → I (step s e') :=
        fun e' he' => hI e' (List.mem_cons_of_mem e he')
      have hkept := hI e List.mem_cons_self
      cases he : visible e with
      | false =>
          obtain ⟨hsee, hnone⟩ := hhidden s e hs he
          rw [List.filter_cons_of_neg (by rw [he]; exact Bool.false_ne_true), outputs_cons, hnone]
          exact ih hrest (hkept s hs) ht (hsee.trans hst)
      | true =>
          obtain ⟨hsee, hout⟩ := hvisible s t e hs ht hst he
          rw [List.filter_cons_of_pos he, outputs_cons, outputs_cons, hout,
            ih hrest (hkept s hs) (hkept t ht) hsee]

/-- What the steps of a run send, in order. -/
def emitted (step : σ → ε → σ) (out : σ → ε → List β) : σ → List ε → List β
  | _, [] => []
  | s, e :: es => out s e ++ emitted step out (step s e) es

section Emitted

variable {out : σ → ε → List β}

theorem emitted_cons (s : σ) (e : ε) (es : List ε) :
    emitted step out s (e :: es) = out s e ++ emitted step out (step s e) es := rfl

theorem emitted_concat (s : σ) (es : List ε) (e : ε) :
    emitted step out s (es ++ [e]) = emitted step out s es ++ out (run step s es) e := by
  induction es generalizing s with
  | nil => exact List.append_nil _
  | cons d es ih =>
      rw [List.cons_append, emitted_cons, emitted_cons, ih, List.append_assoc, run_cons]

theorem mem_emitted {s : σ} {es : List ε} {b : β} (hb : b ∈ emitted step out s es) :
    ∃ pre e post, es = pre ++ e :: post ∧ b ∈ out (run step s pre) e := by
  induction es generalizing s with
  | nil => exact absurd hb List.not_mem_nil
  | cons e es ih =>
      rw [emitted_cons, List.mem_append] at hb
      rcases hb with hnow | hlater
      · exact ⟨[], e, es, rfl, hnow⟩
      · obtain ⟨pre, e', post, hes, he'⟩ := ih hlater
        exact ⟨e :: pre, e', post, by rw [hes]; rfl, he'⟩

/-- The step that has an output. -/
theorem exists_of_mem_outputs {f : σ → ε → Option β} {s : σ} {es : List ε} {b : β}
    (hb : b ∈ outputs step f s es) :
    ∃ pre e post, es = pre ++ e :: post ∧ f (run step s pre) e = some b := by
  have hsame : outputs step f s es = emitted step (fun s e => (f s e).toList) s es := by
    clear hb
    induction es generalizing s with
    | nil => rfl
    | cons e es ih => rw [outputs_cons, emitted_cons, ih]
  obtain ⟨pre, e, post, hes, he⟩ := mem_emitted (hsame ▸ hb)
  exact ⟨pre, e, post, hes, Option.mem_toList.mp he⟩

/-- Two programs that send the same wherever they are related. -/
theorem emitted_of_related {τ : Type} {step' : τ → ε → τ} {out' : τ → ε → List β}
    {R : σ → τ → Prop} (hstep : ∀ s t e, R s t → R (step s e) (step' t e))
    (hout : ∀ s t e, R s t → out s e = out' t e) {s : σ} {t : τ} (h : R s t) (es : List ε) :
    emitted step out s es = emitted step' out' t es := by
  induction es generalizing s t with
  | nil => rfl
  | cons e es ih => rw [emitted_cons, emitted_cons, hout s t e h, ih (hstep s t e h)]

/-- Only a part of each event counts, and of some events nothing. -/
theorem emitted_filter_map {part : ε → ε} {matters : ε → Bool} {I : σ → Prop}
    (hI : ∀ s e, I s → I (step s e))
    (hpart : ∀ s e, I s → step s (part e) = step s e ∧ out s (part e) = out s e)
    (hidle : ∀ s e, matters e = false → step s e = s ∧ out s e = []) {s : σ} (h : I s)
    (es : List ε) :
    emitted step out s es = emitted step out s ((es.map part).filter matters) ∧
      run step s es = run step s ((es.map part).filter matters) := by
  induction es generalizing s with
  | nil => exact ⟨rfl, rfl⟩
  | cons e es ih =>
      obtain ⟨hsent, hrun⟩ := ih (hI s e h)
      obtain ⟨hstep, hout⟩ := hpart s e h
      rw [List.map_cons, emitted_cons, run_cons]
      cases hmatters : matters (part e) with
      | true =>
          rw [List.filter_cons_of_pos hmatters, emitted_cons, run_cons, hstep, hout]
          exact ⟨congrArg _ hsent, hrun⟩
      | false =>
          obtain ⟨hstay, hquiet⟩ := hidle s (part e) hmatters
          rw [List.filter_cons_of_neg (by rw [hmatters]; exact Bool.false_ne_true), ← hout, hquiet,
            List.nil_append]
          rw [← hstep, hstay] at hsent hrun ⊢
          exact ⟨hsent, hrun⟩

/-- A condition on all that is sent, event by event. -/
theorem forall_mem_emitted {P : β → Prop} {s : σ} {es : List ε} :
    (∀ b ∈ emitted step out s es, P b) ↔ Along step (fun s e => ∀ b ∈ out s e, P b) s es := by
  induction es generalizing s with
  | nil => exact iff_of_true (fun b hb => absurd hb List.not_mem_nil) (along_nil s)
  | cons e es ih => rw [emitted_cons, List.forall_mem_append, ih, along_cons]

/-- What holds of everything sent, as the listener knows it, in a run whose events meet `Q`. -/
theorem along_emitted {τ : Type} {hear : τ → β → τ} {Q : σ → ε → Prop} {R : σ → τ → Prop}
    {P : τ → β → Prop} (hstep : ∀ s t e, Q s e → R s t → R (step s e) (run hear t (out s e)))
    (hout : ∀ s t e, R s t → Along hear P t (out s e)) {s : σ} {t : τ} (h : R s t) {es : List ε}
    (hes : Along step Q s es) : Along hear P t (emitted step out s es) := by
  induction es generalizing s t with
  | nil => exact along_nil t
  | cons e es ih =>
      rw [along_cons] at hes
      rw [emitted_cons, along_append]
      exact ⟨hout s t e h, ih (hstep s t e hes.1 h) hes.2⟩

end Emitted

end Output

/-! ## Calls and interruptions -/

/-- The call a program remembers after a run.  An event makes a call (`some (some b)`),
makes the program forget the one before (`some none`), or does neither. -/
def previousCall (step : σ → ε → σ) (call : σ → ε → Option (Option β)) (s : σ) (es : List ε) :
    Option β :=
  (lastOutput step call s es).getD none

/-- Whether an event makes a call or interrupts one. -/
def callMark (call : σ → ε → Option (Option β)) (interrupts : σ → ε → Bool) (s : σ) (e : ε) :
    Option Bool :=
  if ((call s e).getD none).isSome then some false
  else if interrupts s e then some true
  else none

/-- An interruption came after the last call. -/
def Interrupted (step : σ → ε → σ) (call : σ → ε → Option (Option β)) (interrupts : σ → ε → Bool)
    (s : σ) (es : List ε) : Prop :=
  lastOutput step (callMark call interrupts) s es = some true

/-- A quantity measured from a call: zero at the call, and raised by interruptions
alone. -/
structure GapLaw [Zero γ] [Preorder γ] (step : σ → ε → σ) (call : σ → ε → Option (Option β))
    (interrupts : σ → ε → Bool) (gap : σ → β → γ) (s : σ) (e : ε) : Prop where
  calls : ∀ b, call s e = some (some b) → gap (step s e) b = 0
  keeps : call s e = none → interrupts s e = false → ∀ b, gap (step s e) b = gap s b
  grows : call s e = none → interrupts s e = true → ∀ b, 0 ≤ gap s b → 0 < gap (step s e) b

section Calls

variable {step : σ → ε → σ} {call : σ → ε → Option (Option β)} {interrupts : σ → ε → Bool}

theorem previousCall_concat (s : σ) (es : List ε) (e : ε) :
    previousCall step call s (es ++ [e]) =
      (call (run step s es) e).getD (previousCall step call s es) := by
  unfold previousCall
  rw [lastOutput_concat]
  cases call (run step s es) e <;> rfl

theorem interrupted_concat (s : σ) (es : List ε) (e : ε) :
    Interrupted step call interrupts s (es ++ [e]) ↔
      ((callMark call interrupts (run step s es) e).or
        (lastOutput step (callMark call interrupts) s es)) = some true := by
  unfold Interrupted
  rw [lastOutput_concat]

section Law

variable [Zero γ] [Preorder γ] {gap : σ → β → γ} {s : σ} {e : ε}

theorem GapLaw.of_call {b : β} (hcall : call s e = some (some b))
    (hzero : gap (step s e) b = 0) : GapLaw step call interrupts gap s e := by
  refine ⟨?_, fun hnone => ?_, fun hnone => ?_⟩
  · intro b' hcall'
    obtain rfl := Option.some.inj (Option.some.inj (hcall.symm.trans hcall'))
    exact hzero
  · cases hcall.symm.trans hnone
  · cases hcall.symm.trans hnone

theorem GapLaw.of_keeps (hcall : ∀ b, call s e ≠ some (some b)) (hint : interrupts s e = false)
    (hkeeps : ∀ b, gap (step s e) b = gap s b) : GapLaw step call interrupts gap s e := by
  refine ⟨fun b hsome => absurd hsome (hcall b), fun _ _ => hkeeps, fun _ htrue => ?_⟩
  cases hint.symm.trans htrue

theorem GapLaw.of_grows (hcall : ∀ b, call s e ≠ some (some b)) (hint : interrupts s e = true)
    (hgrows : ∀ b, 0 ≤ gap s b → 0 < gap (step s e) b) : GapLaw step call interrupts gap s e := by
  refine ⟨fun b hsome => absurd hsome (hcall b), fun _ hfalse => ?_, fun _ _ => hgrows⟩
  cases hint.symm.trans hfalse

end Law

/-- **The quantity is zero exactly while nothing has interrupted.** -/
theorem gap_run [Zero γ] [Preorder γ] {gap : σ → β → γ} {s : σ} {es : List ε}
    (h : Along step (GapLaw step call interrupts gap) s es) {b : β}
    (hcall : previousCall step call s es = some b) :
    0 ≤ gap (run step s es) b ∧
      (gap (run step s es) b = 0 ↔ ¬Interrupted step call interrupts s es) := by
  induction es using List.reverseRecOn with
  | nil => cases hcall
  | append_singleton es e ih =>
      obtain ⟨hbefore, hlaw⟩ := along_concat.mp h
      rw [previousCall_concat] at hcall
      rw [interrupted_concat, run_concat]
      cases hnow : call (run step s es) e with
      | some made =>
          rw [hnow] at hcall
          cases made with
          | none => cases hcall
          | some b' =>
              obtain rfl := Option.some.inj hcall
              have hmark : callMark call interrupts (run step s es) e = some false := by
                unfold callMark
                rw [hnow]
                rfl
              rw [hlaw.calls b' hnow, hmark]
              refine ⟨le_refl 0, iff_of_true rfl ?_⟩
              exact fun hfalse => Bool.false_ne_true (Option.some.inj hfalse)
      | none =>
          rw [hnow] at hcall
          obtain ⟨hnonneg, hiff⟩ := ih hbefore hcall
          cases hint : interrupts (run step s es) e with
          | true =>
              have hmark : callMark call interrupts (run step s es) e = some true := by
                unfold callMark
                rw [hnow, hint]
                rfl
              have hpos := hlaw.grows hnow hint b hnonneg
              rw [hmark]
              exact ⟨le_of_lt hpos, iff_of_false (ne_of_lt hpos).symm (fun hne => hne rfl)⟩
          | false =>
              have hmark : callMark call interrupts (run step s es) e = none := by
                unfold callMark
                rw [hnow, hint]
                rfl
              rw [hlaw.keeps hnow hint b, hmark, Option.none_or]
              exact ⟨hnonneg, hiff⟩

end Calls

/-! ## Clocks -/

/-- An event and the reading of the clock in its callback. -/
structure Timed (ε : Type) where
  time : ℤ
  event : ε

/-- The clock readings of the run start at `t₀` or later and never go back. -/
def Ordered (t₀ : ℤ) (es : List (Timed ε)) : Prop :=
  (t₀ :: es.map Timed.time).Pairwise (· ≤ ·)

section Clock

variable {t₀ : ℤ} {es fs : List (Timed ε)} {e : Timed ε}

theorem Ordered.start_le (h : Ordered t₀ es) (he : e ∈ es) : t₀ ≤ e.time :=
  List.rel_of_pairwise_cons h (List.mem_map_of_mem he)

/-- The clock reads `t₀` for a while and `t₁` from then on. -/
theorem ordered_append_of_eq {t₁ : ℤ} (hes : ∀ e ∈ es, e.time = t₀) (hfs : ∀ e ∈ fs, e.time = t₁)
    (hle : t₀ ≤ t₁) : Ordered t₀ (es ++ fs) := by
  have heq {t : ℤ} {gs : List (Timed ε)} (hgs : ∀ e ∈ gs, e.time = t) :
      gs.map Timed.time = List.replicate gs.length t :=
    List.eq_replicate_iff.mpr ⟨List.length_map _, by simpa using hgs⟩
  have hrep (t : ℤ) (n : ℕ) : (List.replicate n t).Pairwise (· ≤ ·) :=
    List.pairwise_replicate.mpr (Or.inr (le_refl t))
  rw [Ordered, List.map_append, heq hes, heq hfs, ← List.cons_append, ← List.replicate_succ,
    List.pairwise_append]
  refine ⟨hrep _ _, hrep _ _, ?_⟩
  intro x hx y hy
  rw [List.eq_of_mem_replicate hx, List.eq_of_mem_replicate hy]
  exact hle

/-- Everything before a point of the run reads the clock no later than
everything after it. -/
theorem Ordered.le_of_append (h : Ordered t₀ (es ++ fs)) {d : Timed ε} (he : e ∈ es)
    (hd : d ∈ fs) : e.time ≤ d.time := by
  rw [Ordered, List.map_append, ← List.cons_append, List.pairwise_append] at h
  exact h.2.2 _ (List.mem_cons_of_mem _ (List.mem_map_of_mem he)) _ (List.mem_map_of_mem hd)

/-- What follows an event is ordered from that event on. -/
theorem Ordered.tail (h : Ordered t₀ (es ++ e :: fs)) : Ordered e.time fs := by
  rw [Ordered, List.map_append, ← List.cons_append, List.pairwise_append] at h
  exact h.2.1

end Clock

end MarineHil.Verified
