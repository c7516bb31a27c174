import ImitationGame.Proofs.Pool.Settling

/-! Calls that shut a pool down. The first one waits for the dispatcher and comes back to a pool in
which nothing runs or will run; any other one comes back at once. -/

namespace ImitationGame

namespace Pool

variable {p q : Pool} {m : Move} {j : Job} {moves : List Move} {started taken dropped : List Job}

theorem enqueue_closing (h : p.closing = true) (j : Job) : p.enqueue j = (.closed, p) := if_pos h

theorem Act.closing (h : p.Act m q) (hc : p.closing = true) : q.closing = true := by
  cases h with
  | close => rfl
  | rest | accept | receive | start | stop | finish | complete => exact hc

structure Emptied (p : Pool) (started : List Job) : Prop where
  closing : p.closing = true
  running : p.running = []
  held : p.held = []
  channel : p.channel = []
  started : p.started = started

theorem Act.emptied (h : p.Act m q) (he : p.Emptied started) : q.Emptied started := by
  obtain ⟨hc, hr, hh, hch, hs⟩ := he
  cases h with
  | rest => exact ⟨hc, hr, hh, hch, hs⟩
  | accept ho => cases hc.symm.trans ho
  | receive _ hj => cases hch.symm.trans hj
  | start hd => simp [held, hd] at hh
  | stop => exact ⟨hc, hr, rfl, rfl, hs⟩
  | finish => exact ⟨hc, hr, rfl, hch, hs⟩
  | complete hj =>
    rw [hr] at hj
    cases hj
  | close => exact ⟨rfl, hr, hh, hch, hs⟩

theorem Accounts.emptied (ha : p.Accounts taken dropped) (hd : p.dispatcher = .ended) :
    p.Emptied p.started := by
  obtain ⟨hc, hh, hch⟩ := ha.stopped (.inr hd)
  exact ⟨hc, ha.ended hd, hh, hch, rfl⟩

theorem Sound.keys_nil (hs : p.Sound) (he : p.Emptied started) : p.keys = [] := by
  have hk := hs.keys
  rw [he.running, he.held, he.channel] at hk
  exact hk.eq_nil

theorem Settled.ended_iff (h : p.Settled) (hc : p.closing = true) (ha : p.Accounts taken dropped) :
    p.dispatcher = .ended ↔ p.running = [] := by
  refine ⟨ha.ended, fun hr => ?_⟩
  have hstop : p.stop? = none := h .stop
  have hend : p.end? = none := h .finish
  cases hd : p.dispatcher with
  | receiving => simp [stop?, hc, hd] at hstop
  | holding j => simp [stop?, hc, hd] at hstop
  | draining => simp [end?, hd, hr] at hend
  | ended => rfl

end Pool

namespace Workforce

open Pool (Move)

variable {w : Workforce} {m : Move} {moves earlier later : List Move} {workers capacity : Nat}

def waits : Workforce → Bool
  | staffed p => p.requestShutdown.1
  | idle p => !p.closing

def afterCall (w : Workforce) (later : List Move) : Workforce := (w.step .shutDown).runFrom later

def Returned (w : Workforce) (later : List Move) : Prop :=
  w.waits = true → (w.afterCall later).ended = true

def Still (w : Workforce) : Prop :=
  ∀ after, (w.runFrom after).running = [] ∧ (w.runFrom after).started = w.started

theorem afterCall_runFrom (earlier later : List Move) :
    (w.runFrom earlier).afterCall later = w.runFrom (earlier ++ .shutDown :: later) :=
  (runFrom_append earlier (.shutDown :: later)).symm

theorem waits_step_iff : (w.step m).waits = true ↔ m ≠ .shutDown ∧ w.waits = true := by
  by_cases hm : m = .shutDown
  · subst hm
    have hs : (w.step .shutDown).waits = false := by cases w <;> rfl
    rw [hs]
    exact iff_of_false Bool.false_ne_true fun h => h.1 rfl
  · rw [and_iff_right hm]
    cases w with
    | staffed p =>
      have ha : (p.step m).awaited = p.awaited := ((Pool.step_act p m).open hm).2
      rw [step_staffed, waits, waits, Pool.requestShutdown, Pool.requestShutdown, ha]
    | idle p => cases m <;> grind [step, enqueue, IdlePool.enqueue, dispatch, complete, waits]

theorem waits_runFrom_iff :
    (w.runFrom moves).waits = true ↔ .shutDown ∉ moves ∧ w.waits = true := by
  induction moves generalizing w with
  | nil => exact (and_iff_right List.not_mem_nil).symm
  | cons m moves ih =>
    refine ih.trans ?_
    rw [waits_step_iff, List.mem_cons, not_or, ← and_assoc, and_comm (a := .shutDown ∉ moves),
      ne_comm]

theorem closing_step (hc : w.closing = true) (m : Move) : (w.step m).closing = true := by
  cases w with
  | staffed p =>
    rw [step_staffed]
    exact (Pool.step_act p m).closing hc
  | idle p => cases m <;> grind [step, enqueue, IdlePool.enqueue, dispatch, complete,
      requestShutdown, closing]

theorem closing_runFrom (hc : w.closing = true) (moves : List Move) :
    (w.runFrom moves).closing = true := by
  induction moves generalizing w with
  | nil => exact hc
  | cons m moves ih => exact ih (closing_step hc m)

theorem enqueue_closing (hc : w.closing = true) (j : Job) : w.enqueue j = (.closed, w) := by
  cases w with
  | staffed p => exact congrArg (Prod.map id staffed) (Pool.enqueue_closing hc j)
  | idle p => exact congrArg (Prod.map id idle) (if_pos hc)

theorem still_staffed {p : Pool} (he : p.Emptied p.started) : (staffed p).Still := by
  intro after
  have ha := Pool.runFrom_keeps Pool.Act.emptied he after
  rw [runFrom_staffed]
  exact ⟨ha.running, ha.started⟩

theorem exists_idle (p : IdlePool) (moves : List Move) : ∃ q, (idle p).runFrom moves = idle q := by
  induction moves generalizing p with
  | nil => exact ⟨p, rfl⟩
  | cons m moves ih =>
    cases m with
    | enqueue | dispatch | complete | shutDown => exact ih _

theorem still_idle (p : IdlePool) : (idle p).Still := by
  intro after
  obtain ⟨q, hq⟩ := exists_idle p after
  rw [hq]
  exact ⟨rfl, rfl⟩

theorem still_of_ended (h : create? workers capacity = some w)
    (he : (w.runFrom moves).ended = true) :
    (w.runFrom moves).Still ∧ ((w.runFrom moves).keys = [] ∨
      (w.runFrom moves).failed = true ∧ limit < workers) := by
  cases hq : w.runFrom moves with
  | staffed q =>
    obtain ⟨hs, _, ha⟩ := sound_of_runFrom h hq
    rw [hq] at he
    have hq := ha.emptied (of_decide_eq_true he)
    exact ⟨still_staffed hq, .inl (hs.keys_nil hq)⟩
  | idle q =>
    have hf : (w.runFrom moves).failed = true := by
      rw [hq] at he ⊢
      exact he
    exact ⟨still_idle q, .inr ⟨hq ▸ hf, limit_lt_of_failed h hf⟩⟩

theorem Settled.ended_iff (h : create? workers capacity = some w)
    (hc : (w.runFrom moves).closing = true) (hs : (w.runFrom moves).Settled) :
    (w.runFrom moves).ended = true ↔ (w.runFrom moves).running = [] := by
  cases hq : w.runFrom moves with
  | staffed q =>
    obtain ⟨-, _, ha⟩ := sound_of_runFrom h hq
    rw [hq] at hc hs
    exact decide_eq_true_iff.trans ((settled_staffed_iff.mp hs).ended_iff hc ha)
  | idle q =>
    rw [hq] at hs
    exact iff_of_true (settled_idle_iff.mp hs) rfl

theorem run_closes (workers capacity : Nat) (w : Workforce)
    (h : create? workers capacity = some w) (earlier later : List Move) :
    ((w.runFrom earlier).waits = true ↔ .shutDown ∉ earlier) ∧
    (∀ after j, (((w.runFrom earlier).afterCall later).runFrom after).enqueue j =
      (.closed, ((w.runFrom earlier).afterCall later).runFrom after)) ∧
    ((w.runFrom earlier).Returned later →
      (.shutDown ∈ earlier ∧ ((w.runFrom earlier).afterCall later).ended = false) ∨
      ((w.runFrom earlier).afterCall later).Still ∧
        (((w.runFrom earlier).afterCall later).keys = [] ∨
          ((w.runFrom earlier).afterCall later).failed = true ∧ limit < workers)) ∧
    (((w.runFrom earlier).afterCall later).Settled →
      (((w.runFrom earlier).afterCall later).ended = true ↔
        ((w.runFrom earlier).afterCall later).running = [])) := by
  have hfirst : (w.runFrom earlier).waits = true ↔ .shutDown ∉ earlier := by
    have hw : w.waits = true := by grind [create?, waits, Pool.requestShutdown, Pool.create]
    rw [waits_runFrom_iff, and_iff_left hw]
  have hclosing : ((w.runFrom earlier).afterCall later).closing = true :=
    closing_runFrom (by cases w.runFrom earlier <;> rfl) later
  refine ⟨hfirst, fun after j => enqueue_closing (closing_runFrom hclosing after) j, ?_, ?_⟩
  · intro hr
    cases he : ((w.runFrom earlier).afterCall later).ended with
    | true =>
      rw [afterCall_runFrom] at he ⊢
      exact .inr (still_of_ended h he)
    | false =>
      refine .inl ⟨not_not.mp fun hm => ?_, rfl⟩
      exact Bool.false_ne_true (he.symm.trans (hr (hfirst.mpr hm)))
  · rw [afterCall_runFrom] at hclosing ⊢
    exact Settled.ended_iff h hclosing

def sampleClosing : List Move :=
  [.enqueue ⟨.askAsAi, 1⟩, .dispatch .receive, .dispatch .start, .enqueue ⟨.askAsAi, 2⟩,
    .dispatch .receive]

def sampleEnding : List Move :=
  [.dispatch .stop, .complete ⟨.askAsAi, 1⟩ true, .dispatch .finish]

theorem sampleClosing_closes : create? 1 1 = some (.staffed (.create 1 1)) ∧
    ((Workforce.staffed (.create 1 1)).runFrom sampleClosing).Returned sampleEnding ∧
    (((Workforce.staffed (.create 1 1)).runFrom sampleClosing).afterCall sampleEnding).Still ∧
    (((Workforce.staffed (.create 1 1)).runFrom sampleClosing).afterCall sampleEnding).keys = [] := by
  have hc : create? 1 1 = some (.staffed (.create 1 1)) := by decide
  have hr : ((Workforce.staffed (.create 1 1)).runFrom sampleClosing).Returned sampleEnding :=
    fun _ => by decide
  obtain ⟨-, -, hstill, -⟩ := run_closes 1 1 _ hc sampleClosing sampleEnding
  rcases hstill hr with ⟨hm, -⟩ | ⟨hs, -⟩
  · exact absurd hm (by decide)
  · exact ⟨hc, hr, hs, by decide⟩

/-- A second call comes back while a job runs; and behind a dispatcher that fails, the first call
comes back to a key in use. -/
theorem run_closes_not :
    (¬∀ (workers capacity : Nat) (w : Workforce), create? workers capacity = some w →
      ∀ earlier later : List Move, (w.runFrom earlier).Returned later →
        ((w.runFrom earlier).afterCall later).running = []) ∧
    ¬∀ (workers capacity : Nat) (w : Workforce), create? workers capacity = some w →
      ∀ earlier later : List Move, .shutDown ∉ earlier → (w.runFrom earlier).Returned later →
        ((w.runFrom earlier).afterCall later).keys = [] := by
  constructor
  · intro h
    have hc : create? 1 1 = some (.staffed (.create 1 1)) := by decide
    have hr := h 1 1 _ hc (sampleClosing ++ [.shutDown]) [] fun hw => absurd hw (by decide)
    exact absurd hr (by decide)
  · intro h
    have hc : create? (limit + 1) 4 = some (.idle ⟨4, [], false, false⟩) := by decide +kernel
    have hk := h (limit + 1) 4 _ hc [.enqueue ⟨.askAsAi, 1⟩, .dispatch .receive] [] (by decide)
      fun _ => by decide
    exact absurd hk (by decide)

end Workforce

end ImitationGame
