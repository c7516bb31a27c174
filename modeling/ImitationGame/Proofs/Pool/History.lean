import ImitationGame.Proofs.Pool.Keys

/-! What becomes of the jobs that a pool takes in: they are started in their order, until a pool
that shuts down drops those that are left. -/

namespace ImitationGame

namespace Pool

variable {p q : Pool} {m : Move} {j : Job} {taken dropped : List Job}

def accepted (p : Pool) : List Move → List Job
  | [] => []
  | m :: moves => p.accepts m ++ (p.step m).accepted moves

def Stopped (p : Pool) : Prop := p.dispatcher = .draining ∨ p.dispatcher = .ended

structure Accounts (p : Pool) (taken dropped : List Job) : Prop where
  jobs : taken = p.started ++ dropped ++ p.held ++ p.channel
  dropped : dropped = [] ∨ p.Stopped
  stopped : p.Stopped → p.closing = true ∧ p.held = [] ∧ p.channel = []
  ended : p.dispatcher = .ended → p.running = []

theorem accounts_create (workers capacity : Nat) : (create workers capacity).Accounts [] [] where
  jobs := rfl
  dropped := .inl rfl
  stopped := by rintro (h | h) <;> cases h
  ended h := by cases h

theorem accepts_enqueue (hc : p.closing = false) (hk : j ∉ p.keys)
    (hn : p.channel.length < p.capacity) : p.accepts (.enqueue j) = [j] :=
  if_pos (enqueue_eq_enqueued.mpr ⟨hc, hk, hn⟩)

theorem Act.accounts (h : p.Act m q) (ha : p.Accounts taken dropped) :
    ∃ dropped, q.Accounts (taken ++ p.accepts m) dropped := by
  obtain ⟨jobs, hdropped, stopped, ended⟩ := ha
  cases h with
  | rest hm =>
    rw [hm, List.append_nil]
    exact ⟨dropped, jobs, hdropped, stopped, ended⟩
  | accept hc hk hn =>
    have hs : ¬p.Stopped := fun h => Bool.false_ne_true (hc.symm.trans (stopped h).1)
    refine ⟨dropped, ?_, hdropped, fun h => absurd h hs, ended⟩
    rw [accepts_enqueue hc hk hn, jobs, List.append_assoc _ p.channel]
    rfl
  | receive hd hc =>
    refine ⟨dropped, ?_, ?_, ?_, fun h => by cases h⟩
    · simp [jobs, held, hd, hc, accepts]
    · exact .inl (hdropped.resolve_right (by simp [Stopped, hd]))
    · rintro (h | h) <;> cases h
  | start hd hn =>
    -- While the dispatcher holds a job nothing has been dropped, so the job is the next one.
    have hnil : dropped = [] := hdropped.resolve_right (by simp [Stopped, hd])
    refine ⟨[], ?_, .inl rfl, ?_, fun h => by cases h⟩
    · simp [jobs, hnil, held, hd, accepts]
    · rintro (h | h) <;> cases h
  | stop hc =>
    refine ⟨dropped ++ p.held ++ p.channel, ?_, .inr (.inl rfl), fun _ => ⟨hc, rfl, rfl⟩,
      fun h => by cases h⟩
    simp [jobs, held, accepts]
  | finish hd hr =>
    obtain ⟨hc, hh, hch⟩ := stopped (.inl hd)
    rw [hh] at jobs
    exact ⟨dropped, (List.append_nil taken).trans jobs, .inr (.inr rfl), fun _ => ⟨hc, rfl, hch⟩,
      fun _ => hr⟩
  | complete hj =>
    refine ⟨dropped, (List.append_nil taken).trans jobs, hdropped, stopped, fun h => ?_⟩
    rw [ended h] at hj
    cases hj
  | close =>
    exact ⟨dropped, (List.append_nil taken).trans jobs, hdropped, fun h => ⟨rfl, (stopped h).2⟩,
      ended⟩

theorem runFrom_accounts (ha : p.Accounts taken dropped) (moves : List Move) :
    ∃ dropped, (p.runFrom moves).Accounts (taken ++ p.accepted moves) dropped := by
  induction moves generalizing p taken dropped with
  | nil => exact ⟨dropped, by rwa [accepted, List.append_nil]⟩
  | cons m moves ih =>
    obtain ⟨_, hm⟩ := (step_act p m).accounts ha
    rw [accepted, ← List.append_assoc]
    exact ih hm

theorem Act.not_mem_keys (h : p.Act m q) (hm : m ≠ .enqueue j) (hj : j ∉ p.keys) : j ∉ q.keys := by
  cases h with
  | rest | receive | start | finish | close => exact hj
  | accept =>
    rintro (_ | ⟨_, hk⟩)
    · exact hm rfl
    · exact hj hk
  | stop | complete => exact fun hk => hj (List.mem_filter.mp hk).1

theorem runFrom_not_mem_keys {moves : List Move} (hm : .enqueue j ∉ moves) (hj : j ∉ p.keys) :
    j ∉ (p.runFrom moves).keys := by
  induction moves generalizing p with
  | nil => exact hj
  | cons m moves ih =>
    obtain ⟨hne, hm⟩ := not_or.mp (mt List.mem_cons.mpr hm)
    exact ih hm ((step_act p m).not_mem_keys (Ne.symm hne) hj)

theorem not_mem_keys_complete {normally : Bool} (h : j ∈ p.running) :
    j ∉ (p.step (.complete j normally)).keys := by
  simp [step, complete?, h]

end Pool

namespace Workforce

open Pool (Move)

variable {w : Workforce} {workers capacity : Nat} {j : Job} {moves : List Move}

def accepts (w : Workforce) : Move → List Job
  | .enqueue j => if (w.enqueue j).1 = .enqueued then [j] else []
  | _ => []

def accepted (w : Workforce) : List Move → List Job
  | [] => []
  | m :: moves => w.accepts m ++ (w.step m).accepted moves

theorem accepts_pool (h : w.failed = false) (m : Move) :
    w.accepts m = (w.pool workers).accepts m := by
  cases m with
  | enqueue j =>
    have ha : (w.enqueue j).1 = ((w.pool workers).enqueue j).1 := (shows_pool h).answer j
    rw [accepts, Pool.accepts, ha]
  | dispatch | complete | shutDown => rfl

theorem accepted_pool (h : (w.runFrom moves).failed = false) :
    w.accepted moves = (w.pool workers).accepted moves := by
  induction moves generalizing w with
  | nil => rfl
  | cons m moves ih =>
    have hs : (w.step m).failed = false := failed_of_runFrom h
    rw [accepted, Pool.accepted, ← step_pool hs, ← ih h, accepts_pool (failed_of_step hs)]

theorem enqueue_unchanged (h : (w.enqueue j).1 ≠ .enqueued) : (w.enqueue j).2 = w := by
  cases w with
  | staffed p => exact congrArg staffed (Pool.enqueue_refused h)
  | idle p => grind [enqueue, IdlePool.enqueue]

theorem runFrom_ended {earlier later : List Move} {normally : Bool}
    (hj : j ∈ (w.runFrom earlier).running) (hl : .enqueue j ∉ later) :
    ((w.runFrom (earlier ++ .complete j normally :: later)).enqueue j).1 ≠ .duplicate := by
  rw [runFrom_append]
  cases hw : w.runFrom earlier with
  | idle p =>
    rw [hw] at hj
    cases hj
  | staffed p =>
    rw [hw] at hj
    rw [runFrom_staffed]
    intro hd
    exact Pool.runFrom_not_mem_keys hl (Pool.not_mem_keys_complete hj)
      (Pool.enqueue_eq_duplicate.mp hd).2

structure Accounts (w : Workforce) (taken : List Job) : Prop where
  jobs : ∃ dropped, taken = w.started ++ dropped ++ w.held ++ w.channel ∧
    (dropped ≠ [] → w.closing = true)
  ended : w.ended = true → w.closing = true ∧
    w.running = [] ∧ w.held = [] ∧ w.channel = [] ∧ w.keys = []
  duplicate : ∀ j, (w.enqueue j).1 = .duplicate ↔
    w.closing = false ∧ (j ∈ w.running ∨ j ∈ w.held ∨ j ∈ w.channel)

theorem Shows.accounts {taken dropped : List Job} {p : Pool} (h : w.Shows p) (hs : p.Sound)
    (ha : p.Accounts taken dropped) : w.Accounts taken where
  jobs := by
    refine ⟨dropped, ?_, fun hd => ?_⟩
    · rw [h.started, h.held, h.channel]
      exact ha.jobs
    · rw [h.closing]
      exact (ha.stopped (ha.dropped.resolve_left hd)).1
  ended he := by
    have hd : p.dispatcher = .ended := of_decide_eq_true (h.ended ▸ he)
    obtain ⟨hc, hh, hch⟩ := ha.stopped (.inr hd)
    have hr := ha.ended hd
    have hk := hs.keys
    rw [hr, hh, hch] at hk
    rw [h.closing, h.running, h.held, h.channel, h.keys]
    exact ⟨hc, hr, hh, hch, hk.eq_nil⟩
  duplicate j := by
    rw [h.answer, Pool.enqueue_eq_duplicate, hs.mem_keys, h.closing, h.running, h.held, h.channel]

theorem run_accounts (workers capacity : Nat) (w : Workforce)
    (h : create? workers capacity = some w) (moves : List Move) :
    (∀ j, ((w.runFrom moves).enqueue j).1 ≠ .enqueued →
      ((w.runFrom moves).enqueue j).2 = w.runFrom moves) ∧
    (∀ earlier j normally later, moves = earlier ++ .complete j normally :: later →
      j ∈ (w.runFrom earlier).running → .enqueue j ∉ later →
      ((w.runFrom moves).enqueue j).1 ≠ .duplicate) ∧
    (((w.runFrom moves).failed = true ∧ limit < workers) ∨
      (w.runFrom moves).Accounts (w.accepted moves)) := by
  refine ⟨fun j => enqueue_unchanged, ?_, ?_⟩
  · rintro earlier j normally later rfl hj hl
    exact runFrom_ended hj hl
  · rcases runFrom_shows h moves with hf | ⟨hf, hs⟩
    · exact .inl hf
    · obtain ⟨_, ha⟩ := Pool.runFrom_accounts (Pool.accounts_create workers capacity) moves
      rw [List.nil_append, ← pool_of_create h, ← accepted_pool hf] at ha
      rw [← pool_of_create h] at hs
      have hsound := Pool.run_sound workers capacity moves
      exact .inr (hs.accounts (pool_of_create h ▸ hsound) ha)

def sampleShift : List Move :=
  [.enqueue ⟨.askAsAi, 1⟩, .dispatch .receive, .dispatch .start, .enqueue ⟨.askAsAi, 2⟩,
    .dispatch .receive, .enqueue ⟨.askAsAi, 3⟩, .enqueue ⟨.askAsAi, 2⟩, .shutDown,
    .dispatch .stop, .complete ⟨.askAsAi, 1⟩ false, .dispatch .finish]

theorem sampleShift_accounts : create? 1 1 = some (.staffed (.create 1 1)) ∧
    ((Workforce.staffed (.create 1 1)).runFrom sampleShift).ended = true ∧
    ((Workforce.staffed (.create 1 1)).runFrom sampleShift).started = [⟨.askAsAi, 1⟩] ∧
    ((Workforce.staffed (.create 1 1)).runFrom sampleShift).Accounts
      [⟨.askAsAi, 1⟩, ⟨.askAsAi, 2⟩, ⟨.askAsAi, 3⟩] := by
  have hc : create? 1 1 = some (.staffed (.create 1 1)) := by decide
  have hf : ((Workforce.staffed (.create 1 1)).runFrom sampleShift).failed = false := by decide
  obtain ⟨-, -, ⟨ht, -⟩ | ha⟩ := run_accounts 1 1 _ hc sampleShift
  · rw [hf] at ht
    cases ht
  · exact ⟨hc, by decide, by decide, ha⟩

theorem run_accounts_not : ¬∀ (workers capacity : Nat) (w : Workforce),
    create? workers capacity = some w → ∀ moves : List Move,
      (w.runFrom moves).Accounts (w.accepted moves) := by
  intro h
  have hc : create? (limit + 1) 1 = some (.idle ⟨1, [], false, false⟩) := by decide +kernel
  have ha := h (limit + 1) 1 _ hc [.enqueue ⟨.askAsAi, 1⟩, .dispatch .start]
  obtain ⟨-, -, -, -, hk⟩ := ha.ended (by decide)
  exact absurd hk (by decide)

end Workforce

end ImitationGame
