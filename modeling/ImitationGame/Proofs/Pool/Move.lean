import ImitationGame.Job.Workforce

/-! What may happen to a worker pool, one thing after another. Until its dispatcher fails, a pool
with too many workers goes through what any other pool goes through. -/

namespace ImitationGame

namespace Pool

inductive Turn where
  | receive | start | stop | finish
deriving DecidableEq, Repr

inductive Move where
  | enqueue (job : Job)
  | dispatch (turn : Turn)
  | complete (job : Job) (normally : Bool)
  | shutDown
deriving DecidableEq, Repr

variable {p q : Pool} {m : Move} {j : Job} {moves : List Move}

def turn? (p : Pool) : Turn → Option Pool
  | .receive => p.receive?
  | .start => p.start?
  | .stop => p.stop?
  | .finish => p.end?

def step (p : Pool) : Move → Pool
  | .enqueue j => (p.enqueue j).2
  | .dispatch t => (p.turn? t).getD p
  | .complete j normally => (p.complete? j normally).getD p
  | .shutDown => p.requestShutdown.2

def runFrom (p : Pool) (moves : List Move) : Pool := moves.foldl step p

theorem runFrom_append (earlier later : List Move) :
    p.runFrom (earlier ++ later) = (p.runFrom earlier).runFrom later := List.foldl_append

def held (p : Pool) : List Job :=
  match p.dispatcher with
  | .holding j => [j]
  | _ => []

def accepts (p : Pool) : Move → List Job
  | .enqueue j => if (p.enqueue j).1 = .enqueued then [j] else []
  | _ => []

theorem enqueue_eq_enqueued : (p.enqueue j).1 = .enqueued ↔
    p.closing = false ∧ j ∉ p.keys ∧ p.channel.length < p.capacity := by
  grind [enqueue]

theorem enqueue_eq_duplicate :
    (p.enqueue j).1 = .duplicate ↔ p.closing = false ∧ j ∈ p.keys := by
  grind [enqueue]

theorem enqueue_refused (h : (p.enqueue j).1 ≠ .enqueued) : (p.enqueue j).2 = p := by
  grind [enqueue]

inductive Act (p : Pool) : Move → Pool → Prop where
  | rest {m : Move} : p.accepts m = [] → Act p m p
  | accept {j : Job} : p.closing = false → j ∉ p.keys → p.channel.length < p.capacity →
      Act p (.enqueue j) { p with keys := j :: p.keys, channel := p.channel ++ [j] }
  | receive {j : Job} {rest : List Job} : p.dispatcher = .receiving → p.channel = j :: rest →
      Act p (.dispatch .receive) { p with channel := rest, dispatcher := .holding j }
  | start {j : Job} : p.dispatcher = .holding j → p.running.length < p.workers →
      Act p (.dispatch .start) { p with
        dispatcher := .receiving, running := p.running ++ [j], started := p.started ++ [j] }
  | stop : p.closing = true → p.dispatcher = .receiving ∨ p.held ≠ [] →
      Act p (.dispatch .stop) { p with
        dispatcher := .draining, channel := []
        keys := p.keys.filter (· ∉ p.held ++ p.channel) }
  | finish : p.dispatcher = .draining → p.running = [] →
      Act p (.dispatch .finish) { p with dispatcher := .ended }
  | complete {j : Job} {normally : Bool} : j ∈ p.running →
      Act p (.complete j normally) { p with
        running := p.running.erase j
        keys := p.keys.filter (· ≠ j)
        finished := if normally then p.finished ++ [j] else p.finished }
  | close : Act p .shutDown { p with closing := true, awaited := true }

theorem act_enqueue (p : Pool) (j : Job) : p.Act (.enqueue j) (p.step (.enqueue j)) := by
  by_cases h : (p.enqueue j).1 = .enqueued
  · obtain ⟨hc, hk, hn⟩ := enqueue_eq_enqueued.mp h
    have hs : p.step (.enqueue j) =
        { p with keys := j :: p.keys, channel := p.channel ++ [j] } := by
      grind [step, enqueue]
    exact hs ▸ .accept hc hk hn
  · have hs : p.step (.enqueue j) = p := enqueue_refused h
    rw [hs]
    exact .rest (if_neg h)

theorem act_dispatch (p : Pool) (t : Turn) : p.Act (.dispatch t) (p.step (.dispatch t)) := by
  cases t with
  | receive =>
    simp only [step, turn?, receive?]
    split
    · rename_i hd hc
      exact .receive hd hc
    · exact .rest rfl
  | start =>
    simp only [step, turn?, start?]
    split
    · rename_i hd
      split
      · rename_i hn
        exact .start hd hn
      · exact .rest rfl
    · exact .rest rfl
  | stop =>
    simp only [step, turn?, stop?]
    split
    · rename_i hc
      split
      · rename_i hd
        simpa [held, hd] using Act.stop hc (.inl hd)
      · rename_i hd
        simpa [held, hd] using Act.stop hc (.inr (by simp [held, hd]))
      · exact .rest rfl
    · exact .rest rfl
  | finish =>
    simp only [step, turn?, end?]
    split
    · rename_i h
      exact .finish h.1 h.2
    · exact .rest rfl

theorem step_act (p : Pool) (m : Move) : p.Act m (p.step m) := by
  cases m with
  | enqueue j => exact act_enqueue p j
  | dispatch t => exact act_dispatch p t
  | complete j normally =>
    simp only [step, complete?]
    split
    · rename_i h
      exact .complete h
    · exact .rest rfl
  | shutDown => exact .close

theorem runFrom_keeps {P : Pool → Prop} (h : ∀ {p q : Pool} {m : Move}, p.Act m q → P p → P q)
    (hp : P p) (moves : List Move) : P (p.runFrom moves) := by
  induction moves generalizing p with
  | nil => exact hp
  | cons m moves ih => exact ih (h (step_act p m) hp)

theorem settle_turns (p : Pool) :
    ∃ turns : List Turn, p.settle = p.runFrom (turns.map .dispatch) := by
  fun_induction settle p with
  | case1 p q h ih =>
    obtain ⟨turns, hm⟩ := ih
    suffices ∃ t, p.turn? t = some q by
      obtain ⟨t, ht⟩ := this
      exact ⟨t :: turns, by rw [hm, runFrom, runFrom, List.map_cons, List.foldl_cons, step, ht,
        Option.getD_some]⟩
    simp only [dispatch?, Option.or_eq_some_iff] at h
    rcases h with h | ⟨-, h | ⟨-, h | ⟨-, h⟩⟩⟩
    · exact ⟨.stop, h⟩
    · exact ⟨.start, h⟩
    · exact ⟨.receive, h⟩
    · exact ⟨.finish, h⟩
  | case2 p h => exact ⟨[], rfl⟩

theorem completeAll_runFrom (p : Pool) (jobs : List Job) :
    jobs.foldl (fun p j => (p.complete? j true).getD p) p =
      p.runFrom (jobs.map (.complete · true)) := by
  rw [runFrom, List.foldl_map]
  rfl

end Pool

namespace Workforce

open Pool (Move)

variable {w : Workforce} {workers capacity : Nat}

def closing : Workforce → Bool
  | staffed p => p.closing
  | idle p => p.closing

def held : Workforce → List Job
  | staffed p => p.held
  | idle _ => []

def channel : Workforce → List Job
  | staffed p => p.channel
  | idle p => if p.failed then [] else p.keys.reverse

def failed : Workforce → Bool
  | staffed _ => false
  | idle p => p.failed

def ended : Workforce → Bool
  | staffed p => p.dispatcher = .ended
  | idle p => p.failed

/-- Whatever a dispatcher that has too many workers is about to do, it fails. -/
def dispatch : Workforce → Pool.Turn → Workforce
  | staffed p, t => staffed (p.step (.dispatch t))
  | idle p, _ => idle { p with failed := true }

def requestShutdown : Workforce → Workforce
  | staffed p => staffed p.requestShutdown.2
  | idle p => idle { p with closing := true }

def step (w : Workforce) : Move → Workforce
  | .enqueue j => (w.enqueue j).2
  | .dispatch t => w.dispatch t
  | .complete j normally => (w.complete j normally).2
  | .shutDown => w.requestShutdown

def runFrom (w : Workforce) (moves : List Move) : Workforce := moves.foldl step w

theorem runFrom_append (earlier later : List Move) :
    w.runFrom (earlier ++ later) = (w.runFrom earlier).runFrom later := List.foldl_append

theorem step_staffed (p : Pool) (m : Move) : (staffed p).step m = staffed (p.step m) := by
  cases m <;> rfl

theorem runFrom_staffed (p : Pool) (moves : List Move) :
    (staffed p).runFrom moves = staffed (p.runFrom moves) := by
  induction moves generalizing p with
  | nil => rfl
  | cons m moves ih => exact (congrArg (runFrom · moves) (step_staffed p m)).trans (ih (p.step m))

theorem settle_turns (w : Workforce) :
    ∃ turns : List Pool.Turn, w.settle = w.runFrom (turns.map .dispatch) := by
  cases w with
  | staffed p =>
    obtain ⟨turns, hm⟩ := p.settle_turns
    exact ⟨turns, by rw [runFrom_staffed, settle, hm]⟩
  | idle p => exact ⟨[.receive], rfl⟩

theorem shutDown_runFrom (w : Workforce) : ∃ moves, w.shutDown = w.runFrom moves := by
  cases w with
  | staffed p =>
    obtain ⟨before, hb⟩ := p.settle_turns
    obtain ⟨after, ha⟩ := (p.settle.step .shutDown).settle_turns
    generalize hq : (p.settle.step .shutDown).settle = q at ha
    obtain ⟨last, hl⟩ := (q.runFrom (q.running.map (.complete · true))).settle_turns
    refine ⟨before.map .dispatch ++ .shutDown :: after.map .dispatch ++
      q.running.map (.complete · true) ++ last.map .dispatch, ?_⟩
    have hs : (staffed p).shutDown =
        staffed (q.running.foldl (fun p j => (p.complete? j true).getD p) q).settle := by
      rw [← hq]
      rfl
    rw [hs, Pool.completeAll_runFrom, hl, ha, hb, runFrom_staffed]
    simp only [Pool.runFrom_append]
    rfl
  | idle p => exact ⟨[.dispatch .receive, .shutDown], rfl⟩

def pool (workers : Nat) : Workforce → Pool
  | staffed p => p
  | idle p =>
    { Pool.create workers p.capacity with
      capacity := p.capacity, keys := p.keys, channel := p.keys.reverse
      closing := p.closing, awaited := p.closing }

structure Shows (w : Workforce) (p : Pool) : Prop where
  keys : w.keys = p.keys
  channel : w.channel = p.channel
  held : w.held = p.held
  running : w.running = p.running
  started : w.started = p.started
  closing : w.closing = p.closing
  ended : w.ended = decide (p.dispatcher = .ended)
  answer : ∀ j, (w.enqueue j).1 = (p.enqueue j).1

theorem shows_pool (h : w.failed = false) : w.Shows (w.pool workers) := by
  cases w with
  | staffed p => constructor <;> intros <;> rfl
  | idle p =>
    change p.failed = false at h
    have he (j : Job) : ((idle p).enqueue j).1 = (((idle p).pool workers).enqueue j).1 := by
      simp only [enqueue, IdlePool.enqueue, Pool.enqueue, pool, h, List.length_reverse]
      grind
    exact ⟨rfl, by simp [channel, pool, h], rfl, rfl, rfl, rfl, h.trans rfl, he⟩

theorem failed_of_step {m : Move} (h : (w.step m).failed = false) : w.failed = false := by
  cases w with
  | staffed p => rfl
  | idle p => cases m <;> grind [step, enqueue, IdlePool.enqueue, dispatch, failed, complete,
      requestShutdown]

theorem step_pool {m : Move} (h : (w.step m).failed = false) :
    (w.step m).pool workers = (w.pool workers).step m := by
  cases w with
  | staffed p => rw [step_staffed]; rfl
  | idle p =>
    cases m with
    | enqueue j =>
      have hp : p.failed = false := failed_of_step h
      simp only [step, enqueue, IdlePool.enqueue, Pool.step, Pool.enqueue, pool, hp,
        List.length_reverse]
      grind
    | dispatch t => cases h
    | complete j normally => rfl
    | shutDown => rfl

theorem failed_of_runFrom {moves : List Move} (h : (w.runFrom moves).failed = false) :
    w.failed = false := by
  induction moves generalizing w with
  | nil => exact h
  | cons m moves ih => exact failed_of_step (ih h)

theorem runFrom_pool {moves : List Move} (h : (w.runFrom moves).failed = false) :
    (w.runFrom moves).pool workers = (w.pool workers).runFrom moves := by
  induction moves generalizing w with
  | nil => rfl
  | cons m moves ih =>
    have hs : (w.step m).failed = false := failed_of_runFrom h
    exact (ih h).trans (congrArg (Pool.runFrom · moves) (step_pool hs))

theorem pool_of_create (h : create? workers capacity = some w) :
    w.pool workers = Pool.create workers capacity := by
  grind [create?, pool, Pool.create]

theorem eq_of_runFrom {moves : List Move} {p : Pool} (h : create? workers capacity = some w)
    (hp : w.runFrom moves = staffed p) : p = (Pool.create workers capacity).runFrom moves := by
  have hf : (w.runFrom moves).failed = false := by rw [hp]; rfl
  have he : (w.runFrom moves).pool workers = (w.pool workers).runFrom moves := runFrom_pool hf
  rwa [hp, pool_of_create h] at he

theorem limit_lt_of_failed {moves : List Move} (h : create? workers capacity = some w)
    (hf : (w.runFrom moves).failed = true) : limit < workers := by
  cases w with
  | staffed p =>
    rw [runFrom_staffed] at hf
    cases hf
  | idle p => grind [create?]

theorem runFrom_shows (h : create? workers capacity = some w) (moves : List Move) :
    ((w.runFrom moves).failed = true ∧ limit < workers) ∨ (w.runFrom moves).failed = false ∧
      (w.runFrom moves).Shows ((Pool.create workers capacity).runFrom moves) := by
  cases hf : (w.runFrom moves).failed with
  | true => exact .inl ⟨rfl, limit_lt_of_failed h hf⟩
  | false => exact .inr ⟨rfl, pool_of_create h ▸ runFrom_pool hf ▸ shows_pool hf⟩

end Workforce

end ImitationGame
