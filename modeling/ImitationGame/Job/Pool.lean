import ImitationGame.Job.Basic

/-! The worker pool: a bounded channel, a dispatcher that hands its jobs to a bounded number of
workers, and a set of keys that admits no job twice. -/

namespace ImitationGame

inductive Dispatcher where
  | receiving
  | holding (job : Job)
  /-- The channel is closed and emptied; the running jobs are waited for. -/
  | draining
  | ended
deriving DecidableEq, Repr

structure Pool where
  workers : Nat
  capacity : Nat
  keys : List Job
  channel : List Job
  dispatcher : Dispatcher
  running : List Job
  closing : Bool
  /-- A call that shuts down has taken it on itself to wait for the dispatcher. -/
  awaited : Bool
  started : List Job
  finished : List Job
deriving DecidableEq, Repr

namespace Pool

def create (workers capacity : Nat) : Pool where
  workers := max workers 1
  capacity := max capacity 1
  keys := []
  channel := []
  dispatcher := .receiving
  running := []
  closing := false
  awaited := false
  started := []
  finished := []

def enqueue (p : Pool) (j : Job) : QueueAnswer × Pool :=
  if p.closing then (.closed, p)
  else if j ∈ p.keys then (.duplicate, p)
  else if p.capacity ≤ p.channel.length then (.full, p)
  else (.enqueued, { p with keys := j :: p.keys, channel := p.channel ++ [j] })

def queue : JobQueue Pool where
  offer := enqueue
  cancelled _ := false

def receive? (p : Pool) : Option Pool :=
  match p.dispatcher, p.channel with
  | .receiving, j :: rest => some { p with channel := rest, dispatcher := .holding j }
  | _, _ => none

def start? (p : Pool) : Option Pool :=
  match p.dispatcher with
  | .holding j =>
    if p.running.length < p.workers then
      some { p with
        dispatcher := .receiving, running := p.running ++ [j], started := p.started ++ [j] }
    else none
  | _ => none

def stop? (p : Pool) : Option Pool :=
  if p.closing then
    match p.dispatcher with
    | .receiving => some { p with
        dispatcher := .draining, channel := [], keys := p.keys.filter (· ∉ p.channel) }
    | .holding j => some { p with
        dispatcher := .draining, channel := [], keys := p.keys.filter (· ∉ j :: p.channel) }
    | _ => none
  else none

def end? (p : Pool) : Option Pool :=
  if p.dispatcher = .draining ∧ p.running = [] then some { p with dispatcher := .ended } else none

def complete? (p : Pool) (j : Job) (normally : Bool) : Option Pool :=
  if j ∈ p.running then
    some { p with
      running := p.running.erase j
      keys := p.keys.filter (· ≠ j)
      finished := if normally then p.finished ++ [j] else p.finished }
  else none

/-- A call that shuts down: the first one waits for the dispatcher, any other returns at once. The
answer says whether the caller waits. -/
def requestShutdown (p : Pool) : Bool × Pool :=
  (!p.awaited, { p with closing := true, awaited := true })

def dispatch? (p : Pool) : Option Pool :=
  p.stop?.or (p.start?.or (p.receive?.or p.end?))

def rank (p : Pool) : Nat :=
  2 * p.channel.length + match p.dispatcher with
    | .receiving => 2
    | .holding _ => 3
    | .draining => 1
    | .ended => 0

theorem rank_receive {p q : Pool} (h : p.receive? = some q) : q.rank < p.rank := by
  unfold receive? at h
  split at h
  · rename_i j rest hd hc
    simp only [Option.some.injEq] at h
    subst h
    simp only [rank, hd, hc, List.length_cons]
    omega
  · simp at h

theorem rank_start {p q : Pool} (h : p.start? = some q) : q.rank < p.rank := by
  unfold start? at h
  split at h
  · rename_i j hd
    split at h
    · simp only [Option.some.injEq] at h
      subst h
      simp only [rank, hd]
      omega
    · simp at h
  · simp at h

theorem rank_stop {p q : Pool} (h : p.stop? = some q) : q.rank < p.rank := by
  unfold stop? at h
  split at h
  · split at h
    · rename_i hd
      simp only [Option.some.injEq] at h
      subst h
      simp only [rank, hd, List.length_nil]
      omega
    · rename_i j hd
      simp only [Option.some.injEq] at h
      subst h
      simp only [rank, hd, List.length_nil]
      omega
    · simp at h
  · simp at h

theorem rank_end {p q : Pool} (h : p.end? = some q) : q.rank < p.rank := by
  unfold end? at h
  split at h
  · rename_i hd
    simp only [Option.some.injEq] at h
    subst h
    simp only [rank, hd.1]
    omega
  · simp at h

theorem rank_dispatch {p q : Pool} (h : p.dispatch? = some q) : q.rank < p.rank := by
  simp only [dispatch?, Option.or_eq_some_iff] at h
  rcases h with h | ⟨_, h | ⟨_, h | ⟨_, h⟩⟩⟩
  · exact rank_stop h
  · exact rank_start h
  · exact rank_receive h
  · exact rank_end h

def settle (p : Pool) : Pool :=
  match _h : p.dispatch? with
  | some q => q.settle
  | none => p
termination_by p.rank
decreasing_by exact rank_dispatch _h

end Pool

end ImitationGame
