import ImitationGame.Job.Pool

/-! A pool as it was asked for. Free places and free workers are counted: there is no pool with too
many places, and with too many workers the dispatcher fails as soon as it runs. Jobs queued until
then are lost, and their keys stay taken. -/

namespace ImitationGame

structure IdlePool where
  capacity : Nat
  keys : List Job
  failed : Bool
  closing : Bool
deriving DecidableEq, Repr

def IdlePool.enqueue (p : IdlePool) (j : Job) : QueueAnswer × IdlePool :=
  if p.closing then (.closed, p)
  else if j ∈ p.keys then (.duplicate, p)
  else if p.failed then (.closed, p)
  else if p.capacity ≤ p.keys.length then (.full, p)
  else (.enqueued, { p with keys := j :: p.keys })

inductive Workforce where
  | staffed (p : Pool)
  | idle (p : IdlePool)
deriving DecidableEq, Repr

namespace Workforce

def limit : Nat := Nat.pow 2 61 - 1

def create? (workers capacity : Nat) : Option Workforce :=
  if limit < capacity then none
  else if limit < workers then some (idle ⟨max capacity 1, [], false, false⟩)
  else some (staffed (.create workers capacity))

def enqueue : Workforce → Job → QueueAnswer × Workforce
  | staffed p, j => (p.enqueue j).map id staffed
  | idle p, j => (p.enqueue j).map id idle

def settle : Workforce → Workforce
  | staffed p => staffed p.settle
  | idle p => idle { p with failed := true }

def complete (w : Workforce) (j : Job) (normally : Bool) : Bool × Workforce :=
  match w with
  | staffed p => ((p.complete? j normally).isSome, staffed ((p.complete? j normally).getD p))
  | idle _ => (false, w)

def shutDown : Workforce → Workforce
  | staffed p =>
    let p := p.settle.requestShutdown.2.settle
    staffed (p.running.foldl (fun p j => (p.complete? j true).getD p) p).settle
  | idle p => idle { p with failed := true, closing := true }

def keys : Workforce → List Job
  | staffed p => p.keys
  | idle p => p.keys

def running : Workforce → List Job
  | staffed p => p.running
  | idle _ => []

def started : Workforce → List Job
  | staffed p => p.started
  | idle _ => []

def finished : Workforce → List Job
  | staffed p => p.finished
  | idle _ => []

end Workforce

end ImitationGame
