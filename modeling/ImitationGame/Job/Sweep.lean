import ImitationGame.Job.Run
import ImitationGame.Store.Database

namespace ImitationGame

structure SweepReport where
  startAfterJoin : Nat := 0
  askAsAi : Nat := 0
  answerAsAi : Nat := 0
  deleteExpired : Nat := 0
  duplicates : Nat := 0
  failures : Nat := 0
  /-- A scan crashed and took the sweep with it. -/
  crashed : Bool := false
deriving DecidableEq, Repr

namespace SweepReport

def enqueued (r : SweepReport) : Nat :=
  r.startAfterJoin + r.askAsAi + r.answerAsAi + r.deleteExpired

def count (r : SweepReport) : JobKind → SweepReport
  | .startAfterJoin => { r with startAfterJoin := r.startAfterJoin + 1 }
  | .askAsAi => { r with askAsAi := r.askAsAi + 1 }
  | .answerAsAi => { r with answerAsAi := r.answerAsAi + 1 }
  | .deleteExpired => { r with deleteExpired := r.deleteExpired + 1 }

def fail (r : SweepReport) : SweepReport := { r with failures := r.failures + 1 }

def note (r : SweepReport) (kind : JobKind) : QueueAnswer → SweepReport
  | .enqueued => r.count kind
  | .duplicate => { r with duplicates := r.duplicates + 1 }
  | .full | .closed => r.fail

end SweepReport

namespace Sweep

variable {σ : Type}

def offerAll (q : JobQueue σ) (kind : JobKind) : List Int → SweepReport × σ → SweepReport × σ
  | [], st => st
  | game :: games, (r, s) =>
    if q.cancelled s then (r, s)
    else
      let (answer, s) := q.offer s ⟨kind, game⟩
      offerAll q kind games (r.note kind answer, s)

def pass (q : JobQueue σ) : List (JobKind × Except Fault (List Int)) → SweepReport × σ →
    SweepReport × σ
  | [], st => st
  | (kind, scan) :: rest, (r, s) =>
    if q.cancelled s then (r, s)
    else
      match scan with
      | .ok games => pass q rest (offerAll q kind games (r, q.wait s))
      | .error (.refused (.crash _)) => ({ r with crashed := true }, q.wait s)
      | .error _ => pass q rest (r.fail, q.wait s)

def waiting : List (JobKind × Stage) :=
  [(.startAfterJoin, .joined), (.askAsAi, .awaiting .ai .question),
    (.answerAsAi, .awaiting .ai .answer)]

def questions (now : Instant) (e : Expiry) :
    List (JobKind × (Store → Except Fault (List Int))) :=
  (waiting.map fun (kind, stage) => (kind, fun s => .ok (s.pending stage))) ++
    [(.deleteExpired, fun s => s.expired now e.maxAge)]

def scans (now : Instant) (e : Expiry) (db : Database) :
    List (JobKind × Except Fault (List Int)) :=
  (questions now e).map fun (kind, query) => (kind, db.ask query)

def tick (q : JobQueue σ) (now : Instant) (e : Expiry) (db : Database) (queue : σ) :
    SweepReport × σ :=
  pass q (scans now e db) ({}, queue)

end Sweep

end ImitationGame
