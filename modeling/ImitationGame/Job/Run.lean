import ImitationGame.Job.Basic
import ImitationGame.Job.Turn
import ImitationGame.Random.Keystream
import ImitationGame.Store.Scan

namespace ImitationGame

/-- The age at which a game may be deleted, and how long it must have been left alone, in
seconds. -/
structure Expiry where
  maxAge : Int
  idleGrace : Int
deriving DecidableEq, Repr

structure JobContext where
  seeds : Random.SeedSource
  expiry : Expiry

inductive JobOutcome where
  | advanced (stage : Stage)
  | deleted
deriving DecidableEq, Repr

inductive JobProgress where
  | done (outcome : JobOutcome)
  | thinking (turn : AiTurn)
deriving DecidableEq, Repr

namespace Play

def startTurns (now : Instant) (draws : Random.Stream) (game : Int) : Transaction Stage :=
  fun s => do
    let g ← s.load game
    Refusal.lift (g.requirePending .joined)
    let change ← Refusal.lift (g.start draws)
    return (change.stage, ← s.update now game change)

def deleteExpired (now : Instant) (expiry : Expiry) (game : Int) : Transaction Unit := fun s => do
  let g ← s.loadDated game
  if (← Instant.before now expiry.maxAge) < g.createdAt.instant then
    throw (.refused (.tooYoung game))
  if (← Instant.before now expiry.idleGrace) < g.updatedAt.instant then
    throw (.refused (.recentlyActive game))
  return ((), ← s.delete game)

end Play

namespace Job

open Play

def start (c : JobContext) (now : Instant) (j : Job) : Transaction JobProgress := fun s =>
  match j.kind with
  | .startAfterJoin => do
    let (stage, s) ← startTurns now (c.seeds.stream j.game) j.game s
    return (.done (.advanced stage), s)
  | .askAsAi => do return (.thinking (← prepare s j.game .question), s)
  | .answerAsAi => do return (.thinking (← prepare s j.game .answer), s)
  | .deleteExpired => do
    let ((), s) ← Play.deleteExpired now c.expiry j.game s
    return (.done .deleted, s)

def resume (now : Instant) (reply : Reply) (p : JobProgress) : Transaction JobOutcome := fun s =>
  match p with
  | .done outcome => .ok (outcome, s)
  | .thinking turn => do
    let (stage, s) ← commit now turn reply s
    return (.advanced stage, s)

def run (c : JobContext) (now : Instant) (reply : Reply) (j : Job) : Transaction JobOutcome :=
  fun s => do
    let (p, s) ← j.start c now s
    resume now reply p s

end Job

end ImitationGame
