import ImitationGame.Job.Run
import ImitationGame.Settings.Environment

namespace ImitationGame

/-- Bounds, in milliseconds, of the delay after a generated reply. -/
structure Pacing where
  shortest : Nat
  longest : Nat
deriving DecidableEq, Repr

structure ServerSettings where
  host : String := "127.0.0.1"
  port : Nat := 3001
  /-- Milliseconds between two sweeps. -/
  sweepInterval : Nat := 1000
  workers : Nat := 4
  queueCapacity : Nat := 256
  expiry : Expiry := ⟨3600, 60⟩
  pacing : Pacing := ⟨1500, 4000⟩
deriving DecidableEq, Repr

namespace ServerSettings

def standard : ServerSettings := {}

def ofEnvironment (e : Environment) : Except SettingFault ServerSettings := do
  let workers ← e.positiveOr "JOB_WORKERS" standard.workers
  let queueCapacity ← e.positiveOr "JOB_QUEUE_CAPACITY" standard.queueCapacity
  let shortest ← e.wordOr 64 "AI_PACING_MIN_MS" standard.pacing.shortest
  let longest ← e.wordOr 64 "AI_PACING_MAX_MS" standard.pacing.longest
  if longest < shortest then throw (.pacingReversed shortest longest)
  let maxAge ← e.longOr "GAME_MAX_AGE_SECS" standard.expiry.maxAge
  let idleGrace ← e.longOr "GAME_IDLE_GRACE_SECS" standard.expiry.idleGrace
  let interval ← e.wordOr 64 "RECONCILE_INTERVAL_MS" standard.sweepInterval
  let host := e.textOr "BACKEND_HOST" standard.host
  let port ← e.wordOr 16 "BACKEND_PORT" standard.port
  return { host, port, sweepInterval := max interval 1, workers, queueCapacity
           expiry := ⟨maxAge, idleGrace⟩, pacing := ⟨shortest, longest⟩ }

end ServerSettings

end ImitationGame
