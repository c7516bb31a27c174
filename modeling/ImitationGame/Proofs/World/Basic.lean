import ImitationGame.Job.Run
import ImitationGame.Play.Accuse
import ImitationGame.Play.Hint
import ImitationGame.Play.Join
import ImitationGame.Play.Opening
import ImitationGame.Play.Register
import ImitationGame.Store.Database

/-! Runs of the system: transactions in any order and at any times, with turns of AIs under way
between their two transactions. -/

namespace ImitationGame

inductive Move where
  | register (name : String)
  | openNamed (names : List String)
  | openGame (names : Random.Stream)
  | join (game player : Int)
  | accuse (game player accused : Int)
  | send (game player : Int) (raw : String) (target : Option Int)
  | hint (game player : Int) (reply : Reply)
  /-- The first transaction of a job. -/
  | begin (context : JobContext) (job : Job)
  /-- The second transaction of a turn that is under way. -/
  | finish (turn : AiTurn) (reply : Reply)
  | abandon (turn : AiTurn)

def Move.game? : Move → Option Int
  | register _ | openNamed _ | openGame _ => none
  | join game _ | accuse game _ _ | send game _ _ _ | hint game _ _ => some game
  | begin _ job => some job.game
  | finish turn _ | abandon turn => some turn.game

def Store.after {α : Type} (s : Store) (t : Transaction α) : Store :=
  match t s with
  | .ok (_, s') => s'
  | .error _ => s

theorem Database.run_eq_after {α : Type} (s : Store) (t : Transaction α) :
    (run ⟨some s⟩ t).2 = ⟨some (s.after t)⟩ := by
  rw [run_created, Store.after]
  rcases t s with f | ⟨a, s'⟩ <;> rfl

structure World where
  store : Store
  turns : List AiTurn

namespace World

def fresh : World := ⟨.empty, []⟩

def transact {α : Type} (w : World) (t : Transaction α) : World :=
  { w with store := w.store.after t }

theorem store_transact {α : Type} {w : World} {t : Transaction α} {a : α} {s : Store}
    (h : t w.store = .ok (a, s)) : (w.transact t).store = s := by
  rw [transact, Store.after, h]

def begin (w : World) (now : Instant) (c : JobContext) (j : Job) : World :=
  match j.start c now w.store with
  | .ok (.thinking turn, s) => ⟨s, turn :: w.turns⟩
  | .ok (.done _, s) => { w with store := s }
  | .error _ => w

def finish (w : World) (now : Instant) (turn : AiTurn) (reply : Reply) : World :=
  if turn ∈ w.turns then ⟨w.store.after (Play.commit now turn reply), w.turns.erase turn⟩ else w

def step (w : World) (now : Instant) : Move → World
  | .register name => w.transact (Play.register now name)
  | .openNamed names => w.transact (Play.openNamed now names)
  | .openGame names => w.transact (Play.openGame now names)
  | .join game player => w.transact (Play.join now game player)
  | .accuse game player accused => w.transact (Play.accuse now game player accused)
  | .send game player raw target => w.transact (Play.send now game player raw target)
  | .hint game player reply => w.transact (Play.hint game player reply)
  | .begin c j => w.begin now c j
  | .finish turn reply => w.finish now turn reply
  | .abandon turn => { w with turns := w.turns.erase turn }

def runFrom (w : World) (moves : List (Instant × Move)) : World :=
  moves.foldl (fun w m => w.step m.1 m.2) w

def run (moves : List (Instant × Move)) : World := fresh.runFrom moves

def sample : List (Instant × Move) :=
  [(0, .register "Ann"), (1, .register "Ben"), (2, .openNamed ["Ada", "Bob", "Cy"]),
    (3, .join 1 1), (4, .join 1 2), (5, .begin ⟨.fixed 7, ⟨86400, 3600⟩⟩ ⟨.startAfterJoin, 1⟩),
    (6, .send 1 1 "Who?" none)]

def sampleTurn (moves : List (Instant × Move)) (kind : MessageKind) : AiTurn :=
  (Play.prepare (run moves).store 1 kind).toOption.getD ⟨1, kind, 0, 0, ""⟩

theorem exists_sample_row : ∃ r, (run sample).store.gameRow? 1 = some r :=
  Option.isSome_iff_exists.mp (by decide +kernel)

theorem sample_loads {g : Game} (h : (run sample).store.load 1 = .ok g) :
    g.stage = .awaiting .ai .answer ∧ g.bots.length = 3 := by
  have hs : (match (run sample).store.load 1 with
      | .ok g => some (g.stage, g.bots.length)
      | .error _ => none) = some (.awaiting .ai .answer, 3) := by decide +kernel
  rw [h] at hs
  exact Prod.mk.inj (Option.some.inj hs)

end World

end ImitationGame
