import ImitationGame.Chat.Reply
import ImitationGame.Play.Speak

/-! A turn of an AI, in two transactions: the first reads what the generator needs, the second
checks again that the turn is due, and records the reply. Between them anything may happen. -/

namespace ImitationGame

structure AiTurn where
  game : Int
  kind : MessageKind
  actor : Int
  /-- The bot addressed: another bot by a question, the actor itself by an answer. -/
  target : Int
  prompt : String
deriving DecidableEq, Repr

def AiTurn.stage (t : AiTurn) : Stage := .awaiting .ai t.kind

def AiTurn.utterance (t : AiTurn) (text : String) : Utterance := ⟨t.kind, t.actor, t.target, text⟩

def Game.requirePending (g : Game) (expected : Stage) : Except Refusal Unit :=
  if g.stage ≠ expected then .error (.notPending g.id g.stage expected)
  else if g.handled then .error (.alreadyHandled g.id expected)
  else .ok ()

namespace Play

def prepareQuestion (s : Store) (game : Int) : Except Fault AiTurn := do
  let g ← s.load game
  Refusal.lift (g.requirePending (.awaiting .ai .question))
  let actor ← Refusal.lift g.turnBot
  let target ← Refusal.lift (g.nextTarget actor (s.questionsBy game actor))
  let messages ← s.messagesOf game
  let me ← Refusal.lift (g.bot actor)
  let other ← Refusal.lift (g.bot target)
  return { game, kind := .question, actor, target, prompt := Prompt.question g me other messages }

def prepareAnswer (s : Store) (game : Int) : Except Fault AiTurn := do
  let g ← s.load game
  Refusal.lift (g.requirePending (.awaiting .ai .answer))
  match g.target, g.question with
  | some actor, some asked =>
    let messages ← s.messagesOf game
    let me ← Refusal.lift (g.bot actor)
    return { game, kind := .answer, actor, target := actor
             prompt := Prompt.answer g me asked messages }
  | _, _ => throw (.refused (.corrupt (.noQuestion game)))

def prepare (s : Store) (game : Int) : MessageKind → Except Fault AiTurn
  | .question => prepareQuestion s game
  | .answer => prepareAnswer s game

def commit (now : Instant) (t : AiTurn) (reply : Reply) : Transaction Stage := fun s => do
  let g ← s.load t.game
  Refusal.lift (g.requirePending t.stage)
  if (← Refusal.lift g.acting) ≠ some t.actor then
    throw (.refused (.noLongerDue t.actor t.game))
  let (change, _, s) ← record now g (t.utterance (reply.usable t.kind)) s
  return (change.stage, s)

end Play

end ImitationGame
