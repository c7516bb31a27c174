import ImitationGame.Chat.Reply
import ImitationGame.Play.Member

/-! Hints: a player whose move is awaited may have it suggested, a few times. The hint is spent
before the generator is asked. -/

namespace ImitationGame

structure HintRequest where
  kind : MessageKind
  remaining : Int
  prompt : String
deriving DecidableEq, Repr

structure Hint where
  kind : MessageKind
  text : String
  remaining : Int
deriving DecidableEq, Repr

def HintRequest.fill (r : HintRequest) (reply : Reply) : Hint :=
  ⟨r.kind, reply.usable r.kind, r.remaining⟩

namespace Play

def requestHint (game player : Int) : Transaction HintRequest := fun s => do
  let g ← s.load game
  let bot ← g.member player
  if g.stage = .finished then throw (.refused (.finished game))
  if (← Refusal.lift g.acting) ≠ some bot.id then throw (.refused (.notDueToAct bot.id))
  if bot.help ≤ 0 then throw (.refused (.noHelpLeft bot.id))
  let s ← s.spendHelp bot.id
  let kind := if g.stage.awaitsAnswer then .answer else .question
  let messages ← s.messagesOf game
  return (⟨kind, bot.help - 1, Prompt.help g bot kind messages⟩, s)

def hint (game player : Int) (reply : Reply) : Transaction Hint := fun s => do
  let (request, s) ← requestHint game player s
  return (request.fill reply, s)

end Play

end ImitationGame
