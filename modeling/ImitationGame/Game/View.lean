import ImitationGame.Game.Basic
import ImitationGame.Json.Value

namespace ImitationGame

structure BotView where
  id : Int
  seat : Nat
  name : String
deriving DecidableEq, Repr

structure GameView where
  game : Int
  phase : Phase
  mine : Option Int
  myHelp : Option Int
  bots : List BotView
  order : List Int
  acting : Option Int
  question : Option String
  target : Option Int
  messages : List Message
  result : Option String
  winner : Option Int
  startedAt : Option Stamp
  budget : Int
deriving DecidableEq, Repr

namespace Game

/-- A game that does not say who is due shows nobody as due. -/
def view (g : Game) (messages : List Message) (viewer : Option Int) : GameView :=
  let mine := viewer.bind g.botOf?
  { game := g.id
    phase := g.stage.phase
    mine := mine.map Bot.id
    myHelp := mine.map Bot.help
    bots := g.bots.map fun b => ⟨b.id, b.seat, b.name⟩
    order := g.order
    acting := match g.acting with
      | .ok a => a
      | .error _ => none
    question := g.question
    target := g.target
    messages
    result := g.result
    winner := g.winner
    startedAt := g.handledAt
    budget := g.budget }

end Game

def BotView.json (b : BotView) : Json :=
  .object [("id", .int b.id), ("seat", .int b.seat), ("name", .text b.name)]

def Message.json (m : Message) : Except TimeFault Json := do
  let time ← m.createdAt.rfc3339
  return .object [("id", .int m.id), ("source_bot_id", .int m.source),
    ("target_bot_id", .int m.target), ("kind", .text m.kind.text), ("text", .text m.text),
    ("created_at", .text time)]

def GameView.json (v : GameView) : Except TimeFault Json := do
  let messages ← v.messages.mapM Message.json
  let startedAt ← v.startedAt.mapM Stamp.rfc3339
  return .object [("game_id", .int v.game), ("phase", .text v.phase.text),
    ("my_bot_id", .optionalInt v.mine), ("my_help_count", .optionalInt v.myHelp),
    ("bots", .list (v.bots.map BotView.json)), ("turn_order", .list (v.order.map .int)),
    ("acting_bot_id", .optionalInt v.acting), ("last_question", .optionalText v.question),
    ("last_question_target_bot_id", .optionalInt v.target), ("messages", .list messages),
    ("result", .optionalText v.result), ("winning_bot_id", .optionalInt v.winner),
    ("state_started_at", .optionalText startedAt), ("state_time_budget_secs", .int v.budget)]

end ImitationGame
