import ImitationGame.Game.Transition
import ImitationGame.Store.Basic

namespace ImitationGame

def storedTurnLimit : Nat := Nat.pow 2 31

namespace GameRow

def expects (id : Int) (c : Change) (r : GameRow) : Bool :=
  r.id == id && r.stage == some c.fromStage && r.turn == .int c.fromTurn &&
    r.handled == .ofFlag c.fromHandled

def write (now : Instant) (c : Change) (r : GameRow) : GameRow :=
  { r with
    stage := some c.stage
    turn := .int c.turn
    order := (c.order.map .list).getD r.order
    handled := .ofFlag c.handled
    handledAt := some (.instant now)
    budget := .int c.budget
    question := c.question
    target := c.target.map .int
    result := c.result
    winner := c.winner.map .int
    updatedAt := .instant now }

end GameRow

namespace Store

def addPlayer (s : Store) (now : Instant) (name : String) : Except Fault (PlayerRow × Store) := do
  let (row, players) ← Fault.tableFull.require
    (s.players.insert? fun id => ⟨id, name, .instant now⟩)
  return (row, { s with players })

def addGame (s : Store) (now : Instant) : Except Fault (GameRow × Store) := do
  let (row, games) ← Fault.tableFull.require <| s.games.insert? fun id =>
    { id, stage := some .started, order := .list [], turn := .int 0, handled := .ofFlag true
      handledAt := some (.instant now), budget := .int 0, question := none, target := none
      result := none, winner := none, createdAt := .instant now, updatedAt := .instant now }
  return (row, { s with games })

def addBot (s : Store) (now : Instant) (game seat : Int) (name : String) (help : Int) :
    Except Fault (BotRow × Store) := do
  let (row, bots) ← Fault.tableFull.require <| s.bots.insert? fun id =>
    { id, game, seat := .int seat, name, driver := some .ai, player := none, help := .int help
      createdAt := .instant now }
  if s.bots.rows.any fun b => b.game == game && b.seat.same (.int seat) then throw .seatTaken
  if (s.gameRow? game).isNone then throw .foreignKey
  return (row, { s with bots })

def setOrder (s : Store) (game : Int) (order : List Int) : Except Fault (GameRow × Store) := do
  let games := s.games.update (fun r => r.id == game) fun r => { r with order := .list order }
  let s := { s with games }
  match s.gameRow? game with
  | none => throw (.storage .notUpdated)
  | some row =>
    let _ ← row.read
    return (row, s)

def append (s : Store) (now : Instant) (game : Int) (u : Utterance) :
    Except Fault (Message × Store) := do
  let (row, messages) ← Fault.tableFull.require <| s.messages.insert? fun id =>
    { id, game, source := u.source, target := u.target, kind := some u.kind, text := u.text
      createdAt := .instant now }
  if (s.gameRow? game).isNone || (s.botRow? u.source).isNone || (s.botRow? u.target).isNone then
    throw .foreignKey
  return (← row.read, { s with messages })

def claim (s : Store) (bot player : Int) : Except Fault Store := do
  let hit := fun (r : BotRow) => r.id == bot && r.driver == some .ai
  if s.bots.count hit ≠ 1 then throw (.storage (Sentinel.botNotAi bot).fault)
  if (s.player? player).isNone then throw .foreignKey
  let bots := s.bots.update hit fun r => { r with driver := some .human, player := some player }
  return { s with bots }

def spendHelp (s : Store) (bot : Int) : Except Fault Store := do
  let hit := fun (r : BotRow) => r.id == bot && r.help.isPositive
  if s.bots.count hit ≠ 1 then throw (.storage (Sentinel.helpExhausted bot).fault)
  let bots := s.bots.update hit fun r => { r with help := r.help.pred }
  return { s with bots }

def requireRecord (s : Store) (game : Int) : Except Fault GameRecord :=
  match s.gameRow? game with
  | none => .error (.storage (Sentinel.gameMissing game).fault)
  | some row => row.read

def update (s : Store) (now : Instant) (game : Int) (c : Change) : Except Fault Store := do
  if storedTurnLimit ≤ c.turn then throw (.refused (.turnDoesNotFit c.turn))
  if storedTurnLimit ≤ c.fromTurn then throw (.refused (.turnDoesNotFit c.fromTurn))
  match s.games.count (GameRow.expects game c) with
  | 0 =>
    let r ← s.requireRecord game
    throw (.storage (Sentinel.moved game c.fromStage r.stage r.turn r.handled).fault)
  | 1 =>
    let s := { s with games := s.games.update (GameRow.expects game c) (GameRow.write now c) }
    let _ ← s.requireRecord game
    return s
  | n => throw (.storage (Sentinel.manyRows game n).fault)

def delete (s : Store) (game : Int) : Except Fault Store := do
  let own := (s.bots.rows.filter fun b => b.game == game).map BotRow.id
  let messages := s.messages.delete fun m =>
    m.game == game || own.contains m.source || own.contains m.target
  let bots := s.bots.delete fun b => b.game == game
  if (s.gameRow? game).isNone then throw (.refused (.gameMissing game))
  let games := s.games.delete fun g => g.id == game
  return { s with games, bots, messages }

end Store

end ImitationGame
