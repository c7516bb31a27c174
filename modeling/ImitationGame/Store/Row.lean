import ImitationGame.Game.Basic
import ImitationGame.Store.Cell
import ImitationGame.Store.Fault
import ImitationGame.Store.Table
import ImitationGame.Store.Timestamp

/-! The rows of the tables, and the records that are read from them: cell by cell in the order of
the columns, the first that cannot be read being reported. -/

namespace ImitationGame

namespace Fault

def garbled : Fault := .storage (.type "unexpected value")

def garbledOrder (found : String) : Fault :=
  .storage (.query ("turn order does not decode: " ++ found))

def badNumber : Fault := .storage (.query "no number of the column's type")

def badTime (text : String) : Fault := .storage (.query ("invalid offset datetime: " ++ text))

def require {α : Type} (f : Fault) : Option α → Except Fault α
  | some a => .ok a
  | none => .error f

end Fault

def Cell.whole (bits : Nat) (c : Cell) : Except Fault Int := Fault.badNumber.require (c.whole? bits)

def Cell.flag (c : Cell) : Except Fault Bool := Fault.badNumber.require c.flag?

def Timestamp.read (t : Timestamp) : Except Fault Stamp :=
  (Fault.badTime (String.ofList t.chars)).require t.read?

structure PlayerRow where
  id : Int
  name : String
  createdAt : Timestamp
deriving DecidableEq, Repr

structure Player where
  id : Int
  name : String
  createdAt : Stamp
deriving DecidableEq, Repr

inductive OrderCell where
  | list (ids : List Int)
  | garbled (found : String)
deriving DecidableEq, Repr

def OrderCell.read : OrderCell → Except Fault (List Int)
  | list ids => .ok ids
  | garbled found => .error (.garbledOrder found)

/-- A cell that holds text is empty here when its text names no value. -/
structure GameRow where
  id : Int
  stage : Option Stage
  order : OrderCell
  turn : Cell
  handled : Cell
  handledAt : Option Timestamp
  budget : Cell
  question : Option String
  target : Option Cell
  result : Option String
  winner : Option Cell
  createdAt : Timestamp
  updatedAt : Timestamp
deriving DecidableEq, Repr

structure GameRecord where
  id : Int
  stage : Stage
  order : List Int
  turn : Int
  handled : Bool
  handledAt : Option Stamp
  budget : Int
  question : Option String
  target : Option Int
  result : Option String
  winner : Option Int
  createdAt : Stamp
  updatedAt : Stamp
deriving DecidableEq, Repr

structure BotRow where
  id : Int
  game : Int
  seat : Cell
  name : String
  driver : Option Driver
  player : Option Int
  help : Cell
  createdAt : Timestamp
deriving DecidableEq, Repr

structure BotRecord where
  id : Int
  seat : Int
  name : String
  driver : Driver
  player : Option Int
  help : Int
deriving DecidableEq, Repr

structure MessageRow where
  id : Int
  game : Int
  source : Int
  target : Int
  kind : Option MessageKind
  text : String
  createdAt : Timestamp
deriving DecidableEq, Repr

instance : Keyed PlayerRow := ⟨PlayerRow.id⟩
instance : Keyed GameRow := ⟨GameRow.id⟩
instance : Keyed BotRow := ⟨BotRow.id⟩
instance : Keyed MessageRow := ⟨MessageRow.id⟩

def PlayerRow.read (r : PlayerRow) : Except Fault Player := do
  return ⟨r.id, r.name, ← r.createdAt.read⟩

def GameRow.read (r : GameRow) : Except Fault GameRecord := do
  let stage ← Fault.garbled.require r.stage
  let order ← r.order.read
  let turn ← r.turn.whole 32
  let handled ← r.handled.flag
  let handledAt ← r.handledAt.mapM Timestamp.read
  let budget ← r.budget.whole 32
  let target ← r.target.mapM (Cell.whole 64)
  let winner ← r.winner.mapM (Cell.whole 64)
  let createdAt ← r.createdAt.read
  let updatedAt ← r.updatedAt.read
  return { id := r.id, stage, order, turn, handled, handledAt, budget, question := r.question
           target, result := r.result, winner, createdAt, updatedAt }

def BotRow.read (r : BotRow) : Except Fault BotRecord := do
  let seat ← r.seat.whole 16
  let driver ← Fault.garbled.require r.driver
  let help ← r.help.whole 32
  let _ ← r.createdAt.read
  return { id := r.id, seat, name := r.name, driver, player := r.player, help }

def MessageRow.read (r : MessageRow) : Except Fault Message := do
  let kind ← Fault.garbled.require r.kind
  let createdAt ← r.createdAt.read
  return { id := r.id, game := r.game, kind, source := r.source, target := r.target, text := r.text
           createdAt }

def BotRecord.bot (r : BotRecord) : Except Refusal Bot :=
  if 0 ≤ r.seat ∧ r.seat < 256 then
    .ok { id := r.id, seat := r.seat.toNat, name := r.name, driver := r.driver, player := r.player
          help := r.help }
  else .error (.corrupt (.badSeat r.id r.seat))

namespace Game

def assemble (record : GameRecord) (bots : List BotRecord) : Except Refusal Game := do
  if record.turn < 0 then throw (.corrupt (.negativeTurn record.id record.turn))
  let bots ← bots.mapM BotRecord.bot
  let game : Game :=
    { id := record.id, stage := record.stage, order := record.order, turn := record.turn.toNat
      handled := record.handled, handledAt := record.handledAt, budget := record.budget
      question := record.question, target := record.target, result := record.result
      winner := record.winner, bots }
  game.check
  return game

def ofRows (row : GameRow) (bots : List BotRow) : Except Fault Game := do
  let record ← row.read
  let bots ← bots.mapM BotRow.read
  Refusal.lift (assemble record bots)

end Game

structure DatedGame where
  game : Game
  createdAt : Stamp
  updatedAt : Stamp
deriving DecidableEq, Repr

namespace DatedGame

def assemble (record : GameRecord) (bots : List BotRecord) : Except Refusal DatedGame := do
  let game ← Game.assemble record bots
  return { game, createdAt := record.createdAt, updatedAt := record.updatedAt }

def ofRows (row : GameRow) (bots : List BotRow) : Except Fault DatedGame := do
  let record ← row.read
  let bots ← bots.mapM BotRow.read
  Refusal.lift (assemble record bots)

end DatedGame

end ImitationGame
