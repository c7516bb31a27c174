import ImitationGame.Game.Refusal
import ImitationGame.Time.Stamp

namespace ImitationGame

structure Bot where
  id : Int
  seat : Nat
  name : String
  driver : Driver
  player : Option Int
  help : Int
deriving DecidableEq, Repr

structure Game where
  id : Int
  stage : Stage
  order : List Int
  /-- The position in the order of the bot that asks, or asked last. -/
  turn : Nat
  /-- No job is pending for the stage. -/
  handled : Bool
  handledAt : Option Stamp
  /-- Seconds allowed in the stage. -/
  budget : Int
  question : Option String
  target : Option Int
  result : Option String
  winner : Option Int
  bots : List Bot
deriving DecidableEq, Repr

structure Utterance where
  kind : MessageKind
  source : Int
  target : Int
  text : String
deriving DecidableEq, Repr

structure Message where
  id : Int
  game : Int
  kind : MessageKind
  source : Int
  target : Int
  text : String
  createdAt : Stamp
deriving DecidableEq, Repr

namespace Utterance

def question (source target : Int) (text : String) : Utterance := ⟨.question, source, target, text⟩

def answer (source : Int) (text : String) : Utterance := ⟨.answer, source, source, text⟩

end Utterance

namespace Game

def standardSize : Nat := 5

def quorumSize : Nat := 2

def initialHelp : Int := 3

def ids (g : Game) : List Int := g.bots.map Bot.id

def find? (g : Game) (bot : Int) : Option Bot := g.bots.find? fun b => b.id == bot

def bot (g : Game) (bot : Int) : Except Refusal Bot :=
  match g.find? bot with
  | some b => .ok b
  | none => .error (.unknownBot bot g.id)

def botOf? (g : Game) (player : Int) : Option Bot :=
  g.bots.find? fun b => b.player == some player

def humans (g : Game) : Nat := g.bots.countP fun b => b.driver == .human

def lowest? : List Bot → Option Bot
  | [] => none
  | b :: bs =>
    match lowest? bs with
    | some c => if c.seat < b.seat then some c else some b
    | none => some b

def firstAi? (g : Game) : Option Bot := lowest? (g.bots.filter fun b => b.driver == .ai)

def turnBot (g : Game) : Except Refusal Int :=
  match g.order[g.turn]? with
  | some b => .ok b
  | none => .error (.corrupt (.turnOutsideOrder g.id g.turn g.order.length))

def acting (g : Game) : Except Refusal (Option Int) :=
  match g.stage.awaited with
  | some .question => g.turnBot.map some
  | some .answer =>
    match g.target with
    | some b => .ok (some b)
    | none => .error (.corrupt (.noTarget g.id))
  | none => .ok none

def orderFits (g : Game) : Bool :=
  decide g.order.Nodup && g.order.all (fun i => g.ids.contains i) &&
    g.ids.all (fun i => g.order.contains i)

def targetFits (g : Game) : Bool :=
  match g.target with
  | some b => g.ids.contains b
  | none => false

def check (g : Game) : Except Refusal Unit :=
  if g.bots.isEmpty then .error (.corrupt (.noBots g.id))
  else if g.order.isEmpty then .error (.corrupt (.emptyOrder g.id))
  else if g.order.length ≤ g.turn then .error (.corrupt (.turnOutOfBounds g.id g.turn))
  else if !g.orderFits then .error (.corrupt (.orderNotPermutation g.id))
  else if g.stage.awaitsAnswer && !g.targetFits then .error (.corrupt (.targetMissing g.id))
  else .ok ()

def claim (g : Game) (bot player : Int) : Game :=
  { g with bots := g.bots.map fun b =>
      if b.id = bot then { b with driver := .human, player := some player } else b }

structure WellFormed (g : Game) : Prop where
  bots_ne_nil : g.bots ≠ []
  turn_lt : g.turn < g.order.length
  order_perm : g.order.Perm g.ids
  target_mem : g.stage.awaitsAnswer = true → ∃ b, g.target = some b ∧ b ∈ g.ids

end Game

end ImitationGame
