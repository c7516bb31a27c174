import ImitationGame.Game.Basic

namespace ImitationGame

/-- A game's row after a transition, together with what the row must still hold before it. -/
structure Change where
  fromStage : Stage
  fromTurn : Nat
  fromHandled : Bool
  stage : Stage
  turn : Nat
  order : Option (List Int)
  handled : Bool
  budget : Int
  question : Option String
  target : Option Int
  result : Option String
  winner : Option Int
deriving DecidableEq, Repr

namespace Game

def enter (g : Game) (stage : Stage) (turn : Nat) : Change where
  fromStage := g.stage
  fromTurn := g.turn
  fromHandled := g.handled
  stage
  turn
  order := none
  handled := !stage.needsSystem
  budget := stage.budget
  question := none
  target := none
  result := none
  winner := none

def apply (g : Game) (c : Change) : Game :=
  { g with
    stage := c.stage
    turn := c.turn
    order := c.order.getD g.order
    handled := c.handled
    budget := c.budget
    question := c.question
    target := c.target
    result := c.result
    winner := c.winner }

/-- The turn after another, around a table of the given size. Turns are counted in 64 bits. -/
def nextTurn (turn size : Nat) : Nat := if size = 0 then 0 else (turn + 1) % Nat.pow 2 64 % size

def requireTurns (g : Game) : Except Refusal Unit :=
  match g.stage with
  | .finished => .error (.finished g.id)
  | .started | .joined => .error (.notStarted g.id g.stage)
  | .awaiting _ _ => .ok ()

def ask (g : Game) (source target : Bot) (text : String) : Except Refusal Change := do
  if !g.stage.awaitsQuestion then throw (.awaitsAnswer g.id)
  if source.id ≠ (← g.turnBot) then throw (.notDueToAsk source.id)
  if source.id = target.id then throw .questionsItself
  return { g.enter (.answerFor target.driver) g.turn with
    question := some text, target := some target.id }

def reply (g : Game) (source target : Bot) : Except Refusal Change := do
  if !g.stage.awaitsAnswer then throw (.awaitsQuestion g.id)
  if source.id ≠ target.id then throw .answerMisaddressed
  if g.target ≠ some source.id then throw (.notAsked source.id)
  let turn := nextTurn g.turn g.order.length
  match g.order[turn]? with
  | none => throw (.crash .emptyList)
  | some b => return g.enter (.questionFor (← g.bot b).driver) turn

def advance (g : Game) (u : Utterance) : Except Refusal Change := do
  g.requireTurns
  let source ← g.bot u.source
  let target ← g.bot u.target
  match u.kind with
  | .question => g.ask source target u.text
  | .answer => g.reply source target

def quorum (g : Game) : Option Change :=
  if g.stage = .started ∧ quorumSize ≤ g.humans then some (g.enter .joined 0) else none

theorem nextTurn_lt {turn size : Nat} (h : 0 < size) : nextTurn turn size < size := by
  simp [nextTurn, Nat.ne_of_gt h, Nat.mod_lt _ h]

theorem nextTurn_eq {turn size : Nat} (h : 0 < size) (ht : turn + 1 < Nat.pow 2 64) :
    nextTurn turn size = (turn + 1) % size := by
  rw [nextTurn, if_neg (Nat.ne_of_gt h), Nat.mod_eq_of_lt ht]

end Game

end ImitationGame
