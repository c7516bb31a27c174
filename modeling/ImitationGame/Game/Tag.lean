import ImitationGame.Game.Transition

namespace ImitationGame

structure TagOutcome where
  change : Change
  winner : Int
  taggerWon : Bool
  narrative : String
deriving DecidableEq, Repr

namespace Game

def verdict (tagger accused : Bot) : Int × Bool × String :=
  match accused.driver with
  | .ai => (tagger.id, true, tagger.name ++ " tagged " ++ accused.name ++ " and won")
  | .human => (accused.id, false, tagger.name ++ " tagged " ++ accused.name ++
      ", a human, and lost; " ++ accused.name ++ " wins")

def tag (g : Game) (tagger accused : Int) : Except Refusal TagOutcome := do
  if g.stage = .finished then throw (.alreadyTagged g.id)
  match ← g.acting with
  | none => throw (.nobodyDue g.id g.stage)
  | some due =>
    let t ← g.bot tagger
    if t.id ≠ due then throw (.notDueToTag tagger)
    if accused = tagger then throw .tagsItself
    let a ← g.bot accused
    let (winner, taggerWon, narrative) := verdict t a
    return {
      change := { g.enter .finished g.turn with result := some narrative, winner := some winner }
      winner, taggerWon, narrative }

end Game

end ImitationGame
