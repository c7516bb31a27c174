import ImitationGame.Game.Transition
import ImitationGame.Random.Shuffle

namespace ImitationGame.Game

def start (g : Game) (s : Random.Stream) : Except Refusal Change := do
  if g.stage ≠ .joined then throw (.cannotStart g.id g.stage)
  let order := (Random.Shuffle.downwards g.ids s).1
  match order.head? with
  | none => throw (.crash .emptyList)
  | some first =>
    let b ← g.bot first
    return { g.enter (.questionFor b.driver) 0 with order := some order }

def others (g : Game) (position : Nat) : List Int :=
  (List.range (g.order.length - 1)).filterMap fun k =>
    g.order[(position + 1 + k) % g.order.length]?

def nextTarget (g : Game) (source : Int) (asked : Nat) : Except Refusal Int := do
  let _ ← g.bot source
  match g.order.findIdx? (· == source) with
  | none => throw (.outsideOrder source)
  | some position =>
    let others := g.others position
    match others[asked % others.length]? with
    | some b => return b
    | none => throw .nobodyElse

end ImitationGame.Game
