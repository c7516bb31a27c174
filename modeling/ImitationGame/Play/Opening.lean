import ImitationGame.Game.Names
import ImitationGame.Store.Write

namespace ImitationGame.Play

/-- Seats are stored in 16 bits with sign, and wrap. -/
def storedSeat (n : Nat) : Int := Int.bmod n (Nat.pow 2 16)

def seatAll (now : Instant) (game : Int) :
    Nat → List String → Store → Except Fault (List BotRow × Store)
  | _, [], s => .ok ([], s)
  | seat, name :: names, s => do
    let (bot, s) ← s.addBot now game (storedSeat seat) name Game.initialHelp
    let (bots, s) ← seatAll now game (seat + 1) names s
    return (bot :: bots, s)

def openDated (now : Instant) (names : List String) : Transaction DatedGame := fun s => do
  if names.isEmpty then throw (.refused .noNames)
  let (row, s) ← s.addGame now
  let (bots, s) ← seatAll now row.id 0 names s
  let (row, s) ← s.setOrder row.id (bots.map BotRow.id)
  return (← DatedGame.ofRows row bots, s)

def openNamed (now : Instant) (names : List String) : Transaction Game := fun s => do
  let (dated, s) ← openDated now names s
  return (dated.game, s)

def openGame (now : Instant) (names : Random.Stream) : Transaction Game :=
  openNamed now (Names.pick Game.standardSize names).1

end ImitationGame.Play
