import ImitationGame.Store.Write

namespace ImitationGame

structure Joined where
  bot : Int
  already : Bool
deriving DecidableEq, Repr

namespace Game

def requireRecruiting (g : Game) : Except Refusal Unit :=
  match g.stage with
  | .started => .ok ()
  | .finished => .error (.finished g.id)
  | _ => .error (.notRecruiting g.id g.stage)

end Game

namespace Play

def join (now : Instant) (game player : Int) : Transaction Joined := fun s => do
  let g ← s.load game
  match g.botOf? player with
  | some b => return (⟨b.id, true⟩, s)
  | none =>
    Refusal.lift g.requireRecruiting
    let _ ← s.requirePlayer player
    match g.firstAi? with
    | none => throw (.refused (.noAiLeft game))
    | some b =>
      let s ← s.claim b.id player
      match (g.claim b.id player).quorum with
      | none => return (⟨b.id, false⟩, s)
      | some c => return (⟨b.id, false⟩, ← s.update now game c)

end Play

end ImitationGame
