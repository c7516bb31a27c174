import ImitationGame.Store.Write

namespace ImitationGame.Game

def member (g : Game) (player : Int) : Except Fault Bot :=
  match g.botOf? player with
  | some b => .ok b
  | none => .error (.refused (.notAMember player g.id))

end ImitationGame.Game
