import ImitationGame.Game.View
import ImitationGame.Store.Basic

namespace ImitationGame.Play

def watch (game : Int) (viewer : Option Int) : Transaction GameView := fun s => do
  let g ← s.load game
  let messages ← s.messagesOf game
  return (g.view messages viewer, s)

end ImitationGame.Play
