import ImitationGame.Game.Tag
import ImitationGame.Play.Member

namespace ImitationGame.Play

def accuse (now : Instant) (game player accused : Int) : Transaction TagOutcome := fun s => do
  let g ← s.load game
  let tagger ← g.member player
  let outcome ← Refusal.lift (g.tag tagger.id accused)
  return (outcome, ← s.update now game outcome.change)

end ImitationGame.Play
