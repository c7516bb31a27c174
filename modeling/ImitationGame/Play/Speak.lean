import ImitationGame.Game.Order
import ImitationGame.Play.Member
import ImitationGame.Text.Hygiene

namespace ImitationGame.Play

/-- Where nobody is named to be asked, the bot's next target is; out of turn the bot names itself,
which no rule accepts. -/
def utterance (s : Store) (g : Game) (source : Int) (text : String) (target : Option Int) :
    Except Refusal Utterance :=
  match g.stage.awaited with
  | some .answer => .ok (.answer source text)
  | some .question =>
    match target with
    | some t => .ok (.question source t text)
    | none => (g.nextTarget source (s.questionsBy g.id source)).map (.question source · text)
  | none => .ok (.question source (target.getD source) text)

def record (now : Instant) (g : Game) (u : Utterance) (s : Store) :
    Except Fault (Change × Message × Store) := do
  let change ← Refusal.lift (g.advance u)
  let s ← s.update now g.id change
  let (message, s) ← s.append now g.id u
  return (change, message, s)

def speak (now : Instant) (game player : Int) (text : String) (target : Option Int) :
    Transaction Message := fun s => do
  let g ← s.load game
  let source ← g.member player
  let u ← Refusal.lift (utterance s g source.id text target)
  let (_, message, s) ← record now g u s
  return (message, s)

def send (now : Instant) (game player : Int) (raw : String) (target : Option Int) :
    Transaction Message := fun s => do
  let text ← Refusal.lift (Text.acceptMessage raw)
  speak now game player text target s

end ImitationGame.Play
