import ImitationGame.Store.Write
import ImitationGame.Text.Hygiene

namespace ImitationGame.Play

def register (now : Instant) (name : String) : Transaction Player := fun s => do
  let name ← Refusal.lift (Text.acceptName name)
  let (row, s) ← s.addPlayer now name
  return (← row.read, s)

end ImitationGame.Play
