import ImitationGame.Game.Prompt
import ImitationGame.Text.Hygiene

namespace ImitationGame

inductive ChatFault where
  | timeout
  | transport (reason : String)
  | status (code : Nat)
  | malformed (reason : String)
  | disabled
deriving DecidableEq, Repr

def ChatFault.message : ChatFault → String
  | timeout => "AI request timed out"
  | transport reason => "AI transport error: " ++ reason
  | status code => s!"AI returned status {code}"
  | malformed reason => "AI response malformed: " ++ reason
  | disabled => "AI is not configured"

abbrev Reply := Except ChatFault String

def Reply.usable (kind : MessageKind) : Reply → String
  | .ok raw => (Text.clean raw).getD kind.canned
  | .error _ => kind.canned

end ImitationGame
