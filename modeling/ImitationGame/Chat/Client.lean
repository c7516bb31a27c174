import ImitationGame.Chat.Reply
import ImitationGame.Json.Datum
import ImitationGame.Settings.Chat

namespace ImitationGame.Chat

structure Completion where
  url : String
  authorization : String
  model : String
  prompt : String
deriving DecidableEq, Repr

def maxTokens : Nat := 120

def temperature : Double := .ofRatio false 9 10

namespace Completion

def make (c : ChatSettings) (key prompt : String) : Completion where
  url := withoutSlashes c.baseUrl ++ "/chat/completions"
  authorization := "Bearer " ++ key
  model := c.model
  prompt

def body (c : Completion) : String :=
  Json.render (.object [("model", .text c.model),
    ("messages", .list [.object [("role", .text "user"), ("content", .text c.prompt)]]),
    ("max_tokens", .int maxTokens), ("temperature", .real temperature)])

end Completion

inductive Exchange where
  | unreachable
  | dropped
  | silent
  | answered (status : Nat) (body : List UInt8)
deriving DecidableEq, Repr

def shape : Json.Reader Json.Datum :=
  let message := Json.Reader.record [.optional "content" (.optional .text)]
  .record [.required "choices" (.list (.record [.required "message" message]))]

def content (body : List UInt8) : Reply :=
  match shape.whole body with
  | .ok (.record [.list (.record [.record [.text t]] :: _)]) => .ok t
  | .ok _ => .error (.malformed "no choices in response")
  | .error _ => .error (.malformed "error decoding response body")

def Exchange.reply : Exchange → Reply
  | unreachable | dropped => .error (.transport "error sending request")
  | silent => .error .timeout
  | answered status body =>
    if 200 ≤ status ∧ status < 300 then content body else .error (.status status)

def ask (c : ChatSettings) (prompt : String) (send : Completion → Exchange) : Reply :=
  match c.key with
  | none => .error .disabled
  | some key => (send (.make c key prompt)).reply

end ImitationGame.Chat
