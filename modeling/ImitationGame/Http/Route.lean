import ImitationGame.Http.Path

namespace ImitationGame.Http

inductive GameAction where
  | show | join | accuse | speak | hint
deriving DecidableEq, Repr

inductive Route where
  | health
  | register
  | openGame
  | game (id : String) (action : GameAction)
deriving DecidableEq, Repr

namespace Route

def ofSegments? (method : String) (segments : List String) : Option Route :=
  match method, segments with
  | "GET", ["health"] => some health
  | "POST", ["api", "players"] => some register
  | "POST", ["api", "games"] => some openGame
  | "GET", ["api", "games", id] => named id .show
  | "POST", ["api", "games", id, "join"] => named id .join
  | "POST", ["api", "games", id, "tag"] => named id .accuse
  | "POST", ["api", "games", id, "messages"] => named id .speak
  | "POST", ["api", "games", id, "help"] => named id .hint
  | _, _ => none
where
  named (id : String) (action : GameAction) : Option Route :=
    if id = "" then none else some (game id action)

def of? (method target : String) : Option Route :=
  ((Path.ofTarget? target).bind Path.segments).bind (ofSegments? method)

end Route

end ImitationGame.Http
