import ImitationGame.Http.Request
import ImitationGame.Http.Response
import ImitationGame.Http.Route
import ImitationGame.Play.Accuse
import ImitationGame.Play.Hint
import ImitationGame.Play.Join
import ImitationGame.Play.Opening
import ImitationGame.Play.Register
import ImitationGame.Play.Speak
import ImitationGame.Play.Watch
import ImitationGame.Store.Database

/-! The service: every request is answered from the database. A request for a hint is answered in
two parts, since the generator is asked once the hint is paid for. -/

namespace ImitationGame.Http

inductive Served where
  | done (response : Response)
  | asking (request : HintRequest)

namespace Document

def hint (h : Hint) : Json :=
  .object [("kind", .text h.kind.text), ("text", .text h.text),
    ("help_remaining", .int h.remaining)]

def player (p : Player) : Except TimeFault Json := do
  let time ← p.createdAt.rfc3339
  return .object [("id", .int p.id), ("display_name", .text p.name), ("created_at", .text time)]

def joined (j : Joined) : Json :=
  .object [("bot_id", .int j.bot), ("already_joined", .bool j.already)]

def outcome (o : TagOutcome) : Json :=
  .object [("winning_bot_id", .int o.winner), ("tagger_won", .bool o.taggerWon),
    ("result", .text o.narrative)]

end Document

def Served.finish (reply : Reply) : Served → Response
  | done response => response
  | asking request => .ok (Document.hint (request.fill reply))

def version : String := "0.1.0"

def health (now : Instant) (db : Database) : Response :=
  let time := match (Stamp.utc now).rfc3339 with
    | .ok t => t
    | .error _ => "unknown"
  .ok (.object [("status", .text "ok"), ("app_version", .text version), ("db", .text "ok"),
    ("migrations_applied", .int db.applied), ("time", .text time)])

def respond {α : Type} (db : Database) (t : Transaction α) (answer : α → Response) :
    Served × Database :=
  match db.run t with
  | (.ok a, db) => (.done (answer a), db)
  | (.error f, db) => (.done (.ofProblem f.problem), db)

def refuse (db : Database) (p : Problem) : Served × Database := (.done (.ofProblem p), db)

def serveGame (now : Instant) (r : Request) (db : Database) (game : Int) :
    GameAction → Served × Database
  | .show =>
    match r.caller? with
    | .error p => refuse db p
    | .ok viewer => respond db (Play.watch game viewer) fun v => .ofTimed 200 v.json
  | .join =>
    match r.caller with
    | .error p => refuse db p
    | .ok player => respond db (Play.join now game player) fun j => .ok (Document.joined j)
  | .accuse =>
    match do return (← r.caller, ← r.accused) with
    | .error p => refuse db p
    | .ok (player, accused) =>
      respond db (Play.accuse now game player accused) fun o => .ok (Document.outcome o)
  | .speak =>
    match do return (← r.caller, ← r.speech) with
    | .error p => refuse db p
    | .ok (player, text, target) =>
      respond db (Play.send now game player text target) fun m => .ofTimed 201 m.json
  | .hint =>
    match r.caller with
    | .error p => refuse db p
    | .ok player =>
      match db.run (Play.requestHint game player) with
      | (.ok request, db) => (.asking request, db)
      | (.error f, db) => refuse db f.problem

def serve (now : Instant) (names : Random.Stream) (r : Request) (db : Database) :
    Served × Database :=
  match Route.of? r.method r.target with
  | none => (.done .notFound, db)
  | some .health => (.done (health now db), db)
  | some .register =>
    match r.displayName with
    | .error p => refuse db p
    | .ok name => respond db (Play.register now name) fun p => .ofTimed 201 (Document.player p)
  | some .openGame =>
    respond db (Play.openGame now names) fun g => .ofTimed 201 (g.view [] none).json
  | some (.game raw action) =>
    match Request.gameId raw with
    | .error p => refuse db p
    | .ok game => serveGame now r db game action

end ImitationGame.Http
