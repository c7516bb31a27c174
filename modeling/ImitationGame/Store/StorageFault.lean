import ImitationGame.Error.Kind
import ImitationGame.Game.Stage
import ImitationGame.Json.Datum
import ImitationGame.Text.Blank
import ImitationGame.Text.Numeral
import ImitationGame.Text.Search

/-! Faults of the storage engine, and the errors they mean. Free text of the engine is searched for
marks, but never handed on; only the sentinels of the store speak for themselves. -/

namespace ImitationGame

inductive StorageFault where
  | custom (text : String)
  | recordNotFound (text : String)
  | acquireTimeout
  | acquireClosed
  | connection (text : String)
  | execution (text : String)
  | query (text : String)
  | wordConversion (type : String)
  | type (text : String)
  | json (text : String)
  | conversion (text : String)
  | migration (text : String)
  | attributeNotSet (text : String)
  | unpackInsertId
  | updateGetKey
  | notInserted
  | notUpdated
deriving DecidableEq, Repr

namespace StorageFault

def display : StorageFault → String
  | custom t => "Custom Error: " ++ t
  | recordNotFound t => "RecordNotFound Error: " ++ t
  | acquireTimeout => "Failed to acquire connection from pool: Connection pool timed out"
  | acquireClosed => "Failed to acquire connection from pool: Connection closed"
  | connection t => "Connection Error: " ++ t
  | execution t => "Execution Error: " ++ t
  | query t => "Query Error: " ++ t
  | wordConversion t => "Type '" ++ t ++ "' cannot be converted from u64"
  | type t => "Type Error: " ++ t
  | json t => "Json Error: " ++ t
  | conversion t => "Error converting `a` into `b`: " ++ t
  | migration t => "Migration Error: " ++ t
  | attributeNotSet t => "Attribute " ++ t ++ " is NotSet"
  | unpackInsertId => "Failed to unpack last_insert_id"
  | updateGetKey => "Failed to get primary key from model"
  | notInserted => "None of the records are inserted"
  | notUpdated => "None of the records are updated"

end StorageFault

inductive Sentinel where
  | gameMissing (game : Int)
  | moved (game : Int) (expected actual : Stage) (turn : Int) (handled : Bool)
  | manyRows (game : Int) (rows : Nat)
  | botNotAi (bot : Int)
  | helpExhausted (bot : Int)
deriving DecidableEq, Repr

namespace Sentinel

def markMissing : String := "GAME_NOT_FOUND:"
def markMoved : String := "STATE_MISMATCH:"
def markInvariant : String := "INVARIANT_VIOLATION:"
def markNotAi : String := "BOT_NOT_AI:"
def markExhausted : String := "HELP_EXHAUSTED:"

def text : Sentinel → String
  | gameMissing g => markMissing ++ toString g
  | moved g expected actual turn handled =>
    markMoved ++ "\x7b\"game_id\":" ++ toString g ++ ",\"expected\":\"" ++ expected.name ++
      "\",\"actual\":\"" ++ actual.name ++ "\",\"turn_index\":" ++ toString turn ++
      ",\"handled\":" ++ toString handled ++ "\x7d"
  | manyRows g n => markInvariant ++ "game " ++ toString g ++ " update affected " ++ toString n ++
      " rows"
  | botNotAi b => markNotAi ++ toString b
  | helpExhausted b => markExhausted ++ toString b

def fault (s : Sentinel) : StorageFault := .custom s.text

def movedPayload : Json.Reader Json.Datum :=
  .record [.required "game_id" .int, .required "expected" .text, .required "actual" .text]

def movedError (payload : List Char) : DomainError :=
  match movedPayload.whole (String.ofList payload).toUTF8.data.toList with
  | .ok (.record [.int g, .text expected, .text actual]) =>
    .conflict .stateMismatch s!"Game {g} is in {actual} but {expected} was expected"
  | _ => .conflict .stateMismatch "Game state changed"

def missingError (payload : List Char) : DomainError :=
  match Text.Numeral.long? payload with
  | some g => .missing .game s!"Game {g} not found"
  | none => .missing .game "Game not found"

def invariantError (text : List Char) : DomainError :=
  .failure .invariant
    (String.ofList (Text.Search.dropAll markInvariant.toList text.length text))

def error? (text : List Char) : Option DomainError :=
  let after? (mark : String) := Text.Search.after? mark.toList text
  if let some payload := after? markMissing then some (missingError payload)
  else if let some payload := after? markMoved then some (movedError payload)
  else if (after? markInvariant).isSome then some (invariantError text)
  else if (after? markNotAi).isSome then
    some (.conflict .noFreeSeat "Bot was already claimed")
  else if (after? markExhausted).isSome then
    some (.conflict .helpExhausted "No help left")
  else none

end Sentinel

namespace StorageFault

open Text.Search

def uniqueMark : String := "UNIQUE constraint failed"

def isSeparator (c : Char) : Bool := Text.Blank.isBlank c || c == ',' || c == '"'

def firstColumn? (shown : String) : Option String :=
  (find? (uniqueMark ++ ": ").toList shown.toList).bind fun rest =>
    match (rest.dropWhile isSeparator).takeWhile fun c => !isSeparator c with
    | [] => none
    | cs => some (String.ofList cs)

def breaksUnique (shown : String) : Bool :=
  contains "23505" shown || contains "duplicate key value violates unique constraint" shown ||
    contains uniqueMark shown

def breaksSeat (shown : String) : Bool :=
  contains "ux_bots_game_seat" shown || firstColumn? shown == some "bots.game_id"

/-- The error behind the engine's own text; earlier marks win over later ones. -/
def errorOfText (shown : String) : DomainError :=
  if breaksUnique shown then
    .conflict (.other "Unique")
      (if breaksSeat shown then "Seat already exists in this game"
        else "Unique constraint violation")
  else if contains "23503" shown || contains "FOREIGN KEY constraint failed" shown then
    .invalidOther "Foreign key constraint violation"
  else if contains "23514" shown then .invalidOther "Check constraint violation"
  else if contains "timeout" shown || contains "timed out" shown then
    .failure .timeout "Database timeout"
  else .failure (.other "DbErr") "Database operation failed"

def error (f : StorageFault) : DomainError :=
  match f with
  | custom t => (Sentinel.error? t.toList).getD (errorOfText f.display)
  | recordNotFound _ => .missing (.other "Record") "Record not found"
  | acquireTimeout | acquireClosed | connection _ => .failure .unavailable "Database unavailable"
  | type _ | conversion _ | json _ => .failure .corruption "Stored data failed to decode"
  | _ => errorOfText f.display

end StorageFault

end ImitationGame
