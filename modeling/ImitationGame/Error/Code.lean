namespace ImitationGame

inductive ErrorCode where
  | invalidGameId | invalidPlayerId | invalidState | emptyText | textTooLong | invalidDisplayName
  | selfTarget | unknownBot | validationError | badRequest
  | gameNotFound | playerNotFound | notFound
  | stateMismatch | alreadyHandled | gameFinished | noFreeSeat | outOfTurn | notAMember
  | helpExhausted | kindMismatch | uniqueViolation | conflict
  | dbError | dbUnavailable | dbTimeout | internal | configError | dataCorruption
  | invariantViolation
deriving DecidableEq, Repr

namespace ErrorCode

def words : ErrorCode → List String
  | invalidGameId => ["invalid", "game", "id"]
  | invalidPlayerId => ["invalid", "player", "id"]
  | invalidState => ["invalid", "state"]
  | emptyText => ["empty", "text"]
  | textTooLong => ["text", "too", "long"]
  | invalidDisplayName => ["invalid", "display", "name"]
  | selfTarget => ["self", "target"]
  | unknownBot => ["unknown", "bot"]
  | validationError => ["validation", "error"]
  | badRequest => ["bad", "request"]
  | gameNotFound => ["game", "not", "found"]
  | playerNotFound => ["player", "not", "found"]
  | notFound => ["not", "found"]
  | stateMismatch => ["state", "mismatch"]
  | alreadyHandled => ["already", "handled"]
  | gameFinished => ["game", "finished"]
  | noFreeSeat => ["no", "free", "seat"]
  | outOfTurn => ["out", "of", "turn"]
  | notAMember => ["not", "a", "member"]
  | helpExhausted => ["help", "exhausted"]
  | kindMismatch => ["kind", "mismatch"]
  | uniqueViolation => ["unique", "violation"]
  | conflict => ["conflict"]
  | dbError => ["db", "error"]
  | dbUnavailable => ["db", "unavailable"]
  | dbTimeout => ["db", "timeout"]
  | internal => ["internal"]
  | configError => ["config", "error"]
  | dataCorruption => ["data", "corruption"]
  | invariantViolation => ["invariant", "violation"]

def all : List ErrorCode :=
  [invalidGameId, invalidPlayerId, invalidState, emptyText, textTooLong, invalidDisplayName,
    selfTarget, unknownBot, validationError, badRequest, gameNotFound, playerNotFound, notFound,
    stateMismatch, alreadyHandled, gameFinished, noFreeSeat, outOfTurn, notAMember, helpExhausted,
    kindMismatch, uniqueViolation, conflict, dbError, dbUnavailable, dbTimeout, internal,
    configError, dataCorruption, invariantViolation]

def text (c : ErrorCode) : String := "_".intercalate (c.words.map String.toUpper)

def title (c : ErrorCode) : String := " ".intercalate (c.words.map String.capitalize)

def ofText? (s : String) : Option ErrorCode := all.find? fun c => c.text == s

end ErrorCode

end ImitationGame
