import ImitationGame.Error.Code
import ImitationGame.Error.Kind
import ImitationGame.Json.Value

namespace ImitationGame

inductive ProblemClass where
  | invalid | database | notFound | badRequest | internal | configuration | conflict
  | unavailable | timeout
deriving DecidableEq, Repr

structure Problem where
  cls : ProblemClass
  code : ErrorCode
  detail : String
deriving DecidableEq, Repr

namespace ProblemClass

def status : ProblemClass → Nat
  | invalid => 422
  | notFound => 404
  | badRequest => 400
  | conflict => 409
  | unavailable => 503
  | timeout => 504
  | database | internal | configuration => 500

def heading : ProblemClass → String
  | invalid => "Validation error"
  | database => "Database error"
  | notFound => "Not found"
  | badRequest => "Bad request"
  | internal => "Internal error"
  | configuration => "Configuration error"
  | conflict => "Conflict"
  | unavailable => "Database unavailable"
  | timeout => "Timeout"

end ProblemClass

namespace Problem

def invalid (code : ErrorCode) (detail : String) : Problem := ⟨.invalid, code, detail⟩
def notFound (code : ErrorCode) (detail : String) : Problem := ⟨.notFound, code, detail⟩
def badRequest (code : ErrorCode) (detail : String) : Problem := ⟨.badRequest, code, detail⟩
def conflict (code : ErrorCode) (detail : String) : Problem := ⟨.conflict, code, detail⟩
def internalWith (code : ErrorCode) (detail : String) : Problem := ⟨.internal, code, detail⟩
def internal (detail : String) : Problem := internalWith .internal detail
def database (detail : String) : Problem := ⟨.database, .dbError, detail⟩
def configuration (detail : String) : Problem := ⟨.configuration, .configError, detail⟩
def timeout (detail : String) : Problem := ⟨.timeout, .dbTimeout, detail⟩
def unavailable : Problem := ⟨.unavailable, .dbUnavailable, "Database unavailable"⟩

def status (p : Problem) : Nat := p.cls.status

def display (p : Problem) : String :=
  if p.cls = .unavailable then p.cls.heading else p.cls.heading ++ ": " ++ p.detail

def contentType : String := "application/problem+json"

def document (p : Problem) : Json :=
  .object [("type", .text ("https://turing-tag.app/errors/" ++ p.code.text)),
    ("title", .text p.code.title), ("status", .int p.status), ("detail", .text p.detail),
    ("code", .text p.code.text)]

end Problem

def Invalid.code : Invalid → ErrorCode
  | gameId => .invalidGameId
  | playerId => .invalidPlayerId
  | state => .invalidState
  | emptyText => .emptyText
  | textTooLong => .textTooLong
  | displayName => .invalidDisplayName
  | selfTarget => .selfTarget
  | unknownBot => .unknownBot
  | other _ => .validationError

def Conflict.code : Conflict → ErrorCode
  | stateMismatch => .stateMismatch
  | alreadyHandled => .alreadyHandled
  | gameFinished => .gameFinished
  | noFreeSeat => .noFreeSeat
  | outOfTurn => .outOfTurn
  | notAMember => .notAMember
  | helpExhausted => .helpExhausted
  | kindMismatch => .kindMismatch
  | other tag => if tag = "Unique" then .uniqueViolation else .conflict

def Missing.code : Missing → ErrorCode
  | game => .gameNotFound
  | player => .playerNotFound
  | other _ => .notFound

def DomainError.problem (e : DomainError) : Problem :=
  match e.kind with
  | .invalid k => .invalid k.code e.detail
  | .conflict k => .conflict k.code e.detail
  | .missing k => .notFound k.code e.detail
  | .failure .unavailable => .unavailable
  | .failure .timeout => .timeout e.detail
  | .failure .corruption => .internalWith .dataCorruption e.detail
  | .failure .invariant => .internalWith .invariantViolation e.detail
  | .failure (.other _) => .database e.detail

end ImitationGame
