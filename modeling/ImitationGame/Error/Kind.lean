import ImitationGame.Text.Quoted

namespace ImitationGame

inductive Invalid where
  | gameId | playerId | state | emptyText | textTooLong | displayName | selfTarget | unknownBot
  | other (tag : String)
deriving DecidableEq, Repr

inductive Conflict where
  | stateMismatch | alreadyHandled | gameFinished | noFreeSeat | outOfTurn | notAMember
  | helpExhausted | kindMismatch
  | other (tag : String)
deriving DecidableEq, Repr

inductive Missing where
  | game | player
  | other (tag : String)
deriving DecidableEq, Repr

inductive Failure where
  | timeout | unavailable | corruption | invariant
  | other (tag : String)
deriving DecidableEq, Repr

inductive ErrorKind where
  | invalid (kind : Invalid)
  | conflict (kind : Conflict)
  | missing (kind : Missing)
  | failure (kind : Failure)
deriving DecidableEq, Repr

structure DomainError where
  kind : ErrorKind
  detail : String
deriving DecidableEq, Repr

def Invalid.label : Invalid → String
  | gameId => "InvalidGameId"
  | playerId => "InvalidPlayerId"
  | state => "InvalidState"
  | emptyText => "EmptyText"
  | textTooLong => "TextTooLong"
  | displayName => "InvalidDisplayName"
  | selfTarget => "SelfTarget"
  | unknownBot => "UnknownBot"
  | other _ => "Other"

def Conflict.label : Conflict → String
  | stateMismatch => "StateMismatch"
  | alreadyHandled => "AlreadyHandled"
  | gameFinished => "GameFinished"
  | noFreeSeat => "NoFreeSeat"
  | outOfTurn => "OutOfTurn"
  | notAMember => "NotAMember"
  | helpExhausted => "HelpExhausted"
  | kindMismatch => "KindMismatch"
  | other _ => "Other"

def Missing.label : Missing → String
  | game => "Game"
  | player => "Player"
  | other _ => "Other"

def Failure.label : Failure → String
  | timeout => "Timeout"
  | unavailable => "DbUnavailable"
  | corruption => "DataCorruption"
  | invariant => "InvariantViolation"
  | other _ => "Other"

def Invalid.ofLabel? (label tag : String) : Option Invalid :=
  [gameId, playerId, state, emptyText, textTooLong, displayName, selfTarget, unknownBot,
    other tag].find? fun k => k.label == label

def Conflict.ofLabel? (label tag : String) : Option Conflict :=
  [stateMismatch, alreadyHandled, gameFinished, noFreeSeat, outOfTurn, notAMember, helpExhausted,
    kindMismatch, other tag].find? fun k => k.label == label

def Missing.ofLabel? (label tag : String) : Option Missing :=
  [game, player, other tag].find? fun k => k.label == label

def Failure.ofLabel? (label tag : String) : Option Failure :=
  [timeout, unavailable, corruption, invariant, other tag].find? fun k => k.label == label

namespace ErrorKind

def className : ErrorKind → String
  | invalid _ => "validation"
  | conflict _ => "conflict"
  | missing _ => "not found"
  | failure _ => "infra"

def label : ErrorKind → String
  | invalid k => k.label
  | conflict k => k.label
  | missing k => k.label
  | failure k => k.label

def tag? : ErrorKind → Option String
  | invalid (.other t) | conflict (.other t) | missing (.other t) | failure (.other t) => some t
  | _ => none

def isConflict : ErrorKind → Bool
  | conflict _ => true
  | _ => false

def shown (k : ErrorKind) : String :=
  match k.tag? with
  | some t => k.label ++ "(" ++ Text.Quoted.quote t ++ ")"
  | none => k.label

end ErrorKind

namespace DomainError

def invalid (k : Invalid) (detail : String) : DomainError := ⟨.invalid k, detail⟩
def conflict (k : Conflict) (detail : String) : DomainError := ⟨.conflict k, detail⟩
def missing (k : Missing) (detail : String) : DomainError := ⟨.missing k, detail⟩
def failure (k : Failure) (detail : String) : DomainError := ⟨.failure k, detail⟩

def invalidOther (detail : String) : DomainError := invalid (.other detail) detail

def display (e : DomainError) : String :=
  e.kind.className ++ " " ++ e.kind.shown ++ ": " ++ e.detail

end DomainError

end ImitationGame
