import ImitationGame.Error.Kind
import ImitationGame.Game.Stage

namespace ImitationGame

inductive Corruption where
  | noBots (game : Int)
  | emptyOrder (game : Int)
  | turnOutOfBounds (game : Int) (turn : Nat)
  | orderNotPermutation (game : Int)
  | targetMissing (game : Int)
  | turnOutsideOrder (game : Int) (turn length : Nat)
  | noTarget (game : Int)
  | noQuestion (game : Int)
  | negativeTurn (game turn : Int)
  | badSeat (bot seat : Int)
deriving DecidableEq, Repr

/-- A computation that has no answer: it stops the call instead of refusing it. -/
inductive Crash where
  | emptyList
  | timeOutOfRange
deriving DecidableEq, Repr

inductive Refusal where
  | emptyText
  | textTooLong (length : Nat)
  | badDisplayName
  | unknownStage (text : String)
  | unknownBot (bot game : Int)
  | gameMissing (game : Int)
  | playerMissing (player : Int)
  | finished (game : Int)
  | alreadyTagged (game : Int)
  | notStarted (game : Int) (stage : Stage)
  | cannotStart (game : Int) (stage : Stage)
  | notRecruiting (game : Int) (stage : Stage)
  | awaitsAnswer (game : Int)
  | awaitsQuestion (game : Int)
  | notDueToAsk (bot : Int)
  | notAsked (bot : Int)
  | notDueToTag (bot : Int)
  | notDueToAct (bot : Int)
  | nobodyDue (game : Int) (stage : Stage)
  | questionsItself
  | tagsItself
  | answerMisaddressed
  | outsideOrder (bot : Int)
  | nobodyElse
  | noAiLeft (game : Int)
  | notAMember (player game : Int)
  | noHelpLeft (bot : Int)
  | noNames
  | notPending (game : Int) (stage expected : Stage)
  | alreadyHandled (game : Int) (stage : Stage)
  | noLongerDue (bot game : Int)
  | tooYoung (game : Int)
  | recentlyActive (game : Int)
  | turnDoesNotFit (turn : Nat)
  | corrupt (cause : Corruption)
  | crash (cause : Crash)
deriving DecidableEq, Repr

def maxMessageLength : Nat := 280

def maxNameLength : Nat := 40

def Corruption.detail : Corruption → String
  | noBots g => s!"Game {g} has no bots"
  | emptyOrder g => s!"Game {g} has an empty turn order"
  | turnOutOfBounds g t => s!"Game {g} turn index {t} out of bounds"
  | orderNotPermutation g => s!"Game {g} turn order is not a permutation of its bots"
  | targetMissing g => s!"Game {g} question target missing or foreign"
  | turnOutsideOrder g t n => s!"Game {g} turn index {t} outside turn order of {n}"
  | noTarget g => s!"Game {g} awaits an answer but has no question target"
  | noQuestion g => s!"Game {g} awaits an answer but has no pending question"
  | negativeTurn g t => s!"Game {g} has negative turn index {t}"
  | badSeat b s => s!"Bot {b} has invalid seat {s}"

def Crash.detail : Crash → String
  | emptyList => "An empty list has no element to choose"
  | timeOutOfRange => "A point in time lies outside the calendar"

namespace Refusal

def error : Refusal → DomainError
  | emptyText => .invalid .emptyText "Message text must not be blank"
  | textTooLong n => .invalid .textTooLong
      s!"Message text has {n} characters; at most {maxMessageLength} allowed"
  | badDisplayName => .invalid .displayName s!"Display name must be 1 to {maxNameLength} characters"
  | unknownStage s => .invalid .state s!"Unknown game state '{s}'"
  | unknownBot b g => .invalid .unknownBot s!"Bot {b} is not part of game {g}"
  | gameMissing g => .missing .game s!"Game {g} not found"
  | playerMissing p => .missing .player s!"Player {p} not found"
  | finished g => .conflict .gameFinished s!"Game {g} is finished"
  | alreadyTagged g => .conflict .gameFinished s!"Game {g} is already finished"
  | notStarted g s => .conflict .stateMismatch s!"Game {g} has not started its turns ({s.text})"
  | cannotStart g s => .conflict .stateMismatch s!"Game {g} cannot start turns from {s.text}"
  | notRecruiting g s => .conflict .stateMismatch s!"Game {g} is no longer recruiting ({s.text})"
  | awaitsAnswer g => .conflict .kindMismatch s!"Game {g} is waiting for an answer, not a question"
  | awaitsQuestion g => .conflict .kindMismatch
      s!"Game {g} is waiting for a question, not an answer"
  | notDueToAsk b => .conflict .outOfTurn s!"Bot {b} is not due to ask"
  | notAsked b => .conflict .outOfTurn s!"Bot {b} was not asked the pending question"
  | notDueToTag b => .conflict .outOfTurn s!"Bot {b} may only tag on its own turn"
  | notDueToAct b => .conflict .outOfTurn s!"Bot {b} is not due to act"
  | nobodyDue g s => .conflict .stateMismatch s!"Game {g} has no bot due to act ({s.text})"
  | questionsItself => .invalid .selfTarget "A bot cannot question itself"
  | tagsItself => .invalid .selfTarget "A bot cannot tag itself"
  | answerMisaddressed => .invalidOther "An answer must be addressed to its author"
  | outsideOrder b => .invalidOther s!"Bot {b} missing from turn order"
  | nobodyElse => .invalidOther "No other bot to question"
  | noAiLeft g => .conflict .noFreeSeat s!"Game {g} has no AI bot left to claim"
  | notAMember p g => .conflict .notAMember s!"Player {p} has no bot in game {g}"
  | noHelpLeft b => .conflict .helpExhausted s!"Bot {b} has no help left"
  | noNames => .invalidOther "A game needs at least one bot"
  | notPending g s e => .conflict .stateMismatch s!"Game {g} is {s.text}, expected {e.text}"
  | alreadyHandled g s => .conflict .alreadyHandled s!"Game {g} state {s.text} already handled"
  | noLongerDue b g => .conflict .stateMismatch s!"Bot {b} is no longer due to act in game {g}"
  | tooYoung g => .conflict (.other "NotExpired") s!"Game {g} is younger than the maximum age"
  | recentlyActive g => .conflict (.other "RecentlyActive")
      s!"Game {g} was updated within the idle grace period"
  | turnDoesNotFit t => .failure .invariant s!"Turn index {t} does not fit storage"
  | corrupt c => .failure .corruption c.detail
  | crash c => .failure .invariant c.detail

end Refusal

end ImitationGame
