namespace ImitationGame

inductive Driver where
  | ai | human
deriving DecidableEq, Repr

inductive MessageKind where
  | question | answer
deriving DecidableEq, Repr

inductive Stage where
  | started
  | joined
  | awaiting (driver : Driver) (kind : MessageKind)
  | finished
deriving DecidableEq, Repr

/-- A stage as clients see it: the driver of the awaited bot stays hidden. -/
inductive Phase where
  | started
  | joined
  | awaiting (kind : MessageKind)
  | finished
deriving DecidableEq, Repr

namespace Driver

def text : Driver → String
  | ai => "AI"
  | human => "HUMAN"

def ofText? (s : String) : Option Driver :=
  if s = "AI" then some ai else if s = "HUMAN" then some human else none

end Driver

namespace MessageKind

def text : MessageKind → String
  | question => "QUESTION"
  | answer => "ANSWER"

def ofText? (s : String) : Option MessageKind :=
  if s = "QUESTION" then some question else if s = "ANSWER" then some answer else none

end MessageKind

namespace Stage

def text : Stage → String
  | started => "STARTED"
  | joined => "PLAYERS_JOINED"
  | awaiting .ai .question => "WAITING_FOR_BOT_QUESTION"
  | awaiting .ai .answer => "WAITING_FOR_BOT_ANSWER"
  | awaiting .human .question => "WAITING_FOR_PLAYER_QUESTION"
  | awaiting .human .answer => "WAITING_FOR_PLAYER_ANSWER"
  | finished => "FINISHED"

def name : Stage → String
  | started => "Started"
  | joined => "PlayersJoined"
  | awaiting .ai .question => "WaitingForBotQuestion"
  | awaiting .ai .answer => "WaitingForBotAnswer"
  | awaiting .human .question => "WaitingForPlayerQuestion"
  | awaiting .human .answer => "WaitingForPlayerAnswer"
  | finished => "Finished"

def all : List Stage :=
  [started, joined, awaiting .ai .question, awaiting .ai .answer, awaiting .human .question,
    awaiting .human .answer, finished]

def ofText? (s : String) : Option Stage := all.find? fun g => g.text == s

def needsSystem : Stage → Bool
  | joined | awaiting .ai _ => true
  | _ => false

def awaited : Stage → Option MessageKind
  | awaiting _ k => some k
  | _ => none

def awaitsQuestion (s : Stage) : Bool := s.awaited == some .question

def awaitsAnswer (s : Stage) : Bool := s.awaited == some .answer

def budget (s : Stage) : Int :=
  match s.awaited with
  | some .question => 60
  | some .answer => 45
  | none => 0

def questionFor (d : Driver) : Stage := awaiting d .question

def answerFor (d : Driver) : Stage := awaiting d .answer

def phase : Stage → Phase
  | started => .started
  | joined => .joined
  | awaiting _ k => .awaiting k
  | finished => .finished

theorem awaited_eq_of_phase_eq {s t : Stage} (h : s.phase = t.phase) : s.awaited = t.awaited := by
  cases s <;> cases t <;> simp_all [phase, awaited]

end Stage

def Phase.text : Phase → String
  | started => "STARTED"
  | joined => "PLAYERS_JOINED"
  | awaiting .question => "WAITING_FOR_QUESTION"
  | awaiting .answer => "WAITING_FOR_ANSWER"
  | finished => "FINISHED"

end ImitationGame
