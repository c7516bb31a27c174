namespace ImitationGame

inductive JobKind where
  | startAfterJoin | askAsAi | answerAsAi | deleteExpired
deriving DecidableEq, Repr

/-- A job is its own key: two jobs of one kind for one game are the same job. -/
structure Job where
  kind : JobKind
  game : Int
deriving DecidableEq, Repr

namespace JobKind

def text : JobKind → String
  | startAfterJoin => "start_after_join"
  | askAsAi => "ask_as_ai"
  | answerAsAi => "answer_as_ai"
  | deleteExpired => "delete_expired"

def all : List JobKind := [startAfterJoin, askAsAi, answerAsAi, deleteExpired]

theorem mem_all (k : JobKind) : k ∈ all := by cases k <;> decide

end JobKind

def Job.text (j : Job) : String := s!"{j.kind.text}:{j.game}"

inductive QueueAnswer where
  | enqueued | duplicate | full | closed
deriving DecidableEq, Repr

def QueueAnswer.refusal? : QueueAnswer → Option String
  | enqueued | duplicate => none
  | full => some "job queue is full"
  | closed => some "job queue is shut down"

/-- A queue with its state: it answers offers, and may tell whoever offers to stop. -/
structure JobQueue (σ : Type) where
  offer : σ → Job → QueueAnswer × σ
  cancelled : σ → Bool
  /-- What happens to the queue while a scan is waited for. -/
  wait : σ → σ := id

end ImitationGame
