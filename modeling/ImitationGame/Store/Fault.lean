import ImitationGame.Error.Problem
import ImitationGame.Game.Refusal
import ImitationGame.Store.StorageFault

namespace ImitationGame

inductive Fault where
  | refused (cause : Refusal)
  | storage (cause : StorageFault)
deriving DecidableEq, Repr

namespace Fault

def error : Fault → DomainError
  | refused r => r.error
  | storage f => f.error

def problem (f : Fault) : Problem := f.error.problem

end Fault

def Refusal.lift {α : Type} : Except Refusal α → Except Fault α
  | .ok a => .ok a
  | .error r => .error (.refused r)

end ImitationGame
