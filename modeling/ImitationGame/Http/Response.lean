import ImitationGame.Error.Problem
import ImitationGame.Time.Stamp

namespace ImitationGame.Http

inductive Content where
  | empty
  | json (value : Json)
  | problem (value : Json)
  | plain (text : String)

namespace Content

def type? : Content → Option String
  | empty => none
  | json _ => some "application/json"
  | problem _ => some Problem.contentType
  | plain _ => some "text/plain; charset=utf-8"

end Content

structure Response where
  status : Nat
  content : Content

namespace Response

def ok (j : Json) : Response := ⟨200, .json j⟩

def notFound : Response := ⟨404, .empty⟩

def ofProblem (p : Problem) : Response := ⟨p.status, .problem p.document⟩

def ofTimed (status : Nat) : Except TimeFault Json → Response
  | .ok j => ⟨status, .json j⟩
  | .error f => ⟨500, .plain ("Json serialize error: " ++ f.message)⟩

end Response

end ImitationGame.Http
