import ImitationGame.Time.Reading

/-! Times as the tables hold them, which compare by their text. -/

namespace ImitationGame

inductive Timestamp where
  | instant (i : Instant)
  | other (text : String)
deriving DecidableEq, Repr

namespace Instant

def isStorable (i : Instant) : Bool := (Stamp.utc i).written.isOk

end Instant

namespace Timestamp

def chars : Timestamp → List Char
  | instant i => ((Stamp.utc i).written.toOption).getD []
  | other text => text.toList

def upTo (a b : Timestamp) : Bool := !b.chars.lex a.chars

def read? : Timestamp → Option Stamp
  | instant i => some (.utc i)
  | other text => Stamp.ofText? text

end Timestamp

end ImitationGame
