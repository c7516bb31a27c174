import ImitationGame.Decimal.Digits
import ImitationGame.Text.Quoted

namespace ImitationGame

inductive Json where
  | null
  | bool (b : Bool)
  | int (n : Int)
  | real (x : Double)
  | text (s : String)
  | list (items : List Json)
  | object (members : List (String × Json))
deriving Inhabited

namespace Json

def escape (c : Char) : String :=
  if c = '"' then "\\\""
  else if c = '\\' then "\\\\"
  else if c = '\n' then "\\n"
  else if c = '\r' then "\\r"
  else if c = '\t' then "\\t"
  else if c = '\x08' then "\\b"
  else if c = '\x0c' then "\\f"
  else if c.toNat < 0x10 then "\\u000" ++ Text.Quoted.hex c.toNat
  else if c.toNat < 0x20 then "\\u00" ++ Text.Quoted.hex c.toNat
  else c.toString

def quote (s : String) : String := s.toList.foldl (fun out c => out ++ escape c) "\"" ++ "\""

def realLayout : Decimal.Layout := ⟨-5, 15, true, false⟩

mutual

def render : Json → String
  | null => "null"
  | bool b => if b then "true" else "false"
  | int n => toString n
  | real x => realLayout.render x.negative (Decimal.shortest x)
  | text s => quote s
  | list items => "[" ++ ",".intercalate (renderItems items) ++ "]"
  | object members => "\x7b" ++ ",".intercalate (renderMembers members) ++ "\x7d"

def renderItems : List Json → List String
  | [] => []
  | j :: js => j.render :: renderItems js

def renderMembers : List (String × Json) → List String
  | [] => []
  | (name, j) :: ms => (quote name ++ ":" ++ j.render) :: renderMembers ms

end

def ofOption (f : α → Json) : Option α → Json
  | none => null
  | some a => f a

def optionalInt : Option Int → Json := ofOption int

def optionalText : Option String → Json := ofOption text

end Json

end ImitationGame
