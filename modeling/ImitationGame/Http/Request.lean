import ImitationGame.Error.Problem
import ImitationGame.Http.Target
import ImitationGame.Json.Datum
import ImitationGame.Text.Blank
import ImitationGame.Text.Numeral
import ImitationGame.Text.Search

namespace ImitationGame.Http

structure Request where
  method : String
  target : String
  headers : List (String × String)
  body : List UInt8

namespace Request

open Text

def isTokenChar (c : Char) : Bool := c.isAlphanum || "!#$%&'*+-.^_`|~".toList.contains c

def isToken (s : String) : Bool := !s.isEmpty && s.toList.all isTokenChar

def isHeaderChar (c : Char) : Bool := c == '\t' || (0x20 ≤ c.toNat && c.toNat ≠ 0x7F)

def isWellFormed (r : Request) : Bool :=
  isToken r.method && (Target.path? r.target.toUTF8.data.toList).isSome &&
    r.headers.all fun (name, value) => isToken name && value.toList.all isHeaderChar

def lower (s : String) : String := s.map Char.toLower

def header? (r : Request) (name : String) : Option String :=
  (r.headers.find? fun h => lower h.1 == lower name).map (·.2)

def asText? (value : String) : Option String :=
  if value.toList.all fun c => c == '\t' || (0x20 ≤ c.toNat && c.toNat < 0x7F) then some value
  else none

def gameId (raw : String) : Except Problem Int :=
  match Numeral.long? raw.toList with
  | none => .error (.badRequest .invalidGameId ("Invalid game id: " ++ raw))
  | some n =>
    if 0 < n then .ok n
    else .error (.badRequest .invalidGameId s!"Game id must be positive, got: {n}")

def callerHeader : String := "X-Player-Id"

def callerOf (value : String) : Except Problem Int :=
  match (asText? value).bind fun s => Numeral.long? (Blank.trim s.toList) with
  | some n => if 0 < n then .ok n else bad
  | none => bad
where
  bad : Except Problem Int :=
    .error (.badRequest .invalidPlayerId (callerHeader ++ " must be a positive integer"))

def caller (r : Request) : Except Problem Int :=
  match r.header? callerHeader with
  | some value => callerOf value
  | none => .error (.badRequest .invalidPlayerId ("Missing " ++ callerHeader ++ " header"))

def caller? (r : Request) : Except Problem (Option Int) :=
  match r.header? callerHeader with
  | some value => (callerOf value).map some
  | none => .ok none

def badBody (detail : String) : Problem := .badRequest .badRequest detail

def checkType (r : Request) : Except Problem Unit :=
  match r.header? "Content-Type" with
  | none => .ok ()
  | some value =>
    match asText? value with
    | some s =>
      if Search.contains "json" (lower s) then .ok () else .error notJson
    | none => .error notJson
where
  notJson : Problem := badBody "Expected an application/json body"

def maxBody : Nat := 16384

def mistyped : Problem := badBody "JSON body has missing or mistyped fields"

def faultProblem (body : List UInt8) (f : Json.ReadFault) : Problem :=
  match f with
  | .malformed _ => badBody s!"Malformed JSON at line {(f.place body).line}"
  | .ended => badBody "Malformed JSON: body ends early"
  | .mismatch _ _ => mistyped

def parts (r : Request) (fields : List Json.Field) : Except Problem (List Json.Datum) := do
  r.checkType
  if maxBody < r.body.length then throw (badBody s!"Request body exceeds {maxBody} bytes")
  match Json.Reader.whole (.record fields) r.body with
  | .ok (.record parts) => return parts
  | .ok _ => throw mistyped
  | .error f => throw (faultProblem r.body f)

def displayName (r : Request) : Except Problem String := do
  match ← r.parts [.required "display_name" .text] with
  | [.text name] => return name
  | _ => throw mistyped

def accused (r : Request) : Except Problem Int := do
  match ← r.parts [.required "accused_bot_id" .int] with
  | [.int bot] => return bot
  | _ => throw mistyped

def speech (r : Request) : Except Problem (String × Option Int) := do
  match ← r.parts [.required "text" .text, .defaulted "target_bot_id" (.optional .int)] with
  | [.text text, .int target] => return (text, some target)
  | [.text text, .absent] => return (text, none)
  | _ => throw mistyped

end Request

end ImitationGame.Http
