import ImitationGame.Json.Number
import ImitationGame.Json.Quotation
import ImitationGame.Json.Value

namespace ImitationGame.Json

def ofWord (b : UInt8) : Json :=
  if b = 0x74 then bool true else if b = 0x66 then bool false else null

def Number.Value.json : Number.Value → Json
  | whole n => .int n
  | real x => .real x

def insertMember (name : String) (j : Json) : List (String × Json) → List (String × Json)
  | [] => [(name, j)]
  | m :: ms =>
    if name < m.1 then (name, j) :: m :: ms
    else if name = m.1 then (name, j) :: ms
    else m :: insertMember name j ms

def ofMembers (members : List (String × Json)) : Json :=
  object (members.foldl (fun ms (name, j) => insertMember name j ms) [])

namespace Reader

open Byte

mutual

/-- Every step down takes a byte at least, and so does every part of a list or an object. -/
def value : Nat → Reader Json
  | 0, _ => .error .ended
  | n + 1, c =>
    match skip c with
    | [] => .error .ended
    | b :: r =>
      match wordTail? b with
      | some tail => (literal tail r).map (ofWord b, ·)
      | none =>
        if b = minus then (Number.read true r).map fun (x, r) => (x.json, r)
        else if isDigit b then (Number.read false (b :: r)).map fun (x, r) => (x.json, r)
        else if b = Byte.quote then (Quotation.read r).map fun (s, r) => (.text s, r)
        else if b = openList then do
          let (items, r) ← items n true r
          return (.list items, ← endList r)
        else if b = openObject then
          (members n true r).map fun (members, r) => (ofMembers members, r)
        else .error (unfit (b :: r))

def items : Nat → Bool → Reader (List Json)
  | 0, _, _ => .error .ended
  | n + 1, first, c => do
    let (more, r) ← element first c
    if more then
      let (j, r) ← value n r
      let (js, r) ← items n false r
      return (j :: js, r)
    else return ([], r)

def members : Nat → Bool → Reader (List (String × Json))
  | 0, _, _ => .error .ended
  | n + 1, first, c => do
    let (more, r) ← member first c
    if more then
      let (name, r) ← Quotation.read r
      let (j, r) ← value n (← colon r)
      let (ms, r) ← members n false r
      return ((name, j) :: ms, r)
    else return ([], r)

end

end Reader

def read (text : Bytes) : Except ReadFault Json :=
  Reader.whole (Reader.value (2 * text.length + 2)) text

def ofText? (s : String) : Option Json := (read s.toUTF8.data.toList).toOption

end ImitationGame.Json
