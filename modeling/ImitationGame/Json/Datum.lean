import ImitationGame.Json.Skip
import ImitationGame.Json.Value

/-! Reading JSON into a wanted shape. The first problem in reading order is the one reported. -/

namespace ImitationGame.Json

inductive Datum where
  | absent
  | text (s : String)
  | int (n : Int)
  | list (items : List Datum)
  | record (parts : List Datum)

/-- A wanted part of a record, and what stands for it when it is missing: from an object, and from
a list that ends early. -/
structure Field where
  name : String
  read : Reader Datum
  inObject : Option Datum
  inList : Option Datum

namespace Field

def required (name : String) (read : Reader Datum) : Field := ⟨name, read, none, none⟩

def optional (name : String) (read : Reader Datum) : Field := ⟨name, read, some .absent, none⟩

def defaulted (name : String) (read : Reader Datum) : Field :=
  ⟨name, read, some .absent, some .absent⟩

end Field

def Number.Value.shown : Number.Value → String
  | whole n => "integer " ++ toString n
  | real x => "floating point " ++ (Json.real x).render

def shownByHead (b : UInt8) : String :=
  if b = 0x6E then "null"
  else if b = 0x74 then "boolean true"
  else if b = 0x66 then "boolean false"
  else if b = Byte.openList then "sequence"
  else "map"

namespace Reader

open Byte

def unwanted {α : Type} : Reader α := fun text =>
  match text with
  | [] => .error .ended
  | b :: r =>
    let number := fun (n, r) => .error (.mismatch (List.length r) (Number.Value.shown n))
    match wordTail? b with
    | some tail => (literal tail r).bind fun r => .error (.mismatch r.length (shownByHead b))
    | none =>
      if b = minus then (Number.read true r).bind number
      else if isDigit b then (Number.read false text).bind number
      else if b = Byte.quote then
        (Quotation.read r).bind fun (s, r) =>
          .error (.mismatch r.length ("string " ++ Text.Quoted.quote s))
      else if b = openList || b = openObject then
        .error (.mismatch text.length (shownByHead b))
      else .error (unfit text)

def text : Reader Datum := fun c =>
  match skip c with
  | Byte.quote :: r => (Quotation.read r).map fun (s, r) => (.text s, r)
  | c => unwanted c

def isLong (n : Int) : Bool := -Int.pow 2 63 ≤ n && n < Int.pow 2 63

def ofNumber : Number.Value × Bytes → Except ReadFault (Datum × Bytes)
  | (.whole n, r) =>
    if isLong n then .ok (.int n, r)
    else .error (.mismatch r.length (Number.Value.whole n).shown)
  | (.real x, r) => .error (.mismatch r.length (Number.Value.real x).shown)

def int : Reader Datum := fun c =>
  match skip c with
  | [] => .error .ended
  | b :: r =>
    if b = minus then (Number.read true r).bind ofNumber
    else if isDigit b then (Number.read false (b :: r)).bind ofNumber
    else unwanted (b :: r)

def optional (read : Reader Datum) : Reader Datum := fun c =>
  match skip c with
  | 0x6E :: r => (literal [0x75, 0x6C, 0x6C] r).map fun r => (.absent, r)
  | c => read c

def elements (read : Reader Datum) : Nat → Bool → Reader (List Datum)
  | 0, _, _ => .error .ended
  | n + 1, first, c => do
    let (more, c) ← element first c
    if more then
      let (d, c) ← read c
      let (ds, c) ← elements read n false c
      return (d :: ds, c)
    else return ([], c)

def list (read : Reader Datum) : Reader Datum := fun c =>
  match skip c with
  | [] => throw .ended
  | b :: r =>
    if b = openList then do
      let (ds, c) ← elements read (r.length + 1) true r
      return (.list ds, ← endList c)
    else unwanted (b :: r)

def partsInList : List Field → Bool → Reader (List Datum)
  | [], _, c => .ok ([], c)
  | f :: fs, first, c => do
    let (more, c) ← element first c
    if more then
      let (d, c) ← f.read c
      let (ds, c) ← partsInList fs false c
      return (d :: ds, c)
    else
      match f.inList with
      | some d =>
        let (ds, c) ← partsInList fs first c
        return (d :: ds, c)
      | none => throw (.mismatch c.length "short list")

def partsInObject (fields : List Field) : Nat → Bool → List (Option Datum) → Reader (List Datum)
  | 0, _, _, _ => .error .ended
  | n + 1, first, found, c => do
    let (more, c) ← member first c
    if more then
      let (name, c) ← Quotation.read c
      match fields.findIdx? fun f => f.name == name with
      | none =>
        let c ← colon c
        let c ← Skip.value c
        partsInObject fields n false found c
      | some i =>
        if ((found[i]?).join).isSome then throw (.mismatch c.length ("second " ++ name))
        let c ← colon c
        match fields[i]? with
        | none => throw (.mismatch c.length name)
        | some f =>
          let (d, c) ← f.read c
          partsInObject fields n false (found.set i (some d)) c
    else
      match (fields.zip found).mapM fun (f, d) => d <|> f.inObject with
      | some ds => return (ds, c)
      | none => throw (.mismatch c.length "missing part")

def record (fields : List Field) : Reader Datum := fun c =>
  match skip c with
  | [] => throw .ended
  | b :: r =>
    if b = openList then do
      let (ds, c) ← partsInList fields true r
      return (.record ds, ← endList c)
    else if b = openObject then
      (partsInObject fields (r.length + 1) true (fields.map fun _ => none) r).map fun (ds, c) =>
        (.record ds, c)
    else unwanted (b :: r)

end Reader

end ImitationGame.Json
