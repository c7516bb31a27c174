import ImitationGame.Json.Number
import ImitationGame.Json.Quotation

namespace ImitationGame.Json.Skip

open Byte Reader

inductive Frame where
  | list | object
deriving DecidableEq, Repr

def Frame.closing : Frame → UInt8
  | list => closeList
  | object => closeObject

def item (text : Bytes) : Except ReadFault (Option Frame × Bytes) :=
  match skip text with
  | [] => .error .ended
  | b :: r =>
    match wordTail? b with
    | some tail => (literal tail r).map (none, ·)
    | none =>
      if b = minus then (Number.pass r).map (none, ·)
      else if isDigit b then (Number.pass (b :: r)).map (none, ·)
      else if b = quote then (Quotation.pass r).map (none, ·)
      else if b = openList then .ok (some .list, r)
      else if b = openObject then .ok (some .object, r)
      else .error (.malformed r.length)

def name (f : Frame) (text : Bytes) : Except ReadFault Bytes :=
  match f with
  | .list => .ok text
  | .object =>
    match skip text with
    | [] => .error .ended
    | b :: r =>
      if b = quote then (Quotation.pass r).bind Reader.colon else .error (.malformed r.length)

/-- Go on until every open frame is closed; `later` says that a part came before. Each step reads
a byte at least. -/
def close : Nat → Bool → List Frame → Bytes → Except ReadFault Bytes
  | _, _, [], text => .ok text
  | 0, _, _ :: _, _ => .error .ended
  | n + 1, later, f :: fs, text =>
    match skip text with
    | [] => .error .ended
    | b :: r =>
      if b = f.closing then close n true fs r
      else if later && b != comma then .error (.malformed r.length)
      else do
        let text ← name f (if later then r else b :: r)
        let (opened, text) ← item text
        match opened with
        | some g => close n false (g :: f :: fs) text
        | none => close n true (f :: fs) text

def value (text : Bytes) : Except ReadFault Bytes := do
  let (opened, r) ← item text
  match opened with
  | some f => close (r.length + 1) false [f] r
  | none => return r

end ImitationGame.Json.Skip
