/-! Readers of JSON text: from the bytes that are left to a value and the bytes behind it. A fault
tells its place by the number of bytes that it leaves. -/

namespace ImitationGame.Json

abbrev Bytes := List UInt8

inductive ReadFault where
  | malformed (left : Nat)
  | ended
  | mismatch (left : Nat) (found : String)
deriving DecidableEq, Repr

abbrev Reader (α : Type) := Bytes → Except ReadFault (α × Bytes)

namespace Byte

@[match_pattern] abbrev newline : UInt8 := 0x0A
@[match_pattern] abbrev quote : UInt8 := 0x22
@[match_pattern] abbrev comma : UInt8 := 0x2C
@[match_pattern] abbrev minus : UInt8 := 0x2D
@[match_pattern] abbrev point : UInt8 := 0x2E
@[match_pattern] abbrev zero : UInt8 := 0x30
@[match_pattern] abbrev colon : UInt8 := 0x3A
@[match_pattern] abbrev openList : UInt8 := 0x5B
@[match_pattern] abbrev backslash : UInt8 := 0x5C
@[match_pattern] abbrev closeList : UInt8 := 0x5D
@[match_pattern] abbrev openObject : UInt8 := 0x7B
@[match_pattern] abbrev closeObject : UInt8 := 0x7D

def isSpace (b : UInt8) : Bool := b == 0x20 || b == 0x09 || b == 0x0A || b == 0x0D

def isDigit (b : UInt8) : Bool := 0x30 ≤ b && b ≤ 0x39

def digit (b : UInt8) : Nat := b.toNat - 0x30

def hexDigit? (b : UInt8) : Option Nat :=
  if isDigit b then some (digit b)
  else if 0x41 ≤ b && b ≤ 0x46 then some (b.toNat - 0x37)
  else if 0x61 ≤ b && b ≤ 0x66 then some (b.toNat - 0x57)
  else none

def wordTail? (b : UInt8) : Option Bytes :=
  if b = 0x6E then some [0x75, 0x6C, 0x6C]
  else if b = 0x74 then some [0x72, 0x75, 0x65]
  else if b = 0x66 then some [0x61, 0x6C, 0x73, 0x65]
  else none

end Byte

structure Place where
  line : Nat
  column : Nat
deriving DecidableEq, Repr

def Place.after (read : Bytes) : Place :=
  ⟨read.count Byte.newline + 1, (read.reverse.takeWhile (· != Byte.newline)).length⟩

namespace ReadFault

def left : ReadFault → Nat
  | malformed n => n
  | ended => 0
  | mismatch n _ => n

def place (text : Bytes) (f : ReadFault) : Place := .after (text.take (text.length - f.left))

def found : ReadFault → String
  | malformed _ => "no value"
  | ended => "an early end"
  | mismatch _ found => found

def message (text : Bytes) (f : ReadFault) : String :=
  let p := f.place text
  f.found ++ " at line " ++ toString p.line ++ " column " ++ toString p.column

end ReadFault

namespace Reader

open Byte

/-- The next byte does not fit; it counts as read. -/
def unfit (text : Bytes) : ReadFault := .malformed (text.length - 1)

def skip (text : Bytes) : Bytes := text.dropWhile isSpace

def finish (text : Bytes) : Except ReadFault Unit :=
  match skip text with
  | [] => .ok ()
  | b :: r => .error (unfit (b :: r))

def literal : Bytes → Bytes → Except ReadFault Bytes
  | [], r => .ok r
  | _ :: _, [] => .error .ended
  | e :: es, b :: r => if b = e then literal es r else .error (.malformed r.length)

def element (first : Bool) (text : Bytes) : Except ReadFault (Bool × Bytes) :=
  match skip text with
  | [] => .error .ended
  | b :: r =>
    if b = closeList then .ok (false, b :: r)
    else if first then .ok (true, b :: r)
    else if b ≠ comma then .error (unfit (b :: r))
    else
      match skip r with
      | [] => .error .ended
      | b :: r => if b = closeList then .error (unfit (b :: r)) else .ok (true, b :: r)

def endList (text : Bytes) : Except ReadFault Bytes :=
  match skip text with
  | [] => .error .ended
  | b :: r =>
    if b = closeList then .ok r
    else if b = comma then .error (unfit (skip r))
    else .error (unfit (b :: r))

def member (first : Bool) (text : Bytes) : Except ReadFault (Bool × Bytes) :=
  match skip text with
  | [] => .error .ended
  | b :: r =>
    if b = closeObject then .ok (false, r)
    else if first then if b = quote then .ok (true, r) else .error (unfit (b :: r))
    else if b ≠ comma then .error (unfit (b :: r))
    else
      match skip r with
      | [] => .error .ended
      | b :: r => if b = quote then .ok (true, r) else .error (unfit (b :: r))

def colon (text : Bytes) : Except ReadFault Bytes :=
  match skip text with
  | [] => .error .ended
  | b :: r => if b = Byte.colon then .ok r else .error (unfit (b :: r))

end Reader

def Reader.whole {α : Type} (read : Reader α) (text : Bytes) : Except ReadFault α := do
  let (a, r) ← read text
  Reader.finish r
  return a

end ImitationGame.Json
