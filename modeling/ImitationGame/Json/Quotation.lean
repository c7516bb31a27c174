import ImitationGame.Json.Reader

namespace ImitationGame.Json.Quotation

open Byte

def hex4? (a b c d : UInt8) : Option Nat := do
  return (((← hexDigit? a) * 16 + (← hexDigit? b)) * 16 + (← hexDigit? c)) * 16 + (← hexDigit? d)

def isLeading (n : Nat) : Bool := 0xD800 ≤ n && n ≤ 0xDBFF

def isTrailing (n : Nat) : Bool := 0xDC00 ≤ n && n ≤ 0xDFFF

def pair (lead trail : Nat) : Nat := 0x10000 + (lead - 0xD800) * 0x400 + (trail - 0xDC00)

def encode (n : Nat) : Bytes := String.utf8EncodeChar (Char.ofNat n)

def escape? (b : UInt8) : Option UInt8 :=
  if b = quote || b = backslash || b = 0x2F then some b
  else if b = 0x62 then some 0x08
  else if b = 0x66 then some 0x0C
  else if b = 0x6E then some 0x0A
  else if b = 0x72 then some 0x0D
  else if b = 0x74 then some 0x09
  else none

def unquote (out : Bytes) : Reader Bytes
  | [] => .error .ended
  | quote :: r => .ok (out.reverse, r)
  | [backslash] => .error .ended
  | backslash :: 0x75 :: a :: b :: c :: d :: r =>
    match hex4? a b c d with
    | none => .error (.malformed r.length)
    | some n =>
      if isTrailing n then .error (.malformed r.length)
      else if isLeading n then
        match r with
        | [] => .error .ended
        | [x] => if x = backslash then .error .ended else .error (.malformed 0)
        | x :: y :: r =>
          if x ≠ backslash then .error (.malformed (r.length + 1))
          else if y ≠ 0x75 then .error (.malformed r.length)
          else
            match r with
            | e :: f :: g :: h :: r =>
              match hex4? e f g h with
              | none => .error (.malformed r.length)
              | some m =>
                if isTrailing m then unquote ((encode (pair n m)).reverse ++ out) r
                else .error (.malformed r.length)
            | _ => .error .ended
      else unquote ((encode n).reverse ++ out) r
  | backslash :: 0x75 :: _ => .error .ended
  | backslash :: e :: r =>
    match escape? e with
    | some b => unquote (b :: out) r
    | none => .error (.malformed r.length)
  | b :: r => if b < 0x20 then .error (.malformed r.length) else unquote (b :: out) r

def read : Reader String := fun text => do
  let (bytes, r) ← unquote [] text
  match String.fromUTF8? ⟨bytes.toArray⟩ with
  | some s => return (s, r)
  | none => throw (.malformed r.length)

def pass : Bytes → Except ReadFault Bytes
  | [] => .error .ended
  | quote :: r => .ok r
  | [backslash] => .error .ended
  | backslash :: 0x75 :: a :: b :: c :: d :: r =>
    if (hex4? a b c d).isSome then pass r else .error (.malformed r.length)
  | backslash :: 0x75 :: _ => .error .ended
  | backslash :: e :: r => if (escape? e).isSome then pass r else .error (.malformed r.length)
  | b :: r => if b < 0x20 then .error (.malformed (r.length + 1)) else pass r

end ImitationGame.Json.Quotation
