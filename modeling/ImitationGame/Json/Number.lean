import ImitationGame.Decimal.Double
import ImitationGame.Json.Reader

namespace ImitationGame.Json.Number

open Byte Reader

inductive Value where
  | whole (n : Int)
  | real (x : Double)
deriving DecidableEq, Repr

def gather (limit : Nat) : Nat → Bytes → Nat × Bytes
  | n, [] => (n, [])
  | n, b :: r =>
    if n * 10 + digit b < limit then gather limit (n * 10 + digit b) r else (n, b :: r)

/-- The digits of a number as far as they are counted, and the power of ten they are scaled by. -/
structure Significand where
  digits : Nat
  scale : Int
deriving DecidableEq, Repr

namespace Significand

def ofWhole (digits : Bytes) : Significand :=
  let (n, left) := gather (Nat.pow 2 64) 0 digits
  ⟨n, left.length⟩

def withFraction (s : Significand) (digits : Bytes) : Significand :=
  let (n, left) := gather (Nat.pow 2 64) s.digits digits
  ⟨n, s.scale - (digits.length - left.length : Nat)⟩

def shift (s : Significand) (n : Int) : Significand := { s with scale := s.scale + n }

def power (n : Nat) : Double := .ofRatio false (Nat.pow 10 n) 1

def toDouble? (s : Significand) : Option Double :=
  let x := Double.ofInt s.digits
  let down := (-s.scale).toNat
  if s.digits = 0 || 616 < down then some ⟨false, 0⟩
  else if 308 < s.scale then none
  else if 0 ≤ s.scale then
    let y := x.mul (power s.scale.toNat)
    if y.isFinite then some y else none
  else if down ≤ 308 then some (x.div (power down))
  else some ((x.div (power 308)).div (power (down - 308)))

def read (s : Significand) (negative : Bool) : Reader Value := fun r =>
  match s.toDouble? with
  | some x => .ok (.real { x with negative }, r)
  | none => .error (.malformed r.length)

end Significand

def signedExponent (s : Significand) (negative down : Bool) : Reader Value := fun text =>
  match text with
  | [] => .error .ended
  | b :: r =>
    if !isDigit b then .error (.malformed r.length)
    else
      let rest := text.dropWhile isDigit
      match gather (Nat.pow 2 31) 0 (text.takeWhile isDigit) with
      | (n, []) => (s.shift (if down then -n else n)).read negative rest
      | (_, _ :: more) =>
        if s.digits = 0 || down then .ok (.real ⟨negative, 0⟩, rest)
        else .error (.malformed (more.length + rest.length))

def exponent (s : Significand) (negative : Bool) : Reader Value
  | 0x2B :: r => signedExponent s negative false r
  | 0x2D :: r => signedExponent s negative true r
  | r => signedExponent s negative false r

def isExponent (b : UInt8) : Bool := b == 0x65 || b == 0x45

def fraction (s : Significand) (negative : Bool) : Reader Value := fun text =>
  let digits := text.takeWhile isDigit
  match digits, text.dropWhile isDigit with
  | [], [] => .error .ended
  | [], _ :: r => .error (.malformed r.length)
  | _ :: _, b :: r =>
    if isExponent b then exponent (s.withFraction digits) negative r
    else (s.withFraction digits).read negative (b :: r)
  | _ :: _, [] => (s.withFraction digits).read negative []

def whole (negative : Bool) (digits : Bytes) : Reader Value := fun r =>
  let s := Significand.ofWhole digits
  if s.scale ≠ 0 then s.read negative r
  else if !negative then .ok (.whole s.digits, r)
  else if s.digits = 0 || Nat.pow 2 63 < s.digits then s.read negative r
  else .ok (.whole (-s.digits), r)

def read (negative : Bool) : Reader Value := fun text =>
  match text with
  | [] => .error .ended
  | b :: r =>
    if !isDigit b then .error (.malformed r.length)
    else if b = zero && r.head?.any isDigit then .error (unfit r)
    else
      let digits := text.takeWhile isDigit
      match text.dropWhile isDigit with
      | e :: r =>
        if e = point then fraction (.ofWhole digits) negative r
        else if isExponent e then exponent (.ofWhole digits) negative r
        else whole negative digits (e :: r)
      | [] => whole negative digits []

def passExponent (text : Bytes) : Except ReadFault Bytes :=
  let r := match text with
    | 0x2B :: r | 0x2D :: r => r
    | r => r
  if r.head?.any isDigit then .ok (r.dropWhile isDigit) else .error (unfit r)

def passTail : Bytes → Except ReadFault Bytes
  | b :: r => if isExponent b then passExponent r else .ok (b :: r)
  | [] => .ok []

def pass (text : Bytes) : Except ReadFault Bytes :=
  match text with
  | [] => .error (unfit [])
  | b :: r =>
    if !isDigit b then .error (.malformed r.length)
    else if b = zero && r.head?.any isDigit then .error (unfit r)
    else
      match text.dropWhile isDigit with
      | e :: r =>
        if e = point then
          if r.head?.any isDigit then passTail (r.dropWhile isDigit) else .error (unfit r)
        else passTail (e :: r)
      | [] => .ok []

end ImitationGame.Json.Number
