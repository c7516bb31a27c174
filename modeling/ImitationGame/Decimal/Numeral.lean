import ImitationGame.Decimal.Extended

namespace ImitationGame.Decimal

structure Numeral where
  negative : Bool
  digits : Nat
  scale : Int
  whole : Bool
deriving DecidableEq, Repr

namespace Numeral

def value (digits : List Char) : Nat :=
  digits.foldl (fun n c => n * 10 + (c.toNat - '0'.toNat)) 0

def sign : List Char → Bool × List Char
  | '-' :: r => (true, r)
  | '+' :: r => (false, r)
  | r => (false, r)

def capped (digits : List Char) : Nat :=
  digits.foldl (fun n c => if n < 10000 then n * 10 + (c.toNat - '0'.toNat) else 10000) 0

def exponent? : List Char → Option (Int × List Char)
  | c :: r =>
    let (negative, r) := sign r
    let digits := r.takeWhile Char.isDigit
    if (c = 'e' || c = 'E') && !digits.isEmpty then
      let n : Int := capped digits
      some (if negative then -n else n, r.dropWhile Char.isDigit)
    else none
  | [] => none

def head? (text : List Char) : Option (Numeral × List Char) :=
  let (negative, r) := sign text
  let before := r.takeWhile Char.isDigit
  let r := r.dropWhile Char.isDigit
  let pointed := r.head? == some '.'
  let r := if pointed then r.drop 1 else r
  let after := if pointed then r.takeWhile Char.isDigit else []
  let r := r.drop after.length
  if before.isEmpty && after.isEmpty then none
  else
    let digits := value (before ++ after)
    let scale : Int := -after.length
    match exponent? r with
    | some (e, r) => some (⟨negative, digits, scale + e, false⟩, r)
    | none => some (⟨negative, digits, scale, !pointed⟩, r)

def cut (n dropped : Nat) : Nat × Nat :=
  if h : 1844674407370955160 ≤ n / 10 then cut (n / 10) (dropped + 1) else (n, dropped)
termination_by n
decreasing_by omega

def grow : Nat → Nat → Nat × Nat
  | n, 0 => (n, 0)
  | n, e + 1 => if n < 1844674407370955161 then grow (n * 10) e else (n, e + 1)

def shrink : Nat → Nat → Nat × Nat
  | n, 0 => (n, 0)
  | n, e + 1 => if n % 10 = 0 then shrink (n / 10) e else (n, e + 1)

def toDouble (n : Numeral) : Double :=
  let (digits, dropped) := cut n.digits 0
  let scale := n.scale + dropped
  if digits = 0 then ⟨n.negative, 0⟩
  else
    let (digits, e) : Nat × Int :=
      if 0 ≤ scale then (grow digits scale.toNat).map id Int.ofNat
      else (shrink digits (-scale).toNat).map id (- Int.ofNat ·)
    if e = 0 then .ofRatio n.negative digits 1
    else ((Extended.ofNat digits).scaleBy e).toDouble n.negative

def toInt? (n : Numeral) : Option Int :=
  if n.whole then some (if n.negative then -n.digits else n.digits) else none

end Numeral

end ImitationGame.Decimal
