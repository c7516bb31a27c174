/-! Binary numbers of 53 digits, counted in units of the smallest one, 2^-1074. -/

namespace ImitationGame

/-- A sign and a size. The size 2^1024 stands for all that lie beyond the largest number. -/
structure Double where
  negative : Bool
  units : Nat
deriving DecidableEq, Repr

namespace Double

def one : Nat := Nat.pow 2 1074

def beyond : Nat := Nat.pow 2 2098

def largest : Nat := Nat.pow 2 2098 - Nat.pow 2 2045

def roundDiv (num den : Nat) : Nat :=
  let q := num / den
  let r := num % den
  if 2 * r < den || (2 * r = den && q % 2 = 0) then q else q + 1

def nearest (num den : Nat) : Nat :=
  let step := Nat.pow 2 ((num / den).log2 - 52)
  min beyond (roundDiv num (den * step) * step)

def ofRatio (negative : Bool) (num den : Nat) : Double := ⟨negative, nearest (num * one) den⟩

def ofInt (n : Int) : Double := ofRatio (n < 0) n.natAbs 1

def isFinite (x : Double) : Bool := x.units < beyond

def mul (x y : Double) : Double := ⟨x.negative != y.negative, nearest (x.units * y.units) one⟩

def div (x y : Double) : Double := ⟨x.negative != y.negative, nearest (x.units * one) y.units⟩

def toUnits (x : Double) : Int := if x.negative then -x.units else x.units

def sub (x y : Double) : Double :=
  let n := x.toUnits - y.toUnits
  ⟨n < 0, nearest n.natAbs 1⟩

def toInt? (x : Double) : Option Int :=
  if x.isFinite && x.units % one = 0 then
    let n : Int := (x.units / one : Nat)
    some (if x.negative then -n else n)
  else none

def ofScaled (negative : Bool) (digits : Nat) (scale : Int) : Double :=
  let size : Int := (Nat.toDigits 10 digits).length + scale
  if digits = 0 || size < -330 then ⟨negative, 0⟩
  else if 310 < size then ⟨negative, beyond⟩
  else ofRatio negative (digits * Nat.pow 10 scale.toNat) (Nat.pow 10 (-scale).toNat)

end Double

end ImitationGame
