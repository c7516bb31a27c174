import ImitationGame.Decimal.Double

/-! Binary numbers of 64 digits, scaled by powers of ten in steps that are rounded each. -/

namespace ImitationGame

structure Extended where
  digits : Nat
  scale : Int
deriving DecidableEq, Repr

namespace Extended

def nearest (num den : Nat) (scale : Int) : Extended :=
  let up := den.log2 + 64 - num.log2
  let num := num * Nat.pow 2 up
  let down := (num / den).log2 - 63
  ⟨Double.roundDiv num (den * Nat.pow 2 down), scale - up + down⟩

def ofNat (n : Nat) : Extended := ⟨n, 0⟩

def ofRatio (num den : Nat) : Extended := nearest num den 0

def ofDouble (x : Double) : Extended := ⟨x.units, -1074⟩

def mul (x y : Extended) : Extended := nearest (x.digits * y.digits) 1 (x.scale + y.scale)

def ratio (x : Extended) : Nat × Nat :=
  (x.digits * Nat.pow 2 x.scale.toNat, Nat.pow 2 (-x.scale).toNat)

def floor (x : Extended) : Nat := x.ratio.1 / x.ratio.2

def lt (x y : Extended) : Bool := x.ratio.1 * y.ratio.2 < y.ratio.1 * x.ratio.2

def toDouble (x : Extended) (negative : Bool) : Double :=
  let (num, den) := x.ratio
  if Double.largest * den < num * Double.one then ⟨negative, Double.beyond⟩
  else .ofRatio negative num den

def power (e : Int) : Extended := ofRatio (Nat.pow 10 e.toNat) (Nat.pow 10 (-e).toNat)

def below (x : Extended) (e : Int) : Bool := x.lt (power e)

def scaleBy (x : Extended) (e : Int) : Extended :=
  let steps := List.replicate (e.natAbs / 100) (power (e.sign * 100)) ++
    List.replicate (e.natAbs % 100 / 10) (power (e.sign * 10)) ++
    List.replicate (e.natAbs % 10) (power e.sign)
  steps.foldl mul x

def stepWhile (test : Extended → Bool) (factor : Extended) : Nat → Extended → Extended × Nat
  | 0, x => (x, 0)
  | n + 1, x =>
    if test x then
      let (y, count) := stepWhile test factor n (x.mul factor)
      (y, count + 1)
    else (x, 0)

def maxSteps : Nat := 16

/-- The number between 10^17 and 10^19 that a number is times a power of ten, and its exponent. -/
def leading (x : Extended) : Extended × Int :=
  if x.below 19 then
    let (x, a) := stepWhile (·.below (-97)) (power 100) maxSteps x
    let (x, b) := stepWhile (·.below 7) (power 10) maxSteps x
    let (x, c) := stepWhile (·.below 17) (power 1) maxSteps x
    (x, -(100 * a + 10 * b + c : Nat))
  else
    let (x, a) := stepWhile (!·.below 119) (power (-100)) maxSteps x
    let (x, b) := stepWhile (!·.below 29) (power (-10)) maxSteps x
    let (x, c) := stepWhile (!·.below 19) (power (-1)) maxSteps x
    (x, (100 * a + 10 * b + c : Nat))

end Extended

end ImitationGame
