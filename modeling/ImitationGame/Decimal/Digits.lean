import ImitationGame.Decimal.Extended

namespace ImitationGame.Decimal

/-- The digits 0.ddd times ten to the power of the point. -/
structure Digits where
  digits : List Char
  point : Int
deriving DecidableEq, Repr

def magnitude (x : Double) : Int :=
  (Nat.toDigits 10 (x.units * Nat.pow 10 400 / Double.one)).length - 400

def onGrid (x : Double) (grid : Int) : Nat × Nat :=
  (x.units * Nat.pow 10 (-grid).toNat, Double.one * Nat.pow 10 grid.toNat)

def Digits.ofNat (n : Nat) (grid : Int) : Digits :=
  let ds := Nat.toDigits 10 n
  ⟨(ds.reverse.dropWhile (· == '0')).reverse, ds.length + grid⟩

def candidate? (x : Double) (count : Nat) : Option Digits :=
  let grid := magnitude x - count
  let (num, den) := onGrid x grid
  let back (n : Nat) : Bool := (Double.ofScaled x.negative n grid).units == x.units
  ([Double.roundDiv num den, num / den, num / den + 1].find? back).map (Digits.ofNat · grid)

/-- The fewest digits that are read as the number again; seventeen always are. -/
def shortest (x : Double) : Digits :=
  ((List.range' 1 17).findSome? (candidate? x)).getD ⟨[], 0⟩

def rounded (x : Double) (count : Nat) : Digits :=
  if x.units = 0 then ⟨[], 0⟩
  else
    let (y, e) := (Extended.ofDouble x).leading
    let extra := (Nat.toDigits 10 y.floor).length - count
    .ofNat ((2 * y.floor + Nat.pow 10 extra) / (2 * Nat.pow 10 extra)) (e + extra)

structure Layout where
  lowest : Int
  highest : Int
  /-- The fraction of a number with exponent may be left out. -/
  bare : Bool
  /-- The exponent has two digits at least. -/
  wide : Bool

def Layout.exponent (l : Layout) (e : Int) : String :=
  (if e < 0 then "-" else "+") ++ (if l.wide && e.natAbs < 10 then "0" else "") ++
    toString e.natAbs

def Layout.render (l : Layout) (negative : Bool) (d : Digits) : String :=
  let zeros (n : Int) := List.replicate n.toNat '0'
  let fraction (ds : List Char) := if ds.isEmpty then "0" else String.ofList ds
  let body :=
    if d.digits.isEmpty then "0.0"
    else if d.point - 1 < l.lowest || l.highest < d.point - 1 then
      let tail := d.digits.drop 1
      let behind := if tail.isEmpty && l.bare then "" else "." ++ fraction tail
      String.ofList (d.digits.take 1) ++ behind ++ "e" ++ l.exponent (d.point - 1)
    else if d.point ≤ 0 then "0." ++ String.ofList (zeros (-d.point) ++ d.digits)
    else
      let whole := d.digits.take d.point.toNat
      String.ofList (whole ++ zeros (d.point - whole.length)) ++ "." ++
        fraction (d.digits.drop d.point.toNat)
  (if negative then "-" else "") ++ body

end ImitationGame.Decimal
