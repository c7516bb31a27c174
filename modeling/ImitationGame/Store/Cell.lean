import ImitationGame.Decimal.Digits
import ImitationGame.Decimal.Numeral
import ImitationGame.Json.Value

/-! What a cell of a table can hold. A column of numbers makes a number of any text that reads as
one, and keeps other text; a column of text writes numbers out. -/

namespace ImitationGame

inductive Cell where
  | int (n : Int)
  | real (x : Double)
  | text (s : String)
deriving DecidableEq, Repr

def Fits (bits : Nat) (n : Int) : Prop :=
  -Int.pow 2 (bits - 1) ≤ n ∧ n < Int.pow 2 (bits - 1)

instance (bits : Nat) (n : Int) : Decidable (Fits bits n) := inferInstanceAs (Decidable (_ ∧ _))

namespace Cell

open Decimal

/-- A whole number of 64 bits, but for the lowest, is not kept as a real. -/
def ofDouble (x : Double) : Cell :=
  match x.toInt? with
  | some n => if n.natAbs < Nat.pow 2 63 then int n else real x
  | none => real x

def ofNumeral (n : Numeral) : Cell :=
  match n.toInt? with
  | some i => if Fits 64 i then int i else ofDouble n.toDouble
  | none => ofDouble n.toDouble

def isSpace (c : Char) : Bool := c == ' ' || (0x09 ≤ c.toNat && c.toNat ≤ 0x0D)

def numeral? (s : String) : Option (Numeral × List Char) :=
  Numeral.head? (s.toList.dropWhile isSpace)

def toNumber : Cell → Cell
  | int n => int n
  | real x => ofDouble x
  | text s =>
    match numeral? s with
    | some (n, rest) => if rest.all isSpace then ofNumeral n else text s
    | none => text s

def realLayout : Layout := ⟨-4, 14, false, true⟩

def toText : Cell → String
  | int n => toString n
  | real x => realLayout.render x.negative (rounded x 15)
  | text s => s

def ofJson? : Json → Option Cell
  | .null => none
  | .bool b => some (int (if b then 1 else 0))
  | .int n => some (if Fits 64 n then int n else real (.ofInt n))
  | .real x => some (real x)
  | .text s => some (text s)
  | j => some (text j.render)

def int? : Cell → Option Int
  | int n => some n
  | real _ => none
  | text _ => none

def whole? (bits : Nat) (c : Cell) : Option Int := c.int?.filter fun n => Fits bits n

def ofFlag (b : Bool) : Cell := int (if b then 1 else 0)

def flag? (c : Cell) : Option Bool := c.int?.map (· ≠ 0)

def units : Cell → Int
  | int n => n * Double.one
  | real x => x.toUnits
  | text _ => 0

def upTo : Cell → Cell → Bool
  | int a, int b => a ≤ b
  | text a, text b => !b.toList.lex a.toList
  | text _, _ => false
  | _, text _ => true
  | a, b => a.units ≤ b.units

def same (a b : Cell) : Bool := a.upTo b && b.upTo a

def isPositive : Cell → Bool
  | int n => 0 < n
  | real x => 0 < x.toUnits
  | text _ => true

def lessOne : Cell → Cell
  | int n => int (n - 1)
  | real x => ofDouble (x.sub (.ofInt 1))
  | text s => text s

def pred : Cell → Cell
  | text s =>
    match numeral? s with
    | some (n, _) => (ofNumeral n).lessOne
    | none => int (-1)
  | c => c.lessOne

theorem flag_ofFlag (b : Bool) : (ofFlag b).flag? = some b := by cases b <;> rfl

theorem whole_int {bits : Nat} {n : Int} (h : Fits bits n) : (int n).whole? bits = some n := by
  simp [whole?, int?, Option.filter, h]

end Cell

end ImitationGame
