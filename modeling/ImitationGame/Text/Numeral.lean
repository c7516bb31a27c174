namespace ImitationGame.Text.Numeral

def value (cs : List Char) : Nat :=
  cs.foldl (fun n c => n * 10 + (c.toNat - '0'.toNat)) 0

def digits? (cs : List Char) : Option Nat :=
  if cs ≠ [] ∧ cs.all Char.isDigit then some (value cs) else none

def natural? : List Char → Option Nat
  | '+' :: cs => digits? cs
  | cs => digits? cs

def integer? : List Char → Option Int
  | '+' :: cs => (digits? cs).map Int.ofNat
  | '-' :: cs => (digits? cs).map fun n => -Int.ofNat n
  | cs => (digits? cs).map Int.ofNat

def word? (bits : Nat) (cs : List Char) : Option Nat :=
  (natural? cs).filter (· < Nat.pow 2 bits)

def IsLong (n : Int) : Prop := -Int.pow 2 63 ≤ n ∧ n < Int.pow 2 63

instance (n : Int) : Decidable (IsLong n) := inferInstanceAs (Decidable (_ ∧ _))

def long? (cs : List Char) : Option Int :=
  (integer? cs).filter fun n => decide (IsLong n)

theorem isLong_of_long? {cs : List Char} {n : Int} (h : long? cs = some n) : IsLong n := by
  simpa [long?] using (Option.filter_eq_some_iff.1 h).2

end ImitationGame.Text.Numeral
