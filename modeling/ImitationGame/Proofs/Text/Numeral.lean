import ImitationGame.Text.Blank
import ImitationGame.Text.Numeral
import Mathlib.Algebra.Group.Int.Defs
import Mathlib.Algebra.Group.Nat.Defs
import Mathlib.Tactic.Basic

namespace ImitationGame.Text.Numeral

variable {n : Nat} {c : Char}

theorem isLong_iff {i : Int} : IsLong i ↔ -2 ^ 63 ≤ i ∧ i < 2 ^ 63 := Iff.rfl

theorem isDigit_of_mem_toDigits (h : c ∈ Nat.toDigits 10 n) : c.isDigit = true :=
  Nat.isDigit_of_mem_toDigits (by decide) (by decide) h

theorem head?_toDigits (h : 0 < n) : (Nat.toDigits 10 n).head? ≠ some '0' := by
  induction n using Nat.base_induction 10 (by decide) with
  | single m hm =>
    have hd : ∀ m < 10, 0 < m → [m.digitChar].head? ≠ some '0' := by decide
    rw [Nat.toDigits_of_lt_base hm]
    exact hd m hm h
  | digit m k hk hm ih =>
    obtain ⟨c, cs, hc⟩ := List.exists_cons_of_ne_nil (Nat.toDigits_ne_nil (n := m) (b := 10))
    rw [← Nat.toDigits_append_toDigits (by decide) hm hk, hc]
    rw [hc] at ih
    exact ih hm

theorem value_toDigits (n : Nat) : value (Nat.toDigits 10 n) = n := by
  have hv (cs : List Char) : value cs = Nat.ofDigitChars 10 cs 0 := by
    simp only [value, Nat.ofDigitChars, Nat.mul_comm]
  rw [hv, Nat.ofDigitChars_ten_toDigits]

theorem digits?_toDigits (n : Nat) : digits? (Nat.toDigits 10 n) = some n := by
  have hall : (Nat.toDigits 10 n).all Char.isDigit = true :=
    List.all_eq_true.mpr fun _ => isDigit_of_mem_toDigits
  rw [digits?, if_pos ⟨Nat.toDigits_ne_nil, hall⟩, value_toDigits]

def signed : Int → List Char
  | .ofNat n => Nat.toDigits 10 n
  | .negSucc n => '-' :: Nat.toDigits 10 (n + 1)

theorem toList_toString (i : Int) : (toString i).toList = signed i := by
  cases i with
  | ofNat n => exact Nat.toList_repr
  | negSucc n =>
    have h : toString (Int.negSucc n) = "-" ++ Nat.repr (n + 1) := rfl
    rw [h, String.toList_append, Nat.toList_repr]
    rfl

theorem of_mem_signed {i : Int} (h : c ∈ signed i) : c = '-' ∨ c.isDigit = true := by
  cases i with
  | ofNat n => exact .inr (isDigit_of_mem_toDigits h)
  | negSucc n => exact (List.mem_cons.mp h).imp_right isDigit_of_mem_toDigits

theorem isBlank_of_mem_signed {i : Int} (h : c ∈ signed i) : Blank.isBlank c = false := by
  rcases of_mem_signed h with rfl | hd
  · decide
  · have hn : 48 ≤ c.toNat ∧ c.toNat ≤ 57 := Char.isDigit_iff_toNat.mp hd
    grind [Blank.isBlank]

theorem zero_notMem_signed (i : Int) : '\x00' ∉ signed i := fun h =>
  absurd (of_mem_signed h) (by decide)

theorem integer?_signed (i : Int) : integer? (signed i) = some i := by
  cases i with
  | ofNat n =>
    have hd : integer? (Nat.toDigits 10 n) = (digits? (Nat.toDigits 10 n)).map Int.ofNat := by
      have hs (c : Char) (cs : List Char) (h : Nat.toDigits 10 n = c :: cs) : c.isDigit = true :=
        isDigit_of_mem_toDigits (h ▸ List.mem_cons_self)
      unfold integer?
      split
      · exact absurd (hs _ _ ‹_›) (by decide)
      · exact absurd (hs _ _ ‹_›) (by decide)
      · rfl
    rw [signed, hd, digits?_toDigits]
    rfl
  | negSucc n =>
    rw [signed, integer?, digits?_toDigits]
    rfl

theorem long?_toString {i : Int} (h : IsLong i) : long? (toString i).toList = some i := by
  rw [long?, toList_toString, integer?_signed, Option.filter_some, if_pos (decide_eq_true h)]

end ImitationGame.Text.Numeral
