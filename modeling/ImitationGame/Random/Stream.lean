namespace ImitationGame.Random

structure Stream where
  word : Nat → UInt32
  position : Nat

namespace Stream

def next (s : Stream) : Nat × Stream :=
  ((s.word s.position).toNat, { s with position := s.position + 1 })

def half : Nat := Nat.pow 2 32

/-- Multiply a word by the bound and keep the high half; a second word settles whether the part
cut off below would have carried. The bound is at most `2 ^ 32` and positive. -/
def below (bound : Nat) (s : Stream) : Nat × Stream :=
  let (x, s) := s.next
  let high := x * bound / half
  let low := x * bound % half
  if half - bound < low then
    let (y, s) := s.next
    (if half ≤ low + y * bound / half then high + 1 else high, s)
  else (high, s)

def take (s : Stream) : Nat → List UInt32
  | 0 => []
  | n + 1 => s.word s.position :: take { s with position := s.position + 1 } n

theorem next_lt (s : Stream) : s.next.1 < half := (s.word s.position).toNat_lt

theorem below_lt {bound : Nat} (h : 0 < bound) (s : Stream) : (s.below bound).1 < bound := by
  have hhigh : s.next.1 * bound / half < bound :=
    Nat.div_lt_of_lt_mul (Nat.mul_lt_mul_of_pos_right (next_lt s) h)
  simp only [below]
  split
  · rename_i hlow
    split
    · -- With the high half at its largest, what is cut off is too little to carry.
      have hx : (s.next.1 + 1) * bound ≤ half * bound := Nat.mul_le_mul_right bound (next_lt s)
      have hdm := Nat.div_add_mod (s.next.1 * bound) half
      rw [Nat.succ_mul] at hx
      refine Nat.lt_of_not_le fun hle => ?_
      have hb := Nat.mul_le_mul_left half hle
      rw [Nat.mul_succ] at hb
      omega
    · exact hhigh
  · exact hhigh

end Stream

end ImitationGame.Random
