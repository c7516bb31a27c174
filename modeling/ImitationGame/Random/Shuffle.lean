import ImitationGame.Random.Stream

/-! Shuffling: exchanges downwards from the end of a list, and batched exchanges upwards. -/

namespace ImitationGame.Random

namespace Shuffle

variable {α : Type}

def swap (xs : List α) (i j : Nat) : List α :=
  match xs[i]?, xs[j]? with
  | some a, some b => (xs.set i b).set j a
  | _, _ => xs

def exchange : Nat → List Nat → List α → List α
  | n + 1, j :: draws, xs => exchange n draws (swap xs (n + 1) j)
  | _, _, xs => xs

def draws : Nat → Stream → List Nat × Stream
  | 0, s => ([], s)
  | n + 1, s =>
    let (j, s) := s.below (n + 2)
    let (js, s) := draws n s
    (j :: js, s)

def downwards (xs : List α) (s : Stream) : List α × Stream :=
  let (js, s) := draws (xs.length - 1) s
  (exchange (xs.length - 1) js xs, s)

def batch : Nat → Nat → Nat → Nat → Nat × Nat
  | 0, product, _, count => (product, count)
  | fuel + 1, product, factor, count =>
    if product * factor < Nat.pow 2 32 then batch fuel (product * factor) (factor + 1) (count + 1)
    else (product, count)

structure Chunk where
  settled : Nat
  value : Nat
  left : Nat

/-- The index for the next position: a digit of a number that was drawn for several at once. -/
def Chunk.next (c : Chunk) (s : Stream) : Nat × Chunk × Stream :=
  let n := c.settled + 1
  let (c, s) :=
    if c.left = 0 then
      let (bound, count) := batch 32 n (n + 1) 1
      let (value, s) := s.below bound
      (({ c with value, left := count } : Chunk), s)
    else (c, s)
  if c.left = 1 then (c.value, ⟨n, c.value, 0⟩, s)
  else (c.value % n, ⟨n, c.value / n, c.left - 1⟩, s)

def upwardsFrom (i : Nat) : Nat → Chunk → List α → Stream → List α × Stream
  | 0, _, xs, s => (xs, s)
  | n + 1, c, xs, s =>
    let (j, c, s) := c.next s
    upwardsFrom (i + 1) n c (swap xs i j) s

def upwards (xs : List α) (s : Stream) : List α × Stream :=
  if xs.length < 2 then (xs, s) else upwardsFrom 0 xs.length ⟨0, 0, 1⟩ xs s

theorem length_swap (xs : List α) (i j : Nat) : (swap xs i j).length = xs.length := by
  unfold swap; split <;> simp

end Shuffle

end ImitationGame.Random
