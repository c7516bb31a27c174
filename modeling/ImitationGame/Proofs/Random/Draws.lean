import ImitationGame.Random.Shuffle

namespace ImitationGame.Random.Shuffle

variable {α : Type} {xs : List α} {n i j : Nat}

/-- A draw for each position from `n` down to 1, and none beyond its position. -/
def Fits : Nat → List Nat → Prop
  | n + 1, j :: draws => j ≤ n + 1 ∧ Fits n draws
  | 0, [] => True
  | _, _ => False

theorem fits_zero {draws : List Nat} : Fits 0 draws ↔ draws = [] := by
  cases draws with
  | nil => simp [Fits]
  | cons => simp [Fits]

theorem fits_draws (n : Nat) (s : Stream) : Fits n (draws n s).1 := by
  induction n generalizing s with
  | zero => trivial
  | succ n ih => exact ⟨Nat.le_of_lt_succ (Stream.below_lt (Nat.succ_pos _) s), ih _⟩

def swap? (xs : List α) (i j : Nat) : Option (List α) :=
  match xs[i]?, xs[j]? with
  | some a, some b => some ((xs.set i b).set j a)
  | _, _ => none

def exchange? : Nat → List Nat → List α → Option (List α)
  | n + 1, j :: draws, xs => (swap? xs (n + 1) j).bind (exchange? n draws)
  | _, _, xs => some xs

def downwards? (xs : List α) (s : Stream) : Option (List α) :=
  exchange? (xs.length - 1) (draws (xs.length - 1) s).1 xs

theorem swap?_eq_some (hi : i < xs.length) (hj : j < xs.length) :
    swap? xs i j = some (swap xs i j) := by
  rw [swap?, swap, List.getElem?_eq_getElem hi, List.getElem?_eq_getElem hj]

theorem exchange?_eq_some {draws : List Nat} (hf : Fits n draws) (hn : n < xs.length) :
    exchange? n draws xs = some (exchange n draws xs) := by
  induction n generalizing draws xs with
  | zero => rfl
  | succ n ih =>
    cases draws with
    | nil => exact hf.elim
    | cons j draws =>
      rw [exchange?, swap?_eq_some hn (Nat.lt_of_le_of_lt hf.1 hn), Option.bind_some]
      exact ih hf.2 (by rw [length_swap]; exact Nat.lt_of_succ_lt hn)

theorem downwards?_eq_some (xs : List α) (s : Stream) :
    downwards? xs s = some (downwards xs s).1 := by
  cases xs with
  | nil => rfl
  | cons a as => exact exchange?_eq_some (fits_draws _ s) (Nat.lt_succ_self _)

end ImitationGame.Random.Shuffle
