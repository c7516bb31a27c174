import ImitationGame.Random.Shuffle

namespace ImitationGame.Random.Shuffle

variable {α : Type}

theorem swap_perm (xs : List α) (i j : Nat) : (swap xs i j).Perm xs := by
  unfold swap
  split
  · rename_i a b ha hb
    obtain ⟨hi, rfl⟩ := List.getElem?_eq_some_iff.mp ha
    obtain ⟨hj, rfl⟩ := List.getElem?_eq_some_iff.mp hb
    exact List.set_set_perm hi hj
  · exact .refl _

theorem exchange_perm (n : Nat) (draws : List Nat) (xs : List α) :
    (exchange n draws xs).Perm xs := by
  induction n generalizing draws xs with
  | zero => exact .refl _
  | succ n ih =>
    cases draws with
    | nil => exact .refl _
    | cons j draws => exact (ih draws _).trans (swap_perm xs (n + 1) j)

theorem downwards_perm (xs : List α) (s : Stream) : (downwards xs s).1.Perm xs :=
  exchange_perm _ _ xs

end ImitationGame.Random.Shuffle
