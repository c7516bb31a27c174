namespace ImitationGame

class Keyed (ρ : Type) where
  id : ρ → Int

structure Table (ρ : Type) where
  rows : List ρ
  last : Int

namespace Table

variable {ρ : Type}

def empty : Table ρ := ⟨[], 0⟩

/-- An id that no row has had, nor any row given a higher one by hand. -/
def nextId [Keyed ρ] (t : Table ρ) : Int := (t.rows.map Keyed.id).foldl max t.last + 1

def insert? [Keyed ρ] (t : Table ρ) (row : Int → ρ) : Option (ρ × Table ρ) :=
  if t.nextId < Int.pow 2 63 then some (row t.nextId, ⟨t.rows ++ [row t.nextId], t.nextId⟩)
  else none

def update (t : Table ρ) (hit : ρ → Bool) (change : ρ → ρ) : Table ρ :=
  { t with rows := t.rows.map fun r => if hit r then change r else r }

def delete (t : Table ρ) (hit : ρ → Bool) : Table ρ :=
  { t with rows := t.rows.filter fun r => !hit r }

def count (t : Table ρ) (hit : ρ → Bool) : Nat := t.rows.countP hit

end Table

namespace Sorted

variable {α : Type}

def insert (le : α → α → Bool) (a : α) : List α → List α
  | [] => [a]
  | b :: bs => if le a b then a :: b :: bs else b :: insert le a bs

def sort (le : α → α → Bool) (xs : List α) : List α := xs.foldr (insert le) []

theorem insert_perm (le : α → α → Bool) (a : α) (xs : List α) :
    (insert le a xs).Perm (a :: xs) := by
  induction xs with
  | nil => exact .refl _
  | cons b bs ih =>
    simp only [insert]
    split
    · exact .refl _
    · exact (ih.cons b).trans (.swap a b bs)

theorem sort_perm (le : α → α → Bool) (xs : List α) : (sort le xs).Perm xs := by
  induction xs with
  | nil => exact .refl _
  | cons a as ih => exact (insert_perm le a _).trans (ih.cons a)

theorem sort_eq_self {le : α → α → Bool} {xs : List α} (h : xs.Pairwise fun a b => le a b) :
    sort le xs = xs := by
  induction xs with
  | nil => rfl
  | cons a as ih =>
    rw [List.pairwise_cons] at h
    show insert le a (sort le as) = a :: as
    rw [ih h.2]
    cases as with
    | nil => rfl
    | cons b bs => simp [insert, h.1 b (by simp)]

end Sorted

end ImitationGame
