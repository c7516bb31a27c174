import ImitationGame.Proofs.Outcome
import Mathlib.Data.List.Forall2

/-! Two computations that fail alike, with the same fault, or answer with related results; and lists
that are related row by row. -/

namespace ImitationGame

variable {ε α β γ δ : Type} {R : α → β → Prop} {S : γ → δ → Prop}

inductive Agree (R : α → β → Prop) : Except ε α → Except ε β → Prop where
  | error (e : ε) : Agree R (.error e) (.error e)
  | ok {a b} : R a b → Agree R (.ok a) (.ok b)

namespace Agree

variable {x : Except ε α} {y : Except ε β} {f : α → Except ε γ} {k : β → Except ε δ}

theorem of_eq {x y : Except ε α} (h : y = x) : Agree Eq x y := by
  subst h
  cases y with
  | error e => exact .error e
  | ok a => exact .ok rfl

theorem eq {x y : Except ε α} (h : Agree Eq x y) : y = x := by
  cases h with
  | error => rfl
  | ok h => rw [h]

theorem mono {R' : α → β → Prop} (h : Agree R x y) (hr : ∀ a b, R a b → R' a b) : Agree R' x y := by
  cases h with
  | error e => exact .error e
  | ok h => exact .ok (hr _ _ h)

theorem bind (h : Agree R x y)
    (hf : ∀ a b, x = .ok a → y = .ok b → R a b → Agree S (f a) (k b)) :
    Agree S (x >>= f) (y >>= k) := by
  cases h with
  | error e => exact .error e
  | ok h => exact hf _ _ rfl rfl h

theorem after {z : Except ε α} {f : α → Except ε γ} {k : α → Except ε δ}
    (hf : ∀ a, z = .ok a → Agree S (f a) (k a)) : Agree S (z >>= f) (z >>= k) := by
  refine (of_eq rfl).bind fun a b ha _ he => ?_
  subst he
  exact hf a ha

theorem ite {p : Prop} [Decidable p] {x' : Except ε α} {y' : Except ε β} (ht : p → Agree R x y)
    (hf : ¬p → Agree R x' y') : Agree R (if p then x else x') (if p then y else y') := by
  split
  · exact ht ‹_›
  · exact hf ‹_›

theorem mapM {xs : List α} {ys : List β} (h : List.Forall₂ R xs ys)
    (hf : ∀ a b, R a b → Agree S (f a) (k b)) : Agree (List.Forall₂ S) (xs.mapM f) (ys.mapM k) := by
  induction h with
  | nil => exact .ok .nil
  | cons hr _ ih =>
    rw [List.mapM_cons, List.mapM_cons]
    exact (hf _ _ hr).bind fun c d _ _ hs => ih.bind fun cs ds _ _ hss => .ok (.cons hs hss)

theorem lift {x : Except Refusal α} {y : Except Refusal β} (h : Agree R x y) :
    Agree R (Refusal.lift x) (Refusal.lift y) := by
  cases h with
  | error e => exact .error _
  | ok h => exact .ok h

end Agree

section

variable {xs : List α} {ys : List β} {p : α → Bool} {q : β → Bool}

theorem find?_cases (h : List.Forall₂ R xs ys) (hp : ∀ a b, R a b → q b = p a) :
    (xs.find? p = none ∧ ys.find? q = none) ∨
      ∃ a b, xs.find? p = some a ∧ ys.find? q = some b ∧ R a b ∧ p a = true := by
  induction h with
  | nil => exact .inl ⟨rfl, rfl⟩
  | @cons a b xs ys hr _ ih =>
    rw [List.find?_cons, List.find?_cons, hp a b hr]
    cases hpa : p a with
    | true => exact .inr ⟨a, b, rfl, rfl, hr, hpa⟩
    | false => exact ih

theorem countP_eq_of_forall₂ (h : List.Forall₂ R xs ys) (hp : ∀ a ∈ xs, ∀ b, R a b → q b = p a) :
    ys.countP q = xs.countP p := by
  induction h with
  | nil => rfl
  | @cons a b xs ys hr _ ih =>
    obtain ⟨ha, hp⟩ := List.forall_mem_cons.mp hp
    rw [List.countP_cons, List.countP_cons, ha b hr, ih hp]

theorem sort_forall₂ {le : α → α → Bool} {le' : β → β → Bool} (h : List.Forall₂ R xs ys)
    (hle : ∀ a b c d, R a b → R c d → le' b d = le a c) :
    List.Forall₂ R (Sorted.sort le xs) (Sorted.sort le' ys) := by
  have hi : ∀ a b cs ds, R a b → List.Forall₂ R cs ds →
      List.Forall₂ R (Sorted.insert le a cs) (Sorted.insert le' b ds) := by
    intro a b cs ds hr hs
    induction hs with
    | nil => exact .cons hr .nil
    | @cons c d cs ds hc hcs ih =>
      rw [Sorted.insert, Sorted.insert, hle a b c d hr hc]
      split
      · exact .cons hr (.cons hc hcs)
      · exact .cons hc ih
  exact List.rel_foldr (fun a b hr cs ds hs => hi a b cs ds hr hs) .nil h

end

end ImitationGame
