import ImitationGame.Proofs.World.Operation

namespace ImitationGame

variable {s s' : Store} {i : Int} {o o' : Operation} {t t' u u' : Times}

def World.database (w : World) : Database := ⟨some w.store⟩

namespace Store

structure Rid (s : Store) (i : Int) : Prop where
  games : ∀ g ∈ s.games.rows, g.id ≠ i
  bots : ∀ b ∈ s.bots.rows, b.game ≠ i
  messages : ∀ m ∈ s.messages.rows, m.game ≠ i

theorem Tidy.rid_cleared (h : s.Tidy) : (s.cleared i).Rid i where
  games g hg := by simpa using (List.mem_filter.mp hg).2
  bots b hb := by simpa using (List.mem_filter.mp hb).2
  messages m hm := ((mem_cleared_messages h).mp hm).2

end Store

namespace Agree

variable {α : Type} {R : α → α → Prop} {x x' : Transaction α}

theorem alike_after (h : Agree (Store.Concurs i R) (x s) (x' s')) (hs : Store.Alike i s s') :
    Store.Alike i (s.after x) (s'.after x') := by
  unfold Store.after
  generalize x s = y at h ⊢
  generalize x' s' = y' at h ⊢
  cases h with
  | error => exact hs
  | ok h => exact h.2

theorem map_fst {β : Type} {f : α → β} {y y' : Except Fault (α × Store)}
    (h : Agree (Store.Concurs i fun a a' => f a' = f a) y y') :
    (y'.map Prod.fst).map f = (y.map Prod.fst).map f := by
  cases h with
  | error => rfl
  | ok h => exact congrArg Except.ok h.1

end Agree

namespace Operation

theorem perform_eq_after (o : Operation) (t : Times) (s : Store) :
    o.perform t ⟨some s⟩ = ((o.act t s).map Prod.fst, ⟨some (s.after (o.act t))⟩) := by
  rw [perform_eq]
  refine Prod.ext ?_ (Database.run_eq_after s _)
  rw [Database.run_created]
  rcases o.act t s with f | ⟨a, s'⟩ <;> rfl

theorem after_carries (h : s.Faithful) (o : Operation) (t : Times) :
    Store.Carries o.game s (s.after (o.act t)) ∧ (s.after (o.act t)).players = s.players := by
  rcases s.eq_or_eq_after (o.act t) with he | ⟨a, s', ha, he⟩
  · rw [he]
    exact ⟨h.carries_self _, rfl⟩
  · rw [he]
    exact act_carries h ha

theorem twins_after (h : s.Faithful) (hi : o.game ≠ o'.game) (t' : Times) :
    Store.Twins o.game s (s.after (o'.act t')) := by
  obtain ⟨hc, hp⟩ := after_carries h o' t'
  exact ⟨h, hc.faithful h, hc.apart.same hi, hp⟩

theorem act_after (h : s.Faithful) (hi : o.game ≠ o'.game)
    (hl : s.messages.last + 2 < Int.pow 2 63) (hc : o.Deletes → u.first = t.first) (t' : Times) :
    Agree (Store.Concurs o.game fun a a' => a'.unstamped = a.unstamped) (o.act t s)
      (o.act u (s.after (o'.act t'))) := by
  have hf := twins_after h hi t'
  obtain ⟨hc', -⟩ := after_carries h o' t'
  have hle := hc'.le_succ
  refine act_concurs hf ?_ ?_ hc
  · rw [Store.HasRoom, h.tidy.messages.nextId_eq]
    omega
  · rw [Store.HasRoom, hf.right.tidy.messages.nextId_eq]
    omega

theorem equivalent_after (h : s.Faithful) (hi : o.game ≠ o'.game)
    (hl : s.messages.last + 2 < Int.pow 2 63) (hc : o.Deletes → u.first = t.first)
    (hc' : o'.Deletes → u'.first = t'.first) :
    ((s.after (o.act t)).after (o'.act t')).Equivalent
      ((s.after (o'.act u')).after (o.act u)) := by
  obtain ⟨h₁, hp₁⟩ := after_carries h o t
  obtain ⟨h₂, hp₂⟩ := after_carries h o' u'
  obtain ⟨h₁₂, hp₁₂⟩ := after_carries (h₁.faithful h) o' t'
  obtain ⟨h₂₁, hp₂₁⟩ := after_carries (h₂.faithful h) o u
  have ho := (act_after h hi hl hc u').alike_after (h₂.apart.same hi).alike
  have ho' := (act_after h hi.symm hl (fun hd => (hc' hd).symm) t).alike_after
    (h₁.apart.same hi.symm).alike
  refine Store.equivalent_of_alike (fun k => ?_) h₁₂.tidy h₂₁.tidy ?_
  · by_cases hk : k = o.game
    · subst hk
      exact (h₁₂.apart.same hi).alike.symm.trans ho
    by_cases hk' : k = o'.game
    · subst hk'
      exact ho'.symm.trans (h₂₁.apart.same hk).alike
    · exact ((h₁.apart.same hk).trans (h₁₂.apart.same hk')).alike.symm.trans
        ((h₂.apart.same hk').trans (h₂₁.apart.same hk)).alike
  · rw [hp₂₁, hp₂, hp₁₂, hp₁]

end Operation

namespace World

/-- An operation that fails changes no row. One that answers changes rows of its game only, deletes
all of them if it is to delete, and leaves every message between bots of its own game. Two
operations on different games give the same answers and leave the same rows in either order, while
there are ids left for their messages, but for ids and times. Whether a game is old enough to be
deleted is told from the clock, which must show the same time then. -/
theorem run_isolated (moves : List (Instant × Move)) (o : Operation) (t : Times) :
    (∀ f, (o.perform t (run moves).database).1 = .error f →
      (o.perform t (run moves).database).2 = (run moves).database) ∧
    (∀ a, (o.perform t (run moves).database).1 = .ok a → ∃ s,
      (o.perform t (run moves).database).2 = ⟨some s⟩ ∧
      (run moves).store.SparesOthers o.game s ∧ (o.Deletes → s.Rid o.game) ∧
      ∀ m ∈ s.messages.rows, s.HasBot m.game m.source ∧ s.HasBot m.game m.target) ∧
    ∀ (o' : Operation) (t' u u' : Times), o.game ≠ o'.game →
      (run moves).store.messages.last + 2 < Int.pow 2 63 →
      (o.Deletes → u.first = t.first) → (o'.Deletes → u'.first = t'.first) →
      let x := o.perform t (run moves).database
      let x' := o'.perform t' x.2
      let y' := o'.perform u' (run moves).database
      let y := o.perform u y'.2
      y.1.map Answer.unstamped = x.1.map Answer.unstamped ∧
        y'.1.map Answer.unstamped = x'.1.map Answer.unstamped ∧
        ∃ s s', x'.2 = ⟨some s⟩ ∧ y.2 = ⟨some s'⟩ ∧ s.Equivalent s' := by
  have h := run_faithful moves
  simp only [database, Operation.perform_eq_after]
  refine ⟨fun f hf => ?_, fun a he => ?_, fun o' t' u u' hi hl hc hc' => ⟨?_, ?_, ?_⟩⟩
  · rw [Store.after, map_eq_error.mp hf]
  · obtain ⟨⟨_, s⟩, ha, rfl⟩ := map_eq_ok.mp he
    obtain ⟨hs, hp⟩ := Operation.act_carries h ha
    refine ⟨s, by rw [Store.after, ha], hs.apart.sparesOthers h.tidy hs.tidy hp, fun hd => ?_,
      fun m hm => (hs.tidy.spoken m hm).2⟩
    exact hd.eq_cleared ha ▸ h.tidy.rid_cleared
  · exact (Operation.act_after h hi hl hc u').map_fst
  · exact (Operation.act_after h hi.symm hl (fun hd => (hc' hd).symm) t).map_fst.symm
  · exact ⟨_, _, rfl, rfl, Operation.equivalent_after h hi hl hc hc'⟩

def samplePair : List (Instant × Move) := sample ++ [(7, .openNamed ["Dan", "Eve"])]

def sampleAnswer : Operation :=
  .work ⟨.fixed 7, ⟨3600, 60⟩⟩ ⟨.answerAsAi, 1⟩ fun _ => .ok "Nobody."

def sampleDeletion : Operation :=
  .work ⟨.fixed 7, ⟨3600, 60⟩⟩ ⟨.deleteExpired, 2⟩ fun _ => .error .disabled

def sampleLater : Times := ⟨.seconds 4001, .seconds 4002⟩

theorem sample_isolated :
    let x := sampleAnswer.perform ⟨8, 9⟩ (run samplePair).database
    let x' := sampleDeletion.perform sampleLater x.2
    let y' := sampleDeletion.perform sampleLater (run samplePair).database
    let y := sampleAnswer.perform sampleLater y'.2
    x.1.isOk = true ∧ x'.1.isOk = true ∧ y.1.map Answer.unstamped = x.1.map Answer.unstamped ∧
      ∃ s s', x'.2 = ⟨some s⟩ ∧ y.2 = ⟨some s'⟩ ∧ s.Equivalent s' := by
  obtain ⟨-, -, h⟩ := run_isolated samplePair sampleAnswer ⟨8, 9⟩
  have hd : ¬sampleAnswer.Deletes := by
    rintro ⟨_, _, _, he⟩
    cases he
  obtain ⟨ha, -, he⟩ := h sampleDeletion sampleLater sampleLater sampleLater (by decide)
    (by decide +kernel) (fun h => absurd h hd) fun _ => rfl
  exact ⟨by decide +kernel, by decide +kernel, ha, he⟩

end World

end ImitationGame
