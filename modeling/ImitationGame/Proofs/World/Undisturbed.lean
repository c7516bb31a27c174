import ImitationGame.Proofs.Job.Offer
import ImitationGame.Proofs.World.Drive
import ImitationGame.Proofs.World.Lifetime

/-! While a game waits for an AI nothing but the turn of that AI changes it: no player is due, and
no other job is. -/

namespace ImitationGame

variable {s s' : Store} {w : World} {i player : Int} {g : Game} {b : Bot} {kind : MessageKind}
variable {c : Change} {u : Utterance} {t : AiTurn} {now : Instant} {m : Move}
variable {moves : List (Instant × Move)}

namespace Game

theorem acting_of_advance (h : g.advance u = .ok c) : g.acting = .ok (some u.source) := by
  apply acting_eq_some_iff.mpr
  cases hu : u.kind with
  | question =>
    obtain ⟨hq, ht, -⟩ := (advance_question_iff hu).mp h
    exact .inl ⟨hq, ht⟩
  | answer =>
    obtain ⟨ha, -, ht, -⟩ := (advance_answer_iff hu).mp h
    exact .inr ⟨ha, ht⟩

theorem Consistent.acting_ne (hc : g.Consistent) (hg : g.Seated)
    (hs : g.stage = .awaiting .ai kind) (hb : g.botOf? player = some b) :
    g.acting ≠ .ok (some b.id) := by
  intro ha
  obtain ⟨x, hx, hxa, hd⟩ := hc.exists_acting hs
  obtain ⟨hm, hp⟩ := botOf?_eq_some hb
  have hi : x.id = b.id := Option.some.inj (Except.ok.inj (hxa.symm.trans ha))
  have hxb : x = b := hg.eq_of_id_eq hx hm hi
  have hn : b.driver = .human := (hg.owned b hm).mpr (by simp [hp])
  rw [← hxb, hd] at hn
  cases hn

end Game

namespace World

theorem Act.same_or_gone {s : Store} (h : w.Act now g m s) (hf : w.store.Faithful)
    (hg : w.store.Holds g.id g) (hs : g.stage = .awaiting .ai kind)
    (hm : ∀ turn ∈ w.turns, turn.game = g.id → turn.kind = kind → ∀ reply, m ≠ .finish turn reply) :
    Store.Same g.id w.store s ∨ s.Gone g.id := by
  obtain ⟨hse, hc⟩ := (hf.of_load hg.load).2.sound
  cases h with
  | rest => exact .inl (.refl _ _)
  | join hst => simp [hs] at hst
  | start _ hst =>
    obtain ⟨hst, -⟩ := Game.start_eq_ok_iff.mp hst
    simp [hs] at hst
  | tag hb ho =>
    obtain ⟨-, ha, -⟩ := Game.tag_eq_ok_iff.mp ho
    exact absurd ha (hc.acting_ne hse hs hb)
  | speak hb hu hadv =>
    have ha := Game.acting_of_advance hadv
    rw [hu] at ha
    exact absurd ha (hc.acting_ne hse hs hb)
  | @finish turn reply c ht hi hst =>
    have hk : turn.kind = kind := by
      rw [hs, AiTurn.stage] at hst
      injection hst with _ hk
      exact hk.symm
    exact absurd rfl (hm turn ht hi hk reply)
  | hint hb ha => exact absurd ha (hc.acting_ne hse hs hb)
  | delete => exact .inr (hg.gone_cleared hf.tidy)

theorem step_undisturbed (h : w.store.Faithful) (hg : w.store.Holds i g)
    (hs : g.stage = .awaiting .ai kind) (now : Instant)
    (hm : ∀ turn ∈ w.turns, turn.game = i → turn.kind = kind → ∀ reply, m ≠ .finish turn reply) :
    Store.Same i w.store (w.step now m).store ∨ (w.step now m).store.Gone i := by
  by_cases hi : m.game? = some i
  · have ha := step_act h hg hi now
    obtain rfl := hg.id_eq
    exact ha.same_or_gone h hg hs hm
  · exact .inl (step_same h hg hi now)

theorem runFrom_undisturbed (moves : List (Instant × Move)) (h : w.store.Faithful)
    (hg : w.store.Holds i g) (hs : g.stage = .awaiting .ai kind)
    (hm : ∀ earlier now m, earlier ++ [(now, m)] <+: moves → ∀ turn ∈ (w.runFrom earlier).turns,
      turn.game = i → turn.kind = kind → ∀ reply, m ≠ .finish turn reply) :
    Store.Same i w.store (w.runFrom moves).store ∨ (w.runFrom moves).store.Gone i := by
  refine runFrom_keeps (P := Store.Same i w.store) moves h (.refl i _) fun earlier m he hsame => ?_
  have hf := runFrom_faithful h earlier
  have hstep := step_undisturbed hf (hsame.holds hg) hs m.1 (hm earlier m.1 m.2 he)
  exact hstep.imp_left hsame.trans

end World

end ImitationGame
