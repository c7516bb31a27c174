import ImitationGame.Proofs.Scene.Kinship
import ImitationGame.Proofs.Store.Stale
import ImitationGame.Proofs.World.Lifetime

namespace ImitationGame

variable {w : World} {i : Int} {g : Game} {u : Utterance} {c : Change} {now : Instant}

namespace World

theorem runFrom_kin (h : w.store.Faithful) (hg : w.store.Holds i g) (hu : g.stage.Underway)
    (moves : List (Instant × Move)) :
    (∃ g', (w.runFrom moves).store.Holds i g' ∧ g.Kin g') ∨ (w.runFrom moves).store.Gone i := by
  have hk := runFrom_keeps (i := i) moves h
    (P := fun s => ∃ g', s.Holds i g' ∧ g.Kin g' ∧ g'.stage.Underway) ⟨g, hg, .refl g, hu⟩
  refine (hk ?_).imp_left fun ⟨g', hg', hkin, _⟩ => ⟨g', hg', hkin⟩
  rintro earlier m - ⟨g', hg', hkin, hu'⟩
  have hf := runFrom_faithful h earlier
  by_cases hi : m.2.game? = some i
  · have ha := step_act hf hg' hi m.1
    obtain rfl := hg'.id_eq
    rcases ha.step hf hg' with hgone | hsame | ⟨g'', hg'', hst⟩
    · exact .inr hgone
    · exact .inl ⟨g', hsame.holds hg', hkin, hu'⟩
    · obtain ⟨hkin', hu''⟩ := hst.kin hu'
      exact .inl ⟨g'', hg'', hkin.trans hkin', hu''⟩
  · exact .inl ⟨g', (step_same hf hg' hi m.1).holds hg', hkin, hu'⟩

/-- A change that was computed from a game is written at a later time only where it is legal again;
elsewhere it is refused. -/
theorem run_late_change (earlier later : List (Instant × Move)) (i : Int) (g : Game)
    (u : Utterance) (c : Change) (now : Instant)
    (hl : (run earlier).store.load i = .ok g) (hc : g.advance u = .ok c) :
    (∀ s, (run (earlier ++ later)).store.update now i c = .ok s →
      ∃ g', (run (earlier ++ later)).store.load i = .ok g' ∧ g'.Renews u c) ∧
    ∀ f, (run (earlier ++ later)).store.update now i c = .error f →
      (∃ g', (run (earlier ++ later)).store.load i = .ok g' ∧ ¬g'.Meets c ∧
        f.error.kind = .conflict .stateMismatch) ∨
      ((run (earlier ++ later)).store.gameRow? i = none ∧ f.error.kind = .missing .game) := by
  have hf := run_faithful earlier
  have hf' := run_faithful (earlier ++ later)
  obtain ⟨hg, hr⟩ := hf.of_load hl
  have hst := Store.storable hr.sound.1 (hr.sound.1.wellFormed.proposes_of_advance hc)
  have hu : g.stage.Underway := (Game.underway_of_advance hc).1
  have hrun : (run earlier).runFrom later = run (earlier ++ later) := (runFrom_append _ _).symm
  have hk := runFrom_kin hf hg hu later
  rw [hrun] at hk
  rcases hk with ⟨g', hg', hkin⟩ | hgone
  · obtain ⟨hs', -⟩ := (hf'.of_load hg'.load).2.sound
    by_cases hm : g'.Meets c
    · have hrenews : g'.Renews u c := hkin.renews hm hc hs'.wellFormed
      have hok := hg'.update_eq_ok hf'.tidy hs' (hrenews.proposes hs'.wellFormed) now
      rw [hok]
      exact ⟨fun _ _ => ⟨g', hg'.load, hrenews⟩, nofun⟩
    · obtain ⟨f, he, hfk⟩ := hg'.update_refused hst hf'.tidy hm now
      rw [he]
      exact ⟨nofun, fun _ hfe => .inl ⟨g', hg'.load, hm, Except.error.inj hfe ▸ hfk⟩⟩
  · obtain ⟨f, he, hfk⟩ := Store.update_missing hst hgone.row now
    rw [he]
    exact ⟨nofun, fun _ hfe => .inr ⟨hgone.row, Except.error.inj hfe ▸ hfk⟩⟩

def sampleRoundOne : List (Instant × Move) :=
  let moves := [(0, .register "Ann"), (1, .register "Ben"), (2, .openNamed ["Ada", "Bob", "Cy"]),
    (3, .join 1 1), (4, .join 1 2), (5, .begin ⟨.fixed 1, ⟨86400, 3600⟩⟩ ⟨.startAfterJoin, 1⟩),
    (6, .send 1 1 "One?" (some 2)), (7, .send 1 2 "Two." none), (8, .send 1 2 "Three?" (some 1)),
    (9, .send 1 1 "Four." none), (10, .begin ⟨.fixed 1, ⟨86400, 3600⟩⟩ ⟨.askAsAi, 1⟩)]
  moves ++ [(11, .finish (sampleTurn moves .question) (.ok "Five?"))]

def sampleRoundTwo : List (Instant × Move) :=
  let moves := [(12, .send 1 1 "Six." none), (13, .send 1 1 "Seven?" (some 2)),
    (14, .send 1 2 "Eight." none), (15, .send 1 2 "Nine?" (some 1)), (16, .send 1 1 "Ten." none),
    (17, .begin ⟨.fixed 1, ⟨86400, 3600⟩⟩ ⟨.askAsAi, 1⟩)]
  moves ++ [(18, .finish (sampleTurn (sampleRoundOne ++ moves) .question) (.ok "Eleven?"))]

theorem sample_late : ∃ g c s g', (run sampleRoundOne).store.load 1 = .ok g ∧
    g.advance (.answer 1 "Late.") = .ok c ∧
    (run (sampleRoundOne ++ sampleRoundTwo)).store.update 19 1 c = .ok s ∧
    (run (sampleRoundOne ++ sampleRoundTwo)).store.load 1 = .ok g' ∧
    g'.advance (.answer 1 "Late.") ≠ .ok c := by
  have h : (do
      let g ← (run sampleRoundOne).store.load 1
      let c ← Refusal.lift (g.advance (.answer 1 "Late."))
      let _ ← (run (sampleRoundOne ++ sampleRoundTwo)).store.update 19 1 c
      let g' ← (run (sampleRoundOne ++ sampleRoundTwo)).store.load 1
      return decide (g'.advance (.answer 1 "Late.") = .ok c)) = Except.ok false := by
    decide +kernel
  simp only [bind_eq_ok, Refusal.lift_eq_ok, pure_eq_ok, Except.ok.injEq,
    decide_eq_false_iff_not] at h
  obtain ⟨g, hg, c, hc, s, hs, g', hg', hn⟩ := h
  exact ⟨g, c, s, g', hg, hc, hs, hg', hn⟩

theorem sample_late_change : ∃ c g', (run (sampleRoundOne ++ sampleRoundTwo)).store.load 1 =
    .ok g' ∧ g'.Renews (.answer 1 "Late.") c := by
  obtain ⟨g, c, s, -, hg, hc, hs, -, -⟩ := sample_late
  obtain ⟨g', hg', hr⟩ := (run_late_change sampleRoundOne sampleRoundTwo 1 g _ c 19 hg hc).1 s hs
  exact ⟨c, g', hg', hr⟩

theorem run_late_answer : ¬∀ (earlier later : List (Instant × Move)) (i : Int) (g : Game)
    (u : Utterance) (c : Change) (now : Instant) (s : Store) (g' : Game),
    (run earlier).store.load i = .ok g → g.advance u = .ok c →
    (run (earlier ++ later)).store.update now i c = .ok s →
    (run (earlier ++ later)).store.load i = .ok g' → g'.advance u = .ok c := by
  intro h
  obtain ⟨g, c, s, g', hg, hc, hs, hg', hn⟩ := sample_late
  exact hn (h sampleRoundOne sampleRoundTwo 1 g _ c 19 s g' hg hc hs hg')

end World

end ImitationGame
