import ImitationGame.Proofs.Scene.Seats

/-! Play under way: who drives which bot and the order of turns are settled. So a question that was
legal once leads to the same change wherever that change is expected. -/

namespace ImitationGame

def Stage.Underway : Stage → Prop
  | started | joined => False
  | awaiting _ _ | finished => True

namespace Game

variable {g g' g'' : Game} {b : Bot} {c : Change} {u v : Utterance} {x : Int} {now : Instant}

structure Kin (g g' : Game) : Prop where
  order : g'.order = g.order
  drivers : (g'.bots.map fun b => (b.id, b.driver)) = g.bots.map fun b => (b.id, b.driver)

theorem Kin.refl (g : Game) : g.Kin g := ⟨rfl, rfl⟩

theorem Kin.trans (h : g.Kin g') (h' : g'.Kin g'') : g.Kin g'' :=
  ⟨h'.order.trans h.order, h'.drivers.trans h.drivers⟩

theorem kin_applyAt (h : c.order = none) : g.Kin (g.applyAt now c) :=
  ⟨by rw [order_applyAt, h, Option.getD_none], rfl⟩

theorem kin_spend : g.Kin (g.spend x) := by
  refine ⟨rfl, ?_⟩
  rw [spend, mapBots, List.map_map]
  apply List.map_congr_left
  intro b _
  rw [Function.comp_apply]
  split <;> rfl

theorem Kin.exists_find? (h : g.Kin g') (hb : g.find? x = some b) :
    ∃ b', g'.find? x = some b' ∧ b'.id = b.id ∧ b'.driver = b.driver := by
  have hf : ∀ k : Game, (k.find? x).map (fun b => (b.id, b.driver)) =
      (k.bots.map fun b => (b.id, b.driver)).find? fun p => p.1 == x := by
    intro k
    rw [List.find?_map]
    rfl
  have he : (g'.find? x).map (fun b => (b.id, b.driver)) = some (b.id, b.driver) := by
    rw [hf, h.drivers, ← hf, hb, Option.map_some]
  obtain ⟨b', hb', he⟩ := Option.map_eq_some_iff.mp he
  exact ⟨b', hb', (Prod.mk.inj he).1, (Prod.mk.inj he).2⟩

theorem underway_of_advance (h : g.advance u = .ok c) :
    g.stage.Underway ∧ c.stage.Underway ∧ c.order = none := by
  have hg : ∀ s : Stage, s.awaitsQuestion = true ∨ s.awaitsAnswer = true → s.Underway := by
    intro s hs
    cases s with
    | started | joined => simp [Stage.awaitsQuestion, Stage.awaitsAnswer, Stage.awaited] at hs
    | awaiting | finished => exact trivial
  cases hu : u.kind with
  | question =>
    obtain ⟨hq, -, -, -, t, -, rfl⟩ := (advance_question_iff hu).mp h
    exact ⟨hg _ (.inl hq), trivial, rfl⟩
  | answer =>
    obtain ⟨ha, -, -, -, i, b, -, -, rfl⟩ := (advance_answer_iff hu).mp h
    exact ⟨hg _ (.inr ha), trivial, rfl⟩

/-- A change that was computed for an utterance is legal here: for the same question, or for an
answer by the bot that is asked by now. -/
structure Renews (g : Game) (u : Utterance) (c : Change) : Prop where
  meets : g.Meets c
  question : u.kind = .question → g.advance u = .ok c
  answer : u.kind = .answer → (g.advance u = .ok c ↔ g.target = some u.source)
  asked : u.kind = .answer → ∃ b, g.target = some b ∧ g.advance (.answer b u.text) = .ok c

theorem Renews.proposes (h : g.Renews u c) (hw : g.WellFormed) : g.Proposes c := by
  cases hu : u.kind with
  | question => exact hw.proposes_of_advance (h.question hu)
  | answer =>
    obtain ⟨b, -, hb⟩ := h.asked hu
    exact hw.proposes_of_advance hb

namespace Kin

variable (hk : g.Kin g') (hm : g'.Meets c) (hc : g.advance u = .ok c)

include hk hm hc

theorem advance_question (hu : u.kind = .question) : g'.advance u = .ok c := by
  obtain ⟨hq, ht, hst, ⟨s, hs⟩, t, htg, rfl⟩ := (advance_question_iff hu).mp hc
  have hstage : g.stage = g'.stage := hm.stage
  have hturn : g.turn = g'.turn := hm.turn
  have hhandled : g.handled = g'.handled := hm.handled
  obtain ⟨s', hs', -⟩ := hk.exists_find? hs
  obtain ⟨t', ht', hid, hdriver⟩ := hk.exists_find? htg
  apply (advance_question_iff hu).mpr
  refine ⟨hstage ▸ hq, ?_, hst, ⟨s', hs'⟩, t', ht', ?_⟩
  · rw [turnBot_eq_ok_iff] at ht ⊢
    rw [hk.order, ← hturn]
    exact ht
  · simp only [askedChange, enter, hstage, hturn, hhandled, hid, hdriver]

theorem advance_answer_iff (hu : u.kind = .answer) (hv : v.kind = .answer) :
    g'.advance v = .ok c ↔
      v.source = v.target ∧ g'.target = some v.source ∧ ∃ s, g'.find? v.source = some s := by
  obtain ⟨ha, -, -, -, i, b, ho, hb, rfl⟩ := (Game.advance_answer_iff hu).mp hc
  have hstage : g.stage = g'.stage := hm.stage
  have hturn : g.turn = g'.turn := hm.turn
  have hhandled : g.handled = g'.handled := hm.handled
  obtain ⟨b', hb', -, hdriver⟩ := hk.exists_find? hb
  have hnext : g'.order[nextTurn g'.turn g'.order.length]? = some i := by
    rw [hk.order, ← hturn]
    exact ho
  -- Whoever answers, the turn passes to the same bot.
  have hsame : g.answeredChange b = g'.answeredChange b' := by
    simp only [answeredChange, enter, hk.order, hstage, hturn, hhandled, hdriver]
  rw [Game.advance_answer_iff hv]
  constructor
  · rintro ⟨-, hst, ht, hs, -⟩
    exact ⟨hst, ht, hs⟩
  · rintro ⟨hst, ht, hs⟩
    exact ⟨hstage ▸ ha, hst, ht, hs, i, b', hnext, hb', hsame⟩

theorem renews (hw : g'.WellFormed) : g'.Renews u c where
  meets := hm
  question := hk.advance_question hm hc
  answer hu := by
    obtain ⟨-, hst, -, ⟨s, hs⟩, -⟩ := (Game.advance_answer_iff hu).mp hc
    obtain ⟨s', hs', -⟩ := hk.exists_find? hs
    rw [hk.advance_answer_iff hm hc hu hu]
    exact ⟨fun h => h.2.1, fun h => ⟨hst, h, s', hs'⟩⟩
  asked hu := by
    obtain ⟨ha, -, -, -, i, b, -, -, rfl⟩ := (Game.advance_answer_iff hu).mp hc
    have hstage : g.stage = g'.stage := hm.stage
    obtain ⟨x, hx, hxi⟩ := hw.target_mem (hstage ▸ ha)
    refine ⟨x, hx, ?_⟩
    apply (hk.advance_answer_iff hm hc hu rfl).mpr
    exact ⟨rfl, hx, Game.exists_find? hxi⟩

end Kin

end Game

namespace Scene

variable {s t : Scene}

theorem Step.kin (h : Step s t) (hu : s.game.stage.Underway) :
    s.game.Kin t.game ∧ t.game.stage.Underway := by
  cases h with
  | join hst => exact (hst ▸ hu).elim
  | gather hst => exact (hst ▸ hu).elim
  | start hc =>
    obtain ⟨hst, -⟩ := Game.start_eq_ok_iff.mp hc
    exact (hst ▸ hu).elim
  | speak hc =>
    obtain ⟨-, hs, ho⟩ := Game.underway_of_advance hc
    exact ⟨Game.kin_applyAt ho, hs⟩
  | tag hc =>
    obtain ⟨-, -, -, x, a, -, -, rfl⟩ := Game.tag_eq_ok_iff.mp hc
    exact ⟨Game.kin_applyAt rfl, trivial⟩
  | hint => exact ⟨Game.kin_spend, hu⟩

end Scene

end ImitationGame
