import ImitationGame.Proofs.Scene.Seats

namespace ImitationGame

namespace Game

variable {g : Game} {c : Change} {b : Bot} {i player : Int} {now : Instant}

structure Consistent (g : Game) : Prop where
  handled : g.handled = !g.stage.needsSystem
  budget : g.budget = g.stage.budget
  question : g.stage.awaitsQuestion = true →
    ∃ b ∈ g.bots, g.turnBot = .ok b.id ∧ g.stage = .questionFor b.driver
  answer : g.stage.awaitsAnswer = true →
    ∃ b ∈ g.bots, g.target = some b.id ∧ g.stage = .answerFor b.driver ∧ g.question ≠ none
  quiet : g.stage.awaitsAnswer = false → g.question = none ∧ g.target = none
  recruiting : g.stage = .started → g.humans ≤ 1
  full : g.stage ≠ .started → g.humans = 2

namespace Consistent

theorem mapBots {f : Bot → Bot} (h : g.Consistent) (hi : ∀ b, (f b).id = b.id)
    (hd : ∀ b, (f b).driver = b.driver) : (g.mapBots f).Consistent where
  handled := h.handled
  budget := h.budget
  question hs := by
    obtain ⟨b, hb, ht, hq⟩ := h.question hs
    exact ⟨f b, List.mem_map_of_mem hb, by rw [hi]; exact ht, by rw [hd]; exact hq⟩
  answer hs := by
    obtain ⟨b, hb, ht, hq⟩ := h.answer hs
    exact ⟨f b, List.mem_map_of_mem hb, by rw [hi]; exact ht, by rw [hd]; exact hq⟩
  quiet := h.quiet
  recruiting := by
    simpa only [humans, Game.mapBots, List.countP_map, Function.comp_def, hd] using h.recruiting
  full := by
    simpa only [humans, Game.mapBots, List.countP_map, Function.comp_def, hd] using h.full

theorem of_idle (hs : g.stage.awaited = none) (hh : g.handled = !g.stage.needsSystem)
    (hb : g.budget = g.stage.budget) (hq : g.question = none ∧ g.target = none)
    (hr : g.stage = .started → g.humans ≤ 1) (hf : g.stage ≠ .started → g.humans = 2) :
    g.Consistent where
  handled := hh
  budget := hb
  question h := by simp [Stage.awaitsQuestion, hs] at h
  answer h := by simp [Stage.awaitsAnswer, hs] at h
  quiet _ := hq
  recruiting := hr
  full := hf

theorem of_question (h : g.humans = 2) (hb : b ∈ g.bots) (hc : c.stage = .questionFor b.driver)
    (hn : (g.applyAt now c).turnBot = .ok b.id) (hh : c.handled = !c.stage.needsSystem)
    (hu : c.budget = c.stage.budget) (hq : c.question = none ∧ c.target = none) :
    (g.applyAt now c).Consistent where
  handled := hh
  budget := hu
  question _ := ⟨b, hb, hn, hc⟩
  answer ha := by simp [hc] at ha
  quiet _ := hq
  recruiting hs := by simp [hc, Stage.questionFor] at hs
  full _ := h

theorem claim (h : g.Consistent) (hs : g.stage = .started)
    (hq : (g.claim b.id player).quorum = none) : (g.claim b.id player).Consistent := by
  have hl := (quorum_eq_none_iff (g := g.claim b.id player) hs).mp hq
  exact .of_idle (by rw [Game.claim, hs]; rfl) h.handled h.budget (h.quiet (by rw [hs]; rfl))
    (fun _ => Nat.le_of_lt_succ hl) fun hne => absurd hs hne

theorem gather (h : g.Consistent) (hn : g.ids.Nodup) (hs : g.stage = .started)
    (hb : g.firstAi? = some b) (hq : (g.claim b.id player).quorum = some c) :
    ((g.claim b.id player).applyAt now c).Consistent := by
  obtain ⟨⟨-, hl⟩, rfl⟩ := quorum_eq_some_iff.mp hq
  obtain ⟨hm, hd⟩ := firstAi?_mem hb
  have hh : (g.claim b.id player).humans = g.humans + 1 := humans_claim hn hm hd
  have hr := h.recruiting hs
  refine .of_idle rfl rfl rfl ⟨rfl, rfl⟩ (fun h => Stage.noConfusion h) fun _ => ?_
  change (g.claim b.id player).humans = 2
  rw [quorumSize] at hl
  omega

theorem start {draws : Random.Stream} (h : g.Consistent) (hc : g.start draws = .ok c) :
    (g.applyAt now c).Consistent := by
  obtain ⟨hj, i, b, hi, hb, rfl⟩ := start_eq_ok_iff.mp hc
  refine .of_question (h.full (by simp [hj])) (mem_of_find? hb) rfl ?_ rfl rfl ⟨rfl, rfl⟩
  rw [turnBot_eq_ok_iff, id_of_find? hb, ← hi, List.head?_eq_getElem?]
  rfl

theorem ask {text : String} (h : g.Consistent) (hq : g.stage.awaitsQuestion = true)
    (hb : b ∈ g.bots) : (g.applyAt now (g.askedChange b text)).Consistent where
  handled := rfl
  budget := rfl
  question ha := by simp [askedChange, enter] at ha
  answer _ := ⟨b, hb, rfl, rfl, by simp [askedChange]⟩
  quiet ha := by simp [askedChange, enter] at ha
  recruiting hs := Stage.noConfusion hs
  full _ := h.full (Stage.ne_started_of_awaits (.inl hq))

theorem reply (h : g.Consistent) (ha : g.stage.awaitsAnswer = true) (hb : b ∈ g.bots)
    (ho : g.order[nextTurn g.turn g.order.length]? = some b.id) :
    (g.applyAt now (g.answeredChange b)).Consistent :=
  .of_question (h.full (Stage.ne_started_of_awaits (.inr ha))) hb rfl
    (turnBot_eq_ok_iff.mpr ho) rfl rfl ⟨rfl, rfl⟩

theorem speak {u : Utterance} (h : g.Consistent) (hc : g.advance u = .ok c) :
    (g.applyAt now c).Consistent := by
  cases hu : u.kind with
  | question =>
    obtain ⟨hq, -, -, -, b, hb, rfl⟩ := (advance_question_iff hu).mp hc
    exact h.ask hq (mem_of_find? hb)
  | answer =>
    obtain ⟨ha, -, -, -, i, b, ho, hb, rfl⟩ := (advance_answer_iff hu).mp hc
    exact h.reply ha (mem_of_find? hb) (by rw [id_of_find? hb, ho])

theorem tag {tagger accused : Int} {o : TagOutcome} (h : g.Consistent)
    (hc : g.tag tagger accused = .ok o) : (g.applyAt now o.change).Consistent := by
  obtain ⟨-, ha, -, t, a, -, -, rfl⟩ := tag_eq_ok_iff.mp hc
  have hn : g.stage ≠ .started :=
    Stage.ne_started_of_awaits ((acting_eq_some_iff.mp ha).imp And.left And.left)
  exact .of_idle rfl rfl rfl ⟨rfl, rfl⟩ (fun h => Stage.noConfusion h) fun _ => h.full hn

end Consistent

end Game

namespace Scene

open Game

variable {s t : Scene}

theorem Opening.seated (h : s.Opening) : s.game.Seated where
  wellFormed := ⟨h.bots_ne_nil, by
    rw [h.turn, h.order, ids, List.length_map]
    exact List.length_pos_of_ne_nil h.bots_ne_nil, h.order ▸ .refl _, by simp [h.stage]⟩
  ids_nodup := h.ids_nodup
  size := h.size
  seats := h.seats
  owned b hb := by simp [h.bots b hb]
  owners a ha _ _ p hp _ := by simp [h.bots a ha] at hp

theorem Opening.consistent (h : s.Opening) : s.game.Consistent := by
  refine .of_idle (by rw [h.stage]; rfl) (by rw [h.stage, h.handled]; rfl)
    (by rw [h.stage, h.budget]; rfl) ⟨h.question, h.target⟩ (fun _ => ?_)
    fun hs => absurd h.stage hs
  rw [humans, List.countP_eq_zero.mpr fun b hb => by simp [h.bots b hb]]
  exact Nat.zero_le _

theorem Step.seated (h : Step s t) (hs : s.game.Seated) : t.game.Seated := by
  have hw := hs.wellFormed
  cases h with
  | join _ hp _ _ => exact hs.claim hp
  | @gather g log b player c now _ hp _ hc =>
    have hcl : (g.claim b.id player).Seated := hs.claim hp
    exact hcl.applyAt (hcl.wellFormed.proposes_of_quorum hc) now
  | start hc => exact hs.applyAt (hw.proposes_of_start hc) _
  | speak hc _ => exact hs.applyAt (hw.proposes_of_advance hc) _
  | tag hc => exact hs.applyAt (hw.proposes_of_tag hc) _
  | hint => exact hs.spend

theorem Step.consistent (h : Step s t) (hs : s.game.Seated) (hc : s.game.Consistent) :
    t.game.Consistent := by
  cases h with
  | join hst _ _ hq => exact hc.claim hst hq
  | gather hst _ hb hq => exact hc.gather hs.ids_nodup hst hb hq
  | start hst => exact hc.start hst
  | speak hst _ => exact hc.speak hst
  | tag hst => exact hc.tag hst
  | hint => exact hc.mapBots (fun b => by split <;> rfl) fun b => by split <;> rfl

theorem Reached.sound (h : Reached s) : s.game.Seated ∧ s.game.Consistent := by
  induction h with
  | opening h => exact ⟨h.seated, h.consistent⟩
  | step _ hst ih => exact ⟨hst.seated ih.1, hst.consistent ih.1 ih.2⟩

end Scene

end ImitationGame
