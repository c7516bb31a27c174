import ImitationGame.Proofs.Game.Order

namespace ImitationGame.Game

variable {g : Game} {c : Change}

structure Proposes (g : Game) (c : Change) : Prop where
  fromStage : c.fromStage = g.stage
  fromTurn : c.fromTurn = g.turn
  fromHandled : c.fromHandled = g.handled
  turn_lt : c.turn < g.bots.length
  order : (c.order.getD g.order).Perm g.ids
  budget : c.budget = c.stage.budget
  target : ∀ t, c.target = some t → t ∈ g.ids
  awaits : c.stage.awaitsAnswer = true → c.target ≠ none
  winner : ∀ w, c.winner = some w → w ∈ g.ids

structure Meets (g : Game) (c : Change) : Prop where
  stage : c.fromStage = g.stage
  turn : c.fromTurn = g.turn
  handled : c.fromHandled = g.handled

namespace WellFormed

theorem proposes_enter (h : g.WellFormed) {stage : Stage} {turn : Nat}
    (hs : stage.awaitsAnswer = false) (ht : turn < g.bots.length) :
    g.Proposes (g.enter stage turn) where
  fromStage := rfl
  fromTurn := rfl
  fromHandled := rfl
  turn_lt := ht
  order := h.order_perm
  budget := rfl
  target t ht := by simp [enter] at ht
  awaits ha := by simp [enter, hs] at ha
  winner w hw := by simp [enter] at hw

theorem turn_lt_bots (h : g.WellFormed) : g.turn < g.bots.length := h.length_order ▸ h.turn_lt

theorem proposes_of_advance (h : g.WellFormed) {u : Utterance} (hc : g.advance u = .ok c) :
    g.Proposes c := by
  cases hu : u.kind with
  | question =>
    obtain ⟨-, -, -, -, b, hb, rfl⟩ := (advance_question_iff hu).mp hc
    exact {
      fromStage := rfl
      fromTurn := rfl
      fromHandled := rfl
      turn_lt := h.turn_lt_bots
      order := h.order_perm
      budget := rfl
      target := fun t ht => Option.some.inj ht ▸ mem_ids_of_mem (mem_of_find? hb)
      awaits := fun _ => by simp [askedChange]
      winner := fun w hw => by simp [askedChange, enter] at hw }
  | answer =>
    obtain ⟨-, -, -, -, i, b, ho, -, rfl⟩ := (advance_answer_iff hu).mp hc
    refine h.proposes_enter rfl ?_
    exact h.length_order ▸ (List.getElem?_eq_some_iff.mp ho).1

theorem proposes_of_start (h : g.WellFormed) {draws : Random.Stream} (hc : g.start draws = .ok c) :
    g.Proposes c := by
  obtain ⟨-, i, b, -, -, rfl⟩ := start_eq_ok_iff.mp hc
  have hp : g.Proposes (g.enter (.questionFor b.driver) 0) := h.proposes_enter rfl h.bots_pos
  exact { hp with order := g.shuffled_perm draws }

theorem proposes_of_quorum (h : g.WellFormed) (hc : g.quorum = some c) : g.Proposes c := by
  obtain ⟨-, rfl⟩ := quorum_eq_some_iff.mp hc
  exact h.proposes_enter rfl h.bots_pos

theorem proposes_of_tag (h : g.WellFormed) {tagger accused : Int} {o : TagOutcome}
    (hc : g.tag tagger accused = .ok o) : g.Proposes o.change := by
  obtain ⟨-, -, -, t, a, ht, ha, rfl⟩ := tag_eq_ok_iff.mp hc
  have hp : g.Proposes (g.enter .finished g.turn) := h.proposes_enter rfl h.turn_lt_bots
  refine { hp with winner := fun w hw => ?_ }
  obtain rfl := Option.some.inj hw
  unfold verdict
  cases a.driver
  · exact mem_ids_of_mem (mem_of_find? ht)
  · exact mem_ids_of_mem (mem_of_find? ha)

theorem apply (h : g.WellFormed) (hc : g.Proposes c) : (g.apply c).WellFormed where
  bots_ne_nil := h.bots_ne_nil
  turn_lt := by
    have ht := hc.turn_lt
    rw [← List.length_map Bot.id] at ht
    exact hc.order.length_eq ▸ ht
  order_perm := hc.order
  target_mem ha := by
    obtain ⟨t, ht⟩ := Option.ne_none_iff_exists'.mp (hc.awaits ha)
    exact ⟨t, ht, hc.target t ht⟩

end WellFormed

end ImitationGame.Game
