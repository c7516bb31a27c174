import ImitationGame.Proofs.Scene.Consistency

namespace ImitationGame.Game

variable {g : Game} {a b : Bot} {t player : Int} {d : Driver} {kind : MessageKind}

theorem exists_ask (hw : g.WellFormed) (hq : g.stage.awaitsQuestion = true)
    (ha : g.turnBot = .ok a.id) (ht : t ∈ g.ids) (hne : t ≠ a.id) (text : String) :
    ∃ b ∈ g.bots, b.id = t ∧ g.advance (.question a.id t text) = .ok (g.askedChange b text) := by
  obtain ⟨x, hx, hxt, -⟩ := hw.exists_turnBot
  obtain hxa : x.id = a.id := Except.ok.inj (hxt.symm.trans ha)
  obtain ⟨b, hb⟩ := exists_find? ht
  obtain ⟨y, hy⟩ := exists_find? (hxa ▸ mem_ids_of_mem hx)
  refine ⟨b, mem_of_find? hb, id_of_find? hb, ?_⟩
  exact (advance_question_iff rfl).mpr ⟨hq, ha, hne.symm, ⟨y, hy⟩, b, hb, rfl⟩

theorem exists_reply (hw : g.WellFormed) (ha : g.stage.awaitsAnswer = true)
    (ht : g.target = some t) (text : String) : ∃ b ∈ g.bots,
      g.order[nextTurn g.turn g.order.length]? = some b.id ∧
        g.advance (.answer t text) = .ok (g.answeredChange b) := by
  obtain ⟨x, hx, hxi⟩ := hw.target_mem ha
  obtain rfl := Option.some.inj (ht.symm.trans hx)
  obtain ⟨y, hy⟩ := exists_find? hxi
  have hl : nextTurn g.turn g.order.length < g.order.length :=
    nextTurn_lt (Nat.zero_lt_of_lt hw.turn_lt)
  have ho := List.getElem?_eq_getElem hl
  obtain ⟨b, hb⟩ := exists_find? (hw.mem_order_iff.mp (List.getElem_mem hl))
  refine ⟨b, mem_of_find? hb, by rw [ho, id_of_find? hb], ?_⟩
  exact (advance_answer_iff rfl).mpr ⟨ha, rfl, ht, ⟨y, hy⟩, _, b, ho, hb, rfl⟩

namespace Consistent

theorem two_le_length (h : g.Consistent) (hs : g.stage ≠ .started) : 2 ≤ g.bots.length := by
  rw [← h.full hs]
  exact List.countP_le_length

theorem exists_firstAi (h : g.Consistent) (hs : g.stage = .started) (hb : 2 ≤ g.bots.length) :
    ∃ b, g.firstAi? = some b := by
  apply exists_lowest?
  intro he
  rw [List.filter_eq_nil_iff] at he
  have hl : g.humans = g.bots.length := by
    rw [humans, List.countP_eq_length]
    intro b hb
    cases hd : b.driver with
    | ai => exact absurd hd (by simpa using he b hb)
    | human => rfl
  have := h.recruiting hs
  omega

theorem exists_asker (h : g.Consistent) (hs : g.stage = .awaiting d .question) :
    ∃ b ∈ g.bots, g.turnBot = .ok b.id ∧ b.driver = d := by
  obtain ⟨b, hb, ht, hst⟩ := h.question (by rw [hs]; rfl)
  rw [hs, Stage.questionFor] at hst
  injection hst with hd
  exact ⟨b, hb, ht, hd.symm⟩

theorem exists_asked (h : g.Consistent) (hs : g.stage = .awaiting d .answer) :
    ∃ b ∈ g.bots, g.target = some b.id ∧ b.driver = d ∧ ∃ q, g.question = some q := by
  obtain ⟨b, hb, ht, hst, hq⟩ := h.answer (by rw [hs]; rfl)
  rw [hs, Stage.answerFor] at hst
  injection hst with hd
  exact ⟨b, hb, ht, hd.symm, Option.ne_none_iff_exists'.mp hq⟩

theorem exists_acting (h : g.Consistent) (hs : g.stage = .awaiting d kind) :
    ∃ b ∈ g.bots, g.acting = .ok (some b.id) ∧ b.driver = d := by
  cases kind with
  | question =>
    obtain ⟨b, hb, ht, hd⟩ := h.exists_asker hs
    exact ⟨b, hb, acting_eq_some_iff.mpr (.inl ⟨by rw [hs]; rfl, ht⟩), hd⟩
  | answer =>
    obtain ⟨b, hb, ht, hd, -⟩ := h.exists_asked hs
    exact ⟨b, hb, acting_eq_some_iff.mpr (.inr ⟨by rw [hs]; rfl, ht⟩), hd⟩

end Consistent

namespace Seated

theorem eq_of_id_eq (h : g.Seated) (ha : a ∈ g.bots) (hb : b ∈ g.bots) (he : a.id = b.id) :
    a = b :=
  List.inj_on_of_nodup_map h.ids_nodup ha hb he

theorem botOf?_eq (h : g.Seated) (hb : b ∈ g.bots) (hp : b.player = some player) :
    g.botOf? player = some b := by
  cases hq : g.botOf? player with
  | none => exact absurd hp (botOf?_eq_none.mp hq b hb)
  | some a =>
    obtain ⟨ha, hap⟩ := botOf?_eq_some hq
    rw [h.eq_of_id_eq ha hb (h.owners a ha b hb player hap hp)]

theorem exists_player (h : g.Seated) (hb : b ∈ g.bots) (hd : b.driver = .human) :
    ∃ p, g.botOf? p = some b := by
  obtain ⟨p, hp⟩ := Option.ne_none_iff_exists'.mp ((h.owned b hb).mp hd)
  exact ⟨p, h.botOf?_eq hb hp⟩

theorem player_eq_none (h : g.Seated) (hb : b ∈ g.bots) (hd : b.driver = .ai) :
    b.player = none := by
  by_contra hne
  exact Driver.noConfusion (hd.symm.trans ((h.owned b hb).mpr hne))

end Seated

end ImitationGame.Game
