import ImitationGame.Proofs.Scene.Consistency

/-! The turn protocol: questions and answers alternate, each question comes from the bot whose turn
it is, and each answer from the bot asked. -/

namespace ImitationGame

namespace Game

variable {g : Game} {log : List MessageRow} {m : MessageRow} {u : Utterance} {now : Instant}

structure Protocol (g : Game) (log : List MessageRow) : Prop where
  kind : ∀ k m, log[k]? = some m → m.kind = some (if k % 2 = 0 then .question else .answer)
  asked : ∀ j q, log[2 * j]? = some q →
    g.order[j % g.bots.length]? = some q.source ∧ q.target ∈ g.ids ∧ q.target ≠ q.source
  answered : ∀ j q a, log[2 * j]? = some q → log[2 * j + 1]? = some a →
    a.source = q.target ∧ a.target = q.target
  turn : g.turn = log.length / 2 % g.bots.length
  silent : g.stage = .started ∨ g.stage = .joined → log = []
  even : g.stage.awaitsQuestion = true → log.length % 2 = 0
  odd : g.stage.awaitsAnswer = true → log.length % 2 = 1
  pending : g.stage.awaitsAnswer = true →
    ∃ q, log.getLast? = some q ∧ g.question = some q.text ∧ g.target = some q.target

theorem getElem?_concat_eq_some {α : Type} {l : List α} {a b : α} {k : Nat}
    (h : (l ++ [a])[k]? = some b) : l[k]? = some b ∨ (k = l.length ∧ b = a) := by
  rw [List.getElem?_append] at h
  split at h
  · exact .inl h
  · obtain ⟨hk, hb⟩ := List.getElem?_eq_some_iff.mp h
    simp only [List.length_singleton, Nat.lt_one_iff] at hk
    exact .inr ⟨by omega, by simpa using hb.symm⟩

theorem said_eq_some (h : m.said = some u) :
    m.kind = some u.kind ∧ m.source = u.source ∧ m.target = u.target ∧ m.text = u.text := by
  obtain ⟨k, hk, rfl⟩ := Option.map_eq_some_iff.mp h
  exact ⟨hk, rfl, rfl, rfl⟩

namespace Protocol

theorem nil (ht : g.turn = 0) (ha : g.stage.awaitsAnswer = false) : g.Protocol [] where
  kind k m h := by simp at h
  asked j q h := by simp at h
  answered j q a h := by simp at h
  turn := by simp [ht]
  silent _ := rfl
  even _ := rfl
  odd h := by simp [ha] at h
  pending h := by simp [ha] at h

theorem mapBots {f : Bot → Bot} (h : g.Protocol log) (hf : ∀ b, (f b).id = b.id) :
    (g.mapBots f).Protocol log := by
  have hl : (g.mapBots f).bots.length = g.bots.length := by simp [Game.mapBots]
  refine { h with asked := ?_, turn := ?_ }
  · rw [hl, ids_mapBots hf]
    exact h.asked
  · rw [hl]
    exact h.turn

theorem ask {b : Bot} (h : g.Protocol log) (hq : g.stage.awaitsQuestion = true)
    (ht : g.turnBot = .ok u.source) (hst : u.source ≠ u.target) (hb : g.find? u.target = some b)
    (hu : u.kind = .question) (hm : m.said = some u) :
    (g.applyAt now (g.askedChange b u.text)).Protocol (log ++ [m]) := by
  obtain ⟨hk, hs, hg, hx⟩ := said_eq_some hm
  have he := h.even hq
  have hid := id_of_find? hb
  constructor
  · intro k m' hm'
    rcases getElem?_concat_eq_some hm' with hm' | ⟨rfl, rfl⟩
    · exact h.kind k m' hm'
    · rw [hk, hu, if_pos he]
  · intro j q hj
    rcases getElem?_concat_eq_some hj with hj | ⟨hj, rfl⟩
    · exact h.asked j q hj
    · have hj' : j = log.length / 2 := by omega
      refine ⟨?_, ?_, by rw [hg, hs]; exact hst.symm⟩
      · rw [hs, hj', bots_applyAt, ← h.turn]
        exact turnBot_eq_ok_iff.mp ht
      · rw [hg, ids_applyAt, ← hid]
        exact mem_ids_of_mem (mem_of_find? hb)
  · intro j q a hj ha
    rcases getElem?_concat_eq_some ha with ha' | ⟨ha', -⟩
    · rcases getElem?_concat_eq_some hj with hj' | ⟨hj', -⟩
      · exact h.answered j q a hj' ha'
      · have := (List.getElem?_eq_some_iff.mp ha').1
        omega
    · omega
  · have hl : (log.length + 1) / 2 = log.length / 2 := by omega
    simpa [askedChange, enter, hl] using h.turn
  · rintro (hs | hs) <;> exact Stage.noConfusion hs
  · intro ha
    simp [askedChange, enter] at ha
  · intro _
    rw [List.length_append, List.length_singleton]
    omega
  · intro _
    exact ⟨m, by simp, by simp [askedChange, hx], by simp [askedChange, hg, hid]⟩

theorem reply {b : Bot} (h : g.Protocol log) (ha : g.stage.awaitsAnswer = true)
    (hst : u.source = u.target) (hg : g.target = some u.source)
    (hi : nextTurn g.turn g.order.length = (g.turn + 1) % g.bots.length)
    (hu : u.kind = .answer) (hm : m.said = some u) :
    (g.applyAt now (g.answeredChange b)).Protocol (log ++ [m]) := by
  obtain ⟨hk, hs, ht, -⟩ := said_eq_some hm
  have ho := h.odd ha
  obtain ⟨p, hp, -, hpt⟩ := h.pending ha
  have hpt' : p.target = u.source := by
    rw [hpt] at hg
    exact Option.some.inj hg
  rw [List.getLast?_eq_getElem?] at hp
  -- The log has odd length: its last message is the question that is answered.
  constructor
  · intro k m' hm'
    rcases getElem?_concat_eq_some hm' with hm' | ⟨rfl, rfl⟩
    · exact h.kind k m' hm'
    · rw [hk, hu, if_neg (by omega)]
  · intro j q hj
    rcases getElem?_concat_eq_some hj with hj | ⟨hj, rfl⟩
    · exact h.asked j q hj
    · omega
  · intro j q a hj ha'
    rcases getElem?_concat_eq_some hj with hj' | ⟨hj', -⟩
    · rcases getElem?_concat_eq_some ha' with ha'' | ⟨ha'', rfl⟩
      · exact h.answered j q a hj' ha''
      · have hl : log.length - 1 = 2 * j := by omega
        rw [hl, hj'] at hp
        obtain rfl := Option.some.inj hp
        exact ⟨hs.trans hpt'.symm, ht.trans (hst ▸ hpt'.symm)⟩
    · omega
  · have hl : (log.length + 1) / 2 = log.length / 2 + 1 := by omega
    simp only [turn_applyAt, answeredChange, enter, List.length_append, List.length_singleton, hl,
      bots_applyAt]
    rw [hi, h.turn, Nat.mod_add_mod]
  · rintro (hs | hs) <;> exact Stage.noConfusion hs
  · intro _
    rw [List.length_append, List.length_singleton]
    omega
  · intro ha'
    simp [answeredChange, enter] at ha'
  · intro ha'
    simp [answeredChange, enter] at ha'

end Protocol

end Game

namespace Scene

open Game

variable {s t : Scene}

theorem Step.protocol (h : Step s t) (hs : s.game.Seated)
    (hp : s.game.Protocol s.log) : t.game.Protocol t.log := by
  have hw := hs.wellFormed
  cases h with
  | join => exact hp.mapBots fun b => by split <;> rfl
  | gather hst _ _ hc =>
    obtain ⟨-, rfl⟩ := quorum_eq_some_iff.mp hc
    rw [show _ = _ from hp.silent (.inl hst)]
    exact .nil rfl rfl
  | start hc =>
    obtain ⟨hj, i, b, -, -, rfl⟩ := start_eq_ok_iff.mp hc
    rw [show _ = _ from hp.silent (.inr hj)]
    exact .nil rfl rfl
  | @speak g log u c m now hc hm =>
    cases hu : u.kind with
    | question =>
      obtain ⟨hq, ht, hst, -, b, hb, rfl⟩ := (advance_question_iff hu).mp hc
      exact hp.ask hq ht hst hb hu hm
    | answer =>
      obtain ⟨ha, hst, hg, -, i, b, -, -, rfl⟩ := (advance_answer_iff hu).mp hc
      exact hp.reply ha hst hg hs.nextTurn_eq hu hm
  | tag hc =>
    obtain ⟨-, -, -, t, a, -, -, rfl⟩ := tag_eq_ok_iff.mp hc
    exact { hp with
      silent := by rintro (hs | hs) <;> exact Stage.noConfusion hs
      even := fun h => by simp [enter] at h
      odd := fun h => by simp [enter] at h
      pending := fun h => by simp [enter] at h }
  | hint => exact hp.mapBots fun b => by split <;> rfl

theorem Opening.protocol (h : s.Opening) : s.game.Protocol s.log := by
  rw [h.log]
  exact .nil h.turn (by rw [h.stage]; rfl)

theorem Reached.protocol (h : Reached s) : s.game.Protocol s.log := by
  induction h with
  | opening h => exact h.protocol
  | step hr hst ih => exact hst.protocol hr.sound.1 ih

end Scene

end ImitationGame
