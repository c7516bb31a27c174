import ImitationGame.Proofs.Game.Progress
import ImitationGame.Proofs.Play.Effect

namespace ImitationGame

variable {s : Store} {i : Int} {g : Game} {t : AiTurn} {kind : MessageKind} {now : Instant}

namespace AiTurn

structure Due (t : AiTurn) (g : Game) : Prop where
  game : t.game = g.id
  stage : g.stage = t.stage
  actor : ∃ b ∈ g.bots, b.id = t.actor ∧ g.acting = .ok (some b.id)
  asks : t.kind = .question → t.target ∈ g.ids ∧ t.target ≠ t.actor
  answers : t.kind = .answer → t.target = t.actor

def Leads (t : AiTurn) (g : Game) (text : String) (c : Change) : Prop :=
  match t.kind with
  | .question => ∃ b ∈ g.bots, c = g.askedChange b text
  | .answer => ∃ b ∈ g.bots, g.order[Game.nextTurn g.turn g.order.length]? = some b.id ∧
      c = g.answeredChange b

theorem Due.exists_advance (h : t.Due g) (hw : g.WellFormed) (text : String) :
    ∃ c, g.advance (t.utterance text) = .ok c ∧ t.Leads g text c := by
  obtain ⟨a, -, hai, ha⟩ := h.actor
  have hst := h.stage
  cases hk : t.kind with
  | question =>
    rw [AiTurn.stage, hk] at hst
    obtain ⟨hm, hne⟩ := h.asks hk
    have hq : g.stage.awaitsQuestion = true := by rw [hst]; rfl
    rcases Game.acting_eq_some_iff.mp ha with ⟨-, htb⟩ | ⟨hans, -⟩
    · obtain ⟨b, hb, -, hc⟩ := Game.exists_ask hw hq htb hm (hai ▸ hne) text
      refine ⟨g.askedChange b text, ?_, ?_⟩
      · rw [AiTurn.utterance, hk, ← hai]
        exact hc
      · rw [Leads, hk]
        exact ⟨b, hb, rfl⟩
    · simp [hst, Stage.awaitsAnswer, Stage.awaited] at hans
  | answer =>
    rw [AiTurn.stage, hk] at hst
    have hans : g.stage.awaitsAnswer = true := by rw [hst]; rfl
    rcases Game.acting_eq_some_iff.mp ha with ⟨hq, -⟩ | ⟨-, htg⟩
    · simp [hst, Stage.awaitsQuestion, Stage.awaited] at hq
    · obtain ⟨b, hb, ho, hc⟩ := Game.exists_reply hw hans htg text
      refine ⟨g.answeredChange b, ?_, ?_⟩
      · rw [AiTurn.utterance, hk, h.answers hk, ← hai]
        exact hc
      · rw [Leads, hk]
        exact ⟨b, hb, ho, rfl⟩

end AiTurn

namespace Game

variable {st : Stage}

theorem Consistent.requirePending_eq_ok (h : g.Consistent) (hs : g.stage = st)
    (hn : st.needsSystem = true) : g.requirePending st = .ok () :=
  requirePending_eq_ok_iff.mpr ⟨hs, by rw [h.handled, hs, hn]; rfl⟩

theorem Consistent.requirePending_cases (h : g.Consistent) (hn : st.needsSystem = true) :
    g.requirePending st = .ok () ∨ g.requirePending st = .error (.notPending g.id g.stage st) := by
  by_cases hs : g.stage = st
  · exact .inl (h.requirePending_eq_ok hs hn)
  · exact .inr (by rw [requirePending, if_pos hs])

end Game

namespace Play

theorem of_prepare (h : prepare s i kind = .ok t) : (t.game = i ∧ t.kind = kind) ∧
    ∃ g, s.load i = .ok g ∧ g.stage = .awaiting .ai kind ∧ g.acting = .ok (some t.actor) ∧
      (kind = .question → g.nextTarget t.actor (s.questionsBy i t.actor) = .ok t.target) := by
  cases kind with
  | question =>
    simp only [prepare, prepareQuestion, bind_eq_ok, Refusal.lift_eq_ok, pure_eq_ok,
      Except.ok.injEq, Game.requirePending_eq_ok_iff] at h
    obtain ⟨g, hl, -, ⟨hs, -⟩, a, ha, x, hx, -, -, -, -, -, -, rfl⟩ := h
    have hq : g.stage.awaitsQuestion = true := by rw [hs]; rfl
    exact ⟨⟨rfl, rfl⟩, g, hl, hs, Game.acting_eq_some_iff.mpr (.inl ⟨hq, ha⟩), fun _ => hx⟩
  | answer =>
    simp only [prepare, prepareAnswer, bind_eq_ok, Refusal.lift_eq_ok,
      Game.requirePending_eq_ok_iff] at h
    obtain ⟨g, hl, -, ⟨hs, -⟩, h⟩ := h
    have ha : g.stage.awaitsAnswer = true := by rw [hs]; rfl
    split at h
    · rename_i a q htg hq
      simp only [bind_eq_ok, pure_eq_ok, Except.ok.injEq] at h
      obtain ⟨_, -, _, -, rfl⟩ := h
      exact ⟨⟨rfl, rfl⟩, g, hl, hs, Game.acting_eq_some_iff.mpr (.inr ⟨ha, htg⟩), nofun⟩
    · cases h

variable (ht : s.Tidy) (h : s.Holds i g) (hc : g.Consistent)

include ht h hc

theorem prepareAnswer_eq_ok (hs : g.stage = .awaiting .ai .answer) :
    ∃ t, prepareAnswer s i = .ok t ∧ t.Due g ∧ t.kind = .answer := by
  have hans : g.stage.awaitsAnswer = true := by rw [hs]; rfl
  obtain ⟨b, hb, htg, -, q, hq⟩ := hc.exists_asked hs
  obtain ⟨me, hme, -, -⟩ := Game.exists_bot (Game.mem_ids_of_mem hb)
  obtain ⟨ms, hms⟩ := ht.exists_messagesOf i
  refine ⟨⟨i, .answer, b.id, b.id, Prompt.answer g me q ms⟩, ?_, ?_, rfl⟩
  · simp [prepareAnswer, h.load, hc.requirePending_eq_ok hs rfl, htg, hq, hms, hme, Refusal.lift]
  · exact ⟨h.id_eq.symm, hs, ⟨b, hb, rfl, Game.acting_eq_some_iff.mpr (.inr ⟨hans, htg⟩)⟩,
      (fun hk => by cases hk), fun _ => rfl⟩

theorem prepareAnswer_ne (k : Int) :
    prepareAnswer s i ≠ .error (.refused (.corrupt (.noQuestion k))) := by
  by_cases hs : g.stage = .awaiting .ai .answer
  · obtain ⟨t, hp, -⟩ := prepareAnswer_eq_ok ht h hc hs
    simp [hp]
  · have hp : g.requirePending (.awaiting .ai .answer) =
        .error (.notPending g.id g.stage (.awaiting .ai .answer)) := if_pos hs
    simp [prepareAnswer, h.load, hp, Refusal.lift]

variable (hg : g.Seated)

include hg

theorem startTurns_eq_ok (hs : g.stage = .joined) (now : Instant) (draws : Random.Stream) :
    ∃ c d, (g.start draws = .ok c ∧ c.stage = .questionFor d) ∧
      startTurns now draws i s = .ok (c.stage, s.written now i c) := by
  obtain ⟨b, -, hst⟩ := Game.exists_start hg.wellFormed hs draws
  refine ⟨_, b.driver, ⟨hst, rfl⟩, (startTurns_eq_ok_iff ht h hg).mpr ⟨⟨hs, ?_⟩, _, hst, rfl, rfl⟩⟩
  rw [hc.handled, hs]
  rfl

theorem prepareQuestion_eq_ok (hs : g.stage = .awaiting .ai .question) :
    ∃ t, prepareQuestion s i = .ok t ∧ t.Due g ∧ t.kind = .question := by
  obtain ⟨b, hb, ha, -⟩ := hc.exists_acting hs
  obtain ⟨-, htb⟩ | ⟨hans, -⟩ := Game.acting_eq_some_iff.mp ha
  · have hi := Game.mem_ids_of_mem hb
    have hl := hc.two_le_length (by simp [hs])
    obtain ⟨x, hx, hne, hxt⟩ := Game.exists_nextTarget hg.wellFormed hg.ids_nodup hl hi
      (s.questionsBy i b.id)
    obtain ⟨me, hme, -, -⟩ := Game.exists_bot hi
    obtain ⟨other, ho, -, -⟩ := Game.exists_bot hx
    obtain ⟨ms, hms⟩ := ht.exists_messagesOf i
    refine ⟨⟨i, .question, b.id, x, Prompt.question g me other ms⟩, ?_, ?_, rfl⟩
    · simp [prepareQuestion, h.load, hc.requirePending_eq_ok hs rfl, htb, hxt, hms, hme, ho,
        Refusal.lift]
    · exact ⟨h.id_eq.symm, hs, ⟨b, hb, rfl, ha⟩, fun _ => ⟨hx, hne⟩, fun hk => by cases hk⟩
  · simp [hs, Stage.awaitsAnswer, Stage.awaited] at hans

theorem prepare_eq_ok (hs : g.stage = .awaiting .ai kind) :
    ∃ t, prepare s i kind = .ok t ∧ t.Due g ∧ t.kind = kind := by
  cases kind with
  | question => exact prepareQuestion_eq_ok ht h hc hg hs
  | answer => exact prepareAnswer_eq_ok ht h hc hs

theorem commit_eq_ok (hd : t.Due g) (hr : s.HasRoom) (now : Instant)
    (reply : Reply) :
    ∃ c, (g.advance (t.utterance (reply.usable t.kind)) = .ok c ∧
      t.Leads g (reply.usable t.kind) c) ∧ commit now t reply s = .ok (c.stage,
        (s.written now i c).uttered now i (t.utterance (reply.usable t.kind))) := by
  obtain ⟨c, ha, hl⟩ := hd.exists_advance hg.wellFormed (reply.usable t.kind)
  obtain ⟨b, -, hbi, hact⟩ := hd.actor
  obtain ⟨m, hm⟩ := exists_read_of s.messages.nextId now i (t.utterance (reply.usable t.kind))
  refine ⟨c, ⟨ha, hl⟩, (commit_eq_ok_iff h (hd.game.trans h.id_eq)).mpr ⟨⟨hd.stage, ?_⟩, hbi ▸ hact,
    c, m, rfl, (record_eq_ok_iff ht h hg).mpr ⟨ha, hr, hm, rfl⟩⟩⟩
  rw [hc.handled, hd.stage]
  rfl

end Play

end ImitationGame
