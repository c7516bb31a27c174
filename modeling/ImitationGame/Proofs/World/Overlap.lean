import ImitationGame.Proofs.World.Exclusive

/-! Runs of a job that overlap: the answer of an AI is committed after a question to its bot, but it
may be a later question than the one that the turn was prepared for. -/

namespace ImitationGame

variable {s : Store} {i : Int} {g : Game} {now : Instant}

def Move.Finishes (game : Int) (kind : MessageKind) : Move → Prop
  | .finish turn _ => turn.game = game ∧ turn.kind = kind
  | _ => False

namespace Game

theorem Protocol.exists_asking {log : List MessageRow} {bot : Int} (h : g.Protocol log)
    (hs : g.stage.awaitsAnswer = true) (ha : g.acting = .ok (some bot)) :
    ∃ q, log.getLast? = some q ∧ q.kind = some .question ∧ q.target = bot := by
  obtain ⟨q, hq, -, htq⟩ := h.pending hs
  have hl := h.odd hs
  -- Questions and answers alternate, and the log has an odd length.
  have hk : q.kind = some (if (log.length - 1) % 2 = 0 then .question else .answer) := by
    apply h.kind
    rw [← List.getLast?_eq_getElem?]
    exact hq
  rw [if_pos (by omega)] at hk
  refine ⟨q, hq, hk, ?_⟩
  rcases acting_eq_some_iff.mp ha with ⟨hns, -⟩ | ⟨-, htb⟩
  · have he := h.even hns
    omega
  · exact Option.some.inj (htq.symm.trans htb)

end Game

namespace World

theorem run_answers (r : Round) (i : Int) (t : AiTurn) (stage : Stage) (s : Store)
    (hp : Play.prepare (run r.before).store i .answer = .ok t)
    (hc : Play.commit r.told t r.reply (r.world ⟨.answerAsAi, i⟩).store = .ok (stage, s)) :
    ∃ q a, ((r.world ⟨.answerAsAi, i⟩).store.conversation i).getLast? = some q ∧
      q.kind = some .question ∧ q.target = t.actor ∧
      s.conversation i = (r.world ⟨.answerAsAi, i⟩).store.conversation i ++ [a] ∧
      a.said = some (t.utterance (r.reply.usable .answer)) ∧
      ((∀ m ∈ r.meanwhile, ¬m.2.Finishes i .answer) →
        ((run r.before).store.conversation i).getLast? = some q) := by
  obtain ⟨⟨hi, hk⟩, g₀, hl₀, hs₀, -⟩ := Play.of_prepare hp
  have hf : (r.world ⟨.answerAsAi, i⟩).store.Faithful := run_faithful _
  obtain ⟨g, hl, -⟩ := bind_eq_ok.mp hc
  rw [hi] at hl
  obtain ⟨hg, hr⟩ := hf.of_load hl
  obtain ⟨⟨hst, -⟩, hd, c, m, -, hrec⟩ := (Play.commit_eq_ok_iff hg hi).mp hc
  obtain ⟨-, -, -, rfl⟩ := (Play.record_eq_ok_iff hf.tidy hg hr.sound.1).mp hrec
  have hans : g.stage.awaitsAnswer = true := by
    rw [hst, AiTurn.stage, hk]
    rfl
  obtain ⟨q, hq, hqk, hqt⟩ := hr.protocol.exists_asking hans hd
  refine ⟨q, _, hq, hqk, hqt, Store.conversation_uttered, hk ▸ MessageRow.said_of, fun hm => ?_⟩
  -- Without another answer the log is the one that the turn was prepared from.
  obtain ⟨hg₀, -⟩ := (run_faithful r.before).of_load hl₀
  have hsame : Store.Same i (run r.before).store (r.world ⟨.answerAsAi, i⟩).store := by
    have hw : r.world ⟨.answerAsAi, i⟩ = _ := world_eq hp
    rw [hw] at hg ⊢
    have hu := runFrom_undisturbed r.meanwhile
      (w := ⟨(run r.before).store, t :: (run r.before).turns⟩) (run_faithful r.before) hg₀ hs₀
      fun earlier now m he turn _ hti htk reply hmr => by
        apply hm (now, m) (he.subset (by simp))
        rw [hmr]
        exact ⟨hti, htk⟩
    refine hu.resolve_right fun hgone => ?_
    obtain ⟨x, hx, -⟩ := hg.row
    rw [hgone.row] at hx
    cases hx
  rw [← hsame.log]
  exact hq

def sampleAsked : List (Instant × Move) :=
  [(0, .register "Ann"), (1, .register "Ben"), (2, .openNamed ["Ada", "Bob", "Cy"]),
    (3, .join 1 1), (4, .join 1 2), (5, .begin ⟨.fixed 1, ⟨86400, 3600⟩⟩ ⟨.startAfterJoin, 1⟩),
    (6, .send 1 1 "Who?" (some 3))]

def sampleOverlap : Round where
  before := sampleAsked
  context := ⟨.fixed 1, ⟨86400, 3600⟩⟩
  asked := 7
  meanwhile := [(8, .begin ⟨.fixed 1, ⟨86400, 3600⟩⟩ ⟨.answerAsAi, 1⟩),
    (9, .finish (sampleTurn sampleAsked .answer) (.ok "I am Cy.")), (10, .send 1 2 "Why?" (some 3))]
  told := 11
  reply := .ok "Just Cy."

theorem sample_answers : ∃ t q, Play.prepare (run sampleAsked).store 1 .answer = .ok t ∧
    ((run sampleAsked).store.conversation 1).getLast? = some q ∧ q.target = t.actor := by
  let r : Round := { sampleOverlap with meanwhile := [(8, .send 1 2 "Why?" (some 3))] }
  obtain ⟨⟨stage, s⟩, h⟩ : ∃ x, (Play.prepare (run r.before).store 1 .answer >>= fun t =>
      Play.commit r.told t r.reply (r.world ⟨.answerAsAi, 1⟩).store) = .ok x :=
    exists_of_isOk (by decide +kernel)
  obtain ⟨t, ht, hc⟩ := bind_eq_ok.mp h
  obtain ⟨q, a, -, -, hq, -, -, hlast⟩ := run_answers r 1 t stage s ht hc
  exact ⟨t, q, ht, hlast (by simp [r, Move.Finishes]), hq⟩

theorem run_answers_later : ¬∀ (r : Round) (i : Int) (t : AiTurn) (stage : Stage) (s : Store),
    Play.prepare (run r.before).store i .answer = .ok t → t ∈ (r.world ⟨.answerAsAi, i⟩).turns →
    Play.commit r.told t r.reply (r.world ⟨.answerAsAi, i⟩).store = .ok (stage, s) →
    ((r.world ⟨.answerAsAi, i⟩).store.conversation i).getLast? =
      ((run r.before).store.conversation i).getLast? := by
  intro h
  have hs : (do
      let t ← Play.prepare (run sampleOverlap.before).store 1 .answer
      let w := sampleOverlap.world ⟨.answerAsAi, 1⟩
      let _ ← Play.commit sampleOverlap.told t sampleOverlap.reply w.store
      return t ∈ w.turns ∧ (w.store.conversation 1).getLast? ≠
        ((run sampleOverlap.before).store.conversation 1).getLast? : Except Fault Bool) =
      .ok true := by decide +kernel
  simp only [bind_eq_ok, pure_eq_ok, Except.ok.injEq, decide_eq_true_eq] at hs
  obtain ⟨t, hp, ⟨stage, s⟩, hc, ht, hne⟩ := hs
  exact hne (h sampleOverlap 1 t stage s hp ht hc)

end World

end ImitationGame
