import ImitationGame.Proofs.Game.Proposal
import ImitationGame.Proofs.Scene.Consistency

namespace ImitationGame

structure Change.Open (c : Change) : Prop where
  stage : c.stage ≠ .finished
  result : c.result = none
  winner : c.winner = none

namespace Game

variable {g : Game} {t : Bot} {c : Change} {u : Utterance} {i accused player : Int} {now : Instant}

structure Settled (g : Game) : Prop where
  result_iff : g.result ≠ none ↔ g.stage = .finished
  winner_iff : g.winner ≠ none ↔ g.stage = .finished
  winner_human : ∀ x, g.winner = some x → ∃ b ∈ g.bots, b.id = x ∧ b.driver = .human

theorem ne_finished_of_advance (h : g.advance u = .ok c) : g.stage ≠ .finished := by
  intro hs
  simp [advance, requireTurns, hs] at h

theorem ne_finished_of_start {draws : Random.Stream} (h : g.start draws = .ok c) :
    g.stage ≠ .finished := by
  intro hs
  have hj := (start_eq_ok_iff.mp h).1
  rw [hs] at hj
  cases hj

theorem open_of_quorum (h : g.quorum = some c) : c.Open := by
  obtain ⟨-, rfl⟩ := quorum_eq_some_iff.mp h
  exact ⟨nofun, rfl, rfl⟩

theorem open_of_start {draws : Random.Stream} (h : g.start draws = .ok c) : c.Open := by
  obtain ⟨-, _, _, -, -, rfl⟩ := start_eq_ok_iff.mp h
  exact ⟨nofun, rfl, rfl⟩

theorem open_of_advance (h : g.advance u = .ok c) : c.Open := by
  cases hu : u.kind with
  | question =>
    obtain ⟨-, -, -, -, _, -, rfl⟩ := (advance_question_iff hu).mp h
    exact ⟨nofun, rfl, rfl⟩
  | answer =>
    obtain ⟨-, -, -, -, _, _, -, -, rfl⟩ := (advance_answer_iff hu).mp h
    exact ⟨nofun, rfl, rfl⟩

def winnerOf (tagger accused : Bot) : Int :=
  match accused.driver with
  | .ai => tagger.id
  | .human => accused.id

theorem winner_verdict (t a : Bot) : (verdict t a).1 = winnerOf t a := by
  unfold verdict winnerOf
  cases a.driver <;> rfl

theorem winner_of_tag {o : TagOutcome} (h : g.tag i accused = .ok o) :
    g.acting = .ok (some i) ∧ accused ≠ i ∧ ∃ t a, g.find? i = some t ∧ g.find? accused = some a ∧
      o.change.winner = some (winnerOf t a) ∧ o.winner = winnerOf t a := by
  obtain ⟨-, ha, hne, t, a, ht, hb, rfl⟩ := tag_eq_ok_iff.mp h
  exact ⟨ha, hne, t, a, ht, hb, congrArg some (winner_verdict t a), winner_verdict t a⟩

namespace Settled

theorem of_open (hs : g.stage ≠ .finished) (hr : g.result = none) (hw : g.winner = none) :
    g.Settled where
  result_iff := by simp [hr, hs]
  winner_iff := by simp [hw, hs]
  winner_human x hx := by simp [hw] at hx

theorem applyAt (g : Game) (now : Instant) (hc : c.Open) : (g.applyAt now c).Settled :=
  .of_open hc.stage hc.result hc.winner

theorem claim (h : g.Settled) (hs : g.stage = .started) : (g.claim i player).Settled := by
  have hn : g.stage ≠ .finished := by simp [hs]
  exact .of_open hn (not_not.mp (h.result_iff.not.mpr hn)) (not_not.mp (h.winner_iff.not.mpr hn))

theorem spend (h : g.Settled) : (g.spend i).Settled where
  result_iff := h.result_iff
  winner_iff := h.winner_iff
  winner_human x hx := by
    obtain ⟨b, hb, hi, hd⟩ := h.winner_human x hx
    refine ⟨_, List.mem_map_of_mem hb, ?_⟩
    split <;> exact ⟨hi, hd⟩

theorem tag {o : TagOutcome} (hs : g.Seated) (hp : g.botOf? player = some t)
    (ho : g.tag t.id accused = .ok o) : (g.applyAt now o.change).Settled := by
  obtain ⟨-, -, -, t', a, ht, ha, rfl⟩ := tag_eq_ok_iff.mp ho
  obtain ⟨hm, hpl⟩ := botOf?_eq_some hp
  obtain rfl : t' = t := List.inj_on_of_nodup_map hs.ids_nodup (mem_of_find? ht) hm (id_of_find? ht)
  refine ⟨iff_of_true (by simp [Game.applyAt, apply]) rfl,
    iff_of_true (by simp [Game.applyAt, apply]) rfl, fun x hx => ?_⟩
  obtain rfl : winnerOf t' a = x := winner_verdict t' a ▸ Option.some.inj hx
  unfold winnerOf
  cases hd : a.driver with
  | ai => exact ⟨t', hm, rfl, (hs.owned t' hm).mpr (by simp [hpl])⟩
  | human => exact ⟨a, mem_of_find? ha, rfl, hd⟩

end Settled

end Game

theorem Scene.Opening.settled {s : Scene} (h : s.Opening) : s.game.Settled :=
  .of_open (by simp [h.stage]) h.result h.winner

end ImitationGame
