import ImitationGame.Proofs.Job.Offer
import ImitationGame.Proofs.Play.Player
import ImitationGame.Proofs.World.Invariant

namespace ImitationGame

variable {s : Store} {i player : Int} {g : Game} {now : Instant} {kind : MessageKind}

namespace Store

structure Unstuck (s : Store) (i : Int) (g : Game) : Prop where
  join : g.stage = .started → ∀ now player, (s.player? player).isSome = true →
    g.botOf? player = none → ∃ b ∈ g.bots, b.driver = .ai ∧ ∃ s' g',
      Play.join now i player s = .ok (⟨b.id, false⟩, s') ∧ s'.load i = .ok g' ∧
        ∃ b', g'.botOf? player = some b' ∧ b'.id = b.id
  job : g.stage.needsSystem = true → ∃ kind, s.offered? i = some kind ∧
    ∀ c asked told reply, (kind = .startAfterJoin ∨ s.HasRoom) →
      ∃ p s₁ stage s₂, Job.start c asked ⟨kind, i⟩ s = .ok (p, s₁) ∧
        Job.resume told reply p s₁ = .ok (.advanced stage, s₂)
  speak : ∀ kind, g.stage = .awaiting .human kind → ∃ b ∈ g.bots, ∃ player,
    g.acting = .ok (some b.id) ∧ b.driver = .human ∧ g.botOf? player = some b ∧
      ∀ now raw text, Text.acceptMessage raw = .ok text → s.HasRoom →
        ∃ m s', Play.send now i player raw none s = .ok (m, s')

theorem Faithful.unstuck (hf : s.Faithful) (h : s.Holds i g)
    (hr : Scene.Reached ⟨g, s.conversation i⟩) (hb : 2 ≤ g.bots.length) : s.Unstuck i g where
  join hs now player hpl hp := Play.join_eq_ok hf.tidy h hr.sound.1 hr.sound.2 hs hb hpl hp
  job hn := by
    obtain ⟨hg, hc⟩ := hr.sound
    rw [h.offered?_eq hf.tidy hc]
    cases hs : g.stage with
    | joined =>
      refine ⟨.startAfterJoin, rfl, fun c asked told reply _ => ?_⟩
      obtain ⟨x, d, -, hx⟩ := Job.start_of_joined hf.tidy h hc hg hs c asked
      exact ⟨_, _, _, _, hx, rfl⟩
    | awaiting d kind =>
      cases d with
      | human => simp [hs, Stage.needsSystem] at hn
      | ai =>
        refine ⟨kind.job, rfl, fun c asked told reply hroom => ?_⟩
        have hroom : s.HasRoom := hroom.resolve_left (by cases kind <;> decide)
        obtain ⟨t, ⟨hd, -⟩, hx⟩ := Job.start_of_awaiting hf.tidy h hc hg hs c asked
        obtain ⟨y, -, hy⟩ := Play.commit_eq_ok hf.tidy h hc hg hd hroom told reply
        exact ⟨_, _, y.stage, _, hx, by simp only [Job.resume, hy, ok_bind]; rfl⟩
    | started | finished => simp [hs, Stage.needsSystem] at hn
  speak kind hs := by
    obtain ⟨hg, hc⟩ := hr.sound
    obtain ⟨b, hb, ha, hd⟩ := hc.exists_acting hs
    obtain ⟨p, hp⟩ := hg.exists_player hb hd
    have hl := hc.two_le_length (by simp [hs])
    exact ⟨b, hb, p, ha, hd, hp, fun now raw text ht hroom =>
      Play.send_eq_ok hf.tidy h hg hb ha hl hp hroom ht⟩

end Store

namespace World

/-- After every run, each stored game with two bots or more can be moved on. Only a run of as many
moves as there are ids can use up the ids of messages. -/
theorem run_unstuck (moves : List (Instant × Move)) (i : Int) (r : GameRow)
    (h : (run moves).store.gameRow? i = some r) :
    (∃ g, (run moves).store.load i = .ok g ∧
      (2 ≤ g.bots.length → (run moves).store.Unstuck i g)) ∧
    (moves.length + 1 < Nat.pow 2 63 → (run moves).store.HasRoom) := by
  obtain ⟨g, hg, hr⟩ := run_reached h
  exact ⟨⟨g, hg.load, (run_faithful moves).unstuck hg hr⟩, run_hasRoom⟩

theorem sample_unstuck : (∃ g, (run sample).store.load 1 = .ok g ∧
    g.stage = .awaiting .ai .answer ∧ (run sample).store.Unstuck 1 g) ∧
    (run sample).store.HasRoom := by
  obtain ⟨r, hr⟩ := exists_sample_row
  obtain ⟨⟨g, hg, hu⟩, hroom⟩ := run_unstuck sample 1 r hr
  obtain ⟨hs, hl⟩ := sample_loads hg
  exact ⟨⟨g, hg, hs, hu (by omega)⟩, hroom (by decide)⟩

end World

end ImitationGame
