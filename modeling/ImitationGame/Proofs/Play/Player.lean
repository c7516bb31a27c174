import ImitationGame.Proofs.Game.Progress
import ImitationGame.Proofs.Play.Effect

namespace ImitationGame

variable {s : Store} {i player : Int} {g g' : Game} {b : Bot} {now : Instant} {kind : MessageKind}

namespace Game

theorem botOf?_claim (h : g.Seated) (hp : g.botOf? player = none) (hb : b ∈ g.bots)
    (hg' : g'.bots = (g.claim b.id player).bots) :
    ∃ b', g'.botOf? player = some b' ∧ b'.id = b.id := by
  let c : Bot := { b with driver := .human, player := some player }
  have hm : c ∈ (g.claim b.id player).bots := List.mem_map.mpr ⟨b, hb, if_pos rfl⟩
  have hc : (g.claim b.id player).botOf? player = some c := (h.claim hp).botOf?_eq hm rfl
  refine ⟨c, ?_, rfl⟩
  rw [botOf?, hg']
  exact hc

end Game

namespace Play

open Store

section

variable (ht : s.Tidy) (h : s.Holds i g) (hg : g.Seated)

include ht h hg

theorem join_eq_ok (hc : g.Consistent) (hs : g.stage = .started) (hb : 2 ≤ g.bots.length)
    (hpl : (s.player? player).isSome = true) (hp : g.botOf? player = none) :
    ∃ b ∈ g.bots, b.driver = .ai ∧ ∃ s' g', join now i player s = .ok (⟨b.id, false⟩, s') ∧
      s'.load i = .ok g' ∧ ∃ b', g'.botOf? player = some b' ∧ b'.id = b.id := by
  obtain ⟨b, hb⟩ := hc.exists_firstAi hs hb
  obtain ⟨hm, hd⟩ := Game.firstAi?_mem hb
  exact ⟨b, hm, hd, _, _, (join_eq_ok_iff ht h hg).mpr (.inr ⟨hp, hs, hpl, b, hb, rfl, rfl⟩),
    (h.joined ht hb hg hp now).load, Game.botOf?_claim hg hp hm Game.bots_joined⟩

end

theorem exists_utterance (hg : g.Seated) (hb : b ∈ g.bots) (ha : g.acting = .ok (some b.id))
    (hl : 2 ≤ g.bots.length) (s : Store) (text : String) :
    ∃ u c, utterance s g b.id text none = .ok u ∧ g.advance u = .ok c := by
  have hw := hg.wellFormed
  rcases Game.acting_eq_some_iff.mp ha with ⟨hq, htb⟩ | ⟨hans, htg⟩
  · obtain ⟨x, hx, hne, hxt⟩ := Game.exists_nextTarget hw hg.ids_nodup hl (Game.mem_ids_of_mem hb)
      (s.questionsBy g.id b.id)
    obtain ⟨y, -, -, hy⟩ := Game.exists_ask hw hq htb hx hne text
    have hk : g.stage.awaited = some .question := by simpa [Stage.awaitsQuestion] using hq
    exact ⟨_, _, by rw [utterance, hk]; simp [hxt, Except.map], hy⟩
  · obtain ⟨y, -, -, hy⟩ := Game.exists_reply hw hans htg text
    have hk : g.stage.awaited = some .answer := by simpa [Stage.awaitsAnswer] using hans
    exact ⟨_, _, by rw [utterance, hk], hy⟩

theorem send_eq_ok (ht : s.Tidy) (h : s.Holds i g) (hg : g.Seated) (hb : b ∈ g.bots)
    (ha : g.acting = .ok (some b.id)) (hl : 2 ≤ g.bots.length) (hp : g.botOf? player = some b)
    (hr : s.HasRoom) {raw text : String} (htext : Text.acceptMessage raw = .ok text) :
    ∃ m s', send now i player raw none s = .ok (m, s') := by
  obtain ⟨u, c, hu, hc⟩ := exists_utterance hg hb ha hl s text
  obtain ⟨m, hm⟩ := exists_read_of s.messages.nextId now i u
  refine ⟨m, (s.written now i c).uttered now i u, ?_⟩
  rw [send, htext]
  refine (speak_eq_ok_iff h).mpr ⟨b, u, c, hp, hu, ?_⟩
  exact (record_eq_ok_iff ht h hg).mpr ⟨hc, hr, hm, rfl⟩

end Play

end ImitationGame
