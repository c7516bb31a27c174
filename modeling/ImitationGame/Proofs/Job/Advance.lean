import ImitationGame.Proofs.Game.Distance
import ImitationGame.Proofs.Job.Offer
import ImitationGame.Proofs.Play.Transaction

namespace ImitationGame

variable {s : Store} {i : Int} {g : Game} {t : AiTurn} {c : Change} {now : Instant}

structure Game.Advances (g g' : Game) : Prop where
  awaits : ∃ d kind, g'.stage = .awaiting d kind
  jobsLeft_lt : g'.jobsLeft < g.jobsLeft

theorem AiTurn.Leads.advances {text : String} (h : t.Leads g text c) (hd : t.Due g)
    (hg : g.Seated) (hc : g.Consistent) : g.Advances (g.applyAt now c) := by
  have hs := hd.stage
  unfold AiTurn.Leads at h
  cases hk : t.kind with
  | question =>
    simp only [hk] at h
    rw [AiTurn.stage, hk] at hs
    obtain ⟨b, hb, rfl⟩ := h
    exact ⟨⟨b.driver, _, rfl⟩, Game.jobsLeft_ask hs⟩
  | answer =>
    simp only [hk] at h
    rw [AiTurn.stage, hk] at hs
    obtain ⟨b, hb, ho, rfl⟩ := h
    exact ⟨⟨b.driver, _, rfl⟩, hg.jobsLeft_reply (hc.full (by simp [hs])) hs hb ho⟩

theorem Job.start_advances (hf : s.Faithful) (h : s.Holds i g) (hs : g.stage = .joined)
    (c : JobContext) (now : Instant) : ∃ g' s',
      start c now ⟨.startAfterJoin, i⟩ s = .ok (.done (.advanced g'.stage), s') ∧ s'.Faithful ∧
        s'.Holds i g' ∧ g.Advances g' := by
  obtain ⟨-, hr⟩ := hf.of_load h.load
  obtain ⟨hg, hc⟩ := hr.sound
  obtain ⟨x, d, ⟨hx, hd⟩, hst⟩ := start_of_joined hf.tidy h hc hg hs c now
  have hw := h.written hf.tidy hg (hg.wellFormed.proposes_of_start hx) now
  have hr' : Scene.Reached ⟨g.applyAt now x, s.conversation i⟩ := .step hr (.start hx)
  refine ⟨g.applyAt now x, _, hst, (start_carries hf hst).faithful hf, hw, ⟨d, _, hd⟩, ?_⟩
  rw [Game.jobsLeft_of_joined hs]
  exact hr'.sound.1.jobsLeft_lt_of_question hr'.sound.2 hd

theorem Play.commit_advances (hf : s.Faithful) (h : s.Holds i g) (hd : t.Due g) (hr : s.HasRoom)
    (now : Instant) (reply : Reply) : ∃ g' s', commit now t reply s = .ok (g'.stage, s') ∧
      s'.Holds i g' ∧ g.Advances g' := by
  obtain ⟨hg, hc⟩ := (hf.of_load h.load).2.sound
  obtain ⟨c, ⟨ha, hl⟩, hst⟩ := commit_eq_ok hf.tidy h hc hg hd hr now reply
  have hw := h.written hf.tidy hg (hg.wellFormed.proposes_of_advance ha) now
  exact ⟨g.applyAt now c, _, hst, { hw with }, hl.advances hd hg hc⟩

end ImitationGame
