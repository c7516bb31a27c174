import ImitationGame.Proofs.World.Invariant

namespace ImitationGame

variable {s s' : Store} {w : World} {i : Int} {g : Game} {now : Instant} {m : Move}

theorem Store.eq_or_eq_after {α : Type} (s : Store) (t : Transaction α) :
    s.after t = s ∨ ∃ a s', t s = .ok (a, s') ∧ s.after t = s' := by
  unfold after
  split
  · rename_i a s' he
    exact .inr ⟨a, s', he, rfl⟩
  · exact .inl rfl

inductive World.Act (w : World) (now : Instant) (g : Game) : Move → Store → Prop where
  | rest {m : Move} : Act w now g m w.store
  | join {player b} : g.stage = .started → g.botOf? player = none → g.firstAi? = some b →
      Act w now g (.join g.id player) (w.store.joined now g b.id player)
  | start {context c} : g.handled = false → g.start (context.seeds.stream g.id) = .ok c →
      Act w now g (.begin context ⟨.startAfterJoin, g.id⟩) (w.store.written now g.id c)
  | tag {player accused b o} : g.botOf? player = some b → g.tag b.id accused = .ok o →
      Act w now g (.accuse g.id player accused) (w.store.written now g.id o.change)
  | speak {player raw target b u c} : g.botOf? player = some b → u.source = b.id →
      g.advance u = .ok c → w.store.HasRoom →
      Act w now g (.send g.id player raw target) ((w.store.written now g.id c).uttered now g.id u)
  | finish {turn : AiTurn} {reply c} : turn ∈ w.turns → turn.game = g.id → g.stage = turn.stage →
      g.handled = false → g.acting = .ok (some turn.actor) →
      g.advance (turn.utterance (reply.usable turn.kind)) = .ok c → w.store.HasRoom →
      Act w now g (.finish turn reply) ((w.store.written now g.id c).uttered now g.id
        (turn.utterance (reply.usable turn.kind)))
  | hint {player reply b} : g.botOf? player = some b → g.acting = .ok (some b.id) → 0 < b.help →
      Act w now g (.hint g.id player reply) (w.store.spent b.id)
  | delete {context} : Act w now g (.begin context ⟨.deleteExpired, g.id⟩) (w.store.cleared g.id)

namespace World

theorem begin_act {context : JobContext} {job : Job} (h : w.store.Faithful)
    (hg : w.store.Holds job.game g) :
    w.Act now g (.begin context job) (w.begin now context job).store := by
  obtain ⟨hs, -⟩ := (h.of_load hg.load).2.sound
  obtain ⟨kind, i⟩ := job
  obtain rfl : g.id = i := hg.id_eq
  cases he : Job.start context now ⟨kind, g.id⟩ w.store with
  | error f =>
    rw [begin, he]
    exact .rest
  | ok p =>
    have hst : (w.begin now context ⟨kind, g.id⟩).store = p.2 := by
      obtain ⟨_ | _, _⟩ := p <;> rw [begin, he]
    rw [hst]
    cases kind with
    | startAfterJoin =>
      obtain ⟨⟨st, t⟩, ht, he⟩ := bind_eq_ok.mp he
      obtain rfl := Except.ok.inj he
      obtain ⟨⟨-, hh⟩, c, hc, -, rfl⟩ := (Play.startTurns_eq_ok_iff h.tidy hg hs).mp ht
      exact .start hh hc
    | askAsAi | answerAsAi =>
      obtain ⟨turn, -, he⟩ := bind_eq_ok.mp he
      obtain rfl := Except.ok.inj he
      exact .rest
    | deleteExpired =>
      obtain ⟨⟨u, t⟩, ht, he⟩ := bind_eq_ok.mp he
      obtain rfl := Except.ok.inj he
      obtain rfl := Play.deleteExpired_eq_ok ht
      exact .delete

theorem send_act {player : Int} {raw : String} {target : Option Int} (h : w.store.Faithful)
    (hg : w.store.Holds g.id g) : w.Act now g (.send g.id player raw target)
      (w.transact (Play.send now g.id player raw target)).store := by
  obtain ⟨hs, -⟩ := (h.of_load hg.load).2.sound
  rcases w.store.eq_or_eq_after (Play.send now g.id player raw target) with he | ⟨a, s', ha, he⟩
  · rw [transact, he]
    exact .rest
  · obtain ⟨text, -, ha⟩ := bind_eq_ok.mp ha
    obtain ⟨b, u, c, hb, hu, ha⟩ := (Play.speak_eq_ok_iff hg).mp ha
    obtain ⟨hc, hr, -, rfl⟩ := (Play.record_eq_ok_iff h.tidy hg hs).mp ha
    rw [transact, he]
    exact .speak hb (Play.source_of_utterance hu) hc hr

theorem finish_act {turn : AiTurn} {reply : Reply} (h : w.store.Faithful)
    (hg : w.store.Holds turn.game g) :
    w.Act now g (.finish turn reply) (w.finish now turn reply).store := by
  obtain ⟨hs, -⟩ := (h.of_load hg.load).2.sound
  have hi : g.id = turn.game := hg.id_eq
  unfold finish
  split
  · rename_i hm
    rcases w.store.eq_or_eq_after (Play.commit now turn reply) with he | ⟨a, s', ha, he⟩
    · rw [he]
      exact .rest
    · obtain ⟨⟨hst, hh⟩, hd, c, _, -, ha⟩ := (Play.commit_eq_ok_iff hg rfl).mp ha
      obtain ⟨hc, hr, -, rfl⟩ := (Play.record_eq_ok_iff h.tidy hg hs).mp ha
      rw [he, ← hi]
      exact .finish hm hi.symm hst hh hd hc hr
  · exact .rest

theorem step_act (h : w.store.Faithful) (hg : w.store.Holds i g) (hm : m.game? = some i)
    (now : Instant) : w.Act now g m (w.step now m).store := by
  obtain ⟨hs, -⟩ := (h.of_load hg.load).2.sound
  have hi : g.id = i := hg.id_eq
  cases m with
  | register | openNamed | openGame => cases hm
  | join game player =>
    obtain rfl := hi.trans (Option.some.inj hm).symm
    obtain rfl := hi
    rcases w.store.eq_or_eq_after (Play.join now g.id player) with he | ⟨a, s', ha, he⟩
    · simp only [step, transact, he]
      exact .rest
    · simp only [step, transact, he]
      rcases (Play.join_eq_ok_iff h.tidy hg hs).mp ha with
        ⟨b, -, -, rfl⟩ | ⟨hp, hst, -, b, hb, -, rfl⟩
      · exact .rest
      · exact .join hst hp hb
  | accuse game player accused =>
    obtain rfl := hi.trans (Option.some.inj hm).symm
    obtain rfl := hi
    rcases w.store.eq_or_eq_after (Play.accuse now g.id player accused) with he | ⟨a, s', ha, he⟩
    · simp only [step, transact, he]
      exact .rest
    · obtain ⟨b, hb, ho, rfl⟩ := (Play.accuse_eq_ok_iff h.tidy hg hs).mp ha
      simp only [step, transact, he]
      exact .tag hb ho
  | send game player raw target =>
    obtain rfl := hi.trans (Option.some.inj hm).symm
    obtain rfl := hi
    exact send_act h hg
  | hint game player reply =>
    obtain rfl := hi.trans (Option.some.inj hm).symm
    obtain rfl := hi
    rcases w.store.eq_or_eq_after (Play.hint g.id player reply) with he | ⟨a, s', ha, he⟩
    · simp only [step, transact, he]
      exact .rest
    · obtain ⟨b, hb, hd, hp, -, rfl⟩ := (Play.hint_eq_ok_iff hg h.tidy).mp ha
      simp only [step, transact, he]
      exact .hint hb hd hp
  | begin context job =>
    obtain rfl := Option.some.inj hm
    exact begin_act h hg
  | finish turn reply =>
    obtain rfl := Option.some.inj hm
    exact finish_act h hg
  | abandon turn => exact .rest

end World

end ImitationGame
