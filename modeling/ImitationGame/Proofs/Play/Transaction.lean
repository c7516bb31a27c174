import ImitationGame.Proofs.Play.Effect
import ImitationGame.Proofs.Play.Opening

namespace ImitationGame

variable {s s' : Store} {i player : Int} {g : Game} {now : Instant}

theorem Scene.Step.joined {b : Bot} {log : List MessageRow} (hst : g.stage = .started)
    (hp : g.botOf? player = none) (hb : g.firstAi? = some b) :
    Scene.Step ⟨g, log⟩ ⟨g.joined now b.id player, log⟩ := by
  unfold Game.joined
  split
  · exact .join hst hp hb ‹_›
  · exact .gather hst hp hb ‹_›

namespace Store

/-- Every stored game has a past that the rules allow. -/
structure Faithful (s : Store) : Prop where
  tidy : s.Tidy
  reached : ∀ i, (s.gameRow? i).isSome = true →
    ∃ g, s.Holds i g ∧ Scene.Reached ⟨g, s.conversation i⟩

structure Carries (i : Int) (s s' : Store) : Prop where
  tidy : s'.Tidy
  apart : Apart i s s'
  last_le : s.messages.last ≤ s'.messages.last
  le_succ : s'.messages.last ≤ s.messages.last + 1
  reached : (s'.gameRow? i).isSome = true →
    ∃ g, s'.Holds i g ∧ Scene.Reached ⟨g, s'.conversation i⟩

theorem Faithful.empty : Store.empty.Faithful :=
  ⟨.empty, fun i h => by simp [gameRow?, Store.empty, Table.empty] at h⟩

theorem Carries.faithful (h : Carries i s s') (hf : s.Faithful) : s'.Faithful := by
  refine ⟨h.tidy, fun j hj => ?_⟩
  by_cases hi : j = i
  · subst hi
    exact h.reached hj
  · rw [h.apart.row j hi] at hj
    obtain ⟨g, hg, hr⟩ := hf.reached j hj
    refine ⟨g, h.apart.holds hi hg, ?_⟩
    rw [h.apart.log j hi]
    exact hr

theorem Faithful.carries_self (h : s.Faithful) (i : Int) : Carries i s s :=
  ⟨h.tidy, .refl i s, Int.le_refl _, Int.le.intro 1 rfl, h.reached i⟩

theorem isSome_of_load (h : s.load i = .ok g) : (s.gameRow? i).isSome = true := by
  unfold load at h
  split at h
  · cases h
  · simp [*]

theorem Faithful.of_load (h : s.Faithful) (hl : s.load i = .ok g) :
    s.Holds i g ∧ Scene.Reached ⟨g, s.conversation i⟩ := by
  obtain ⟨g', hg, hr⟩ := h.reached i (isSome_of_load hl)
  obtain rfl := Except.ok.inj (hg.load.symm.trans hl)
  exact ⟨hg, hr⟩

theorem Faithful.of_bind_load {α : Type} {f : Game → Except Fault α} {a : α} (h : s.Faithful)
    (hf : (s.load i >>= f) = .ok a) :
    ∃ g, s.load i = .ok g ∧ s.Holds i g ∧ Scene.Reached ⟨g, s.conversation i⟩ := by
  obtain ⟨g, hl, -⟩ := bind_eq_ok.mp hf
  exact ⟨g, hl, h.of_load hl⟩

section

variable (h : s.Faithful) (hg : s.Holds i g) (hr : Scene.Reached ⟨g, s.conversation i⟩)

include h hg hr

theorem Faithful.carries_written {c : Change} (hc : g.Proposes c)
    (hst : Scene.Step ⟨g, s.conversation i⟩ ⟨g.applyAt now c, s.conversation i⟩) :
    Carries i s (s.written now i c) where
  tidy := h.tidy.written
  apart := .written
  last_le := Int.le_refl _
  le_succ := Int.le.intro 1 rfl
  reached _ := ⟨_, hg.written h.tidy hr.sound.1 hc now, .step hr hst⟩

theorem Faithful.carries_said {c : Change} {u : Utterance} (hc : g.advance u = .ok c)
    (hm : s.HasRoom) : Carries i s ((s.written now i c).uttered now i u) := by
  have hs : g.Seated := hr.sound.1
  have hp := hs.wellFormed.proposes_of_advance hc
  have hw := hg.written h.tidy hs hp now
  obtain ⟨hsrc, htgt⟩ := Game.mem_ids_of_advance hc
  have hn : ((s.written now i c).uttered now i u).messages.last = s.messages.last + 1 :=
    h.tidy.messages.nextId_eq
  refine ⟨h.tidy.written.uttered hm hw hsrc htgt, .trans .written .uttered, ?_, ?_, fun _ => ?_⟩
  · omega
  · omega
  · refine ⟨g.applyAt now c, { hw with }, ?_⟩
    rw [conversation_uttered]
    exact .step hr (.speak hc MessageRow.said_of)

theorem Faithful.carries_joined {b : Bot} (hst : g.stage = .started)
    (hp : g.botOf? player = none) (hb : g.firstAi? = some b) :
    Carries i s (s.joined now g b.id player) := by
  refine ⟨h.tidy.joined, hg.apart_joined h.tidy hb, ?_, ?_, fun _ => ?_⟩
  · rw [messages_joined]
  · rw [messages_joined]
    exact Int.le.intro 1 rfl
  · rw [conversation_joined]
    exact ⟨_, hg.joined h.tidy hb hr.sound.1 hp now, .step hr (.joined hst hp hb)⟩

theorem Faithful.carries_spent {b : Bot} (hb : b ∈ g.bots) (ha : g.acting = .ok (some b.id))
    (hp : 0 < b.help) : Carries i s (s.spent b.id) :=
  ⟨h.tidy.spent, hg.apart_spent h.tidy hb, Int.le_refl _, Int.le.intro 1 rfl,
    fun _ => ⟨_, hg.spent hr.sound.1 hb hp, .step hr (.hint hb ha hp)⟩⟩

end

end Store

namespace Play

open Store

variable (h : s.Faithful)

include h

theorem register_carries {name : String} {p : Player} (hp : register now name s = .ok (p, s'))
    (i : Int) : Carries i s s' := by
  obtain ⟨hn, name, rfl⟩ := register_eq_ok hp
  refine ⟨{ h.tidy with players := h.tidy.players.insert hn rfl, enrolled := fun p hp => ?_ },
    ⟨fun _ _ => rfl, fun _ _ => rfl, fun _ _ => rfl⟩, Int.le_refl _, Int.le.intro 1 rfl,
    fun hi => ?_⟩
  · rcases List.mem_append.mp hp with hp | hp
    · exact h.tidy.enrolled p hp
    · rw [List.mem_singleton.mp hp]
      exact ⟨_, Timestamp.read_instant now⟩
  · obtain ⟨g, hg, hr⟩ := h.reached i hi
    exact ⟨g, { hg with }, hr⟩

theorem openNamed_carries {names : List String} (ho : openNamed now names s = .ok (g, s')) :
    s.gameRow? g.id = none ∧ Carries g.id s s' := by
  obtain ⟨ht, ha, hg, hop, hi, hm⟩ := openNamed_opens h.tidy ho
  refine ⟨?_, ht, ha, by rw [hm], by rw [hm]; exact Int.le.intro 1 rfl,
    fun _ => ⟨g, hg, .opening hop⟩⟩
  rw [← Option.not_isSome_iff_eq_none, gameRow?_isSome]
  rintro ⟨r, hr, hri⟩
  have hl : r.id ≤ s.games.last := h.tidy.games.le_last r hr
  rw [hi, h.tidy.games.nextId_eq] at hri
  omega

theorem join_carries {a : Joined} (hj : join now i player s = .ok (a, s')) : Carries i s s' := by
  obtain ⟨g, -, hg, hr⟩ := h.of_bind_load hj
  rcases (join_eq_ok_iff h.tidy hg hr.sound.1).mp hj with
    ⟨b, -, -, rfl⟩ | ⟨hp, hst, -, b, hb, -, rfl⟩
  · exact h.carries_self i
  · exact h.carries_joined hg hr hst hp hb

theorem accuse_carries {accused : Int} {o : TagOutcome}
    (ha : accuse now i player accused s = .ok (o, s')) : Carries i s s' := by
  obtain ⟨g, -, hg, hr⟩ := h.of_bind_load ha
  obtain ⟨b, -, ho, rfl⟩ := (accuse_eq_ok_iff h.tidy hg hr.sound.1).mp ha
  exact h.carries_written hg hr (hr.sound.1.wellFormed.proposes_of_tag ho) (.tag ho)

theorem startTurns_carries {draws : Random.Stream} {st : Stage}
    (hs : startTurns now draws i s = .ok (st, s')) : Carries i s s' := by
  obtain ⟨g, -, hg, hr⟩ := h.of_bind_load hs
  obtain ⟨-, c, hc, -, rfl⟩ := (startTurns_eq_ok_iff h.tidy hg hr.sound.1).mp hs
  exact h.carries_written hg hr (hr.sound.1.wellFormed.proposes_of_start hc) (.start hc)

theorem record_carries {u : Utterance} {c : Change} {m : Message} (hl : s.load i = .ok g)
    (hc : record now g u s = .ok (c, m, s')) : Carries i s s' := by
  obtain ⟨hg, hr⟩ := h.of_load hl
  obtain ⟨ha, hm, -, rfl⟩ := (record_eq_ok_iff h.tidy hg hr.sound.1).mp hc
  exact h.carries_said hg hr ha hm

theorem send_carries {raw : String} {target : Option Int} {m : Message}
    (hs : send now i player raw target s = .ok (m, s')) : Carries i s s' := by
  obtain ⟨text, -, hs⟩ := bind_eq_ok.mp hs
  obtain ⟨g, hl, hg, -⟩ := h.of_bind_load hs
  obtain ⟨b, u, c, -, -, hc⟩ := (speak_eq_ok_iff hg).mp hs
  exact record_carries h hl hc

theorem hint_carries {reply : Reply} {a : Hint} (ha : hint i player reply s = .ok (a, s')) :
    Carries i s s' := by
  obtain ⟨g, hl⟩ := exists_load_of_hint ha
  obtain ⟨hg, hr⟩ := h.of_load hl
  obtain ⟨b, hb, hd, hp, -, rfl⟩ := (hint_eq_ok_iff hg h.tidy).mp ha
  exact h.carries_spent hg hr (Game.botOf?_eq_some hb).1 hd hp

theorem commit_carries {t : AiTurn} {reply : Reply} {st : Stage}
    (hc : commit now t reply s = .ok (st, s')) : Carries t.game s s' := by
  obtain ⟨g, hl, hg, -⟩ := h.of_bind_load hc
  obtain ⟨-, -, c, m, -, hc⟩ := (commit_eq_ok_iff hg rfl).mp hc
  exact record_carries h hl hc

theorem deleteExpired_carries {expiry : Expiry}
    (hd : deleteExpired now expiry i s = .ok ((), s')) : Carries i s s' := by
  obtain rfl := deleteExpired_eq_ok hd
  exact ⟨h.tidy.cleared, h.tidy.apart_cleared, Int.le_refl _, Int.le.intro 1 rfl, fun hi => by
    simp [gameRow?_cleared] at hi⟩

end Play

theorem Job.start_carries {j : Job} {c : JobContext} {p : JobProgress} (h : s.Faithful)
    (hs : j.start c now s = .ok (p, s')) : Store.Carries j.game s s' := by
  obtain ⟨kind, game⟩ := j
  cases kind with
  | startAfterJoin =>
    obtain ⟨⟨st, t⟩, ht, he⟩ := bind_eq_ok.mp hs
    obtain ⟨-, rfl⟩ := Prod.mk.inj (Except.ok.inj he)
    exact Play.startTurns_carries h ht
  | askAsAi | answerAsAi =>
    obtain ⟨turn, -, he⟩ := bind_eq_ok.mp hs
    obtain ⟨-, rfl⟩ := Prod.mk.inj (Except.ok.inj he)
    exact h.carries_self _
  | deleteExpired =>
    obtain ⟨⟨u, t⟩, ht, he⟩ := bind_eq_ok.mp hs
    obtain ⟨-, rfl⟩ := Prod.mk.inj (Except.ok.inj he)
    exact Play.deleteExpired_carries h ht

end ImitationGame
