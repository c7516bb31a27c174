import ImitationGame.Proofs.Play.Transaction
import ImitationGame.Proofs.Text.Clean

namespace ImitationGame

variable {s s' : Store} {i player : Int} {g : Game} {c : Change} {u : Utterance} {now : Instant}

def Change.Clean (c : Change) : Prop := ∀ q, c.question = some q → Text.IsClean q

namespace Game

theorem clean_of_advance (h : g.advance u = .ok c) (hu : Text.IsClean u.text) : c.Clean := by
  cases hk : u.kind with
  | question =>
    obtain ⟨-, -, -, -, t, -, rfl⟩ := (advance_question_iff hk).mp h
    intro q hq
    exact Option.some.inj hq ▸ hu
  | answer =>
    obtain ⟨-, -, -, -, _, b, -, -, rfl⟩ := (advance_answer_iff hk).mp h
    exact nofun

theorem clean_of_tag {tagger accused : Int} {o : TagOutcome} (h : g.tag tagger accused = .ok o) :
    o.change.Clean := by
  obtain ⟨-, -, -, t, a, -, -, rfl⟩ := tag_eq_ok_iff.mp h
  exact nofun

theorem clean_of_start {draws : Random.Stream} (h : g.start draws = .ok c) : c.Clean := by
  obtain ⟨-, x, b, -, -, rfl⟩ := start_eq_ok_iff.mp h
  exact nofun

theorem clean_of_quorum (h : g.quorum = some c) : c.Clean := by
  obtain ⟨-, rfl⟩ := quorum_eq_some_iff.mp h
  exact nofun

end Game

namespace Store

structure Clean (s : Store) : Prop where
  messages : ∀ m ∈ s.messages.rows, Text.IsClean m.text
  questions : ∀ r ∈ s.games.rows, ∀ q, r.question = some q → Text.IsClean q

namespace Clean

theorem empty : Store.empty.Clean :=
  ⟨by simp [Store.empty, Table.empty], by simp [Store.empty, Table.empty]⟩

theorem written (h : s.Clean) (hc : c.Clean) : (s.written now i c).Clean := by
  refine ⟨h.messages, fun r hr => ?_⟩
  obtain ⟨x, hx, rfl⟩ := List.mem_map.mp hr
  split
  · exact hc
  · exact h.questions x hx

theorem uttered (h : s.Clean) (hu : Text.IsClean u.text) : (s.uttered now i u).Clean := by
  refine ⟨fun m hm => ?_, h.questions⟩
  rcases List.mem_append.mp hm with hm | hm
  · exact h.messages m hm
  · obtain rfl := List.mem_singleton.mp hm
    exact hu

theorem joined (h : s.Clean) (bot : Int) : (s.joined now g bot player).Clean := by
  have hc : (s.claimed bot player).Clean := { h with }
  unfold Store.joined
  split
  · exact hc
  · exact hc.written (Game.clean_of_quorum ‹_›)

theorem cleared (h : s.Clean) : (s.cleared i).Clean where
  messages m hm := h.messages m (List.mem_of_mem_filter hm)
  questions r hr := h.questions r (List.mem_of_mem_filter hr)

theorem withGame (h : s.Clean) (rows : List BotRow) (last : Int) :
    (Play.withGame s now rows last).Clean := by
  refine ⟨h.messages, fun r hr => ?_⟩
  rcases List.mem_append.mp hr with hr | hr
  · exact h.questions r hr
  · obtain rfl := List.mem_singleton.mp hr
    exact nofun

end Clean

end Store

namespace Play

open Store

theorem hint_clean {reply : Reply} {a : Hint} (ha : hint i player reply s = .ok (a, s')) :
    Text.IsClean a.text := by
  obtain ⟨⟨request, t⟩, -, he⟩ := bind_eq_ok.mp ha
  obtain ⟨rfl, -⟩ := Prod.mk.inj (Except.ok.inj he)
  exact Reply.isClean_usable _ _

variable (h : s.Faithful) (hc : s.Clean)

include h hc

omit h in
theorem register_keeps_clean {name : String} {p : Player}
    (hp : register now name s = .ok (p, s')) : s'.Clean := by
  obtain ⟨-, name, rfl⟩ := register_eq_ok hp
  exact { hc with }

omit h in
theorem openNamed_keeps_clean {names : List String} (ho : openNamed now names s = .ok (g, s')) :
    s'.Clean := by
  obtain ⟨-, rows, bots, last, -, -, rfl, -⟩ := openNamed_eq_ok ho
  exact hc.withGame rows last

theorem join_keeps_clean {a : Joined} (hj : join now i player s = .ok (a, s')) : s'.Clean := by
  obtain ⟨g, -, hg, hr⟩ := h.of_bind_load hj
  rcases (join_eq_ok_iff h.tidy hg hr.sound.1).mp hj with
    ⟨b, -, -, rfl⟩ | ⟨-, -, -, b, -, -, rfl⟩
  · exact hc
  · exact hc.joined b.id

theorem accuse_keeps_clean {accused : Int} {o : TagOutcome}
    (ha : accuse now i player accused s = .ok (o, s')) : s'.Clean := by
  obtain ⟨g, -, hg, hr⟩ := h.of_bind_load ha
  obtain ⟨b, -, ho, rfl⟩ := (accuse_eq_ok_iff h.tidy hg hr.sound.1).mp ha
  exact hc.written (Game.clean_of_tag ho)

theorem startTurns_keeps_clean {draws : Random.Stream} {st : Stage}
    (hs : startTurns now draws i s = .ok (st, s')) : s'.Clean := by
  obtain ⟨g, -, hg, hr⟩ := h.of_bind_load hs
  obtain ⟨-, c, hst, -, rfl⟩ := (startTurns_eq_ok_iff h.tidy hg hr.sound.1).mp hs
  exact hc.written (Game.clean_of_start hst)

theorem record_keeps_clean {m : Message} (hl : s.load i = .ok g) (hu : Text.IsClean u.text)
    (hr : record now g u s = .ok (c, m, s')) : s'.Clean := by
  obtain ⟨hg, hre⟩ := h.of_load hl
  obtain ⟨ha, -, -, rfl⟩ := (record_eq_ok_iff h.tidy hg hre.sound.1).mp hr
  exact (hc.written (Game.clean_of_advance ha hu)).uttered hu

theorem send_keeps_clean {raw : String} {target : Option Int} {m : Message}
    (hs : send now i player raw target s = .ok (m, s')) : s'.Clean := by
  obtain ⟨text, ht, hs⟩ := bind_eq_ok.mp hs
  have hcl := Text.isClean_of_acceptMessage (Refusal.lift_eq_ok.mp ht)
  obtain ⟨g, hl, hg, -⟩ := h.of_bind_load hs
  obtain ⟨b, u, c, -, hu, hr⟩ := (speak_eq_ok_iff hg).mp hs
  exact record_keeps_clean h hc hl ((of_utterance hu).2 ▸ hcl) hr

theorem commit_keeps_clean {t : AiTurn} {reply : Reply} {st : Stage}
    (hco : commit now t reply s = .ok (st, s')) : s'.Clean := by
  obtain ⟨g, hl, hg, -⟩ := h.of_bind_load hco
  obtain ⟨-, -, c, m, -, hr⟩ := (commit_eq_ok_iff hg rfl).mp hco
  exact record_keeps_clean h hc hl (Reply.isClean_usable _ _) hr

theorem hint_keeps_clean {reply : Reply} {a : Hint} (ha : hint i player reply s = .ok (a, s')) :
    s'.Clean := by
  obtain ⟨g, hl⟩ := exists_load_of_hint ha
  obtain ⟨b, -, -, -, -, rfl⟩ := (hint_eq_ok_iff (h.of_load hl).1 h.tidy).mp ha
  exact { hc with }

omit h in
theorem deleteExpired_keeps_clean {expiry : Expiry}
    (hd : deleteExpired now expiry i s = .ok ((), s')) : s'.Clean := by
  obtain rfl := deleteExpired_eq_ok hd
  exact hc.cleared

end Play

theorem Job.start_keeps_clean {j : Job} {context : JobContext} {p : JobProgress} (h : s.Faithful)
    (hc : s.Clean) (hs : j.start context now s = .ok (p, s')) : s'.Clean := by
  obtain ⟨kind, game⟩ := j
  cases kind with
  | startAfterJoin =>
    obtain ⟨⟨st, t⟩, ht, he⟩ := bind_eq_ok.mp hs
    obtain ⟨-, rfl⟩ := Prod.mk.inj (Except.ok.inj he)
    exact Play.startTurns_keeps_clean h hc ht
  | askAsAi | answerAsAi =>
    obtain ⟨turn, -, he⟩ := bind_eq_ok.mp hs
    obtain ⟨-, rfl⟩ := Prod.mk.inj (Except.ok.inj he)
    exact hc
  | deleteExpired =>
    obtain ⟨⟨u, t⟩, ht, he⟩ := bind_eq_ok.mp hs
    obtain ⟨-, rfl⟩ := Prod.mk.inj (Except.ok.inj he)
    exact Play.deleteExpired_keeps_clean hc ht

end ImitationGame
