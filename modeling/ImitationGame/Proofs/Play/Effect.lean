import ImitationGame.Job.Run
import ImitationGame.Play.Accuse
import ImitationGame.Play.Hint
import ImitationGame.Play.Join
import ImitationGame.Play.Register
import ImitationGame.Proofs.Store.Log

/-! What each transaction writes when the game is stored: it answers exactly when the rules of the
game let it, and then the store is known. -/

namespace ImitationGame

variable {s s' : Store} {i player : Int} {g : Game} {c : Change} {u : Utterance} {now : Instant}

namespace Game

variable {b : Bot} {d : Driver} {kind : MessageKind}

theorem member_eq_ok_iff : g.member player = .ok b ↔ g.botOf? player = some b := by
  unfold member
  cases g.botOf? player <;> simp

theorem requireRecruiting_eq_ok_iff {x : Unit} :
    g.requireRecruiting = .ok x ↔ g.stage = .started := by
  unfold requireRecruiting
  cases g.stage <;> simp

theorem requirePending_eq_ok_iff {expected : Stage} {x : Unit} :
    g.requirePending expected = .ok x ↔ g.stage = expected ∧ g.handled = false := by
  rw [requirePending, ite_error_eq_ok, ite_error_eq_ok]
  simp

def helpKind (g : Game) : MessageKind := if g.stage.awaitsAnswer then .answer else .question

theorem helpKind_eq_answer_iff : g.helpKind = .answer ↔ g.stage.awaitsAnswer = true := by
  unfold helpKind
  split <;> simp [*]

theorem mem_ids_of_advance (h : g.advance u = .ok c) : u.source ∈ g.ids ∧ u.target ∈ g.ids := by
  simp only [advance, bind_eq_ok, bot_eq_ok_iff] at h
  obtain ⟨-, -, x, hx, y, hy, -⟩ := h
  rw [← id_of_find? hx, ← id_of_find? hy]
  exact ⟨mem_ids_of_mem (mem_of_find? hx), mem_ids_of_mem (mem_of_find? hy)⟩

end Game

def Store.joined (s : Store) (now : Instant) (g : Game) (bot player : Int) : Store :=
  match (g.claim bot player).quorum with
  | none => s.claimed bot player
  | some c => (s.claimed bot player).written now g.id c

def Game.joined (g : Game) (now : Instant) (bot player : Int) : Game :=
  match (g.claim bot player).quorum with
  | none => g.claim bot player
  | some c => (g.claim bot player).applyAt now c

theorem Game.bots_joined {bot : Int} :
    (g.joined now bot player).bots = (g.claim bot player).bots := by
  unfold joined
  split <;> rfl

namespace Store

theorem players_joined {bot : Int} : (s.joined now g bot player).players = s.players := by
  unfold joined
  split <;> rfl

theorem messages_joined {bot : Int} : (s.joined now g bot player).messages = s.messages := by
  unfold joined
  split <;> rfl

theorem conversation_joined {bot : Int} :
    (s.joined now g bot player).conversation i = s.conversation i := by
  rw [conversation, conversation, messages_joined]

variable {b : Bot} (h : s.Holds i g) (ht : s.Tidy) (hb : g.firstAi? = some b)

theorem Tidy.joined (ht : s.Tidy) : (s.joined now g b.id player).Tidy := by
  unfold Store.joined
  split
  · exact ht.claimed
  · exact ht.claimed.written

include h ht hb

theorem Holds.apart_joined : Apart i s (s.joined now g b.id player) := by
  have ha : Apart i s (s.claimed b.id player) := h.apart_claimed ht (Game.firstAi?_mem hb).1
  rw [Store.joined, h.id_eq]
  split
  · exact ha
  · exact ha.trans .written

theorem Holds.update_claimed_eq_ok (hg : g.Seated) (hp : g.botOf? player = none)
    (hq : (g.claim b.id player).quorum = some c) (now : Instant) :
    (s.claimed b.id player).update now i c = .ok ((s.claimed b.id player).written now i c) := by
  obtain ⟨hm, hd⟩ := Game.firstAi?_mem hb
  have hcs := hg.claim (i := b.id) hp
  exact (h.claimed hg hm hd player).update_eq_ok ht.claimed hcs
    (hcs.wellFormed.proposes_of_quorum hq) now

theorem Holds.joined (hg : g.Seated) (hp : g.botOf? player = none) (now : Instant) :
    (s.joined now g b.id player).Holds i (g.joined now b.id player) := by
  obtain ⟨hm, hd⟩ := Game.firstAi?_mem hb
  have hcl := h.claimed hg hm hd player
  have hcs := hg.claim (i := b.id) hp
  rw [Store.joined, Game.joined, h.id_eq]
  split
  · exact hcl
  · rename_i c hq
    exact hcl.written ht.claimed hcs (hcs.wellFormed.proposes_of_quorum hq) now

end Store

namespace Play

theorem register_eq_ok {name : String} {p : Player} (h : register now name s = .ok (p, s')) :
    s.players.nextId < Int.pow 2 63 ∧ ∃ name, s' = { s with players :=
      ⟨s.players.rows ++ [⟨s.players.nextId, name, .instant now⟩], s.players.nextId⟩ } := by
  simp only [register, Store.addPlayer, bind_eq_ok, Prod.exists, Fault.require_eq_ok,
    Table.insert?_eq_some_iff, pure_eq_ok, Except.ok.injEq, Prod.mk.injEq] at h
  obtain ⟨name, -, row, t, ⟨_, _, ⟨hn, rfl, rfl⟩, rfl, rfl⟩, -, -, -, rfl⟩ := h
  exact ⟨hn, name, rfl⟩

theorem deleteExpired_eq_ok {expiry : Expiry} {x : Unit}
    (h : deleteExpired now expiry i s = .ok (x, s')) : s' = s.cleared i := by
  simp only [deleteExpired, throw_eq_error, error_bind, bind_eq_ok, ite_error_eq_ok, pure_eq_ok,
    Except.ok.injEq, Prod.mk.injEq] at h
  obtain ⟨_, -, _, -, -, _, -, -, t, ht, -, rfl⟩ := h
  exact (Store.delete_eq_ok_iff.mp ht).2

theorem of_utterance {source : Int} {text : String} {target : Option Int}
    (h : utterance s g source text target = .ok u) : u.source = source ∧ u.text = text := by
  unfold utterance at h
  split at h
  · obtain rfl := Except.ok.inj h
    exact ⟨rfl, rfl⟩
  · split at h
    · obtain rfl := Except.ok.inj h
      exact ⟨rfl, rfl⟩
    · obtain ⟨t, -, rfl⟩ := map_eq_ok.mp h
      exact ⟨rfl, rfl⟩
  · obtain rfl := Except.ok.inj h
    exact ⟨rfl, rfl⟩

theorem source_of_utterance {source : Int} {text : String} {target : Option Int}
    (h : utterance s g source text target = .ok u) : u.source = source := (of_utterance h).1

theorem exists_requirePlayer_iff (ht : s.Tidy) :
    (∃ p, s.requirePlayer player = .ok p) ↔ (s.player? player).isSome = true := by
  unfold Store.requirePlayer
  cases hr : s.player? player with
  | none => simp
  | some r =>
    obtain ⟨t, hread⟩ := ht.enrolled r (List.mem_of_find?_eq_some hr)
    simp [PlayerRow.read, hread]

section

variable (ht : s.Tidy) (h : s.Holds i g) (hg : g.Seated)

include ht h hg

theorem join_eq_ok_iff {a : Joined} : join now i player s = .ok (a, s') ↔
    (∃ b, g.botOf? player = some b ∧ a = ⟨b.id, true⟩ ∧ s' = s) ∨
      (g.botOf? player = none ∧ g.stage = .started ∧ (s.player? player).isSome = true ∧
        ∃ b, g.firstAi? = some b ∧ a = ⟨b.id, false⟩ ∧ s' = s.joined now g b.id player) := by
  simp only [join, h.load, ok_bind]
  cases hp : g.botOf? player with
  | some b => simp [@eq_comm _ a, @eq_comm _ s']
  | none =>
    simp only [bind_eq_ok, Refusal.lift_eq_ok, Game.requireRecruiting_eq_ok_iff, throw_eq_error,
      exists_const, reduceCtorEq, false_and, exists_false, false_or, true_and,
      ← exists_requirePlayer_iff ht]
    refine and_congr_right fun _ => ?_
    rw [exists_and_right]
    refine and_congr_right fun hs => ?_
    rw [exists_requirePlayer_iff ht] at hs
    cases hb : g.firstAi? with
    | none => simp
    | some b =>
      obtain ⟨hm, hd⟩ := Game.firstAi?_mem hb
      simp only [h.claim_eq_ok ht hm hd hs, ok_bind, Store.joined, h.id_eq]
      cases hq : (g.claim b.id player).quorum with
      | none => simp [hq, @eq_comm _ a, @eq_comm _ s']
      | some c =>
        simp [hq, h.update_claimed_eq_ok ht hb hg hp hq, @eq_comm _ a, @eq_comm _ s']

theorem startTurns_eq_ok_iff {draws : Random.Stream} {st : Stage} :
    startTurns now draws i s = .ok (st, s') ↔ (g.stage = .joined ∧ g.handled = false) ∧
      ∃ c, g.start draws = .ok c ∧ st = c.stage ∧ s' = s.written now i c := by
  simp only [startTurns, h.load, ok_bind, bind_eq_ok, Refusal.lift_eq_ok,
    Game.requirePending_eq_ok_iff, pure_eq_ok, Except.ok.injEq, Prod.mk.injEq]
  constructor
  · rintro ⟨-, hp, c, hc, t, hu, rfl, rfl⟩
    rw [h.update_eq_ok ht hg (hg.wellFormed.proposes_of_start hc)] at hu
    exact ⟨hp, c, hc, rfl, (Except.ok.inj hu).symm⟩
  · rintro ⟨hp, c, hc, rfl, rfl⟩
    exact ⟨(), hp, c, hc, _, h.update_eq_ok ht hg (hg.wellFormed.proposes_of_start hc) now,
      rfl, rfl⟩

theorem accuse_eq_ok_iff {accused : Int} {o : TagOutcome} :
    accuse now i player accused s = .ok (o, s') ↔ ∃ b, g.botOf? player = some b ∧
      g.tag b.id accused = .ok o ∧ s' = s.written now i o.change := by
  simp only [accuse, h.load, ok_bind, bind_eq_ok, Refusal.lift_eq_ok, Game.member_eq_ok_iff,
    pure_eq_ok, Except.ok.injEq, Prod.mk.injEq]
  constructor
  · rintro ⟨b, hb, o', ho, t, hu, rfl, rfl⟩
    rw [h.update_eq_ok ht hg (hg.wellFormed.proposes_of_tag ho)] at hu
    exact ⟨b, hb, ho, (Except.ok.inj hu).symm⟩
  · rintro ⟨b, hb, ho, rfl⟩
    exact ⟨b, hb, o, ho, _, h.update_eq_ok ht hg (hg.wellFormed.proposes_of_tag ho) now, rfl, rfl⟩

theorem record_eq_ok_iff {m : Message} : record now g u s = .ok (c, m, s') ↔
    g.advance u = .ok c ∧ s.HasRoom ∧ (MessageRow.of s.messages.nextId now i u).read = .ok m ∧
      s' = (s.written now i c).uttered now i u := by
  simp only [record, h.id_eq, bind_eq_ok, Refusal.lift_eq_ok, Prod.exists, pure_eq_ok,
    Except.ok.injEq, Prod.mk.injEq]
  have hw : ∀ c, g.advance u = .ok c → g.Proposes c := fun c => hg.wellFormed.proposes_of_advance
  constructor
  · rintro ⟨c', hc, t, hu, m', t', ha, rfl, rfl, rfl⟩
    rw [h.update_eq_ok ht hg (hw c' hc)] at hu
    obtain rfl := Except.ok.inj hu
    obtain ⟨hs, htg⟩ := Game.mem_ids_of_advance hc
    obtain ⟨hr, hm, rfl⟩ := (Store.append_eq_ok_iff (h.written ht hg (hw c' hc) now) hs htg).mp ha
    exact ⟨hc, hr, hm, rfl⟩
  · rintro ⟨hc, hr, hm, rfl⟩
    obtain ⟨hs, htg⟩ := Game.mem_ids_of_advance hc
    exact ⟨c, hc, _, h.update_eq_ok ht hg (hw c hc) now, m, _,
      (Store.append_eq_ok_iff (h.written ht hg (hw c hc) now) hs htg).mpr ⟨hr, hm, rfl⟩,
      rfl, rfl, rfl⟩

end

theorem exists_read_of (id : Int) (now : Instant) (game : Int) (u : Utterance) :
    ∃ m, (MessageRow.of id now game u).read = .ok m :=
  MessageRow.legible_of.read

theorem exists_load_of_hint {reply : Reply} {a : Hint}
    (ha : hint i player reply s = .ok (a, s')) : ∃ g, s.load i = .ok g := by
  obtain ⟨⟨request, t⟩, hq, -⟩ := bind_eq_ok.mp ha
  obtain ⟨g, hl, -⟩ := bind_eq_ok.mp hq
  exact ⟨g, hl⟩

section

variable (h : s.Holds i g)

include h

theorem hint_eq_ok_iff {reply : Reply} {a : Hint} (ht : s.Tidy) :
    hint i player reply s = .ok (a, s') ↔
      ∃ b, g.botOf? player = some b ∧ g.acting = .ok (some b.id) ∧ 0 < b.help ∧
        a = ⟨g.helpKind, reply.usable g.helpKind, b.help - 1⟩ ∧ s' = s.spent b.id := by
  simp only [hint, requestHint, h.load, ok_bind, throw_eq_error, error_bind, bind_eq_ok,
    Refusal.lift_eq_ok, Game.member_eq_ok_iff, ite_error_eq_ok, ne_eq, not_not, Int.not_le,
    pure_eq_ok, Except.ok.injEq, Prod.mk.injEq, Prod.exists]
  constructor
  · rintro ⟨request, t, ⟨b, hb, -, due, hd, rfl, hp, t', hs, ms, -, rfl, rfl⟩, rfl, rfl⟩
    rw [h.spendHelp_eq_ok ht (Game.botOf?_eq_some hb).1 hp] at hs
    exact ⟨b, hb, hd, hp, rfl, (Except.ok.inj hs).symm⟩
  · rintro ⟨b, hb, hd, hp, rfl, rfl⟩
    have hs := h.spendHelp_eq_ok ht (Game.botOf?_eq_some hb).1 hp
    obtain ⟨ms, hms⟩ := (ht.spent (b := b)).exists_messagesOf i
    exact ⟨_, _, ⟨b, hb, Game.ne_finished_of_acting hd, _, hd, rfl, hp, _, hs, ms, hms, rfl, rfl⟩,
      rfl, rfl⟩

theorem hint_exhausted {b : Bot} {reply : Reply} (hb : g.botOf? player = some b)
    (hd : g.acting = .ok (some b.id)) (hp : b.help ≤ 0) :
    hint i player reply s = .error (.refused (.noHelpLeft b.id)) := by
  have hne := Game.ne_finished_of_acting hd
  simp [hint, requestHint, h.load, Game.member, hb, hne, hd, Refusal.lift, hp]

theorem speak_eq_ok_iff {text : String} {target : Option Int} {m : Message} :
    speak now i player text target s = .ok (m, s') ↔ ∃ b u c, g.botOf? player = some b ∧
      utterance s g b.id text target = .ok u ∧ record now g u s = .ok (c, m, s') := by
  simp only [speak, h.load, ok_bind, bind_eq_ok, Refusal.lift_eq_ok, Game.member_eq_ok_iff,
    Prod.exists, pure_eq_ok, Except.ok.injEq, Prod.mk.injEq]
  constructor
  · rintro ⟨b, hb, u, hu, c, m', t, hr, rfl, rfl⟩
    exact ⟨b, u, c, hb, hu, hr⟩
  · rintro ⟨b, u, c, hb, hu, hr⟩
    exact ⟨b, hb, u, hu, c, m, s', hr, rfl, rfl⟩

theorem commit_eq_ok_iff {t : AiTurn} {reply : Reply} {st : Stage} (hi : t.game = i) :
    commit now t reply s = .ok (st, s') ↔ (g.stage = t.stage ∧ g.handled = false) ∧
      g.acting = .ok (some t.actor) ∧ ∃ c m, c.stage = st ∧
        record now g (t.utterance (reply.usable t.kind)) s = .ok (c, m, s') := by
  subst hi
  simp only [commit, h.load, ok_bind, bind_eq_ok, Refusal.lift_eq_ok, throw_eq_error, error_bind,
    Game.requirePending_eq_ok_iff, ite_error_eq_ok, ne_eq, not_not, Prod.exists, pure_eq_ok,
    Except.ok.injEq, Prod.mk.injEq]
  constructor
  · rintro ⟨-, hp, due, hd, rfl, c, m, t', hr, hst, rfl⟩
    exact ⟨hp, hd, c, m, hst, hr⟩
  · rintro ⟨hp, hd, c, m, hst, hr⟩
    exact ⟨(), hp, _, hd, rfl, c, m, s', hr, hst, rfl⟩

end

end Play

end ImitationGame
