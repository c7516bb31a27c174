import ImitationGame.Proofs.Agree
import ImitationGame.Proofs.Play.Transaction
import ImitationGame.Proofs.Store.Assembly
import ImitationGame.Proofs.Store.Same

/-! Transactions read nothing but their game and the players: where these are the same, so is the
answer, and the game is left alike. -/

namespace ImitationGame

variable {α : Type} {s s' : Store} {i player : Int} {g : Game} {now now' : Instant}

def Message.unstamped (m : Message) : Message := { m with id := 0, createdAt := .utc 0 }

namespace Store

theorem Same.prepare {kind : MessageKind} (h : Same i s s') :
    Play.prepare s' i kind = Play.prepare s i kind := by
  cases kind with
  | question =>
    simp only [Play.prepare, Play.prepareQuestion, h.load, h.messagesOf, h.questionsBy]
  | answer => simp only [Play.prepare, Play.prepareAnswer, h.load, h.messagesOf]

structure Twins (i : Int) (s s' : Store) : Prop where
  left : s.Faithful
  right : s'.Faithful
  same : Same i s s'
  players : s'.players = s.players

def Concurs (i : Int) (R : α → α → Prop) (x y : α × Store) : Prop := R x.1 y.1 ∧ Alike i x.2 y.2

end Store

namespace Play

open Store

variable (h : Twins i s s')

include h

theorem update_concurs {c : Change} (hl : s.load i = .ok g) (hc : g.WellFormed → g.Proposes c) :
    Agree (Alike i) (s.update now i c) (s'.update now' i c) := by
  obtain ⟨hg, hr⟩ := h.left.of_load hl
  have hs := hr.sound.1
  have hc := hc hs.wellFormed
  rw [hg.update_eq_ok h.left.tidy hs hc, (h.same.holds hg).update_eq_ok h.right.tidy hs hc]
  exact .ok h.same.written

theorem accuse_concurs {accused : Int} : Agree (Concurs i Eq) (accuse now i player accused s)
    (accuse now' i player accused s') := by
  rw [accuse, accuse, h.same.load]
  refine .after fun g hl => .after fun b _ => .after fun o ho => ?_
  refine (update_concurs h hl fun hw => hw.proposes_of_tag (Refusal.lift_eq_ok.mp ho)).bind ?_
  exact fun _ _ _ _ hs => .ok ⟨rfl, hs⟩

theorem startTurns_concurs {draws : Random.Stream} : Agree (Concurs i Eq)
    (startTurns now draws i s) (startTurns now' draws i s') := by
  rw [startTurns, startTurns, h.same.load]
  refine .after fun g hl => .after fun _ _ => .after fun c hc => ?_
  refine (update_concurs h hl fun hw => hw.proposes_of_start (Refusal.lift_eq_ok.mp hc)).bind ?_
  exact fun _ _ _ _ hs => .ok ⟨rfl, hs⟩

theorem join_concurs : Agree (Concurs i Eq) (join now i player s) (join now' i player s') := by
  have hq : s'.requirePlayer player = s.requirePlayer player := by
    rw [requirePlayer, requirePlayer, player?, player?, h.players]
  rw [join, join, h.same.load]
  refine .after fun g hl => ?_
  obtain ⟨hg, hr⟩ := h.left.of_load hl
  have hg' := h.same.holds hg
  cases hp : g.botOf? player with
  | some b => exact .ok ⟨rfl, h.same.alike⟩
  | none =>
    simp only [hq]
    refine .after fun _ _ => .after fun _ he => ?_
    cases hb : g.firstAi? with
    | none => exact .error _
    | some b =>
      obtain ⟨hm, hd⟩ := Game.firstAi?_mem hb
      have hpl := (exists_requirePlayer_iff h.left.tidy).mp ⟨_, he⟩
      have hpl' : (s'.player? player).isSome = true := by rwa [player?, h.players]
      simp only [hg.claim_eq_ok h.left.tidy hm hd hpl, hg'.claim_eq_ok h.right.tidy hm hd hpl',
        ok_bind]
      cases hq : (g.claim b.id player).quorum with
      | none => exact .ok ⟨rfl, h.same.claimed.alike⟩
      | some c =>
        have hs := hr.sound.1
        simp only [hg.update_claimed_eq_ok h.left.tidy hb hs hp hq,
          hg'.update_claimed_eq_ok h.right.tidy hb hs hp hq, ok_bind]
        exact .ok ⟨rfl, h.same.claimed.written⟩

theorem requestHint_concurs :
    Agree (Concurs i Eq) (requestHint i player s) (requestHint i player s') := by
  rw [requestHint, requestHint, h.same.load]
  refine .after fun g hl => .after fun b hb => .ite (fun _ => .error _) fun _ => ?_
  obtain ⟨hg, -⟩ := h.left.of_load hl
  refine .after fun due _ => .ite (fun _ => .error _) fun _ => .ite (fun _ => .error _) fun hh => ?_
  obtain ⟨hm, -⟩ := Game.botOf?_eq_some (Game.member_eq_ok_iff.mp hb)
  have hp : 0 < b.help := Int.not_le.mp hh
  rw [hg.spendHelp_eq_ok h.left.tidy hm hp,
    (h.same.holds hg).spendHelp_eq_ok h.right.tidy hm hp]
  simp only [ok_bind, h.same.spent.messagesOf]
  exact .after fun _ _ => .ok ⟨rfl, h.same.spent.alike⟩

theorem deleteExpired_concurs {expiry : Expiry} : Agree (Concurs i Eq)
    (deleteExpired now expiry i s) (deleteExpired now expiry i s') := by
  rw [deleteExpired, deleteExpired, h.same.loadDated]
  refine .after fun d hd => .after fun cutoff _ => .ite (fun _ => .error _) fun _ =>
    .after fun cutoff _ => .ite (fun _ => .error _) fun _ => ?_
  obtain ⟨row, hr, -⟩ := of_loadDated hd
  have hs : s.delete i = .ok (s.cleared i) := delete_eq_ok_iff.mpr ⟨by rw [hr]; rfl, rfl⟩
  have hs' : s'.delete i = .ok (s'.cleared i) :=
    delete_eq_ok_iff.mpr ⟨by rw [h.same.row, hr]; rfl, rfl⟩
  rw [hs, hs']
  exact .ok ⟨rfl, alike_cleared⟩

section

variable (hm : s.HasRoom) (hm' : s'.HasRoom)

include hm hm'

theorem record_concurs {u : Utterance} (hl : s.load i = .ok g) :
    Agree (fun x y => (x.1 = y.1 ∧ y.2.1.unstamped = x.2.1.unstamped) ∧ Alike i x.2.2 y.2.2)
      (record now g u s) (record now' g u s') := by
  obtain ⟨hg, hr⟩ := h.left.of_load hl
  have hs := hr.sound.1
  cases ha : g.advance u with
  | error e =>
    rw [record, record, ha]
    exact .error _
  | ok c =>
    rw [(record_eq_ok_iff h.left.tidy hg hs).mpr ⟨ha, hm, rfl, rfl⟩,
      (record_eq_ok_iff h.right.tidy (h.same.holds hg) hs).mpr ⟨ha, hm', rfl, rfl⟩]
    exact .ok ⟨⟨rfl, rfl⟩, h.same.written.uttered⟩

theorem send_concurs {raw : String} {target : Option Int} :
    Agree (Concurs i fun m m' => m'.unstamped = m.unstamped) (send now i player raw target s)
      (send now' i player raw target s') := by
  refine .after fun text _ => ?_
  rw [speak, speak, h.same.load]
  refine .after fun g hl => .after fun b _ => ?_
  have hu : utterance s' g b.id text target = utterance s g b.id text target := by
    simp only [utterance, (h.left.of_load hl).1.id_eq, h.same.questionsBy]
  rw [hu]
  refine .after fun u _ => (record_concurs h hm hm' hl).bind fun _ _ _ _ hx => ?_
  exact .ok ⟨hx.1.2, hx.2⟩

theorem commit_concurs {t : AiTurn} {reply : Reply} (hi : t.game = i) :
    Agree (Concurs i Eq) (commit now t reply s) (commit now' t reply s') := by
  subst hi
  rw [commit, commit, h.same.load]
  refine .after fun g hl => .after fun _ _ => .after fun due _ => ?_
  refine .ite (fun _ => .error _) fun _ => ?_
  refine (record_concurs h hm hm' hl).bind fun _ _ _ _ hx => ?_
  exact .ok ⟨congrArg Change.stage hx.1.1, hx.2⟩

end

end Play

end ImitationGame
