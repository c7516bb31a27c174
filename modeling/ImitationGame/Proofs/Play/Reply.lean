import ImitationGame.Proofs.Agree
import ImitationGame.Proofs.Play.Transaction
import ImitationGame.Proofs.Play.Turn

namespace ImitationGame

variable {s : Store} {i : Int} {g : Game} {u : Utterance} {now : Instant}

theorem Game.advance_agrees (g : Game) (kind : MessageKind) (source target : Int)
    (text text' : String) :
    Agree (fun c c' => c'.stage = c.stage) (g.advance ⟨kind, source, target, text⟩)
      (g.advance ⟨kind, source, target, text'⟩) := by
  refine .after fun _ _ => .after fun _ _ => .after fun _ _ => ?_
  cases kind with
  | question =>
    refine .ite (fun _ => .error _) fun _ => .after fun _ _ => ?_
    exact .ite (fun _ => .error _) fun _ => .ite (fun _ => .error _) fun _ => .ok rfl
  | answer => exact (Agree.of_eq rfl).mono fun _ _ he => congrArg Change.stage he.symm

theorem Store.append_of_full (hr : ¬s.HasRoom) : s.append now i u = .error .tableFull := by
  rw [Store.append, Table.insert?, if_neg (show ¬s.messages.nextId < Int.pow 2 63 from hr)]
  rfl

namespace Play

theorem record_agrees (ht : s.Tidy) (h : s.Holds i g) (hg : g.Seated) (now : Instant)
    (kind : MessageKind) (source target : Int) (text text' : String) :
    Agree (fun x y => y.1.stage = x.1.stage) (record now g ⟨kind, source, target, text⟩ s)
      (record now g ⟨kind, source, target, text'⟩ s) := by
  refine (g.advance_agrees kind source target text text').lift.bind fun c c' hc hc' hst => ?_
  rw [Refusal.lift_eq_ok] at hc hc'
  have hp := hg.wellFormed.proposes_of_advance hc
  have hp' := hg.wellFormed.proposes_of_advance hc'
  rw [h.id_eq, h.update_eq_ok ht hg hp, h.update_eq_ok ht hg hp', ok_bind, ok_bind]
  obtain ⟨hs, htg⟩ := Game.mem_ids_of_advance hc
  obtain ⟨hs', htg'⟩ := Game.mem_ids_of_advance hc'
  -- Both changes are written; whether there is room for a message does not depend on its text.
  by_cases hr : s.HasRoom
  · obtain ⟨m, hm⟩ := exists_read_of s.messages.nextId now i ⟨kind, source, target, text⟩
    obtain ⟨m', hm'⟩ := exists_read_of s.messages.nextId now i ⟨kind, source, target, text'⟩
    rw [(Store.append_eq_ok_iff (h.written ht hg hp now) hs htg).mpr ⟨hr, hm, rfl⟩,
      (Store.append_eq_ok_iff (h.written ht hg hp' now) hs' htg').mpr ⟨hr, hm', rfl⟩]
    exact .ok hst
  · have hw : ∀ c, ¬(s.written now i c).HasRoom := fun _ => hr
    rw [Store.append_of_full (hw c), Store.append_of_full (hw c')]
    exact .error _

theorem commit_agrees (hf : s.Faithful) (now : Instant) (t : AiTurn) (reply reply' : Reply) :
    Agree (fun x y => y.1 = x.1) (commit now t reply s) (commit now t reply' s) := by
  refine .after fun g hl => .after fun _ _ => .after fun due _ => .ite (fun _ => .error _) fun _ => ?_
  obtain ⟨h, hr⟩ := hf.of_load hl
  exact (record_agrees hf.tidy h hr.sound.1 now t.kind t.actor t.target _ _).bind
    fun x y _ _ hst => .ok hst

theorem hint_agrees (s : Store) (game player : Int) (reply reply' : Reply) :
    Agree (fun x y => y.1.kind = x.1.kind ∧ y.1.remaining = x.1.remaining ∧ y.2 = x.2)
      (hint game player reply s) (hint game player reply' s) :=
  .after fun _ _ => .ok ⟨rfl, rfl, rfl⟩

theorem commit_of_prepare (hf : s.Faithful) (hr : s.HasRoom) {kind : MessageKind} {t : AiTurn}
    (hp : prepare s i kind = .ok t) (now : Instant) (reply : Reply) :
    ∃ stage s', commit now t reply s = .ok (stage, s') := by
  obtain ⟨-, g, hl, hst, -⟩ := of_prepare hp
  obtain ⟨h, hre⟩ := hf.of_load hl
  obtain ⟨hg, hc⟩ := hre.sound
  obtain ⟨t', hp', hd, -⟩ := prepare_eq_ok hf.tidy h hc hg hst
  obtain rfl := Except.ok.inj (hp'.symm.trans hp)
  obtain ⟨c, -, hco⟩ := commit_eq_ok hf.tidy h hc hg hd hr now reply
  exact ⟨_, _, hco⟩

end Play

end ImitationGame
