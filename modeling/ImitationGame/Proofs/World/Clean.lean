import ImitationGame.Proofs.Play.Clean
import ImitationGame.Proofs.Play.Reply
import ImitationGame.Proofs.World.Invariant

/-! After every run all texts are clean: those that are stored and those that are suggested. And no
reply of the generator makes a turn or a hint fail. -/

namespace ImitationGame

variable {w : World} {now : Instant}

theorem Store.Clean.after {α : Type} {s : Store} {t : Transaction α} (h : s.Clean)
    (ht : ∀ a s', t s = .ok (a, s') → s'.Clean) : (s.after t).Clean := by
  unfold Store.after
  split
  · exact ht _ _ ‹_›
  · exact h

namespace World

theorem begin_clean {context : JobContext} {job : Job} (h : w.store.Faithful)
    (hc : w.store.Clean) : (w.begin now context job).store.Clean := by
  unfold begin
  split
  · exact Job.start_keeps_clean h hc ‹_›
  · exact Job.start_keeps_clean h hc ‹_›
  · exact hc

theorem step_clean (h : w.store.Faithful) (hc : w.store.Clean) (now : Instant) (m : Move) :
    (w.step now m).store.Clean := by
  have hopen : ∀ names, (w.transact (Play.openNamed now names)).store.Clean :=
    fun _ => hc.after fun _ _ => Play.openNamed_keeps_clean hc
  cases m with
  | register name => exact hc.after fun _ _ => Play.register_keeps_clean hc
  | openNamed names => exact hopen names
  | openGame names => exact hopen _
  | join game player => exact hc.after fun _ _ => Play.join_keeps_clean h hc
  | accuse game player accused => exact hc.after fun _ _ => Play.accuse_keeps_clean h hc
  | send game player raw target => exact hc.after fun _ _ => Play.send_keeps_clean h hc
  | hint game player reply => exact hc.after fun _ _ => Play.hint_keeps_clean h hc
  | begin context job => exact begin_clean h hc
  | finish turn reply =>
    simp only [step, finish]
    split
    · exact hc.after fun _ _ => Play.commit_keeps_clean h hc
    · exact hc
  | abandon turn => exact hc

theorem runFrom_clean (h : w.store.Faithful) (hc : w.store.Clean)
    (moves : List (Instant × Move)) : (w.runFrom moves).store.Clean := by
  induction moves generalizing w with
  | nil => exact hc
  | cons m moves ih => exact ih (step_faithful h m.1 m.2) (step_clean h hc m.1 m.2)

theorem run_clean (moves : List (Instant × Move)) :
    (run moves).store.Clean ∧
    (∀ game player reply hint s',
      Play.hint game player reply (run moves).store = .ok (hint, s') → Text.IsClean hint.text) ∧
    (∀ game player reply reply',
      Agree (fun x y => y.1.kind = x.1.kind ∧ y.1.remaining = x.1.remaining ∧ y.2 = x.2)
        (Play.hint game player reply (run moves).store)
        (Play.hint game player reply' (run moves).store)) ∧
    (∀ now turn reply reply', Agree (fun x y => y.1 = x.1)
      (Play.commit now turn reply (run moves).store)
      (Play.commit now turn reply' (run moves).store)) ∧
    ∀ game kind turn, (run moves).store.HasRoom →
      Play.prepare (run moves).store game kind = .ok turn → ∀ now reply,
        ∃ stage s', Play.commit now turn reply (run moves).store = .ok (stage, s') := by
  have hf := run_faithful moves
  refine ⟨runFrom_clean .empty .empty moves, ?_, ?_, ?_, ?_⟩
  · exact fun _ _ _ _ _ => Play.hint_clean
  · exact fun _ _ => Play.hint_agrees _ _ _
  · exact Play.commit_agrees hf
  · exact fun _ _ _ hr hp => Play.commit_of_prepare hf hr hp

theorem sample_clean :
    (run (sample.take 6 ++ [(6, .send 1 1 "\n Who? " none)])).store.messages.rows.map
        MessageRow.text = ["Who?"] ∧ Text.IsClean "Who?" ∧
      ∃ hint s', Play.hint 1 1 (.ok "\" Who, you?\"") (run (sample.take 6)).store = .ok (hint, s') ∧
        hint.text = "Who, you?" ∧ Text.IsClean hint.text := by
  have hm : (run (sample.take 6 ++ [(6, .send 1 1 "\n Who? " none)])).store.messages.rows.map
      MessageRow.text = ["Who?"] := by decide +kernel
  have hh : ((Play.hint 1 1 (.ok "\" Who, you?\"") (run (sample.take 6)).store).map
      fun x => x.1.text).toOption = some "Who, you?" := by decide +kernel
  obtain ⟨m, hs, he⟩ := List.mem_map.mp (hm ▸ List.mem_singleton_self "Who?")
  refine ⟨hm, he ▸ (run_clean _).1.messages m hs, ?_⟩
  cases hq : Play.hint 1 1 (.ok "\" Who, you?\"") (run (sample.take 6)).store with
  | error f => simp [hq, Except.map, Except.toOption] at hh
  | ok x =>
    rw [hq] at hh
    exact ⟨x.1, x.2, rfl, Option.some.inj hh, (run_clean _).2.1 _ _ _ _ _ hq⟩

end World

end ImitationGame
