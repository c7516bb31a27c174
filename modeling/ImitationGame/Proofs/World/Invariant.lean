import ImitationGame.Proofs.Job.Offer
import ImitationGame.Proofs.Play.Transaction
import ImitationGame.Proofs.Scene.Protocol
import ImitationGame.Proofs.World.Basic

/-! What holds after every run: each stored game follows the turn protocol and agrees with itself
about who must act. -/

namespace ImitationGame

variable {s s' : Store} {w : World} {i j : Int} {g : Game} {now : Instant}

namespace Store

theorem Faithful.carries_after {α : Type} {t : Transaction α} (h : s.Faithful)
    (ht : ∀ a s', t s = .ok (a, s') → Carries i s s') : Carries i s (s.after t) := by
  unfold Store.after
  split
  · rename_i a s' he
    exact ht a s' he
  · exact h.carries_self i

end Store

namespace World

theorem begin_carries {c : JobContext} {job : Job} (h : w.store.Faithful) :
    Store.Carries job.game w.store (w.begin now c job).store := by
  unfold begin
  split
  · exact Job.start_carries h (by assumption)
  · exact Job.start_carries h (by assumption)
  · exact h.carries_self _

theorem openNamed_carries {names : List String} (h : w.store.Faithful) (j : Int) :
    ∃ i, Store.Carries i w.store (w.transact (Play.openNamed now names)).store ∧
      (i = j → w.store.gameRow? j = none) := by
  rw [transact, Store.after]
  split
  · rename_i g s ho
    obtain ⟨hn, hc⟩ := Play.openNamed_carries h ho
    exact ⟨g.id, hc, fun he => he ▸ hn⟩
  · exact ⟨j + 1, h.carries_self _, fun he => absurd he (by omega)⟩

theorem step_carries_of_game {m : Move} (h : w.store.Faithful) (hm : m.game? = some i)
    (now : Instant) : Store.Carries i w.store (w.step now m).store := by
  cases m with
  | register | openNamed | openGame => cases hm
  | join game player =>
    obtain rfl := Option.some.inj hm
    exact h.carries_after fun _ _ => Play.join_carries h
  | accuse game player accused =>
    obtain rfl := Option.some.inj hm
    exact h.carries_after fun _ _ => Play.accuse_carries h
  | send game player raw target =>
    obtain rfl := Option.some.inj hm
    exact h.carries_after fun _ _ => Play.send_carries h
  | hint game player reply =>
    obtain rfl := Option.some.inj hm
    exact h.carries_after fun _ _ => Play.hint_carries h
  | begin c job =>
    obtain rfl := Option.some.inj hm
    exact begin_carries h
  | finish turn reply =>
    obtain rfl := Option.some.inj hm
    simp only [step, finish]
    split
    · exact h.carries_after fun _ _ => Play.commit_carries h
    · exact h.carries_self _
  | abandon turn => exact h.carries_self i

theorem step_carries (h : w.store.Faithful) (now : Instant) (m : Move) (j : Int) :
    ∃ i, Store.Carries i w.store (w.step now m).store ∧
      (i = j → m.game? = some j ∨ w.store.gameRow? j = none) := by
  cases hm : m.game? with
  | some i =>
    exact ⟨i, step_carries_of_game h hm now, fun he => .inl (congrArg some he)⟩
  | none =>
    cases m with
    | register name =>
      exact ⟨j + 1, h.carries_after fun _ _ hp => Play.register_carries h hp _,
        fun he => absurd he (by omega)⟩
    | openNamed names =>
      obtain ⟨i, hc, hn⟩ := openNamed_carries h j
      exact ⟨i, hc, fun he => .inr (hn he)⟩
    | openGame names =>
      obtain ⟨i, hc, hn⟩ := openNamed_carries h j
      exact ⟨i, hc, fun he => .inr (hn he)⟩
    | join | accuse | send | hint | begin | finish | abandon => cases hm

theorem step_faithful (h : w.store.Faithful) (now : Instant) (m : Move) :
    (w.step now m).store.Faithful := by
  obtain ⟨i, hc, -⟩ := step_carries h now m 0
  exact hc.faithful h

variable {moves : List (Instant × Move)}

theorem runFrom_cons (m : Instant × Move) :
    w.runFrom (m :: moves) = (w.step m.1 m.2).runFrom moves := rfl

theorem runFrom_faithful (h : w.store.Faithful) (moves : List (Instant × Move)) :
    (w.runFrom moves).store.Faithful := by
  induction moves generalizing w with
  | nil => exact h
  | cons m moves ih => exact ih (step_faithful h m.1 m.2)

theorem run_faithful (moves : List (Instant × Move)) : (run moves).store.Faithful :=
  runFrom_faithful .empty moves

theorem runFrom_holds (h : w.store.Faithful) (hg : w.store.Holds i g)
    (hm : ∀ m ∈ moves, m.2.game? ≠ some i) : (w.runFrom moves).store.Holds i g := by
  induction moves generalizing w with
  | nil => exact hg
  | cons m moves ih =>
    obtain ⟨hne, hm⟩ := List.forall_mem_cons.mp hm
    obtain ⟨j, hc, hj⟩ := step_carries h m.1 m.2 i
    refine ih (step_faithful h m.1 m.2) (hc.apart.holds ?_ hg) hm
    -- The game is stored, so a move that changes it names it.
    rintro rfl
    obtain ⟨r, hr, -⟩ := hg.row
    exact (hj rfl).elim hne fun hn => by simp [hn] at hr

theorem last_le_runFrom (h : w.store.Faithful) :
    w.store.messages.last ≤ (w.runFrom moves).store.messages.last := by
  induction moves generalizing w with
  | nil => exact Int.le_refl _
  | cons m moves ih =>
    obtain ⟨j, hc, -⟩ := step_carries h m.1 m.2 0
    exact hc.last_le.trans (ih (step_faithful h m.1 m.2))

theorem runFrom_last_le (h : w.store.Faithful) (moves : List (Instant × Move)) :
    (w.runFrom moves).store.messages.last ≤ w.store.messages.last + moves.length := by
  induction moves generalizing w with
  | nil => simp [runFrom]
  | cons m moves ih =>
    obtain ⟨j, hc, -⟩ := step_carries h m.1 m.2 0
    have hi := ih (step_faithful h m.1 m.2)
    have := hc.le_succ
    rw [runFrom_cons, List.length_cons]
    omega

theorem run_hasRoom (hl : moves.length + 1 < Nat.pow 2 63) : (run moves).store.HasRoom := by
  have h : (run moves).store.messages.last ≤ 0 + (moves.length : Int) :=
    runFrom_last_le .empty moves
  have hp : Int.pow 2 63 = (Nat.pow 2 63 : Nat) := rfl
  rw [Store.HasRoom, (run_faithful moves).tidy.messages.nextId_eq, hp]
  omega

variable {r : GameRow}

theorem run_reached (h : (run moves).store.gameRow? i = some r) :
    ∃ g, (run moves).store.Holds i g ∧ Scene.Reached ⟨g, (run moves).store.conversation i⟩ :=
  (run_faithful moves).reached i (by rw [h, Option.isSome_some])

theorem conversation_ascending (ht : s.Tidy) (i : Int) :
    (s.conversation i).Pairwise fun a b => a.id < b.id :=
  ht.messages.ordered.filter _

theorem run_protocol (moves : List (Instant × Move)) (i : Int) (r : GameRow)
    (h : (run moves).store.gameRow? i = some r) : ∃ g, (run moves).store.load i = .ok g ∧
      g.Protocol ((run moves).store.conversation i) ∧
        ((run moves).store.conversation i).Pairwise fun a b => a.id < b.id := by
  obtain ⟨g, hg, hr⟩ := run_reached h
  exact ⟨g, hg.load, hr.protocol, conversation_ascending (run_faithful moves).tidy i⟩

theorem sample_protocol : ∃ g, (run sample).store.load 1 = .ok g ∧
    g.Protocol ((run sample).store.conversation 1) ∧
      ((run sample).store.conversation 1).length = 1 := by
  obtain ⟨r, hr⟩ := exists_sample_row
  obtain ⟨g, hg, hp, -⟩ := run_protocol sample 1 r hr
  exact ⟨g, hg, hp, by decide +kernel⟩

theorem run_consistent (moves : List (Instant × Move)) (i : Int) (r : GameRow)
    (h : (run moves).store.gameRow? i = some r) : ∃ g, (run moves).store.load i = .ok g ∧
      g.Consistent ∧
        (∀ job ∈ Sweep.waiting, ∀ k stage,
          g.requirePending job.2 ≠ .error (.alreadyHandled k stage)) ∧
        ∀ k, Play.prepareAnswer (run moves).store i ≠
          .error (.refused (.corrupt (.noQuestion k))) := by
  obtain ⟨g, hg, hr⟩ := run_reached h
  have hc : g.Consistent := hr.sound.2
  refine ⟨g, hg.load, hc, fun job hj k stage => ?_, fun k => ?_⟩
  · rcases hc.requirePending_cases (Sweep.needsSystem_of_mem hj) with hp | hp
    · simp [hp]
    · simp [hp]
  · exact Play.prepareAnswer_ne (run_faithful moves).tidy hg hc k

theorem sample_consistent : ∃ g, (run sample).store.load 1 = .ok g ∧ g.Consistent ∧
    g.stage = .awaiting .ai .answer := by
  obtain ⟨r, hr⟩ := exists_sample_row
  obtain ⟨g, hg, hc, -⟩ := run_consistent sample 1 r hr
  exact ⟨g, hg, hc, (sample_loads hg).1⟩

end World

end ImitationGame
