import ImitationGame.Proofs.World.Drive
import Mathlib.Algebra.Order.BigOperators.Group.List
import Mathlib.Algebra.Order.Ring.Nat

namespace ImitationGame

variable {s : Store} {w w' : World} {i : Int} {games : List Int} {g g' : Game}

namespace Store

def jobsLeftFor (s : Store) (game : Int) : Nat :=
  match s.load game with
  | .ok g => g.jobsLeft
  | .error _ => 0

def gameIds (s : Store) : List Int := s.games.rows.map GameRow.id

def jobsLeft (s : Store) (games : List Int) : Nat := (games.map s.jobsLeftFor).sum

theorem mem_gameIds : i ∈ s.gameIds ↔ (s.gameRow? i).isSome = true := by
  rw [gameIds, List.mem_map, gameRow?_isSome]

theorem Holds.jobsLeftFor (h : s.Holds i g) : s.jobsLeftFor i = g.jobsLeft := by
  rw [Store.jobsLeftFor, h.load]

theorem Apart.jobsLeftFor {s' : Store} {j : Int} (h : Apart i s s') (hj : j ≠ i) :
    s'.jobsLeftFor j = s.jobsLeftFor j := by
  simp only [Store.jobsLeftFor, load, h.row j hj, h.bots j hj]

theorem isSome_of_offered (h : s.offered? i ≠ none) : (s.gameRow? i).isSome = true := by
  rw [offered?, Ne, Option.map_eq_none_iff, ← Ne, Option.ne_none_iff_exists'] at h
  obtain ⟨job, hj⟩ := h
  have hp := List.find?_some hj
  rw [List.contains_iff_mem, pending, ascending, (Sorted.sort_perm _ _).mem_iff, List.mem_map] at hp
  obtain ⟨r, hr, hri⟩ := hp
  exact gameRow?_isSome.mpr ⟨r, (List.mem_filter.mp hr).1, hri⟩

end Store

namespace World

inductive Works (w : World) : World → Prop where
  | work {i r} : w.store.offered? i ≠ none → r.meanwhile = [] → Works w (w.work i r).2

theorem work_apart {r : Round} (h : w.store.Faithful) (hm : r.meanwhile = []) :
    Store.Apart i w.store (w.work i r).2.store := by
  unfold work
  split
  · exact .refl i _
  · split
    · rename_i p s he
      have hc := Job.start_carries h he
      have hs : ({ w with store := s } : World).store.Faithful := hc.faithful h
      rw [hm]
      exact hc.apart.trans (resume_carries (r := r) hs (Job.game_of_start he)).apart
    · exact .refl i _

theorem Works.sound (h : Works w w') (hf : w.store.Faithful) :
    w'.store.Faithful ∧ w.store.messages.last ≤ w'.store.messages.last := by
  obtain ⟨-, -⟩ := h
  exact work_sound hf _ _

theorem Works.jobsLeft_lt (h : Works w w') (hf : w.store.Faithful) (hr : w'.store.HasRoom)
    (hs : ∀ i, (w.store.gameRow? i).isSome = true → i ∈ games) :
    w'.store.jobsLeft games < w.store.jobsLeft games ∧
      ∀ i, (w'.store.gameRow? i).isSome = true → i ∈ games := by
  cases h with
  | @work i r ho hm =>
    have hi := Store.isSome_of_offered ho
    obtain ⟨g, hg, hreach⟩ := hf.reached i hi
    have hn : g.stage.needsSystem = true := by
      rw [hg.offered?_eq hf.tidy hreach.sound.2] at ho
      rw [← Stage.isSome_job?, Option.isSome_iff_ne_none]
      exact ho
    obtain ⟨g', -, hg', ha⟩ := work_advances hf hg hn (r := r) (by simp [hm]) hr
    have hap := work_apart (i := i) hf hm
    have hlt : (w.work i r).2.store.jobsLeftFor i < w.store.jobsLeftFor i := by
      rw [hg.jobsLeftFor, hg'.jobsLeftFor]
      exact ha.jobsLeft_lt
    constructor
    · refine List.sum_lt_sum _ _ (fun j _ => ?_) ⟨i, hs i hi, hlt⟩
      by_cases hj : j = i
      · exact hj ▸ hlt.le
      · exact (hap.jobsLeftFor hj).le
    · intro j hj
      by_cases hji : j = i
      · exact hji ▸ hs i hi
      · exact hs j (by rwa [← hap.row j hji])

inductive Working : Nat → World → World → Prop where
  | rest {a} : Working 0 a a
  | work {n a b c} : Works a b → Working n b c → Working (n + 1) a c

theorem Working.sound {n : Nat} (h : Working n w w') (hf : w.store.Faithful) :
    w'.store.Faithful ∧ w.store.messages.last ≤ w'.store.messages.last := by
  induction h with
  | rest => exact ⟨hf, Int.le_refl _⟩
  | work hw _ ih =>
    obtain ⟨hf', hl⟩ := hw.sound hf
    obtain ⟨hf'', hl'⟩ := ih hf'
    exact ⟨hf'', hl.trans hl'⟩

theorem Working.add_jobsLeft_le {n : Nat} (h : Working n w w') (hf : w.store.Faithful)
    (hr : w'.store.HasRoom) (hs : ∀ i, (w.store.gameRow? i).isSome = true → i ∈ games) :
    n + w'.store.jobsLeft games ≤ w.store.jobsLeft games := by
  induction h with
  | rest => omega
  | work hw hrest ih =>
    obtain ⟨hf', -⟩ := hw.sound hf
    obtain ⟨hf'', hl⟩ := hrest.sound hf'
    obtain ⟨hlt, hs'⟩ := hw.jobsLeft_lt hf (hasRoom_of_le hf'.tidy hf''.tidy hr hl) hs
    have := ih hf' hr hs'
    omega

/-- After every run, each stored game that waits for the system comes back to a human after at most
`2 * n - 3` jobs, where `n` is the number of its bots, and all of them succeed; and no more jobs can
be run for all games than are left, whichever game is picked each time. -/
theorem run_comes_back (moves : List (Instant × Move)) :
    (∀ i r, (run moves).store.gameRow? i = some r → ∃ g, (run moves).store.load i = .ok g ∧
      (g.stage.needsSystem = true → ∀ rounds : Nat → Round, (∀ k, (rounds k).Spares i) →
        (driven i (2 * g.bots.length - 3) rounds (run moves)).store.HasRoom →
          ∃ k ≤ 2 * g.bots.length - 3,
            (∀ j < k, ∃ stage, ((driven i j rounds (run moves)).round i (rounds j)).1 =
              some (.ok (.advanced stage))) ∧
            ∃ g' kind, (driven i k rounds (run moves)).store.load i = .ok g' ∧
              g'.stage = .awaiting .human kind ∧
                (driven i k rounds (run moves)).store.offered? i = none)) ∧
    ∀ n w, Working n (run moves) w → w.store.HasRoom →
      n ≤ (run moves).store.jobsLeft (run moves).store.gameIds := by
  have hf := run_faithful moves
  constructor
  · intro i r h
    obtain ⟨g, hg, hr⟩ := run_reached h
    refine ⟨g, hg.load, fun hn rounds hs hroom => ?_⟩
    have hle := hr.sound.1.jobsLeft_le hr.sound.2
    obtain ⟨k, hk, hall, g', kind, hg', hst⟩ := exists_driven hf hg hn hs hle hroom
    have hfk : (driven i k rounds (run moves)).store.Faithful := (driven_sound hf i k rounds).1
    refine ⟨k, hk.trans hle, hall, g', kind, hg'.load, hst, ?_⟩
    rw [hg'.offered?_eq hfk.tidy (hfk.of_load hg'.load).2.sound.2, hst]
    rfl
  · intro n w hw hroom
    have := hw.add_jobsLeft_le hf hroom fun i => Store.mem_gameIds.mpr
    omega

theorem sample_comes_back : (∃ k ≤ 3, ∃ g' kind,
    (driven 1 k (fun _ => ⟨[], ⟨.fixed 7, ⟨86400, 3600⟩⟩, 8, [], 9, .error .timeout⟩)
      (run sample)).store.load 1 = .ok g' ∧ g'.stage = .awaiting .human kind) ∧
    1 ≤ (run sample).store.jobsLeft (run sample).store.gameIds := by
  obtain ⟨hone, hall⟩ := run_comes_back sample
  constructor
  · obtain ⟨r, hr⟩ := exists_sample_row
    obtain ⟨g, hg, hb⟩ := hone 1 r hr
    obtain ⟨hs, hl⟩ := sample_loads hg
    obtain ⟨k, hk, -, g', kind, hg', hst, -⟩ := hb (by rw [hs]; rfl)
      (fun _ => ⟨[], ⟨.fixed 7, ⟨86400, 3600⟩⟩, 8, [], 9, .error .timeout⟩)
      (fun _ => by simp [Round.Spares]) (by rw [hl, Store.HasRoom]; decide +kernel)
    rw [hl] at hk
    exact ⟨k, hk, g', kind, hg', hst⟩
  · refine hall 1
      ((run sample).work 1 ⟨[], ⟨.fixed 7, ⟨86400, 3600⟩⟩, 8, [], 9, .error .timeout⟩).2 ?_ ?_
    · exact .work (.work (by decide +kernel) rfl) .rest
    · rw [Store.HasRoom]
      decide +kernel

end World

end ImitationGame
