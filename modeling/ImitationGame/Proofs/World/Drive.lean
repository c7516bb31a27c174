import ImitationGame.Proofs.Job.Advance
import ImitationGame.Proofs.World.Invariant

/-! Driving a game: the job that the sweep offers for it is run again and again, and hands the game
back to a human. -/

namespace ImitationGame

variable {s s' : Store} {w : World} {i : Int} {g : Game} {r : Round} {now : Instant}

structure Round where
  before : List (Instant × Move)
  context : JobContext
  asked : Instant
  meanwhile : List (Instant × Move)
  told : Instant
  reply : Reply

def Round.Spares (r : Round) (game : Int) : Prop :=
  (∀ m ∈ r.before, m.2.game? ≠ some game) ∧ ∀ m ∈ r.meanwhile, m.2.game? ≠ some game

namespace World

def resume (w : World) (r : Round) (p : JobProgress) : Except Fault JobOutcome × World :=
  match Job.resume r.told r.reply p w.store with
  | .ok (outcome, s) => (.ok outcome, { w with store := s })
  | .error f => (.error f, w)

def work (w : World) (game : Int) (r : Round) : Option (Except Fault JobOutcome) × World :=
  match w.store.offered? game with
  | none => (none, w)
  | some kind =>
    match Job.start r.context r.asked ⟨kind, game⟩ w.store with
    | .ok (p, s) => Prod.map some id (({ w with store := s }.runFrom r.meanwhile).resume r p)
    | .error f => (some (.error f), w)

def round (w : World) (game : Int) (r : Round) : Option (Except Fault JobOutcome) × World :=
  (w.runFrom r.before).work game r

def driven (game : Int) : Nat → (Nat → Round) → World → World
  | 0, _, w => w
  | k + 1, rounds, w => driven game k (fun j => rounds (j + 1)) (w.round game (rounds 0)).2

theorem resume_carries {p : JobProgress} (h : w.store.Faithful)
    (hp : ∀ t, p = .thinking t → t.game = i) : Store.Carries i w.store (w.resume r p).2.store := by
  unfold resume
  split
  · rename_i outcome s he
    cases p with
    | done o =>
      obtain ⟨-, rfl⟩ := Prod.mk.inj (Except.ok.inj he)
      exact h.carries_self i
    | thinking t =>
      obtain ⟨⟨st, s₁⟩, hc, he⟩ := bind_eq_ok.mp he
      obtain ⟨-, rfl⟩ := Prod.mk.inj (Except.ok.inj he)
      exact hp t rfl ▸ Play.commit_carries h hc
  · exact h.carries_self i

theorem work_sound (h : w.store.Faithful) (i : Int) (r : Round) :
    (w.work i r).2.store.Faithful ∧
      w.store.messages.last ≤ (w.work i r).2.store.messages.last := by
  unfold work
  split
  · exact ⟨h, Int.le_refl _⟩
  · split
    · rename_i p s he
      have hc := Job.start_carries h he
      have hs : ({ w with store := s } : World).store.Faithful := hc.faithful h
      have hm := runFrom_faithful hs r.meanwhile
      have hr := resume_carries (r := r) hm (Job.game_of_start he)
      refine ⟨hr.faithful hm, ?_⟩
      calc w.store.messages.last
        _ ≤ s.messages.last := hc.last_le
        _ ≤ _ := last_le_runFrom hs
        _ ≤ _ := hr.last_le
    · exact ⟨h, Int.le_refl _⟩

theorem round_sound (h : w.store.Faithful) (i : Int) (r : Round) :
    (w.round i r).2.store.Faithful ∧
      w.store.messages.last ≤ (w.round i r).2.store.messages.last := by
  obtain ⟨hf, hl⟩ := work_sound (runFrom_faithful h r.before) i r
  exact ⟨hf, (last_le_runFrom h).trans hl⟩

theorem driven_sound (h : w.store.Faithful) (i : Int) (k : Nat) (rounds : Nat → Round) :
    (driven i k rounds w).store.Faithful ∧
      w.store.messages.last ≤ (driven i k rounds w).store.messages.last := by
  induction k generalizing w rounds with
  | zero => exact ⟨h, Int.le_refl _⟩
  | succ k ih =>
    obtain ⟨hf, hl⟩ := round_sound h i (rounds 0)
    obtain ⟨hf', hl'⟩ := ih hf fun j => rounds (j + 1)
    exact ⟨hf', hl.trans hl'⟩

theorem hasRoom_of_le (h : s.Tidy) (h' : s'.Tidy) (hr : s'.HasRoom)
    (hl : s.messages.last ≤ s'.messages.last) : s.HasRoom := by
  rw [Store.HasRoom, h'.messages.nextId_eq] at hr
  rw [Store.HasRoom, h.messages.nextId_eq]
  omega

theorem work_advances (h : w.store.Faithful) (hg : w.store.Holds i g)
    (hn : g.stage.needsSystem = true) (hm : ∀ m ∈ r.meanwhile, m.2.game? ≠ some i)
    (hroom : (w.work i r).2.store.HasRoom) : ∃ g',
      (w.work i r).1 = some (.ok (.advanced g'.stage)) ∧ (w.work i r).2.store.Holds i g' ∧
        g.Advances g' := by
  obtain ⟨hse, hc⟩ := (h.of_load hg.load).2.sound
  have ho := hg.offered?_eq h.tidy hc
  cases hs : g.stage with
  | joined =>
    rw [hs] at ho
    obtain ⟨g', s', hst, hf', hg', ha⟩ := Job.start_advances h hg hs r.context r.asked
    refine ⟨g', ?_, ?_, ha⟩
    · simp only [work, ho, Stage.job?, hst]
      rfl
    · simp only [work, ho, Stage.job?, hst]
      exact runFrom_holds hf' hg' hm
  | awaiting d kind =>
    cases d with
    | human => simp [hs, Stage.needsSystem] at hn
    | ai =>
      rw [hs] at ho
      obtain ⟨t, ⟨hd, -⟩, hst⟩ := Job.start_of_awaiting h.tidy hg hc hse hs r.context r.asked
      have hf' := runFrom_faithful h r.meanwhile
      have hw : w.work i r = Prod.map some id ((w.runFrom r.meanwhile).resume r (.thinking t)) := by
        simp only [work, ho, Stage.job?, hst]
      rw [hw] at hroom ⊢
      have hcar := resume_carries (r := r) hf' (Job.game_of_start hst)
      obtain ⟨g', s', hcom, hg', ha⟩ := Play.commit_advances hf' (runFrom_holds h hg hm) hd
        (hasRoom_of_le hf'.tidy hcar.tidy hroom hcar.last_le) r.told r.reply
      refine ⟨g', ?_, ?_, ha⟩
      · simp only [resume, Job.resume, hcom, ok_bind]
        rfl
      · simp only [resume, Job.resume, hcom, ok_bind]
        exact hg'
  | started | finished => simp [hs, Stage.needsSystem] at hn

theorem round_advances (h : w.store.Faithful) (hg : w.store.Holds i g)
    (hn : g.stage.needsSystem = true) (hr : r.Spares i) (hroom : (w.round i r).2.store.HasRoom) :
    ∃ g', (w.round i r).1 = some (.ok (.advanced g'.stage)) ∧
      (w.round i r).2.store.Holds i g' ∧ g.Advances g' :=
  work_advances (runFrom_faithful h r.before) (runFrom_holds h hg hr.1) hn hr.2 hroom

theorem exists_driven {rounds : Nat → Round} {n : Nat} (h : w.store.Faithful)
    (hg : w.store.Holds i g) (hn : g.stage.needsSystem = true) (hr : ∀ k, (rounds k).Spares i)
    (hl : g.jobsLeft ≤ n) (hroom : (driven i n rounds w).store.HasRoom) :
    ∃ k ≤ g.jobsLeft, (∀ j < k, ∃ stage,
      ((driven i j rounds w).round i (rounds j)).1 = some (.ok (.advanced stage))) ∧
        ∃ g' kind, (driven i k rounds w).store.Holds i g' ∧ g'.stage = .awaiting .human kind := by
  -- Rounds are counted by the jobs left, of which each round uses up one or more.
  induction n generalizing w g rounds with
  | zero => exact absurd hl (Nat.not_le.mpr ((h.of_load hg.load).2.sound.2.jobsLeft_pos hn))
  | succ n ih =>
    obtain ⟨hf', -⟩ := round_sound h i (rounds 0)
    obtain ⟨hfn, hle⟩ := driven_sound hf' i n fun j => rounds (j + 1)
    have hroom₁ := hasRoom_of_le hf'.tidy hfn.tidy hroom hle
    obtain ⟨g', hst, hg', ha⟩ := round_advances h hg hn (hr 0) hroom₁
    have hlt := ha.jobsLeft_lt
    obtain ⟨d, kind, hs⟩ := ha.awaits
    cases d with
    | human =>
      refine ⟨1, by omega, fun j hj => ?_, g', kind, hg', hs⟩
      obtain rfl : j = 0 := by omega
      exact ⟨_, hst⟩
    | ai =>
      obtain ⟨k, hk, hall, hend⟩ := ih hf' hg' (by rw [hs]; rfl) (fun k => hr (k + 1)) (by omega)
        hroom
      refine ⟨k + 1, by omega, fun j hj => ?_, hend⟩
      cases j with
      | zero => exact ⟨_, hst⟩
      | succ j => exact hall j (by omega)

end World

end ImitationGame
