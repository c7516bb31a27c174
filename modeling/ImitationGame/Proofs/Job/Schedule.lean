import ImitationGame.Job.Pool
import ImitationGame.Proofs.Job.Offer
import ImitationGame.Proofs.Job.Recording
import ImitationGame.Proofs.Store.Shown
import ImitationGame.Proofs.Time.Order
import ImitationGame.Proofs.World.Basic

namespace ImitationGame

variable {s : Store} {i : Int} {g : Game} {kind : JobKind} {stage : Stage} {now : Instant}

namespace Sorted

theorem insert_ascending {xs : List Int} (h : xs.Pairwise (· ≤ ·)) (a : Int) :
    (insert (fun a b => a ≤ b) a xs).Pairwise (· ≤ ·) := by
  induction xs with
  | nil => exact List.pairwise_singleton _ _
  | cons b bs ih =>
    obtain ⟨hb, hbs⟩ := List.pairwise_cons.mp h
    rw [insert]
    split
    · rename_i hab
      have hab : a ≤ b := of_decide_eq_true hab
      refine List.pairwise_cons.mpr ⟨fun x hx => ?_, h⟩
      rcases List.mem_cons.mp hx with rfl | hx
      · exact hab
      · exact Int.le_trans hab (hb x hx)
    · rename_i hab
      have hba : b ≤ a := Int.le_of_lt (Int.not_le.mp fun h => hab (decide_eq_true h))
      refine List.pairwise_cons.mpr ⟨fun x hx => ?_, ih hbs⟩
      rcases List.mem_cons.mp ((insert_perm _ a bs).mem_iff.mp hx) with rfl | hx
      · exact hba
      · exact hb x hx

theorem sort_ascending (xs : List Int) :
    (sort (fun a b => a ≤ b) xs).Pairwise (· ≤ ·) := by
  induction xs with
  | nil => exact .nil
  | cons a xs ih => exact insert_ascending ih a

end Sorted

namespace Store

theorem mem_ascending {ids : List Int} : i ∈ ascending ids ↔ i ∈ ids :=
  (Sorted.sort_perm _ _).mem_iff

theorem ascending_strict {ids : List Int} (h : ids.Nodup) : (ascending ids).Pairwise (· < ·) := by
  have hn : (ascending ids).Nodup := (Sorted.sort_perm _ _).nodup_iff.mpr h
  exact (List.Pairwise.and (Sorted.sort_ascending ids) hn).imp fun h => Int.lt_iff_le_and_ne.mpr h

theorem mem_pending : i ∈ s.pending stage ↔
    ∃ r ∈ s.games.rows, r.id = i ∧ r.stage = some stage ∧ r.handled = .ofFlag false := by
  simp only [pending, mem_ascending, List.mem_map, List.mem_filter, Bool.and_eq_true, beq_iff_eq]
  grind

theorem mem_createdBy {cutoff : Timestamp} : i ∈ s.createdBy cutoff ↔
    ∃ r ∈ s.games.rows, r.id = i ∧ r.createdAt.upTo cutoff = true := by
  simp only [createdBy, mem_ascending, List.mem_map, List.mem_filter]
  grind

def aged (s : Store) (cutoff : Instant) : List Int :=
  if cutoff.isStorable then s.createdBy (.instant cutoff) else []

def due (s : Store) (cutoff : Instant) : JobKind → List Int
  | .startAfterJoin => s.pending .joined
  | .askAsAi => s.pending (.awaiting .ai .question)
  | .answerAsAi => s.pending (.awaiting .ai .answer)
  | .deleteExpired => s.aged cutoff

theorem expired_getD (s : Store) (now : Instant) (age : Int) :
    (s.expired now age).toOption.getD [] = s.aged (now - .seconds age) := by
  simp only [expired, Instant.before, Instant.onCalendar]
  split
  · rfl
  · rename_i h
    rw [aged, if_neg (mt Instant.isOnCalendar_of_isStorable h)]
    rfl

theorem offers_scans (s : Store) (now : Instant) (e : Expiry) :
    Sweep.offers (Sweep.scans now e ⟨some s⟩) =
      JobKind.all.flatMap fun k => (s.due (now - .seconds e.maxAge) k).map (Job.mk k) := by
  have h := s.expired_getD now e.maxAge
  simp only [JobKind.all, due, ← h]
  rfl

theorem mem_due {jobs : List Job} {ids : JobKind → List Int}
    (h : jobs = JobKind.all.flatMap fun k => (ids k).map (Job.mk k)) :
    ⟨kind, i⟩ ∈ jobs ↔ i ∈ ids kind := by
  simp [h, JobKind.mem_all]

theorem due_strict (hk : (s.games.rows.map GameRow.id).Nodup) (cutoff : Instant) (kind : JobKind) :
    (s.due cutoff kind).Pairwise (· < ·) := by
  have hf (hit : GameRow → Bool) : ((s.games.rows.filter hit).map GameRow.id).Nodup :=
    hk.sublist (List.filter_sublist.map _)
  cases kind with
  | startAfterJoin | askAsAi | answerAsAi => exact ascending_strict (hf _)
  | deleteExpired =>
    rw [due, aged]
    split
    · exact ascending_strict (hf _)
    · exact .nil

theorem due_of_mem {job : JobKind × Stage} (h : job ∈ Sweep.waiting) (cutoff : Instant) :
    s.due cutoff job.1 = s.pending job.2 := by
  simp only [Sweep.waiting, List.mem_cons, List.not_mem_nil, or_false] at h
  rcases h with rfl | rfl | rfl <;> rfl

end Store

theorem Stage.job?_eq_some_iff {job : JobKind × Stage} (h : job ∈ Sweep.waiting) :
    stage.job? = some job.1 ↔ stage = job.2 := by
  simp only [Sweep.waiting, List.mem_cons, List.not_mem_nil, or_false] at h
  rcases h with rfl | rfl | rfl <;> rcases stage with _ | _ | ⟨_ | _, _ | _⟩ | _ <;> decide

theorem Sweep.exists_waiting (h : kind ≠ .deleteExpired) : ∃ stage, (kind, stage) ∈ waiting := by
  cases kind with
  | startAfterJoin => exact ⟨.joined, by decide⟩
  | askAsAi => exact ⟨.awaiting .ai .question, by decide⟩
  | answerAsAi => exact ⟨.awaiting .ai .answer, by decide⟩
  | deleteExpired => exact absurd rfl h

theorem Cell.flag_eq_false {cell : Cell} : cell.flag = .ok false ↔ cell = .ofFlag false := by
  rw [Cell.flag, Fault.require_eq_ok, Cell.flag?]
  cases cell with
  | int n => simp [Cell.int?, Cell.ofFlag]
  | real | text => simp [Cell.int?, Cell.ofFlag]

theorem Game.requirePending_of_shows {r : GameRow} (h : r.Shows g) (stage : Stage) :
    g.requirePending stage = .ok () ↔ r.stage = some stage ∧ r.handled = .ofFlag false := by
  rw [requirePending_eq_ok_iff, h.stage, Option.some_inj, ← Cell.flag_eq_false, h.handled,
    Except.ok.injEq]

namespace Job

theorem start_refused {job : JobKind × Stage} {refusal : Refusal} (hj : job ∈ Sweep.waiting)
    (hl : s.load i = .ok g) (h : g.requirePending job.2 = .error refusal) (c : JobContext)
    (now : Instant) : start c now ⟨job.1, i⟩ s = .error (.refused refusal) := by
  simp only [Sweep.waiting, List.mem_cons, List.not_mem_nil, or_false] at hj
  rcases hj with rfl | rfl | rfl
  · simp only [start, Play.startTurns, hl, ok_bind, h]
    rfl
  · simp only [start, Play.prepare, Play.prepareQuestion, hl, ok_bind, h]
    rfl
  · simp only [start, Play.prepare, Play.prepareAnswer, hl, ok_bind, h]
    rfl

end Job

namespace Store

variable {cutoff : Instant} {jobs : List Job}

/-- The jobs for all games that wait for the system, and for those that are old enough, each once:
by kind, and by id among those of a kind. -/
structure Schedules (s : Store) (cutoff : Instant) (jobs : List Job) : Prop where
  ordered : ∃ ids : JobKind → List Int,
    jobs = JobKind.all.flatMap (fun k => (ids k).map (Job.mk k)) ∧ ∀ k, (ids k).Pairwise (· < ·)
  waiting : ∀ kind ≠ .deleteExpired, ∀ i, ⟨kind, i⟩ ∈ jobs ↔ ∃ r ∈ s.games.rows,
    r.id = i ∧ r.stage.bind Stage.job? = some kind ∧ r.handled = .ofFlag false
  accepted : ∀ job ∈ Sweep.waiting, ∀ i g, s.load i = .ok g →
    (⟨job.1, i⟩ ∈ jobs ↔ g.requirePending job.2 = .ok ())
  refused : ∀ job ∈ Sweep.waiting, ∀ i g, s.load i = .ok g →
    ∀ refusal, g.requirePending job.2 = .error refusal →
      ∀ c now, Job.start c now ⟨job.1, i⟩ s = .error (.refused refusal)
  expired : ∀ i, ⟨.deleteExpired, i⟩ ∈ jobs ↔ cutoff.isStorable = true ∧
    ∃ r ∈ s.games.rows, r.id = i ∧ r.createdAt.upTo (.instant cutoff) = true
  dated : ∀ r ∈ s.games.rows, ∀ t : Instant, r.createdAt = .instant t → t.isStorable = true →
    cutoff ≤ .latest → t = cutoff ∨ t.Comparable cutoff →
    (⟨.deleteExpired, r.id⟩ ∈ jobs ↔ t ≤ cutoff)

theorem mem_due_iff (hn : kind ≠ .deleteExpired) : i ∈ s.due cutoff kind ↔
    ∃ r ∈ s.games.rows, r.id = i ∧ r.stage.bind Stage.job? = some kind ∧
      r.handled = .ofFlag false := by
  obtain ⟨stage, hw⟩ := Sweep.exists_waiting hn
  have hb (o : Option Stage) : o.bind Stage.job? = some kind ↔ o = some stage := by
    rw [Option.bind_eq_some_iff]
    simp [Stage.job?_eq_some_iff hw]
  rw [due_of_mem hw, mem_pending]
  simp only [hb]

theorem mem_aged : i ∈ s.aged cutoff ↔ cutoff.isStorable = true ∧
    ∃ r ∈ s.games.rows, r.id = i ∧ r.createdAt.upTo (.instant cutoff) = true := by
  rw [aged]
  split
  · rename_i h
    rw [mem_createdBy, and_iff_right h]
  · rename_i h
    simp [h]

theorem mem_aged_of_instant (hk : (s.games.rows.map GameRow.id).Nodup) {r : GameRow}
    (hr : r ∈ s.games.rows) {t : Instant} (ht : r.createdAt = .instant t) (hs : t.isStorable = true)
    (hc : cutoff ≤ .latest) (h : t = cutoff ∨ t.Comparable cutoff) :
    r.id ∈ s.aged cutoff ↔ t ≤ cutoff := by
  have hu : (∃ x ∈ s.games.rows, x.id = r.id ∧ x.createdAt.upTo (.instant cutoff) = true) ↔
      r.createdAt.upTo (.instant cutoff) = true := by
    constructor
    · rintro ⟨x, hx, hi, hu⟩
      exact List.inj_on_of_nodup_map hk hx hr hi ▸ hu
    · exact fun hu => ⟨r, hr, rfl, hu⟩
  rw [mem_aged, hu, ht]
  by_cases hst : cutoff.isStorable = true
  · rw [and_iff_right hst, Timestamp.upTo_instant hs hst h, decide_eq_true_eq]
  · have hb : ¬Instant.seconds (-62167219200) ≤ cutoff :=
      fun hl => hst (Instant.isStorable_iff.mpr ⟨hl, hc⟩)
    exact iff_of_false (fun h => hst h.1) fun hle =>
      hb (Int.le_trans (Instant.isStorable_iff.mp hs).1 hle)

theorem schedules (hk : (s.games.rows.map GameRow.id).Nodup) (cutoff : Instant)
    (h : jobs = JobKind.all.flatMap fun k => (s.due cutoff k).map (Job.mk k)) :
    s.Schedules cutoff jobs where
  ordered := ⟨s.due cutoff, h, due_strict hk cutoff⟩
  waiting kind hn i := (mem_due h).trans (mem_due_iff hn)
  accepted job hj i g hl := by
    obtain ⟨r, hr, hg⟩ := row_of_load hl
    have hm := Table.mem_of_row? (t := s.games) hr
    have hi : r.id = i := Table.id_of_row? (t := s.games) hr
    rw [mem_due h, due_of_mem hj, mem_pending, Game.requirePending_of_shows hg]
    constructor
    · rintro ⟨x, hx, hxi, hp⟩
      exact List.inj_on_of_nodup_map hk hx hm (hxi.trans hi.symm) ▸ hp
    · exact fun hp => ⟨r, hm, hi, hp⟩
  refused job hj i g hl refusal hr c now := Job.start_refused hj hl hr c now
  expired i := (mem_due h).trans mem_aged
  dated r hr t ht hs hc hcmp := (mem_due h).trans (mem_aged_of_instant hk hr ht hs hc hcmp)

end Store

namespace Sweep

variable {σ : Type} {e : Expiry}

theorem offers_mono {tried found : List Scan} (h : tried <+: found) :
    offers tried <+: offers found := by
  obtain ⟨rest, rfl⟩ := h
  exact ⟨offers rest, List.flatMap_append.symm⟩

theorem failed_scan (h : (now - .seconds e.maxAge).isOnCalendar = true) :
    ∀ scan ∈ scans now e ⟨some s⟩, Scan.failed scan = false := by
  have he : Scan.failed (.deleteExpired, s.expired now e.maxAge) = false := by
    simp only [Store.expired, Instant.before, Instant.onCalendar, if_pos h]
    rfl
  rintro scan (_ | ⟨_, _ | ⟨_, _ | ⟨_, _ | ⟨_, ⟨⟩⟩⟩⟩⟩)
  · rfl
  · rfl
  · rfl
  · exact he

theorem tick_schedules (q : JobQueue σ) (queue : σ) (now : Instant) (e : Expiry) (s : Store)
    (hk : (s.games.rows.map GameRow.id).Nodup) :
    ∃ jobs, s.Schedules (now - .seconds e.maxAge) jobs ∧
      ((now - .seconds e.maxAge).isOnCalendar = true → ∃ made, made <+: jobs ∧ ∃ r queue',
        tick q now e ⟨some s⟩ queue = (r, queue') ∧
        tick q.recording now e ⟨some s⟩ (queue, []) = (r, queue', made) ∧
        r.enqueued + r.duplicates + r.failures = made.length ∧
        (q.cancelled queue' = false → made = jobs)) ∧
      ∀ found, Recorded q found {} queue [] := by
  refine ⟨_, s.schedules hk _ (s.offers_scans now e), fun hc => ?_, fun found => recorded ..⟩
  obtain ⟨tried, made, htr, hm, r, queue', hp, hrec, ht, hsafe, hend⟩ :=
    recorded q (scans now e ⟨some s⟩) {} queue []
  have hok := failed_scan (s := s) hc
  have hnone : tried.countP Scan.failed = 0 :=
    List.countP_eq_zero.mpr fun scan hs => Bool.eq_false_iff.mp (hok scan (htr.subset hs))
  refine ⟨made, hm.trans (offers_mono htr), r, queue', hp, hrec, ?_, fun h => ?_⟩
  · rw [hnone] at ht
    exact ht.trans (Nat.zero_add _)
  · exact (hend (hsafe hok) h).2

theorem sample_schedules : ((World.run World.sample).store.games.rows.map GameRow.id).Nodup ∧
    ∃ jobs, (World.run World.sample).store.Schedules (.seconds 400) jobs ∧ ∃ r p,
      tick Pool.queue (.seconds 4000) ⟨3600, 60⟩ ⟨some (World.run World.sample).store⟩
        (.create 1 1) = (r, p) ∧
      (r.answerAsAi = 1 ∧ r.failures = 1) ∧ jobs.length = 2 := by
  have hk : ((World.run World.sample).store.games.rows.map GameRow.id).Nodup := by decide +kernel
  obtain ⟨jobs, hj, ht, -⟩ := tick_schedules Pool.queue (.create 1 1) (.seconds 4000) ⟨3600, 60⟩
    (World.run World.sample).store hk
  obtain ⟨made, -, r, p, htick, -, hcount, hall⟩ := ht (by decide)
  have hr : (tick Pool.queue (.seconds 4000) ⟨3600, 60⟩ ⟨some (World.run World.sample).store⟩
      (.create 1 1)).1 = { answerAsAi := 1, failures := 1 } := by decide +kernel
  rw [htick] at hr
  obtain rfl : r = { answerAsAi := 1, failures := 1 } := hr
  exact ⟨hk, jobs, hj, _, p, htick, ⟨rfl, rfl⟩, hall rfl ▸ hcount.symm⟩

/-- A game that was opened half a second too late to be old enough is due for its deletion, since
its time goes on in writing where that of the whole second ends. -/
theorem tick_schedules_early : ¬∀ (s : Store) (now : Instant) (e : Expiry),
    (s.games.rows.map GameRow.id).Nodup →
    ∀ r ∈ s.games.rows, ∀ t : Instant, r.createdAt = .instant t →
      (⟨.deleteExpired, r.id⟩ ∈
          (tick Pool.queue.recording now e ⟨some s⟩ (.create 1 1, [])).2.2 ↔
        t ≤ now - .seconds e.maxAge) := by
  intro h
  have hs := h (World.run [(500000000, .openNamed ["Ada"])]).store (.seconds 3600) ⟨3600, 60⟩
    (by decide +kernel)
  have hr : ∃ r ∈ (World.run [(500000000, .openNamed ["Ada"])]).store.games.rows,
      r.createdAt = .instant 500000000 ∧ r.id = 1 := by decide +kernel
  obtain ⟨r, hm, ht, hi⟩ := hr
  have hle := (hs r hm _ ht).mp (hi ▸ by decide +kernel)
  exact absurd hle (by decide)

end Sweep

end ImitationGame
