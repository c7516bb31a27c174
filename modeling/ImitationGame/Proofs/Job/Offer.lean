import ImitationGame.Job.Sweep
import ImitationGame.Proofs.Play.Turn

namespace ImitationGame

variable {s s' : Store} {i : Int} {g : Game} {stage : Stage} {kind : MessageKind}

def Store.offered? (s : Store) (game : Int) : Option JobKind :=
  (Sweep.waiting.find? fun job => (s.pending job.2).contains game).map Prod.fst

def MessageKind.job : MessageKind → JobKind
  | question => .askAsAi
  | answer => .answerAsAi

def Stage.job? : Stage → Option JobKind
  | joined => some .startAfterJoin
  | awaiting .ai kind => some kind.job
  | started | awaiting .human _ | finished => none

theorem Stage.isSome_job? : stage.job?.isSome = stage.needsSystem := by
  rcases stage with _ | _ | ⟨_ | _, _⟩ | _ <;> rfl

theorem Sweep.needsSystem_of_mem {job : JobKind × Stage} (h : job ∈ waiting) :
    job.2.needsSystem = true := by
  simp only [waiting, List.mem_cons, List.not_mem_nil, or_false] at h
  rcases h with rfl | rfl | rfl <;> rfl

namespace Store

theorem Holds.mem_pending_iff (h : s.Holds i g) (ht : s.Tidy) :
    i ∈ s.pending stage ↔ g.stage = stage ∧ g.handled = false := by
  obtain ⟨r, hr, hg⟩ := h.row
  have hf : Cell.ofFlag g.handled = .ofFlag false ↔ g.handled = false := by
    cases g.handled <;> decide
  rw [pending, ascending, (Sorted.sort_perm _ _).mem_iff, List.mem_map]
  constructor
  · rintro ⟨x, hx, hxi⟩
    obtain ⟨hx, hp⟩ := List.mem_filter.mp hx
    obtain rfl : x = r := ht.games.eq_of_id_eq hx (Table.mem_of_row? (t := s.games) hr)
      (hxi.trans (Table.id_of_row? (t := s.games) hr).symm)
    simpa [hg.stage, hg.handled, hf] using hp
  · intro hp
    refine ⟨r, List.mem_filter.mpr ⟨Table.mem_of_row? (t := s.games) hr, ?_⟩,
      Table.id_of_row? (t := s.games) hr⟩
    simpa [hg.stage, hg.handled, hf] using hp

theorem Holds.offered?_eq (h : s.Holds i g) (ht : s.Tidy) (hc : g.Consistent) :
    s.offered? i = g.stage.job? := by
  have hp : ∀ job ∈ Sweep.waiting, (s.pending job.2).contains i = decide (g.stage = job.2) := by
    intro job hj
    rw [Bool.eq_iff_iff, List.contains_iff_mem, h.mem_pending_iff ht, decide_eq_true_eq]
    refine and_iff_left_of_imp fun hs => ?_
    rw [hc.handled, hs, Sweep.needsSystem_of_mem hj]
    rfl
  rw [offered?, List.find?_congr hp]
  rcases g.stage with _ | _ | ⟨_ | _, _ | _⟩ | _ <;> rfl

end Store

namespace Job

open Play

variable {c : JobContext} {now : Instant}

theorem game_of_start {j : Job} {p : JobProgress} (h : start c now j s = .ok (p, s')) :
    ∀ t, p = .thinking t → t.game = j.game := by
  rintro t rfl
  obtain ⟨kind, i⟩ := j
  cases kind with
  | startAfterJoin | deleteExpired =>
    obtain ⟨_, -, he⟩ := bind_eq_ok.mp h
    cases he
  | askAsAi | answerAsAi =>
    obtain ⟨t', ht, he⟩ := bind_eq_ok.mp h
    cases he
    exact (of_prepare ht).1.1

theorem start_job : start c now ⟨kind.job, i⟩ s =
    (prepare s i kind >>= fun t => .ok (.thinking t, s)) := by
  cases kind <;> rfl

variable (ht : s.Tidy) (h : s.Holds i g) (hc : g.Consistent) (hg : g.Seated)

include ht h hc hg

theorem start_of_joined (hs : g.stage = .joined) (c : JobContext) (now : Instant) :
    ∃ x d, (g.start (c.seeds.stream i) = .ok x ∧ x.stage = .questionFor d) ∧
      start c now ⟨.startAfterJoin, i⟩ s = .ok (.done (.advanced x.stage), s.written now i x) := by
  obtain ⟨x, d, hx, hst⟩ := startTurns_eq_ok ht h hc hg hs now (c.seeds.stream i)
  exact ⟨x, d, hx, by simp only [start, hst, ok_bind]; rfl⟩

theorem start_of_awaiting (hs : g.stage = .awaiting .ai kind) (c : JobContext) (now : Instant) :
    ∃ t : AiTurn, (t.Due g ∧ t.kind = kind) ∧
      start c now ⟨kind.job, i⟩ s = .ok (.thinking t, s) := by
  obtain ⟨t, hp, hd⟩ := prepare_eq_ok ht h hc hg hs
  exact ⟨t, hd, by rw [start_job, hp]; rfl⟩

end Job

end ImitationGame
