import ImitationGame.Proofs.Pool.History

/-! A pool left to itself settles, and an open pool that has settled lets no worker idle while a job
waits. -/

namespace ImitationGame

namespace Pool

variable {p q : Pool} {m : Move} {t : Turn} {j : Job} {moves : List Move}

def Settled (p : Pool) : Prop := ∀ t, p.turn? t = none

theorem rank_turn (h : p.turn? t = some q) : q.rank < p.rank := by
  cases t with
  | receive => exact rank_receive h
  | start => exact rank_start h
  | stop => exact rank_stop h
  | finish => exact rank_end h

theorem settle_settled (p : Pool) : p.settle.Settled := by
  fun_induction settle p with
  | case1 p q h ih => exact ih
  | case2 p h =>
    simp only [dispatch?, Option.or_eq_none_iff] at h
    obtain ⟨hstop, hstart, hreceive, hend⟩ := h
    rintro (_ | _ | _ | _)
    · exact hreceive
    · exact hstart
    · exact hstop
    · exact hend

theorem Act.open (h : p.Act m q) (hm : m ≠ .shutDown) :
    q.closing = p.closing ∧ q.awaited = p.awaited := by
  cases h with
  | close => exact absurd rfl hm
  | rest | accept | receive | start | stop | finish | complete => exact ⟨rfl, rfl⟩

theorem runFrom_open (hm : .shutDown ∉ moves) :
    (p.runFrom moves).closing = p.closing ∧ (p.runFrom moves).awaited = p.awaited := by
  induction moves generalizing p with
  | nil => exact ⟨rfl, rfl⟩
  | cons m moves ih =>
    obtain ⟨hne, hm⟩ := not_or.mp (mt List.mem_cons.mpr hm)
    obtain ⟨hc, ha⟩ := (step_act p m).open (Ne.symm hne)
    exact ⟨(ih hm).1.trans hc, (ih hm).2.trans ha⟩

theorem Settled.cases (h : p.Settled) (hs : ¬p.Stopped) :
    (p.held = [] ∧ p.channel = []) ∨ ∃ j, p.held = [j] ∧ p.workers ≤ p.running.length := by
  cases hd : p.dispatcher with
  | receiving =>
    refine .inl ⟨by rw [held, hd], ?_⟩
    have hr : p.receive? = none := h .receive
    cases hc : p.channel with
    | nil => rfl
    | cons j rest => simp [receive?, hd, hc] at hr
  | holding j =>
    refine .inr ⟨j, by rw [held, hd], ?_⟩
    have hr : p.start? = none := h .start
    simpa [start?, hd] using hr
  | draining => exact absurd (.inl hd) hs
  | ended => exact absurd (.inr hd) hs

theorem enqueue_eq_full : (p.enqueue j).1 = .full ↔
    p.closing = false ∧ j ∉ p.keys ∧ p.capacity ≤ p.channel.length := by
  grind [enqueue]

end Pool

namespace Workforce

open Pool (Move)

variable {w : Workforce} {t : Pool.Turn} {workers capacity : Nat} {taken dropped : List Job}

def Settled (w : Workforce) : Prop := ∀ t, w.dispatch t = w

def Acts (w : Workforce) : List Pool.Turn → Prop
  | [] => True
  | t :: turns => w.dispatch t ≠ w ∧ (w.dispatch t).Acts turns

def rank : Workforce → Nat
  | staffed p => p.rank
  | idle p => if p.failed then 0 else 1

theorem dispatch_staffed (p : Pool) (t : Pool.Turn) :
    (staffed p).dispatch t = staffed ((p.turn? t).getD p) := rfl

theorem rank_dispatch (h : w.dispatch t ≠ w) : (w.dispatch t).rank < w.rank := by
  cases w with
  | staffed p =>
    rw [dispatch_staffed] at h ⊢
    cases hq : p.turn? t with
    | none =>
      rw [hq] at h
      exact absurd rfl h
    | some q => exact Pool.rank_turn hq
  | idle p =>
    obtain ⟨_, _, _ | _, _⟩ := p
    · exact Nat.zero_lt_one
    · exact absurd rfl h

theorem length_le_rank {turns : List Pool.Turn} (h : w.Acts turns) : turns.length ≤ w.rank := by
  induction turns generalizing w with
  | nil => exact Nat.zero_le _
  | cons t turns ih => exact Nat.succ_le_of_lt (Nat.lt_of_le_of_lt (ih h.2) (rank_dispatch h.1))

theorem rank_le (w : Workforce) : w.rank ≤ 2 * w.channel.length + 3 := by
  cases w with
  | staffed p =>
    change p.rank ≤ 2 * p.channel.length + 3
    unfold Pool.rank
    split <;> omega
  | idle p =>
    have hp : (idle p).rank ≤ 1 := by cases hf : p.failed <;> simp [rank, hf]
    exact Nat.le_trans hp (Nat.le_add_left 1 _)

theorem settled_staffed_iff {p : Pool} : (staffed p).Settled ↔ p.Settled := by
  constructor
  · intro h t
    cases hq : p.turn? t with
    | none => rfl
    | some q =>
      -- a turn that is taken lowers the rank, so it cannot give the same pool back
      have hd := h t
      rw [dispatch_staffed, hq, Option.getD_some, staffed.injEq] at hd
      exact absurd (hd ▸ Pool.rank_turn hq) (Nat.lt_irrefl _)
  · intro h t
    rw [dispatch_staffed, h t, Option.getD_none]

theorem settled_idle_iff {p : IdlePool} : (idle p).Settled ↔ p.failed = true := by
  constructor
  · intro h
    have hd : idle { p with failed := true } = idle p := h .receive
    exact (congrArg IdlePool.failed (idle.inj hd)).symm
  · intro h t
    change idle { p with failed := true } = idle p
    rw [← h]

theorem settle_settled (w : Workforce) : w.settle.Settled := by
  cases w with
  | staffed p => exact settled_staffed_iff.mpr p.settle_settled
  | idle p => exact settled_idle_iff.mpr rfl

theorem sound_of_runFrom {moves : List Move} {p : Pool} (h : create? workers capacity = some w)
    (hp : w.runFrom moves = staffed p) :
    p.Sound ∧ ∃ dropped, p.Accounts (w.accepted moves) dropped := by
  have hf : (w.runFrom moves).failed = false := by rw [hp]; rfl
  obtain ⟨dropped, ha⟩ := Pool.runFrom_accounts (Pool.accounts_create workers capacity) moves
  rw [List.nil_append, ← pool_of_create h, ← accepted_pool hf, pool_of_create h] at ha
  obtain rfl := eq_of_runFrom h hp
  exact ⟨Pool.run_sound workers capacity moves, dropped, ha⟩

/-- No worker is free while a job waits. What is held was taken in before all that is queued, and
only a channel without a place turns a new job away. -/
structure Conserving (w : Workforce) (workers capacity : Nat) (taken : List Job) : Prop where
  channel : w.channel ≠ [] →
    ∃ j, w.held = [j] ∧ j ∉ w.channel ∧ taken = w.started ++ j :: w.channel
  held : w.held ≠ [] → w.running.length = max workers 1
  free : w.running.length < max workers 1 → w.held = [] ∧ w.channel = []
  full : ∀ j, j ∉ w.keys → ((w.enqueue j).1 = .full ↔ w.channel.length = max capacity 1)

theorem conserving_staffed {p : Pool} (hw : p.workers = max workers 1)
    (hcap : p.capacity = max capacity 1) (hs : p.Sound) (ha : p.Accounts taken dropped)
    (hc : p.closing = false) (hp : p.Settled) :
    (staffed p).Conserving workers capacity taken := by
  have hopen : ¬p.Stopped := fun h => Bool.false_ne_true (hc.symm.trans (ha.stopped h).1)
  have hcases := hp.cases hopen
  constructor
  · intro hne
    obtain ⟨-, hn⟩ | ⟨j, hj, -⟩ := hcases
    · exact absurd hn hne
    have hn := hs.nodup
    have ht := ha.jobs
    rw [hj, List.append_assoc] at hn
    rw [hj, ha.dropped.resolve_right hopen, List.append_nil, List.append_assoc] at ht
    exact ⟨j, hj, (List.nodup_cons.mp hn.of_append_right).1, ht⟩
  · intro hne
    obtain ⟨hn, -⟩ | ⟨j, -, hj⟩ := hcases
    · exact absurd hn hne
    exact hw ▸ Nat.le_antisymm hs.running_le hj
  · intro hlt
    obtain hn | ⟨j, -, hj⟩ := hcases
    · exact hn
    exact absurd hlt (Nat.not_lt.mpr (hw ▸ hj))
  · intro j hj
    have hfull : (p.enqueue j).1 = .full ↔ p.capacity ≤ p.channel.length := by
      rw [Pool.enqueue_eq_full, hc]
      simp only [true_and, and_iff_right (show j ∉ p.keys from hj)]
    have hle := hs.channel_le
    change (p.enqueue j).1 = .full ↔ p.channel.length = max capacity 1
    rw [hfull, ← hcap]
    omega

theorem conserving_failed (h : w.failed = true) : w.Conserving workers capacity taken := by
  cases w with
  | staffed p => cases h
  | idle p =>
    have hp : p.failed = true := h
    have hnil : (idle p).channel = [] := if_pos hp
    refine ⟨fun hne => absurd hnil hne, fun hne => absurd rfl hne, fun _ => ⟨rfl, hnil⟩, ?_⟩
    intro j hj
    have hfull : ((idle p).enqueue j).1 ≠ .full := by grind [enqueue, IdlePool.enqueue]
    rw [hnil, List.length_nil]
    exact iff_of_false hfull (by omega)

theorem run_conserves (workers capacity : Nat) (w : Workforce)
    (h : create? workers capacity = some w) (moves : List Move) (ho : .shutDown ∉ moves) :
    (∀ turns, (w.runFrom moves).Acts turns →
      turns.length ≤ 2 * (w.runFrom moves).channel.length + 3) ∧
    ((w.runFrom moves).settle.Settled ∧ ∃ turns : List Pool.Turn,
      (w.runFrom moves).settle = w.runFrom (moves ++ turns.map .dispatch)) ∧
    ((w.runFrom moves).Settled →
      (w.runFrom moves).Conserving workers capacity (w.accepted moves)) := by
  refine ⟨fun turns ht => Nat.le_trans (length_le_rank ht) (rank_le _), ⟨settle_settled _, ?_⟩, ?_⟩
  · obtain ⟨turns, ht⟩ := (w.runFrom moves).settle_turns
    exact ⟨turns, by rw [runFrom_append, ht]⟩
  · intro hset
    cases hq : w.runFrom moves with
    | idle q =>
      rw [hq] at hset
      exact conserving_failed (settled_idle_iff.mp hset)
    | staffed q =>
      obtain ⟨hsound, _, ha⟩ := sound_of_runFrom h hq
      obtain rfl := eq_of_runFrom h hq
      obtain ⟨hw, hcap⟩ := Pool.run_sizes workers capacity moves
      rw [hq] at hset
      exact conserving_staffed hw hcap hsound ha (Pool.runFrom_open ho).1
        (settled_staffed_iff.mp hset)

def sampleRush : List Move :=
  [.enqueue ⟨.askAsAi, 1⟩, .dispatch .receive, .dispatch .start,
    .enqueue ⟨.askAsAi, 2⟩, .dispatch .receive, .dispatch .start,
    .enqueue ⟨.askAsAi, 3⟩, .dispatch .receive, .complete ⟨.askAsAi, 1⟩ false, .dispatch .start,
    .enqueue ⟨.askAsAi, 1⟩, .dispatch .receive, .enqueue ⟨.askAsAi, 4⟩]

theorem sampleRush_conserves : create? 2 1 = some (.staffed (.create 2 1)) ∧
    Move.shutDown ∉ sampleRush ∧ ((Workforce.staffed (.create 2 1)).runFrom sampleRush).Settled ∧
    ((Workforce.staffed (.create 2 1)).runFrom sampleRush).channel = [⟨.askAsAi, 4⟩] ∧
    ((Workforce.staffed (.create 2 1)).runFrom sampleRush).Conserving 2 1
      [⟨.askAsAi, 1⟩, ⟨.askAsAi, 2⟩, ⟨.askAsAi, 3⟩, ⟨.askAsAi, 1⟩, ⟨.askAsAi, 4⟩] := by
  have hc : create? 2 1 = some (.staffed (.create 2 1)) := by decide
  have ho : Move.shutDown ∉ sampleRush := by decide
  have hs : ((Workforce.staffed (.create 2 1)).runFrom sampleRush).Settled := by
    rintro (_ | _ | _ | _) <;> decide
  exact ⟨hc, ho, hs, by decide, (run_conserves 2 1 _ hc sampleRush ho).2.2 hs⟩

end Workforce

end ImitationGame
