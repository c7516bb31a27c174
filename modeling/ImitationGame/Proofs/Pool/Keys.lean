import Mathlib.Data.List.Nodup
import ImitationGame.Proofs.Pool.Move

/-! The keys of a pool are those of the jobs that run, the one that is held and those that are
queued, each once. -/

namespace ImitationGame

namespace Pool

variable {p q : Pool} {m : Move} {j : Job}

structure Sound (p : Pool) : Prop where
  keys : p.keys.Perm (p.running ++ p.held ++ p.channel)
  nodup : (p.running ++ p.held ++ p.channel).Nodup
  running_le : p.running.length ≤ p.workers
  channel_le : p.channel.length ≤ p.capacity

theorem sound_create (workers capacity : Nat) : (create workers capacity).Sound where
  keys := .refl _
  nodup := List.nodup_nil
  running_le := Nat.zero_le _
  channel_le := Nat.zero_le _

theorem Sound.mem_keys (h : p.Sound) :
    j ∈ p.keys ↔ j ∈ p.running ∨ j ∈ p.held ∨ j ∈ p.channel := by
  rw [h.keys.mem_iff, List.mem_append, List.mem_append, or_assoc]

theorem Sound.moved (h : p.Sound) (hk : q.keys = p.keys)
    (he : q.running ++ q.held ++ q.channel = p.running ++ p.held ++ p.channel)
    (hr : q.running.length ≤ q.workers) (hc : q.channel.length ≤ q.capacity) : q.Sound where
  keys := by
    rw [hk, he]
    exact h.keys
  nodup := he ▸ h.nodup
  running_le := hr
  channel_le := hc

theorem Sound.accept (h : p.Sound) (hk : j ∉ p.keys) (hn : p.channel.length < p.capacity) :
    Sound { p with keys := j :: p.keys, channel := p.channel ++ [j] } where
  keys := by
    change (j :: p.keys).Perm (p.running ++ p.held ++ (p.channel ++ [j]))
    rw [← List.append_assoc]
    exact (h.keys.cons j).trans (List.perm_append_singleton j _).symm
  nodup := by
    change (p.running ++ p.held ++ (p.channel ++ [j])).Nodup
    rw [← List.append_assoc]
    exact (List.perm_append_singleton j _).nodup_iff.mpr
      (List.nodup_cons.mpr ⟨fun hm => hk (h.keys.mem_iff.mpr hm), h.nodup⟩)
  running_le := h.running_le
  channel_le := by simpa using Nat.succ_le_of_lt hn

theorem Sound.stop (h : p.Sound) : Sound { p with
    dispatcher := .draining, channel := []
    keys := p.keys.filter (· ∉ p.held ++ p.channel) } where
  keys := by
    change (p.keys.filter (· ∉ p.held ++ p.channel)).Perm (p.running ++ [] ++ [])
    have hd : p.running.Disjoint (p.held ++ p.channel) :=
      List.disjoint_of_nodup_append (List.append_assoc .. ▸ h.nodup)
    have hr : p.running.filter (· ∉ p.held ++ p.channel) = p.running :=
      List.filter_eq_self.mpr fun k hk => decide_eq_true (hd hk)
    have hg : (p.held ++ p.channel).filter (· ∉ p.held ++ p.channel) = [] :=
      List.filter_eq_nil_iff.mpr fun k hk hn => of_decide_eq_true hn hk
    have hk := h.keys.filter (· ∉ p.held ++ p.channel)
    rw [List.append_assoc, List.filter_append, hr, hg] at hk
    rwa [List.append_nil]
  nodup := by
    change (p.running ++ [] ++ []).Nodup
    rw [List.append_nil, List.append_nil]
    exact h.nodup.of_append_left.of_append_left
  running_le := h.running_le
  channel_le := Nat.zero_le _

theorem Sound.complete {finished : List Job} (h : p.Sound) (hj : j ∈ p.running) :
    Sound { p with
      running := p.running.erase j, keys := p.keys.filter (· ≠ j), finished := finished } where
  keys := by
    change (p.keys.filter (· ≠ j)).Perm (p.running.erase j ++ p.held ++ p.channel)
    have he : p.keys.erase j = p.keys.filter (· ≠ j) := by
      rw [(h.keys.nodup_iff.mpr h.nodup).erase_eq_filter]
      exact List.filter_congr fun k _ => by rw [bne, beq_eq_decide, decide_not]
    have hk := h.keys.erase j
    rwa [List.append_assoc, List.erase_append_left _ hj, he, ← List.append_assoc] at hk
  nodup := h.nodup.sublist ((List.erase_sublist.append_right _).append_right _)
  running_le := Nat.le_trans List.length_erase_le h.running_le
  channel_le := h.channel_le

theorem Act.sound (h : p.Act m q) (hs : p.Sound) : q.Sound := by
  cases h with
  | rest => exact hs
  | accept _ hk hn => exact hs.accept hk hn
  | receive hd hc =>
    have hn := hs.channel_le
    rw [hc, List.length_cons] at hn
    exact hs.moved rfl (by simp [held, hd, hc]) hs.running_le (Nat.le_of_succ_le hn)
  | start hd hn =>
    refine hs.moved rfl (by simp [held, hd]) ?_ hs.channel_le
    simpa using Nat.succ_le_of_lt hn
  | stop => exact hs.stop
  | finish hd => exact hs.moved rfl (by simp [held, hd]) hs.running_le hs.channel_le
  | complete hj => exact hs.complete hj
  | close => exact hs.moved rfl rfl hs.running_le hs.channel_le

theorem Act.sizes (h : p.Act m q) : q.workers = p.workers ∧ q.capacity = p.capacity := by
  cases h <;> exact ⟨rfl, rfl⟩

theorem length_held_le (p : Pool) : p.held.length ≤ 1 := by
  unfold held
  split <;> simp

theorem run_sound (workers capacity : Nat) (moves : List Move) :
    ((create workers capacity).runFrom moves).Sound :=
  runFrom_keeps Act.sound (sound_create workers capacity) moves

theorem run_sizes (workers capacity : Nat) (moves : List Move) :
    ((create workers capacity).runFrom moves).workers = max workers 1 ∧
      ((create workers capacity).runFrom moves).capacity = max capacity 1 :=
  runFrom_keeps (P := fun p => p.workers = max workers 1 ∧ p.capacity = max capacity 1)
    (fun h hp => ⟨h.sizes.1.trans hp.1, h.sizes.2.trans hp.2⟩) ⟨rfl, rfl⟩ moves

end Pool

namespace Workforce

open Pool (Move)

variable {w : Workforce} {workers capacity : Nat}

structure Represents (w : Workforce) (workers capacity : Nat) : Prop where
  keys : w.keys.Perm (w.running ++ w.held ++ w.channel)
  nodup : (w.running ++ w.held ++ w.channel).Nodup
  length_running : w.running.length ≤ max workers 1
  length_held : w.held.length ≤ 1
  length_channel : w.channel.length ≤ max capacity 1

theorem Represents.length_keys (h : w.Represents workers capacity) :
    w.keys.length ≤ max workers 1 + max capacity 1 + 1 := by
  rw [h.keys.length_eq, List.length_append, List.length_append, Nat.add_right_comm]
  exact Nat.add_le_add (Nat.add_le_add h.length_running h.length_channel) h.length_held

theorem Shows.represents {moves : List Move}
    (h : w.Shows ((Pool.create workers capacity).runFrom moves)) :
    w.Represents workers capacity := by
  have hs := Pool.run_sound workers capacity moves
  obtain ⟨hw, hc⟩ := Pool.run_sizes workers capacity moves
  constructor
  · rw [h.keys, h.running, h.held, h.channel]
    exact hs.keys
  · rw [h.running, h.held, h.channel]
    exact hs.nodup
  · rw [h.running, ← hw]
    exact hs.running_le
  · rw [h.held]
    exact Pool.length_held_le _
  · rw [h.channel, ← hc]
    exact hs.channel_le

theorem run_represents (workers capacity : Nat) (w : Workforce)
    (h : create? workers capacity = some w) (moves : List Move) :
    ((w.runFrom moves).failed = true ∧ limit < workers) ∨
      (w.runFrom moves).Represents workers capacity ∧
      (w.runFrom moves).keys.length ≤ max workers 1 + max capacity 1 + 1 ∧
      (w.runFrom moves).running.Nodup := by
  rcases runFrom_shows h moves with hf | ⟨-, hs⟩
  · exact .inl hf
  · have hr := hs.represents
    exact .inr ⟨hr, hr.length_keys, hr.nodup.of_append_left.of_append_left⟩

def sampleMoves : List Move :=
  [.enqueue ⟨.askAsAi, 1⟩, .dispatch .receive, .dispatch .start, .enqueue ⟨.askAsAi, 2⟩,
    .dispatch .receive, .enqueue ⟨.askAsAi, 3⟩, .enqueue ⟨.askAsAi, 4⟩]

theorem sampleMoves_represents : create? 0 0 = some (.staffed (.create 0 0)) ∧
    ((Workforce.staffed (.create 0 0)).runFrom sampleMoves).Represents 0 0 ∧
    ((Workforce.staffed (.create 0 0)).runFrom sampleMoves).keys.length = 3 := by
  have hc : create? 0 0 = some (.staffed (.create 0 0)) := by decide
  have hf : ((Workforce.staffed (.create 0 0)).runFrom sampleMoves).failed = false := by decide
  rcases run_represents 0 0 _ hc sampleMoves with ⟨ht, -⟩ | ⟨hr, -⟩
  · rw [hf] at ht
    cases ht
  · exact ⟨hc, hr, by decide⟩

theorem run_represents_not : ¬∀ (workers capacity : Nat) (w : Workforce),
    create? workers capacity = some w → ∀ moves : List Move,
      (w.runFrom moves).Represents workers capacity := by
  intro h
  have hc : create? (limit + 1) 1 = some (.idle ⟨1, [], false, false⟩) := by decide +kernel
  have hr := h (limit + 1) 1 _ hc [.enqueue ⟨.askAsAi, 1⟩, .dispatch .receive]
  exact absurd hr.keys.length_eq (by decide)

end Workforce

end ImitationGame
