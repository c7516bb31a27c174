import ImitationGame.Proofs.Game.Order
import Mathlib.Data.List.Rotate

/-! Whom a bot questions in a run of its questions: the others in their order, round after round, so
that none of them is ever more than one question ahead of another. -/

namespace ImitationGame

namespace Rotation

variable {α : Type} {xs : List α}

def lap (h : 0 < xs.length) (k m : Nat) : List α :=
  (List.range' k m).map fun j => xs.get ⟨j % xs.length, Nat.mod_lt j h⟩

variable (h : 0 < xs.length)

theorem lap_add (k m n : Nat) : lap h k (m + n) = lap h k m ++ lap h (k + m) n := by
  rw [lap, lap, lap, ← List.map_append, List.range'_append_1]

theorem lap_length_add (k m : Nat) : lap h (k + xs.length) m = lap h k m := by
  rw [Nat.add_comm, lap, ← List.map_add_range', List.map_map, lap]
  apply List.map_congr_left
  intro j _
  simp only [Function.comp_apply, Nat.add_mod_left]

theorem lap_length (k : Nat) : lap h k xs.length = xs.rotate k := by
  apply List.ext_getElem
  · rw [lap, List.length_map, List.length_range', List.length_rotate]
  · intro j hj hj'
    simp only [lap, List.getElem_map, List.getElem_range', List.getElem_rotate, Nat.one_mul,
      Nat.add_comm k, List.get_eq_getElem]

theorem lap_length_mul (k : Nat) : lap h (xs.length * k) xs.length = xs := by
  rw [lap_length, List.rotate_length_mul]

variable [BEq α] [LawfulBEq α] {a : α}

theorem count_lap_le (hn : xs.Nodup) (k : Nat) {m : Nat} (hm : m ≤ xs.length) :
    (lap h k m).count a ≤ 1 := by
  have hp : lap h k m <+: xs.rotate k := by
    obtain ⟨n, hn⟩ := Nat.exists_eq_add_of_le hm
    rw [← lap_length h, hn, lap_add]
    exact List.prefix_append _ _
  exact List.nodup_iff_count_le_one.mp ((List.nodup_rotate.mpr hn).sublist hp.sublist) a

theorem count_lap_mul_add (hn : xs.Nodup) (ha : a ∈ xs) (k q r : Nat) :
    (lap h k (xs.length * q + r)).count a = q + (lap h k r).count a := by
  induction q with
  | zero => rw [Nat.mul_zero, Nat.zero_add, Nat.zero_add]
  | succ q ih =>
    have hone : (xs.rotate k).count a = 1 :=
      List.count_eq_one_of_mem (List.nodup_rotate.mpr hn) (List.mem_rotate.mpr ha)
    rw [Nat.mul_succ, Nat.add_comm _ xs.length, Nat.add_assoc, lap_add, lap_length_add,
      List.count_append, lap_length, hone, ih]
    omega

theorem count_lap_bounds (hn : xs.Nodup) (ha : a ∈ xs) (k m : Nat) :
    m / xs.length ≤ (lap h k m).count a ∧ (lap h k m).count a ≤ m / xs.length + 1 := by
  have hr : (lap h k (m % xs.length)).count a ≤ 1 :=
    count_lap_le h hn k (Nat.le_of_lt (Nat.mod_lt m h))
  have hc := count_lap_mul_add h hn ha k (m / xs.length) (m % xs.length)
  rw [Nat.div_add_mod] at hc
  omega

end Rotation

namespace Game

open Rotation

variable {g : Game} {i : Int}

def targets (g : Game) (source : Int) (asked count : Nat) : Except Refusal (List Int) :=
  (List.range' asked count).mapM (g.nextTarget source)

theorem targets_eq_ok {xs : List Int} (h : 0 < xs.length)
    (ht : ∀ asked, g.nextTarget i asked = .ok (xs.get ⟨asked % xs.length, Nat.mod_lt asked h⟩))
    (asked count : Nat) : g.targets i asked count = .ok (lap h asked count) := by
  rw [targets, funext ht]
  exact List.mapM_pure

theorem targets_rotate (g : Game) (hn : g.ids.Nodup) (hb : 2 ≤ g.bots.length)
    (hc : g.check = .ok ()) (i : Int) (hi : i ∈ g.ids) :
    (∀ k, ∃ t ∈ g.ids, t ≠ i ∧ g.nextTarget i k = .ok t) ∧
    (∀ k, g.nextTarget i (k + (g.bots.length - 1)) = g.nextTarget i k) ∧
    (∀ k, ∃ ts, g.targets i k (g.bots.length - 1) = .ok ts ∧ (i :: ts).Perm g.ids) ∧
    (∃ before after, g.order = before ++ i :: after ∧
      ∀ k, g.targets i ((g.bots.length - 1) * k) (g.bots.length - 1) = .ok (after ++ before)) ∧
    ∀ k m, ∃ ts, g.targets i k m = .ok ts ∧ ts.length = m ∧
      ∀ a ∈ g.ids, ∀ b ∈ g.ids, a ≠ i → b ≠ i → ts.count a ≤ ts.count b + 1 := by
  have hw := (check_eq_ok_iff hn).mp hc
  obtain ⟨before, after, ho, hp, h, ht⟩ := exists_round hw hn hb hi
  have hts := targets_eq_ok h ht
  have hl : (after ++ before).length = g.bots.length - 1 := by
    have hlen := hp.length_eq
    rw [List.length_cons, ids, List.length_map] at hlen
    omega
  have hnd : (after ++ before).Nodup := (List.nodup_cons.mp (hp.nodup_iff.mpr hn)).2
  have hmem : ∀ a ∈ g.ids, a ≠ i → a ∈ after ++ before := fun a ha hne =>
    (List.mem_cons.mp (hp.mem_iff.mpr ha)).resolve_left hne
  rw [← hl]
  refine ⟨exists_nextTarget hw hn hb hi, fun k => ?_, fun k => ?_, ?_, fun k m => ?_⟩
  · simp only [ht, Nat.add_mod_right]
  · refine ⟨_, hts k _, ?_⟩
    rw [lap_length]
    exact ((List.rotate_perm _ k).cons i).trans hp
  · refine ⟨before, after, ho, fun k => ?_⟩
    rw [hts, lap_length_mul]
  · refine ⟨_, hts k m, by rw [lap, List.length_map, List.length_range'], ?_⟩
    intro a ha b hb' hai hbi
    have hca := (count_lap_bounds h hnd (hmem a ha hai) k m).2
    have hcb := (count_lap_bounds h hnd (hmem b hb' hbi) k m).1
    omega

def sampleTable : Game where
  id := 1
  stage := .awaiting .ai .question
  order := [13, 11, 15, 12, 14]
  turn := 2
  handled := false
  handledAt := none
  budget := 60
  question := none
  target := none
  result := none
  winner := none
  bots := [⟨11, 0, "Ada", .human, some 1, 3⟩, ⟨12, 1, "Basil", .human, some 2, 3⟩,
    ⟨13, 2, "Cleo", .ai, none, 3⟩, ⟨14, 3, "Dex", .ai, none, 3⟩, ⟨15, 4, "Esme", .ai, none, 3⟩]

theorem sampleTable_rotates : sampleTable.ids.Nodup ∧ 2 ≤ sampleTable.bots.length ∧
    sampleTable.check = .ok () ∧ 15 ∈ sampleTable.ids ∧
    sampleTable.nextTarget 15 (9 + 4) = sampleTable.nextTarget 15 9 ∧
    (∃ ts, sampleTable.targets 15 3 4 = .ok ts ∧ (15 :: ts).Perm sampleTable.ids) ∧
    ∃ ts, sampleTable.targets 15 0 6 = .ok ts ∧ ts.length = 6 ∧ ts.count 14 ≤ ts.count 11 + 1 := by
  have hn : sampleTable.ids.Nodup := by decide
  have hb : 2 ≤ sampleTable.bots.length := by decide
  have hc : sampleTable.check = .ok () := by decide
  have hi : 15 ∈ sampleTable.ids := by decide
  obtain ⟨-, hperiod, hround, -, hfair⟩ := targets_rotate sampleTable hn hb hc 15 hi
  obtain ⟨ts, hts, hl, hle⟩ := hfair 0 6
  have hcount : ts.count 14 ≤ ts.count 11 + 1 :=
    hle 14 (by decide) 11 (by decide) (by decide) (by decide)
  exact ⟨hn, hb, hc, hi, hperiod 9, hround 3, ts, hts, hl, hcount⟩

example : sampleTable.targets 15 8 5 = .ok [12, 14, 13, 11, 12] := rfl

end Game

end ImitationGame
