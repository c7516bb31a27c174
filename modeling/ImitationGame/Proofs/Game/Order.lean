import ImitationGame.Proofs.Game.Transition
import ImitationGame.Proofs.Random.Permutation
import Mathlib.Data.List.Rotate

namespace ImitationGame.Game

variable {g : Game} {c : Change} {i : Int}

def shuffled (g : Game) (draws : Random.Stream) : List Int :=
  (Random.Shuffle.downwards g.ids draws).1

theorem shuffled_perm (g : Game) (draws : Random.Stream) : (g.shuffled draws).Perm g.ids :=
  Random.Shuffle.downwards_perm _ _

def startChange (g : Game) (order : List Int) (first : Bot) : Change :=
  { g.enter (.questionFor first.driver) 0 with order := some order }

theorem start_eq_ok_iff {draws : Random.Stream} :
    g.start draws = .ok c ↔ g.stage = .joined ∧ ∃ i b, (g.shuffled draws).head? = some i ∧
      g.find? i = some b ∧ c = g.startChange (g.shuffled draws) b := by
  simp only [start, throw_eq_error, error_bind, pure_eq_ok, ite_error_eq_ok, ne_eq, not_not]
  rw [shuffled]
  cases (Random.Shuffle.downwards g.ids draws).1.head? with
  | none => simp
  | some i => simp [bind_eq_ok, bot_eq_ok_iff, startChange, @eq_comm _ c]

theorem exists_start (hw : g.WellFormed) (hs : g.stage = .joined) (draws : Random.Stream) :
    ∃ b ∈ g.bots, g.start draws = .ok (g.startChange (g.shuffled draws) b) := by
  have hl := (g.shuffled_perm draws).length_eq
  cases ho : g.shuffled draws with
  | nil =>
    rw [ho, ids, List.length_map] at hl
    exact absurd hl.symm (Nat.ne_of_gt hw.bots_pos)
  | cons i rest =>
    obtain ⟨b, hb⟩ := exists_find? ((g.shuffled_perm draws).mem_iff.mp (ho ▸ List.mem_cons_self))
    exact ⟨b, mem_of_find? hb, start_eq_ok_iff.mpr ⟨hs, i, b, by simp [ho], hb, by rw [ho]⟩⟩

theorem others_eq {p : Nat} (hp : p < g.order.length) :
    g.others p = g.order.drop (p + 1) ++ g.order.take p := by
  have hm : g.others p = (g.order.rotate (p + 1)).take (g.order.length - 1) := by
    apply List.ext_getElem?
    intro k
    by_cases hk : k < g.order.length - 1
    · have hf : ∀ j ∈ List.range (g.order.length - 1),
          g.order[(p + 1 + j) % g.order.length]? =
            some (g.order.get ⟨(p + 1 + j) % g.order.length, Nat.mod_lt _ (by omega)⟩) :=
        fun j _ => List.getElem?_eq_getElem _
      rw [others, List.filterMap_congr hf, List.filterMap_eq_map', List.getElem?_map,
        List.getElem?_range hk, List.getElem?_take_of_lt hk, List.getElem?_rotate (by omega),
        List.getElem?_eq_getElem (Nat.mod_lt _ (by omega)), Nat.add_comm k]
      rfl
    · rw [List.getElem?_eq_none (by
          refine Nat.le_trans (List.length_filterMap_le _ _) ?_
          simpa using hk), List.getElem?_eq_none (by simp; omega)]
  rw [hm, List.rotate_eq_drop_append_take (by omega), List.take_append, List.take_of_length_le
    (by simp; omega), List.take_take]
  congr 2
  simp only [List.length_drop]
  omega

theorem length_others {p : Nat} (hp : p < g.order.length) :
    (g.others p).length = g.order.length - 1 := by
  rw [others_eq hp, List.length_append, List.length_drop, List.length_take]
  omega

theorem exists_round (hw : g.WellFormed) (hn : g.ids.Nodup) (hb : 2 ≤ g.bots.length)
    (hi : i ∈ g.ids) : ∃ before after, g.order = before ++ i :: after ∧
      (i :: (after ++ before)).Perm g.ids ∧ ∃ h : 0 < (after ++ before).length, ∀ asked,
        g.nextTarget i asked =
          .ok ((after ++ before).get ⟨asked % (after ++ before).length, Nat.mod_lt asked h⟩) := by
  obtain ⟨b, hb', -, -⟩ := exists_bot hi
  obtain ⟨p, hp, rfl⟩ := List.mem_iff_getElem.mp (hw.mem_order_iff.mpr hi)
  have ho : g.order.Nodup := hw.order_perm.nodup_iff.mpr hn
  have hf : g.order.findIdx? (· == g.order[p]) = some p := by
    rw [List.findIdx?_eq_some_iff_getElem]
    refine ⟨hp, by simp, fun j hj => ?_⟩
    simpa using fun he => absurd (ho.getElem_inj_iff.mp he) (Nat.ne_of_lt hj)
  have hs : g.order = g.order.take p ++ g.order[p] :: g.order.drop (p + 1) := by
    rw [List.getElem_cons_drop, List.take_append_drop]
  have hl : 0 < (g.others p).length := by
    rw [length_others hp, hw.length_order]
    omega
  refine ⟨g.order.take p, g.order.drop (p + 1), hs, ?_, ?_⟩
  · refine List.Perm.trans ?_ hw.order_perm
    conv_rhs => rw [hs]
    exact (List.perm_append_comm.cons _).trans List.perm_middle.symm
  · rw [← others_eq hp]
    refine ⟨hl, fun asked => ?_⟩
    have hlt : asked % (g.others p).length < (g.others p).length := Nat.mod_lt asked hl
    simp only [nextTarget, hb', ok_bind, hf, List.getElem?_eq_getElem hlt, pure_eq_ok,
      List.get_eq_getElem]

theorem exists_nextTarget (hw : g.WellFormed) (hn : g.ids.Nodup) (hb : 2 ≤ g.bots.length)
    (hi : i ∈ g.ids) (asked : Nat) : ∃ t ∈ g.ids, t ≠ i ∧ g.nextTarget i asked = .ok t := by
  obtain ⟨before, after, -, hp, h, ht⟩ := exists_round hw hn hb hi
  have hd : i ∉ after ++ before := (List.nodup_cons.mp (hp.nodup_iff.mpr hn)).1
  refine ⟨_, ?_, ?_, ht asked⟩
  · exact hp.mem_iff.mp (List.mem_cons_of_mem i (List.get_mem _ _))
  · exact fun he => hd (he ▸ List.get_mem _ _)

end ImitationGame.Game
