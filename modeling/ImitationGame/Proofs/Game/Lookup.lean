import ImitationGame.Game.Transition
import ImitationGame.Proofs.Outcome
import Mathlib.Data.List.Nodup
import Mathlib.Data.List.Perm.Basic

namespace ImitationGame.Game

variable {g : Game} {b : Bot} {i : Int}

theorem mem_of_find? (h : g.find? i = some b) : b ∈ g.bots := List.mem_of_find?_eq_some h

theorem id_of_find? (h : g.find? i = some b) : b.id = i := by
  simpa using List.find?_some h

theorem mem_ids_of_mem (h : b ∈ g.bots) : b.id ∈ g.ids := List.mem_map_of_mem h

theorem exists_find? (h : i ∈ g.ids) : ∃ b, g.find? i = some b := by
  obtain ⟨b, hb, rfl⟩ := List.mem_map.mp h
  exact Option.isSome_iff_exists.mp (List.find?_isSome.mpr ⟨b, hb, by simp⟩)

theorem bot_eq_ok_iff : g.bot i = .ok b ↔ g.find? i = some b := by
  unfold bot
  cases g.find? i <;> simp

theorem exists_bot (h : i ∈ g.ids) : ∃ b, g.bot i = .ok b ∧ b ∈ g.bots ∧ b.id = i := by
  obtain ⟨b, hb⟩ := exists_find? h
  exact ⟨b, bot_eq_ok_iff.mpr hb, mem_of_find? hb, id_of_find? hb⟩

theorem turnBot_eq_ok_iff : g.turnBot = .ok i ↔ g.order[g.turn]? = some i := by
  unfold turnBot
  cases g.order[g.turn]? <;> simp

theorem acting_eq_some_iff : g.acting = .ok (some i) ↔
    (g.stage.awaitsQuestion = true ∧ g.turnBot = .ok i) ∨
      (g.stage.awaitsAnswer = true ∧ g.target = some i) := by
  simp only [acting, Stage.awaitsQuestion, Stage.awaitsAnswer, beq_iff_eq]
  rcases g.stage.awaited with _ | (_ | _)
  · simp
  · cases g.turnBot <;> simp [Except.map]
  · cases g.target <;> simp

theorem ne_finished_of_acting (h : g.acting = .ok (some i)) : g.stage ≠ .finished := by
  intro hs
  simp [acting, hs, Stage.awaited] at h

theorem botOf?_eq_some {p : Int} (h : g.botOf? p = some b) : b ∈ g.bots ∧ b.player = some p :=
  ⟨List.mem_of_find?_eq_some h, by simpa using List.find?_some h⟩

theorem botOf?_eq_none {p : Int} : g.botOf? p = none ↔ ∀ b ∈ g.bots, b.player ≠ some p := by
  simp [botOf?]

theorem orderFits_iff (hn : g.ids.Nodup) : g.orderFits = true ↔ g.order.Perm g.ids := by
  simp only [orderFits, Bool.and_eq_true, decide_eq_true_eq, List.all_eq_true,
    List.contains_iff_mem]
  constructor
  · rintro ⟨⟨ho, hl⟩, hr⟩
    exact (List.perm_ext_iff_of_nodup ho hn).mpr fun a => ⟨hl a, hr a⟩
  · intro h
    exact ⟨⟨h.nodup_iff.mpr hn, fun _ ha => h.mem_iff.mp ha⟩, fun _ ha => h.mem_iff.mpr ha⟩

theorem targetFits_iff : g.targetFits = true ↔ ∃ b, g.target = some b ∧ b ∈ g.ids := by
  unfold targetFits
  cases g.target <;> simp

theorem check_eq_ok_iff (hn : g.ids.Nodup) : g.check = .ok () ↔ g.WellFormed := by
  simp only [check, ite_error_eq_ok, and_true, Bool.not_eq_true', List.isEmpty_iff,
    Bool.and_eq_true, Bool.not_eq_false, not_and, Nat.not_le, targetFits_iff, orderFits_iff hn]
  constructor
  · rintro ⟨hb, -, ht, ho, ha⟩
    exact ⟨hb, ht, ho, ha⟩
  · rintro ⟨hb, ht, ho, ha⟩
    exact ⟨hb, List.ne_nil_of_length_pos (by omega), ht, ho, ha⟩

namespace WellFormed

theorem length_order (h : g.WellFormed) : g.order.length = g.bots.length := by
  simpa [ids] using h.order_perm.length_eq

theorem mem_order_iff (h : g.WellFormed) : i ∈ g.order ↔ i ∈ g.ids := h.order_perm.mem_iff

theorem bots_pos (h : g.WellFormed) : 0 < g.bots.length :=
  List.length_pos_of_ne_nil h.bots_ne_nil

theorem exists_turnBot (h : g.WellFormed) :
    ∃ b ∈ g.bots, g.turnBot = .ok b.id ∧ g.bot b.id = .ok b := by
  obtain ⟨b, hb, hm, hi⟩ := exists_bot (h.mem_order_iff.mp (List.getElem_mem h.turn_lt))
  refine ⟨b, hm, turnBot_eq_ok_iff.mpr ?_, hi ▸ hb⟩
  rw [hi, List.getElem?_eq_getElem h.turn_lt]

end WellFormed

end ImitationGame.Game
