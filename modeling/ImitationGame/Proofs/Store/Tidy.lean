import ImitationGame.Proofs.Scene.Seats
import ImitationGame.Proofs.Store.Reading
import ImitationGame.Proofs.Store.Table

/-! A tidy store: tables in the order of their ids, bots of stored games, messages between bots of
their own game. -/

namespace ImitationGame

def MessageRow.Legible (m : MessageRow) : Prop := m.kind ≠ none ∧ ∃ t, m.createdAt.read = .ok t

theorem MessageRow.Legible.read {m : MessageRow} (h : m.Legible) : ∃ x, m.read = .ok x := by
  obtain ⟨hk, t, ht⟩ := h
  obtain ⟨k, hk⟩ := Option.ne_none_iff_exists'.mp hk
  exact ⟨_, by simp only [MessageRow.read, hk, ht, Fault.require, ok_bind]; rfl⟩

namespace Store

variable {s s' s'' : Store} {i j x : Int} {g : Game} {b : Bot}

def HasBot (s : Store) (game bot : Int) : Prop := ∃ r ∈ s.bots.rows, r.id = bot ∧ r.game = game

structure Tidy (s : Store) : Prop where
  players : s.players.Ascending
  games : s.games.Ascending
  bots : s.bots.Ascending
  messages : s.messages.Ascending
  enrolled : ∀ p ∈ s.players.rows, ∃ t, p.createdAt.read = .ok t
  seated : ∀ b ∈ s.bots.rows, ∃ r ∈ s.games.rows, r.id = b.game
  spoken : ∀ m ∈ s.messages.rows,
    m.Legible ∧ s.HasBot m.game m.source ∧ s.HasBot m.game m.target

structure Apart (i : Int) (s s' : Store) : Prop where
  row : ∀ j, j ≠ i → s'.gameRow? j = s.gameRow? j
  bots : ∀ j, j ≠ i → s'.botRows j = s.botRows j
  log : ∀ j, j ≠ i → s'.conversation j = s.conversation j

theorem Apart.refl (i : Int) (s : Store) : Apart i s s :=
  ⟨fun _ _ => rfl, fun _ _ => rfl, fun _ _ => rfl⟩

theorem Apart.trans (h : Apart i s s') (h' : Apart i s' s'') : Apart i s s'' where
  row j hj := (h'.row j hj).trans (h.row j hj)
  bots j hj := (h'.bots j hj).trans (h.bots j hj)
  log j hj := (h'.log j hj).trans (h.log j hj)

theorem Apart.holds (h : Apart i s s') (hj : j ≠ i) (hg : s.Holds j g) : s'.Holds j g := by
  refine ⟨?_, ?_, hg.check⟩
  · rw [h.row j hj]
    exact hg.row
  · rw [h.bots j hj]
    exact hg.bots

theorem mem_botRows {r : BotRow} : r ∈ s.botRows i ↔ r ∈ s.bots.rows ∧ r.game = i := by
  rw [botRows, (Sorted.sort_perm _ _).mem_iff]
  simp

theorem gameRow?_isSome : (s.gameRow? i).isSome = true ↔ ∃ r ∈ s.games.rows, r.id = i :=
  Table.row?_isSome (t := s.games)

namespace Holds

theorem exists_bot {r : BotRow} (h : s.Holds i g) (hr : r ∈ s.bots.rows) (hi : r.game = i) :
    ∃ b ∈ g.bots, r.Holds b :=
  exists_right_of_forall₂ h.bots (mem_botRows.mpr ⟨hr, hi⟩)

theorem exists_row (h : s.Holds i g) (hb : b ∈ g.bots) :
    ∃ r ∈ s.bots.rows, r.game = i ∧ r.Holds b := by
  obtain ⟨r, hr, hrb⟩ := exists_left_of_forall₂ h.bots hb
  obtain ⟨hm, hi⟩ := mem_botRows.mp hr
  exact ⟨r, hm, hi, hrb⟩

theorem hasBot (h : s.Holds i g) (hx : x ∈ g.ids) : s.HasBot i x := by
  obtain ⟨b, hb, rfl⟩ := List.mem_map.mp hx
  obtain ⟨r, hr, hi, hrb⟩ := h.exists_row hb
  exact ⟨r, hr, hrb.id, hi⟩

theorem fits_of_mem (h : s.Holds i g) (ht : s.Tidy) (hx : x ∈ g.ids) : Fits 64 x := by
  obtain ⟨r, hr, rfl, -⟩ := h.hasBot hx
  have hp : 0 < r.id := ht.bots.pos r hr
  have hl : r.id ≤ s.bots.last := ht.bots.le_last r hr
  exact ⟨Int.le_trans (by decide) (Int.le_of_lt hp), Int.lt_of_le_of_lt hl ht.bots.last_lt⟩

end Holds

theorem HasBot.botRow? (h : s.HasBot i x) : (s.botRow? x).isSome = true := by
  obtain ⟨r, hr, hx, -⟩ := h
  exact (Table.row?_isSome (t := s.bots)).mpr ⟨r, hr, hx⟩

section

variable {hit : BotRow → Bool} {change : BotRow → BotRow}

theorem botRows_update (hg : ∀ r, (change r).game = r.game) (hs : ∀ r, (change r).seat = r.seat) :
    { s with bots := s.bots.update hit change }.botRows j =
      (s.botRows j).map fun r => if hit r then change r else r := by
  have hf : ∀ r : BotRow, (if hit r then change r else r).game = r.game ∧
      (if hit r then change r else r).seat = r.seat := by
    intro r
    split
    · exact ⟨hg r, hs r⟩
    · exact ⟨rfl, rfl⟩
  simp only [botRows, Table.update, List.filter_map, Function.comp_def, (hf _).1]
  exact Sorted.sort_map (fun a b => by rw [(hf a).2, (hf b).2]) _

theorem botRows_update_of_ne (hg : ∀ r, (change r).game = r.game)
    (hs : ∀ r, (change r).seat = r.seat)
    (hh : ∀ r ∈ s.bots.rows, hit r = true → r.game = i) (hj : j ≠ i) :
    { s with bots := s.bots.update hit change }.botRows j = s.botRows j := by
  rw [botRows_update hg hs]
  conv_rhs => rw [← List.map_id (s.botRows j)]
  apply List.map_congr_left
  intro r hr
  obtain ⟨hm, hrj⟩ := mem_botRows.mp hr
  rw [if_neg, id]
  exact fun hr' => hj (hrj.symm.trans (hh r hm hr'))

theorem Tidy.updateBots (h : s.Tidy) (hi : ∀ r, (change r).id = r.id)
    (hg : ∀ r, (change r).game = r.game) :
    { s with bots := s.bots.update hit change }.Tidy := by
  have hf : ∀ r : BotRow, (if hit r then change r else r).id = r.id ∧
      (if hit r then change r else r).game = r.game := by
    intro r
    split
    · exact ⟨hi r, hg r⟩
    · exact ⟨rfl, rfl⟩
  have hb : ∀ {k y}, s.HasBot k y → { s with bots := s.bots.update hit change }.HasBot k y := by
    rintro k y ⟨r, hr, rfl, rfl⟩
    exact ⟨_, List.mem_map_of_mem hr, (hf r).1, (hf r).2⟩
  refine { h with bots := h.bots.update hi, seated := ?_, spoken := ?_ }
  · intro r hr
    obtain ⟨r', hr', rfl⟩ := List.mem_map.mp hr
    rw [(hf r').2]
    exact h.seated r' hr'
  · intro m hm
    obtain ⟨hl, hms, hmt⟩ := h.spoken m hm
    exact ⟨hl, hb hms, hb hmt⟩

end

theorem Tidy.empty : Store.empty.Tidy where
  players := .empty
  games := .empty
  bots := .empty
  messages := .empty
  enrolled p hp := by simp [Store.empty, Table.empty] at hp
  seated b hb := by simp [Store.empty, Table.empty] at hb
  spoken m hm := by simp [Store.empty, Table.empty] at hm

theorem Tidy.game_eq (h : s.Tidy) {r r' : BotRow} (hr : r ∈ s.bots.rows) (hr' : r' ∈ s.bots.rows)
    (he : r.id = r'.id) : r.game = r'.game := by
  rw [h.bots.eq_of_id_eq hr hr' he]

end Store

end ImitationGame
