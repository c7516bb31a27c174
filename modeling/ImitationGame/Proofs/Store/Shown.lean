import ImitationGame.Proofs.Agree
import ImitationGame.Proofs.Store.Assembly
import ImitationGame.Proofs.Store.Writing

namespace ImitationGame

variable {s : Store} {i : Int} {r : GameRow} {g : Game} {b : Bot} {c : Change} {now : Instant}

namespace GameRow

structure Shows (r : GameRow) (g : Game) : Prop where
  id : r.id = g.id
  stage : r.stage = some g.stage
  turn : r.turn = .int g.turn
  turn_fits : Fits 32 g.turn
  order : r.order = .list g.order
  handled : r.handled.flag = .ok g.handled
  createdAt : ∃ t, r.createdAt.read = .ok t
  read : ∃ record, r.read = .ok record ∧ record.stage = g.stage ∧ record.turn = g.turn ∧
    record.handled = g.handled

theorem Shows.handled_eq {b : Bool} (h : r.Shows g) (hb : r.handled = .ofFlag b) :
    r.handled = .ofFlag g.handled := by
  have hf := h.handled
  rw [hb, Cell.flag_eq_ok] at hf
  rw [hb, Except.ok.inj hf]

end GameRow

theorem Cell.of_whole {bits : Nat} {cell : Cell} {n : Int} (h : cell.whole bits = .ok n) :
    cell = .int n ∧ Fits bits n := by
  rw [Cell.whole, Fault.require_eq_ok, Cell.whole?, Option.filter_eq_some_iff] at h
  obtain ⟨hn, hf⟩ := h
  cases cell with
  | int m =>
    obtain rfl := Option.some.inj hn
    exact ⟨rfl, by simpa using hf⟩
  | real | text => cases hn

theorem OrderCell.of_read {cell : OrderCell} {ids : List Int} (h : cell.read = .ok ids) :
    cell = .list ids := by
  cases cell with
  | list => exact congrArg list (Except.ok.inj h)
  | garbled => cases h

namespace GameRow

theorem of_read {record : GameRecord} (h : r.read = .ok record) :
    (r.id = record.id ∧ r.stage = some record.stage ∧ r.order = .list record.order) ∧
      (r.turn = .int record.turn ∧ Fits 32 record.turn) ∧ r.handled.flag = .ok record.handled ∧
        ∃ t, r.createdAt.read = .ok t := by
  simp only [GameRow.read, bind_eq_ok, Fault.require_eq_ok, pure_eq_ok, Except.ok.injEq] at h
  obtain ⟨st, hst, o, ho, n, hn, b, hb, _, -, _, -, _, -, _, -, t, ht, _, -, rfl⟩ := h
  exact ⟨⟨rfl, hst, OrderCell.of_read ho⟩, Cell.of_whole hn, hb, t, ht⟩

end GameRow

theorem BotRow.of_read {x : BotRow} {record : BotRecord} (h : x.read = .ok record) :
    record.id = x.id ∧ record.player = x.player := by
  simp only [BotRow.read, bind_eq_ok, pure_eq_ok, Except.ok.injEq] at h
  obtain ⟨_, -, _, -, _, -, _, -, rfl⟩ := h
  exact ⟨rfl, rfl⟩

namespace Store

theorem row_of_load (h : s.load i = .ok g) : ∃ r, s.gameRow? i = some r ∧ r.Shows g := by
  unfold load at h
  split at h
  · cases h
  · rename_i r hr
    obtain ⟨c, u, -, hread, -⟩ := Game.ofRows_eq_ok_iff.mp h
    obtain ⟨⟨hid, hst, ho⟩, ⟨ht, htf⟩, hb, hc⟩ := GameRow.of_read hread
    exact ⟨r, hr, hid, hst, ht, htf, ho, hb, hc, _, hread, rfl, rfl, rfl⟩

theorem id_of_load (h : s.load i = .ok g) : g.id = i := by
  obtain ⟨r, hr, hs⟩ := row_of_load h
  exact hs.id.symm.trans (Table.id_of_row? (t := s.games) hr)

theorem bots_of_load (h : s.load i = .ok g) : g.ids = (s.botRows i).map BotRow.id ∧
    g.check = .ok () ∧ ∀ b ∈ g.bots, ∃ x ∈ s.botRows i, x.id = b.id ∧ x.player = b.player := by
  unfold load at h
  split at h
  · cases h
  · obtain ⟨-, -, records, -, hrecords, hbots, hc⟩ := Game.ofRows_eq_ok_iff.mp h
    obtain rfl := BotRecord.record_of_mapM hbots
    have hid := map_eq_of_mapM hrecords fun _ _ hb => (BotRow.of_read hb).1
    rw [Bot.map_id_record] at hid
    refine ⟨hid, hc, fun b hb => ?_⟩
    obtain ⟨x, hx, hxb⟩ := exists_of_mem_mapM hrecords (List.mem_map_of_mem hb)
    obtain ⟨hi, hp⟩ := BotRow.of_read hxb
    exact ⟨x, hx, hi.symm, hp.symm⟩

structure Numbered (s : Store) : Prop where
  games : (s.games.rows.map GameRow.id).Nodup
  bots : (s.bots.rows.map BotRow.id).Nodup
  fits : ∀ r ∈ s.bots.rows, Fits 64 r.id

namespace Numbered

variable (hk : s.Numbered)

include hk

theorem ids_nodup (h : s.load i = .ok g) : g.ids.Nodup := by
  obtain ⟨hids, -⟩ := bots_of_load h
  have hp := Sorted.sort_perm (fun a b : BotRow => a.seat.upTo b.seat)
    (s.bots.rows.filter fun r => r.game == i)
  have hs : ((s.bots.rows.filter fun r => r.game == i).map BotRow.id).Nodup :=
    hk.bots.sublist (List.filter_sublist.map _)
  rw [hids]
  exact (hp.map BotRow.id).nodup_iff.mpr hs

theorem wellFormed (h : s.load i = .ok g) : g.WellFormed :=
  (Game.check_eq_ok_iff (hk.ids_nodup h)).mp (bots_of_load h).2.1

theorem fits_of_mem (h : s.load i = .ok g) {x : Int} (hx : x ∈ g.ids) : Fits 64 x := by
  obtain ⟨hids, -⟩ := bots_of_load h
  rw [hids] at hx
  obtain ⟨r, hr, rfl⟩ := List.mem_map.mp hx
  exact hk.fits r (mem_botRows.mp hr).1

theorem of_row (h : s.load i = .ok g) (hb : b ∈ g.bots) {x : BotRow} (hx : x ∈ s.bots.rows)
    (hi : x.id = b.id) : x.game = i ∧ x.player = b.player := by
  obtain ⟨y, hy, hyi, hyp⟩ := (bots_of_load h).2.2 b hb
  obtain ⟨hm, hg⟩ := mem_botRows.mp hy
  obtain rfl : x = y := List.inj_on_of_nodup_map hk.bots hx hm (hi.trans hyi.symm)
  exact ⟨hg, hyp⟩

theorem of_ids {s' : Store} (hg : s'.games.rows.map GameRow.id = s.games.rows.map GameRow.id)
    (hb : s'.bots.rows.map BotRow.id = s.bots.rows.map BotRow.id) : s'.Numbered := by
  refine ⟨hg ▸ hk.games, hb ▸ hk.bots, fun r hr => ?_⟩
  have hm : r.id ∈ s.bots.rows.map BotRow.id := hb ▸ List.mem_map_of_mem hr
  obtain ⟨r₀, hr₀, he⟩ := List.mem_map.mp hm
  exact he ▸ hk.fits r₀ hr₀

theorem claimed (x player : Int) : (s.claimed x player).Numbered := by
  refine hk.of_ids rfl ?_
  simp only [Store.claimed, Table.update, List.map_map]
  refine List.map_congr_left fun r _ => ?_
  simp only [Function.comp_apply]
  split <;> rfl

end Numbered

theorem update_eq (hk : s.Numbered) (hr : s.gameRow? i = some r) (hs : r.Shows g)
    (hc : g.Proposes c) (hf : ∀ x ∈ g.ids, Fits 64 x) (now : Instant) :
    s.update now i c =
      if storedTurnLimit ≤ c.turn then .error (.refused (.turnDoesNotFit c.turn))
      else if r.handled = .ofFlag g.handled then .ok (s.written now i c)
      else .error (.storage (Sentinel.moved i g.stage g.stage g.turn g.handled).fault) := by
  have hi : r.id = i := Table.id_of_row? (t := s.games) hr
  have he : r.expects i c = true ↔ r.handled = .ofFlag g.handled := by
    simp [GameRow.expects, hi, hs.stage, hs.turn, hc.fromStage, hc.fromTurn, hc.fromHandled]
  have ho : ∀ x ∈ s.games.rows, x.expects i c = true → Keyed.id x = Keyed.id r :=
    fun x _ hx => (GameRow.id_of_expects hx).trans hi.symm
  have hlimit : (storedTurnLimit : Int) = 0x80000000 := rfl
  by_cases hl : storedTurnLimit ≤ c.turn
  · rw [if_pos hl]
    simp only [update, throw_eq_error, if_pos hl]
    rfl
  rw [if_neg hl]
  have hst : Storable c := by
    have ht := (fits_32.mp hs.turn_fits).2
    have hf := hc.fromTurn
    exact ⟨by omega, by omega⟩
  by_cases hh : r.handled = .ofFlag g.handled
  · have h₁ : s.games.count (GameRow.expects i c) = 1 :=
      Table.count_eq_one_of_nodup hk.games (Table.mem_of_row? hr) (he.mpr hh) ho
    have ht : Fits 32 c.turn := fits_32.mpr ⟨by omega, by omega⟩
    obtain ⟨t, u, hread⟩ :=
      (GameRow.holds_write now hs.id hs.order hs.createdAt hc ht hf).read
    have hq : (s.written now i c).requireRecord i = .ok (GameRow.record (g.applyAt now c) t u) := by
      rw [requireRecord, gameRow?_written, hr, Option.map_some, if_pos (he.mpr hh)]
      exact hread
    rw [if_pos hh]
    exact update_of_count_one hst h₁ hq
  · have h₀ : s.games.count (GameRow.expects i c) = 0 := by
      rw [Table.count, List.countP_eq_zero]
      intro x hx hxe
      obtain rfl : x = r :=
        List.inj_on_of_nodup_map hk.games hx (Table.mem_of_row? hr) (ho x hx hxe)
      exact hh (he.mp hxe)
    obtain ⟨record, hread, hstage, hturn, hflag⟩ := hs.read
    have hq : s.requireRecord i = .ok record := by
      rw [requireRecord, hr]
      exact hread
    rw [if_neg hh, update_of_count_zero hst h₀, hq, ok_bind, hc.fromStage, hstage, hturn, hflag]

end Store

end ImitationGame
