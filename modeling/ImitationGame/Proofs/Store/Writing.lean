import ImitationGame.Proofs.Store.Tidy
import ImitationGame.Store.Write

namespace ImitationGame

variable {s s' : Store} {i j player : Int} {g : Game} {b : Bot} {c : Change} {now : Instant}

theorem Stage.fits_budget (st : Stage) : Fits 32 st.budget := by
  rcases st with _ | _ | ⟨_ | _, _ | _⟩ | _ <;> decide

namespace GameRow

variable {r : GameRow}

theorem Holds.expects (h : r.Holds g) (hc : g.Proposes c) : r.expects g.id c = true := by
  simp [GameRow.expects, h.id, h.stage, h.turn, h.handled, hc.fromStage, hc.fromTurn,
    hc.fromHandled]

theorem id_of_expects (h : r.expects i c = true) : r.id = i := by
  simp only [GameRow.expects, Bool.and_eq_true, beq_iff_eq] at h
  exact h.1.1.1

theorem holds_write (now : Instant) (hi : r.id = g.id) (ho : r.order = .list g.order)
    (ha : ∃ t, r.createdAt.read = .ok t) (hc : g.Proposes c) (ht : Fits 32 c.turn)
    (hf : ∀ x ∈ g.ids, Fits 64 x) : (r.write now c).Holds (g.applyAt now c) where
  id := hi
  stage := rfl
  order := by
    cases hco : c.order with
    | none => simpa [GameRow.write, hco] using ho
    | some order => simp [GameRow.write, hco]
  turn := rfl
  turn_fits := ht
  handled := rfl
  handledAt := rfl
  budget := rfl
  budget_fits := by
    rw [Game.budget_applyAt, hc.budget]
    exact c.stage.fits_budget
  question := rfl
  target := rfl
  target_fits t h := hf t (hc.target t h)
  result := rfl
  winner := rfl
  winner_fits w h := hf w (hc.winner w h)
  createdAt := ha
  updatedAt := ⟨_, Timestamp.read_instant now⟩

end GameRow

namespace Store

def written (s : Store) (now : Instant) (game : Int) (c : Change) : Store :=
  { s with games := s.games.update (GameRow.expects game c) (GameRow.write now c) }

def claimed (s : Store) (bot player : Int) : Store :=
  { s with bots := s.bots.update (fun r => r.id == bot && r.driver == some .ai) fun r =>
      { r with driver := some .human, player := some player } }

def spent (s : Store) (bot : Int) : Store :=
  { s with bots := s.bots.update (fun r => r.id == bot && r.help.isPositive) fun r =>
      { r with help := r.help.pred } }

def withHelp (s : Store) (bot help : Int) : Store :=
  { s with bots := s.bots.update (fun r => r.id == bot) fun r => { r with help := .int help } }

structure Storable (c : Change) : Prop where
  turn_lt : c.turn < storedTurnLimit
  fromTurn_lt : c.fromTurn < storedTurnLimit

theorem storable_of_wellFormed (hw : g.WellFormed) (hs : g.bots.length ≤ Game.seatLimit)
    (hc : g.Proposes c) : Storable c := by
  have hl : Game.seatLimit ≤ storedTurnLimit := by decide
  have ht := hc.turn_lt
  have hf := hw.turn_lt_bots
  rw [← hc.fromTurn] at hf
  exact ⟨by omega, by omega⟩

theorem storable (hg : g.Seated) (hc : g.Proposes c) : Storable c :=
  storable_of_wellFormed hg.wellFormed hg.size hc

theorem gameRow?_written : (s.written now i c).gameRow? j =
    (s.gameRow? j).map fun r => if r.expects i c then r.write now c else r :=
  Table.row?_update (t := s.games) fun _ => rfl

theorem Tidy.written (h : s.Tidy) : (s.written now i c).Tidy := by
  refine { h with games := h.games.update fun _ => rfl, seated := fun b hb => ?_ }
  obtain ⟨r, hr, hi⟩ := h.seated b hb
  refine ⟨_, List.mem_map_of_mem hr, ?_⟩
  split <;> exact hi

theorem Apart.written : Apart i s (s.written now i c) where
  row j hj := Table.row?_update_of_ne (t := s.games) (fun _ => rfl) fun r _ hr => by
    simp only [Bool.eq_false_iff]
    exact fun he => hj (hr ▸ GameRow.id_of_expects he)
  bots _ _ := rfl
  log _ _ := rfl

theorem Holds.wellFormed (h : s.Holds i g) (hn : g.ids.Nodup) : g.WellFormed :=
  (Game.check_eq_ok_iff hn).mp h.check

theorem update_of_count_one {record : GameRecord} (hst : Storable c)
    (h₁ : s.games.count (GameRow.expects i c) = 1)
    (hq : (s.written now i c).requireRecord i = .ok record) :
    s.update now i c = .ok (s.written now i c) := by
  simp only [Store.update, throw_eq_error, if_neg (Nat.not_le.mpr hst.turn_lt),
    if_neg (Nat.not_le.mpr hst.fromTurn_lt), h₁]
  change ((s.written now i c).requireRecord i >>= fun _ => pure (s.written now i c)) = _
  rw [hq]
  rfl

theorem update_of_count_zero (hst : Storable c) (h₀ : s.games.count (GameRow.expects i c) = 0) :
    s.update now i c = s.requireRecord i >>= fun r =>
      .error (.storage (Sentinel.moved i c.fromStage r.stage r.turn r.handled).fault) := by
  simp only [Store.update, throw_eq_error, if_neg (Nat.not_le.mpr hst.turn_lt),
    if_neg (Nat.not_le.mpr hst.fromTurn_lt), h₀]

section

variable (h : s.Holds i g) (hn : g.ids.Nodup) (hf : ∀ x ∈ g.ids, Fits 64 x)
variable (hs : g.bots.length ≤ Game.seatLimit) (hc : g.Proposes c) (now : Instant)

include h hn hf hs hc

theorem Holds.written_of_nodup : (s.written now i c).Holds i (g.applyAt now c) := by
  have hw : (g.applyAt now c).check = .ok () :=
    (Game.check_eq_ok_iff (g := g.applyAt now c) hn).mpr ((h.wellFormed hn).applyAt hc now)
  obtain ⟨r, hr, hrg⟩ := h.row
  refine ⟨⟨r.write now c, ?_, ?_⟩, h.bots, hw⟩
  · rw [gameRow?_written, hr, Option.map_some, if_pos (h.id_eq ▸ hrg.expects hc)]
  · refine GameRow.holds_write now hrg.id hrg.order hrg.createdAt hc ?_ hf
    have := hc.turn_lt
    rw [Game.seatLimit] at hs
    exact fits_32.mpr ⟨by omega, by omega⟩

theorem Holds.update_eq_ok_of_nodup (hg : (s.games.rows.map GameRow.id).Nodup) :
    s.games.count (GameRow.expects i c) = 1 ∧ s.update now i c = .ok (s.written now i c) := by
  obtain ⟨r, hr, hrg⟩ := h.row
  have he : r.expects i c = true := h.id_eq ▸ hrg.expects hc
  have h₁ : s.games.count (GameRow.expects i c) = 1 :=
    Table.count_eq_one_of_nodup hg (Table.mem_of_row? hr) he fun _ _ hx =>
      (GameRow.id_of_expects hx).trans (GameRow.id_of_expects he).symm
  obtain ⟨r', hr', hrg'⟩ := (h.written_of_nodup hn hf hs hc now).row
  obtain ⟨t, u, hread⟩ := hrg'.read
  have hq : (s.written now i c).requireRecord i = .ok (GameRow.record (g.applyAt now c) t u) := by
    rw [requireRecord, hr']
    exact hread
  exact ⟨h₁, update_of_count_one (storable_of_wellFormed (h.wellFormed hn) hs hc) h₁ hq⟩

end

theorem Holds.written (h : s.Holds i g) (ht : s.Tidy) (hg : g.Seated) (hc : g.Proposes c)
    (now : Instant) : (s.written now i c).Holds i (g.applyAt now c) :=
  h.written_of_nodup hg.ids_nodup (fun _ => h.fits_of_mem ht) hg.size hc now

theorem Holds.update_eq_ok (h : s.Holds i g) (ht : s.Tidy) (hg : g.Seated) (hc : g.Proposes c)
    (now : Instant) : s.update now i c = .ok (s.written now i c) :=
  (h.update_eq_ok_of_nodup hg.ids_nodup (fun _ => h.fits_of_mem ht) hg.size hc now
    ht.games.ids_nodup).2

theorem Holds.updateBots {hit : BotRow → Bool} {change : BotRow → BotRow} {f : Bot → Bot}
    (h : s.Holds i g) (hn : g.ids.Nodup) (hgame : ∀ r, (change r).game = r.game)
    (hseat : ∀ r, (change r).seat = r.seat) (hid : ∀ b, (f b).id = b.id)
    (hf : ∀ r b, b ∈ g.bots → r.Holds b → BotRow.Holds (if hit r then change r else r) (f b)) :
    { s with bots := s.bots.update hit change }.Holds i (g.mapBots f) := by
  have hw := (h.wellFormed hn).mapBots hid
  refine ⟨?_, ?_, (Game.check_eq_ok_iff ?_).mpr hw⟩
  · obtain ⟨r, hr, hrg⟩ := h.row
    exact ⟨r, hr, { hrg with }⟩
  · rw [botRows_update hgame hseat]
    have hb : ∀ rs bs, List.Forall₂ BotRow.Holds rs bs → (∀ b ∈ bs, b ∈ g.bots) →
        List.Forall₂ BotRow.Holds (rs.map fun r => if hit r then change r else r) (bs.map f) := by
      intro rs bs hrs
      induction hrs with
      | nil => exact fun _ => .nil
      | cons hr _ ih =>
        intro hm
        exact .cons (hf _ _ (hm _ List.mem_cons_self) hr)
          (ih fun b hb => hm b (List.mem_cons_of_mem _ hb))
    exact hb _ _ h.bots fun b hb => hb
  · rw [Game.ids_mapBots hid]
    exact hn

theorem Apart.updateBots {hit : BotRow → Bool} {change : BotRow → BotRow}
    (hgame : ∀ r, (change r).game = r.game) (hseat : ∀ r, (change r).seat = r.seat)
    (h : s.Holds i g) (ht : s.Tidy) (hb : b ∈ g.bots) (hh : ∀ r, hit r = true → r.id = b.id) :
    Apart i s { s with bots := s.bots.update hit change } where
  row _ _ := rfl
  bots j hj := by
    obtain ⟨x, hx, hxi, hxb⟩ := h.exists_row hb
    refine botRows_update_of_ne hgame hseat (fun r hr hrh => ?_) hj
    rw [← hxi]
    exact ht.game_eq hr hx ((hh r hrh).trans hxb.id.symm)
  log _ _ := rfl

theorem Holds.count_bots {hit : BotRow → Bool} (h : s.Holds i g)
    (hn : (s.bots.rows.map BotRow.id).Nodup) (hb : b ∈ g.bots)
    (hh : ∀ r, hit r = true → r.id = b.id) (hr : ∀ r, r.Holds b → hit r = true) :
    s.bots.count hit = 1 := by
  obtain ⟨x, hx, -, hxb⟩ := h.exists_row hb
  exact Table.count_eq_one_of_nodup hn hx (hr x hxb) fun r _ hrh => (hh r hrh).trans hxb.id.symm

theorem Tidy.claimed (h : s.Tidy) : (s.claimed b.id player).Tidy :=
  h.updateBots (fun _ => rfl) fun _ => rfl

theorem Holds.apart_claimed (h : s.Holds i g) (ht : s.Tidy) (hb : b ∈ g.bots) :
    Apart i s (s.claimed b.id player) :=
  .updateBots (fun _ => rfl) (fun _ => rfl) h ht hb fun r hr => by
    simpa using And.left (by simpa using hr)

theorem Holds.claimed_of_nodup (h : s.Holds i g) (hn : g.ids.Nodup) (hb : b ∈ g.bots)
    (hd : b.driver = .ai) (player : Int) :
    (s.claimed b.id player).Holds i (g.claim b.id player) := by
  refine h.updateBots hn (fun _ => rfl) (fun _ => rfl) (fun b => by split <;> rfl) ?_
  intro r a ha hr
  by_cases hi : a.id = b.id
  · obtain rfl : a = b := List.inj_on_of_nodup_map hn ha hb hi
    rw [if_pos (by simp [hr.id, hr.driver, hd]), if_pos rfl]
    exact { hr with driver := rfl, player := rfl }
  · rw [if_neg (by simp [hr.id, hi]), if_neg hi]
    exact hr

theorem Holds.claimed (h : s.Holds i g) (hg : g.Seated) (hb : b ∈ g.bots) (hd : b.driver = .ai)
    (player : Int) : (s.claimed b.id player).Holds i (g.claim b.id player) :=
  h.claimed_of_nodup hg.ids_nodup hb hd player

theorem Holds.claim_eq_ok_of_nodup (h : s.Holds i g) (hn : (s.bots.rows.map BotRow.id).Nodup)
    (hb : b ∈ g.bots) (hd : b.driver = .ai) (hp : (s.player? player).isSome = true) :
    s.claim b.id player = .ok (s.claimed b.id player) := by
  have h₁ : (s.bots.count fun r => r.id == b.id && r.driver == some .ai) = 1 :=
    h.count_bots hn hb (fun r hr => And.left (by simpa using hr))
      fun r hr => by simp [hr.id, hr.driver, hd]
  simp [Store.claim, h₁, Option.isNone_iff_eq_none, Option.isSome_iff_ne_none.mp hp, Store.claimed]

theorem Holds.claim_eq_ok (h : s.Holds i g) (ht : s.Tidy) (hb : b ∈ g.bots) (hd : b.driver = .ai)
    (hp : (s.player? player).isSome = true) :
    s.claim b.id player = .ok (s.claimed b.id player) :=
  h.claim_eq_ok_of_nodup ht.bots.ids_nodup hb hd hp

theorem Tidy.spent (h : s.Tidy) : (s.spent b.id).Tidy :=
  h.updateBots (fun _ => rfl) fun _ => rfl

theorem Holds.apart_spent (h : s.Holds i g) (ht : s.Tidy) (hb : b ∈ g.bots) :
    Apart i s (s.spent b.id) :=
  .updateBots (fun _ => rfl) (fun _ => rfl) h ht hb fun r hr => by
    simpa using And.left (by simpa using hr)

theorem Holds.spent_eq (h : s.Holds i g) (ht : s.Tidy) (hb : b ∈ g.bots) (hp : 0 < b.help) :
    s.spent b.id = s.withHelp b.id (b.help - 1) := by
  -- The row is lowered under a guard of its own, which the row of the bot that was loaded passes.
  obtain ⟨x, hx, -, hxb⟩ := h.exists_row hb
  simp only [Store.spent, withHelp, Table.update]
  congr 2
  refine List.map_congr_left fun r hr => ?_
  by_cases hi : r.id = b.id
  · obtain rfl := ht.bots.eq_of_id_eq hr hx (hi.trans hxb.id.symm)
    simp [hxb.id, hxb.help, Cell.isPositive, hp, Cell.pred, Cell.lessOne]
  · simp [hi]

theorem Holds.spent (h : s.Holds i g) (hg : g.Seated) (hb : b ∈ g.bots) (hp : 0 < b.help) :
    (s.spent b.id).Holds i (g.spend b.id) := by
  refine h.updateBots hg.ids_nodup (fun _ => rfl) (fun _ => rfl) (fun b => by split <;> rfl) ?_
  intro r a ha hr
  by_cases hi : a.id = b.id
  · obtain rfl : a = b := List.inj_on_of_nodup_map hg.ids_nodup ha hb hi
    rw [if_pos (by simp [hr.id, hr.help, Cell.isPositive, hp]), if_pos rfl]
    have hf := fits_32.mp hr.help_fits
    exact { hr with
      help := by simp [hr.help, Cell.pred, Cell.lessOne]
      help_fits := fits_32.mpr ⟨by simp only; omega, by simp only; omega⟩ }
  · rw [if_neg (by simp [hr.id, hi]), if_neg hi]
    exact hr

theorem Holds.spendHelp_eq_ok (h : s.Holds i g) (ht : s.Tidy) (hb : b ∈ g.bots) (hp : 0 < b.help) :
    s.spendHelp b.id = .ok (s.spent b.id) := by
  have h₁ : (s.bots.count fun r => r.id == b.id && r.help.isPositive) = 1 :=
    h.count_bots ht.bots.ids_nodup hb (fun r hr => And.left (by simpa using hr))
      fun r hr => by simp [hr.id, hr.help, Cell.isPositive, hp]
  simp [Store.spendHelp, h₁, Store.spent]

end Store

end ImitationGame
