import ImitationGame.Proofs.Store.Shown

namespace ImitationGame

variable {s : Store} {i player : Int} {g : Game} {b : Bot} {c : Change} {now : Instant}

theorem Cell.of_mapM_whole {bits : Nat} {cell : Option Cell} {n : Option Int}
    (h : cell.mapM (Cell.whole bits) = .ok n) :
    cell = n.map .int ∧ ∀ k, n = some k → Fits bits k := by
  cases cell with
  | none =>
    obtain rfl := Except.ok.inj h
    exact ⟨rfl, nofun⟩
  | some cell =>
    cases hw : cell.whole bits with
    | error f => simp [hw, Functor.map, Except.map] at h
    | ok k =>
      obtain ⟨rfl, hf⟩ := Cell.of_whole hw
      obtain rfl : some k = n := by simpa [hw, Functor.map, Except.map] using h
      exact ⟨rfl, fun m hm => Option.some.inj hm ▸ hf⟩

theorem BotRow.Holds.of_read {r : BotRow} {record : BotRecord} (h : r.read = .ok record)
    (hb : record.bot = .ok b) : r.Holds b := by
  obtain ⟨⟨-, hl⟩, rfl⟩ := BotRecord.bot_eq_ok_iff.mp hb
  simp only [BotRow.read, bind_eq_ok, Fault.require_eq_ok, pure_eq_ok, Except.ok.injEq,
    Bot.record, BotRecord.mk.injEq] at h
  obtain ⟨seat, hseat, driver, hdriver, help, hhelp, t, ht, hid, rfl, hname, rfl, hplayer, rfl⟩ := h
  obtain ⟨hseat, -⟩ := Cell.of_whole hseat
  obtain ⟨hhelp, hfit⟩ := Cell.of_whole hhelp
  simp only [Bot.record] at hl
  exact ⟨hid, hseat, by omega, hname, hdriver, hplayer, hhelp, hfit, t, ht⟩

theorem BotRow.forall₂_holds {rs : List BotRow} {records : List BotRecord} {bs : List Bot}
    (h : rs.mapM BotRow.read = .ok records) (hb : records.mapM BotRecord.bot = .ok bs) :
    List.Forall₂ BotRow.Holds rs bs := by
  rw [mapM_eq_ok_iff] at h hb
  induction h generalizing bs with
  | nil =>
    cases hb
    exact .nil
  | cons hr _ ih =>
    cases hb with
    | cons hb hbs => exact .cons (.of_read hr hb) (ih hbs)

namespace Store

/-- A load tells every cell of the rows that it read, but for the spelling of the flag. -/
theorem holds_of_load (h : s.load i = .ok g)
    (hf : ∀ r, s.gameRow? i = some r → r.handled = .ofFlag g.handled) : s.Holds i g := by
  unfold load at h
  split at h
  · cases h
  · rename_i r hr
    obtain ⟨c, u, records, hread, hrecords, hbots, hc⟩ := Game.ofRows_eq_ok_iff.mp h
    refine ⟨⟨r, hr, ?_⟩, BotRow.forall₂_holds hrecords hbots, hc⟩
    simp only [GameRow.read, bind_eq_ok, Fault.require_eq_ok, pure_eq_ok, Except.ok.injEq,
      GameRow.record, GameRecord.mk.injEq] at hread
    obtain ⟨stage, hstage, order, horder, turn, hturn, _, -, _, hat, budget, hbudget, target,
      htarget, winner, hwinner, created, hcreated, updated, hupdated, hid, rfl, rfl, rfl, -, rfl,
      rfl, hquestion, rfl, hresult, rfl, -⟩ := hread
    obtain ⟨hturn, htfit⟩ := Cell.of_whole hturn
    obtain ⟨hbudget, hbfit⟩ := Cell.of_whole hbudget
    obtain ⟨htarget, htgfit⟩ := Cell.of_mapM_whole htarget
    obtain ⟨hwinner, hwfit⟩ := Cell.of_mapM_whole hwinner
    exact {
      id := hid
      stage := hstage
      order := OrderCell.of_read horder
      turn := hturn
      turn_fits := htfit
      handled := hf r hr
      handledAt := hat
      budget := hbudget
      budget_fits := hbfit
      question := hquestion
      target := htarget
      target_fits := htgfit
      result := hresult
      winner := hwinner
      winner_fits := hwfit
      createdAt := ⟨created, hcreated⟩
      updatedAt := ⟨updated, hupdated⟩ }

theorem Holds.size (h : s.Holds i g) (hs : (g.bots.map Bot.seat).Nodup) :
    g.bots.length ≤ Game.seatLimit := by
  have hlt : g.bots.map Bot.seat ⊆ List.range Game.seatLimit := by
    intro n hn
    obtain ⟨b, hb, rfl⟩ := List.mem_map.mp hn
    obtain ⟨r, -, -, hr⟩ := h.exists_row hb
    exact List.mem_range.mpr hr.seat_lt
  have hl := (List.subperm_of_subset hs hlt).length_le
  rwa [List.length_map, List.length_range] at hl

/-- A change is written to the row of its game and to no other, and the game loads as changed. -/
structure Reloads (s : Store) (now : Instant) (game : Int) (g : Game) (c : Change) : Prop where
  count : s.games.count (GameRow.expects game c) = 1
  update : ∃ s', s.update now game c = .ok s' ∧
    s'.load game = .ok { g.apply c with handledAt := some (.utc now) } ∧
    (∃ r r', s.gameRow? game = some r ∧ s'.gameRow? game = some r' ∧ r'.createdAt = r.createdAt ∧
      r'.handledAt = some (.instant now) ∧ r'.updatedAt = .instant now) ∧
    (∀ j, j ≠ game → s'.gameRow? j = s.gameRow? j) ∧
    s'.players = s.players ∧ s'.bots = s.bots ∧ s'.messages = s.messages

theorem holds_of_flag {r : GameRow} {flag : Bool} (h : s.load i = .ok g)
    (hr : s.gameRow? i = some r) (hf : r.handled = .ofFlag flag) : s.Holds i g := by
  obtain ⟨r', hr', hrg⟩ := row_of_load h
  obtain rfl := Option.some.inj (hr.symm.trans hr')
  refine holds_of_load h fun x hx => ?_
  obtain rfl := Option.some.inj (hr.symm.trans hx)
  exact hrg.handled_eq hf

theorem Holds.reloads (h : s.Holds i g) (hk : s.Numbered) (hs : (g.bots.map Bot.seat).Nodup)
    (hc : g.Proposes c) (now : Instant) : s.Reloads now i g c := by
  have hn := hk.ids_nodup h.load
  have hf := fun x hx => hk.fits_of_mem h.load (x := x) hx
  obtain ⟨r, hr, hrg⟩ := h.row
  have hrow : (s.written now i c).gameRow? i = some (r.write now c) := by
    rw [gameRow?_written, hr, Option.map_some, if_pos (h.id_eq ▸ hrg.expects hc)]
  have hw := h.written_of_nodup hn hf (h.size hs) hc now
  obtain ⟨hcount, hu⟩ := h.update_eq_ok_of_nodup hn hf (h.size hs) hc now hk.games
  exact ⟨hcount, _, hu, hw.load, ⟨r, _, hr, hrow, rfl, rfl, rfl⟩, Apart.written.row, rfl, rfl, rfl⟩

/-- Of a stored game whose flag is spelled as the store spells it, every change that an utterance, a
tag, the opening shuffle or the second player causes is written to its row and to no other, and the
game then loads as changed. -/
theorem update_reloads (s : Store) (i : Int) (g : Game) (r : GameRow) (flag : Bool)
    (hk : s.Numbered) (hl : s.load i = .ok g) (hs : (g.bots.map Bot.seat).Nodup)
    (hr : s.gameRow? i = some r) (hf : r.handled = .ofFlag flag) (now : Instant) :
    (∀ u c, g.advance u = .ok c → s.Reloads now i g c) ∧
    (∀ tagger accused o, g.tag tagger accused = .ok o → s.Reloads now i g o.change) ∧
    (∀ draws c, g.start draws = .ok c → s.Reloads now i g c) ∧
    ∀ b player c, g.firstAi? = some b → (s.player? player).isSome = true →
      (g.claim b.id player).quorum = some c →
      ∃ s', s.claim b.id player = .ok s' ∧ s'.Reloads now i (g.claim b.id player) c := by
  have h := holds_of_flag hl hr hf
  have hw := hk.wellFormed hl
  refine ⟨fun u c hc => ?_, fun tagger accused o ho => ?_, fun draws c hc => ?_, ?_⟩
  · exact h.reloads hk hs (hw.proposes_of_advance hc) now
  · exact h.reloads hk hs (hw.proposes_of_tag ho) now
  · exact h.reloads hk hs (hw.proposes_of_start hc) now
  · intro b player c hb hp hc
    obtain ⟨hm, hd⟩ := Game.firstAi?_mem hb
    have hcl := h.claimed_of_nodup (hk.ids_nodup hl) hm hd player
    refine ⟨_, h.claim_eq_ok_of_nodup hk.bots hm hd hp, ?_⟩
    have hseats : ((g.claim b.id player).bots.map Bot.seat).Nodup := by
      rw [Game.seats_claim]
      exact hs
    exact hcl.reloads (hk.claimed b.id player) hseats
      ((hw.claim b.id player).proposes_of_quorum hc) now

def sampleFlag (handled : Cell) : Store where
  players := ⟨[⟨1, "Ann", .instant 0⟩, ⟨2, "Ben", .instant 1⟩], 2⟩
  games := ⟨[{
    id := 1, stage := some (.awaiting .human .question), order := .list [1, 2, 3], turn := .int 0
    handled, handledAt := some (.instant 4), budget := .int 60, question := none, target := none
    result := none, winner := none, createdAt := .instant 3, updatedAt := .instant 4 }], 1⟩
  bots := ⟨[⟨1, 1, .int 0, "Ada", some .human, some 1, .int 3, .instant 3⟩,
    ⟨2, 1, .int 1, "Bob", some .human, some 2, .int 3, .instant 3⟩,
    ⟨3, 1, .int 2, "Cy", some .ai, none, .int 3, .instant 3⟩], 3⟩
  messages := .empty

def sampleGame : Game where
  id := 1
  stage := .awaiting .human .question
  order := [1, 2, 3]
  turn := 0
  handled := true
  handledAt := some (.utc 4)
  budget := 60
  question := none
  target := none
  result := none
  winner := none
  bots := [⟨1, 0, "Ada", .human, some 1, 3⟩, ⟨2, 1, "Bob", .human, some 2, 3⟩,
    ⟨3, 2, "Cy", .ai, none, 3⟩]

def sampleAsk : Change := sampleGame.askedChange ⟨3, 2, "Cy", .ai, none, 3⟩ "Who?"

theorem advance_sampleGame : sampleGame.advance (.question 1 3 "Who?") = .ok sampleAsk := by
  decide +kernel

theorem numbered_sampleFlag (handled : Cell) : (sampleFlag handled).Numbered where
  games := List.nodup_singleton 1
  bots := show [1, 2, 3].Nodup by decide
  fits := show ∀ r ∈ (sampleFlag (.int 0)).bots.rows, Fits 64 r.id by decide

theorem sampleFlag_reloads : sampleGame.advance (.question 1 3 "Who?") = .ok sampleAsk ∧
    (sampleFlag (.ofFlag true)).Reloads 5 1 sampleGame sampleAsk := by
  have hl : (sampleFlag (.ofFlag true)).load 1 = .ok sampleGame := by decide +kernel
  obtain ⟨h, -⟩ := update_reloads (sampleFlag (.ofFlag true)) 1 sampleGame _ true
    (numbered_sampleFlag _) hl (by decide) rfl rfl 5
  exact ⟨advance_sampleGame, h _ _ advance_sampleGame⟩

/-- A flag that is set, but not to one, is read as set, and yet no change is written over it. -/
theorem update_reloads_flag : ¬∀ (s : Store) (i : Int) (g : Game), s.Numbered →
    s.load i = .ok g → (g.bots.map Bot.seat).Nodup → ∀ (now : Instant) (u : Utterance) (c : Change),
      g.advance u = .ok c → s.Reloads now i g c := by
  intro h
  have hl : (sampleFlag (.int 2)).load 1 = .ok sampleGame := by decide +kernel
  have hr := h (sampleFlag (.int 2)) 1 sampleGame (numbered_sampleFlag _) hl (by decide) 5 _ _
    advance_sampleGame
  have hc : (sampleFlag (.int 2)).games.count (GameRow.expects 1 sampleAsk) = 0 := by
    decide +kernel
  exact absurd (hc.symm.trans hr.count) (by decide)

end Store

end ImitationGame
