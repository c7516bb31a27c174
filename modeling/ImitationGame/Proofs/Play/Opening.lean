import ImitationGame.Play.Register
import ImitationGame.Proofs.Play.Seating
import ImitationGame.Proofs.Store.Assembly
import ImitationGame.Store.Database

namespace ImitationGame

variable {s s' : Store} {i j : Int} {now : Instant} {g : Game} {d : DatedGame}
  {rows : List BotRow} {bots : List Bot} {names : List String} {last : Int}

namespace GameRow

def opened (id : Int) (now : Instant) (order : List Int) : GameRow where
  id
  stage := some .started
  order := .list order
  turn := .int 0
  handled := .ofFlag true
  handledAt := some (.instant now)
  budget := .int 0
  question := none
  target := none
  result := none
  winner := none
  createdAt := .instant now
  updatedAt := .instant now

end GameRow

namespace Game

def opened (id : Int) (now : Instant) (bots : List Bot) : Game where
  id
  stage := .started
  order := bots.map Bot.id
  turn := 0
  handled := true
  handledAt := some (.utc now)
  budget := 0
  question := none
  target := none
  result := none
  winner := none
  bots

end Game

def DatedGame.opened (id : Int) (now : Instant) (bots : List Bot) : DatedGame where
  game := .opened id now bots
  createdAt := .utc now
  updatedAt := .utc now

theorem GameRow.holds_opened :
    (GameRow.opened i now (bots.map Bot.id)).Holds (.opened i now bots) where
  id := rfl
  stage := rfl
  order := rfl
  turn := rfl
  turn_fits := show Fits 32 0 by decide
  handled := rfl
  handledAt := rfl
  budget := rfl
  budget_fits := Stage.fits_budget .started
  question := rfl
  target := rfl
  target_fits _ ht := by simp [Game.opened] at ht
  result := rfl
  winner := rfl
  winner_fits _ hw := by simp [Game.opened] at hw
  createdAt := ⟨_, Timestamp.read_instant now⟩
  updatedAt := ⟨_, Timestamp.read_instant now⟩

theorem GameRow.read_opened :
    (GameRow.opened i now (bots.map Bot.id)).read = .ok (DatedGame.opened i now bots).record :=
  holds_opened.read_eq (Timestamp.read_instant now) (Timestamp.read_instant now)

namespace Store

def Referring (s : Store) : Prop := ∀ b ∈ s.bots.rows, ∃ r ∈ s.games.rows, r.id = b.game

theorem Referring.game_ne_nextId (h : s.Referring) {b : BotRow} (hb : b ∈ s.bots.rows) :
    b.game ≠ s.games.nextId := by
  obtain ⟨r, hr, hi⟩ := h b hb
  rw [← hi]
  exact Int.ne_of_lt (Table.id_lt_nextId (t := s.games) hr)

theorem Tidy.referring (h : s.Tidy) : s.Referring := h.seated

theorem Tidy.conversation_nextId (h : s.Tidy) : s.conversation s.games.nextId = [] := by
  rw [conversation, List.filter_eq_nil_iff]
  intro m hm
  obtain ⟨-, ⟨b, hb, -, hg⟩, -⟩ := h.spoken m hm
  simpa [← hg] using h.referring.game_ne_nextId hb

structure CanSeat (s : Store) (names : List String) : Prop where
  names_ne_nil : names ≠ []
  size : names.length ≤ Game.seatLimit
  game_id : s.games.nextId < Int.pow 2 63
  bot_ids : s.bots.nextId + names.length ≤ Int.pow 2 63

theorem CanSeat.lt_bot_ids (h : s.CanSeat names) :
    ∀ k < names.length, s.bots.nextId + k < Int.pow 2 63 := by
  intro k hk
  have := h.bot_ids
  omega

theorem addGame_eq_ok_iff {row : GameRow} : s.addGame now = .ok (row, s') ↔
    s.games.nextId < Int.pow 2 63 ∧ row = .opened s.games.nextId now [] ∧
      s' = { s with games := ⟨s.games.rows ++ [row], s.games.nextId⟩ } := by
  simp only [addGame, bind_eq_ok, Fault.require_eq_ok, Prod.exists, Table.insert?_eq_some_iff,
    pure_eq_ok, Except.ok.injEq, Prod.mk.injEq]
  constructor
  · rintro ⟨r, t, ⟨hn, rfl, rfl⟩, rfl, rfl⟩
    exact ⟨hn, rfl, rfl⟩
  · rintro ⟨hn, rfl, rfl⟩
    exact ⟨_, _, ⟨hn, rfl, rfl⟩, rfl, rfl⟩

def ordered (s : Store) (game : Int) (order : List Int) : Store :=
  { s with games :=
      s.games.update (fun r => r.id == game) fun r => { r with order := .list order } }

theorem setOrder_eq_ok_iff {row : GameRow} {order : List Int} :
    s.setOrder i order = .ok (row, s') ↔ s' = s.ordered i order ∧ s'.gameRow? i = some row ∧
      ∃ record, row.read = .ok record := by
  dsimp only [setOrder]
  split
  · rename_i hr
    have hn : (s.ordered i order).gameRow? i = none := hr
    simp only [reduceCtorEq, false_iff, not_and]
    rintro rfl hr'
    simp [hn] at hr'
  · rename_i r hr
    have hs : (s.ordered i order).gameRow? i = some r := hr
    simp only [bind_eq_ok, pure_eq_ok, Except.ok.injEq, Prod.mk.injEq]
    constructor
    · rintro ⟨record, hread, rfl, rfl⟩
      exact ⟨rfl, hs, record, hread⟩
    · rintro ⟨rfl, hr', record, hread⟩
      obtain rfl := Option.some.inj (hs.symm.trans hr')
      exact ⟨record, hread, rfl, rfl⟩

end Store

namespace Play

def withGame (s : Store) (now : Instant) (rows : List BotRow) (last : Int) : Store :=
  { s with
    games := ⟨s.games.rows ++ [.opened s.games.nextId now (rows.map BotRow.id)], s.games.nextId⟩
    bots := ⟨s.bots.rows ++ rows, last⟩ }

theorem ordered_eq_withGame (s : Store) (now : Instant) (rows : List BotRow) (last : Int) :
    Store.ordered ⟨s.players, ⟨s.games.rows ++ [.opened s.games.nextId now []], s.games.nextId⟩,
      ⟨s.bots.rows ++ rows, last⟩, s.messages⟩ s.games.nextId (rows.map BotRow.id) =
        withGame s now rows last := by
  have hr : ∀ r ∈ s.games.rows, (r.id == s.games.nextId) = false := fun r hr =>
    beq_eq_false_iff_ne.mpr (Int.ne_of_lt (Table.id_lt_nextId (t := s.games) hr))
  have hm : s.games.rows.map (fun r => if r.id == s.games.nextId then
      { r with order := .list (rows.map BotRow.id) } else r) = s.games.rows := by
    rw [List.map_congr_left (g := id) fun r h => by rw [hr r h]; rfl, List.map_id]
  simp only [Store.ordered, withGame, Table.update, List.map_append, hm]
  simp [GameRow.opened]

theorem gameRow?_withGame : (withGame s now rows last).gameRow? s.games.nextId =
    some (.opened s.games.nextId now (rows.map BotRow.id)) :=
  Table.row?_insert_self (t := s.games) rfl

section

variable {id : Int}

theorem botRows_withGame (hr : s.Referring) (hb : Seating now s.games.nextId id 0 names rows bots)
    (hz : names.length ≤ Game.seatLimit) :
    (withGame s now rows last).botRows s.games.nextId = rows := by
  have ho : s.bots.rows.filter (fun r => r.game == s.games.nextId) = [] := by
    rw [List.filter_eq_nil_iff]
    intro r hm
    simpa using hr.game_ne_nextId hm
  have hn : rows.filter (fun r => r.game == s.games.nextId) = rows := by
    rw [List.filter_eq_self]
    intro r hr
    simpa using hb.game_eq r hr
  simp only [Store.botRows, withGame, List.filter_append, ho, hn, List.nil_append]
  exact Sorted.sort_eq_self (hb.sorted (by simpa using hz)).1

theorem tidy_withGame (ht : s.Tidy) (hn : s.games.nextId < Int.pow 2 63)
    (hb : Seating now s.games.nextId id 0 names rows bots)
    (ha : (withGame s now rows last).bots.Ascending) : (withGame s now rows last).Tidy := by
  refine { ht with games := ht.games.insert hn rfl, bots := ha, seated := ?_, spoken := ?_ }
  · intro b hm
    rcases List.mem_append.mp hm with hm | hm
    · obtain ⟨r, hr, hi⟩ := ht.seated b hm
      exact ⟨r, List.mem_append_left _ hr, hi⟩
    · exact ⟨_, List.mem_append_right _ List.mem_cons_self, (hb.game_eq b hm).symm⟩
  · have hs : ∀ k x, s.HasBot k x → (withGame s now rows last).HasBot k x := by
      rintro k x ⟨r, hr, hx, hk⟩
      exact ⟨r, List.mem_append_left _ hr, hx, hk⟩
    intro m hm
    obtain ⟨hl, hms, hmt⟩ := ht.spoken m hm
    exact ⟨hl, hs _ _ hms, hs _ _ hmt⟩

theorem apart_withGame (hb : Seating now s.games.nextId id 0 names rows bots) :
    Store.Apart s.games.nextId s (withGame s now rows last) where
  row j hj := Table.row?_insert_of_ne (t := s.games) hj.symm
  bots j hj := by
    have hn : rows.filter (fun r => r.game == j) = [] := by
      rw [List.filter_eq_nil_iff]
      intro r hr
      simpa [hb.game_eq r hr] using hj.symm
    simp only [Store.botRows, withGame, List.filter_append, hn, List.append_nil]
  log _ _ := rfl

variable (hne : names ≠ []) (hz : names.length ≤ Game.seatLimit)
  (hb : Seating now i id 0 names rows bots)

include hne hz hb

theorem opening_opened : Scene.Opening ⟨.opened i now bots, []⟩ where
  log := rfl
  stage := rfl
  turn := rfl
  handled := rfl
  budget := rfl
  question := rfl
  target := rfl
  result := rfl
  winner := rfl
  order := rfl
  bots_ne_nil := by
    apply List.ne_nil_of_length_pos
    rw [Game.opened, hb.length_eq]
    exact List.length_pos_of_ne_nil hne
  size := hb.length_eq ▸ hz
  ids_nodup := by
    have hn := hb.ids_nodup
    rw [hb.ids_eq] at hn
    exact hn
  seats := by rw [List.range_eq_range']; exact hb.seats_eq
  bots := hb.fresh

theorem check_opened : (Game.opened i now bots).check = .ok () := by
  have ho := opening_opened hne hz hb
  exact (Game.check_eq_ok_iff ho.ids_nodup).mpr ho.seated.wellFormed

theorem ofRows_opened :
    DatedGame.ofRows (.opened i now (rows.map BotRow.id)) rows = .ok (.opened i now bots) := by
  obtain ⟨records, hrs, hbs⟩ := BotRow.read_all (hb.holds (by simpa using hz))
  refine DatedGame.ofRows_eq_ok_iff.mpr ⟨records, ?_, hrs, hbs, check_opened hne hz hb⟩
  rw [hb.ids_eq]
  exact GameRow.read_opened

end

theorem size_le_of_ofRows {id : Int} {row : GameRow} (hb : Seating now i id 0 names rows bots)
    (h : DatedGame.ofRows row rows = .ok d) : names.length ≤ Game.seatLimit := by
  obtain ⟨records, -, hrs, hbs, -⟩ := DatedGame.ofRows_eq_ok_iff.mp h
  have hr : ∀ r ∈ rows, r.seat ≠ .int Game.seatLimit := by
    intro r hr hs
    obtain ⟨x, hx, hrx⟩ := exists_of_mapM_eq_ok hrs hr
    obtain ⟨b, -, hxb⟩ := exists_of_mapM_eq_ok hbs hx
    have hseat : x.seat = Game.seatLimit := by
      simp only [BotRow.read, hs, bind_eq_ok, pure_eq_ok, Except.ok.injEq,
        Cell.whole_eq_ok (show Fits 16 Game.seatLimit by decide)] at hrx
      obtain ⟨n, rfl, d, -, m, -, t, -, rfl⟩ := hrx
      rfl
    obtain ⟨⟨-, hl⟩, -⟩ := BotRecord.bot_eq_ok_iff.mp hxb
    rw [hseat] at hl
    exact absurd hl (by decide)
  simpa using hb.size_le (Nat.zero_le _) hr

theorem loadDated_withGame (hr : s.Referring) (hne : names ≠ [])
    (hz : names.length ≤ Game.seatLimit)
    (hb : Seating now s.games.nextId i 0 names rows bots) :
    (withGame s now rows last).loadDated s.games.nextId = .ok (.opened s.games.nextId now bots) := by
  simp only [Store.loadDated, gameRow?_withGame, botRows_withGame hr hb hz]
  exact ofRows_opened hne hz hb

theorem openDated_eq_ok (h : openDated now names s = .ok (d, s')) :
    s.CanSeat names ∧ ∃ rows bots last,
      Seating now s.games.nextId s.bots.nextId 0 names rows bots ∧
      d = .opened s.games.nextId now bots ∧ s' = withGame s now rows last ∧
      (s.bots.Ascending → s'.bots.Ascending) := by
  simp only [openDated, throw_eq_error, error_bind, bind_eq_ok, Prod.exists, ite_error_eq_ok,
    pure_eq_ok, Except.ok.injEq, Prod.mk.injEq, List.isEmpty_iff] at h
  obtain ⟨hne, row, s₁, h₁, rows, s₂, h₂, row', s₃, h₃, d', hd, rfl, rfl⟩ := h
  obtain ⟨hn, rfl, rfl⟩ := Store.addGame_eq_ok_iff.mp h₁
  obtain ⟨⟨bots, hb⟩, hids, last, rfl, ha⟩ := seatAll_eq_ok h₂
  obtain ⟨rfl, hr, -⟩ := Store.setOrder_eq_ok_iff.mp h₃
  have he := ordered_eq_withGame s now rows last
  rw [show (GameRow.opened s.games.nextId now []).id = s.games.nextId from rfl] at hr hb
  rw [he, gameRow?_withGame] at hr
  obtain rfl := Option.some.inj hr
  have hz := size_le_of_ofRows hb hd
  obtain rfl := Except.ok.inj ((ofRows_opened hne hz hb).symm.trans hd)
  refine ⟨⟨hne, hz, hn, ?_⟩, rows, bots, last, hb, rfl, he, ha⟩
  have hpos : 0 < names.length := List.length_pos_of_ne_nil hne
  have hlast : s.bots.nextId + ((names.length - 1 : Nat) : Int) < Int.pow 2 63 :=
    hids _ (Nat.sub_one_lt_of_lt hpos)
  omega

theorem openNamed_eq_ok (h : openNamed now names s = .ok (g, s')) :
    s.CanSeat names ∧ ∃ rows bots last,
      Seating now s.games.nextId s.bots.nextId 0 names rows bots ∧
      g = .opened s.games.nextId now bots ∧ s' = withGame s now rows last ∧
      (s.bots.Ascending → s'.bots.Ascending) := by
  obtain ⟨⟨d, t⟩, hd, he⟩ := bind_eq_ok.mp h
  obtain ⟨rfl, rfl⟩ := Prod.mk.inj (Except.ok.inj he)
  obtain ⟨hroom, rows, bots, last, hb, rfl, hs, ha⟩ := openDated_eq_ok hd
  exact ⟨hroom, rows, bots, last, hb, rfl, hs, ha⟩

theorem exists_openDated (hr : s.Referring) (h : s.CanSeat names) :
    ∃ d s', openDated now names s = .ok (d, s') := by
  let t : Store := ⟨s.players, ⟨s.games.rows ++ [.opened s.games.nextId now []], s.games.nextId⟩,
    s.bots, s.messages⟩
  have h₁ : s.addGame now = .ok (.opened s.games.nextId now [], t) :=
    Store.addGame_eq_ok_iff.mpr ⟨h.game_id, rfl, rfl⟩
  have hrow : t.gameRow? s.games.nextId = some (.opened s.games.nextId now []) :=
    Table.row?_insert_self (t := s.games) rfl
  have hfree : t.SeatedBelow s.games.nextId 0 := fun b hb hg => absurd hg (hr.game_ne_nextId hb)
  obtain ⟨rows, s₂, h₂⟩ : ∃ rows s₂, seatAll now s.games.nextId 0 names t = .ok (rows, s₂) :=
    exists_seatAll (Option.isSome_of_eq_some hrow) hfree ((Nat.zero_add _).le.trans h.size)
      h.lt_bot_ids
  obtain ⟨⟨bots, hb⟩, -, last, rfl, -⟩ := seatAll_eq_ok h₂
  have h₃ := Store.setOrder_eq_ok_iff.mpr ⟨(ordered_eq_withGame s now rows last).symm,
    gameRow?_withGame, _, hb.ids_eq ▸ GameRow.read_opened⟩
  refine ⟨.opened s.games.nextId now bots, withGame s now rows last, ?_⟩
  simp only [openDated, throw_eq_error, error_bind, bind_eq_ok, Prod.exists, ite_error_eq_ok,
    pure_eq_ok, Except.ok.injEq, Prod.mk.injEq, List.isEmpty_iff]
  exact ⟨h.names_ne_nil, _, _, h₁, _, _, h₂, _, _, h₃, _,
    ofRows_opened h.names_ne_nil h.size hb, rfl, rfl⟩

/-- A game is opened just when everyone can be seated. It is then found as it was answered, with the
bots as they were named; otherwise nothing of it stays. -/
theorem openDated_loads (hr : s.Referring) (now : Instant) (names : List String) :
    (s.CanSeat names → ∃ d s', Database.run ⟨some s⟩ (openDated now names) = (.ok d, ⟨some s'⟩) ∧
      s.gameRow? d.game.id = none ∧ s'.loadDated d.game.id = .ok d ∧
      Scene.Opening ⟨d.game, []⟩ ∧ d.game.bots.map Bot.name = names) ∧
    (¬s.CanSeat names →
      ∃ f, Database.run ⟨some s⟩ (openDated now names) = (.error f, ⟨some s⟩)) := by
  constructor
  · intro h
    obtain ⟨d, s', hd⟩ : ∃ d s', openDated now names s = .ok (d, s') := exists_openDated hr h
    obtain ⟨⟨hne, hz, -⟩, rows, bots, last, hb, rfl, rfl, -⟩ := openDated_eq_ok hd
    refine ⟨.opened s.games.nextId now bots, withGame s now rows last, ?_, s.games.row?_nextId, ?_,
      opening_opened hne hz hb, hb.names_eq⟩
    · rw [Database.run_created, hd]
    · exact loadDated_withGame hr hne hz hb
  · intro h
    rw [Database.run_created]
    split
    · rename_i d s' hd
      exact absurd (openDated_eq_ok hd).1 h
    · exact ⟨_, rfl⟩

theorem openDated_lastSeat : Store.empty.Referring ∧
    (∃ d s', Database.run ⟨some .empty⟩ (openDated 5 (List.replicate 256 "Ada")) =
      (.ok d, ⟨some s'⟩) ∧ s'.loadDated d.game.id = .ok d) ∧
    ∃ f, Database.run ⟨some .empty⟩ (openDated 5 (List.replicate 257 "Ada")) =
      (.error f, ⟨some .empty⟩) := by
  have hr : Store.empty.Referring := fun _ hb => absurd hb List.not_mem_nil
  refine ⟨hr, ?_, ?_⟩
  · obtain ⟨hopen, -⟩ := openDated_loads hr 5 (List.replicate 256 "Ada")
    obtain ⟨d, s', hd, -, hl, -⟩ := hopen
      ⟨List.cons_ne_nil _ _, List.length_replicate.le, by decide,
        by rw [List.length_replicate]; decide⟩
    exact ⟨d, s', hd, hl⟩
  · obtain ⟨-, hfail⟩ := openDated_loads hr 5 (List.replicate 257 "Ada")
    refine hfail fun h => ?_
    have := h.size
    rw [List.length_replicate, Game.seatLimit] at this
    omega

def spentIds : Store where
  players := .empty
  games := ⟨[.opened 1 5 [1]], 1⟩
  bots := ⟨[.seated 5 1 (Int.pow 2 63 - 1) 0 "Ada"], 1⟩
  messages := .empty

theorem openDated_spentIds : spentIds.Referring ∧
    ¬((∃ d s', openDated 5 ["Basil"] spentIds = .ok (d, s')) ↔
      1 ≤ ["Basil"].length ∧ ["Basil"].length ≤ 256) := by
  constructor
  · intro b hb
    obtain rfl := List.mem_singleton.mp hb
    exact ⟨_, List.mem_cons_self, rfl⟩
  · intro h
    obtain ⟨d, s', hd⟩ := h.mpr (by decide)
    exact absurd (openDated_eq_ok hd).1.bot_ids (by decide)

theorem openNamed_opens (ht : s.Tidy) (h : openNamed now names s = .ok (g, s')) :
    s'.Tidy ∧ Store.Apart g.id s s' ∧ s'.Holds g.id g ∧
      Scene.Opening ⟨g, s'.conversation g.id⟩ ∧ g.id = s.games.nextId ∧
        s'.messages = s.messages := by
  obtain ⟨⟨hne, hz, hn, -⟩, rows, bots, last, hb, rfl, rfl, ha⟩ := openNamed_eq_ok h
  have ho := opening_opened hne hz hb
  have hh : (withGame s now rows last).Holds s.games.nextId (.opened s.games.nextId now bots) := by
    refine ⟨⟨_, gameRow?_withGame, ?_⟩, ?_, check_opened hne hz hb⟩
    · rw [hb.ids_eq]
      exact GameRow.holds_opened
    · rw [botRows_withGame ht.referring hb hz]
      exact hb.holds (by simpa using hz)
  refine ⟨tidy_withGame ht hn hb (ha ht.bots), apart_withGame hb, hh, ?_, rfl, rfl⟩
  rw [← ht.conversation_nextId] at ho
  exact ho

end Play

end ImitationGame
