import ImitationGame.Proofs.Store.Reading

namespace ImitationGame

variable {r : GameRecord} {rs : List BotRecord} {b : Bot} {g : Game} {d : DatedGame}

def Refusal.IsCorruption (e : Refusal) : Prop := e.error.kind = .failure .corruption

theorem Refusal.isCorruption (c : Corruption) : IsCorruption (.corrupt c) := rfl

def Bot.record (b : Bot) : BotRecord where
  id := b.id
  seat := b.seat
  name := b.name
  driver := b.driver
  player := b.player
  help := b.help

def DatedGame.record (d : DatedGame) : GameRecord := GameRow.record d.game d.createdAt d.updatedAt

namespace BotRecord

variable {x : BotRecord}

def Seated (x : BotRecord) : Prop := 0 ≤ x.seat ∧ x.seat ≤ 255

instance : Decidable x.Seated := inferInstanceAs (Decidable (_ ∧ _))

theorem bot_eq_ok_iff : x.bot = .ok b ↔ x.Seated ∧ b.record = x := by
  unfold bot
  split
  · rename_i h
    have hs : x.Seated := ⟨h.1, by omega⟩
    simp only [Except.ok.injEq, hs, true_and]
    constructor
    · rintro rfl
      simp only [Bot.record, Int.toNat_of_nonneg h.1]
    · rintro rfl
      rfl
  · rename_i h
    simp only [reduceCtorEq, false_iff, not_and]
    rintro ⟨hn, hl⟩ -
    exact h ⟨hn, by omega⟩

theorem exists_bot_iff : (∃ b, x.bot = .ok b) ↔ x.Seated := by
  simp only [bot_eq_ok_iff, exists_and_left, and_iff_left_iff_imp]
  rintro ⟨hn, -⟩
  refine ⟨⟨x.id, x.seat.toNat, x.name, x.driver, x.player, x.help⟩, ?_⟩
  simp only [Bot.record, Int.toNat_of_nonneg hn]

theorem bot_fails (x : BotRecord) : Fails Refusal.IsCorruption x.bot := by
  unfold bot
  split
  · exact .ok _
  · exact .error (Refusal.isCorruption _)

theorem record_of_mapM {bots : List Bot} (h : rs.mapM bot = .ok bots) :
    bots.map Bot.record = rs :=
  (map_eq_of_mapM h fun _ _ hb => (bot_eq_ok_iff.mp hb).2).trans (List.map_id rs)

end BotRecord

theorem Bot.map_id_record (bots : List Bot) :
    (bots.map Bot.record).map BotRecord.id = bots.map Bot.id := by
  rw [List.map_map]
  rfl

namespace Game

theorem check_fails (g : Game) : Fails Refusal.IsCorruption g.check :=
  .guard (Refusal.isCorruption _) <| .guard (Refusal.isCorruption _) <|
    .guard (Refusal.isCorruption _) <| .guard (Refusal.isCorruption _) <|
      .guard (Refusal.isCorruption _) (.ok _)

theorem assemble_eq_ok_iff : assemble r rs = .ok g ↔
    r = GameRow.record g r.createdAt r.updatedAt ∧ rs.mapM BotRecord.bot = .ok g.bots ∧
      g.check = .ok () := by
  simp only [assemble, throw_eq_error, error_bind, bind_eq_ok, ite_error_eq_ok, pure_eq_ok,
    Except.ok.injEq, Int.not_lt]
  constructor
  · rintro ⟨hn, bots, hb, ⟨⟩, hc, rfl⟩
    refine ⟨?_, hb, hc⟩
    simp only [GameRow.record, Int.toNat_of_nonneg hn]
  · rintro ⟨hr, hb, hc⟩
    rw [hr]
    exact ⟨Int.natCast_nonneg _, g.bots, hb, ⟨⟩, hc, rfl⟩

theorem ofRows_eq_ok_iff {row : GameRow} {rows : List BotRow} : ofRows row rows = .ok g ↔
    ∃ c u rs, row.read = .ok (GameRow.record g c u) ∧ rows.mapM BotRow.read = .ok rs ∧
      rs.mapM BotRecord.bot = .ok g.bots ∧ g.check = .ok () := by
  simp only [ofRows, bind_eq_ok, Refusal.lift_eq_ok, assemble_eq_ok_iff]
  constructor
  · rintro ⟨r, hread, rs, hrs, hr, hb, hc⟩
    exact ⟨_, _, rs, hr ▸ hread, hrs, hb, hc⟩
  · rintro ⟨c, u, rs, hread, hrs, hb, hc⟩
    exact ⟨_, hread, rs, hrs, rfl, hb, hc⟩

theorem assemble_fails (r : GameRecord) (rs : List BotRecord) :
    Fails Refusal.IsCorruption (assemble r rs) := by
  simp only [assemble, throw_eq_error, error_bind]
  refine .guard (Refusal.isCorruption _) ?_
  refine Fails.bind (Fails.mapM fun x _ => BotRecord.bot_fails x) fun bots _ => ?_
  exact (check_fails _).bind fun _ _ => .ok _

end Game

/-- The records of a game that can be played: its turn lies in its order, the order names each of
its bots once and nobody else, every bot has a seat, and whoever owes an answer is one of them. -/
structure GameRecord.Sound (r : GameRecord) (rs : List BotRecord) : Prop where
  turn_nonneg : 0 ≤ r.turn
  turn_lt : r.turn < r.order.length
  seated : ∀ x ∈ rs, x.Seated
  bots_ne_nil : rs ≠ []
  order_perm : r.order.Perm (rs.map BotRecord.id)
  target_mem : r.stage.awaitsAnswer = true → ∃ t, r.target = some t ∧ t ∈ rs.map BotRecord.id

namespace DatedGame

theorem assemble_eq_ok_iff : assemble r rs = .ok d ↔
    d.record = r ∧ rs.mapM BotRecord.bot = .ok d.game.bots ∧ d.game.check = .ok () := by
  simp only [assemble, bind_eq_ok, pure_eq_ok, Except.ok.injEq, Game.assemble_eq_ok_iff]
  constructor
  · rintro ⟨g, ⟨hr, hb, hc⟩, rfl⟩
    exact ⟨hr.symm, hb, hc⟩
  · rintro ⟨rfl, hb, hc⟩
    exact ⟨d.game, ⟨rfl, hb, hc⟩, rfl⟩

theorem ofRows_eq_ok_iff {row : GameRow} {rows : List BotRow} : ofRows row rows = .ok d ↔
    ∃ rs, row.read = .ok d.record ∧ rows.mapM BotRow.read = .ok rs ∧
      rs.mapM BotRecord.bot = .ok d.game.bots ∧ d.game.check = .ok () := by
  simp only [ofRows, bind_eq_ok, Refusal.lift_eq_ok, assemble_eq_ok_iff]
  constructor
  · rintro ⟨_, hread, rs, hrs, rfl, hb, hc⟩
    exact ⟨rs, hread, hrs, hb, hc⟩
  · rintro ⟨rs, hread, hrs, hb, hc⟩
    exact ⟨_, hread, rs, hrs, rfl, hb, hc⟩

theorem sound_of_assemble (hn : (rs.map BotRecord.id).Nodup) (h : assemble r rs = .ok d) :
    r.Sound rs := by
  obtain ⟨rfl, hb, hc⟩ := assemble_eq_ok_iff.mp h
  have hs : ∀ x ∈ rs, x.Seated := fun x hx =>
    BotRecord.exists_bot_iff.mp (exists_mapM_iff.mp ⟨_, hb⟩ x hx)
  obtain rfl := BotRecord.record_of_mapM hb
  rw [Bot.map_id_record] at hn
  have hw := (Game.check_eq_ok_iff hn).mp hc
  exact {
    turn_nonneg := Int.natCast_nonneg _
    turn_lt := Int.ofNat_lt.mpr hw.turn_lt
    seated := hs
    bots_ne_nil := mt List.map_eq_nil_iff.mp hw.bots_ne_nil
    order_perm := Bot.map_id_record _ ▸ hw.order_perm
    target_mem := Bot.map_id_record _ ▸ hw.target_mem }

theorem exists_assemble (hn : (rs.map BotRecord.id).Nodup) (h : r.Sound rs) :
    ∃ d, assemble r rs = .ok d := by
  obtain ⟨bots, hb⟩ := exists_mapM_iff.mpr fun x hx => BotRecord.exists_bot_iff.mpr (h.seated x hx)
  obtain rfl := BotRecord.record_of_mapM hb
  let g : Game :=
    { id := r.id, stage := r.stage, order := r.order, turn := r.turn.toNat, handled := r.handled
      handledAt := r.handledAt, budget := r.budget, question := r.question, target := r.target
      result := r.result, winner := r.winner, bots }
  have hturn : (r.turn.toNat : Int) = r.turn := Int.toNat_of_nonneg h.turn_nonneg
  have hids : g.ids = (bots.map Bot.record).map BotRecord.id := (Bot.map_id_record bots).symm
  have hw : g.WellFormed := {
    bots_ne_nil := mt List.map_eq_nil_iff.mpr h.bots_ne_nil
    turn_lt := by
      have := h.turn_lt
      simp only [g]
      omega
    order_perm := hids ▸ h.order_perm
    target_mem := hids ▸ h.target_mem }
  refine ⟨⟨g, r.createdAt, r.updatedAt⟩, assemble_eq_ok_iff.mpr ⟨?_, hb, ?_⟩⟩
  · simp only [record, GameRow.record, g, hturn]
  · exact (Game.check_eq_ok_iff (hids ▸ hn)).mpr hw

theorem assemble_accepts (r : GameRecord) (rs : List BotRecord)
    (hn : (rs.map BotRecord.id).Nodup) :
    ((∃ d, assemble r rs = .ok d) ↔ r.Sound rs) ∧
    (∀ d, assemble r rs = .ok d → d.record = r ∧ d.game.bots.map Bot.record = rs) ∧
    ∀ e, assemble r rs = .error e → e.error.kind = .failure .corruption := by
  refine ⟨⟨fun ⟨d, hd⟩ => sound_of_assemble hn hd, exists_assemble hn⟩, fun d hd => ?_, ?_⟩
  · obtain ⟨hr, hb, -⟩ := assemble_eq_ok_iff.mp hd
    exact ⟨hr, BotRecord.record_of_mapM hb⟩
  · exact (Game.assemble_fails r rs).bind fun _ _ => .ok _

def sampleRecord : GameRecord where
  id := 1
  stage := .awaiting .ai .answer
  order := [12, 11]
  turn := 1
  handled := false
  handledAt := some (.utc 4)
  budget := 45
  question := some "Who?"
  target := some 12
  result := none
  winner := none
  createdAt := .utc 3
  updatedAt := .utc 4

def sampleRecords (seat : Int) : List BotRecord :=
  [⟨11, 0, "Ada", .human, some 1, 3⟩, ⟨12, seat, "Cy", .ai, none, 3⟩]

theorem sampleRecords_accepts : (∀ seat, ((sampleRecords seat).map BotRecord.id).Nodup) ∧
    (∃ d, assemble sampleRecord (sampleRecords 255) = .ok d ∧ d.record = sampleRecord) ∧
    ∃ e, assemble sampleRecord (sampleRecords 256) = .error e ∧
      e.error.kind = .failure .corruption := by
  have hn : ∀ seat, ((sampleRecords seat).map BotRecord.id).Nodup := fun _ =>
    show [11, 12].Nodup by decide
  refine ⟨hn, ?_, ?_⟩
  · obtain ⟨haccept, hcarry, -⟩ := assemble_accepts sampleRecord (sampleRecords 255) (hn 255)
    obtain ⟨d, hd⟩ := haccept.mpr {
      turn_nonneg := by decide
      turn_lt := by decide
      seated := by decide
      bots_ne_nil := by decide
      order_perm := by decide
      target_mem := fun _ => ⟨12, rfl, by decide⟩ }
    exact ⟨d, hd, (hcarry d hd).1⟩
  · obtain ⟨-, -, hrefuse⟩ := assemble_accepts sampleRecord (sampleRecords 256) (hn 256)
    exact ⟨.corrupt (.badSeat 12 256), rfl, hrefuse _ rfl⟩

end DatedGame

namespace Store

variable {s : Store} {i : Int}

theorem of_loadDated (h : s.loadDated i = .ok d) : ∃ row, s.gameRow? i = some row ∧
    row.read = .ok d.record := by
  unfold loadDated at h
  split at h
  · cases h
  · rename_i row hrow
    obtain ⟨-, hread, -⟩ := DatedGame.ofRows_eq_ok_iff.mp h
    exact ⟨row, hrow, hread⟩

end Store

end ImitationGame
