import ImitationGame.Proofs.Game.Lookup
import ImitationGame.Store.Basic

namespace ImitationGame

theorem Cell.whole_eq_ok {bits : Nat} {n : Int} (h : Fits bits n) :
    (Cell.int n).whole bits = .ok n := by
  rw [Cell.whole, Cell.whole_int h]
  rfl

theorem fits_16 {n : Int} : Fits 16 n ↔ -0x8000 ≤ n ∧ n < 0x8000 := Iff.rfl

theorem fits_32 {n : Int} : Fits 32 n ↔ -0x80000000 ≤ n ∧ n < 0x80000000 := Iff.rfl

theorem Cell.flag_eq_ok (b : Bool) : (Cell.ofFlag b).flag = .ok b := by
  rw [Cell.flag, Cell.flag_ofFlag]
  rfl

theorem Cell.mapM_whole {bits : Nat} {o : Option Int} (h : ∀ n, o = some n → Fits bits n) :
    (o.map Cell.int).mapM (Cell.whole bits) = .ok o := by
  cases o with
  | none => rfl
  | some n => simp [Cell.whole_eq_ok (h n rfl), Functor.map, Except.map]

theorem Timestamp.read_instant (now : Instant) :
    (Timestamp.instant now).read = .ok (.utc now) := rfl

namespace BotRow

structure Holds (r : BotRow) (b : Bot) : Prop where
  id : r.id = b.id
  seat : r.seat = .int b.seat
  seat_lt : b.seat < 256
  name : r.name = b.name
  driver : r.driver = some b.driver
  player : r.player = b.player
  help : r.help = .int b.help
  help_fits : Fits 32 b.help
  createdAt : ∃ t, r.createdAt.read = .ok t

theorem Holds.read {r : BotRow} {b : Bot} (h : r.Holds b) :
    ∃ record, r.read = .ok record ∧ record.bot = .ok b := by
  obtain ⟨t, ht⟩ := h.createdAt
  have hs : Fits 16 b.seat := by
    have := h.seat_lt
    exact fits_16.mpr ⟨by omega, by omega⟩
  refine ⟨⟨b.id, b.seat, b.name, b.driver, b.player, b.help⟩, ?_, ?_⟩
  · simp [BotRow.read, h.id, h.seat, h.name, h.driver, h.player, h.help, ht, Cell.whole_eq_ok hs,
      Cell.whole_eq_ok h.help_fits, Fault.require]
  · have := h.seat_lt
    rw [BotRecord.bot, if_pos (by simp only; omega)]
    rfl

theorem read_all {rs : List BotRow} {bs : List Bot} (h : List.Forall₂ Holds rs bs) :
    ∃ records, rs.mapM BotRow.read = .ok records ∧ records.mapM BotRecord.bot = .ok bs := by
  induction h with
  | nil => exact ⟨[], rfl, rfl⟩
  | cons hr _ ih =>
    obtain ⟨record, hr₁, hr₂⟩ := hr.read
    obtain ⟨records, hs₁, hs₂⟩ := ih
    exact ⟨record :: records, by simp [hr₁, hs₁], by simp [hr₂, hs₂]⟩

end BotRow

namespace GameRow

structure Holds (r : GameRow) (g : Game) : Prop where
  id : r.id = g.id
  stage : r.stage = some g.stage
  order : r.order = .list g.order
  turn : r.turn = .int g.turn
  turn_fits : Fits 32 g.turn
  handled : r.handled = .ofFlag g.handled
  handledAt : r.handledAt.mapM Timestamp.read = .ok g.handledAt
  budget : r.budget = .int g.budget
  budget_fits : Fits 32 g.budget
  question : r.question = g.question
  target : r.target = g.target.map .int
  target_fits : ∀ t, g.target = some t → Fits 64 t
  result : r.result = g.result
  winner : r.winner = g.winner.map .int
  winner_fits : ∀ w, g.winner = some w → Fits 64 w
  createdAt : ∃ t, r.createdAt.read = .ok t
  updatedAt : ∃ t, r.updatedAt.read = .ok t

def record (g : Game) (createdAt updatedAt : Stamp) : GameRecord where
  id := g.id
  stage := g.stage
  order := g.order
  turn := g.turn
  handled := g.handled
  handledAt := g.handledAt
  budget := g.budget
  question := g.question
  target := g.target
  result := g.result
  winner := g.winner
  createdAt := createdAt
  updatedAt := updatedAt

theorem Holds.read_eq {r : GameRow} {g : Game} {c u : Stamp} (h : r.Holds g)
    (hc : r.createdAt.read = .ok c) (hu : r.updatedAt.read = .ok u) :
    r.read = .ok (record g c u) := by
  simp only [GameRow.read, h.id, h.stage, h.order, h.turn, h.handled, h.handledAt, h.budget,
    h.question, h.target, h.result, h.winner, hc, hu, Fault.require, OrderCell.read,
    Cell.whole_eq_ok h.turn_fits, Cell.flag_eq_ok, Cell.whole_eq_ok h.budget_fits,
    Cell.mapM_whole h.target_fits, Cell.mapM_whole h.winner_fits, ok_bind]
  rfl

theorem Holds.read {r : GameRow} {g : Game} (h : r.Holds g) :
    ∃ createdAt updatedAt, r.read = .ok (record g createdAt updatedAt) := by
  obtain ⟨c, hc⟩ := h.createdAt
  obtain ⟨u, hu⟩ := h.updatedAt
  exact ⟨c, u, h.read_eq hc hu⟩

end GameRow

namespace Game

theorem ofRows_eq_ok {r : GameRow} {rs : List BotRow} {g : Game} (hr : r.Holds g)
    (hb : List.Forall₂ BotRow.Holds rs g.bots) (hc : g.check = .ok ()) :
    ofRows r rs = .ok g := by
  obtain ⟨c, u, hread⟩ := hr.read
  obtain ⟨records, hrs, hbs⟩ := BotRow.read_all hb
  have ha : assemble (GameRow.record g c u) records = .ok g := by
    simp [assemble, GameRow.record, hbs, hc]
  simp [ofRows, hread, hrs, ha, Refusal.lift]

end Game

namespace Store

variable {s : Store} {i : Int} {g : Game}

def conversation (s : Store) (game : Int) : List MessageRow :=
  s.messages.rows.filter fun m => m.game == game

structure Holds (s : Store) (i : Int) (g : Game) : Prop where
  row : ∃ r, s.gameRow? i = some r ∧ r.Holds g
  bots : List.Forall₂ BotRow.Holds (s.botRows i) g.bots
  check : g.check = .ok ()

theorem Holds.load (h : s.Holds i g) : s.load i = .ok g := by
  obtain ⟨r, hr, hg⟩ := h.row
  rw [Store.load, hr]
  exact Game.ofRows_eq_ok hg h.bots h.check

theorem Holds.id_eq (h : s.Holds i g) : g.id = i := by
  obtain ⟨r, hr, hg⟩ := h.row
  rw [← hg.id]
  simpa using List.find?_some hr

end Store

end ImitationGame
