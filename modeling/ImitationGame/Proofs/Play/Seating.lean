import ImitationGame.Play.Opening
import ImitationGame.Proofs.Scene.Consistency
import ImitationGame.Proofs.Store.Log

namespace ImitationGame

variable {s s' : Store} {i id : Int} {now : Instant} {rows : List BotRow} {bots : List Bot}
  {names : List String} {seat : Nat}

theorem Play.storedSeat_eq (h : seat < 0x8000) : storedSeat seat = seat := by
  change Int.bmod seat 0x10000 = seat
  exact Int.bmod_eq_of_le (by omega) (by omega)

def BotRow.seated (now : Instant) (game id : Int) (seat : Nat) (name : String) : BotRow where
  id
  game
  seat := .int (Play.storedSeat seat)
  name
  driver := some .ai
  player := none
  help := .int Game.initialHelp
  createdAt := .instant now

namespace Bot

def seated (id : Int) (seat : Nat) (name : String) : Bot where
  id
  seat
  name
  driver := .ai
  player := none
  help := Game.initialHelp

theorem holds_seated {name : String} (hs : seat < 256) :
    (BotRow.seated now i id seat name).Holds (seated id seat name) where
  id := rfl
  seat := by
    rw [BotRow.seated, Play.storedSeat_eq (by omega)]
    rfl
  seat_lt := hs
  name := rfl
  driver := rfl
  player := rfl
  help := rfl
  help_fits := by
    change Fits 32 Game.initialHelp
    decide
  createdAt := ⟨_, Timestamp.read_instant now⟩

end Bot

namespace Play

inductive Seating (now : Instant) (game : Int) :
    Int → Nat → List String → List BotRow → List Bot → Prop
  | nil {id : Int} {seat : Nat} : Seating now game id seat [] [] []
  | cons {id : Int} {seat : Nat} {name : String} {names : List String} {rows : List BotRow}
      {bots : List Bot} : Seating now game (id + 1) (seat + 1) names rows bots →
      Seating now game id seat (name :: names) (.seated now game id seat name :: rows)
        (.seated id seat name :: bots)

namespace Seating

theorem length_eq (h : Seating now i id seat names rows bots) : bots.length = names.length := by
  induction h with
  | nil => rfl
  | cons _ ih => rw [List.length_cons, List.length_cons, ih]

theorem game_eq (h : Seating now i id seat names rows bots) : ∀ r ∈ rows, r.game = i := by
  induction h with
  | nil => simp
  | cons _ ih => exact List.forall_mem_cons.mpr ⟨rfl, ih⟩

theorem ids_eq (h : Seating now i id seat names rows bots) :
    rows.map BotRow.id = bots.map Bot.id := by
  induction h with
  | nil => rfl
  | cons _ ih =>
    rw [List.map_cons, List.map_cons, ih]
    rfl

theorem le_id (h : Seating now i id seat names rows bots) : ∀ r ∈ rows, id ≤ r.id := by
  induction h with
  | nil => simp
  | @cons id seat name names rows bots _ ih =>
    exact List.forall_mem_cons.mpr ⟨Int.le_refl id, fun r hr => Int.le_of_lt (ih r hr)⟩

theorem ids_nodup (h : Seating now i id seat names rows bots) : (rows.map BotRow.id).Nodup := by
  induction h with
  | nil => exact List.nodup_nil
  | @cons id seat name names rows bots h ih =>
    refine List.nodup_cons.mpr ⟨fun hm => ?_, ih⟩
    obtain ⟨r, hr, he⟩ := List.mem_map.mp hm
    exact absurd (h.le_id r hr) (Int.not_le.mpr (Int.lt_add_one_of_le (Int.le_of_eq he)))

theorem names_eq (h : Seating now i id seat names rows bots) : bots.map Bot.name = names := by
  induction h with
  | nil => rfl
  | cons _ ih =>
    rw [List.map_cons, ih]
    rfl

theorem seats_eq (h : Seating now i id seat names rows bots) :
    bots.map Bot.seat = List.range' seat bots.length := by
  induction h with
  | nil => rfl
  | cons _ ih =>
    rw [List.map_cons, ih, List.length_cons, List.range'_succ]
    rfl

theorem fresh (h : Seating now i id seat names rows bots) :
    ∀ b ∈ bots, b.driver = .ai ∧ b.player = none ∧ b.help = Game.initialHelp := by
  induction h with
  | nil => simp
  | cons _ ih => exact List.forall_mem_cons.mpr ⟨⟨rfl, rfl, rfl⟩, ih⟩

theorem size_le (h : Seating now i id seat names rows bots) (hs : seat ≤ Game.seatLimit)
    (hr : ∀ r ∈ rows, r.seat ≠ .int Game.seatLimit) : seat + names.length ≤ Game.seatLimit := by
  induction h with
  | nil => exact hs
  | @cons id seat name names rows bots _ ih =>
    obtain ⟨hne, hr⟩ := List.forall_mem_cons.mp hr
    have hlt : seat < Game.seatLimit := by
      refine Nat.lt_of_le_of_ne hs ?_
      rintro rfl
      exact hne rfl
    have := ih hlt hr
    rw [List.length_cons]
    omega

theorem holds (h : Seating now i id seat names rows bots)
    (hs : seat + names.length ≤ Game.seatLimit) : List.Forall₂ BotRow.Holds rows bots := by
  induction h with
  | nil => exact .nil
  | cons _ ih =>
    rw [List.length_cons, Game.seatLimit] at hs
    refine .cons (Bot.holds_seated (by omega)) (ih ?_)
    rw [Game.seatLimit]
    omega

theorem sorted (h : Seating now i id seat names rows bots)
    (hs : seat + names.length ≤ Game.seatLimit) :
    (rows.Pairwise fun a b => a.seat.upTo b.seat) ∧
      ∀ r ∈ rows, ∃ n : Nat, r.seat = .int n ∧ seat ≤ n := by
  induction h with
  | nil => simp
  | @cons id seat name names rows bots _ ih =>
    rw [List.length_cons, Game.seatLimit] at hs
    obtain ⟨hp, hm⟩ := ih (by rw [Game.seatLimit]; omega)
    have hc : (BotRow.seated now i id seat name).seat = .int seat :=
      (Bot.holds_seated (by omega)).seat
    refine ⟨List.pairwise_cons.mpr ⟨fun r hr => ?_, hp⟩, List.forall_mem_cons.mpr ⟨?_, ?_⟩⟩
    · obtain ⟨n, hn, hle⟩ := hm r hr
      rw [hc, hn]
      simp only [Cell.upTo, decide_eq_true_eq]
      omega
    · exact ⟨seat, hc, Nat.le_refl seat⟩
    · intro r hr
      obtain ⟨n, hn, hle⟩ := hm r hr
      exact ⟨n, hn, by omega⟩

end Seating

end Play

namespace Store

variable {name : String}

def SeatedBelow (s : Store) (game : Int) (seat : Nat) : Prop :=
  ∀ b ∈ s.bots.rows, b.game = game → ∃ n : Nat, b.seat = .int n ∧ n < seat

def withBot (s : Store) (now : Instant) (game : Int) (seat : Nat) (name : String) : Store :=
  { s with
    bots := ⟨s.bots.rows ++ [.seated now game s.bots.nextId seat name], s.bots.nextId⟩ }

theorem nextId_withBot : (s.withBot now i seat name).bots.nextId = s.bots.nextId + 1 :=
  Table.nextId_insert (t := s.bots) rfl

theorem SeatedBelow.withBot (h : s.SeatedBelow i seat) (hs : seat < 0x8000) :
    (s.withBot now i seat name).SeatedBelow i (seat + 1) := by
  intro b hm hi
  rcases List.mem_append.mp hm with hm | hm
  · obtain ⟨n, hb, hn⟩ := h b hm hi
    exact ⟨n, hb, Nat.lt_succ_of_lt hn⟩
  · obtain rfl := List.mem_singleton.mp hm
    exact ⟨seat, by rw [BotRow.seated, Play.storedSeat_eq hs], Nat.lt_succ_self seat⟩

theorem SeatedBelow.free (h : s.SeatedBelow i seat) : ∀ b ∈ s.bots.rows, b.game = i →
    b.seat.same (.int seat) = false := by
  intro b hm hi
  obtain ⟨n, hb, hn⟩ := h b hm hi
  rw [hb]
  simp only [Cell.same, Cell.upTo, Bool.and_eq_false_iff, decide_eq_false_iff_not]
  omega

theorem addBot_eq_ok_iff {row : BotRow} :
    s.addBot now i (Play.storedSeat seat) name Game.initialHelp = .ok (row, s') ↔
      s.bots.nextId < Int.pow 2 63 ∧
      (∀ b ∈ s.bots.rows, b.game = i → b.seat.same (.int (Play.storedSeat seat)) = false) ∧
      (s.gameRow? i).isSome = true ∧ row = .seated now i s.bots.nextId seat name ∧
      s' = s.withBot now i seat name := by
  simp only [addBot, throw_eq_error, error_bind, bind_eq_ok, Fault.require_eq_ok, Prod.exists,
    Table.insert?_eq_some_iff, ite_error_eq_ok, pure_eq_ok, Except.ok.injEq, Prod.mk.injEq,
    List.any_eq_true, not_exists, not_and, Bool.and_eq_true, beq_iff_eq, Bool.not_eq_true,
    Option.isNone_eq_false_iff]
  constructor
  · rintro ⟨r, t, ⟨hn, rfl, rfl⟩, hs, hg, rfl, rfl⟩
    exact ⟨hn, hs, hg, rfl, rfl⟩
  · rintro ⟨hn, hs, hg, rfl, rfl⟩
    exact ⟨_, _, ⟨hn, rfl, rfl⟩, hs, hg, rfl, rfl⟩

end Store

namespace Play

theorem seatAll_eq_ok (h : seatAll now i seat names s = .ok (rows, s')) :
    (∃ bots, Seating now i s.bots.nextId seat names rows bots) ∧
    (∀ k < names.length, s.bots.nextId + k < Int.pow 2 63) ∧ ∃ last,
      s' = { s with bots := ⟨s.bots.rows ++ rows, last⟩ } ∧
        (s.bots.Ascending → s'.bots.Ascending) := by
  induction names generalizing s seat rows with
  | nil =>
    simp only [seatAll, Except.ok.injEq, Prod.mk.injEq] at h
    obtain ⟨rfl, rfl⟩ := h
    exact ⟨⟨[], .nil⟩, nofun, s.bots.last, by rw [List.append_nil], id⟩
  | cons name names ih =>
    simp only [seatAll, bind_eq_ok, Prod.exists, pure_eq_ok, Except.ok.injEq, Prod.mk.injEq] at h
    obtain ⟨row, t, ht, rest, t', ht', rfl, rfl⟩ := h
    obtain ⟨hn, -, -, rfl, rfl⟩ := Store.addBot_eq_ok_iff.mp ht
    obtain ⟨⟨bots, hb⟩, hids, last, rfl, hl⟩ := ih ht'
    rw [Store.nextId_withBot] at hb hids
    refine ⟨⟨_, .cons hb⟩, fun k hk => ?_, last, ?_, fun ha => hl (ha.insert hn rfl)⟩
    · cases k with
      | zero => simpa using hn
      | succ k =>
        have := hids k (Nat.lt_of_succ_lt_succ hk)
        rw [Int.natCast_succ]
        omega
    · simp only [Store.withBot, List.append_assoc, List.singleton_append]

theorem exists_seatAll (hg : (s.gameRow? i).isSome = true) (hb : s.SeatedBelow i seat)
    (hs : seat + names.length ≤ Game.seatLimit)
    (hn : ∀ k < names.length, s.bots.nextId + k < Int.pow 2 63) :
    ∃ rows s', seatAll now i seat names s = .ok (rows, s') := by
  induction names generalizing s seat with
  | nil => exact ⟨[], s, rfl⟩
  | cons name names ih =>
    rw [List.length_cons, Game.seatLimit] at hs
    have hseat : seat < 0x8000 := by omega
    have hadd := Store.addBot_eq_ok_iff.mpr
      ⟨by simpa using hn 0 (Nat.succ_pos _), storedSeat_eq hseat ▸ hb.free, hg, rfl,
        (rfl : s.withBot now i seat name = _)⟩
    have hids : ∀ k < names.length,
        (s.withBot now i seat name).bots.nextId + k < Int.pow 2 63 := by
      intro k hk
      have := hn (k + 1) (Nat.succ_lt_succ hk)
      rw [Int.natCast_succ] at this
      rw [Store.nextId_withBot]
      omega
    obtain ⟨rows, s', hr⟩ :=
      ih (s := s.withBot now i seat name) hg (hb.withBot hseat) (by rw [Game.seatLimit]; omega) hids
    refine ⟨.seated now i s.bots.nextId seat name :: rows, s', ?_⟩
    simp only [seatAll, hadd, ok_bind, hr, pure_eq_ok]

end Play

end ImitationGame
