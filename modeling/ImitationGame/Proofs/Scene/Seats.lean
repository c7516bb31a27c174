import ImitationGame.Proofs.Scene.Basic

namespace ImitationGame

namespace Game

variable {g : Game} {f : Bot → Bot} {c : Change} {b : Bot} {i player : Int}

structure Seated (g : Game) : Prop where
  wellFormed : g.WellFormed
  ids_nodup : g.ids.Nodup
  size : g.bots.length ≤ seatLimit
  seats : g.bots.map Bot.seat = List.range g.bots.length
  owned : ∀ b ∈ g.bots, b.driver = .human ↔ b.player ≠ none
  owners : ∀ a ∈ g.bots, ∀ b ∈ g.bots, ∀ p, a.player = some p → b.player = some p → a.id = b.id

theorem claim_eq_mapBots (bot player : Int) : g.claim bot player = g.mapBots fun b =>
    if b.id = bot then { b with driver := .human, player := some player } else b := rfl

theorem ids_mapBots (hf : ∀ b, (f b).id = b.id) : (g.mapBots f).ids = g.ids := by
  simp [ids, mapBots, Function.comp_def, hf]

theorem ids_claim (bot player : Int) : (g.claim bot player).ids = g.ids := by
  rw [claim_eq_mapBots]
  exact ids_mapBots fun b => by split <;> rfl

theorem seats_mapBots (hf : ∀ b, (f b).seat = b.seat) :
    (g.mapBots f).bots.map Bot.seat = g.bots.map Bot.seat := by
  simp [mapBots, Function.comp_def, hf]

theorem seats_claim (bot player : Int) :
    (g.claim bot player).bots.map Bot.seat = g.bots.map Bot.seat := by
  rw [claim_eq_mapBots]
  exact seats_mapBots fun b => by split <;> rfl

theorem ids_spend (bot : Int) : (g.spend bot).ids = g.ids :=
  ids_mapBots fun b => by split <;> rfl

theorem WellFormed.mapBots (h : g.WellFormed) (hf : ∀ b, (f b).id = b.id) :
    (g.mapBots f).WellFormed where
  bots_ne_nil := by simpa [Game.mapBots] using h.bots_ne_nil
  turn_lt := h.turn_lt
  order_perm := by rw [ids_mapBots hf]; exact h.order_perm
  target_mem := by rw [ids_mapBots hf]; exact h.target_mem

theorem WellFormed.claim (h : g.WellFormed) (bot player : Int) :
    (g.claim bot player).WellFormed := by
  rw [claim_eq_mapBots]
  exact h.mapBots fun b => by split <;> rfl

theorem WellFormed.applyAt (h : g.WellFormed) (hc : g.Proposes c) (now : Instant) :
    (g.applyAt now c).WellFormed :=
  have ha := h.apply hc
  ⟨ha.bots_ne_nil, ha.turn_lt, ha.order_perm, ha.target_mem⟩

theorem lowest?_mem {bs : List Bot} (h : lowest? bs = some b) : b ∈ bs := by
  induction bs generalizing b with
  | nil => simp [lowest?] at h
  | cons a as ih =>
    rw [lowest?] at h
    cases hl : lowest? as with
    | none => simp_all
    | some d =>
      have hd := ih hl
      simp only [hl] at h
      split at h <;> simp_all

theorem exists_lowest? {bs : List Bot} (h : bs ≠ []) : ∃ b, lowest? bs = some b := by
  cases bs with
  | nil => exact absurd rfl h
  | cons a as =>
    rw [lowest?]
    split
    · split <;> exact ⟨_, rfl⟩
    · exact ⟨_, rfl⟩

theorem firstAi?_mem (h : g.firstAi? = some b) : b ∈ g.bots ∧ b.driver = .ai := by
  simpa using lowest?_mem h

theorem map_at {bs : List Bot} (hn : (bs.map Bot.id).Nodup) (hb : b ∈ bs) (f : Bot → Bot) :
    ∃ l r, bs = l ++ b :: r ∧ (bs.map fun a => if a.id = b.id then f a else a) = l ++ f b :: r := by
  obtain ⟨l, r, rfl⟩ := List.append_of_mem hb
  refine ⟨l, r, rfl, ?_⟩
  rw [List.map_append, List.map_cons, List.nodup_append, List.nodup_cons] at hn
  have hl : ∀ a ∈ l, (if a.id = b.id then f a else a) = a := fun a ha =>
    if_neg (hn.2.2 _ (List.mem_map_of_mem ha) _ List.mem_cons_self)
  have hr : ∀ a ∈ r, (if a.id = b.id then f a else a) = a := fun a ha =>
    if_neg fun (he : a.id = b.id) => hn.2.1.1 (he ▸ List.mem_map_of_mem ha)
  rw [List.map_append, List.map_cons, if_pos rfl, List.map_congr_left hl, List.map_congr_left hr,
    List.map_id', List.map_id']

theorem humans_claim (hn : g.ids.Nodup) (hb : b ∈ g.bots) (hd : b.driver = .ai) :
    (g.claim b.id player).humans = g.humans + 1 := by
  obtain ⟨l, r, hs, hm⟩ := map_at hn hb fun a => { a with driver := .human, player := some player }
  rw [humans, humans, Game.claim, hm, hs, List.countP_append, List.countP_append,
    List.countP_cons_of_pos (by simp), List.countP_cons_of_neg (by simp [hd])]
  omega

namespace Seated

theorem nextTurn_eq (h : g.Seated) :
    nextTurn g.turn g.order.length = (g.turn + 1) % g.bots.length := by
  have ht := h.wellFormed.turn_lt
  have hs := h.size
  rw [h.wellFormed.length_order] at ht ⊢
  rw [seatLimit] at hs
  have hl : g.turn + 1 < 0x10000000000000000 := by omega
  exact Game.nextTurn_eq (by omega) hl

theorem applyAt (h : g.Seated) (hc : g.Proposes c) (now : Instant) : (g.applyAt now c).Seated where
  wellFormed := h.wellFormed.applyAt hc now
  ids_nodup := h.ids_nodup
  size := h.size
  seats := h.seats
  owned := h.owned
  owners := h.owners

theorem claim (h : g.Seated) (hp : g.botOf? player = none) : (g.claim i player).Seated where
  wellFormed := h.wellFormed.claim i player
  ids_nodup := by rw [ids_claim]; exact h.ids_nodup
  size := by simpa [Game.claim] using h.size
  seats := by
    rw [seats_claim, h.seats]
    simp [Game.claim]
  owned := by
    intro b hb
    obtain ⟨a, ha, rfl⟩ := List.mem_map.mp hb
    by_cases hi : a.id = i
    · simp [hi]
    · simpa [hi] using h.owned a ha
  owners := by
    intro a ha b hb p hap hbp
    obtain ⟨a', ha', rfl⟩ := List.mem_map.mp ha
    obtain ⟨b', hb', rfl⟩ := List.mem_map.mp hb
    have hp' := botOf?_eq_none.mp hp
    by_cases hai : a'.id = i <;> by_cases hbi : b'.id = i
    · simp [hai, hbi]
    · simp only [hai, hbi, if_true, if_false, Option.some.injEq] at hap hbp
      exact absurd (hap ▸ hbp) (hp' b' hb')
    · simp only [hai, hbi, if_true, if_false, Option.some.injEq] at hap hbp
      exact absurd (hbp ▸ hap) (hp' a' ha')
    · simp only [hai, hbi, if_false] at hap hbp ⊢
      exact h.owners a' ha' b' hb' p hap hbp

theorem spend (h : g.Seated) : (g.spend i).Seated where
  wellFormed := h.wellFormed.mapBots fun b => by split <;> rfl
  ids_nodup := by rw [ids_spend]; exact h.ids_nodup
  size := by simpa [Game.spend, Game.mapBots] using h.size
  seats := by
    rw [Game.spend, seats_mapBots fun b => by split <;> rfl, h.seats]
    simp [Game.mapBots]
  owned := by
    intro b hb
    obtain ⟨a, ha, rfl⟩ := List.mem_map.mp hb
    split <;> exact h.owned a ha
  owners := by
    intro a ha b hb p hap hbp
    obtain ⟨a', ha', rfl⟩ := List.mem_map.mp ha
    obtain ⟨b', hb', rfl⟩ := List.mem_map.mp hb
    have hd : ∀ d : Bot, (if d.id = i then { d with help := d.help - 1 } else d).player = d.player ∧
        (if d.id = i then { d with help := d.help - 1 } else d).id = d.id :=
      fun d => by split <;> exact ⟨rfl, rfl⟩
    rw [(hd _).1] at hap hbp
    rw [(hd _).2, (hd _).2]
    exact h.owners a' ha' b' hb' p hap hbp

end Seated

end Game

end ImitationGame
