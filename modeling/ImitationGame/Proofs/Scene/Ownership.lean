import ImitationGame.Proofs.Scene.Consistency

namespace ImitationGame

namespace Game

variable {g g' : Game} {a b : Bot} {x player : Int}

def owner? (g : Game) (bot : Int) : Option (Driver × Option Int) :=
  (g.find? bot).map fun b => (b.driver, b.player)

/-- The bots with a player are the human ones, no player has two, and humans fill the seats from
below. -/
structure Owned (g : Game) : Prop where
  human_iff : ∀ b ∈ g.bots, b.driver = .human ↔ b.player ≠ none
  eq_of_player : ∀ a ∈ g.bots, ∀ b ∈ g.bots, ∀ p, a.player = some p → b.player = some p → a = b
  seats : g.bots.map Bot.seat = List.range g.bots.length
  lowest : ∀ b ∈ g.bots, b.driver = .human ↔ b.seat < g.humans

theorem lowest?_le {bs : List Bot} (h : lowest? bs = some b) : ∀ a ∈ bs, b.seat ≤ a.seat := by
  induction bs generalizing b with
  | nil => simp
  | cons d ds ih =>
    rw [lowest?] at h
    rw [List.forall_mem_cons]
    cases hl : lowest? ds with
    | none =>
      obtain rfl : ds = [] := by
        by_contra hne
        obtain ⟨e, he⟩ := exists_lowest? hne
        simp [he] at hl
      simp_all
    | some e =>
      have he := ih hl
      simp only [hl] at h
      split at h
      · obtain rfl := Option.some.inj h
        exact ⟨by omega, he⟩
      · obtain rfl := Option.some.inj h
        exact ⟨Nat.le_refl _, fun a ha => by have := he a ha; omega⟩

theorem firstAi?_le (h : g.firstAi? = some b) (ha : a ∈ g.bots) (hd : a.driver = .ai) :
    b.seat ≤ a.seat :=
  lowest?_le h a (List.mem_filter.mpr ⟨ha, by simp [hd]⟩)

theorem Seated.exists_seat (h : g.Seated) {n : Nat} (hn : n < g.bots.length) :
    ∃ b ∈ g.bots, b.seat = n :=
  List.mem_map.mp (h.seats ▸ List.mem_range.mpr hn)

theorem Seated.seat_lt (h : g.Seated) (hb : b ∈ g.bots) : b.seat < g.bots.length :=
  List.mem_range.mp (h.seats ▸ List.mem_map_of_mem hb)

theorem Seated.eq_of_seat (h : g.Seated) (ha : a ∈ g.bots) (hb : b ∈ g.bots)
    (he : a.seat = b.seat) : a = b :=
  List.inj_on_of_nodup_map (h.seats ▸ List.nodup_range) ha hb he

def Ranked (g : Game) : Prop := ∀ b ∈ g.bots, b.driver = .human ↔ b.seat < g.humans

namespace Ranked

theorem seat_firstAi? (h : g.Ranked) (hs : g.Seated) (hb : g.firstAi? = some b) :
    b.seat = g.humans := by
  obtain ⟨hm, hd⟩ := firstAi?_mem hb
  have hge : g.humans ≤ b.seat := by
    have := (h b hm).not.mp (by simp [hd])
    omega
  obtain ⟨c, hc, hcs⟩ := hs.exists_seat (Nat.lt_of_le_of_lt hge (hs.seat_lt hm))
  have hcd : c.driver = .ai := by
    cases hc' : c.driver with
    | ai => rfl
    | human => exact absurd ((h c hc).mp hc') (by omega)
  exact Nat.le_antisymm (hcs ▸ firstAi?_le hb hc hcd) hge

theorem claim (h : g.Ranked) (hs : g.Seated) (hb : g.firstAi? = some b) :
    (g.claim b.id player).Ranked := by
  obtain ⟨hm, hd⟩ := firstAi?_mem hb
  have hseat : b.seat = g.humans := h.seat_firstAi? hs hb
  intro a' ha'
  rw [humans_claim hs.ids_nodup hm hd]
  obtain ⟨a, ha, rfl⟩ := List.mem_map.mp ha'
  by_cases hi : a.id = b.id
  · obtain rfl : a = b := List.inj_on_of_nodup_map hs.ids_nodup ha hm hi
    simp [hseat]
  · have hne : a.seat ≠ g.humans := fun he =>
      hi (congrArg Bot.id (hs.eq_of_seat ha hm (he.trans hseat.symm)))
    rw [if_neg hi, h a ha]
    omega

theorem mapBots {f : Bot → Bot} (h : g.Ranked) (hd : ∀ b, (f b).driver = b.driver)
    (hs : ∀ b, (f b).seat = b.seat) : (g.mapBots f).Ranked := by
  have hh : (g.mapBots f).humans = g.humans := by
    simp only [humans, Game.mapBots, List.countP_map, Function.comp_def, hd]
  intro a' ha'
  obtain ⟨a, ha, rfl⟩ := List.mem_map.mp ha'
  rw [hh, hd, hs, h a ha]

theorem owned (h : g.Ranked) (hs : g.Seated) : g.Owned where
  human_iff := hs.owned
  eq_of_player a ha b hb p hap hbp :=
    List.inj_on_of_nodup_map hs.ids_nodup ha hb (hs.owners a ha b hb p hap hbp)
  seats := hs.seats
  lowest := h

end Ranked

theorem owner?_of_bots (h : g'.bots = g.bots) (x : Int) : g'.owner? x = g.owner? x := by
  rw [owner?, owner?, find?, find?, h]

theorem owner?_mapBots {f : Bot → Bot} (hi : ∀ b, (f b).id = b.id)
    (ho : ∀ b ∈ g.bots, b.id = x → (f b).driver = b.driver ∧ (f b).player = b.player) :
    (g.mapBots f).owner? x = g.owner? x := by
  rw [owner?, owner?, find?, find?, Game.mapBots, List.find?_map]
  simp only [Function.comp_def, hi, Option.map_map]
  cases hx : g.bots.find? (fun b => b.id == x) with
  | none => rfl
  | some b =>
    obtain ⟨hd, hp⟩ := ho b (mem_of_find? hx) (id_of_find? hx)
    simp [hd, hp]

theorem owner?_spend : (g.spend b.id).owner? x = g.owner? x :=
  owner?_mapBots (fun b => by split <;> rfl) fun b _ _ => by split <;> exact ⟨rfl, rfl⟩

theorem owner?_claim_of_ne (hx : x ≠ b.id) : (g.claim b.id player).owner? x = g.owner? x := by
  rw [claim_eq_mapBots]
  refine owner?_mapBots (fun b => by split <;> rfl) fun a _ ha => ?_
  rw [if_neg (ha ▸ hx)]
  exact ⟨rfl, rfl⟩

theorem owner?_of_mem (hn : g.ids.Nodup) (hb : b ∈ g.bots) :
    g.owner? b.id = some (b.driver, b.player) := by
  obtain ⟨c, hc⟩ := exists_find? (mem_ids_of_mem hb)
  obtain rfl : c = b := List.inj_on_of_nodup_map hn (mem_of_find? hc) hb (id_of_find? hc)
  rw [owner?, hc, Option.map_some]

theorem owner?_claim (hn : g.ids.Nodup) (hb : b ∈ g.bots) :
    (g.claim b.id player).owner? b.id = some (.human, some player) :=
  owner?_of_mem (b := { b with driver := .human, player := some player })
    ((ids_claim b.id player).symm ▸ hn) (List.mem_map.mpr ⟨b, hb, if_pos rfl⟩)

end Game

namespace Scene

open Game

variable {s t : Scene}

theorem Opening.ranked (h : s.Opening) : s.game.Ranked := by
  intro b hb
  have hh : s.game.humans = 0 := List.countP_eq_zero.mpr fun a ha => by simp [h.bots a ha]
  simp [h.bots b hb, hh]

theorem Step.ranked (h : Step s t) (hs : s.game.Seated) (hr : s.game.Ranked) : t.game.Ranked := by
  cases h with
  | join _ _ hb => exact hr.claim hs hb
  | gather _ _ hb => exact hr.claim hs hb
  | start | speak | tag => exact hr
  | hint => exact hr.mapBots (fun b => by split <;> rfl) fun b => by split <;> rfl

theorem Reached.owned (h : Reached s) : s.game.Owned := by
  have hr : s.game.Ranked := by
    induction h with
    | opening h => exact h.ranked
    | step hp hst ih => exact hst.ranked hp.sound.1 ih
  exact hr.owned h.sound.1

end Scene

end ImitationGame
