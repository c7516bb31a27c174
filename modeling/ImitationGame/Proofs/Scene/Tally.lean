import ImitationGame.Proofs.Game.Progress

namespace ImitationGame

namespace Game

variable {g : Game} {a b : Bot} {given given' : Int → Nat} {player : Int}

structure Tallied (g : Game) (given : Int → Nat) : Prop where
  left : ∀ b ∈ g.bots, b.help = initialHelp - b.player.elim 0 given
  strangers : ∀ p, g.botOf? p = none → given p = 0

namespace Tallied

theorem idle (h : g.Tallied given) (hs : g.Seated) (hb : b ∈ g.bots) (hd : b.driver = .ai) :
    b.help = initialHelp := by
  rw [h.left b hb, hs.player_eq_none hb hd]
  rfl

theorem owned (h : g.Tallied given) (hb : b ∈ g.bots) (hp : b.player = some player) :
    b.help = initialHelp - given player := by
  rw [h.left b hb, hp]
  rfl

theorem help_bounds (h : g.Tallied given) (hg : ∀ p, (given p : Int) ≤ initialHelp)
    (hb : b ∈ g.bots) : 0 ≤ b.help ∧ b.help ≤ initialHelp := by
  have hl := h.left b hb
  cases hp : b.player with
  | none =>
    rw [hp, Option.elim_none, initialHelp] at hl
    rw [initialHelp]
    omega
  | some p =>
    have hle := hg p
    rw [hp, Option.elim_some] at hl
    omega

theorem claim (h : g.Tallied given) (hs : g.Seated) (hp : g.botOf? player = none)
    (hb : b ∈ g.bots) (hd : b.driver = .ai) : (g.claim b.id player).Tallied given := by
  have hfree := hs.player_eq_none hb hd
  refine ⟨fun a' ha' => ?_, fun p hn => h.strangers p (botOf?_eq_none.mpr fun a ha hap => ?_)⟩
  · obtain ⟨a, ha, rfl⟩ := List.mem_map.mp ha'
    by_cases hi : a.id = b.id
    · -- The bot that is taken has all its hints, and its player has been given none.
      obtain rfl := hs.eq_of_id_eq ha hb hi
      simpa [h.strangers player hp] using h.idle hs ha hd
    · rw [if_neg hi]
      exact h.left a ha
  · have hi : a.id ≠ b.id := by
      intro hi
      obtain rfl := hs.eq_of_id_eq ha hb hi
      simp [hfree] at hap
    exact botOf?_eq_none.mp hn a (List.mem_map.mpr ⟨a, ha, if_neg hi⟩) hap

theorem spend (h : g.Tallied given) (hs : g.Seated) (hb : g.botOf? player = some b)
    (hg : given' player = given player + 1) (hne : ∀ p, p ≠ player → given' p = given p) :
    (g.spend b.id).Tallied given' := by
  obtain ⟨hm, hpl⟩ := botOf?_eq_some hb
  refine ⟨fun a' ha' => ?_, fun p hn => ?_⟩
  · obtain ⟨a, ha, rfl⟩ := List.mem_map.mp ha'
    by_cases hi : a.id = b.id
    · obtain rfl := hs.eq_of_id_eq ha hm hi
      have := h.owned ha hpl
      simp only [if_pos, hpl, Option.elim_some, hg]
      omega
    · rw [if_neg hi, h.left a ha]
      cases hap : a.player with
      | none => rfl
      | some p =>
        -- Nobody has two bots, so this one belongs to another player.
        have hp : p ≠ player := by
          rintro rfl
          exact hi (hs.owners a ha b hm p hap hpl)
        rw [Option.elim_some, Option.elim_some, hne p hp]
  · have hn' : g.botOf? p = none := botOf?_eq_none.mpr fun a ha hap =>
      botOf?_eq_none.mp hn _ (List.mem_map_of_mem ha) (by split <;> exact hap)
    have hp : p ≠ player := by
      rintro rfl
      simp [hb] at hn'
    rw [hne p hp, h.strangers p hn']

end Tallied

end Game

theorem Scene.Opening.tallied {s : Scene} (h : s.Opening) {given : Int → Nat}
    (hg : ∀ p, given p = 0) : s.game.Tallied given where
  left b hb := by
    obtain ⟨-, hp, hh⟩ := h.bots b hb
    rw [hh, hp]
    rfl
  strangers p _ := hg p

end ImitationGame
