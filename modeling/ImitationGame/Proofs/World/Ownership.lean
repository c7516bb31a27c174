import ImitationGame.Proofs.Play.Player
import ImitationGame.Proofs.Scene.Ownership
import ImitationGame.Proofs.World.Change

namespace ImitationGame

variable {s : Store} {w : World} {i x player : Int} {g g' : Game} {now : Instant} {m : Move}
variable {o : Driver × Option Int}

namespace Store

def owner? (s : Store) (game bot : Int) : Option (Driver × Option Int) :=
  (s.load game).toOption.bind fun g => g.owner? bot

theorem Holds.owner? (h : s.Holds i g) (x : Int) : s.owner? i x = g.owner? x := by
  rw [Store.owner?, h.load]
  rfl

theorem Gone.owner? (h : s.Gone i) (x : Int) : s.owner? i x = none := by
  rw [Store.owner?, load_eq_error h.row]
  rfl

theorem exists_holds_of_owner? (h : s.Faithful) (ho : s.owner? i x = some o) :
    ∃ g, s.Holds i g ∧ Scene.Reached ⟨g, s.conversation i⟩ ∧ g.owner? x = some o := by
  cases hl : s.load i with
  | error f => simp [Store.owner?, hl, Except.toOption] at ho
  | ok g =>
    obtain ⟨hg, hr⟩ := h.of_load hl
    exact ⟨g, hg, hr, (hg.owner? x).symm.trans ho⟩

end Store

theorem Move.Makes.owner? (h : m.Makes now g g') (x : Int) :
    g'.owner? x = g.owner? x ∨ ∃ player, m = .join g.id player := by
  cases h with
  | rest | start | tag | speak => exact .inl rfl
  | join | gather => exact .inr ⟨_, rfl⟩
  | hint => exact .inl Game.owner?_spend

namespace World

structure Takes (w : World) (now : Instant) (m : Move) (game bot player : Int) : Prop where
  move : m = .join game player
  recruiting : ∃ g, w.store.load game = .ok g ∧ g.stage = .started
  answer : Play.join now game player w.store = .ok (⟨bot, false⟩, (w.step now m).store)
  before : w.store.owner? game bot = some (.ai, none)
  after : (w.step now m).store.owner? game bot = some (.human, some player)

theorem join_takes (h : w.store.Faithful)
    (ha : Play.join now i player w.store = .ok (⟨x, false⟩, s)) :
    w.Takes now (.join i player) i x player ∧
      ∀ y, y ≠ x → (w.step now (.join i player)).store.owner? i y = w.store.owner? i y := by
  obtain ⟨g, hl, hg, hr⟩ := h.of_bind_load ha
  obtain ⟨hs, -⟩ := hr.sound
  have hst : (w.step now (.join i player)).store = s := store_transact ha
  rcases (Play.join_eq_ok_iff h.tidy hg hs).mp ha with ⟨b, -, ⟨⟩, -⟩ | ⟨hp, hrec, -, b, hb, ⟨⟩, rfl⟩
  obtain ⟨hm, hd⟩ := Game.firstAi?_mem hb
  have ho : ∀ y, (w.step now (.join i player)).store.owner? i y =
      (g.claim b.id player).owner? y := by
    intro y
    rw [hst, (hg.joined h.tidy hb hs hp now).owner?, Game.owner?_of_bots Game.bots_joined]
  have hfree : b.player = none := hs.player_eq_none hm hd
  refine ⟨⟨rfl, ⟨g, hl, hrec⟩, by rw [hst, ha], ?_, ?_⟩, fun y hy => ?_⟩
  · rw [hg.owner?, Game.owner?_of_mem hs.ids_nodup hm, hd, hfree]
  · rw [ho, Game.owner?_claim hs.ids_nodup hm]
  · rw [ho, hg.owner?, Game.owner?_claim_of_ne hy]

theorem join_owner (h : w.store.Faithful) (now : Instant) (i player x : Int) :
    (w.step now (.join i player)).store.owner? i x = w.store.owner? i x ∨
      w.Takes now (.join i player) i x player := by
  rcases w.store.eq_or_eq_after (Play.join now i player) with he | ⟨⟨y, already⟩, s, ha, he⟩
  · rw [step, transact, he]
    exact .inl rfl
  cases already with
  | false =>
    obtain ⟨ht, hne⟩ := join_takes h ha
    by_cases hx : x = y
    · exact .inr (hx ▸ ht)
    · exact .inl (hne x hx)
  | true =>
    obtain ⟨g, -, hg, hr⟩ := h.of_bind_load ha
    rcases (Play.join_eq_ok_iff h.tidy hg hr.sound.1).mp ha with
      ⟨_, -, -, rfl⟩ | ⟨-, -, -, _, -, ⟨⟩, -⟩
    rw [step, transact, he]
    exact .inl rfl

theorem step_owner (h : w.store.Faithful) (ho : w.store.owner? i x = some o) (now : Instant)
    (m : Move) : (w.step now m).store.Gone i ∨ (w.step now m).store.owner? i x = some o ∨
      ∃ player, w.Takes now m i x player := by
  obtain ⟨g, hg, -, hx⟩ := Store.exists_holds_of_owner? h ho
  obtain rfl := hg.id_eq
  rcases step_makes h hg now m with ⟨-, hgone⟩ | ⟨g', hg', hm⟩
  · exact .inl hgone
  · rcases hm.owner? x with hsame | ⟨player, rfl⟩
    · exact .inr (.inl (by rw [hg'.owner?, hsame, hx]))
    · rcases join_owner h now g.id player x with hsame | ht
      · exact .inr (.inl (hsame.trans ho))
      · exact .inr (.inr ⟨player, ht⟩)

theorem runFrom_owner (h : w.store.Faithful) (ho : w.store.owner? i x = some o)
    (moves : List (Instant × Move)) : (w.runFrom moves).store.Gone i ∨
      (w.runFrom moves).store.owner? i x = some o ∨ o = (.ai, none) ∧
        ∃ player, (w.runFrom moves).store.owner? i x = some (.human, some player) := by
  let P (s : Store) : Prop := s.owner? i x = some o ∨ o = (.ai, none) ∧
    ∃ player, s.owner? i x = some (.human, some player)
  refine (runFrom_keeps (P := P) moves h (.inl ho) fun earlier m _ hP => ?_).symm
  have hf := runFrom_faithful h earlier
  obtain ⟨o', ho', hto⟩ : ∃ o', (w.runFrom earlier).store.owner? i x = some o' ∧
      (o' = o ∨ o = (.ai, none) ∧ o'.1 = .human) := by
    rcases hP with hP | ⟨he, player, hP⟩
    · exact ⟨o, hP, .inl rfl⟩
    · exact ⟨_, hP, .inr ⟨he, rfl⟩⟩
  rcases step_owner hf ho' m.1 m.2 with hg | hs | ⟨player, ht⟩
  · exact .inr hg
  · rw [← ho'] at hs
    exact .inl (hP.imp hs.trans fun ⟨he, player, hp⟩ => ⟨he, player, hs.trans hp⟩)
  · -- Only a bot of an AI is taken, so this is the first time.
    obtain rfl := Option.some.inj (ho'.symm.trans ht.before)
    rcases hto with rfl | ⟨-, hd⟩
    · exact .inl (.inr ⟨rfl, player, ht.after⟩)
    · cases hd

theorem join_again (h : s.Faithful) (ho : s.owner? i x = some (.human, some player))
    (now : Instant) : Play.join now i player s = .ok (⟨x, true⟩, s) := by
  obtain ⟨g, hg, hr, hx⟩ := Store.exists_holds_of_owner? h ho
  obtain ⟨hs, -⟩ := hr.sound
  obtain ⟨b, hb, hbo⟩ := Option.map_eq_some_iff.mp hx
  have hp : g.botOf? player = some b :=
    hs.botOf?_eq (Game.mem_of_find? hb) (Prod.mk.inj hbo).2
  exact (Play.join_eq_ok_iff h.tidy hg hs).mpr
    (.inl ⟨b, hp, by rw [Game.id_of_find? hb], rfl⟩)

/-- In every run a stored bot is human exactly when it has a player, no player has two bots of one
game, and humans fill the seats from below. A bot's owner changes once at most, by a join of its
player while the game recruits, and until the game is deleted the player that joins again is given
the same bot. -/
theorem run_owned (moves : List (Instant × Move)) (i : Int) :
    (∀ r, (run moves).store.gameRow? i = some r → ∃ g, (run moves).store.load i = .ok g ∧
      List.Forall₂ BotRow.Holds ((run moves).store.botRows i) g.bots ∧ g.Owned) ∧
    (∀ x o o' now m, (run moves).store.owner? i x = some o →
      ((run moves).step now m).store.owner? i x = some o' →
      o' = o ∨ ∃ player, (run moves).Takes now m i x player) ∧
    (∀ x o o' o'' middle last, (run moves).store.owner? i x = some o →
      (run (moves ++ middle)).store.owner? i x = some o' →
      (run (moves ++ middle ++ last)).store.owner? i x = some o'' → o' ≠ o → o'' = o') ∧
    ∀ now player x s later again, Play.join now i player (run moves).store = .ok (⟨x, false⟩, s) →
      ((run (moves ++ (now, .join i player) :: later)).store.gameRow? i).isSome = true →
      Play.join again i player (run (moves ++ (now, .join i player) :: later)).store =
        .ok (⟨x, true⟩, (run (moves ++ (now, .join i player) :: later)).store) := by
  have hf := run_faithful moves
  refine ⟨fun r hr => ?_, fun x o o' now m ho ho' => ?_, ?_, ?_⟩
  · obtain ⟨g, hg, hreached⟩ := run_reached hr
    exact ⟨g, hg.load, hg.bots, hreached.owned⟩
  · rcases step_owner hf ho now m with hgone | hs | ht
    · simp [hgone.owner?] at ho'
    · exact .inl (Option.some.inj (ho'.symm.trans hs))
    · exact .inr ht
  · intro x o o' o'' middle last ho ho' ho'' hne
    rw [List.append_assoc, ← run_runFrom] at ho''
    rw [← run_runFrom] at ho'
    rw [runFrom_append] at ho''
    rcases runFrom_owner hf ho middle with hgone | hs | ⟨-, player, hp⟩
    · simp [hgone.owner?] at ho'
    · exact absurd (Option.some.inj (ho'.symm.trans hs)) hne
    obtain rfl := Option.some.inj (ho'.symm.trans hp)
    rcases runFrom_owner (runFrom_faithful hf middle) ho' last with hgone | hs | ⟨⟨⟩, -⟩
    · simp [hgone.owner?] at ho''
    · exact Option.some.inj (ho''.symm.trans hs)
  · intro now player x s later again ha hs
    have ht := (join_takes hf ha).1.after
    have hf' := step_faithful hf now (.join i player)
    rw [← run_runFrom, runFrom_cons] at hs ⊢
    rcases runFrom_owner hf' ht later with hgone | ho | ⟨⟨⟩, -⟩
    · rw [hgone.row] at hs
      cases hs
    · exact join_again (runFrom_faithful hf' later) ho again

theorem sample_owned : ∃ s, Play.join 3 1 1 (run (sample.take 3)).store = .ok (⟨1, false⟩, s) ∧
    Play.join 9 1 1 (run sample).store = .ok (⟨1, true⟩, (run sample).store) := by
  obtain ⟨r, hr⟩ := exists_sample_row
  obtain ⟨⟨a, s⟩, ha⟩ : ∃ x, Play.join 3 1 1 (run (sample.take 3)).store = .ok x :=
    exists_of_isOk (by decide +kernel)
  have hj : a = ⟨1, false⟩ := by
    have hd : (match Play.join 3 1 1 (run (sample.take 3)).store with
        | .ok (a, _) => some a
        | .error _ => none) = some ⟨1, false⟩ := by decide +kernel
    rw [ha] at hd
    exact Option.some.inj hd
  subst hj
  obtain ⟨-, -, -, hagain⟩ := run_owned (sample.take 3) 1
  exact ⟨s, ha, hagain 3 1 1 s (sample.drop 4) 9 ha (Option.isSome_iff_exists.mpr ⟨r, hr⟩)⟩

end World

end ImitationGame
