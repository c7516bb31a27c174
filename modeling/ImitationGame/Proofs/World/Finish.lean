import ImitationGame.Proofs.Scene.Verdict
import ImitationGame.Proofs.World.Change

/-! The end of a game: it comes by a tag of the player awaited, and after it nothing of the game
changes until the game is deleted. -/

namespace ImitationGame

variable {s : Store} {w : World} {i : Int} {g g' : Game} {now : Instant} {m : Move}
variable {moves : List (Instant × Move)}

namespace Move

theorem Makes.settled (h : m.Makes now g g') (hg : g.Seated) (hs : g.Settled) : g'.Settled := by
  cases h with
  | rest => exact hs
  | join hst => exact hs.claim hst
  | gather _ _ _ hc => exact .applyAt _ now (Game.open_of_quorum hc)
  | start hc => exact .applyAt g now (Game.open_of_start hc)
  | tag hb ho => exact .tag hg hb ho
  | speak hc => exact .applyAt g now (Game.open_of_advance hc)
  | hint => exact hs.spend

theorem Makes.tags (h : m.Makes now g g') (hf : g'.stage = .finished) : g.stage = .finished ∨
    ∃ player accused b o, m = .accuse g.id player accused ∧ g.botOf? player = some b ∧
      g.tag b.id accused = .ok o ∧ g' = g.applyAt now o.change := by
  cases h with
  | rest => exact .inl hf
  | join => exact .inl hf
  | gather _ _ _ hc => exact absurd hf (Game.open_of_quorum hc).stage
  | start hc => exact absurd hf (Game.open_of_start hc).stage
  | tag hb ho => exact .inr ⟨_, _, _, _, rfl, hb, ho, rfl⟩
  | speak hc => exact absurd hf (Game.open_of_advance hc).stage
  | hint => exact .inl hf

end Move

namespace World

structure Finishes (w : World) (now : Instant) (m : Move) (g g' : Game) (player : Int)
    (t a : Bot) : Prop where
  move : m = .accuse g.id player a.id
  accepted : ∃ o, Play.accuse now g.id player a.id w.store = .ok (o, (w.step now m).store)
  tagger : g.botOf? player = some t
  due : g.acting = .ok (some t.id)
  accused : a ∈ g.bots ∧ a.id ≠ t.id
  winner : g'.winner = some (Game.winnerOf t a)

theorem step_finishes (h : w.store.Faithful) (hg : w.store.Holds i g) (now : Instant) (m : Move)
    (hg' : (w.step now m).store.Holds i g') (hf : g'.stage = .finished) :
    g.stage = .finished ∨ ∃ player t a, w.Finishes now m g g' player t a := by
  obtain rfl := hg.id_eq
  rcases step_makes h hg now m with ⟨-, hgone⟩ | ⟨g'', hg'', hm⟩
  · obtain ⟨r, hr, -⟩ := hg'.row
    simp [hgone.row] at hr
  obtain rfl := hg'.unique hg''
  refine (hm.tags hf).imp_right ?_
  rintro ⟨player, accused, b, o, rfl, hb, ho, rfl⟩
  obtain ⟨hs, -⟩ := (h.of_load hg.load).2.sound
  obtain ⟨hd, hne, t, a, ht, ha, hw, -⟩ := Game.winner_of_tag ho
  obtain rfl : t = b := List.inj_on_of_nodup_map hs.ids_nodup (Game.mem_of_find? ht)
    (Game.botOf?_eq_some hb).1 (Game.id_of_find? ht)
  obtain rfl := Game.id_of_find? ha
  have hok : Play.accuse now g.id player a.id w.store =
      .ok (o, w.store.written now g.id o.change) :=
    (Play.accuse_eq_ok_iff h.tidy hg hs).mpr ⟨t, hb, ho, rfl⟩
  refine ⟨player, t, a, rfl, ⟨o, ?_⟩, hb, hd, ⟨Game.mem_of_find? ha, hne⟩, hw⟩
  simp only [step, transact, Store.after, hok]

theorem Act.eq_of_finished {s : Store} (h : w.Act now g m s) (hf : g.stage = .finished) :
    s = w.store ∨ (Deletes m g.id ∧ s = w.store.cleared g.id) := by
  cases h with
  | rest => exact .inl rfl
  | join hs =>
    rw [hf] at hs
    cases hs
  | start _ hc => exact absurd hf (Game.ne_finished_of_start hc)
  | tag _ ho => exact absurd hf (Game.tag_eq_ok_iff.mp ho).1
  | speak _ _ hc | finish _ _ _ _ _ hc => exact absurd hf (Game.ne_finished_of_advance hc)
  | hint _ ha => exact absurd hf (Game.ne_finished_of_acting ha)
  | @delete context => exact .inr ⟨⟨context, rfl⟩, rfl⟩

theorem step_finished (h : w.store.Faithful) (hg : w.store.Holds i g) (hf : g.stage = .finished)
    (now : Instant) (m : Move) : Store.Same i w.store (w.step now m).store ∨
      (Deletes m i ∧ (w.step now m).store.Gone i) := by
  by_cases hm : m.game? = some i
  · obtain rfl := hg.id_eq
    rcases (step_act h hg hm now).eq_of_finished hf with he | ⟨hd, he⟩
    · exact .inl (he ▸ .refl _ _)
    · exact .inr ⟨hd, he ▸ hg.gone_cleared h.tidy⟩
  · exact .inl (step_same h hg hm now)

theorem runFrom_finished (h : w.store.Faithful) (hg : w.store.Holds i g) (hf : g.stage = .finished)
    (moves : List (Instant × Move)) : Store.Same i w.store (w.runFrom moves).store ∨
      ((∃ x ∈ moves, Deletes x.2 i) ∧ (w.runFrom moves).store.Gone i) := by
  induction moves generalizing w with
  | nil => exact .inl (.refl _ _)
  | cons m moves ih =>
    have h' := step_faithful h m.1 m.2
    rcases step_finished h hg hf m.1 m.2 with hs | ⟨hd, hgone⟩
    · refine (ih h' (hs.holds hg)).imp hs.trans ?_
      rintro ⟨⟨x, hx, hd⟩, hgone⟩
      exact ⟨⟨x, List.mem_cons_of_mem m hx, hd⟩, hgone⟩
    · exact .inr ⟨⟨m, List.mem_cons_self, hd⟩, runFrom_gone h' hgone moves⟩

theorem run_finished (moves : List (Instant × Move)) (i : Int) :
    (∀ r, (run moves).store.gameRow? i = some r → ∃ g, (run moves).store.load i = .ok g ∧
      g.Settled ∧ (g.stage = .finished → g.humans = 2)) ∧
    (∀ now m g', ((run moves).step now m).store.load i = .ok g' → g'.stage = .finished →
      ∃ g, (run moves).store.load i = .ok g ∧
        (g.stage = .finished ∨ ∃ player t a, (run moves).Finishes now m g g' player t a)) ∧
    ∀ g, (run moves).store.load i = .ok g → g.stage = .finished → ∀ later,
      Store.Same i (run moves).store (run (moves ++ later)).store ∨
        ((∃ x ∈ later, Deletes x.2 i) ∧ (run (moves ++ later)).store.Gone i) := by
  have hf := run_faithful moves
  refine ⟨fun r hr => ?_, fun now m g' hl hfin => ?_, fun g hl hfin later => ?_⟩
  · obtain ⟨g, hg, hreached⟩ := run_reached hr
    refine ⟨g, hg.load, ?_, fun hfin => hreached.sound.2.full (by simp [hfin])⟩
    exact run_induct (fun _ => Scene.Opening.settled) (fun hs hm => hm.settled hs) moves hg
  · have hg' := ((step_faithful hf now m).of_load hl).1
    cases hr : (run moves).store.gameRow? i with
    | some r =>
      obtain ⟨g, hg, -⟩ := run_reached hr
      exact ⟨g, hg.load, step_finishes hf hg now m hg' hfin⟩
    | none =>
      rcases step_opened hf hr now m with hn | ⟨names, g, ho, rfl⟩
      · rw [Store.load_eq_error hn] at hl
        cases hl
      · obtain ⟨-, -, hg, hopening, -⟩ := Play.openNamed_opens hf.tidy ho
        obtain rfl := hg'.unique hg
        have hst : g'.stage = .started := hopening.stage
        simp [hst] at hfin
  · rw [← run_runFrom]
    exact runFrom_finished hf (hf.of_load hl).1 hfin later

def sampleEnd : List (Instant × Move) := sample.take 6 ++ [(6, .accuse 1 1 3)]

theorem sampleEnd_loads : ∃ g, (run sampleEnd).store.load 1 = .ok g ∧ g.stage = .finished := by
  have hs : (match (run sampleEnd).store.load 1 with
      | .ok g => some g.stage
      | .error _ => none) = some .finished := by decide +kernel
  obtain ⟨g, hg⟩ : ∃ g, (run sampleEnd).store.load 1 = .ok g := exists_of_isOk (by decide +kernel)
  rw [hg] at hs
  exact ⟨g, hg, Option.some.inj hs⟩

theorem sample_finished : ∃ g g' t a, (run sampleEnd).store.load 1 = .ok g' ∧ g'.Settled ∧
    (run (sample.take 6)).Finishes 6 (.accuse 1 1 3) g g' 1 t a ∧
      Store.Same 1 (run sampleEnd).store (run (sampleEnd ++ [(7, .hint 1 1 (.ok ""))])).store := by
  obtain ⟨g', hg', hfin⟩ := sampleEnd_loads
  obtain ⟨r, hr⟩ : ∃ r, (run sampleEnd).store.gameRow? 1 = some r :=
    Option.isSome_iff_exists.mp (by decide +kernel)
  have hopen : (match (run (sample.take 6)).store.load 1 with
      | .ok g => some g.stage
      | .error _ => none) = some (.awaiting .human .question) := by decide +kernel
  obtain ⟨g, hg, he | ⟨player, t, a, ht⟩⟩ :=
    (run_finished (sample.take 6) 1).2.1 6 (.accuse 1 1 3) g' hg' hfin
  · rw [hg] at hopen
    exact absurd (he.symm.trans (Option.some.inj hopen)) (by simp)
  obtain ⟨hsettled, -, hsame⟩ := run_finished sampleEnd 1
  obtain ⟨g'', hg'', hset, -⟩ := hsettled r hr
  obtain rfl := Except.ok.inj (hg'.symm.trans hg'')
  obtain ⟨-, rfl, -⟩ := Move.accuse.inj ht.move
  refine ⟨g, g', t, a, hg', hset, ht, ?_⟩
  refine (hsame g' hg' hfin [(7, .hint 1 1 (.ok ""))]).resolve_right ?_
  rintro ⟨⟨x, hx, context, hd⟩, -⟩
  obtain rfl := List.mem_singleton.mp hx
  cases hd

end World

end ImitationGame
