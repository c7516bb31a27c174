import ImitationGame.Proofs.World.Expiry

namespace ImitationGame

variable {s : Store} {w : World} {i : Int} {g g' : Game} {now : Instant} {m : Move}

theorem Store.Holds.unique (h : s.Holds i g) (h' : s.Holds i g') : g = g' :=
  Except.ok.inj (h.load.symm.trans h'.load)

inductive Move.Makes (now : Instant) (g : Game) : Move → Game → Prop where
  | rest {m : Move} : Makes now g m g
  | join {player b} : g.stage = .started → g.botOf? player = none → g.firstAi? = some b →
      (g.claim b.id player).quorum = none → Makes now g (.join g.id player) (g.claim b.id player)
  | gather {player b c} : g.stage = .started → g.botOf? player = none → g.firstAi? = some b →
      (g.claim b.id player).quorum = some c →
      Makes now g (.join g.id player) ((g.claim b.id player).applyAt now c)
  | start {context c} : g.start (context.seeds.stream g.id) = .ok c →
      Makes now g (.begin context ⟨.startAfterJoin, g.id⟩) (g.applyAt now c)
  | tag {player accused b o} : g.botOf? player = some b → g.tag b.id accused = .ok o →
      Makes now g (.accuse g.id player accused) (g.applyAt now o.change)
  | speak {m : Move} {u c} : g.advance u = .ok c → Makes now g m (g.applyAt now c)
  | hint {player reply b} : g.botOf? player = some b → g.acting = .ok (some b.id) → 0 < b.help →
      Makes now g (.hint g.id player reply) (g.spend b.id)

namespace World

def Deletes (m : Move) (game : Int) : Prop := ∃ context, m = .begin context ⟨.deleteExpired, game⟩

theorem Act.makes {s : Store} (h : w.Act now g m s) (hf : w.store.Faithful)
    (hg : w.store.Holds g.id g) : (Deletes m g.id ∧ s.Gone g.id) ∨
      ∃ g', s.Holds g.id g' ∧ m.Makes now g g' := by
  obtain ⟨hs, -⟩ := (hf.of_load hg.load).2.sound
  have hw := hs.wellFormed
  cases h with
  | rest => exact .inr ⟨g, hg, .rest⟩
  | @join player b hst hp hb =>
    refine .inr ⟨_, hg.joined hf.tidy hb hs hp now, ?_⟩
    unfold Game.joined
    split
    · exact .join hst hp hb ‹_›
    · exact .gather hst hp hb ‹_›
  | start _ hc => exact .inr ⟨_, hg.written hf.tidy hs (hw.proposes_of_start hc) now, .start hc⟩
  | tag hb ho => exact .inr ⟨_, hg.written hf.tidy hs (hw.proposes_of_tag ho) now, .tag hb ho⟩
  | speak _ _ hc | finish _ _ _ _ _ hc =>
    have hh := hg.written hf.tidy hs (hw.proposes_of_advance hc) now
    exact .inr ⟨_, { hh with }, .speak hc⟩
  | hint hb ha hp =>
    exact .inr ⟨_, hg.spent hs (Game.botOf?_eq_some hb).1 hp, .hint hb ha hp⟩
  | @delete context => exact .inl ⟨⟨context, rfl⟩, hg.gone_cleared hf.tidy⟩

theorem step_makes (h : w.store.Faithful) (hg : w.store.Holds i g) (now : Instant) (m : Move) :
    (Deletes m i ∧ (w.step now m).store.Gone i) ∨
      ∃ g', (w.step now m).store.Holds i g' ∧ m.Makes now g g' := by
  by_cases hm : m.game? = some i
  · obtain rfl := hg.id_eq
    exact (step_act h hg hm now).makes h hg
  · exact .inr ⟨g, (step_same h hg hm now).holds hg, .rest⟩

theorem run_runFrom (earlier later : List (Instant × Move)) :
    (run earlier).runFrom later = run (earlier ++ later) := (runFrom_append earlier later).symm

theorem run_induct {P : Game → Prop} (hopen : ∀ t : Scene, t.Opening → P t.game)
    (hmake : ∀ {now g m g'}, g.Seated → Move.Makes now g m g' → P g → P g')
    (moves : List (Instant × Move)) (hg : (run moves).store.Holds i g) : P g := by
  induction moves using List.reverseRecOn generalizing g with
  | nil =>
    obtain ⟨r, hr, -⟩ := hg.row
    cases hr
  | append_singleton moves m ih =>
    rw [run_concat] at hg
    have hf := run_faithful moves
    cases hr : (run moves).store.gameRow? i with
    | none =>
      rcases step_opened hf hr m.1 m.2 with hn | ⟨names, g', ho, rfl⟩
      · obtain ⟨r, hr', -⟩ := hg.row
        simp [hn] at hr'
      · obtain ⟨-, -, hg', hopening, -⟩ := Play.openNamed_opens hf.tidy ho
        obtain rfl := hg.unique hg'
        exact hopen _ hopening
    | some r =>
      obtain ⟨g', hg', hreached⟩ := run_reached hr
      rcases step_makes hf hg' m.1 m.2 with ⟨-, hgone⟩ | ⟨g'', hg'', hmakes⟩
      · obtain ⟨r', hr', -⟩ := hg.row
        simp [hgone.row] at hr'
      · obtain rfl := hg.unique hg''
        exact hmake hreached.sound.1 hmakes (ih hg')

end World

end ImitationGame
