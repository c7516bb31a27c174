import ImitationGame.Proofs.World.Lifetime

namespace ImitationGame

variable {s s' : Store} {w : World} {i : Int} {g : Game} {c : Change} {m : Move}
variable {now opened changed : Instant} {moves : List (Instant × Move)}

/-- Moves that write bots only: a hint, and a join that leaves the game to gather players. The
store is the one that they lead to. -/
def Move.SparesRow (game : Int) (s : Store) : Move → Prop
  | .hint i _ _ => i = game
  | .join i _ => i = game ∧ ∃ g, s.load game = .ok g ∧ g.stage = .started
  | _ => False

namespace Store

def Dated (s : Store) (i : Int) (opened changed : Instant) : Prop :=
  ∃ r, s.gameRow? i = some r ∧ r.createdAt = .instant opened ∧ r.updatedAt = .instant changed

theorem Dated.of_row (h : s.Dated i opened changed) (hr : s'.gameRow? i = s.gameRow? i) :
    s'.Dated i opened changed := by
  obtain ⟨r, hs, hd⟩ := h
  exact ⟨r, hr.trans hs, hd⟩

theorem Dated.isSome (h : s.Dated i opened changed) : (s.gameRow? i).isSome = true := by
  obtain ⟨r, hr, -⟩ := h
  rw [hr, Option.isSome_some]

theorem Dated.written (h : s.Dated i opened changed) (hg : s.Holds i g) (hc : g.Proposes c)
    (now : Instant) : (s.written now i c).Dated i opened now := by
  obtain ⟨r, hr, ho, -⟩ := h
  obtain ⟨r', hr', hrg⟩ := hg.row
  obtain rfl := Option.some.inj (hr.symm.trans hr')
  have he : r.expects i c = true := hg.id_eq ▸ hrg.expects hc
  refine ⟨r.write now c, ?_, ho, rfl⟩
  rw [gameRow?_written, hr, Option.map_some, if_pos he]

theorem Tidy.botRows_of_absent (h : s.Tidy) (hn : s.gameRow? i = none) : s.botRows i = [] := by
  rw [List.eq_nil_iff_forall_not_mem]
  intro b hb
  obtain ⟨hm, rfl⟩ := mem_botRows.mp hb
  have hs := gameRow?_isSome.mpr (h.seated b hm)
  rw [hn] at hs
  cases hs

theorem Tidy.conversation_of_absent (h : s.Tidy) (hn : s.gameRow? i = none) :
    s.conversation i = [] := by
  rw [List.eq_nil_iff_forall_not_mem]
  intro m hm
  obtain ⟨hm, hi⟩ := List.mem_filter.mp hm
  obtain ⟨-, ⟨b, hb, -, hbg⟩, -⟩ := h.spoken m hm
  have hb' : b ∈ s.botRows i := mem_botRows.mpr ⟨hb, hbg.trans (beq_iff_eq.mp hi)⟩
  simp [h.botRows_of_absent hn] at hb'

theorem Tidy.same_of_absent (h : s.Tidy) (h' : s'.Tidy) (hn : s.gameRow? i = none)
    (hn' : s'.gameRow? i = none) : Same i s s' where
  row := hn'.trans hn.symm
  bots := (h'.botRows_of_absent hn').trans (h.botRows_of_absent hn).symm
  log := (h'.conversation_of_absent hn').trans (h.conversation_of_absent hn).symm

end Store

namespace World

theorem Act.dated {s : Store} (h : w.Act now g m s) (hf : w.store.Faithful)
    (hg : w.store.Holds g.id g) (hd : w.store.Dated g.id opened changed) :
    s.Gone g.id ∨ s.Dated g.id opened now ∨ s.gameRow? g.id = w.store.gameRow? g.id ∧
      (Store.Same g.id w.store s ∨ m.SparesRow g.id s) := by
  obtain ⟨hs, -⟩ := (hf.of_load hg.load).2.sound
  have hw := hs.wellFormed
  cases h with
  | rest => exact .inr (.inr ⟨rfl, .inl (.refl _ _)⟩)
  | @join player b hst hp hb =>
    obtain ⟨hm, ha⟩ := Game.firstAi?_mem hb
    have hcl := hg.claimed hs hm ha player
    rw [Store.joined]
    cases hq : (g.claim b.id player).quorum with
    | none => exact .inr (.inr ⟨rfl, .inr ⟨rfl, _, hcl.load, hst⟩⟩)
    | some c =>
      have hc := (hs.claim (i := b.id) hp).wellFormed.proposes_of_quorum hq
      have hd' : (w.store.claimed b.id player).Dated g.id opened changed := hd.of_row rfl
      exact .inr (.inl (hd'.written hcl hc now))
  | start _ hc => exact .inr (.inl (hd.written hg (hw.proposes_of_start hc) now))
  | tag _ ho => exact .inr (.inl (hd.written hg (hw.proposes_of_tag ho) now))
  | speak _ _ hc | finish _ _ _ _ _ hc =>
    exact .inr (.inl ((hd.written hg (hw.proposes_of_advance hc) now).of_row rfl))
  | hint => exact .inr (.inr ⟨rfl, .inr rfl⟩)
  | delete => exact .inl (hg.gone_cleared hf.tidy)

theorem step_dated (h : w.store.Faithful) (hd : w.store.Dated i opened changed) (now : Instant)
    (m : Move) : (w.step now m).store.Gone i ∨ (w.step now m).store.Dated i opened now ∨
      (w.step now m).store.gameRow? i = w.store.gameRow? i ∧
        (Store.Same i w.store (w.step now m).store ∨ m.SparesRow i (w.step now m).store) := by
  obtain ⟨g, hg, -⟩ := h.reached i hd.isSome
  by_cases hm : m.game? = some i
  · have ha := step_act h hg hm now
    obtain rfl := hg.id_eq
    exact ha.dated h hg hd
  · have hs := step_same h hg hm now
    exact .inr (.inr ⟨hs.row, .inl hs⟩)

theorem step_opens (h : w.store.Faithful) (hn : w.store.gameRow? i = none) (now : Instant)
    (m : Move) : (w.step now m).store.gameRow? i = none ∨
      (w.step now m).store.Dated i now now := by
  refine (step_opened h hn now m).imp_right ?_
  rintro ⟨names, g, ho, rfl⟩
  obtain ⟨-, rows, bots, last, -, -, hs, -⟩ := Play.openNamed_eq_ok ho
  obtain ⟨-, -, -, -, hi, -⟩ := Play.openNamed_opens h.tidy ho
  rw [hs, hi]
  exact ⟨_, Play.gameRow?_withGame, rfl, rfl⟩

theorem runFrom_dated {T : Instant → Prop} (moves : List (Instant × Move))
    (h : w.store.Faithful) (hd : w.store.Dated i opened changed) (hc : T changed)
    (hm : ∀ m ∈ moves, T m.1) :
    (∃ t, T t ∧ (w.runFrom moves).store.Dated i opened t) ∨ (w.runFrom moves).store.Gone i := by
  refine runFrom_keeps (P := fun s => ∃ t, T t ∧ s.Dated i opened t) moves h ⟨_, hc, hd⟩ ?_
  rintro earlier m hp ⟨t, ht, hd'⟩
  rcases step_dated (runFrom_faithful h earlier) hd' m.1 m.2 with hg | hn | ⟨hr, -⟩
  · exact .inr hg
  · exact .inl ⟨m.1, hm m (hp.subset (by simp)), hn⟩
  · exact .inl ⟨t, ht, hd'.of_row hr⟩

theorem run_opened (moves : List (Instant × Move))
    (hs : ((run moves).store.gameRow? i).isSome = true) :
    ∃ earlier m later, moves = earlier ++ m :: later ∧ (run earlier).store.gameRow? i = none ∧
      (run (earlier ++ [m])).store.Dated i m.1 m.1 := by
  induction moves using List.reverseRecOn with
  | nil => cases hs
  | append_singleton moves m ih =>
    cases hr : (run moves).store.gameRow? i with
    | some r =>
      obtain ⟨earlier, x, later, rfl, hn, hd⟩ := ih (by rw [hr, Option.isSome_some])
      exact ⟨earlier, x, later ++ [m], by simp, hn, hd⟩
    | none =>
      refine ⟨moves, m, [], rfl, hr, ?_⟩
      rw [run, runFrom_concat] at hs ⊢
      refine (step_opens (run_faithful moves) hr m.1 m.2).resolve_left fun hn => ?_
      rw [show (fresh.runFrom moves) = run moves from rfl, hn] at hs
      cases hs

theorem run_dated (moves : List (Instant × Move))
    (hs : ((run moves).store.gameRow? i).isSome = true) :
    ∃ opened changed, (run moves).store.Dated i opened changed := by
  obtain ⟨earlier, m, later, rfl, -, hd⟩ := run_opened moves hs
  have hr : run (earlier ++ m :: later) = (run (earlier ++ [m])).runFrom later := by
    rw [run, run, ← runFrom_append, List.append_assoc]
    rfl
  rw [hr] at hs ⊢
  rcases runFrom_dated (T := fun _ => True) later (run_faithful _) hd trivial
    (fun _ _ => trivial) with ⟨t, -, hd'⟩ | hg
  · exact ⟨m.1, t, hd'⟩
  · rw [hg.row] at hs
    cases hs

end World

end ImitationGame
