import ImitationGame.Proofs.Store.Same
import ImitationGame.Proofs.World.Act

/-! The life of a stored game: it is kept or changed from move to move, and once deleted it never
comes back. -/

namespace ImitationGame

variable {s : Store} {w : World} {i j : Int} {g : Game} {now : Instant} {m : Move}
variable {moves : List (Instant × Move)}

namespace Store

structure Gone (s : Store) (i : Int) : Prop where
  row : s.gameRow? i = none
  le_last : i ≤ s.games.last

theorem load_eq_error (h : s.gameRow? i = none) :
    s.load i = .error (.refused (.gameMissing i)) := by
  rw [load, h]

theorem loadDated_eq_error (h : s.gameRow? i = none) :
    s.loadDated i = .error (.refused (.gameMissing i)) := by
  rw [loadDated, h]

theorem Holds.le_last (h : s.Holds i g) (ht : s.Tidy) : i ≤ s.games.last := by
  obtain ⟨r, hr, -⟩ := h.row
  have hi : r.id = i := Table.id_of_row? (t := s.games) hr
  have hl : r.id ≤ s.games.last := ht.games.le_last r (Table.mem_of_row? (t := s.games) hr)
  exact hi ▸ hl

theorem Holds.gone_cleared (h : s.Holds i g) (ht : s.Tidy) : (s.cleared i).Gone i :=
  ⟨gameRow?_cleared, h.le_last ht⟩

theorem gameRow?_cleared_eq_none (h : s.gameRow? j = none) : (s.cleared i).gameRow? j = none := by
  rw [← Option.not_isSome_iff_eq_none, gameRow?_isSome] at h ⊢
  rintro ⟨r, hr, hj⟩
  exact h ⟨r, List.mem_of_mem_filter hr, hj⟩

end Store

namespace World

theorem Act.step {s : Store} (h : w.Act now g m s) (hf : w.store.Faithful)
    (hg : w.store.Holds g.id g) : s.Gone g.id ∨ Store.Same g.id w.store s ∨
      ∃ g', s.Holds g.id g' ∧
        Scene.Step ⟨g, w.store.conversation g.id⟩ ⟨g', s.conversation g.id⟩ := by
  obtain ⟨hs, -⟩ := (hf.of_load hg.load).2.sound
  have hw := hs.wellFormed
  cases h with
  | rest => exact .inr (.inl (.refl _ _))
  | @join player b hst hp hb =>
    refine .inr (.inr ⟨_, hg.joined hf.tidy hb hs hp now, ?_⟩)
    rw [Store.conversation_joined]
    exact .joined hst hp hb
  | start _ hc =>
    exact .inr (.inr ⟨_, hg.written hf.tidy hs (hw.proposes_of_start hc) now, .start hc⟩)
  | tag _ ho => exact .inr (.inr ⟨_, hg.written hf.tidy hs (hw.proposes_of_tag ho) now, .tag ho⟩)
  | speak _ _ hc | finish _ _ _ _ _ hc =>
    have hh := hg.written hf.tidy hs (hw.proposes_of_advance hc) now
    refine .inr (.inr ⟨_, { hh with }, ?_⟩)
    rw [Store.conversation_uttered]
    exact .speak hc MessageRow.said_of
  | hint hb ha hp =>
    obtain ⟨hm, -⟩ := Game.botOf?_eq_some hb
    exact .inr (.inr ⟨_, hg.spent hs hm hp, .hint hm ha hp⟩)
  | delete => exact .inl (hg.gone_cleared hf.tidy)

theorem Act.opens_none {s : Store} (h : w.Act now g m s) (hg : w.store.gameRow? i = none) :
    s.gameRow? i = none ∧ s.games.last = w.store.games.last := by
  have hw : ∀ (t : Store) c, t.gameRow? i = none → (t.written now g.id c).gameRow? i = none := by
    intro t c ht
    rw [Store.gameRow?_written, ht, Option.map_none]
  cases h with
  | rest => exact ⟨hg, rfl⟩
  | @join player b =>
    rw [Store.joined]
    split
    · exact ⟨hg, rfl⟩
    · exact ⟨hw (w.store.claimed b.id player) _ hg, rfl⟩
  | start | tag | speak | finish => exact ⟨hw w.store _ hg, rfl⟩
  | hint => exact ⟨hg, rfl⟩
  | delete => exact ⟨Store.gameRow?_cleared_eq_none hg, rfl⟩

theorem step_absent (hm : m.game? = some i) (hg : w.store.gameRow? i = none) (now : Instant) :
    (w.step now m).store = w.store := by
  have hl := Store.load_eq_error hg
  cases m with
  | register | openNamed | openGame => cases hm
  | join game player =>
    obtain rfl := Option.some.inj hm
    simp only [step, transact, Store.after, Play.join, hl, error_bind]
  | accuse game player accused =>
    obtain rfl := Option.some.inj hm
    simp only [step, transact, Store.after, Play.accuse, hl, error_bind]
  | send game player raw target =>
    obtain rfl := Option.some.inj hm
    cases ht : Text.acceptMessage raw with
    | error e => simp only [step, transact, Store.after, Play.send, ht, Refusal.lift, error_bind]
    | ok text =>
      simp only [step, transact, Store.after, Play.send, ht, Refusal.lift, ok_bind, Play.speak, hl,
        error_bind]
  | hint game player reply =>
    obtain rfl := Option.some.inj hm
    simp only [step, transact, Store.after, Play.hint, Play.requestHint, hl, error_bind]
  | begin context job =>
    obtain ⟨kind, game⟩ := job
    obtain rfl : game = i := Option.some.inj hm
    cases kind with
    | startAfterJoin =>
      simp only [step, begin, Job.start, Play.startTurns, hl, error_bind]
    | askAsAi =>
      simp only [step, begin, Job.start, Play.prepare, Play.prepareQuestion, hl, error_bind]
    | answerAsAi =>
      simp only [step, begin, Job.start, Play.prepare, Play.prepareAnswer, hl, error_bind]
    | deleteExpired =>
      simp only [step, begin, Job.start, Play.deleteExpired, Store.loadDated_eq_error hg, error_bind]
  | finish turn reply =>
    obtain rfl := Option.some.inj hm
    simp only [step, finish, Store.after, Play.commit, hl, error_bind]
    split <;> rfl
  | abandon turn => rfl

theorem step_opened (h : w.store.Faithful) (hn : w.store.gameRow? i = none) (now : Instant)
    (m : Move) : (w.step now m).store.gameRow? i = none ∨ ∃ names g,
      Play.openNamed now names w.store = .ok (g, (w.step now m).store) ∧ g.id = i := by
  have hopen : ∀ names, (w.transact (Play.openNamed now names)).store.gameRow? i = none ∨
      ∃ names' g, Play.openNamed now names' w.store =
        .ok (g, (w.transact (Play.openNamed now names)).store) ∧ g.id = i := by
    intro names
    rcases w.store.eq_or_eq_after (Play.openNamed now names) with he | ⟨g, s', ho, he⟩
    · exact .inl (by rw [transact, he, hn])
    · rw [transact, he]
      by_cases hi : i = g.id
      · exact .inr ⟨names, g, ho, hi.symm⟩
      · obtain ⟨-, ha, -⟩ := Play.openNamed_opens h.tidy ho
        exact .inl (by rw [ha.row i hi, hn])
  cases hm : m.game? with
  | none =>
    cases m with
    | register name =>
      left
      rcases w.store.eq_or_eq_after (Play.register now name) with he | ⟨p, s', hp, he⟩
      · simpa only [step, transact, he] using hn
      · obtain ⟨-, _, rfl⟩ := Play.register_eq_ok hp
        simp only [step, transact, he]
        exact hn
    | openNamed names => exact hopen names
    | openGame names => exact hopen _
    | join | accuse | send | hint | begin | finish | abandon => cases hm
  | some j =>
    left
    cases hj : w.store.gameRow? j with
    | none =>
      rw [step_absent hm hj]
      exact hn
    | some r =>
      obtain ⟨g, hg, -⟩ := h.reached j (by rw [hj, Option.isSome_some])
      exact ((step_act h hg hm now).opens_none hn).1

theorem openNamed_gone {names : List String} (h : w.store.Faithful) (hg : w.store.Gone i) :
    (w.transact (Play.openNamed now names)).store.Gone i := by
  rcases w.store.eq_or_eq_after (Play.openNamed now names) with he | ⟨g, s', ho, he⟩
  · rw [transact, he]
    exact hg
  · obtain ⟨ht, ha, hh, -, hn, -⟩ := Play.openNamed_opens h.tidy ho
    rw [h.tidy.games.nextId_eq] at hn
    have hl : g.id ≤ s'.games.last := hh.le_last ht
    have hi := hg.le_last
    have hi' : i ≤ s'.games.last := by omega
    rw [transact, he]
    refine ⟨?_, hi'⟩
    rw [ha.row i (by omega)]
    exact hg.row

theorem step_gone (h : w.store.Faithful) (hg : w.store.Gone i) (now : Instant) (m : Move) :
    (w.step now m).store.Gone i := by
  cases hm : m.game? with
  | none =>
    cases m with
    | register name =>
      rcases w.store.eq_or_eq_after (Play.register now name) with he | ⟨p, s', hp, he⟩
      · simpa only [step, transact, he] using hg
      · obtain ⟨-, _, rfl⟩ := Play.register_eq_ok hp
        simp only [step, transact, he]
        exact ⟨hg.row, hg.le_last⟩
    | openNamed names => exact openNamed_gone h hg
    | openGame names => exact openNamed_gone h hg
    | join | accuse | send | hint | begin | finish | abandon => cases hm
  | some j =>
    cases hj : w.store.gameRow? j with
    | none =>
      rw [step_absent hm hj]
      exact hg
    | some r =>
      obtain ⟨g, hh, -⟩ := h.reached j (by rw [hj, Option.isSome_some])
      obtain ⟨hr, hl⟩ := (step_act h hh hm now).opens_none hg.row
      exact ⟨hr, hl ▸ hg.le_last⟩

theorem runFrom_append (earlier later : List (Instant × Move)) :
    w.runFrom (earlier ++ later) = (w.runFrom earlier).runFrom later := by
  simp only [runFrom, List.foldl_append]

theorem runFrom_concat (earlier : List (Instant × Move)) (m : Instant × Move) :
    w.runFrom (earlier ++ [m]) = (w.runFrom earlier).step m.1 m.2 := runFrom_append earlier [m]

theorem runFrom_gone (h : w.store.Faithful) (hg : w.store.Gone i) (moves : List (Instant × Move)) :
    (w.runFrom moves).store.Gone i := by
  induction moves generalizing w with
  | nil => exact hg
  | cons m moves ih => exact ih (step_faithful h m.1 m.2) (step_gone h hg m.1 m.2)

theorem runFrom_keeps {P : Store → Prop} (moves : List (Instant × Move)) (h : w.store.Faithful)
    (hP : P w.store)
    (hs : ∀ earlier m, earlier ++ [m] <+: moves → P (w.runFrom earlier).store →
      P ((w.runFrom earlier).step m.1 m.2).store ∨
        ((w.runFrom earlier).step m.1 m.2).store.Gone i) :
    P (w.runFrom moves).store ∨ (w.runFrom moves).store.Gone i := by
  induction moves using List.reverseRecOn with
  | nil => exact .inl hP
  | append_singleton moves m ih =>
    have hp : moves <+: moves ++ [m] := List.prefix_append moves [m]
    rw [runFrom_concat]
    rcases ih fun earlier m he => hs earlier m (he.trans hp) with hk | hg
    · exact hs moves m (List.prefix_refl _) hk
    · exact .inr (step_gone (runFrom_faithful h moves) hg m.1 m.2)

theorem step_same (h : w.store.Faithful) (hg : w.store.Holds i g) (hm : m.game? ≠ some i)
    (now : Instant) : Store.Same i w.store (w.step now m).store := by
  obtain ⟨j, hc, hj⟩ := step_carries h now m i
  refine hc.apart.same ?_
  rintro rfl
  obtain ⟨r, hr, -⟩ := hg.row
  exact (hj rfl).elim hm fun hn => by simp [hn] at hr

end World

end ImitationGame
