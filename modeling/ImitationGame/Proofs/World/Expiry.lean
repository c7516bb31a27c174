import ImitationGame.Proofs.Store.Assembly
import ImitationGame.Proofs.World.Dates

namespace ImitationGame

variable {s s' : Store} {i : Int} {now opened changed : Instant} {moves : List (Instant × Move)}

theorem Instant.before_eq_ok {t : Instant} {span : Int} :
    now.before span = .ok t ↔
      (now - seconds span).isOnCalendar = true ∧ t = now - seconds span := by
  rw [before, onCalendar]
  split
  · rename_i h
    simp [h, @eq_comm _ t]
  · rename_i h
    simp [h]

theorem GameRow.createdAt_of_read {r : GameRow} {record : GameRecord} (h : r.read = .ok record) :
    r.createdAt.read = .ok record.createdAt ∧ r.updatedAt.read = .ok record.updatedAt := by
  simp only [GameRow.read, bind_eq_ok, pure_eq_ok, Except.ok.injEq] at h
  obtain ⟨_, -, _, -, _, -, _, -, _, -, _, -, _, -, _, -, c, hc, u, hu, rfl⟩ := h
  exact ⟨hc, hu⟩

namespace Play

theorem deleteExpired_due {expiry : Expiry} {x : Unit}
    (h : deleteExpired now expiry i s = .ok (x, s')) : ∃ r c u, s.gameRow? i = some r ∧
      (r.createdAt.read = .ok c ∧ c.instant ≤ now - .seconds expiry.maxAge) ∧
      r.updatedAt.read = .ok u ∧ u.instant ≤ now - .seconds expiry.idleGrace := by
  simp only [deleteExpired, throw_eq_error, error_bind, bind_eq_ok, ite_error_eq_ok, Int.not_lt,
    Instant.before_eq_ok] at h
  obtain ⟨d, hd, _, ⟨-, rfl⟩, hage, _, ⟨-, rfl⟩, hidle, -⟩ := h
  obtain ⟨r, hr, hread⟩ := Store.of_loadDated hd
  obtain ⟨hc, hu⟩ := GameRow.createdAt_of_read hread
  exact ⟨r, _, _, hr, ⟨hc, hage⟩, hu, hidle⟩

end Play

theorem Store.Dated.le_of_deleteExpired {expiry : Expiry} {x : Unit}
    (hd : s.Dated i opened changed) (h : Play.deleteExpired now expiry i s = .ok (x, s')) :
    opened ≤ now - .seconds expiry.maxAge ∧ changed ≤ now - .seconds expiry.idleGrace := by
  obtain ⟨r, c, u, hr, ⟨hc, hage⟩, hu, hidle⟩ := Play.deleteExpired_due h
  obtain ⟨r', hr', ho, hch⟩ := hd
  obtain rfl := Option.some.inj (hr.symm.trans hr')
  rw [ho, Timestamp.read_instant] at hc
  rw [hch, Timestamp.read_instant] at hu
  obtain rfl := Except.ok.inj hc
  obtain rfl := Except.ok.inj hu
  exact ⟨hage, hidle⟩

theorem Job.run_deleteExpired {c : JobContext} {reply : Reply} {o : JobOutcome}
    (h : run c now reply ⟨.deleteExpired, i⟩ s = .ok (o, s')) :
    o = .deleted ∧ Play.deleteExpired now c.expiry i s = .ok ((), s') := by
  simp only [run, start, bind_eq_ok, pure_eq_ok, Except.ok.injEq] at h
  obtain ⟨_, ⟨⟨_, t⟩, ht, rfl⟩, hr⟩ := h
  obtain ⟨rfl, rfl⟩ := Prod.mk.inj (Except.ok.inj hr)
  exact ⟨rfl, ht⟩

namespace World

variable {earlier later : List (Instant × Move)} {m : Instant × Move}

theorem run_append_cons (earlier later : List (Instant × Move)) (m : Instant × Move) :
    run (earlier ++ m :: later) = (run (earlier ++ [m])).runFrom later := by
  rw [run, run, ← runFrom_append, List.append_assoc]
  rfl

theorem run_concat (earlier : List (Instant × Move)) (m : Instant × Move) :
    run (earlier ++ [m]) = (run earlier).step m.1 m.2 := runFrom_concat earlier m

theorem run_row_dated (hs : ((run (earlier ++ m :: later)).store.gameRow? i).isSome = true)
    (hc : ¬Store.Same i (run earlier).store (run (earlier ++ [m])).store) :
    m.2.SparesRow i (run (earlier ++ [m])).store ∨
      ∃ opened, (run (earlier ++ [m])).store.Dated i opened m.1 := by
  have hf := run_faithful earlier
  rw [run_concat] at hc ⊢
  cases hr : (run earlier).store.gameRow? i with
  | none =>
    rcases step_opens hf hr m.1 m.2 with hn | hd
    · exact absurd (hf.tidy.same_of_absent (step_faithful hf m.1 m.2).tidy hr hn) hc
    · exact .inr ⟨m.1, hd⟩
  | some r =>
    obtain ⟨opened, changed, hd⟩ := run_dated (i := i) earlier (by rw [hr, Option.isSome_some])
    rcases step_dated hf hd m.1 m.2 with hg | hd' | ⟨-, hsame | hsp⟩
    · rw [run_append_cons, run_concat, (runFrom_gone (step_faithful hf m.1 m.2) hg later).row] at hs
      cases hs
    · exact .inr ⟨opened, hd'⟩
    · exact absurd hsame hc
    · exact .inl hsp

/-- When a game is deleted for its age, it was opened early enough, and of the moves that changed it
all were made early enough but those that write bots only. -/
theorem run_expired (moves : List (Instant × Move)) (i : Int) (c : JobContext) (now : Instant)
    (reply : Reply) (o : JobOutcome) (s : Store)
    (hm : moves.Pairwise fun a b => a.1 ≤ b.1)
    (hd : Job.run c now reply ⟨.deleteExpired, i⟩ (run moves).store = .ok (o, s)) :
    (∃ earlier m later, moves = earlier ++ m :: later ∧
      (run earlier).store.gameRow? i = none ∧
      ((run (earlier ++ [m])).store.gameRow? i).isSome = true ∧
      m.1 ≤ now - .seconds c.expiry.maxAge) ∧
    ∀ earlier m later, moves = earlier ++ m :: later →
      ¬Store.Same i (run earlier).store (run (earlier ++ [m])).store →
      m.2.SparesRow i (run (earlier ++ [m])).store ∨ m.1 ≤ now - .seconds c.expiry.idleGrace := by
  obtain ⟨-, hdel⟩ := Job.run_deleteExpired hd
  have hs : ((run moves).store.gameRow? i).isSome = true := by
    obtain ⟨r, -, -, hr, -⟩ := Play.deleteExpired_due hdel
    rw [hr, Option.isSome_some]
  constructor
  · obtain ⟨earlier, m, later, rfl, hn, ho⟩ := run_opened moves hs
    refine ⟨earlier, m, later, rfl, hn, ho.isSome, ?_⟩
    rw [run_append_cons] at hs hdel
    rcases runFrom_dated (T := fun _ => True) later (run_faithful _) ho trivial
      (fun _ _ => trivial) with ⟨t, -, ht⟩ | hg
    · exact (ht.le_of_deleteExpired hdel).1
    · rw [hg.row] at hs
      cases hs
  · rintro earlier m later rfl hc
    refine (run_row_dated hs hc).imp_right fun ⟨opened, hd⟩ => ?_
    -- From here on the row bears a time that is no earlier than this move.
    have hlater : ∀ x ∈ later, m.1 ≤ x.1 :=
      (List.pairwise_cons.mp (List.pairwise_append.mp hm).2.1).1
    rw [run_append_cons] at hs hdel
    rcases runFrom_dated (T := (m.1 ≤ ·)) later (run_faithful _) hd (Int.le_refl _) hlater with
      ⟨t, hle, ht⟩ | hg
    · exact Int.le_trans hle (ht.le_of_deleteExpired hdel).2
    · rw [hg.row] at hs
      cases hs

def sampleContext : JobContext := ⟨.fixed 7, ⟨3600, 60⟩⟩

theorem sample_expired : ∃ s, Job.run sampleContext (.seconds 4001) (.ok "") ⟨.deleteExpired, 1⟩
    (run sample).store = .ok (.deleted, s) ∧ (6 : Instant) ≤ .seconds 4001 - .seconds 60 := by
  obtain ⟨⟨o, s⟩, hd⟩ : ∃ x, Job.run sampleContext (.seconds 4001) (.ok "") ⟨.deleteExpired, 1⟩
      (run sample).store = .ok x := exists_of_isOk (by decide +kernel)
  have hc : (run (sample.take 6 ++ [(6, .send 1 1 "Who?" none)])).store.conversation 1 ≠
      (run (sample.take 6)).store.conversation 1 := by decide +kernel
  obtain ⟨-, hm⟩ := run_expired sample 1 sampleContext (.seconds 4001) (.ok "") o s
    (by decide) hd
  obtain ⟨rfl, -⟩ := Job.run_deleteExpired hd
  exact ⟨s, hd, (hm (sample.take 6) _ [] rfl fun hs => hc hs.log).resolve_left id⟩

def sampleIdle : List (Instant × Move) :=
  [(0, .register "Ann"), (0, .openNamed ["Ada", "Bob", "Cy"]), (.seconds 4000, .join 1 1)]

theorem run_expired_active : ¬∀ (moves : List (Instant × Move)) (i : Int) (c : JobContext)
    (now : Instant) (reply : Reply) (o : JobOutcome) (s : Store),
    (moves.Pairwise fun a b => a.1 ≤ b.1) → (∀ m ∈ moves, m.1 ≤ now) → 0 < c.expiry.idleGrace →
    Job.run c now reply ⟨.deleteExpired, i⟩ (run moves).store = .ok (o, s) →
    ∀ earlier m later, moves = earlier ++ m :: later →
      ¬Store.Same i (run earlier).store (run (earlier ++ [m])).store →
      m.1 ≤ now - .seconds c.expiry.idleGrace := by
  intro h
  obtain ⟨⟨o, s⟩, hd⟩ : ∃ x, Job.run sampleContext (.seconds 4001) (.ok "") ⟨.deleteExpired, 1⟩
      (run sampleIdle).store = .ok x := exists_of_isOk (by decide +kernel)
  have hc : (run sampleIdle).store.botRows 1 ≠ (run (sampleIdle.take 2)).store.botRows 1 := by
    decide +kernel
  have hle := h sampleIdle 1 sampleContext (.seconds 4001) (.ok "") o s (by decide) (by decide)
    (by decide) hd (sampleIdle.take 2) _ [] rfl fun hs => hc hs.bots
  exact absurd hle (by decide)

end World

end ImitationGame
