import ImitationGame.Proofs.Scene.Tally
import ImitationGame.Proofs.World.Change

namespace ImitationGame

variable {s : Store} {w : World} {i player : Int} {g g' : Game} {now : Instant} {m : Move}
variable {given : Int → List Hint}

def Move.hint? (s : Store) (game player : Int) : Move → Option Hint
  | .hint g p reply =>
    if g = game ∧ p = player then (Play.hint g p reply s).toOption.map Prod.fst else none
  | _ => none

namespace World

def hintsFrom (w : World) (game player : Int) : List (Instant × Move) → List Hint
  | [] => []
  | m :: moves =>
    (m.2.hint? w.store game player).toList ++ (w.step m.1 m.2).hintsFrom game player moves

def hints (moves : List (Instant × Move)) (game player : Int) : List Hint :=
  fresh.hintsFrom game player moves

theorem hintsFrom_concat (moves : List (Instant × Move)) (m : Instant × Move) :
    w.hintsFrom i player (moves ++ [m]) = w.hintsFrom i player moves ++
      (m.2.hint? (w.runFrom moves).store i player).toList := by
  induction moves generalizing w with
  | nil => simp [hintsFrom, runFrom]
  | cons x xs ih => rw [List.cons_append, hintsFrom, hintsFrom, ih, List.append_assoc, runFrom_cons]

theorem hints_concat (moves : List (Instant × Move)) (m : Instant × Move) :
    hints (moves ++ [m]) i player = hints moves i player ++
      (m.2.hint? (run moves).store i player).toList := hintsFrom_concat moves m

end World

theorem Move.hint?_eq_none (hm : ∀ p reply, m ≠ .hint i p reply) : m.hint? s i player = none := by
  cases m with
  | hint game p reply => exact if_neg fun h => hm p reply (by rw [h.1])
  | register | openNamed | openGame | join | accuse | send | begin | finish | abandon => rfl

theorem Move.hint?_of_error {f : Fault} {p : Int} {reply : Reply}
    (hf : Play.hint i p reply s = .error f) : (Move.hint i p reply).hint? s i player = none := by
  rw [hint?, hf]
  exact ite_self none

theorem Move.hint?_of_absent (hr : s.gameRow? i = none) : m.hint? s i player = none := by
  by_cases hm : ∃ p reply, m = .hint i p reply
  · obtain ⟨p, reply, rfl⟩ := hm
    have hl := Store.load_eq_error hr
    exact hint?_of_error (by rw [Play.hint, Play.requestHint, hl]; rfl)
  · exact hint?_eq_none fun p reply he => hm ⟨p, reply, he⟩

theorem countdown_concat {l : List Int} {n : Int} (h : l <+: [2, 1, 0]) (hn : n = 2 - l.length)
    (hp : 0 ≤ n) : l ++ [n] <+: [2, 1, 0] := by
  rw [List.prefix_iff_eq_take] at h
  obtain hk | hk | hk : l.length = 0 ∨ l.length = 1 ∨ l.length = 2 := by omega
  all_goals
    rw [hk] at h hn
    subst h hn
    decide

theorem Move.Makes.tallied {given : Int → Nat} (h : m.Makes now g g') (hs : g.Seated)
    (ht : g.Tallied given) (hm : ∀ p reply, m ≠ .hint g.id p reply) : g'.Tallied given := by
  cases h with
  | rest => exact ht
  | join _ hp hb =>
    obtain ⟨hmem, hd⟩ := Game.firstAi?_mem hb
    exact ht.claim hs hp hmem hd
  | gather _ hp hb =>
    obtain ⟨hmem, hd⟩ := Game.firstAi?_mem hb
    have hc := ht.claim hs hp hmem hd
    exact ⟨hc.left, hc.strangers⟩
  | start | tag | speak => exact ⟨ht.left, ht.strangers⟩
  | hint => exact absurd rfl (hm _ _)

namespace Store

structure Tallies (s : Store) (i : Int) (given : Int → List Hint) : Prop where
  counted : ∀ p, (given p).map Hint.remaining <+: [2, 1, 0]
  absent : s.gameRow? i = none → s.Gone i ∨ ∀ p, given p = []
  tallied : ∀ g, s.Holds i g → g.Tallied fun p => (given p).length

theorem Tallies.empty (i : Int) : Store.empty.Tallies i fun _ => [] where
  counted _ := List.nil_prefix
  absent _ := .inr fun _ => rfl
  tallied g hg := by
    obtain ⟨r, hr, -⟩ := hg.row
    cases hr

end Store

theorem Store.Holds.row_ne_none (h : s.Holds i g) : s.gameRow? i ≠ none := by
  obtain ⟨r, hr, -⟩ := h.row
  simp [hr]

namespace World

open Store

theorem hint_tallies {reply : Reply} (h : w.store.Faithful) (hg : w.store.Holds i g)
    (ha : w.store.Tallies i given) :
    (w.step now (.hint i player reply)).store.Tallies i fun p =>
      given p ++ ((Move.hint i player reply).hint? w.store i p).toList := by
  obtain ⟨hs, -⟩ := (h.of_load hg.load).2.sound
  cases hh : Play.hint i player reply w.store with
  | error f =>
    simp only [Move.hint?_of_error hh, Option.toList_none, List.append_nil, step, transact, after,
      hh]
    exact ha
  | ok x =>
    obtain ⟨a, s'⟩ := x
    obtain ⟨b, hb, hd, hp, rfl, rfl⟩ := (Play.hint_eq_ok_iff hg h.tidy).mp hh
    obtain ⟨hm, hpl⟩ := Game.botOf?_eq_some hb
    have ht := ha.tallied g hg
    -- The number told comes from the bot that was loaded, which the tally accounts for.
    have hleft : b.help = 3 - (given player).length := ht.owned hm hpl
    have hg' : (w.store.spent b.id).Holds i (g.spend b.id) := hg.spent hs hm hp
    simp only [step, transact, after, hh, Move.hint?, true_and]
    refine ⟨fun p => ?_, fun hn => ?_, fun g' hh' => ?_⟩
    · by_cases he : player = p
      · subst he
        simp only [if_pos, Except.toOption, Option.map_some, Option.toList_some, List.map_append,
          List.map_singleton]
        refine countdown_concat (ha.counted player) ?_ (by omega)
        rw [List.length_map]
        omega
      · simpa [he] using ha.counted p
    · obtain ⟨r, hr, -⟩ := hg'.row
      simp [hn] at hr
    · obtain rfl := hh'.unique hg'
      refine ht.spend hs hb ?_ fun p hne => ?_
      · simp [Except.toOption]
      · simp [hne.symm]

theorem step_tallies (h : w.store.Faithful) (ha : w.store.Tallies i given) (now : Instant)
    (m : Move) : (w.step now m).store.Tallies i fun p =>
      given p ++ (m.hint? w.store i p).toList := by
  cases hr : w.store.gameRow? i with
  | none =>
    simp only [Move.hint?_of_absent hr, Option.toList_none, List.append_nil]
    rcases step_opened h hr now m with hr' | ⟨names, g, ho, rfl⟩
    · exact ⟨ha.counted, fun _ => (ha.absent hr).imp_left fun hgone => step_gone h hgone now m,
        fun g hg => absurd hr' hg.row_ne_none⟩
    · obtain ⟨-, -, hg, hopening, -⟩ := Play.openNamed_opens h.tidy ho
      -- Nobody was given a hint, for the game has not been there before.
      have hnil := (ha.absent hr).resolve_left fun hgone =>
        hg.row_ne_none (step_gone h hgone now m).row
      refine ⟨ha.counted, fun hr' => absurd hr' hg.row_ne_none, fun g' hg' => ?_⟩
      obtain rfl := hg'.unique hg
      exact hopening.tallied fun p => by rw [hnil, List.length_nil]
  | some r =>
    obtain ⟨g, hg, hreached⟩ := h.reached i (by rw [hr, Option.isSome_some])
    by_cases hm : ∃ q reply, m = .hint i q reply
    · obtain ⟨q, reply, rfl⟩ := hm
      exact hint_tallies h hg ha
    · have hm' : ∀ q reply, m ≠ .hint i q reply := fun q reply he => hm ⟨q, reply, he⟩
      simp only [Move.hint?_eq_none hm', Option.toList_none, List.append_nil]
      rcases step_makes h hg now m with ⟨-, hgone⟩ | ⟨g', hg', hmakes⟩
      · exact ⟨ha.counted, fun _ => .inl hgone, fun g' hg' => absurd hgone.row hg'.row_ne_none⟩
      · refine ⟨ha.counted, fun hr' => absurd hr' hg'.row_ne_none, fun g'' hg'' => ?_⟩
        obtain rfl := hg''.unique hg'
        exact hmakes.tallied hreached.sound.1 (ha.tallied g hg) (hg.id_eq ▸ hm')

theorem run_tallies (moves : List (Instant × Move)) (i : Int) :
    (run moves).store.Tallies i (hints moves i) := by
  induction moves using List.reverseRecOn with
  | nil => exact .empty i
  | append_singleton moves m ih =>
    have hh : hints (moves ++ [m]) i =
        fun p => hints moves i p ++ (m.2.hint? (run moves).store i p).toList :=
      funext fun _ => hints_concat moves m
    rw [run_concat, hh]
    exact step_tallies (run_faithful moves) ih m.1 m.2

/-- Hints are counted exactly. Each stored bot has as many left of three as its player was not given
in its game; a player is given them with 2, 1 and 0 remaining in this order; a player who is due
gets the next one, whatever the generator replies, until all are given and none is given any more;
and a hint goes to the bot awaited, is of the kind awaited, and changes nothing but what that bot
has left. -/
theorem run_hints (moves : List (Instant × Move)) :
    (∀ r ∈ (run moves).store.bots.rows, ∃ g b, (run moves).store.load r.game = .ok g ∧
      b ∈ g.bots ∧ r.Holds b ∧
        b.help = 3 - b.player.elim 0 (fun p => (hints moves r.game p).length) ∧
          (0 ≤ b.help ∧ b.help ≤ 3) ∧ (b.driver = .ai → b.help = 3)) ∧
    (∀ game p, (hints moves game p).map Hint.remaining <+: [2, 1, 0]) ∧
    (∀ game p g b, (run moves).store.load game = .ok g → g.botOf? p = some b →
      g.acting = .ok (some b.id) → ∀ reply,
        if (hints moves game p).length = 3 then
          ∃ f, Play.hint game p reply (run moves).store = .error f ∧
            f.error.kind = .conflict .helpExhausted
        else ∃ a s', Play.hint game p reply (run moves).store = .ok (a, s')) ∧
    ∀ game p reply a s', Play.hint game p reply (run moves).store = .ok (a, s') →
      ∃ g b, (run moves).store.load game = .ok g ∧ g.botOf? p = some b ∧
        g.acting = .ok (some b.id) ∧ (a.kind = .answer ↔ g.stage.awaitsAnswer = true) ∧
          a.remaining = b.help - 1 ∧ s' = (run moves).store.withHelp b.id (b.help - 1) := by
  have hf := run_faithful moves
  have hlen : ∀ game p, (hints moves game p).length ≤ 3 := fun game p => by
    simpa using ((run_tallies moves game).counted p).length_le
  refine ⟨fun r hr => ?_, fun game => (run_tallies moves game).counted, ?_, ?_⟩
  · obtain ⟨x, hx, hxi⟩ := hf.tidy.seated r hr
    obtain ⟨g, hg, hreached⟩ := hf.reached r.game (Store.gameRow?_isSome.mpr ⟨x, hx, hxi⟩)
    obtain ⟨b, hb, hrb⟩ := hg.exists_bot hr rfl
    have ht := (run_tallies moves r.game).tallied g hg
    exact ⟨g, b, hg.load, hb, hrb, ht.left b hb,
      ht.help_bounds (fun p => Int.ofNat_le.mpr (hlen r.game p)) hb, ht.idle hreached.sound.1 hb⟩
  · intro game p g b hl hb hd reply
    obtain ⟨hg, -⟩ := hf.of_load hl
    have hleft : b.help = 3 - (hints moves game p).length :=
      ((run_tallies moves game).tallied g hg).owned (Game.botOf?_eq_some hb).1
        (Game.botOf?_eq_some hb).2
    split
    · exact ⟨_, Play.hint_exhausted hg hb hd (by omega), rfl⟩
    · have := hlen game p
      exact ⟨_, _, (Play.hint_eq_ok_iff hg hf.tidy).mpr ⟨b, hb, hd, by omega, rfl, rfl⟩⟩
  · intro game p reply a s' ha
    obtain ⟨g, hl⟩ := Play.exists_load_of_hint ha
    obtain ⟨hg, -⟩ := hf.of_load hl
    obtain ⟨b, hb, hd, hh, rfl, rfl⟩ := (Play.hint_eq_ok_iff hg hf.tidy).mp ha
    exact ⟨g, b, hl, hb, hd, Game.helpKind_eq_answer_iff, rfl,
      hg.spent_eq hf.tidy (Game.botOf?_eq_some hb).1 hh⟩

def sampleHints : List (Instant × Move) :=
  sample.take 6 ++ [(6, .hint 1 1 (.ok "Why?")), (7, .hint 1 1 (.error .timeout)),
    (8, .hint 1 1 (.ok ""))]

theorem sample_hints : (hints sampleHints 1 1).map Hint.remaining = [2, 1, 0] ∧
    ∃ f, Play.hint 1 1 (.ok "Who?") (run sampleHints).store = .error f ∧
      f.error.kind = .conflict .helpExhausted := by
  have hh : (hints sampleHints 1 1).map Hint.remaining = [2, 1, 0] := by decide +kernel
  have hd : (match (run sampleHints).store.load 1 with
      | .ok g => (g.botOf? 1).map fun b => decide (g.acting = .ok (some b.id))
      | .error _ => none) = some true := by decide +kernel
  have hl : (hints sampleHints 1 1).length = 3 := by simpa using congrArg List.length hh
  refine ⟨hh, ?_⟩
  cases hg : (run sampleHints).store.load 1 with
  | error f => simp [hg] at hd
  | ok g =>
    simp only [hg, Option.map_eq_some_iff, decide_eq_true_eq] at hd
    obtain ⟨b, hb, ha⟩ := hd
    have h := (run_hints sampleHints).2.2.1 1 1 g b hg hb ha (.ok "Who?")
    rwa [if_pos hl] at h

end World

end ImitationGame
