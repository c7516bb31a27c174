import ImitationGame.Proofs.Game.Disguise
import ImitationGame.Proofs.Store.Shown

/-! Stores that look alike to a player: one game awaits a bot in both, and what drives the bots of
others may differ there. Reads and writes of the player fail alike in both. -/

namespace ImitationGame

variable {caller i j x : Int} {s s' : Store} {g g' : Game} {c c' : Change} {now : Instant}

structure BotRow.Veiled (caller : Int) (r r' : BotRow) : Prop where
  rest : r' = { r with driver := r'.driver, player := r'.player, help := r'.help }
  drivers : ∃ d d', r.driver = some d ∧ r'.driver = some d'
  players : r.player ≠ some caller ∧ r'.player ≠ some caller
  hints : ∃ n n', r.help.whole 32 = .ok n ∧ r'.help.whole 32 = .ok n'

structure GameRow.Veiled (r r' : GameRow) : Prop where
  rest : r' = { r with stage := r'.stage, handled := r'.handled }
  stages : ∃ d d' k, r.stage = some (.awaiting d k) ∧ r'.stage = some (.awaiting d' k)
  flags : ∃ b b', r.handled = .ofFlag b ∧ r'.handled = .ofFlag b'

def BotRow.Disguised (caller i : Int) (r r' : BotRow) : Prop :=
  r' = r ∨ (r.game = i ∧ r.Veiled caller r')

def GameRow.Disguised (i : Int) (r r' : GameRow) : Prop :=
  (r.id = i → r.Veiled r') ∧ (r.id ≠ i → r' = r)

namespace BotRow.Disguised

variable {r r' : BotRow} (h : r.Disguised caller i r')

include h

theorem eq_of_player (hp : r.player = some caller) : r' = r := by
  rcases h with h | ⟨-, hv⟩
  · exact h
  · exact absurd hp hv.players.1

theorem eq_of_game (hg : r.game ≠ i) : r' = r := by
  rcases h with h | ⟨hi, -⟩
  · exact h
  · exact absurd hi hg

theorem id_eq : r'.id = r.id := by
  rcases h with rfl | ⟨-, hv⟩
  · rfl
  · rw [hv.rest]

theorem game_eq : r'.game = r.game := by
  rcases h with rfl | ⟨-, hv⟩
  · rfl
  · rw [hv.rest]

theorem seat_eq : r'.seat = r.seat := by
  rcases h with rfl | ⟨-, hv⟩
  · rfl
  · rw [hv.rest]

end BotRow.Disguised

theorem GameRow.Disguised.id_eq {r r' : GameRow} (h : r.Disguised i r') : r'.id = r.id := by
  by_cases hi : r.id = i
  · rw [(h.1 hi).rest]
  · rw [h.2 hi]

def BotRecord.Alike (caller : Int) (a a' : BotRecord) : Prop :=
  a' = a ∨ (a' = { a with driver := a'.driver, player := a'.player, help := a'.help } ∧
    a.player ≠ some caller ∧ a'.player ≠ some caller)

structure GameRecord.Alike (a a' : GameRecord) : Prop where
  rest : a' = { a with stage := a'.stage, handled := a'.handled }
  stages : ∃ d d' k, a.stage = .awaiting d k ∧ a'.stage = .awaiting d' k

theorem BotRow.Disguised.read {r r' : BotRow} (h : r.Disguised caller i r') :
    Agree (BotRecord.Alike caller) r.read r'.read := by
  rcases h with rfl | ⟨-, hv⟩
  · exact (Agree.of_eq rfl).mono fun _ _ he => .inl he.symm
  · obtain ⟨d, d', hd, hd'⟩ := hv.drivers
    obtain ⟨n, n', hn, hn'⟩ := hv.hints
    have hs : r'.seat = r.seat := by rw [hv.rest]
    have hc : r'.createdAt = r.createdAt := by rw [hv.rest]
    have hi : r'.id = r.id ∧ r'.name = r.name := by
      rw [hv.rest]
      exact ⟨rfl, rfl⟩
    simp only [BotRow.read, hd, hd', hn, hn', hs, hc, Fault.require, ok_bind]
    refine .after fun seat _ => .after fun t _ => .ok (.inr ⟨?_, hv.players⟩)
    rw [hi.1, hi.2]

theorem GameRow.Veiled.read {r r' : GameRow} (h : r.Veiled r') :
    Agree GameRecord.Alike r.read r'.read := by
  obtain ⟨hr, ⟨d, d', k, hs, hs'⟩, ⟨b, b', hb, hb'⟩⟩ := h
  rw [hs', hb'] at hr
  subst hr
  simp only [GameRow.read, hs, hb, Fault.require, Cell.flag_eq_ok, ok_bind]
  exact .after fun order _ => .after fun turn _ => .after fun handledAt _ => .after fun budget _ =>
    .after fun target _ => .after fun winner _ => .after fun createdAt _ =>
      .after fun updatedAt _ => .ok ⟨rfl, d, d', k, rfl, rfl⟩

theorem BotRecord.Alike.bot {a a' : BotRecord} (h : a.Alike caller a') :
    Agree (Bot.Alike caller) a.bot a'.bot := by
  rcases h with rfl | ⟨hr, hp⟩
  · exact (Agree.of_eq rfl).mono fun _ _ he => .inl he.symm
  · have hs : a'.seat = a.seat := by rw [hr]
    have hi : a'.id = a.id ∧ a'.name = a.name := by
      rw [hr]
      exact ⟨rfl, rfl⟩
    simp only [BotRecord.bot, hs, hi.1, hi.2]
    exact .ite (fun _ => .ok (.inr ⟨rfl, hp⟩)) fun _ => .error _

theorem GameRecord.Alike.assemble {a a' : GameRecord} {as as' : List BotRecord} (h : a.Alike a')
    (hs : List.Forall₂ (BotRecord.Alike caller) as as') :
    Agree (Game.Alike caller) (Game.assemble a as) (Game.assemble a' as') := by
  obtain ⟨hr, d, d', k, hst, hst'⟩ := h
  rw [hst'] at hr
  generalize a'.handled = b at hr
  subst hr
  simp only [Game.assemble, throw_eq_error, error_bind, pure_eq_ok]
  refine .ite (fun _ => .error _) fun _ => ?_
  refine (Agree.mapM hs fun _ _ hb => hb.bot).bind fun bots bots' _ _ hbots => ?_
  have hg : Game.Alike caller
      { id := a.id, stage := a.stage, order := a.order, turn := a.turn.toNat, handled := a.handled
        handledAt := a.handledAt, budget := a.budget, question := a.question, target := a.target
        result := a.result, winner := a.winner, bots }
      { id := a.id, stage := .awaiting d' k, order := a.order, turn := a.turn.toNat
        handled := b, handledAt := a.handledAt, budget := a.budget, question := a.question
        target := a.target, result := a.result, winner := a.winner, bots := bots' } :=
    { id := rfl
      awaited := by
        simp only [hst]
        rfl
      idle := fun hn => by
        simp only [hst] at hn
        cases hn
      order := rfl
      turn := rfl
      question := rfl
      target := rfl
      bots := hbots }
  rw [hg.check_eq]
  exact .after fun _ _ => .ok hg

namespace Store

structure Disguised (caller i : Int) (s s' : Store) : Prop where
  numbered : s.Numbered
  players : s'.players = s.players
  games : List.Forall₂ (GameRow.Disguised i) s.games.rows s'.games.rows
  bots : List.Forall₂ (BotRow.Disguised caller i) s.bots.rows s'.bots.rows
  messages : s'.messages = s.messages

namespace Disguised

variable (h : s.Disguised caller i s')

include h

theorem numbered' : s'.Numbered := by
  have hg : List.Forall₂ (· = ·) (s.games.rows.map GameRow.id) (s'.games.rows.map GameRow.id) :=
    List.rel_map (fun _ _ hr => hr.id_eq.symm) h.games
  have hb : List.Forall₂ (· = ·) (s.bots.rows.map BotRow.id) (s'.bots.rows.map BotRow.id) :=
    List.rel_map (fun _ _ hr => hr.id_eq.symm) h.bots
  rw [List.forall₂_eq_eq_eq] at hg hb
  exact h.numbered.of_ids hg.symm hb.symm

theorem gameRow?_cases (j : Int) : (s.gameRow? j = none ∧ s'.gameRow? j = none) ∨
    ∃ r r', s.gameRow? j = some r ∧ s'.gameRow? j = some r' ∧ r.Disguised i r' ∧ r.id = j := by
  have hf := find?_cases h.games fun _ _ hr => congrArg (· == j) hr.id_eq
  simp only [beq_iff_eq] at hf
  exact hf

theorem veiled {r r' : GameRow} (hr : s.gameRow? i = some r) (hr' : s'.gameRow? i = some r') :
    r.Veiled r' := by
  rcases h.gameRow?_cases i with ⟨hn, -⟩ | ⟨r₀, r₀', hr₀, hr₀', hd, hi⟩
  · rw [hn] at hr
    cases hr
  · obtain rfl : r₀ = r := Option.some.inj (hr₀.symm.trans hr)
    obtain rfl : r₀' = r' := Option.some.inj (hr₀'.symm.trans hr')
    exact hd.1 hi

theorem player?_eq (p : Int) : s'.player? p = s.player? p := by
  rw [player?, player?, h.players]

theorem isNone_botRow? (x : Int) : (s'.botRow? x).isNone = (s.botRow? x).isNone := by
  rcases find?_cases h.bots fun _ _ hr => congrArg (· == x) hr.id_eq with
    ⟨hn, hn'⟩ | ⟨r, r', hr, hr', -⟩
  · rw [botRow?, botRow?, hn, hn']
  · rw [botRow?, botRow?, hr, hr']
    rfl

theorem botRows (j : Int) :
    List.Forall₂ (BotRow.Disguised caller i) (s.botRows j) (s'.botRows j) := by
  refine sort_forall₂ (List.rel_filter (fun r r' hr => ?_) h.bots) fun a b c d hab hcd => ?_
  · simp only [hr.game_eq]
  · rw [hab.seat_eq, hcd.seat_eq]

theorem gameRow?_eq (hj : j ≠ i) : s'.gameRow? j = s.gameRow? j := by
  rcases h.gameRow?_cases j with ⟨hn, hn'⟩ | ⟨r, r', hr, hr', hd, hi⟩
  · rw [hn, hn']
  · rw [hr, hr', hd.2 (hi.trans_ne hj)]

theorem load_eq (hj : j ≠ i) : s'.load j = s.load j := by
  have hg : ∀ r ∈ s.botRows j, r.game = j := fun r hr => (mem_botRows.mp hr).2
  have hb := (List.forall₂_and_left _ _).mpr ⟨hg, h.botRows j⟩
  have he : List.Forall₂ (· = ·) (s.botRows j) (s'.botRows j) :=
    hb.imp fun _ _ hr => (hr.2.eq_of_game (hr.1.trans_ne hj)).symm
  rw [List.forall₂_eq_eq_eq] at he
  rw [Store.load, Store.load, h.gameRow?_eq hj, he]

theorem load (j : Int) : Agree (Game.Alike caller) (s.load j) (s'.load j) := by
  by_cases hj : j = i
  · subst hj
    rw [Store.load, Store.load]
    rcases h.gameRow?_cases j with ⟨hn, hn'⟩ | ⟨r, r', hr, hr', hd, hi⟩
    · rw [hn, hn']
      exact .error _
    · rw [hr, hr']
      have hb := Agree.mapM (h.botRows j) fun _ _ hb => hb.read
      exact (hd.1 hi).read.bind fun a a' _ _ ha => hb.bind fun as as' _ _ has =>
        (ha.assemble has).lift
  · rw [h.load_eq hj]
    exact (Agree.of_eq rfl).mono fun _ _ he => he ▸ .refl caller _

theorem awaiting (hl : s.load i = .ok g) (hl' : s'.load i = .ok g') :
    ∃ d d' k, g.stage = .awaiting d k ∧ g'.stage = .awaiting d' k := by
  obtain ⟨r, hr, hs⟩ := row_of_load hl
  obtain ⟨r', hr', hs'⟩ := row_of_load hl'
  obtain ⟨d, d', k, hd, hd'⟩ := (h.veiled hr hr').stages
  exact ⟨d, d', k, Option.some.inj (hs.stage.symm.trans hd),
    Option.some.inj (hs'.stage.symm.trans hd')⟩

theorem count_bots {hit : BotRow → Bool} (hx : ∀ r, hit r = true → r.id = x)
    (ho : ∀ r ∈ s.bots.rows, r.id = x → r.game ≠ i ∨ r.player = some caller) :
    s'.bots.count hit = s.bots.count hit := by
  refine countP_eq_of_forall₂ h.bots fun r hr r' hd => ?_
  -- The bot counted is in another game or the caller's own, so that its row is the same.
  by_cases hi : r.id = x
  · rcases ho r hr hi with hg | hp
    · rw [hd.eq_of_game hg]
    · rw [hd.eq_of_player hp]
  · have hn : hit r = false := Bool.eq_false_iff.mpr fun he => hi (hx r he)
    have hn' : hit r' = false :=
      Bool.eq_false_iff.mpr fun he => hi (hd.id_eq.symm.trans (hx r' he))
    rw [hn, hn']

theorem spendHelp (ho : ∀ r ∈ s.bots.rows, r.id = x → r.game ≠ i ∨ r.player = some caller) :
    Agree (fun t t' => t = s.spent x ∧ t' = s'.spent x) (s.spendHelp x) (s'.spendHelp x) := by
  have hx : ∀ r : BotRow, (r.id == x && r.help.isPositive) = true → r.id = x :=
    fun r hr => And.left (by simpa using hr)
  simp only [Store.spendHelp, throw_eq_error, error_bind, h.count_bots hx ho]
  exact .ite (fun _ => .error _) fun _ => .ok ⟨rfl, rfl⟩

theorem claim (ho : ∀ r ∈ s.bots.rows, r.id = x → r.game ≠ i ∨ r.player = some caller)
    (player : Int) : Agree (fun t t' => t = s.claimed x player ∧ t' = s'.claimed x player)
      (s.claim x player) (s'.claim x player) := by
  have hx : ∀ r : BotRow, (r.id == x && r.driver == some .ai) = true → r.id = x :=
    fun r hr => And.left (by simpa using hr)
  simp only [Store.claim, throw_eq_error, error_bind, h.count_bots hx ho, h.player?_eq]
  exact .ite (fun _ => .error _) fun _ => .ite (fun _ => .error _) fun _ => .ok ⟨rfl, rfl⟩

theorem update (hl : s.load j = .ok g) (hl' : s'.load j = .ok g') (hc : g.Proposes c)
    (hc' : g'.Proposes c') (ht : c'.turn = c.turn) (now : Instant) :
    Agree (fun t t' => t = s.written now j c ∧ t' = s'.written now j c')
      (s.update now j c) (s'.update now j c') := by
  obtain ⟨r, hr, hs⟩ := row_of_load hl
  obtain ⟨r', hr', hs'⟩ := row_of_load hl'
  rw [update_eq h.numbered hr hs hc (fun _ => h.numbered.fits_of_mem hl) now,
    update_eq h.numbered' hr' hs' hc' (fun _ => h.numbered'.fits_of_mem hl') now, ht]
  refine .ite (fun _ => .error _) fun _ => ?_
  by_cases hj : j = i
  -- The rows of the hidden game spell their flags as they are written; other games have one row.
  · subst hj
    obtain ⟨b, b', hb, hb'⟩ := (h.veiled hr hr').flags
    rw [if_pos (hs.handled_eq hb), if_pos (hs'.handled_eq hb')]
    exact .ok ⟨rfl, rfl⟩
  · obtain rfl : r = r' := Option.some.inj (hr.symm.trans ((h.gameRow?_eq hj).symm.trans hr'))
    obtain rfl : g = g' := Except.ok.inj (hl.symm.trans ((h.load_eq hj).symm.trans hl'))
    exact .ite (fun _ => .ok ⟨rfl, rfl⟩) fun _ => .error _

theorem append (now : Instant) (j : Int) (c c' : Change) (u : Utterance) :
    Agree (fun a a' => a'.1 = a.1) ((s.written now j c).append now j u)
      ((s'.written now j c').append now j u) := by
  have hg : ((s'.written now j c').gameRow? j).isNone =
      ((s.written now j c).gameRow? j).isNone := by
    rw [gameRow?_written, gameRow?_written, Option.isNone_map, Option.isNone_map]
    rcases h.gameRow?_cases j with ⟨hn, hn'⟩ | ⟨r, r', hr, hr', -⟩
    · rw [hn, hn']
    · rw [hr, hr']
      rfl
  have hb : ∀ x, ((s'.written now j c').botRow? x).isNone =
      ((s.written now j c).botRow? x).isNone := h.isNone_botRow?
  have hm : (s'.written now j c').messages = (s.written now j c).messages := h.messages
  simp only [Store.append, throw_eq_error, error_bind, pure_eq_ok, hg, hb, hm]
  exact .after fun _ _ => .ite (fun _ => .error _) fun _ => .after fun _ _ => .ok rfl

end Disguised

end Store

end ImitationGame
