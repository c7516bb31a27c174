import ImitationGame.Proofs.Play.Effect
import ImitationGame.Proofs.Store.Disguise

/-! What a player is told does not depend on what drives the bots of others, but for the refusal to
join a game whose turns have begun. -/

namespace ImitationGame

section

variable {α : Type} {s s' : Store} {t : Transaction α}

def Store.response (s : Store) (t : Transaction α) : Except Problem α :=
  match t s with
  | .ok (a, _) => .ok a
  | .error f => .error f.problem

theorem Store.response_eq (h : Agree (fun a a' => a'.1 = a.1) (t s) (t s')) :
    s'.response t = s.response t := by
  rw [response, response]
  generalize t s = x, t s' = y at h
  cases h with
  | error f => rfl
  | ok ha => exact congrArg Except.ok ha

theorem Store.response_eq_error {R : α × Store → α × Store → Prop} (h : Agree R (t s) (t s'))
    (p : Problem) : s'.response t = .error p ↔ s.response t = .error p := by
  rw [response, response]
  generalize t s = x, t s' = y at h
  cases h with
  | error f => rfl
  | ok ha => simp

end

variable {caller i j : Int} {s s' : Store} {g g' : Game} {b : Bot} {now : Instant}

namespace Game.Alike

variable (h : g.Alike caller g')

include h

theorem member_eq : g'.member caller = g.member caller := by
  rw [member, member, h.botOf?_eq, h.id]

theorem nameOf_eq : Prompt.nameOf g' = Prompt.nameOf g := by
  funext x
  rw [Prompt.nameOf, Prompt.nameOf, find?, find?]
  rcases find?_cases h.bots fun _ _ hb => congrArg (· == x) hb.id_eq with
    ⟨hn, hn'⟩ | ⟨b, b', hb, hb', hr, -⟩
  · rw [hn, hn']
  · rw [hb, hb', Option.map_some, Option.map_some, hr.name_eq]

theorem history_eq : Prompt.history g' = Prompt.history g := by
  have hl : Prompt.line g' = Prompt.line g := by
    funext m
    unfold Prompt.line
    rw [h.nameOf_eq]
  unfold Prompt.history
  rw [hl]

theorem help_eq (me : Bot) (kind : MessageKind) (messages : List Message) :
    Prompt.help g' me kind messages = Prompt.help g me kind messages := by
  unfold Prompt.help
  rw [h.history_eq, h.question]

end Game.Alike

namespace Store.Disguised

open Play

variable (h : s.Disguised caller i s')

include h

theorem questionsBy_eq (x : Int) : s'.questionsBy j x = s.questionsBy j x := by
  rw [questionsBy, questionsBy, h.messages]

theorem messagesOf_spent (x : Int) : (s'.spent x).messagesOf j = (s.spent x).messagesOf j := by
  have hm : (s'.spent x).messages = (s.spent x).messages := h.messages
  rw [messagesOf, messagesOf, messageRows, messageRows, hm]

theorem utterance_eq (hg : g.Alike caller g') (source : Int) (text : String) (target : Option Int) :
    utterance s' g' source text target = utterance s g source text target := by
  simp only [utterance, hg.awaited, hg.id, h.questionsBy_eq, hg.nextTarget_eq]

theorem own (hl : s.load j = .ok g) (hb : g.member caller = .ok b) :
    ∀ r ∈ s.bots.rows, r.id = b.id → r.game ≠ i ∨ r.player = some caller := by
  intro r hr hi
  obtain ⟨hm, hp⟩ := Game.botOf?_eq_some (Game.member_eq_ok_iff.mp hb)
  exact .inr ((h.numbered.of_row hl hm hr hi).2.trans hp)

theorem record (hl : s.load j = .ok g) (hl' : s'.load j = .ok g') (hg : g.Alike caller g')
    (now : Instant) (u : Utterance) :
    Agree (fun a a' => a'.2.1 = a.2.1) (Play.record now g u s) (Play.record now g' u s') := by
  simp only [Play.record, hg.id, id_of_load hl]
  refine (hg.advance u).lift.bind fun c c' hc hc' hturn => ?_
  have hp := (h.numbered.wellFormed hl).proposes_of_advance (Refusal.lift_eq_ok.mp hc)
  have hp' := (h.numbered'.wellFormed hl').proposes_of_advance (Refusal.lift_eq_ok.mp hc')
  refine (h.update hl hl' hp hp' hturn now).bind fun t t' _ _ ht => ?_
  rw [ht.1, ht.2]
  exact (h.append now j c c' u).bind fun a a' _ _ ha => .ok ha

theorem send (now : Instant) (j : Int) (raw : String) (target : Option Int) :
    Agree (fun a a' => a'.1 = a.1) (send now j caller raw target s)
      (send now j caller raw target s') := by
  refine .after fun text _ => (h.load j).bind fun g g' hl hl' hg => ?_
  rw [hg.member_eq]
  refine .after fun b _ => ?_
  rw [h.utterance_eq hg]
  exact .after fun u _ => (h.record hl hl' hg now u).bind fun a a' _ _ ha => .ok ha

theorem hint (j : Int) (reply : Reply) :
    Agree (fun a a' => a'.1 = a.1) (hint j caller reply s) (hint j caller reply s') := by
  have hr : Agree (fun a a' => a'.1 = a.1) (requestHint j caller s) (requestHint j caller s') := by
    refine (h.load j).bind fun g g' hl _ hg => ?_
    rw [hg.member_eq]
    refine .after fun b hb => ?_
    simp only [throw_eq_error, error_bind, hg.finished_iff, hg.acting_eq]
    refine .ite (fun _ => .error _) fun _ => .after fun due _ => ?_
    refine .ite (fun _ => .error _) fun _ => .ite (fun _ => .error _) fun _ => ?_
    refine (h.spendHelp (h.own hl hb)).bind fun t t' _ _ ht => ?_
    rw [ht.1, ht.2, h.messagesOf_spent]
    refine .after fun messages _ => .ok ?_
    rw [hg.help_eq, hg.awaitsAnswer]
  exact hr.bind fun a a' _ _ ha => .ok (congrArg (HintRequest.fill · reply) ha)

theorem accuse (now : Instant) (j accused : Int) :
    Agree (fun _ _ => True) (accuse now j caller accused s) (accuse now j caller accused s') := by
  refine (h.load j).bind fun g g' hl hl' hg => ?_
  rw [hg.member_eq]
  refine .after fun b _ => (hg.tag b.id accused).lift.bind fun o o' ho ho' hturn => ?_
  have hp := (h.numbered.wellFormed hl).proposes_of_tag (Refusal.lift_eq_ok.mp ho)
  have hp' := (h.numbered'.wellFormed hl').proposes_of_tag (Refusal.lift_eq_ok.mp ho')
  exact (h.update hl hl' hp hp' hturn now).bind fun t t' _ _ _ => .ok trivial

theorem join_of_ne (hj : j ≠ i) (now : Instant) :
    Agree (fun a a' => a'.1 = a.1) (join now j caller s) (join now j caller s') := by
  simp only [join, h.load_eq hj, throw_eq_error, pure_eq_ok, requirePlayer, h.player?_eq]
  refine .after fun g hl => ?_
  cases g.botOf? caller with
  | some b => exact .ok rfl
  | none =>
    refine .after fun _ _ => .after fun _ _ => ?_
    cases hb : g.firstAi? with
    | none => exact .error _
    | some b =>
      obtain ⟨hm, -⟩ := Game.firstAi?_mem hb
      have ho : ∀ r ∈ s.bots.rows, r.id = b.id → r.game ≠ i ∨ r.player = some caller :=
        fun r hr hi => .inl ((h.numbered.of_row hl hm hr hi).1.trans_ne hj)
      refine (h.claim ho caller).bind fun t t' _ _ ht => ?_
      rw [ht.1, ht.2]
      cases hq : (g.claim b.id caller).quorum with
      | none => exact .ok rfl
      | some c =>
        obtain ⟨r, hr, hs⟩ := row_of_load hl
        have hsc : r.Shows (g.claim b.id caller) := { hs with }
        have hw := (h.numbered.wellFormed hl).claim b.id caller
        have hr' : s'.gameRow? j = some r := (h.gameRow?_eq hj).trans hr
        have hf : ∀ x ∈ (g.claim b.id caller).ids, Fits 64 x := by
          rw [Game.ids_claim]
          exact fun _ => h.numbered.fits_of_mem hl
        have hu : Agree (fun _ _ => True) ((s.claimed b.id caller).update now j c)
            ((s'.claimed b.id caller).update now j c) := by
          rw [update_eq (h.numbered.claimed b.id caller) hr hsc (hw.proposes_of_quorum hq) hf,
            update_eq (h.numbered'.claimed b.id caller) hr' hsc (hw.proposes_of_quorum hq) hf]
          exact .ite (fun _ => .error _) fun _ => .ite (fun _ => .ok trivial) fun _ => .error _
        exact hu.bind fun _ _ _ _ _ => .ok rfl

theorem join_self (now : Instant) :
    Agree (fun a a' => a'.1 = a.1) (join now i caller s) (join now i caller s') ∨
      ∃ d d' k, join now i caller s = .error (.refused (.notRecruiting i (.awaiting d k))) ∧
        join now i caller s' = .error (.refused (.notRecruiting i (.awaiting d' k))) := by
  have hload := h.load i
  generalize hx : s.load i = x, hx' : s'.load i = x' at hload
  cases hload with
  | error f =>
    rw [join, join, hx, hx']
    exact .inl (.error f)
  | @ok g g' hg =>
    simp only [join, hx, hx', ok_bind, hg.botOf?_eq, throw_eq_error, pure_eq_ok]
    cases g.botOf? caller with
    | some b => exact .inl (.ok rfl)
    | none =>
      have hid : g.id = i := id_of_load hx
      obtain ⟨d, d', k, hd, hd'⟩ := h.awaiting hx hx'
      refine .inr ⟨d, d', k, ?_, ?_⟩
      · simp only [Game.requireRecruiting, hd, hid, Refusal.lift, error_bind]
      · simp only [Game.requireRecruiting, hd', hg.id, hid, Refusal.lift, error_bind]

end Store.Disguised

namespace Play

/-- A message, a hint with the same reply, a tag that is refused and an attempt to join are answered
alike for both stores, unless the player comes late to the game whose drivers are hidden. -/
theorem response_undisclosed (caller i : Int) (s s' : Store) (h : s.Disguised caller i s')
    (now : Instant) (j : Int) :
    (∀ raw target, s'.response (send now j caller raw target) =
      s.response (send now j caller raw target)) ∧
    (∀ reply, s'.response (hint j caller reply) = s.response (hint j caller reply)) ∧
    (∀ accused p, s'.response (accuse now j caller accused) = .error p ↔
      s.response (accuse now j caller accused) = .error p) ∧
    (s'.response (join now j caller) = s.response (join now j caller) ∨
      j = i ∧ ∃ d d' k,
        s.response (join now i caller) =
          .error (Refusal.notRecruiting i (.awaiting d k)).error.problem ∧
        s'.response (join now i caller) =
          .error (Refusal.notRecruiting i (.awaiting d' k)).error.problem) := by
  refine ⟨fun raw target => Store.response_eq (h.send now j raw target),
    fun reply => Store.response_eq (h.hint j reply),
    fun accused p => Store.response_eq_error (h.accuse now j accused) p, ?_⟩
  by_cases hj : j = i
  · subst hj
    rcases h.join_self now with ha | ⟨d, d', k, hs, hs'⟩
    · exact .inl (Store.response_eq ha)
    · refine .inr ⟨rfl, d, d', k, ?_, ?_⟩
      · rw [Store.response, hs]
        rfl
      · rw [Store.response, hs']
        rfl
  · exact .inl (Store.response_eq (h.join_of_ne hj now))

def sampleTurns (driver : Driver) (player : Option Int) : Store where
  players := ⟨[⟨1, "Ann", .instant 0⟩, ⟨2, "Ben", .instant 1⟩, ⟨3, "Cal", .instant 2⟩], 3⟩
  games := ⟨[{
    id := 1, stage := some (.awaiting driver .question), order := .list [1, 2, 3], turn := .int 0
    handled := .ofFlag (driver = .human), handledAt := some (.instant 4), budget := .int 60
    question := none, target := none, result := none, winner := none, createdAt := .instant 3
    updatedAt := .instant 4 }], 1⟩
  bots := ⟨[⟨1, 1, .int 0, "Ada", some driver, player, .int 3, .instant 3⟩,
    ⟨2, 1, .int 1, "Bob", some .human, some 2, .int 3, .instant 3⟩,
    ⟨3, 1, .int 2, "Cy", some .ai, none, .int 3, .instant 3⟩], 3⟩
  messages := .empty

theorem sampleTurns_disguised {caller : Int} (h : caller ≠ 1) :
    (sampleTurns .human (some 1)).Disguised caller 1 (sampleTurns .ai none) where
  numbered := ⟨by decide, by decide, by decide⟩
  players := rfl
  games := .cons ⟨fun _ => ⟨rfl, ⟨.human, .ai, .question, rfl, rfl⟩, ⟨true, false, rfl, rfl⟩⟩,
    fun hn => absurd rfl hn⟩ .nil
  bots := by
    have hp : some (1 : Int) ≠ some caller := fun he => h (Option.some.inj he).symm
    exact .cons (.inr ⟨rfl, rfl, ⟨.human, .ai, rfl, rfl⟩, ⟨hp, nofun⟩, ⟨3, 3, rfl, rfl⟩⟩)
      (.cons (.inl rfl) (.cons (.inl rfl) .nil))
  messages := rfl

theorem sampleTurns_undisclosed :
    (sampleTurns .ai none).response (send 5 1 2 "Who?" (some 3)) =
      (sampleTurns .human (some 1)).response (send 5 1 2 "Who?" (some 3)) := by
  have h := response_undisclosed 2 1 _ _ (sampleTurns_disguised (by decide)) 5 1
  exact h.1 "Who?" (some 3)

theorem join_discloses : ¬∀ (caller i : Int) (s s' : Store), s.Disguised caller i s' →
    ∀ (now : Instant) (j : Int),
      s'.response (join now j caller) = s.response (join now j caller) := by
  intro h
  have hr := h 3 1 _ _ (sampleTurns_disguised (by decide)) 5 1
  have hn : (sampleTurns .ai none).response (join 5 1 3) ≠
      (sampleTurns .human (some 1)).response (join 5 1 3) := by decide +kernel
  exact hn hr

end Play

end ImitationGame
