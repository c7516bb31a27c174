import ImitationGame.Proofs.Random.Draws
import ImitationGame.Proofs.Scene.Seats

namespace ImitationGame

/-- The game is not at fault: it is sound, and the rules are asked something that has an answer. -/
def Refusal.Plain (r : Refusal) : Prop :=
  (∀ c, r ≠ .crash c) ∧ ∀ detail, r.error ≠ .failure .corruption detail

def Refusal.blames : Refusal → Bool
  | .corrupt _ | .crash _ => true
  | _ => false

theorem Refusal.Plain.of_blames {r : Refusal} (h : r.blames = false) : r.Plain := by
  refine ⟨?_, fun detail => ?_⟩
  · rintro c rfl
    cases h
  · cases r with
    | corrupt | crash => cases h
    | _ => simp [error, DomainError.failure, DomainError.invalid, DomainError.conflict,
        DomainError.missing, DomainError.invalidOther]

inductive Attempt where
  | speak (u : Utterance)
  | tag (tagger accused : Int)
  | gather
  | start (draws : Random.Stream)
  | claim (player : Int)

namespace Game

variable {g g' : Game} {i : Int}

def attempt (g : Game) : Attempt → Except Refusal Game
  | .speak u => (g.advance u).map g.apply
  | .tag tagger accused => (g.tag tagger accused).map fun o => g.apply o.change
  | .gather => .ok (g.quorum.elim g g.apply)
  | .start draws => (g.start draws).map g.apply
  | .claim player => .ok (g.firstAi?.elim g fun b => g.claim b.id player)

def after (g : Game) (a : Attempt) : Game :=
  match g.attempt a with
  | .ok g' => g'
  | .error _ => g

def afterAll (g : Game) (attempts : List Attempt) : Game := attempts.foldl after g

theorem ids_attempt {a : Attempt} (h : g.attempt a = .ok g') : g'.ids = g.ids := by
  cases a with
  | speak | tag | start =>
    obtain ⟨c, -, rfl⟩ := map_eq_ok.mp h
    rfl
  | gather =>
    obtain rfl := Except.ok.inj h
    cases g.quorum <;> rfl
  | claim player =>
    obtain rfl := Except.ok.inj h
    cases g.firstAi? with
    | none => rfl
    | some b => exact ids_claim b.id player

theorem WellFormed.attempt {a : Attempt} (hw : g.WellFormed) (h : g.attempt a = .ok g') :
    g'.WellFormed := by
  cases a with
  | speak u =>
    obtain ⟨c, hc, rfl⟩ := map_eq_ok.mp h
    exact hw.apply (hw.proposes_of_advance hc)
  | tag tagger accused =>
    obtain ⟨o, ho, rfl⟩ := map_eq_ok.mp h
    exact hw.apply (hw.proposes_of_tag ho)
  | gather =>
    obtain rfl := Except.ok.inj h
    cases hc : g.quorum with
    | none => exact hw
    | some c => exact hw.apply (hw.proposes_of_quorum hc)
  | start draws =>
    obtain ⟨c, hc, rfl⟩ := map_eq_ok.mp h
    exact hw.apply (hw.proposes_of_start hc)
  | claim player =>
    obtain rfl := Except.ok.inj h
    cases g.firstAi? with
    | none => exact hw
    | some b => exact hw.claim b.id player

theorem bot_fails (g : Game) (i : Int) : Fails Refusal.Plain (g.bot i) := by
  rw [bot]
  split
  · exact .ok _
  · exact .error (.of_blames rfl)

theorem requireTurns_fails (g : Game) : Fails Refusal.Plain g.requireTurns := by
  rw [requireTurns]
  split
  · exact .error (.of_blames rfl)
  · exact .error (.of_blames rfl)
  · exact .error (.of_blames rfl)
  · exact .ok ()

namespace WellFormed

variable (hw : g.WellFormed)

include hw

theorem exists_acting : ∃ a, g.acting = .ok a := by
  obtain ⟨b, -, ht, -⟩ := hw.exists_turnBot
  rw [acting]
  split
  · rw [ht]
    exact ⟨some b.id, rfl⟩
  · rename_i ha
    obtain ⟨t, ht, -⟩ := hw.target_mem (by rw [Stage.awaitsAnswer, ha]; rfl)
    rw [ht]
    exact ⟨some t, rfl⟩
  · exact ⟨none, rfl⟩

theorem ask_fails (source target : Bot) (text : String) :
    Fails Refusal.Plain (g.ask source target text) := by
  obtain ⟨b, -, hb, -⟩ := hw.exists_turnBot
  simp only [ask, throw_eq_error, error_bind, pure_eq_ok, hb, ok_bind]
  exact .guard (.of_blames rfl) <| .guard (.of_blames rfl) <| .guard (.of_blames rfl) <| .ok _

theorem reply_fails (source target : Bot) : Fails Refusal.Plain (g.reply source target) := by
  have hl : nextTurn g.turn g.order.length < g.order.length :=
    nextTurn_lt (Nat.zero_lt_of_lt hw.turn_lt)
  simp only [reply, throw_eq_error, error_bind, pure_eq_ok, List.getElem?_eq_getElem hl]
  refine .guard (.of_blames rfl) <| .guard (.of_blames rfl) <| .guard (.of_blames rfl) ?_
  exact (g.bot_fails _).bind fun _ _ => .ok _

theorem advance_fails (u : Utterance) : Fails Refusal.Plain (g.advance u) := by
  refine g.requireTurns_fails.bind fun _ _ => (g.bot_fails _).bind fun source _ =>
    (g.bot_fails _).bind fun target _ => ?_
  cases u.kind with
  | question => exact hw.ask_fails source target u.text
  | answer => exact hw.reply_fails source target

theorem tag_fails (tagger accused : Int) : Fails Refusal.Plain (g.tag tagger accused) := by
  obtain ⟨due, hd⟩ := hw.exists_acting
  simp only [tag, throw_eq_error, error_bind, pure_eq_ok, hd, ok_bind]
  refine .guard (.of_blames rfl) ?_
  cases due with
  | none => exact .error (.of_blames rfl)
  | some due =>
    refine (g.bot_fails _).bind fun t _ => .guard (.of_blames rfl) <| .guard (.of_blames rfl) ?_
    exact (g.bot_fails _).bind fun a _ => .ok _

theorem start_fails (draws : Random.Stream) : Fails Refusal.Plain (g.start draws) := by
  by_cases hs : g.stage = .joined
  · obtain ⟨b, -, hb⟩ := exists_start hw hs draws
    rw [hb]
    exact .ok _
  · simp only [start, throw_eq_error, error_bind, if_pos hs]
    exact .error (.of_blames rfl)

theorem attempt_fails (a : Attempt) : Fails Refusal.Plain (g.attempt a) := by
  cases a with
  | speak u => exact (hw.advance_fails u).map
  | tag tagger accused => exact (hw.tag_fails tagger accused).map
  | gather | claim => exact .ok _
  | start draws => exact (hw.start_fails draws).map

theorem after (a : Attempt) : (g.after a).WellFormed := by
  rw [Game.after]
  split
  · rename_i g' h
    exact hw.attempt h
  · exact hw

theorem afterAll (attempts : List Attempt) : (g.afterAll attempts).WellFormed := by
  induction attempts generalizing g with
  | nil => exact hw
  | cons a attempts ih => exact ih (hw.after a)

end WellFormed

theorem ids_after (g : Game) (a : Attempt) : (g.after a).ids = g.ids := by
  rw [after]
  split
  · rename_i g' h
    exact ids_attempt h
  · rfl

theorem ids_afterAll (g : Game) (attempts : List Attempt) : (g.afterAll attempts).ids = g.ids := by
  induction attempts generalizing g with
  | nil => rfl
  | cons a attempts ih => exact (ih (g.after a)).trans (g.ids_after a)

/-- Whatever is attempted on a game that passes the check, it passes the check ever after, no
attempt finds it corrupt, and none reaches beyond a list: neither the rules nor the shuffle. -/
theorem check_afterAll (g : Game) (hn : g.ids.Nodup) (hc : g.check = .ok ())
    (attempts : List Attempt) :
    (g.afterAll attempts).check = .ok () ∧
    (∀ a r, (g.afterAll attempts).attempt a = .error r →
      (∀ c, r ≠ .crash c) ∧ ∀ detail, r.error ≠ .failure .corruption detail) ∧
    ∀ draws, Random.Shuffle.downwards? (g.afterAll attempts).ids draws =
      some ((g.afterAll attempts).shuffled draws) := by
  have hw := ((check_eq_ok_iff hn).mp hc).afterAll attempts
  have hn : (g.afterAll attempts).ids.Nodup := ids_afterAll g attempts ▸ hn
  exact ⟨(check_eq_ok_iff hn).mpr hw, fun a => hw.attempt_fails a,
    fun draws => Random.Shuffle.downwards?_eq_some _ draws⟩

def sampleRecruiting : Game where
  id := 1
  stage := .started
  order := [11, 12, 13]
  turn := 0
  handled := true
  handledAt := none
  budget := 0
  question := none
  target := none
  result := none
  winner := none
  bots := [⟨11, 0, "Ada", .ai, none, 3⟩, ⟨12, 1, "Bob", .ai, none, 3⟩, ⟨13, 2, "Cy", .ai, none, 3⟩]

def sampleAttempts : List Attempt :=
  [.speak (.question 11 12 "Who?"), .claim 7, .gather, .claim 8, .gather, .tag 11 12,
    .start ⟨fun _ => 0, 0⟩, .start ⟨fun _ => 0, 0⟩, .speak (.answer 12 "I."),
    .speak (.question 12 13 "Who?"), .speak (.answer 11 "I."), .speak (.answer 13 "You.")]

theorem sampleAttempts_check : sampleRecruiting.ids.Nodup ∧ sampleRecruiting.check = .ok () ∧
    (sampleRecruiting.afterAll sampleAttempts).order = [12, 13, 11] ∧
    (sampleRecruiting.afterAll sampleAttempts).turn = 1 ∧
    (sampleRecruiting.afterAll sampleAttempts).check = .ok () := by
  have hn : sampleRecruiting.ids.Nodup := by decide
  have hc : sampleRecruiting.check = .ok () := by decide
  exact ⟨hn, hc, by decide +kernel, by decide +kernel,
    (check_afterAll sampleRecruiting hn hc sampleAttempts).1⟩

end Game

end ImitationGame
