import ImitationGame.Game.Order
import ImitationGame.Game.Tag
import ImitationGame.Proofs.Game.Lookup

namespace ImitationGame

namespace Stage

variable {s : Stage} {d : Driver}

@[simp] theorem awaitsQuestion_questionFor : (questionFor d).awaitsQuestion = true := rfl
@[simp] theorem awaitsAnswer_questionFor : (questionFor d).awaitsAnswer = false := rfl
@[simp] theorem awaitsQuestion_answerFor : (answerFor d).awaitsQuestion = false := rfl
@[simp] theorem awaitsAnswer_answerFor : (answerFor d).awaitsAnswer = true := rfl
@[simp] theorem awaitsQuestion_started : started.awaitsQuestion = false := rfl
@[simp] theorem awaitsAnswer_started : started.awaitsAnswer = false := rfl
@[simp] theorem awaitsQuestion_finished : finished.awaitsQuestion = false := rfl
@[simp] theorem awaitsAnswer_finished : finished.awaitsAnswer = false := rfl

theorem ne_started_of_awaits (h : s.awaitsQuestion = true ∨ s.awaitsAnswer = true) :
    s ≠ started := by
  rintro rfl
  simp at h

end Stage

namespace Game

variable {g : Game} {c : Change}

def askedChange (g : Game) (target : Bot) (text : String) : Change :=
  { g.enter (.answerFor target.driver) g.turn with question := some text, target := some target.id }

def answeredChange (g : Game) (next : Bot) : Change :=
  g.enter (.questionFor next.driver) (nextTurn g.turn g.order.length)

theorem requireTurns_eq_ok_iff {u : Unit} :
    g.requireTurns = .ok u ↔ g.stage.awaitsQuestion = true ∨ g.stage.awaitsAnswer = true := by
  unfold requireTurns
  rcases g.stage with _ | _ | ⟨d, _ | _⟩ | _ <;>
    simp [Stage.awaitsQuestion, Stage.awaitsAnswer, Stage.awaited]

theorem ask_eq_ok_iff {s t : Bot} {text : String} :
    g.ask s t text = .ok c ↔ g.stage.awaitsQuestion = true ∧ g.turnBot = .ok s.id ∧ s.id ≠ t.id ∧
      c = g.askedChange t text := by
  simp only [ask, throw_eq_error, error_bind, pure_eq_ok, ite_error_eq_ok, bind_eq_ok,
    Except.ok.injEq, Bool.not_eq_true', Bool.not_eq_false, ne_eq, not_not]
  constructor
  · rintro ⟨hq, i, hi, rfl, hst, rfl⟩
    exact ⟨hq, hi, hst, rfl⟩
  · rintro ⟨hq, hi, hst, rfl⟩
    exact ⟨hq, s.id, hi, rfl, hst, rfl⟩

theorem reply_eq_ok_iff {s t : Bot} :
    g.reply s t = .ok c ↔ g.stage.awaitsAnswer = true ∧ s.id = t.id ∧ g.target = some s.id ∧
      ∃ i b, g.order[nextTurn g.turn g.order.length]? = some i ∧ g.find? i = some b ∧
        c = g.answeredChange b := by
  simp only [reply, throw_eq_error, error_bind, pure_eq_ok, ite_error_eq_ok,
    Bool.not_eq_true', Bool.not_eq_false, ne_eq, not_not]
  cases g.order[nextTurn g.turn g.order.length]? with
  | none => simp
  | some i => simp [bind_eq_ok, bot_eq_ok_iff, answeredChange, @eq_comm _ c]

theorem advance_question_iff {u : Utterance} (hu : u.kind = .question) :
    g.advance u = .ok c ↔ g.stage.awaitsQuestion = true ∧ g.turnBot = .ok u.source ∧
      u.source ≠ u.target ∧ (∃ s, g.find? u.source = some s) ∧
        ∃ t, g.find? u.target = some t ∧ c = g.askedChange t u.text := by
  simp only [advance, hu, bind_eq_ok, bot_eq_ok_iff, requireTurns_eq_ok_iff, ask_eq_ok_iff]
  constructor
  · rintro ⟨_, -, s, hs, t, ht, hq, hb, hst, rfl⟩
    rw [id_of_find? hs] at hb hst
    rw [id_of_find? ht] at hst
    exact ⟨hq, hb, hst, ⟨s, hs⟩, t, ht, rfl⟩
  · rintro ⟨hq, hb, hst, ⟨s, hs⟩, t, ht, rfl⟩
    refine ⟨(), Or.inl hq, s, hs, t, ht, hq, ?_⟩
    rw [id_of_find? hs, id_of_find? ht]
    exact ⟨hb, hst, rfl⟩

theorem advance_answer_iff {u : Utterance} (hu : u.kind = .answer) :
    g.advance u = .ok c ↔ g.stage.awaitsAnswer = true ∧ u.source = u.target ∧
      g.target = some u.source ∧ (∃ s, g.find? u.source = some s) ∧
        ∃ i b, g.order[nextTurn g.turn g.order.length]? = some i ∧ g.find? i = some b ∧
          c = g.answeredChange b := by
  simp only [advance, hu, bind_eq_ok, bot_eq_ok_iff, requireTurns_eq_ok_iff, reply_eq_ok_iff]
  constructor
  · rintro ⟨_, -, s, hs, t, ht, ha, hst, hg, hb⟩
    rw [id_of_find? hs] at hst hg
    rw [id_of_find? ht] at hst
    exact ⟨ha, hst, hg, ⟨s, hs⟩, hb⟩
  · rintro ⟨ha, hst, hg, ⟨s, hs⟩, hb⟩
    refine ⟨(), Or.inr ha, s, hs, s, hst ▸ hs, ha, rfl, ?_, hb⟩
    rw [id_of_find? hs]
    exact hg

theorem tag_eq_ok_iff {tagger accused : Int} {o : TagOutcome} :
    g.tag tagger accused = .ok o ↔ g.stage ≠ .finished ∧ g.acting = .ok (some tagger) ∧
      accused ≠ tagger ∧ ∃ t a, g.find? tagger = some t ∧ g.find? accused = some a ∧
        o = { change := { g.enter .finished g.turn with
                result := some (verdict t a).2.2, winner := some (verdict t a).1 }
              winner := (verdict t a).1, taggerWon := (verdict t a).2.1
              narrative := (verdict t a).2.2 } := by
  simp only [tag, throw_eq_error, error_bind, pure_eq_ok, ite_error_eq_ok, bind_eq_ok]
  constructor
  · rintro ⟨hf, due, ha, h⟩
    cases due with
    | none => simp at h
    | some due =>
      simp only [bind_eq_ok, bot_eq_ok_iff, ite_error_eq_ok, Except.ok.injEq, ne_eq, not_not] at h
      obtain ⟨t, ht, hd, hs, a, hb, rfl⟩ := h
      rw [id_of_find? ht] at hd
      exact ⟨hf, hd ▸ ha, hs, t, a, ht, hb, rfl⟩
  · rintro ⟨hf, ha, hs, t, a, ht, hb, rfl⟩
    refine ⟨hf, some tagger, ha, ?_⟩
    simp [bot_eq_ok_iff.mpr ht, bot_eq_ok_iff.mpr hb, id_of_find? ht, hs]

theorem quorum_eq_some_iff :
    g.quorum = some c ↔ (g.stage = .started ∧ quorumSize ≤ g.humans) ∧ c = g.enter .joined 0 := by
  simp only [quorum, Option.ite_none_right_eq_some, Option.some.injEq, @eq_comm _ c]

theorem quorum_eq_none_iff (hs : g.stage = .started) :
    g.quorum = none ↔ g.humans < quorumSize := by
  simp [quorum, hs]

end Game

end ImitationGame
