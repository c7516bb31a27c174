import ImitationGame.Proofs.Game.Attempt
import ImitationGame.Proofs.Game.Progress
import ImitationGame.Proofs.Scene.Verdict

/-! Who may move: a game takes the utterances and the tags of the bot that it says is due, and no
others. -/

namespace ImitationGame.Game

variable {g : Game} {u : Utterance} {a b : Int}

inductive Allows (g : Game) : Utterance → Prop where
  | question {source target text} : g.stage.awaitsQuestion = true →
      g.order[g.turn]? = some source → target ∈ g.ids → target ≠ source →
      Allows g (.question source target text)
  | answer {source text} : g.stage.awaitsAnswer = true → g.target = some source →
      Allows g (.answer source text)

namespace WellFormed

theorem mem_ids_of_acting (hw : g.WellFormed) (h : g.acting = .ok (some b)) : b ∈ g.ids := by
  rcases acting_eq_some_iff.mp h with ⟨-, ht⟩ | ⟨ha, ht⟩
  · exact hw.mem_order_iff.mp (List.mem_of_getElem? (turnBot_eq_ok_iff.mp ht))
  · obtain ⟨t, ht', hm⟩ := hw.target_mem ha
    obtain rfl := Option.some.inj (ht.symm.trans ht')
    exact hm

theorem advance_isOk_iff (hw : g.WellFormed) : (∃ c, g.advance u = .ok c) ↔ g.Allows u := by
  constructor
  · rintro ⟨c, hc⟩
    obtain ⟨kind, source, target, text⟩ := u
    cases kind with
    | question =>
      obtain ⟨hq, ht, hne, -, t, hf, -⟩ := (advance_question_iff rfl).mp hc
      obtain rfl := id_of_find? hf
      exact .question hq (turnBot_eq_ok_iff.mp ht) (mem_ids_of_mem (mem_of_find? hf)) hne.symm
    | answer =>
      obtain ⟨ha, hst, ht, -⟩ := (advance_answer_iff rfl).mp hc
      obtain rfl : source = target := hst
      exact .answer ha ht
  · rintro (⟨hq, ho, ht, hne⟩ | ⟨ha, ht⟩)
    · obtain ⟨s, -, hm, rfl⟩ := exists_bot (hw.mem_order_iff.mp (List.mem_of_getElem? ho))
      obtain ⟨t, -, -, hc⟩ := exists_ask hw hq (turnBot_eq_ok_iff.mpr ho) ht hne _
      exact ⟨_, hc⟩
    · obtain ⟨t, -, -, hc⟩ := exists_reply hw ha ht _
      exact ⟨_, hc⟩

theorem tag_isOk_iff (hw : g.WellFormed) :
    (∃ o, g.tag b a = .ok o) ↔ g.acting = .ok (some b) ∧ a ∈ g.ids ∧ a ≠ b := by
  constructor
  · rintro ⟨o, ho⟩
    obtain ⟨-, hd, hne, t, x, -, hx, -⟩ := tag_eq_ok_iff.mp ho
    obtain rfl := id_of_find? hx
    exact ⟨hd, mem_ids_of_mem (mem_of_find? hx), hne⟩
  · rintro ⟨hd, ha, hne⟩
    obtain ⟨t, ht⟩ := exists_find? (hw.mem_ids_of_acting hd)
    obtain ⟨x, hx⟩ := exists_find? ha
    exact ⟨_, tag_eq_ok_iff.mpr ⟨ne_finished_of_acting hd, hd, hne, t, x, ht, hx, rfl⟩⟩

variable (hw : g.WellFormed) (hn : g.ids.Nodup) (hb : 2 ≤ g.bots.length)

include hw hn hb

theorem exists_other (hd : g.acting = .ok (some b)) : ∃ a ∈ g.ids, a ≠ b := by
  obtain ⟨a, ha, hne, -⟩ := exists_nextTarget hw hn hb (hw.mem_ids_of_acting hd) 0
  exact ⟨a, ha, hne⟩

theorem exists_allows_iff :
    (∃ u, u.source = b ∧ g.Allows u) ↔ g.acting = .ok (some b) := by
  constructor
  · rintro ⟨u, rfl, ⟨hq, ho, -, -⟩ | ⟨ha, ht⟩⟩
    · exact acting_eq_some_iff.mpr (.inl ⟨hq, turnBot_eq_ok_iff.mpr ho⟩)
    · exact acting_eq_some_iff.mpr (.inr ⟨ha, ht⟩)
  · intro hd
    -- With two bots or more there is always somebody to ask.
    obtain ⟨a, ha, hne⟩ := hw.exists_other hn hb hd
    rcases acting_eq_some_iff.mp hd with ⟨hq, ht⟩ | ⟨hs, ht⟩
    · exact ⟨.question b a "", rfl, .question hq (turnBot_eq_ok_iff.mp ht) ha hne⟩
    · exact ⟨.answer b "", rfl, .answer hs ht⟩

theorem exists_tag_iff : (∃ a o, g.tag b a = .ok o) ↔ g.acting = .ok (some b) := by
  simp only [hw.tag_isOk_iff, exists_and_left, and_iff_left_iff_imp]
  exact hw.exists_other hn hb

end WellFormed

theorem movers_agree (g : Game) (hn : g.ids.Nodup) (hb : 2 ≤ g.bots.length)
    (hc : g.check = .ok ()) :
    (∀ b, ((∃ u, u.source = b ∧ ∃ c, g.advance u = .ok c) ↔ ∃ a o, g.tag b a = .ok o) ∧
      ((∃ a o, g.tag b a = .ok o) ↔ g.acting = .ok (some b))) ∧
    (∀ u, (∃ c, g.advance u = .ok c) ↔ g.Allows u) ∧
    ∀ b a, (∃ o, g.tag b a = .ok o) ↔ g.acting = .ok (some b) ∧ a ∈ g.ids ∧ a ≠ b := by
  have hw := (check_eq_ok_iff hn).mp hc
  refine ⟨fun b => ?_, fun u => hw.advance_isOk_iff, fun b a => hw.tag_isOk_iff⟩
  have ht : (∃ a o, g.tag b a = .ok o) ↔ g.acting = .ok (some b) := hw.exists_tag_iff hn hb
  refine ⟨?_, ht⟩
  simp only [hw.advance_isOk_iff]
  exact (hw.exists_allows_iff hn hb).trans ht.symm

def sampleAsked : Game :=
  { sampleRecruiting with
    stage := .awaiting .ai .answer, turn := 1, question := some "Who?", target := some 13 }

theorem sampleAsked_movers_agree : sampleAsked.ids.Nodup ∧ 2 ≤ sampleAsked.bots.length ∧
    sampleAsked.check = .ok () ∧ (∃ a o, sampleAsked.tag 13 a = .ok o) ∧
    (∃ u, u.source = 13 ∧ ∃ c, sampleAsked.advance u = .ok c) ∧
    ¬∃ u, u.source = 12 ∧ ∃ c, sampleAsked.advance u = .ok c := by
  have hn : sampleAsked.ids.Nodup := by decide
  have hb : 2 ≤ sampleAsked.bots.length := by decide
  have hc : sampleAsked.check = .ok () := by decide
  obtain ⟨h, -, -⟩ := movers_agree sampleAsked hn hb hc
  have ht : ∃ a o, sampleAsked.tag 13 a = .ok o := (h 13).2.mpr rfl
  refine ⟨hn, hb, hc, ht, (h 13).1.mpr ht, fun hu => ?_⟩
  have hd : sampleAsked.acting = .ok (some 12) := (h 12).2.mp ((h 12).1.mp hu)
  exact absurd hd (by decide)

end ImitationGame.Game
