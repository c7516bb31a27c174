import ImitationGame.Proofs.Store.Writing

namespace ImitationGame

variable {s : Store} {i : Int} {g : Game} {c : Change} {now : Instant}

namespace Sentinel

open Text.Search

theorem kind_of_movedError (payload : List Char) :
    (movedError payload).kind = .conflict .stateMismatch := by
  unfold movedError
  split <;> rfl

theorem kind_of_missingError (payload : List Char) :
    (missingError payload).kind = .missing .game := by
  unfold missingError
  split <;> rfl

theorem kind_of_moved (i : Int) (expected actual : Stage) (turn : Int) (handled : Bool) :
    (Fault.storage (moved i expected actual turn handled).fault).error.kind =
      .conflict .stateMismatch := by
  obtain ⟨payload, hp⟩ : ∃ payload, (moved i expected actual turn handled).text.toList =
      markMoved.toList ++ payload := by
    simp only [text, String.append_assoc, String.toList_append]
    exact ⟨_, rfl⟩
  have hm : after? markMissing.toList (markMoved.toList ++ payload) = none := rfl
  simp only [Fault.error, fault, StorageFault.error, error?, hp, hm, after?_append,
    Option.getD_some]
  exact kind_of_movedError payload

theorem kind_of_gameMissing (i : Int) :
    (Fault.storage (gameMissing i).fault).error.kind = .missing .game := by
  have hp : (gameMissing i).text.toList = markMissing.toList ++ (toString i).toList := by
    rw [text, String.toList_append]
  simp only [Fault.error, fault, StorageFault.error, error?, hp, after?_append, Option.getD_some]
  exact kind_of_missingError _

end Sentinel

theorem GameRow.Holds.expects_iff {r : GameRow} (h : r.Holds g) :
    r.expects g.id c = true ↔ g.Meets c := by
  have ht : r.turn = .int c.fromTurn ↔ g.turn = c.fromTurn := by
    rw [h.turn, Cell.int.injEq, Int.natCast_inj]
  have hh : r.handled = .ofFlag c.fromHandled ↔ g.handled = c.fromHandled := by
    rw [h.handled]
    cases g.handled <;> cases c.fromHandled <;> decide
  simp only [GameRow.expects, Bool.and_eq_true, beq_iff_eq, h.id, h.stage, ht, hh, true_and,
    Option.some.injEq]
  constructor
  · rintro ⟨⟨hs, ht⟩, hh⟩
    exact ⟨hs.symm, ht.symm, hh.symm⟩
  · rintro ⟨hs, ht, hh⟩
    exact ⟨⟨hs.symm, ht.symm⟩, hh.symm⟩

namespace Store

variable (hc : Storable c)

include hc

theorem Holds.update_refused (h : s.Holds i g) (ht : s.Tidy) (hm : ¬g.Meets c) (now : Instant) :
    ∃ f, s.update now i c = .error f ∧ f.error.kind = .conflict .stateMismatch := by
  obtain ⟨r, hr, hrg⟩ := h.row
  obtain ⟨t, u, hread⟩ := hrg.read
  have h₀ : s.games.count (GameRow.expects i c) = 0 := by
    rw [Table.count, List.countP_eq_zero]
    intro x hx he
    obtain rfl : x = r := ht.games.eq_of_id_eq hx (Table.mem_of_row? (t := s.games) hr)
      ((GameRow.id_of_expects he).trans (Table.id_of_row? (t := s.games) hr).symm)
    rw [← h.id_eq] at he
    exact hm (hrg.expects_iff.mp he)
  have hq : s.requireRecord i = .ok (GameRow.record g t u) := by
    rw [requireRecord, hr]
    exact hread
  refine ⟨_, ?_, Sentinel.kind_of_moved i c.fromStage g.stage g.turn g.handled⟩
  rw [update_of_count_zero hc h₀, hq]
  rfl

theorem update_missing (hn : s.gameRow? i = none) (now : Instant) :
    ∃ f, s.update now i c = .error f ∧ f.error.kind = .missing .game := by
  have h₀ : s.games.count (GameRow.expects i c) = 0 := by
    rw [Table.count, List.countP_eq_zero]
    intro x hx he
    rw [← Option.not_isSome_iff_eq_none, gameRow?_isSome] at hn
    exact hn ⟨x, hx, GameRow.id_of_expects he⟩
  have hq : s.requireRecord i = .error (.storage (Sentinel.gameMissing i).fault) := by
    rw [requireRecord, hn]
  refine ⟨_, ?_, Sentinel.kind_of_gameMissing i⟩
  rw [update_of_count_zero hc h₀, hq]
  rfl

end Store

end ImitationGame
