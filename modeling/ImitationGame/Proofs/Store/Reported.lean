import ImitationGame.Proofs.Store.Assembly
import ImitationGame.Store.Database
import ImitationGame.Store.Write

namespace ImitationGame

variable {α : Type} {query : Store → Except Fault α} {transaction : Transaction α}

namespace Fault

def Reported (f : Fault) : Prop := ∀ c, f ≠ .refused (.crash c)

theorem reported_storage (c : StorageFault) : Reported (.storage c) := nofun

theorem reported_refused {r : Refusal} (h : ∀ c, r ≠ .crash c) : Reported (.refused r) := by
  rintro c ⟨⟩
  exact h c rfl

theorem require_fails (c : StorageFault) (o : Option α) :
    Fails Reported ((Fault.storage c).require o) := by
  cases o with
  | none => exact .error (reported_storage c)
  | some a => exact .ok a

theorem Reported.withoutTables {f : Fault} (h : f.Reported) : f.withoutTables.Reported := by
  cases f with
  | storage c => exact reported_storage _
  | refused r =>
    simp only [Fault.withoutTables]
    split
    · exact h
    · exact reported_storage _

end Fault

open Fault

theorem Refusal.IsCorruption.reported {r : Refusal} (h : r.IsCorruption) :
    Reported (.refused r) := by
  refine reported_refused fun c hc => ?_
  subst hc
  cases h

theorem Timestamp.read_fails (t : Timestamp) : Fails Reported t.read := require_fails _ _

theorem OrderCell.read_fails (c : OrderCell) : Fails Reported c.read := by
  cases c with
  | list ids => exact .ok ids
  | garbled found => exact .error (reported_storage _)

theorem GameRow.read_fails (r : GameRow) : Fails Reported r.read := by
  refine (require_fails _ _).bind fun stage _ => ?_
  refine (OrderCell.read_fails _).bind fun order _ => ?_
  refine (require_fails _ _).bind fun turn _ => ?_
  refine (require_fails _ _).bind fun handled _ => ?_
  refine (Fails.optionMapM Timestamp.read_fails).bind fun handledAt _ => ?_
  refine (require_fails _ _).bind fun budget _ => ?_
  refine (Fails.optionMapM fun _ => require_fails _ _).bind fun target _ => ?_
  refine (Fails.optionMapM fun _ => require_fails _ _).bind fun winner _ => ?_
  exact (Timestamp.read_fails _).bind fun _ _ => (Timestamp.read_fails _).bind fun _ _ => .ok _

theorem BotRow.read_fails (r : BotRow) : Fails Reported r.read := by
  refine (require_fails _ _).bind fun seat _ => (require_fails _ _).bind fun driver _ => ?_
  exact (require_fails _ _).bind fun _ _ => (Timestamp.read_fails _).bind fun _ _ => .ok _

theorem DatedGame.ofRows_fails (row : GameRow) (rows : List BotRow) :
    Fails Reported (ofRows row rows) := by
  refine (GameRow.read_fails row).bind fun record _ => ?_
  refine (Fails.mapM fun r _ => BotRow.read_fails r).bind fun bots _ => ?_
  have ha : Fails Refusal.IsCorruption (assemble record bots) :=
    (Game.assemble_fails record bots).bind fun _ _ => .ok _
  exact ha.lift fun _ => Refusal.IsCorruption.reported

theorem Store.loadDated_fails (s : Store) (i : Int) : Fails Reported (s.loadDated i) := by
  unfold loadDated
  split
  · exact .error nofun
  · exact DatedGame.ofRows_fails _ _

theorem Store.delete_fails (s : Store) (i : Int) : Fails Reported (s.delete i) := by
  unfold delete
  exact .guard nofun (.ok _)

namespace Database

theorem ask_fails (h : ∀ s, Fails Reported (query s)) (db : Database) :
    Fails Reported (db.ask query) := by
  unfold ask
  split
  · exact h _
  · split
    · exact .error (h _ _ ‹_›).withoutTables
    · exact .error (reported_storage _)

theorem run_fails (h : ∀ s, Fails Reported (transaction s)) (db : Database) :
    Fails Reported (db.run transaction).1 := by
  unfold run
  split
  · exact .ok _
  · exact .error (ask_fails h db _ ‹_›)

end Database

end ImitationGame
