import ImitationGame.Error.Problem
import ImitationGame.Proofs.Store.Sentinel
import Mathlib.Algebra.Order.BigOperators.Group.List
import Mathlib.Algebra.Order.Group.Nat

/-! What clients are told of a fault of the engine: one of a few fixed problems, chosen by the marks
in its text. Only texts that begin as those of the store's own are handed on. -/

namespace ImitationGame

open Text.Search

namespace StorageFault

variable {f : StorageFault} {a b text : String}

def marks : List String :=
  ["23505", "duplicate key value violates unique constraint", uniqueMark, "ux_bots_game_seat",
    "23503", "FOREIGN KEY constraint failed", "23514", "timeout", "timed out"]

theorem errorOfText_congr (hm : ∀ m ∈ marks, contains m a = contains m b)
    (hc : firstColumn? a = some "bots.game_id" ↔ firstColumn? b = some "bots.game_id") :
    errorOfText a = errorOfText b := by
  simp only [marks, List.forall_mem_cons] at hm
  obtain ⟨h₁, h₂, h₃, h₄, h₅, h₆, h₇, h₈, h₉, -⟩ := hm
  have hu : breaksUnique a = breaksUnique b := by rw [breaksUnique, h₁, h₂, h₃, breaksUnique]
  have hs : breaksSeat a = breaksSeat b := by
    rw [breaksSeat, breaksSeat, h₄, Bool.eq_iff_iff, Bool.or_eq_true, Bool.or_eq_true, beq_iff_eq,
      beq_iff_eq, hc]
  rw [errorOfText, errorOfText, hu, hs, h₅, h₆, h₇, h₈, h₉]

def IsMarked : StorageFault → Prop
  | custom t => ∃ m ∈ [Sentinel.markMissing, Sentinel.markMoved, Sentinel.markInvariant,
      Sentinel.markNotAi, Sentinel.markExhausted], m.toList <+: t.toList
  | _ => False

theorem error?_of_not_isMarked (h : ¬(custom text).IsMarked) :
    Sentinel.error? text.toList = none := by
  have hn (m : String) (hm : ¬m.toList <+: text.toList) : after? m.toList text.toList = none :=
    Option.eq_none_iff_forall_ne_some.mpr fun rest he => hm ⟨rest, (eq_append_of_after? he).symm⟩
  simp only [IsMarked, List.exists_mem_cons_iff, not_or] at h
  obtain ⟨h₁, h₂, h₃, h₄, h₅, -⟩ := h
  simp only [Sentinel.error?, hn _ h₁, hn _ h₂, hn _ h₃, hn _ h₄, hn _ h₅, Option.isSome_none,
    Bool.false_eq_true, if_false]

def fixed? : StorageFault → Option DomainError
  | recordNotFound _ => some (.missing (.other "Record") "Record not found")
  | acquireTimeout | acquireClosed | connection _ =>
    some (.failure .unavailable "Database unavailable")
  | type _ | conversion _ | json _ => some (.failure .corruption "Stored data failed to decode")
  | _ => none

theorem error_of_not_isMarked (h : ¬f.IsMarked) :
    f.error = f.fixed?.getD (errorOfText f.display) := by
  cases f with
  | custom text => rw [error, error?_of_not_isMarked h]; rfl
  | _ => rfl

def problems : List Problem :=
  [.notFound .notFound "Record not found", .unavailable,
    .internalWith .dataCorruption "Stored data failed to decode"] ++
  generic.map DomainError.problem

theorem problem_mem (h : ¬f.IsMarked) : f.error.problem ∈ problems := by
  have hfixed {e : DomainError} (he : f.fixed? = some e) : e.problem ∈ problems := by
    cases f <;> cases he <;> decide
  rw [error_of_not_isMarked h]
  cases he : f.fixed? with
  | none => exact List.mem_append_right _ (List.mem_map_of_mem (errorOfText_mem _))
  | some e => exact hfixed he

def retold (text : String) : StorageFault → StorageFault
  | custom _ => custom text
  | recordNotFound _ => recordNotFound text
  | connection _ => connection text
  | execution _ => execution text
  | query _ => query text
  | wordConversion _ => wordConversion text
  | type _ => type text
  | json _ => json text
  | conversion _ => conversion text
  | migration _ => migration text
  | attributeNotSet _ => attributeNotSet text
  | f => f

theorem fixed?_retold (f : StorageFault) (text : String) : (f.retold text).fixed? = f.fixed? := by
  cases f <;> rfl

theorem problem_concealed (f : StorageFault) (hf : ¬f.IsMarked) :
    f.error.problem ∈ problems ∧ ∀ text, ¬(f.retold text).IsMarked →
      (∀ m ∈ marks, contains m (f.retold text).display = contains m f.display) →
      (firstColumn? (f.retold text).display = some "bots.game_id" ↔
        firstColumn? f.display = some "bots.game_id") →
      (f.retold text).error.problem = f.error.problem := by
  refine ⟨problem_mem hf, fun text ht hm hc => ?_⟩
  rw [error_of_not_isMarked ht, error_of_not_isMarked hf, fixed?_retold, errorOfText_congr hm hc]

def sampleRepeat : StorageFault := .execution "(code: 2067) UNIQUE constraint failed: players.id"

theorem sampleRepeat_concealed :
    (sampleRepeat.retold "UNIQUE constraint failed: games.id").error.problem =
      sampleRepeat.error.problem := by
  obtain ⟨-, h⟩ := problem_concealed sampleRepeat id
  exact h "UNIQUE constraint failed: games.id" id (by decide +kernel) (by decide +kernel)

def feigned (n : Nat) : StorageFault :=
  .custom (Sentinel.markInvariant ++ String.ofList (List.replicate (n + 1) 'x'))

theorem feigned_ne_fault (n : Nat) (s : Sentinel) : feigned n ≠ s.fault := by
  intro h
  have ht := congrArg String.toList (custom.inj h)
  rw [String.toList_append, String.toList_ofList] at ht
  cases s with
  | manyRows g k =>
    have hc := congrArg (·[20]?) ht
    simp only [Sentinel.text, String.append_assoc, String.toList_append] at hc
    cases hc
  | gameMissing | moved | botNotAi | helpExhausted =>
    have hc := congrArg List.head? ht
    simp only [Sentinel.text, String.append_assoc, String.toList_append] at hc
    cases hc

theorem feigned_detail (n : Nat) :
    (feigned n).error.problem.detail = String.ofList (List.replicate (n + 1) 'x') := by
  have he : (feigned n).error =
      .failure .invariant (String.ofList (List.replicate (n + 1) 'x')) := by
    rw [feigned, error, String.toList_append, String.toList_ofList, Sentinel.error?_invariant,
      Sentinel.invariantError_append rfl, Option.getD_some]
  rw [he]
  rfl

theorem problem_not_concealed :
    (¬∃ sentences : List String, ∀ f : StorageFault, (∀ s : Sentinel, f ≠ s.fault) →
      f.error.problem.detail ∈ sentences) ∧
    ¬∀ (f : StorageFault) (text : String), ¬f.IsMarked → ¬(f.retold text).IsMarked →
      (∀ m ∈ "UNIQUE constraint failed: " :: "bots.game_id" :: marks,
        contains m (f.retold text).display = contains m f.display) →
      (f.retold text).error.problem = f.error.problem := by
  refine ⟨fun ⟨sentences, h⟩ => ?_, fun h => ?_⟩
  · -- The sentences are too few for texts of every length.
    generalize hn : (sentences.map String.length).sum = n
    have hm := List.mem_map_of_mem (f := String.length) (h (feigned n) (feigned_ne_fault n))
    have hle := List.le_sum_of_mem hm
    rw [feigned_detail, String.length_ofList, List.length_replicate, hn] at hle
    exact Nat.not_succ_le_self n hle
  · have he := h (.query "UNIQUE constraint failed: bots.game_id, bots.seat")
      "UNIQUE constraint failed: bots.seat, bots.game_id" id id (by decide +kernel)
    exact absurd he (by decide +kernel)

end StorageFault

end ImitationGame
