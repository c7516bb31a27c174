import ImitationGame.Proofs.Json.Object
import ImitationGame.Store.StorageFault

/-! The store's own texts: what the engine hands back of them is read for what the store meant, and
never for a mark of the engine's that a number in it may contain. -/

namespace ImitationGame

open Text.Search Text.Numeral

namespace Sentinel

variable {g turn : Int} {rest : List Char}

def subject : Sentinel → Int
  | gameMissing g | moved g _ _ _ _ | manyRows g _ => g
  | botNotAi b | helpExhausted b => b

def meaning : Sentinel → DomainError
  | gameMissing g => .missing .game s!"Game {g} not found"
  | moved g expected actual _ _ =>
    .conflict .stateMismatch s!"Game {g} is in {actual.name} but {expected.name} was expected"
  | manyRows g n => .failure .invariant s!"game {g} update affected {n} rows"
  | botNotAi _ => .conflict .noFreeSeat "Bot was already claimed"
  | helpExhausted _ => .conflict .helpExhausted "No help left"

theorem missingError_toString (h : IsLong g) :
    missingError (toString g).toList = meaning (.gameMissing g) := by
  rw [missingError, long?_toString h]
  rfl

theorem dropAll_of_after? {mark : List Char} (h : after? mark rest = none) (n : Nat) :
    dropAll mark n rest = rest := by
  cases n with
  | zero => rfl
  | succ n => simp only [dropAll, h]

theorem invariantError_append (h : after? markInvariant.toList rest = none) :
    invariantError (markInvariant.toList ++ rest) =
      .failure .invariant (String.ofList rest) := by
  have hl : (markInvariant.toList ++ rest).length = (19 + rest.length) + 1 := by
    rw [List.length_append]
    change 20 + rest.length = _
    omega
  simp only [invariantError, hl, dropAll, after?_append, dropAll_of_after? h]

open Json Json.Byte

def movedObject (g : Int) (expected actual : Stage) (turn : Int) (handled : Bool) : Json.Bytes :=
  objectOf "game_id" (encoded (signed g)) [("expected", quotation expected.name),
    ("actual", quotation actual.name), ("turn_index", encoded (signed turn)),
    ("handled", encoded (toString handled).toList)]

theorem exists_payload (g : Int) (expected actual : Stage) (turn : Int) (handled : Bool) :
    ∃ payload, (moved g expected actual turn handled).text.toList = markMoved.toList ++ payload ∧
      encoded payload = movedObject g expected actual turn handled := by
  simp only [text, String.append_assoc, String.toList_append, toList_toString]
  refine ⟨_, rfl, ?_⟩
  simp only [encoded_append, movedObject, objectOf, later, part, quotation, List.append_assoc,
    List.cons_append]
  rfl

theorem plain_name (s : Stage) : ∀ b ∈ encoded s.name.toList, Plain b := by
  rcases s with _ | _ | ⟨_ | _, _ | _⟩ | _ <;> decide +kernel

theorem movedObject_read (h : IsLong g) (expected actual : Stage) (turn : Int) (handled : Bool) :
    movedPayload.whole (movedObject g expected actual turn handled) =
      .ok (.record [.int g, .text expected.name, .text actual.name]) := by
  have hread : movedPayload (movedObject g expected actual turn handled ++ []) =
      .ok (.record [.int g, .text expected.name, .text actual.name], []) := by
    refine Finds.record_eq_ok (show (List.zip _ [some (.int g), some (.text expected.name),
      some (.text actual.name)]).mapM _ = some _ from rfl) ?_
    refine .wanted (by decide +kernel) rfl rfl rfl (fun _ => int_signed h) ?_
    refine .wanted (by decide +kernel) rfl rfl rfl (fun rest _ => text_quotation (plain_name _) rest) ?_
    refine .wanted (by decide +kernel) rfl rfl rfl (fun rest _ => text_quotation (plain_name _) rest) ?_
    refine .passed (by decide +kernel) rfl (fun _ => skip_signed turn) ?_
    exact .passed (by decide +kernel) rfl (fun rest _ => skip_flag handled rest) (.nil _)
  rw [List.append_nil] at hread
  rw [Reader.whole, hread]
  rfl

theorem movedError_payload (h : IsLong g) {expected actual : Stage} {handled : Bool}
    {payload : List Char} (hp : encoded payload = movedObject g expected actual turn handled) :
    movedError payload = meaning (.moved g expected actual turn handled) := by
  have hb : (String.ofList payload).toUTF8.data.toList = encoded payload := by
    rw [toUTF8_ofList]
  rw [movedError, hb, hp, movedObject_read h]
  rfl

section

variable (payload : List Char)

theorem error?_missing :
    error? (markMissing.toList ++ payload) = some (missingError payload) := by
  simp only [error?, after?_append]

theorem error?_moved : error? (markMoved.toList ++ payload) = some (movedError payload) := by
  have h : after? markMissing.toList (markMoved.toList ++ payload) = none := rfl
  simp only [error?, h, after?_append]

theorem error?_invariant : error? (markInvariant.toList ++ payload) =
    some (invariantError (markInvariant.toList ++ payload)) := by
  have h₁ : after? markMissing.toList (markInvariant.toList ++ payload) = none := rfl
  have h₂ : after? markMoved.toList (markInvariant.toList ++ payload) = none := rfl
  simp only [error?, h₁, h₂, after?_append, Option.isSome_some, if_true]

theorem error?_notAi : error? (markNotAi.toList ++ payload) =
    some (.conflict .noFreeSeat "Bot was already claimed") := by
  simp only [error?, after?_append]
  rfl

theorem error?_exhausted : error? (markExhausted.toList ++ payload) =
    some (.conflict .helpExhausted "No help left") := by
  simp only [error?, after?_append]
  rfl

end

theorem error?_text (s : Sentinel) (h : IsLong s.subject) :
    error? s.text.toList = some s.meaning := by
  cases s with
  | gameMissing g =>
    have h : IsLong g := h
    rw [text, String.toList_append, error?_missing, missingError_toString h]
  | moved g expected actual turn handled =>
    have h : IsLong g := h
    obtain ⟨payload, hp, he⟩ := exists_payload g expected actual turn handled
    rw [hp, error?_moved, movedError_payload h he]
  | manyRows g n =>
    have ht : (manyRows g n).text = markInvariant ++ s!"game {g} update affected {n} rows" := by
      simp only [text, String.append_assoc]
      rfl
    have hn : after? markInvariant.toList s!"game {g} update affected {n} rows".toList = none := by
      simp only [String.toList_append]
      rfl
    rw [ht, String.toList_append, error?_invariant, invariantError_append hn, String.ofList_toList]
    rfl
  | botNotAi b => rw [text, String.toList_append, error?_notAi, meaning]
  | helpExhausted b => rw [text, String.toList_append, error?_exhausted, meaning]

end Sentinel

namespace StorageFault

def generic : List DomainError :=
  [.conflict (.other "Unique") "Seat already exists in this game",
    .conflict (.other "Unique") "Unique constraint violation",
    .invalidOther "Foreign key constraint violation", .invalidOther "Check constraint violation",
    .failure .timeout "Database timeout", .failure (.other "DbErr") "Database operation failed"]

theorem errorOfText_mem (shown : String) : errorOfText shown ∈ generic := by
  simp only [errorOfText, generic, List.mem_cons]
  split
  · split <;> simp
  split
  · simp
  split
  · simp
  split <;> simp

end StorageFault

namespace Sentinel

theorem meaning_not_generic (s : Sentinel) : s.meaning ∉ StorageFault.generic := by
  cases s <;> simp [meaning, StorageFault.generic, DomainError.missing, DomainError.conflict,
    DomainError.failure, DomainError.invalidOther, DomainError.invalid]

theorem error_fault (s : Sentinel) (h : IsLong s.subject) :
    s.fault.error = s.meaning ∧ ∀ shown, s.fault.error ≠ StorageFault.errorOfText shown := by
  have he : s.fault.error = s.meaning := by
    rw [fault, StorageFault.error, error?_text s h, Option.getD_some]
  refine ⟨he, fun shown hs => s.meaning_not_generic ?_⟩
  rw [← he, hs]
  exact StorageFault.errorOfText_mem shown

/-- The number of the game holds the mark of a failed key, and that of the turn the mark of a failed
check. -/
def sampleMoved : Sentinel := .moved (-23505) .joined .finished 23514 true

theorem sampleMoved_error : IsLong sampleMoved.subject ∧ sampleMoved.fault.error =
    .conflict .stateMismatch "Game -23505 is in Finished but PlayersJoined was expected" := by
  have h : IsLong sampleMoved.subject := by decide
  exact ⟨h, (error_fault sampleMoved h).1⟩

end Sentinel

end ImitationGame
