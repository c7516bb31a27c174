import ImitationGame.Chat.Reply
import ImitationGame.Proofs.Outcome

namespace ImitationGame

namespace Text

open Blank

def Unindented (cs : List Char) : Prop := ∀ c, cs.head? = some c → isBlank c = false

structure IsClean (text : String) : Prop where
  not_blank : ∃ c ∈ text.toList, isBlank c = false
  length_le : text.toList.length ≤ 280
  unindented : Unindented text.toList

instance (cs : List Char) : Decidable (Unindented cs) :=
  decidable_of_iff (cs.head?.all (fun c => !isBlank c) = true) (by cases cs <;> simp [Unindented])

instance (text : String) : Decidable (IsClean text) :=
  decidable_of_iff (text.toList.any (fun c => !isBlank c) = true ∧ text.toList.length ≤ 280 ∧
      Unindented text.toList)
    ⟨fun ⟨hb, hl, hu⟩ => ⟨by simpa using hb, hl, hu⟩,
      fun h => ⟨by simpa using h.not_blank, h.length_le, h.unindented⟩⟩

variable {cs : List Char} {raw text : String}

theorem Unindented.of_prefix {ds : List Char} (h : Unindented cs) (hp : ds <+: cs) :
    Unindented ds := by
  intro c hc
  obtain ⟨rest, rfl⟩ := hp
  exact h c (by rw [List.head?_append, hc, Option.some_or])

theorem trimRight_isPrefix (cs : List Char) : trimRight cs <+: cs := by
  have h : trimLeft cs.reverse <:+ cs.reverse := List.dropWhile_suffix _
  simpa [trimRight] using List.reverse_prefix.mpr h

theorem unindented_trim (cs : List Char) : Unindented (trim cs) :=
  Unindented.of_prefix (fun _ => head_trimLeft) (trimRight_isPrefix _)

theorem Unindented.unwrap (h : Unindented cs) (pair : Char × Char) :
    Unindented (unwrap cs pair) := by
  unfold Text.unwrap
  split
  · split
    · exact unindented_trim _
    · exact h
  · exact h

theorem Unindented.foldl_unwrap (h : Unindented cs) (pairs : List (Char × Char)) :
    Unindented (pairs.foldl Text.unwrap cs) := by
  induction pairs generalizing cs with
  | nil => exact h
  | cons pair pairs ih => exact ih (h.unwrap pair)

theorem Unindented.isClean (h : Unindented cs) (hn : cs ≠ []) (hl : cs.length ≤ maxMessageLength) :
    IsClean (String.ofList cs) := by
  obtain ⟨c, rest, rfl⟩ := List.exists_cons_of_ne_nil hn
  refine ⟨⟨c, ?_, h c rfl⟩, ?_, ?_⟩
  · simp
  · rwa [String.toList_ofList]
  · rwa [String.toList_ofList]

theorem isClean_of_acceptMessage (h : acceptMessage raw = .ok text) : IsClean text := by
  simp only [acceptMessage, ite_error_eq_ok, Except.ok.injEq, Nat.not_lt] at h
  obtain ⟨hn, hl, rfl⟩ := h
  exact (unindented_trim _).isClean hn hl

theorem isClean_of_clean (h : clean raw = some text) : IsClean text := by
  obtain ⟨cs, hcs, rfl⟩ := Option.map_eq_some_iff.mp h
  have hu := (unindented_trim raw.toList).foldl_unwrap quotePairs
  unfold cleanChars at hcs
  split at hcs
  · cases hcs
  · rename_i c rest hf
    obtain rfl := Option.some.inj hcs
    rw [hf] at hu
    -- The cut comes last, and leaves the beginning as it was trimmed.
    refine (hu.of_prefix (List.take_prefix _ _)).isClean ?_ (List.length_take_le _ _)
    simp [maxMessageLength]

end Text

theorem MessageKind.isClean_canned (kind : MessageKind) : Text.IsClean kind.canned := by
  cases kind <;> decide +kernel

theorem Reply.isClean_usable (kind : MessageKind) (reply : Reply) :
    Text.IsClean (reply.usable kind) := by
  unfold usable
  split
  · rename_i raw
    cases hc : Text.clean raw with
    | none => exact kind.isClean_canned
    | some text => exact Text.isClean_of_clean hc
  · exact kind.isClean_canned

end ImitationGame
