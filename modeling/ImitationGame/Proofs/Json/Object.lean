import ImitationGame.Proofs.Json.Plain

namespace ImitationGame.Json

open Byte Reader

def part (name : String) (value : Bytes) : Bytes := quotation name ++ Byte.colon :: value

def later : List (String × Bytes) → Bytes
  | [] => [closeObject]
  | (name, value) :: parts => Byte.comma :: (part name value ++ later parts)

def objectOf (name : String) (value : Bytes) (parts : List (String × Bytes)) : Bytes :=
  openObject :: (part name value ++ later parts)

inductive Finds (fields : List Field) :
    List (String × Bytes) → List (Option Datum) → List (Option Datum) → Prop where
  | nil (found : List (Option Datum)) : Finds fields [] found found
  | wanted {name : String} {value : Bytes} {parts : List (String × Bytes)}
      {found found' : List (Option Datum)} {i : Nat} {f : Field} {d : Datum}
      (hp : ∀ b ∈ encoded name.toList, Plain b)
      (hi : fields.findIdx? (fun f => f.name == name) = some i) (hf : fields[i]? = some f)
      (hn : found[i]?.join = none)
      (hr : ∀ rest, Stops rest → f.read (value ++ rest) = .ok (d, rest))
      (h : Finds fields parts (found.set i (some d)) found') :
      Finds fields ((name, value) :: parts) found found'
  | passed {name : String} {value : Bytes} {parts : List (String × Bytes)}
      {found found' : List (Option Datum)} (hp : ∀ b ∈ encoded name.toList, Plain b)
      (hi : fields.findIdx? (fun f => f.name == name) = none)
      (hs : ∀ rest, Stops rest → Skip.value (value ++ rest) = .ok rest)
      (h : Finds fields parts found found') : Finds fields ((name, value) :: parts) found found'

variable {fields : List Field} {found found' : List (Option Datum)} {parts : List (String × Bytes)}
variable {name : String} {value rest : Bytes} {ds : List Datum}

theorem stops_later (parts : List (String × Bytes)) (rest : Bytes) :
    Stops (later parts ++ rest) := by
  cases parts with
  | nil => exact .close rest
  | cons => exact .comma _

theorem length_le_later (parts : List (String × Bytes)) :
    parts.length ≤ (later parts).length := by
  induction parts with
  | nil => exact Nat.zero_le _
  | cons p parts ih =>
    rw [later, List.length_cons, List.length_cons, List.length_append]
    omega

namespace Finds

theorem step {first : Bool} {c : Bytes} (h : Finds fields ((name, value) :: parts) found found')
    (hm : member first c = .ok (true, encoded name.toList ++
      Byte.quote :: Byte.colon :: (value ++ (later parts ++ rest)))) :
    ∃ between, Finds fields parts between found' ∧ ∀ n, partsInObject fields (n + 1) first found c =
      partsInObject fields n false between (later parts ++ rest) := by
  have hc : Reader.colon (Byte.colon :: (value ++ (later parts ++ rest))) =
    .ok (value ++ (later parts ++ rest)) := rfl
  have hst := stops_later parts rest
  cases h with
  | wanted hp hi hf hn hr h =>
    refine ⟨_, h, fun n => ?_⟩
    simp only [partsInObject, hm, ok_bind, read_plain hp, hi, hn, hc, hf, hr _ hst]
    rfl
  | passed hp hi hs h =>
    refine ⟨_, h, fun n => ?_⟩
    simp only [partsInObject, hm, ok_bind, read_plain hp, hi, hc, hs _ hst]
    rfl

variable (hd : (fields.zip found').mapM (fun (f, d) => d <|> f.inObject) = some ds)

include hd

theorem later_eq_ok (h : Finds fields parts found found') (n : Nat) :
    partsInObject fields (n + 1 + parts.length) false found (later parts ++ rest) =
      .ok (ds, rest) := by
  induction parts generalizing found with
  | nil =>
    cases h
    have hm : member false (later [] ++ rest) = .ok (false, rest) := rfl
    simp only [List.length_nil, Nat.add_zero, partsInObject, hm, ok_bind, hd]
    rfl
  | cons p parts ih =>
    obtain ⟨name, value⟩ := p
    have hm : member false (later ((name, value) :: parts) ++ rest) = .ok (true,
        encoded name.toList ++ Byte.quote :: Byte.colon :: (value ++ (later parts ++ rest))) := by
      rw [later, part, List.cons_append, List.append_assoc, List.append_assoc, quotation_append]
      rfl
    obtain ⟨between, h, hs⟩ := h.step hm
    rw [List.length_cons, ← Nat.add_assoc, hs, ih h]

theorem record_eq_ok (h : Finds fields ((name, value) :: parts) (fields.map fun _ => none) found') :
    record fields (objectOf name value parts ++ rest) = .ok (.record ds, rest) := by
  have he : objectOf name value parts ++ rest = openObject :: Byte.quote ::
      (encoded name.toList ++ Byte.quote :: Byte.colon :: (value ++ (later parts ++ rest))) := by
    rw [objectOf, part, List.cons_append, List.append_assoc, List.append_assoc, quotation_append]
    rfl
  generalize hr : encoded name.toList ++ _ = r at he
  -- Every part has more bytes than steps are needed for it.
  obtain ⟨n, hn⟩ : ∃ n, (Byte.quote :: r).length + 1 = n + 1 + parts.length + 1 := by
    refine ⟨r.length - parts.length, ?_⟩
    have hl := length_le_later parts
    rw [← hr]
    simp only [List.length_append, List.length_cons]
    omega
  have hm : member true (Byte.quote :: r) = .ok (true, r) := rfl
  rw [← hr] at hm
  obtain ⟨between, h, hs⟩ := h.step hm
  have hp := (hs _).trans (later_eq_ok hd h n)
  rw [hr, ← hn] at hp
  rw [he, record, skip_cons rfl]
  change (partsInObject _ _ _ _ _).map _ = _
  rw [hp]
  rfl

end Finds

end ImitationGame.Json
