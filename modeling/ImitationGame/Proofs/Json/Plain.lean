import ImitationGame.Json.Datum
import ImitationGame.Proofs.Outcome
import ImitationGame.Proofs.Text.Numeral

namespace ImitationGame.Json

open Byte Reader

variable {b : UInt8} {ds r rest : Bytes} {cs : List Char} {n k limit : Nat}

def encoded (cs : List Char) : Bytes := cs.flatMap String.utf8EncodeChar

theorem encoded_append (cs cs' : List Char) : encoded (cs ++ cs') = encoded cs ++ encoded cs' :=
  List.flatMap_append

theorem toUTF8_ofList (cs : List Char) : (String.ofList cs).toUTF8 = ⟨(encoded cs).toArray⟩ := by
  rw [String.toUTF8_eq_toByteArray, String.toByteArray_ofList]
  simp [List.utf8Encode, encoded, ByteArray.ext_iff]

theorem fromUTF8?_encoded (cs : List Char) :
    String.fromUTF8? ⟨(encoded cs).toArray⟩ = some (String.ofList cs) := by
  rw [← toUTF8_ofList, String.toUTF8_eq_toByteArray, String.fromUTF8?,
    dif_pos (String.ofList cs).isValidUTF8]
  rfl

theorem skip_cons (h : isSpace b = false) : skip (b :: r) = b :: r := by
  rw [skip, List.dropWhile_cons_of_neg (by simp [h])]

theorem ne_of_isDigit {c : UInt8} (h : isDigit b = true) (hc : isDigit c = false) : b ≠ c := by
  rintro rfl
  exact Bool.false_ne_true (hc.symm.trans h)

theorem isSpace_of_isDigit (h : isDigit b = true) : isSpace b = false := by
  simp only [isSpace, Bool.or_eq_false_iff, beq_eq_false_iff_ne]
  exact ⟨⟨⟨ne_of_isDigit h rfl, ne_of_isDigit h rfl⟩, ne_of_isDigit h rfl⟩, ne_of_isDigit h rfl⟩

theorem wordTail?_of_isDigit (h : isDigit b = true) : wordTail? b = none := by
  rw [wordTail?, if_neg (ne_of_isDigit h rfl), if_neg (ne_of_isDigit h rfl),
    if_neg (ne_of_isDigit h rfl)]

def total (k : Nat) (ds : Bytes) : Nat := ds.foldl (fun k b => k * 10 + digit b) k

theorem le_total (k : Nat) (ds : Bytes) : k ≤ total k ds := by
  induction ds generalizing k with
  | nil => exact Nat.le_refl k
  | cons b ds ih => exact Nat.le_trans (by omega) (ih (k * 10 + digit b))

theorem gather_eq (h : total k ds < limit) : Number.gather limit k ds = (total k ds, []) := by
  induction ds generalizing k with
  | nil => rfl
  | cons b ds ih =>
    have hb : k * 10 + digit b < limit := Nat.lt_of_le_of_lt (le_total _ ds) h
    rw [Number.gather, if_pos hb, ih h]
    rfl

structure Digits (n : Nat) (ds : Bytes) : Prop where
  all : ∀ b ∈ ds, isDigit b = true
  ne_nil : ds ≠ []
  value : total 0 ds = n
  eq_zero : ds.head? = some zero → ds = [zero]

theorem digit_of_isDigit {c : Char} (h : c.isDigit = true) :
    String.utf8EncodeChar c = [UInt8.ofNat c.toNat] ∧ isDigit (UInt8.ofNat c.toNat) = true ∧
      digit (UInt8.ofNat c.toNat) = c.toNat - '0'.toNat := by
  obtain ⟨hl, hu⟩ : 48 ≤ c.toNat ∧ c.toNat ≤ 57 := Char.isDigit_iff_toNat.mp h
  have hd : ∀ k < 58, 48 ≤ k → isDigit (UInt8.ofNat k) = true ∧
      digit (UInt8.ofNat k) = k - 48 := by decide
  refine ⟨?_, hd _ (by omega) hl⟩
  exact if_pos (show c.toNat ≤ 127 by omega)

theorem encoded_digits (h : ∀ c ∈ cs, c.isDigit = true) :
    encoded cs = cs.map fun c => UInt8.ofNat c.toNat := by
  induction cs with
  | nil => rfl
  | cons c cs ih =>
    obtain ⟨hc, hcs⟩ := List.forall_mem_cons.mp h
    rw [List.map_cons, ← ih hcs]
    exact congrArg (· ++ encoded cs) (digit_of_isDigit hc).1

theorem total_encoded (h : ∀ c ∈ cs, c.isDigit = true) (k : Nat) :
    total k (encoded cs) = cs.foldl (fun n c => n * 10 + (c.toNat - '0'.toNat)) k := by
  rw [encoded_digits h]
  induction cs generalizing k with
  | nil => rfl
  | cons c cs ih =>
    obtain ⟨hc, hcs⟩ := List.forall_mem_cons.mp h
    rw [List.map_cons, List.foldl_cons, ← ih hcs, ← (digit_of_isDigit hc).2.2]
    rfl

theorem digits_toDigits (n : Nat) : Digits n (encoded (Nat.toDigits 10 n)) := by
  have hc : ∀ c ∈ Nat.toDigits 10 n, c.isDigit = true :=
    fun _ => Text.Numeral.isDigit_of_mem_toDigits
  have he := encoded_digits hc
  refine ⟨?_, ?_, ?_, ?_⟩
  · rw [he]
    exact List.forall_mem_map.mpr fun c h => (digit_of_isDigit (hc c h)).2.1
  · rw [he]
    exact mt List.map_eq_nil_iff.mp Nat.toDigits_ne_nil
  · rw [total_encoded hc]
    exact Text.Numeral.value_toDigits n
  · intro hz
    rcases Nat.eq_zero_or_pos n with rfl | hn
    · rfl
    rw [he, List.head?_map, Option.map_eq_some_iff] at hz
    obtain ⟨c, hhead, hb⟩ := hz
    obtain ⟨-, -, hd⟩ := digit_of_isDigit (hc c (List.mem_of_head? hhead))
    have hl := (Char.isDigit_iff_toNat.mp (hc c (List.mem_of_head? hhead))).1
    have h0 : c.toNat - '0'.toNat = 0 := by rw [← hd, hb]; rfl
    obtain rfl : c = '0' := Char.toNat_inj.mp (Nat.le_antisymm (Nat.le_of_sub_eq_zero h0) hl)
    exact absurd hhead (Text.Numeral.head?_toDigits hn)

inductive Stops : Bytes → Prop where
  | comma (r : Bytes) : Stops (Byte.comma :: r)
  | close (r : Bytes) : Stops (closeObject :: r)

namespace Digits

theorem exists_cons (h : Digits n ds) (rest : Bytes) (hr : Stops rest) : ∃ b r,
    ds ++ rest = b :: r ∧ isDigit b = true ∧ (b = zero && r.head?.any isDigit) = false := by
  obtain ⟨b, ds, rfl⟩ := List.exists_cons_of_ne_nil h.ne_nil
  refine ⟨b, ds ++ rest, rfl, h.all b List.mem_cons_self, ?_⟩
  by_cases hb : b = zero
  · subst hb
    obtain rfl : ds = [] := List.cons.inj (h.eq_zero rfl) |>.2
    cases hr <;> rfl
  · simp [hb]

theorem takeWhile_append (h : Digits n ds) (hr : Stops rest) :
    (ds ++ rest).takeWhile isDigit = ds := by
  rw [List.takeWhile_append_of_pos h.all]
  cases hr <;> exact List.append_nil ds

theorem dropWhile_append (h : Digits n ds) (hr : Stops rest) :
    (ds ++ rest).dropWhile isDigit = rest := by
  rw [List.dropWhile_append_of_pos h.all]
  cases hr <;> rfl

theorem read_eq_whole (h : Digits n ds) (hr : Stops rest) (negative : Bool) :
    Number.read negative (ds ++ rest) = Number.whole negative ds rest := by
  obtain ⟨b, r, he, hb, hz⟩ := h.exists_cons rest hr
  have ht := h.takeWhile_append hr
  have hd := h.dropWhile_append hr
  rw [he] at ht hd ⊢
  rw [Number.read, hb, hz, ht, hd]
  cases hr <;> rfl

theorem pass_eq_ok (h : Digits n ds) (hr : Stops rest) : Number.pass (ds ++ rest) = .ok rest := by
  obtain ⟨b, r, he, hb, hz⟩ := h.exists_cons rest hr
  have hd := h.dropWhile_append hr
  rw [he] at hd ⊢
  rw [Number.pass, hb, hz, hd]
  cases hr <;> rfl

theorem ofWhole_eq (h : Digits n ds) (hn : n < 2 ^ 64) :
    Number.Significand.ofWhole ds = ⟨n, 0⟩ := by
  have ht : total 0 ds < Nat.pow 2 64 := h.value.symm ▸ hn
  rw [Number.Significand.ofWhole, gather_eq ht, h.value]
  rfl

theorem read_positive (h : Digits n ds) (hr : Stops rest) (hn : n < 2 ^ 64) :
    Number.read false (ds ++ rest) = .ok (.whole n, rest) := by
  rw [h.read_eq_whole hr, Number.whole, h.ofWhole_eq hn]
  rfl

theorem read_negative (h : Digits n ds) (hr : Stops rest) (h₀ : 0 < n) (hn : n ≤ 2 ^ 63) :
    Number.read true (ds ++ rest) = .ok (.whole (-n), rest) := by
  have hp : ¬Nat.pow 2 63 < n := Nat.not_lt.mpr hn
  rw [h.read_eq_whole hr, Number.whole, h.ofWhole_eq (by omega)]
  simp [Nat.ne_of_gt h₀, hp]

end Digits

open Text.Numeral

theorem ofNumber_whole {i : Int} (h : IsLong i) (r : Bytes) :
    (Except.ok (.whole i, r) : Except ReadFault (Number.Value × Bytes)).bind Reader.ofNumber =
      .ok (.int i, r) := by
  obtain ⟨hl, hu⟩ := isLong_iff.mp h
  refine if_pos ?_
  simpa [Reader.isLong] using ⟨hl, hu⟩

theorem int_signed {i : Int} (h : IsLong i) (hr : Stops rest) :
    Reader.int (encoded (signed i) ++ rest) = .ok (.int i, rest) := by
  have hi := isLong_iff.mp h
  cases i with
  | ofNat n =>
    have hd := digits_toDigits n
    obtain ⟨b, r, he, hb, -⟩ := hd.exists_cons rest hr
    have hm : b ≠ minus := ne_of_isDigit hb rfl
    have hread := hd.read_positive hr (by rw [Int.ofNat_eq_natCast] at hi; omega)
    rw [he] at hread
    rw [signed, Reader.int, he, skip_cons (isSpace_of_isDigit hb)]
    simp only [if_neg hm, if_pos hb, hread]
    exact ofNumber_whole h rest
  | negSucc n =>
    have hread := (digits_toDigits (n + 1)).read_negative hr (Nat.succ_pos n) (by omega)
    have he : encoded (signed (.negSucc n)) ++ rest =
        minus :: (encoded (Nat.toDigits 10 (n + 1)) ++ rest) := rfl
    rw [Reader.int, he, skip_cons rfl]
    simp only [if_true, hread]
    exact ofNumber_whole h rest

theorem skip_signed (i : Int) (hr : Stops rest) :
    Skip.value (encoded (signed i) ++ rest) = .ok rest := by
  cases i with
  | ofNat n =>
    have hd := digits_toDigits n
    obtain ⟨b, r, he, hb, -⟩ := hd.exists_cons rest hr
    have hm : b ≠ minus := ne_of_isDigit hb rfl
    have hpass := hd.pass_eq_ok hr
    rw [he] at hpass
    rw [signed, Skip.value, Skip.item, he, skip_cons (isSpace_of_isDigit hb)]
    simp only [wordTail?_of_isDigit hb, if_neg hm, if_pos hb, hpass]
    rfl
  | negSucc n =>
    have hpass := (digits_toDigits (n + 1)).pass_eq_ok hr
    have he : encoded (signed (.negSucc n)) ++ rest =
        minus :: (encoded (Nat.toDigits 10 (n + 1)) ++ rest) := rfl
    have hw : wordTail? minus = none := rfl
    rw [Skip.value, Skip.item, he, skip_cons rfl]
    simp only [hw, if_true, hpass]
    rfl

theorem skip_flag (flag : Bool) (rest : Bytes) :
    Skip.value (encoded (toString flag).toList ++ rest) = .ok rest := by
  cases flag <;> rfl

def Plain (b : UInt8) : Prop := 0x20 ≤ b ∧ b ≠ Byte.quote ∧ b ≠ backslash

instance : DecidablePred Plain := fun _ => inferInstanceAs (Decidable (_ ∧ _ ∧ _))

theorem unquote_cons (h : Plain b) (out r : Bytes) :
    Quotation.unquote out (b :: r) = Quotation.unquote (b :: out) r := by
  obtain ⟨hb, hq, hs⟩ := h
  have hb' : ¬b < 0x20 := UInt8.not_lt.mpr hb
  rw [Quotation.unquote, if_neg hb']
  · exact hq
  · exact fun he _ => hs he
  · exact fun _ _ _ _ _ he _ => hs he
  · exact fun _ he _ => hs he
  · exact fun _ _ he _ => hs he

theorem unquote_plain {bs : Bytes} (h : ∀ b ∈ bs, Plain b) (out rest : Bytes) :
    Quotation.unquote out (bs ++ Byte.quote :: rest) = .ok (out.reverse ++ bs, rest) := by
  induction bs generalizing out with
  | nil => rw [List.append_nil]; rfl
  | cons b bs ih =>
    obtain ⟨hb, hbs⟩ := List.forall_mem_cons.mp h
    rw [List.cons_append, unquote_cons hb, ih hbs, List.reverse_cons, List.append_assoc]
    rfl

theorem read_plain {s : String} (h : ∀ b ∈ encoded s.toList, Plain b) (rest : Bytes) :
    Quotation.read (encoded s.toList ++ Byte.quote :: rest) = .ok (s, rest) := by
  rw [Quotation.read, unquote_plain h, ok_bind, List.reverse_nil, List.nil_append]
  simp only [fromUTF8?_encoded, String.ofList_toList, pure_eq_ok]

def quotation (s : String) : Bytes := Byte.quote :: (encoded s.toList ++ [Byte.quote])

theorem quotation_append (s : String) (rest : Bytes) :
    quotation s ++ rest = Byte.quote :: (encoded s.toList ++ Byte.quote :: rest) := by
  rw [quotation, List.cons_append, List.append_assoc]
  rfl

theorem text_quotation {s : String} (h : ∀ b ∈ encoded s.toList, Plain b) (rest : Bytes) :
    Reader.text (quotation s ++ rest) = .ok (.text s, rest) := by
  rw [quotation_append, Reader.text, skip_cons rfl]
  change (Quotation.read _).map _ = _
  rw [read_plain h]
  rfl

end ImitationGame.Json
