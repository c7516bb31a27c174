import ImitationGame.Store.Timestamp
import ImitationGame.Proofs.Time.Calendar
import Mathlib.Algebra.Group.Nat.Defs
import Mathlib.Data.List.DropRight
import Mathlib.Tactic.Lift

namespace ImitationGame

variable {xs ys us vs : List Char} {c : Char}

def Precedes (xs ys : List Char) : Prop :=
  ∀ us vs, (xs ++ us).lex (ys ++ vs) = true ∧ (ys ++ vs).lex (xs ++ us) = false

namespace Precedes

theorem of_head {d : Char} (h : c < d) : Precedes (c :: xs) (d :: ys) := by
  intro us vs
  simp [h, Char.lt_asymm h, (Char.ne_of_lt h).symm]

theorem cons (h : Precedes xs ys) (c : Char) : Precedes (c :: xs) (c :: ys) := by
  intro us vs
  simpa [List.lex] using h us vs

theorem append (h : Precedes xs ys) (us vs : List Char) : Precedes (xs ++ us) (ys ++ vs) := by
  intro us' vs'
  rw [List.append_assoc, List.append_assoc]
  exact h _ _

theorem after (h : Precedes xs ys) (ps : List Char) : Precedes (ps ++ xs) (ps ++ ys) := by
  induction ps with
  | nil => exact h
  | cons c ps ih => exact ih.cons c

theorem of_cons (h : Precedes (c :: xs) (c :: ys)) : Precedes xs ys := by
  intro us vs
  simpa using h us vs

theorem of_append (h : Precedes (xs ++ us) (ys ++ vs)) (hxy : ¬xs <+: ys) (hyx : ¬ys <+: xs) :
    Precedes xs ys := by
  induction xs generalizing ys with
  | nil => exact absurd (List.nil_prefix) hxy
  | cons x xs ih =>
    cases ys with
    | nil => exact absurd (List.nil_prefix) hyx
    | cons y ys =>
      by_cases hc : x = y
      · subst hc
        rw [List.prefix_cons_inj] at hxy hyx
        exact (ih h.of_cons hxy hyx).cons x
      · have hl := (h [] []).1
        simp [hc] at hl
        exact .of_head hl

end Precedes

namespace Stamp

variable {m n : Nat} {a b : Int} {width : Nat}

theorem digitChar_lt : ∀ n < 10, ∀ m < n, m.digitChar < n.digitChar := by decide

theorem padded_succ (hw : 0 < width) (n : Nat) :
    padded (width + 1) n = padded width (n / 10 : Nat) ++ [(n % 10).digitChar] := by
  simp only [padded, Int.toNat_natCast]
  by_cases h : n < 10
  · have hz : Nat.toDigits 10 0 = List.replicate 1 '0' := rfl
    rw [Nat.toDigits_of_lt_base h, Nat.div_eq_of_lt h, Nat.mod_eq_of_lt h, hz,
      List.replicate_append_replicate]
    simp [Nat.sub_add_cancel hw]
  · rw [Nat.toDigits_of_base_le (by decide) (Nat.le_of_not_lt h), List.length_append,
      List.length_singleton, Nat.add_sub_add_right, List.append_assoc]

theorem padded_precedes_nat (h : m < n) (hn : n < 10 ^ (width + 1)) :
    Precedes (padded (width + 1) m) (padded (width + 1) n) := by
  induction width generalizing m n with
  | zero =>
    have hd (k : Nat) (hk : k < 10) : padded 1 k = [k.digitChar] := by
      simp [padded, Nat.toDigits_of_lt_base hk]
    rw [hd m (by omega), hd n (by omega)]
    exact .of_head (digitChar_lt n (by omega) m h)
  | succ width ih =>
    rw [padded_succ (Nat.succ_pos width), padded_succ (Nat.succ_pos width)]
    rcases Nat.lt_or_eq_of_le (Nat.div_le_div_right (c := 10) (Nat.le_of_lt h)) with hlt | heq
    · exact (ih hlt (Nat.div_lt_of_lt_mul (by omega))).append _ _
    · rw [heq]
      exact Precedes.after (.of_head (digitChar_lt _ (by omega) _ (by omega))) _

theorem padded_precedes (ha : 0 ≤ a) (h : a < b) (hb : b < 10 ^ (width + 1)) :
    Precedes (padded (width + 1) a) (padded (width + 1) b) := by
  lift a to Nat using ha
  lift b to Nat using by omega
  exact padded_precedes_nat (by exact_mod_cast h) (by exact_mod_cast hb)

theorem field_precedes (ha : 0 ≤ a) (hb : b < 10 ^ (width + 1))
    (h : a < b ∨ a = b ∧ Precedes xs ys) :
    Precedes (padded (width + 1) a ++ c :: xs) (padded (width + 1) b ++ c :: ys) := by
  rcases h with h | ⟨rfl, h⟩
  · exact (padded_precedes ha h hb).append _ _
  · exact (h.cons c).after _

def timeText (second : Int) : List Char :=
  padded 2 (second / 3600) ++ ':' ::
    (padded 2 (second % 3600 / 60) ++ ':' :: padded 2 (second % 60))

theorem timeText_precedes (ha : 0 ≤ a) (hb : b < 86400) (h : a < b) :
    Precedes (timeText a) (timeText b) := by
  have hsecond (hs : a % 60 < b % 60) : Precedes (padded 2 (a % 60)) (padded 2 (b % 60)) :=
    padded_precedes (by omega) hs (by omega)
  refine field_precedes (by omega) (by omega) ?_
  rcases Int.lt_or_eq_of_le (Int.ediv_le_ediv (by decide : (0 : Int) < 3600) (Int.le_of_lt h))
    with hlt | heq
  · exact .inl hlt
  refine .inr ⟨heq, field_precedes (by omega) (by omega) ?_⟩
  by_cases hlt : a % 3600 / 60 < b % 3600 / 60
  · exact .inl hlt
  · exact .inr ⟨by omega, hsecond (by omega)⟩

def dateText (d : Date) (time : List Char) : List Char :=
  padded 4 d.year ++ '-' :: (padded 2 d.month ++ '-' :: (padded 2 d.day ++ 'T' :: time))

theorem dateText_precedes (ha : 0 ≤ (Date.ofDay a).year) (hb : (Date.ofDay b).year ≤ 9999)
    (h : a < b ∨ a = b ∧ Precedes xs ys) :
    Precedes (dateText (Date.ofDay a) xs) (dateText (Date.ofDay b) ys) := by
  obtain ⟨⟨hmonth, -⟩, hday, -⟩ := Date.ofDay_bounds a
  obtain ⟨⟨-, hmonth'⟩, -, hday'⟩ := Date.ofDay_bounds b
  refine field_precedes ha (by omega) ?_
  rcases h with h | ⟨rfl, h⟩
  · refine (Date.ofDay_before h).imp_right fun ⟨hy, hm⟩ => ⟨hy, ?_⟩
    refine field_precedes (by omega) (by omega) (hm.imp_right fun ⟨hm, hd⟩ => ⟨hm, ?_⟩)
    exact field_precedes (by omega) (by omega) (.inl hd)
  · refine .inr ⟨rfl, field_precedes (by omega) (by omega) (.inr ⟨rfl, ?_⟩)⟩
    exact field_precedes (by omega) (by omega) (.inr ⟨rfl, h⟩)

def clock (total : Int) : List Char :=
  dateText (Date.ofDay (total / 86400)) (timeText (total % 86400))

theorem clock_precedes (ha : 0 ≤ (Date.ofDay (a / 86400)).year)
    (hb : (Date.ofDay (b / 86400)).year ≤ 9999) (h : a < b) : Precedes (clock a) (clock b) := by
  refine dateText_precedes ha hb ?_
  rcases Int.lt_or_eq_of_le (Int.ediv_le_ediv (by decide : (0 : Int) < 86400) (Int.le_of_lt h))
    with hlt | heq
  · exact .inl hlt
  · exact .inr ⟨heq, timeText_precedes (by omega) (by omega) (by omega)⟩

theorem fraction_precedes (ha : 0 ≤ a) (hb : b < 1000000000) (h : a < b)
    (hab : ¬fraction a <+: fraction b) (hba : ¬fraction b <+: fraction a) :
    Precedes (fraction a) (fraction b) := by
  have ha0 : a ≠ 0 := by
    rintro rfl
    exact hab List.nil_prefix
  have hb0 : b ≠ 0 := by omega
  have hf {n : Int} (hn : n ≠ 0) : fraction n = '.' :: (padded 9 n).rdropWhile (· == '0') :=
    if_neg hn
  rw [hf ha0, hf hb0] at hab hba ⊢
  rw [List.prefix_cons_inj] at hab hba
  obtain ⟨us, hus⟩ := List.rdropWhile_prefix (· == '0') (l := padded 9 a)
  obtain ⟨vs, hvs⟩ := List.rdropWhile_prefix (· == '0') (l := padded 9 b)
  have hp : Precedes (padded 9 a) (padded 9 b) := padded_precedes ha h hb
  rw [← hus, ← hvs] at hp
  exact (hp.of_append hab hba).cons '.'

theorem written_utc (t : Instant) : (utc t).written =
    if 0 ≤ (Date.ofDay (t / Instant.perSecond / 86400)).year ∧
      (Date.ofDay (t / Instant.perSecond / 86400)).year ≤ 9999 then
      .ok (clock (t / Instant.perSecond) ++ (fraction (t % Instant.perSecond) ++ ['Z']))
    else .error .year := by
  simp only [written, utc, Int.add_zero, Int.natAbs_zero]
  by_cases h : 0 ≤ (Date.ofDay (t / Instant.perSecond / 86400)).year ∧
      (Date.ofDay (t / Instant.perSecond / 86400)).year ≤ 9999
  · rw [if_pos h, if_neg (by omega)]
    simp [clock, dateText, timeText, offsetText]
  · rw [if_neg h, if_pos (by omega)]

end Stamp

namespace Instant

theorem isStorable_iff {t : Int} :
    isStorable t = true ↔ seconds (-62167219200) ≤ t ∧ t ≤ latest := by
  have hday : -719528 ≤ t / perSecond / 86400 ∧ t / perSecond / 86400 ≤ 2932896 ↔
      seconds (-62167219200) ≤ t ∧ t ≤ latest := by
    change -719528 ≤ t / 1000000000 / 86400 ∧ t / 1000000000 / 86400 ≤ 2932896 ↔
      (-62167219200 * 1000000000 : Int) ≤ t ∧ t ≤ (253402300800 * 1000000000 - 1 : Int)
    omega
  rw [isStorable, Stamp.written_utc, ← hday, ← Date.year_ofDay_iff]
  split
  · rename_i h
    exact iff_of_true rfl h
  · rename_i h
    exact iff_of_false Bool.false_ne_true h

theorem isOnCalendar_of_isStorable {t : Instant} (h : t.isStorable = true) :
    t.isOnCalendar = true := by
  obtain ⟨hl, hu⟩ := isStorable_iff.mp h
  have he : earliest ≤ seconds (-62167219200) := by decide
  simpa [isOnCalendar] using ⟨Int.le_trans he hl, hu⟩

/-- Written, neither time goes on where the other one ends. -/
def Comparable (a b : Instant) : Prop :=
  a / perSecond ≠ b / perSecond ∨
    ¬Stamp.fraction (a % perSecond) <+: Stamp.fraction (b % perSecond) ∧
      ¬Stamp.fraction (b % perSecond) <+: Stamp.fraction (a % perSecond)

theorem Comparable.symm {a b : Instant} (h : Comparable a b) : Comparable b a :=
  h.imp Ne.symm And.symm

theorem isStorable_year {t : Instant} (h : t.isStorable = true) :
    0 ≤ (Date.ofDay (t / perSecond / 86400)).year ∧
      (Date.ofDay (t / perSecond / 86400)).year ≤ 9999 := by
  rw [isStorable, Stamp.written_utc] at h
  split at h
  · assumption
  · cases h

end Instant

namespace Timestamp

variable {a b : Instant}

theorem chars_instant (h : a.isStorable = true) : (instant a).chars =
    Stamp.clock (a / Instant.perSecond) ++
      (Stamp.fraction (a % Instant.perSecond) ++ ['Z']) := by
  rw [chars, Stamp.written_utc, if_pos (Instant.isStorable_year h)]
  rfl

theorem precedes_of_lt (ha : a.isStorable = true) (hb : b.isStorable = true)
    (hc : Instant.Comparable a b) (h : a < b) :
    Precedes (instant a).chars (instant b).chars := by
  rw [chars_instant ha, chars_instant hb]
  rcases Int.lt_or_eq_of_le (Int.ediv_le_ediv (by decide : 0 < Instant.perSecond)
    (Int.le_of_lt h)) with hlt | heq
  · exact (Stamp.clock_precedes (Instant.isStorable_year ha).1 (Instant.isStorable_year hb).2
      hlt).append _ _
  · obtain ⟨hab, hba⟩ := hc.resolve_left (not_not_intro heq)
    have hmod : a % Instant.perSecond < b % Instant.perSecond := by
      rw [Int.emod_def, Int.emod_def, heq]
      exact Int.sub_lt_sub_right h _
    rw [heq]
    exact ((Stamp.fraction_precedes (Int.emod_nonneg a (by decide))
      (Int.emod_lt_of_pos b (by decide)) hmod hab hba).append _ _).after _

/-- The stored times are in the order of the times, but for those that go on where others end. -/
theorem upTo_instant (ha : a.isStorable = true) (hb : b.isStorable = true)
    (hc : a = b ∨ Instant.Comparable a b) :
    (instant a).upTo (instant b) = decide (a ≤ b) := by
  rcases Int.lt_trichotomy a b with h | rfl | h
  · have hp := precedes_of_lt ha hb (hc.resolve_left (Int.ne_of_lt h)) h
    simpa [upTo, Int.le_of_lt h] using (hp [] []).2
  · simp [upTo]
  · have hp := precedes_of_lt hb ha (hc.resolve_left (Int.ne_of_gt h)).symm h
    simpa [upTo, Int.not_le.mpr h] using (hp [] []).1

end Timestamp

end ImitationGame
