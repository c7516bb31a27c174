import ImitationGame.Time.Stamp
import Mathlib.Algebra.Order.Group.Int
import Mathlib.Order.Monotone.Basic
import Mathlib.Order.SuccPred.Basic

namespace ImitationGame

variable {m n y y' d d' : Int}

namespace Date

def Before (a b : Date) : Prop :=
  a.year < b.year ∨ a.year = b.year ∧ (a.month < b.month ∨ a.month = b.month ∧ a.day < b.day)

def yearOfEra (n : Int) : Int := (n - n / 1460 + n / 36524 - n / 146096) / 365

/-- The date of a day counted from the first of March, so that a leap day comes last. -/
def ofMarch (y d : Int) : Date :=
  let mp := (5 * d + 2) / 153
  let month := if mp < 10 then mp + 3 else mp - 9
  { year := y + if month ≤ 2 then 1 else 0, month, day := d - (153 * mp + 2) / 5 + 1 }

theorem ofMarch_before (hd : 0 ≤ d) (hd' : d ≤ 366) (he : 0 ≤ d') (he' : d' ≤ 366)
    (h : y < y' ∨ y = y' ∧ d < d') : (ofMarch y d).Before (ofMarch y' d') := by
  simp only [Before, ofMarch]
  split <;> split <;> split <;> split <;> omega

theorem yearOfEra_mono (h : m ≤ n) : yearOfEra m ≤ yearOfEra n := by
  refine monotone_int_of_le_succ (f := yearOfEra) (fun n => Int.ediv_le_ediv (by decide) ?_) h
  have hfour : (n + 1) / 1460 ≤ n / 1460 + 1 := by omega
  have hera : (n + 1) / 146096 - n / 146096 ≤ (n + 1) / 36524 - n / 36524 := by omega
  omega

def daysBefore (y : Int) : Int := 365 * y + y / 4 - y / 100

theorem daysBefore_le (h : 0 ≤ n) (h' : n ≤ 146096) : daysBefore (yearOfEra n) ≤ n := by
  generalize hy : yearOfEra n = y
  rw [yearOfEra] at hy
  have hleap : y / 4 ≤ n / 1460 := by
    have hc : n / 36524 ≤ n / 1460 := by omega
    omega
  have hcentury : n / 36524 ≤ y / 100 + n / 146096 := by
    -- An era has four centuries, and its last day would begin a fifth.
    have hc : n / 36524 = 0 ∨ n / 36524 = 1 ∨ n / 36524 = 2 ∨ n / 36524 = 3 ∨ n / 36524 = 4 := by
      omega
    rcases hc with hc | hc | hc | hc | hc <;> rw [hc] at hy ⊢ <;> omega
  rw [daysBefore]
  omega

theorem le_daysBefore (h : 0 ≤ n) (h' : n ≤ 146096) : n ≤ daysBefore (yearOfEra n) + 366 := by
  generalize hy : yearOfEra n = y
  rw [yearOfEra] at hy
  have hleap : n / 1460 ≤ y / 4 + 1 := by omega
  have hcentury : y / 100 ≤ n / 36524 := by omega
  rw [daysBefore]
  omega

theorem yearOfEra_bounds (h : 0 ≤ n) (h' : n ≤ 146096) :
    0 ≤ yearOfEra n ∧ yearOfEra n ≤ 399 :=
  ⟨yearOfEra_mono h, yearOfEra_mono h'⟩

def ofEra (era n : Int) : Date := ofMarch (yearOfEra n + era * 400) (n - daysBefore (yearOfEra n))

theorem ofDay_eq (n : Int) : ofDay n = ofEra ((n + 719468) / 146097) ((n + 719468) % 146097) := rfl

theorem ofEra_before {era era' : Int} (hm : 0 ≤ m) (hm' : m ≤ 146096) (hn : 0 ≤ n)
    (hn' : n ≤ 146096) (h : era < era' ∨ era = era' ∧ m < n) :
    (ofEra era m).Before (ofEra era' n) := by
  have hlm := daysBefore_le hm hm'
  have hln := daysBefore_le hn hn'
  have hum := le_daysBefore hm hm'
  have hun := le_daysBefore hn hn'
  refine ofMarch_before (by omega) (by omega) (by omega) (by omega) ?_
  rcases h with h | ⟨rfl, h⟩
  · have hbm := yearOfEra_bounds hm hm'
    have hbn := yearOfEra_bounds hn hn'
    omega
  · rcases Int.lt_or_eq_of_le (yearOfEra_mono (Int.le_of_lt h)) with hy | hy
    · exact .inl (Int.add_lt_add_right hy _)
    · rw [hy]
      exact .inr ⟨rfl, Int.sub_lt_sub_right h _⟩

theorem ofDay_before (h : m < n) : (ofDay m).Before (ofDay n) := by
  rw [ofDay_eq, ofDay_eq]
  exact ofEra_before (by omega) (by omega) (by omega) (by omega) (by omega)

theorem ofDay_year_le (h : m ≤ n) : (ofDay m).year ≤ (ofDay n).year := by
  rcases Int.lt_or_eq_of_le h with h | rfl
  · rcases ofDay_before h with h | ⟨h, -⟩
    · exact Int.le_of_lt h
    · exact Int.le_of_eq h
  · exact Int.le_refl _

theorem year_ofDay_iff :
    0 ≤ (ofDay n).year ∧ (ofDay n).year ≤ 9999 ↔ -719528 ≤ n ∧ n ≤ 2932896 := by
  have hfirst : (ofDay (-719528)).year = 0 ∧ (ofDay (-719529)).year = -1 := by decide
  have hlast : (ofDay 2932896).year = 9999 ∧ (ofDay 2932897).year = 10000 := by decide
  constructor
  · rintro ⟨hl, hu⟩
    constructor <;> by_contra hn
    · have := ofDay_year_le (m := n) (n := -719529) (by omega)
      omega
    · have := ofDay_year_le (m := 2932897) (n := n) (by omega)
      omega
  · rintro ⟨hl, hu⟩
    exact ⟨hfirst.1 ▸ ofDay_year_le hl, hlast.1 ▸ ofDay_year_le hu⟩

theorem ofDay_bounds (n : Int) : (1 ≤ (ofDay n).month ∧ (ofDay n).month ≤ 12) ∧
    1 ≤ (ofDay n).day ∧ (ofDay n).day ≤ 31 := by
  simp only [ofDay]
  refine ⟨⟨?_, ?_⟩, by omega, by omega⟩
  · split <;> omega
  · split <;> omega

end Date

end ImitationGame
