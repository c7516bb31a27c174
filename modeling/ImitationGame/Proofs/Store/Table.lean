import ImitationGame.Store.Table
import Mathlib.Data.List.Find
import Mathlib.Data.List.Nodup
import Mathlib.Data.List.Sort
import Mathlib.Tactic.Basic

namespace ImitationGame

namespace Table

variable {ρ : Type} [Keyed ρ] {t t' : Table ρ} {r : ρ} {i : Int} {hit : ρ → Bool} {change : ρ → ρ}

def row? (t : Table ρ) (i : Int) : Option ρ := t.rows.find? fun r => Keyed.id r == i

structure Ascending (t : Table ρ) : Prop where
  ordered : t.rows.Pairwise fun a b => Keyed.id a < Keyed.id b
  pos : ∀ r ∈ t.rows, 0 < Keyed.id r
  le_last : ∀ r ∈ t.rows, Keyed.id r ≤ t.last
  last_nonneg : 0 ≤ t.last
  last_lt : t.last < Int.pow 2 63

theorem mem_of_row? (h : t.row? i = some r) : r ∈ t.rows := List.mem_of_find?_eq_some h

theorem id_of_row? (h : t.row? i = some r) : Keyed.id r = i := by
  simpa using List.find?_some h

theorem insert?_eq_some_iff {row : Int → ρ} : t.insert? row = some (r, t') ↔
    t.nextId < Int.pow 2 63 ∧ r = row t.nextId ∧ t' = ⟨t.rows ++ [r], t.nextId⟩ := by
  simp only [insert?, Option.ite_none_right_eq_some, Option.some.injEq, Prod.mk.injEq]
  constructor
  · rintro ⟨hl, rfl, rfl⟩
    exact ⟨hl, rfl, rfl⟩
  · rintro ⟨hl, rfl, rfl⟩
    exact ⟨hl, rfl, rfl⟩

theorem row?_isSome : (t.row? i).isSome = true ↔ ∃ r ∈ t.rows, Keyed.id r = i := by
  simp [row?]

theorem row?_update (hc : ∀ r, Keyed.id (change r) = Keyed.id r) :
    (t.update hit change).row? i = (t.row? i).map fun r => if hit r then change r else r := by
  have hi : ∀ r : ρ, Keyed.id (if hit r then change r else r) = Keyed.id r := by
    intro r
    split
    · exact hc r
    · rfl
  simp only [row?, update, List.find?_map, Function.comp_def, hi]

theorem row?_update_of_ne (hc : ∀ r, Keyed.id (change r) = Keyed.id r)
    (hn : ∀ r ∈ t.rows, Keyed.id r = i → hit r = false) :
    (t.update hit change).row? i = t.row? i := by
  rw [row?_update hc]
  cases h : t.row? i with
  | none => rfl
  | some r => simp [hn r (mem_of_row? h) (id_of_row? h)]

theorem row?_delete (hn : ∀ r ∈ t.rows, Keyed.id r = i → hit r = false) :
    (t.delete hit).row? i = t.row? i := by
  simp only [row?, delete, List.find?_filter]
  apply List.find?_congr
  intro r hr
  by_cases hi : Keyed.id r = i
  · simp [hi, hn r hr hi]
  · simp [hi]

theorem count_eq_one_of_nodup (hn : (t.rows.map Keyed.id).Nodup) (hr : r ∈ t.rows)
    (hh : hit r = true) (ho : ∀ x ∈ t.rows, hit x = true → Keyed.id x = Keyed.id r) :
    t.count hit = 1 := by
  have hc : t.count hit = (t.rows.map Keyed.id).count (Keyed.id r) := by
    rw [Table.count, List.count, List.countP_map]
    apply List.countP_congr
    intro x hx
    simp only [Function.comp_apply, beq_iff_eq]
    refine ⟨ho x hx, fun he => ?_⟩
    rw [List.inj_on_of_nodup_map hn hx hr he]
    exact hh
  rw [hc]
  exact List.count_eq_one_of_mem hn (List.mem_map_of_mem hr)

theorem le_foldl_max (ids : List Int) (n : Int) :
    n ≤ ids.foldl max n ∧ ∀ i ∈ ids, i ≤ ids.foldl max n := by
  induction ids generalizing n with
  | nil => exact ⟨Int.le_refl n, nofun⟩
  | cons i ids ih =>
    obtain ⟨hn, hi⟩ := ih (max n i)
    exact ⟨(Int.le_max_left n i).trans hn,
      List.forall_mem_cons.mpr ⟨(Int.le_max_right n i).trans hn, hi⟩⟩

theorem foldl_max_eq {ids : List Int} {n : Int} (h : ∀ i ∈ ids, i ≤ n) : ids.foldl max n = n := by
  induction ids with
  | nil => rfl
  | cons i ids ih =>
    obtain ⟨hi, hs⟩ := List.forall_mem_cons.mp h
    rw [List.foldl_cons, Int.max_eq_left hi, ih hs]

theorem nextId_eq_of_le (h : ∀ r ∈ t.rows, Keyed.id r ≤ t.last) : t.nextId = t.last + 1 := by
  rw [nextId, foldl_max_eq (List.forall_mem_map.mpr h)]

theorem id_lt_nextId (hr : r ∈ t.rows) : Keyed.id r < t.nextId :=
  Int.lt_add_one_of_le ((le_foldl_max _ t.last).2 _ (List.mem_map_of_mem hr))

theorem nextId_insert (hr : Keyed.id r = t.nextId) :
    (⟨t.rows ++ [r], t.nextId⟩ : Table ρ).nextId = t.nextId + 1 := by
  apply nextId_eq_of_le
  intro a ha
  rcases List.mem_append.mp ha with ha | ha
  · exact Int.le_of_lt (id_lt_nextId ha)
  · exact Int.le_of_eq (List.mem_singleton.mp ha ▸ hr)

theorem row?_nextId (t : Table ρ) : t.row? t.nextId = none := by
  rw [row?, List.find?_eq_none]
  intro r hr
  simpa using Int.ne_of_lt (id_lt_nextId hr)

theorem row?_insert_self (hr : Keyed.id r = t.nextId) {last : Int} :
    (⟨t.rows ++ [r], last⟩ : Table ρ).row? t.nextId = some r := by
  have hn := t.row?_nextId
  rw [row?] at hn
  rw [row?, List.find?_append, hn]
  simp [hr]

theorem eq_of_ordered {xs ys : List ρ} (hx : xs.Pairwise fun a b => Keyed.id a < Keyed.id b)
    (hy : ys.Pairwise fun a b => Keyed.id a < Keyed.id b) (h : ∀ r, r ∈ xs ↔ r ∈ ys) : xs = ys := by
  have hi : Std.Irrefl fun a b : ρ => Keyed.id a < Keyed.id b := ⟨fun _ => Int.lt_irrefl _⟩
  have ha : Std.Antisymm fun a b : ρ => Keyed.id a < Keyed.id b :=
    ⟨fun _ _ h h' => absurd h (Int.lt_asymm h')⟩
  exact hx.eq_of_mem_iff hy h

namespace Ascending

theorem empty : (Table.empty : Table ρ).Ascending :=
  ⟨.nil, by simp [Table.empty], by simp [Table.empty], Int.le_refl 0,
    show (0 : Int) < Int.pow 2 63 by decide⟩

theorem ids_nodup (h : t.Ascending) : (t.rows.map Keyed.id).Nodup := by
  rw [List.nodup_iff_pairwise_ne, List.pairwise_map]
  exact h.ordered.imp Int.ne_of_lt

theorem eq_of_id_eq (h : t.Ascending) {a b : ρ} (ha : a ∈ t.rows) (hb : b ∈ t.rows)
    (he : Keyed.id a = Keyed.id b) : a = b :=
  List.inj_on_of_nodup_map h.ids_nodup ha hb he

theorem mem_rows_iff (h : t.Ascending) : r ∈ t.rows ↔ t.row? (Keyed.id r) = some r := by
  refine ⟨fun hr => ?_, mem_of_row?⟩
  obtain ⟨x, hx⟩ := Option.isSome_iff_exists.mp (row?_isSome.mpr ⟨r, hr, rfl⟩)
  rw [hx, h.eq_of_id_eq (mem_of_row? hx) hr (id_of_row? hx)]

theorem nextId_eq (h : t.Ascending) : t.nextId = t.last + 1 := nextId_eq_of_le h.le_last

theorem insert (h : t.Ascending) (hl : t.nextId < Int.pow 2 63) (hr : Keyed.id r = t.nextId) :
    (⟨t.rows ++ [r], t.nextId⟩ : Table ρ).Ascending := by
  rw [h.nextId_eq] at hl hr ⊢
  refine ⟨?_, ?_, ?_, Int.le_add_one h.last_nonneg, hl⟩
  · rw [List.pairwise_append]
    refine ⟨h.ordered, List.pairwise_singleton _ r, fun a ha b hb => ?_⟩
    rw [List.mem_singleton.mp hb, hr]
    exact Int.lt_add_one_of_le (h.le_last a ha)
  · intro a ha
    rcases List.mem_append.mp ha with ha | ha
    · exact h.pos a ha
    · rw [List.mem_singleton.mp ha, hr]
      exact Int.lt_add_one_of_le h.last_nonneg
  · intro a ha
    rcases List.mem_append.mp ha with ha | ha
    · exact Int.le_add_one (h.le_last a ha)
    · exact Int.le_of_eq (List.mem_singleton.mp ha ▸ hr)

theorem update (h : t.Ascending) (hc : ∀ r, Keyed.id (change r) = Keyed.id r) :
    (t.update hit change).Ascending := by
  have hi : ∀ r : ρ, Keyed.id (if hit r then change r else r) = Keyed.id r := by
    intro r
    split
    · exact hc r
    · rfl
  refine ⟨?_, ?_, ?_, h.last_nonneg, h.last_lt⟩
  · simpa only [Table.update, List.pairwise_map, hi] using h.ordered
  · simpa only [Table.update, List.forall_mem_map, hi] using h.pos
  · simpa only [Table.update, List.forall_mem_map, hi] using h.le_last

theorem delete (h : t.Ascending) : (t.delete hit).Ascending :=
  ⟨h.ordered.filter _, fun r hr => h.pos r (List.mem_of_mem_filter hr),
    fun r hr => h.le_last r (List.mem_of_mem_filter hr), h.last_nonneg, h.last_lt⟩

end Ascending

theorem row?_insert_of_ne {last : Int} (hr : Keyed.id r ≠ i) :
    (⟨t.rows ++ [r], last⟩ : Table ρ).row? i = t.row? i := by
  simp [row?, List.find?_append, hr]

end Table

namespace Sorted

variable {α : Type} {le : α → α → Bool} {f : α → α}

theorem sort_map (hf : ∀ a b, le (f a) (f b) = le a b) (xs : List α) :
    sort le (xs.map f) = (sort le xs).map f := by
  have hi : ∀ a bs, insert le (f a) (bs.map f) = (insert le a bs).map f := by
    intro a bs
    induction bs with
    | nil => rfl
    | cons b bs ih =>
      simp only [List.map_cons, insert, hf]
      split
      · rfl
      · rw [ih, List.map_cons]
  induction xs with
  | nil => rfl
  | cons a as ih =>
    change insert le (f a) (sort le (as.map f)) = (insert le a (sort le as)).map f
    rw [ih, hi]

end Sorted

end ImitationGame
