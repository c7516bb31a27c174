import ImitationGame.Proofs.Random.Draws
import ImitationGame.Proofs.Random.Permutation
import Mathlib.Data.List.Permutation
import Mathlib.Data.Set.Card
import Mathlib.Probability.Distributions.Uniform

/-! A shuffle is unbiased: each order of a list without repetition comes from exactly one sequence
of draws, so that draws which are uniform and independent give every order the same probability. -/

namespace ImitationGame.Random.Shuffle

variable {α : Type} {xs ys : List α} {n i j k : Nat} {draws draws' : List Nat}

theorem getElem?_swap (hi : i < xs.length) (hj : j < xs.length) (k : Nat) :
    (swap xs i j)[k]? = if k = j then xs[i]? else if k = i then xs[j]? else xs[k]? := by
  rw [swap, List.getElem?_eq_getElem hi, List.getElem?_eq_getElem hj]
  simp only [List.getElem?_set, List.length_set, hi, hj, if_true, @eq_comm _ _ k]

theorem getElem?_exchange (hf : Fits n draws) (hn : n < xs.length) (hk : n < k) :
    (exchange n draws xs)[k]? = xs[k]? := by
  induction n generalizing draws xs with
  | zero => rfl
  | succ n ih =>
    cases draws with
    | nil => exact hf.elim
    | cons j draws =>
      have hj := hf.1
      rw [exchange, ih hf.2 (by rw [length_swap]; omega) (by omega),
        getElem?_swap hn (by omega), if_neg (by omega), if_neg (by omega)]

theorem exchange_inj (hx : xs.Nodup) (hn : n < xs.length) (hf : Fits n draws)
    (hf' : Fits n draws') (h : exchange n draws xs = exchange n draws' xs) : draws = draws' := by
  induction n generalizing draws draws' xs with
  | zero => rw [fits_zero.mp hf, fits_zero.mp hf']
  | succ n ih =>
    cases draws with
    | nil => exact hf.elim
    | cons j draws =>
      cases draws' with
      | nil => exact hf'.elim
      | cons j' draws' =>
        -- The first draw tells what comes to the last position, and nothing moves it later.
        have hl : ∀ {l m}, l ≤ n + 1 → Fits n m →
            (exchange (n + 1) (l :: m) xs)[n + 1]? = xs[l]? := by
          intro l m hl hm
          rw [exchange, getElem?_exchange hm (by rw [length_swap]; omega) (Nat.lt_succ_self n),
            getElem?_swap hn (by omega)]
          split <;> simp_all
        have hj := hf.1
        have hj' := hf'.1
        have he : xs[j]? = xs[j']? := by rw [← hl hj hf.2, ← hl hj' hf'.2, h]
        obtain rfl : j = j' := (List.getElem?_inj (by omega) hx).mp he
        rw [ih ((swap_perm xs (n + 1) j).nodup_iff.mpr hx) (by rw [length_swap]; omega) hf.2 hf'.2 h]

theorem exists_exchange (hx : xs.Nodup) (hn : n < xs.length) (hp : ys.Perm xs)
    (ha : ∀ k, n < k → ys[k]? = xs[k]?) : ∃ draws, Fits n draws ∧ exchange n draws xs = ys := by
  induction n generalizing xs with
  | zero =>
    refine ⟨[], trivial, ?_⟩
    cases xs with
    | nil => cases hn
    | cons a as =>
      cases ys with
      | nil => cases hp.length_eq
      | cons b bs =>
        obtain rfl : bs = as := List.ext_getElem? fun k => by
          simpa using ha (k + 1) (Nat.succ_pos k)
        have hb : b ∉ bs := (List.nodup_cons.mp (hp.nodup_iff.mpr hx)).1
        have hm : b ∈ a :: bs := hp.mem_iff.mp List.mem_cons_self
        rw [(List.mem_cons.mp hm).resolve_right hb]
        rfl
  | succ n ih =>
    have hl : n + 1 < ys.length := hp.length_eq ▸ hn
    -- The element that belongs at the last position stands nowhere above it.
    obtain ⟨j, hj, hxj⟩ := List.mem_iff_getElem.mp (hp.mem_iff.mp (List.getElem_mem hl))
    have hys : ys[n + 1]? = xs[j]? := by
      rw [List.getElem?_eq_getElem hl, List.getElem?_eq_getElem hj, hxj]
    have hjn : j ≤ n + 1 := by
      by_contra hlt
      have he : ys[n + 1]? = ys[j]? := by rw [hys, ha j (by omega)]
      have := (List.getElem?_inj hl (hp.nodup_iff.mpr hx)).mp he
      omega
    have hs := swap_perm xs (n + 1) j
    have has : ∀ k, n < k → ys[k]? = (swap xs (n + 1) j)[k]? := by
      intro k hk
      rw [getElem?_swap hn hj]
      by_cases hkn : k = n + 1
      · subst hkn
        rw [hys, if_pos rfl]
        split
        · rename_i hkj
          rw [hkj]
        · rfl
      · rw [if_neg (by omega), if_neg hkn, ha k (by omega)]
    obtain ⟨draws, hf, he⟩ :=
      ih (hs.nodup_iff.mpr hx) (by rw [length_swap]; omega) (hp.trans hs.symm) has
    exact ⟨j :: draws, ⟨hjn, hf⟩, he⟩

theorem bijOn_exchange (hx : xs.Nodup) : Set.BijOn (fun draws => exchange (xs.length - 1) draws xs)
    {draws | Fits (xs.length - 1) draws} {ys | ys.Perm xs} := by
  cases xs with
  | nil =>
    refine ⟨fun draws _ => exchange_perm _ draws _, fun draws hf draws' hf' _ => ?_, fun ys hp => ?_⟩
    · rw [fits_zero.mp hf, fits_zero.mp hf']
    · exact ⟨[], trivial, (List.perm_nil.mp hp).symm⟩
  | cons a as =>
    have hn : (a :: as).length - 1 < (a :: as).length := Nat.lt_succ_self as.length
    refine ⟨fun draws _ => exchange_perm _ draws _, fun draws hf draws' hf' h => ?_, fun ys hp => ?_⟩
    · exact exchange_inj hx hn hf hf' h
    · refine exists_exchange hx hn hp fun k hk => ?_
      rw [List.getElem?_eq_none (by rw [hp.length_eq]; omega), List.getElem?_eq_none (by omega)]

noncomputable def uniformDraws : Nat → PMF (List Nat)
  | 0 => PMF.pure []
  | n + 1 => (PMF.uniformOfFintype (Fin (n + 2))).bind fun j =>
      (uniformDraws n).map fun draws => j.val :: draws

theorem mem_support_uniformDraws : draws ∈ (uniformDraws n).support ↔ Fits n draws := by
  induction n generalizing draws with
  | zero => simp [uniformDraws, fits_zero]
  | succ n ih =>
    simp only [uniformDraws, PMF.mem_support_bind_iff, PMF.mem_support_map_iff,
      PMF.mem_support_uniformOfFintype, true_and, ih]
    constructor
    · rintro ⟨j, draws, hf, rfl⟩
      exact ⟨Nat.le_of_lt_succ j.isLt, hf⟩
    · intro hf
      cases draws with
      | nil => exact hf.elim
      | cons j draws => exact ⟨⟨j, Nat.lt_succ_of_le hf.1⟩, draws, hf.2, rfl⟩

theorem map_apply_eq {β γ : Type} {p : PMF β} {f : β → γ} {b : β}
    (h : ∀ a ∈ p.support, f a = f b → a = b) : p.map f (f b) = p b := by
  rw [PMF.map_apply, tsum_eq_single b, if_pos rfl]
  intro a hne
  by_cases hf : f b = f a
  · rw [if_pos hf, PMF.apply_eq_zero_iff]
    exact fun ha => hne (h a ha hf.symm)
  · rw [if_neg hf]

theorem uniformDraws_apply (hf : Fits n draws) :
    uniformDraws n draws = ((n + 1).factorial : ENNReal)⁻¹ := by
  induction n generalizing draws with
  | zero =>
    obtain rfl := fits_zero.mp hf
    simp [uniformDraws]
  | succ n ih =>
    cases draws with
    | nil => exact hf.elim
    | cons j draws =>
      have hj : j < n + 2 := Nat.lt_succ_of_le hf.1
      have hother : ∀ l : Fin (n + 2), l ≠ ⟨j, hj⟩ →
          (uniformDraws n).map (fun ds => l.val :: ds) (j :: draws) = 0 := by
        intro l hl
        rw [PMF.apply_eq_zero_iff, PMF.mem_support_map_iff]
        rintro ⟨ds, -, he⟩
        exact hl (Fin.ext (List.cons.inj he).1)
      have hsame : (uniformDraws n).map (fun ds => j :: ds) (j :: draws) = uniformDraws n draws :=
        map_apply_eq fun ds _ he => (List.cons.inj he).2
      rw [uniformDraws, PMF.bind_apply, tsum_fintype,
        Finset.sum_eq_single ⟨j, hj⟩ (fun l _ hl => by rw [hother l hl, mul_zero])
          (fun h => absurd (Finset.mem_univ _) h), hsame, ih hf.2, PMF.uniformOfFintype_apply,
        Fintype.card_fin, Nat.factorial_succ (n + 1), Nat.cast_mul]
      exact (ENNReal.mul_inv (.inr (ENNReal.natCast_ne_top _)) (.inl (ENNReal.natCast_ne_top _))).symm

noncomputable def uniformOrder (xs : List α) : PMF (List α) :=
  (uniformDraws (xs.length - 1)).map fun draws => exchange (xs.length - 1) draws xs

theorem uniformOrder_apply (hx : xs.Nodup) (hp : ys.Perm xs) :
    uniformOrder xs ys = (xs.length.factorial : ENNReal)⁻¹ := by
  obtain ⟨-, hinj, hsurj⟩ := bijOn_exchange hx
  obtain ⟨draws, hf, rfl⟩ := hsurj hp
  have hl : (xs.length - 1 + 1).factorial = xs.length.factorial := by
    cases xs <;> rfl
  rw [uniformOrder, map_apply_eq fun draws' hd he => hinj (mem_support_uniformDraws.mp hd) hf he,
    uniformDraws_apply hf, hl]

theorem ncard_perm (hx : xs.Nodup) :
    {ys : List α | ys.Perm xs}.ncard = xs.length.factorial := by
  classical
  have he : {ys : List α | ys.Perm xs} = (xs.permutations.toFinset : Set (List α)) := by
    ext ys
    simp
  rw [he, Set.ncard_coe_finset, List.toFinset_card_of_nodup (List.nodup_permutations xs hx),
    List.length_permutations]

theorem downwards_unbiased (xs : List α) :
    (xs.Nodup →
      Set.BijOn (fun draws => exchange (xs.length - 1) draws xs)
        {draws | Fits (xs.length - 1) draws} {ys | ys.Perm xs} ∧
      {ys : List α | ys.Perm xs}.ncard = xs.length.factorial ∧
      ∀ ys, ys.Perm xs → uniformOrder xs ys = (xs.length.factorial : ENNReal)⁻¹) ∧
    (∀ draws, (exchange (xs.length - 1) draws xs).Perm xs) ∧
    ∀ s : Stream, (downwards xs s).1.Perm xs ∧
      Fits (xs.length - 1) (Shuffle.draws (xs.length - 1) s).1 ∧
      (downwards xs s).1 = exchange (xs.length - 1) (Shuffle.draws (xs.length - 1) s).1 xs :=
  ⟨fun hx => ⟨bijOn_exchange hx, ncard_perm hx, fun _ hp => uniformOrder_apply hx hp⟩,
    fun draws => exchange_perm _ draws xs, fun s => ⟨downwards_perm xs s, fits_draws _ s, rfl⟩⟩

theorem sample_unbiased : [11, 12, 13].Nodup ∧ [12, 13, 11].Perm [11, 12, 13] ∧
    exchange 2 [0, 0] [11, 12, 13] = [12, 13, 11] ∧
    uniformOrder [11, 12, 13] [12, 13, 11] = (Nat.factorial 3 : ENNReal)⁻¹ := by
  have hx : [11, 12, 13].Nodup := by decide
  have hp : [12, 13, 11].Perm [11, 12, 13] := by decide
  obtain ⟨-, -, h⟩ := (downwards_unbiased [11, 12, 13]).1 hx
  exact ⟨hx, hp, rfl, h _ hp⟩

end ImitationGame.Random.Shuffle
