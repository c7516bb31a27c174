import ImitationGame.Proofs.Text.Clean

/-! What cleaning makes of the quotes around a text. They come off from the outside in, each style
at most once and in one order of styles, and nothing is trimmed after the cut. So a clean text is a
fixed point of cleaning unless its quotes were nested in another order or it has been cut. -/

namespace ImitationGame.Text

open Blank

variable {pair : Char × Char} {pairs ps : List (Char × Char)} {cs ds inner core : List Char}
  {raw text : String}

structure Trimmed (cs : List Char) : Prop where
  left : Unindented cs
  right : Unindented cs.reverse

theorem trim_isInfix (cs : List Char) : trim cs <:+: cs :=
  (trimRight_isPrefix _).isInfix.trans (List.dropWhile_suffix _).isInfix

theorem trimmed_trim (cs : List Char) : Trimmed (trim cs) := by
  refine ⟨unindented_trim cs, fun c hc => ?_⟩
  rw [trim, trimRight, List.reverse_reverse] at hc
  exact head_trimLeft hc

theorem Unindented.trimLeft_eq (h : Unindented cs) : trimLeft cs = cs := by
  cases cs with
  | nil => rfl
  | cons c cs => rw [trimLeft, List.dropWhile_cons_of_neg (by simp [h c rfl])]

theorem Trimmed.trim_eq (h : Trimmed cs) : trim cs = cs := by
  rw [trim, h.left.trimLeft_eq, trimRight, h.right.trimLeft_eq, List.reverse_reverse]

def wrap (pair : Char × Char) (inner : List Char) : List Char := pair.1 :: (inner ++ [pair.2])

def Wrapped (pairs : List (Char × Char)) (cs : List Char) : Prop :=
  ∃ pair ∈ pairs, ∃ inner, cs = wrap pair inner

theorem Wrapped.cons (h : Wrapped pairs cs) : Wrapped (pair :: pairs) cs := by
  obtain ⟨p, hm, hi⟩ := h
  exact ⟨p, List.mem_cons_of_mem pair hm, hi⟩

theorem unwrap_wrap (pair : Char × Char) (inner : List Char) :
    unwrap (wrap pair inner) pair = trim inner := by
  cases inner with
  | nil => simp [wrap, unwrap]
  | cons c cs =>
    have hd : (c :: cs ++ [pair.2]).dropLast = c :: cs := List.dropLast_concat
    rw [List.cons_append] at hd
    simp [wrap, unwrap, List.getLast?_cons, hd]

theorem unwrap_eq_self (h : ∀ inner, cs ≠ wrap pair inner) : unwrap cs pair = cs := by
  unfold unwrap
  split
  · rename_i c d rest
    rw [if_neg]
    rintro ⟨rfl, hl⟩
    exact h _ (congrArg _ (List.dropLast_append_getLast? _ hl).symm)
  · rfl

theorem length_unwrap_wrap (pair : Char × Char) (inner : List Char) :
    (unwrap (wrap pair inner) pair).length < (wrap pair inner).length := by
  have := (trim_isInfix inner).length_le
  rw [unwrap_wrap, wrap, List.length_cons, List.length_append]
  omega

inductive Peels : List (Char × Char) → List Char → List Char → Prop
  | nil {cs : List Char} : Peels [] cs cs
  | cons {pair : Char × Char} {pairs : List (Char × Char)} {inner core : List Char} :
      Peels pairs (trim inner) core → Peels (pair :: pairs) (wrap pair inner) core

namespace Peels

theorem isInfix (h : Peels ps cs core) : core <:+: cs := by
  induction h with
  | nil => exact List.infix_rfl
  | @cons pair pairs inner core _ ih =>
    exact (ih.trans (trim_isInfix inner)).trans ⟨[pair.1], [pair.2], rfl⟩

theorem trimmed (h : Peels ps cs core) (ht : Trimmed cs) : Trimmed core := by
  induction h with
  | nil => exact ht
  | @cons pair pairs inner core _ ih => exact ih (trimmed_trim inner)

theorem foldl_unwrap (h : Peels ps cs core) (hp : ps.Sublist pairs)
    (hn : (pairs.map Prod.fst).Nodup) (hc : ¬Wrapped pairs core) :
    pairs.foldl unwrap cs = core := by
  induction hp generalizing cs with
  | slnil =>
    cases h
    rfl
  | @cons ps pairs pair hp ih =>
    obtain ⟨hpair, hn⟩ := List.nodup_cons.mp hn
    have hw : ∀ inner, cs ≠ wrap pair inner := by
      rintro inner rfl
      -- Had the text this pair around it, another pair with the same opening would come off.
      generalize hcs : wrap pair inner = cs at h
      cases h with
      | nil => exact hc ⟨pair, List.mem_cons_self, inner, hcs.symm⟩
      | @cons other =>
        have hm : other.1 ∈ pairs.map Prod.fst :=
          List.mem_map_of_mem (hp.subset List.mem_cons_self)
        exact hpair ((List.cons.inj hcs).1 ▸ hm)
    rw [List.foldl_cons, unwrap_eq_self hw]
    exact ih h hn (mt Wrapped.cons hc)
  | @cons_cons ps pairs pair hp ih =>
    obtain ⟨-, hn⟩ := List.nodup_cons.mp hn
    cases h with
    | cons h =>
      rw [List.foldl_cons, unwrap_wrap]
      exact ih h hn (mt Wrapped.cons hc)

end Peels

theorem exists_peels (pairs : List (Char × Char)) (cs : List Char) :
    ∃ ps, ps.Sublist pairs ∧ Peels ps cs (pairs.foldl unwrap cs) := by
  induction pairs generalizing cs with
  | nil => exact ⟨[], .slnil, .nil⟩
  | cons pair pairs ih =>
    obtain ⟨ps, hs, hp⟩ := ih (unwrap cs pair)
    by_cases hw : ∃ inner, cs = wrap pair inner
    · obtain ⟨inner, rfl⟩ := hw
      rw [unwrap_wrap] at hp
      exact ⟨pair :: ps, hs.cons_cons pair, by rw [List.foldl_cons, unwrap_wrap]; exact hp.cons⟩
    · rw [unwrap_eq_self (not_exists.mp hw)] at hp
      exact ⟨ps, hs.cons pair, by rwa [List.foldl_cons, unwrap_eq_self (not_exists.mp hw)]⟩

theorem Wrapped.length_foldl_unwrap (h : Wrapped pairs cs) :
    (pairs.foldl unwrap cs).length < cs.length := by
  induction pairs with
  | nil => simp [Wrapped] at h
  | cons pair pairs ih =>
    rw [List.foldl_cons]
    by_cases hw : ∃ inner, cs = wrap pair inner
    · obtain ⟨inner, rfl⟩ := hw
      obtain ⟨ps, -, hp⟩ := exists_peels pairs (unwrap (wrap pair inner) pair)
      exact Nat.lt_of_le_of_lt hp.isInfix.length_le (length_unwrap_wrap pair inner)
    · rw [unwrap_eq_self (not_exists.mp hw)]
      obtain ⟨p, hm, inner, hi⟩ := h
      rcases List.mem_cons.mp hm with rfl | hm
      · exact absurd ⟨inner, hi⟩ hw
      · exact ih ⟨p, hm, inner, hi⟩

def Quoted (cs : List Char) : Prop := Wrapped quotePairs cs

def stripped (cs : List Char) : List Char := quotePairs.foldl unwrap (trim cs)

def QuotedInOrder (cs : List Char) : Prop :=
  ∃ ps core, ps.Sublist quotePairs ∧ Peels ps (trim cs) core ∧ ¬Quoted core

theorem nodup_opening : (quotePairs.map Prod.fst).Nodup := by decide

theorem stripped_isInfix (cs : List Char) : stripped cs <:+: cs := by
  obtain ⟨ps, -, hp⟩ := exists_peels quotePairs (trim cs)
  exact hp.isInfix.trans (trim_isInfix cs)

theorem trimmed_stripped (cs : List Char) : Trimmed (stripped cs) := by
  obtain ⟨ps, -, hp⟩ := exists_peels quotePairs (trim cs)
  exact hp.trimmed (trimmed_trim cs)

theorem not_quoted_stripped_iff : ¬Quoted (stripped cs) ↔ QuotedInOrder cs := by
  constructor
  · intro h
    obtain ⟨ps, hs, hp⟩ := exists_peels quotePairs (trim cs)
    exact ⟨ps, _, hs, hp, h⟩
  · rintro ⟨ps, core, hs, hp, hc⟩
    rwa [stripped, hp.foldl_unwrap hs nodup_opening hc]

theorem stripped_eq_self_iff : stripped cs = cs ↔ Trimmed cs ∧ ¬Quoted cs := by
  constructor
  · intro h
    have ht : Trimmed cs := h ▸ trimmed_stripped cs
    refine ⟨ht, fun hq => ?_⟩
    have hl := hq.length_foldl_unwrap
    rw [stripped, ht.trim_eq] at h
    rw [h] at hl
    exact Nat.lt_irrefl _ hl
  · rintro ⟨ht, hq⟩
    rw [stripped, ht.trim_eq]
    exact Peels.nil.foldl_unwrap (List.nil_sublist _) nodup_opening hq

theorem cleanChars_eq_some_iff : cleanChars cs = some ds ↔
    stripped cs ≠ [] ∧ ds = (stripped cs).take 280 := by
  unfold cleanChars
  split
  · rename_i hs
    have hs : stripped cs = [] := hs
    simp [hs]
  · rename_i c rest hs
    have hs : stripped cs = c :: rest := hs
    rw [Option.some.injEq, hs, maxMessageLength]
    simp [eq_comm]

theorem clean_eq_some_iff : clean raw = some text ↔
    stripped raw.toList ≠ [] ∧ text.toList = (stripped raw.toList).take 280 := by
  rw [← cleanChars_eq_some_iff, clean, Option.map_eq_some_iff]
  constructor
  · rintro ⟨ds, hds, rfl⟩
    rw [hds, String.toList_ofList]
  · intro h
    exact ⟨_, h, String.ofList_toList⟩

theorem clean_self_iff : clean text = some text ↔
    text.toList ≠ [] ∧ text.toList.length ≤ 280 ∧ Trimmed text.toList ∧ ¬Quoted text.toList := by
  rw [clean_eq_some_iff, ← stripped_eq_self_iff]
  constructor
  · rintro ⟨hn, ht⟩
    have hl : text.toList.length ≤ 280 := by
      rw [ht]
      exact List.length_take_le _ _
    have hs : stripped text.toList = text.toList := by
      rw [List.take_of_length_le (Nat.le_trans (stripped_isInfix _).length_le hl)] at ht
      exact ht.symm
    exact ⟨hs ▸ hn, hl, hs⟩
  · rintro ⟨hn, hl, hs⟩
    rw [hs, List.take_of_length_le hl]
    exact ⟨hn, rfl⟩

theorem clean_of_blank_before_cut {front rest : List Char} {c : Char} (hc : isBlank c = true)
    (hl : front.length = 279) (hs : stripped raw.toList = front ++ c :: rest) :
    ∃ text, clean raw = some text ∧ ¬Trimmed text.toList ∧ clean text ≠ some text := by
  have hcut : (front ++ c :: rest).take 280 = front ++ [c] := by
    rw [List.take_append, hl, List.take_of_length_le (by omega)]
    rfl
  have ht : ¬Trimmed (front ++ [c]) := by
    intro ht
    have := ht.right c (by simp)
    simp [this] at hc
  refine ⟨String.ofList (front ++ [c]), clean_eq_some_iff.mpr ⟨by simp [hs], ?_⟩, ?_,
    fun hself => ?_⟩
  · rw [hs, hcut, String.toList_ofList]
  · rwa [String.toList_ofList]
  · obtain ⟨-, -, ht', -⟩ := clean_self_iff.mp hself
    rw [String.toList_ofList] at ht'
    exact ht ht'

theorem clean_settles (h : clean raw = some text) :
    1 ≤ text.toList.length ∧ text.toList.length ≤ 280 ∧ text.toList <:+: raw.toList ∧
    Unindented text.toList ∧
    ((stripped raw.toList).length ≤ 280 →
      Trimmed text.toList ∧ (¬Quoted text.toList ↔ QuotedInOrder raw.toList)) ∧
    (clean text = some text ↔ Trimmed text.toList ∧ ¬Quoted text.toList) := by
  obtain ⟨hn, ht⟩ := clean_eq_some_iff.mp h
  have hne : text.toList ≠ [] := by
    rw [ht, Ne, List.take_eq_nil_iff]
    simpa using hn
  have hl : text.toList.length ≤ 280 := by
    rw [ht]
    exact List.length_take_le _ _
  have hp : text.toList <+: stripped raw.toList := ht ▸ List.take_prefix _ _
  refine ⟨List.length_pos_iff.mpr hne, hl, hp.isInfix.trans (stripped_isInfix _),
    (trimmed_stripped _).left.of_prefix hp, fun hs => ?_, ?_⟩
  · rw [ht, List.take_of_length_le hs]
    exact ⟨trimmed_stripped _, not_quoted_stripped_iff⟩
  · rw [clean_self_iff]
    simp [hne, hl]

theorem clean_nested : clean "\"'Hi'\"" = some "Hi" ∧ Trimmed "Hi".toList ∧
    QuotedInOrder "\"'Hi'\"".toList ∧ clean "Hi" = some "Hi" := by
  have hc : clean "\"'Hi'\"" = some "Hi" := by decide +kernel
  obtain ⟨-, -, -, -, hwhole, hself⟩ := clean_settles hc
  obtain ⟨ht, hq⟩ := hwhole (by decide +kernel)
  have hn : ¬Quoted "Hi".toList := by
    rintro ⟨pair, hp, inner, hi⟩
    have ho : ∀ p ∈ quotePairs, 'H' ≠ p.1 := by decide
    exact ho pair hp (List.cons.inj hi).1
  exact ⟨hc, ht, hq.mp hn, hself.mpr ⟨ht, hn⟩⟩

/-- Of the same quotes the other way round, the inner ones stay until the text is cleaned again, and
so does a blank before the cut. -/
theorem clean_crossed :
    (clean "'\"Hi\"'" = some "\"Hi\"" ∧ Quoted "\"Hi\"".toList ∧ clean "\"Hi\"" = some "Hi") ∧
    ∃ text, clean (String.ofList (List.replicate 279 'x' ++ [' ', 'y'])) = some text ∧
      ¬Trimmed text.toList ∧ clean text ≠ some text := by
  have hl : (List.replicate 279 'x').length = 279 := List.length_replicate
  have hs : stripped (String.ofList (List.replicate 279 'x' ++ [' ', 'y'])).toList =
      List.replicate 279 'x' ++ ' ' :: ['y'] := by decide +kernel
  refine ⟨⟨by decide +kernel, ⟨('"', '"'), by decide, ['H', 'i'], by decide +kernel⟩,
    by decide +kernel⟩, ?_⟩
  exact clean_of_blank_before_cut (by decide) hl hs

end ImitationGame.Text
