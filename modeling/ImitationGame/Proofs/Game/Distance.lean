import ImitationGame.Proofs.Game.Progress

/-! How many jobs a game is away from the next human: the bots of AIs that come before a human in
the order ask and answer once each. -/

namespace ImitationGame

theorem findIdx_add_countP_le {α : Type} (p : α → Bool) (xs : List α) :
    xs.findIdx p + xs.countP p ≤ xs.length := by
  induction xs with
  | nil => simp
  | cons a as ih =>
    rw [List.findIdx_cons, List.countP_cons, List.length_cons]
    cases p a with
    | true =>
      have := List.countP_le_length (p := p) (l := as)
      simp only [cond_true, if_true]
      omega
    | false =>
      simp only [cond_false, Bool.false_eq_true, if_false]
      omega

namespace Game

variable {g : Game} {b : Bot} {c : Change} {now : Instant} {text : String} {i : Int}

def isHuman (g : Game) (i : Int) : Bool := g.bots.any fun b => b.id == i && b.driver == .human

def upcoming (g : Game) : List Int := g.order.rotate (g.turn + 1)

def gap (g : Game) : Nat := g.upcoming.findIdx g.isHuman

def jobsLeft (g : Game) : Nat :=
  match g.stage with
  | .joined => 2 * g.bots.length - 3
  | .awaiting .ai .question => 2 * g.gap + 2
  | .awaiting .ai .answer => 2 * g.gap + 1
  | _ => 0

theorem jobsLeft_eq_zero (h : g.stage.needsSystem = false) : g.jobsLeft = 0 := by
  unfold jobsLeft
  rcases hs : g.stage with _ | _ | ⟨_ | _, _ | _⟩ | _ <;> simp [hs, Stage.needsSystem] at h ⊢

theorem jobsLeft_of_joined (h : g.stage = .joined) : g.jobsLeft = 2 * g.bots.length - 3 := by
  rw [jobsLeft, h]

theorem Consistent.jobsLeft_pos (h : g.Consistent) (hn : g.stage.needsSystem = true) :
    0 < g.jobsLeft := by
  unfold jobsLeft
  split
  · rename_i hs
    have := h.two_le_length (by simp [hs])
    omega
  · omega
  · omega
  · rename_i h₁ h₂ h₃
    rcases hs : g.stage with _ | _ | ⟨_ | _, _ | _⟩ | _ <;> simp_all [Stage.needsSystem]

theorem jobsLeft_ask (hs : g.stage = .awaiting .ai .question) :
    (g.applyAt now (g.askedChange b text)).jobsLeft < g.jobsLeft := by
  have hg : (g.applyAt now (g.askedChange b text)).gap = g.gap := rfl
  rw [jobsLeft, jobsLeft, hs, stage_applyAt, hg]
  simp only [askedChange, enter, Stage.answerFor]
  cases b.driver
  · simp only
    omega
  · simp only
    omega

theorem isHuman_iff (hn : g.ids.Nodup) (hb : b ∈ g.bots) :
    g.isHuman b.id = true ↔ b.driver = .human := by
  rw [isHuman, List.any_eq_true]
  constructor
  · rintro ⟨a, ha, h⟩
    simp only [Bool.and_eq_true, beq_iff_eq] at h
    rw [← List.inj_on_of_nodup_map hn ha hb h.1]
    exact h.2
  · intro h
    exact ⟨b, hb, by simp [h]⟩

theorem isHuman_eq_false (hn : g.ids.Nodup) (hb : b ∈ g.bots) (hd : b.driver = .ai) :
    g.isHuman b.id = false := by
  rw [← Bool.not_eq_true, isHuman_iff hn hb, hd]
  exact Driver.noConfusion

namespace Seated

variable (h : g.Seated)

include h

theorem length_upcoming : g.upcoming.length = g.bots.length := by
  rw [upcoming, List.length_rotate, h.wellFormed.length_order]

theorem countP_upcoming : g.upcoming.countP g.isHuman = g.humans := by
  have hp : g.upcoming.Perm g.ids := (List.rotate_perm _ _).trans h.wellFormed.order_perm
  rw [hp.countP_eq, ids, List.countP_map, humans]
  apply List.countP_congr
  intro b hb
  rw [Function.comp_apply, isHuman_iff h.ids_nodup hb, beq_iff_eq]

theorem upcoming_eq (ht : g.turnBot = .ok i) : g.upcoming = g.others g.turn ++ [i] := by
  have hl := h.wellFormed.turn_lt
  obtain ⟨_, hi⟩ := List.getElem?_eq_some_iff.mp (turnBot_eq_ok_iff.mp ht)
  rw [upcoming, List.rotate_eq_drop_append_take (by omega), others_eq hl,
    ← List.take_append_getElem hl, hi, List.append_assoc]

theorem gap_le (hh : g.humans = 2) : g.gap + 2 ≤ g.bots.length := by
  rw [← hh, ← h.countP_upcoming, ← h.length_upcoming]
  exact findIdx_add_countP_le _ _

theorem gap_lt (hh : g.humans = 2) (hb : b ∈ g.bots) (ht : g.turnBot = .ok b.id)
    (hd : b.driver = .ai) : g.gap + 3 ≤ g.bots.length := by
  have hu := h.upcoming_eq ht
  -- The bot at the turn comes last and is no human, so both humans come before it.
  have hf := isHuman_eq_false h.ids_nodup hb hd
  have hc := h.countP_upcoming
  have hl := h.length_upcoming
  rw [hu, List.countP_append, List.countP_singleton, if_neg (by rw [hf]; simp)] at hc
  rw [hu, List.length_append, List.length_singleton] at hl
  have hle := findIdx_add_countP_le g.isHuman (g.others g.turn)
  have hlt : (g.others g.turn).findIdx g.isHuman < (g.others g.turn).length := by omega
  rw [gap, hu, List.findIdx_append, if_pos hlt]
  omega

theorem gap_lt_of_question (hc : g.Consistent) (hs : g.stage = .awaiting .ai .question) :
    g.gap + 3 ≤ g.bots.length := by
  obtain ⟨b, hb, ht, hd⟩ := hc.exists_asker hs
  exact h.gap_lt (hc.full (by simp [hs])) hb ht hd

theorem jobsLeft_le (hc : g.Consistent) : g.jobsLeft ≤ 2 * g.bots.length - 3 := by
  unfold jobsLeft
  split
  · exact Nat.le_refl _
  · rename_i hs
    have := h.gap_lt_of_question hc hs
    omega
  · rename_i hs
    have := h.gap_le (hc.full (by simp [hs]))
    omega
  · exact Nat.zero_le _

theorem jobsLeft_lt_of_question (hc : g.Consistent) {d : Driver} (hs : g.stage = .questionFor d) :
    g.jobsLeft < 2 * g.bots.length - 3 := by
  have hl := hc.two_le_length (by simp [hs, Stage.questionFor])
  cases d with
  | human =>
    rw [jobsLeft_eq_zero (by rw [hs]; rfl)]
    omega
  | ai =>
    have := h.gap_lt_of_question hc hs
    rw [jobsLeft, hs, Stage.questionFor]
    simp only
    omega

theorem jobsLeft_reply (hh : g.humans = 2) (hs : g.stage = .awaiting .ai .answer) (hb : b ∈ g.bots)
    (ho : g.order[nextTurn g.turn g.order.length]? = some b.id) :
    (g.applyAt now (g.answeredChange b)).jobsLeft < g.jobsLeft := by
  have hl := h.wellFormed.length_order
  cases hd : b.driver with
  | human =>
    rw [jobsLeft_eq_zero
        (by simp [answeredChange, enter, hd, Stage.questionFor, Stage.needsSystem]),
      jobsLeft, hs]
    simp only
    omega
  | ai =>
    rw [h.nextTurn_eq, ← hl] at ho
    have hu : (g.applyAt now (g.answeredChange b)).upcoming = g.upcoming.rotate 1 := by
      simp only [upcoming, answeredChange, enter, turn_applyAt, order_applyAt, Option.getD_none,
        h.nextTurn_eq, List.rotate_rotate]
      rw [← List.rotate_rotate, ← hl, List.rotate_mod, List.rotate_rotate]
    -- The bot that comes first is passed: from now on it comes last.
    obtain ⟨rest, hr⟩ : ∃ rest, g.upcoming = b.id :: rest := by
      rw [← List.head?_eq_some_iff, upcoming, ← List.rotate_mod, List.head?_rotate]
      · exact ho
      · exact (List.getElem?_eq_some_iff.mp ho).1
    have hf := isHuman_eq_false h.ids_nodup hb hd
    have hc := h.countP_upcoming
    rw [hr, List.countP_cons_of_neg (by simp [hf]), hh] at hc
    have hle := findIdx_add_countP_le g.isHuman rest
    have hlt : rest.findIdx g.isHuman < rest.length := by omega
    have hg : g.gap = rest.findIdx g.isHuman + 1 := by
      rw [gap, hr, List.findIdx_cons, hf]
      rfl
    have hg' : (g.applyAt now (g.answeredChange b)).gap = rest.findIdx g.isHuman := by
      rw [gap, hu, hr, List.rotate_cons_succ, List.rotate_zero]
      change (rest ++ [b.id]).findIdx g.isHuman = _
      rw [List.findIdx_append, if_pos hlt]
    rw [jobsLeft, jobsLeft, hs, hg, hg', stage_applyAt]
    simp only [answeredChange, enter, hd, Stage.questionFor]
    omega

end Seated

end Game

end ImitationGame
