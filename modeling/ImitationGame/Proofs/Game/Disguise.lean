import ImitationGame.Proofs.Agree
import ImitationGame.Proofs.Game.Proposal

/-! Games that look alike to one of their players: the same bots in the same order, and the same
phase; what drives the bots of others may differ. The rules refuse the same moves in both. -/

namespace ImitationGame

def Bot.veil (b : Bot) : Bot := { b with driver := .ai, player := none, help := 0 }

def Bot.Alike (caller : Int) (b b' : Bot) : Prop :=
  b' = b ∨ (b'.veil = b.veil ∧ b.player ≠ some caller ∧ b'.player ≠ some caller)

variable {caller : Int} {b b' t t' : Bot} {x : Int}

namespace Bot.Alike

theorem veil_eq (h : b.Alike caller b') : b'.veil = b.veil := by
  rcases h with rfl | ⟨h, -⟩
  · rfl
  · exact h

theorem id_eq (h : b.Alike caller b') : b'.id = b.id := by
  have hv : b'.veil.id = b.veil.id := by rw [h.veil_eq]
  exact hv

theorem name_eq (h : b.Alike caller b') : b'.name = b.name := by
  have hv : b'.veil.name = b.veil.name := by rw [h.veil_eq]
  exact hv

theorem eq_of_player (h : b.Alike caller b') (hp : b.player = some caller) : b' = b := by
  rcases h with h | ⟨-, hn, -⟩
  · exact h
  · exact absurd hp hn

theorem player_iff (h : b.Alike caller b') : b'.player = some caller ↔ b.player = some caller := by
  rcases h with rfl | ⟨-, hn, hn'⟩
  · rfl
  · simp [hn, hn']

end Bot.Alike

namespace Game

variable {g g' : Game} {u : Utterance}

structure Alike (caller : Int) (g g' : Game) : Prop where
  id : g'.id = g.id
  awaited : g'.stage.awaited = g.stage.awaited
  idle : g.stage.awaited = none → g'.stage = g.stage
  order : g'.order = g.order
  turn : g'.turn = g.turn
  question : g'.question = g.question
  target : g'.target = g.target
  bots : List.Forall₂ (Bot.Alike caller) g.bots g'.bots

theorem awaited_of_acting (h : g.acting = .ok none) : g.stage.awaited = none := by
  unfold acting at h
  split at h
  · cases ht : g.turnBot <;> simp [ht, Except.map] at h
  · split at h <;> simp at h
  · assumption

namespace Alike

theorem refl (caller : Int) (g : Game) : g.Alike caller g where
  id := rfl
  awaited := rfl
  idle _ := rfl
  order := rfl
  turn := rfl
  question := rfl
  target := rfl
  bots := List.forall₂_same.mpr fun _ _ => .inl rfl

variable (h : g.Alike caller g')

include h

theorem ids_eq : g'.ids = g.ids := by
  have hf : List.Forall₂ (· = ·) (g.bots.map Bot.id) (g'.bots.map Bot.id) :=
    List.rel_map (fun _ _ hb => hb.id_eq.symm) h.bots
  rw [List.forall₂_eq_eq_eq] at hf
  exact hf.symm

theorem bot (x : Int) : Agree (Bot.Alike caller) (g.bot x) (g'.bot x) := by
  rw [Game.bot, Game.bot, h.id, find?, find?]
  rcases find?_cases h.bots fun _ _ hb => congrArg (· == x) hb.id_eq with
    ⟨hn, hn'⟩ | ⟨b, b', hb, hb', hr, -⟩
  · rw [hn, hn']
    exact .error _
  · rw [hb, hb']
    exact .ok hr

theorem botOf?_eq : g'.botOf? caller = g.botOf? caller := by
  have hp : ∀ b b' : Bot, b.Alike caller b' →
      (b'.player == some caller) = (b.player == some caller) := fun b b' hb => by
    rw [Bool.eq_iff_iff, beq_iff_eq, beq_iff_eq]
    exact hb.player_iff
  rw [botOf?, botOf?]
  rcases find?_cases h.bots hp with ⟨hn, hn'⟩ | ⟨b, b', hb, hb', hr, hc⟩
  · rw [hn, hn']
  · rw [hb, hb', hr.eq_of_player (beq_iff_eq.mp hc)]

theorem awaitsQuestion : g'.stage.awaitsQuestion = g.stage.awaitsQuestion := by
  rw [Stage.awaitsQuestion, Stage.awaitsQuestion, h.awaited]

theorem awaitsAnswer : g'.stage.awaitsAnswer = g.stage.awaitsAnswer := by
  rw [Stage.awaitsAnswer, Stage.awaitsAnswer, h.awaited]

theorem check_eq : g'.check = g.check := by
  have hb : g'.bots.isEmpty = g.bots.isEmpty := by
    rw [Bool.eq_iff_iff, List.isEmpty_iff_length_eq_zero, List.isEmpty_iff_length_eq_zero,
      h.bots.length_eq]
  have ho : g'.orderFits = g.orderFits := by rw [orderFits, orderFits, h.order, h.ids_eq]
  have ht : g'.targetFits = g.targetFits := by rw [targetFits, targetFits, h.target, h.ids_eq]
  simp only [check, hb, h.id, h.order, h.turn, ho, h.awaitsAnswer, ht]

theorem turnBot_eq : g'.turnBot = g.turnBot := by
  simp only [turnBot, h.id, h.order, h.turn]

theorem acting_eq : g'.acting = g.acting := by
  simp only [acting, h.id, h.awaited, h.target, h.turnBot_eq]

theorem finished_iff : g'.stage = .finished ↔ g.stage = .finished := by
  have ha := h.awaited
  cases hs : g.stage with
  | awaiting d k =>
    rw [hs] at ha
    constructor
    · intro hf
      rw [hf] at ha
      cases ha
    · nofun
  | started | joined | finished =>
    rw [h.idle (by rw [hs]; rfl), hs]

theorem requireTurns_eq : g'.requireTurns = g.requireTurns := by
  cases hs : g.stage with
  | awaiting d k =>
    have ha := h.awaited
    rw [hs] at ha
    cases hs' : g'.stage with
    | awaiting d' k' => simp only [requireTurns, hs, hs']
    | started | joined | finished =>
      rw [hs'] at ha
      cases ha
  | started | joined | finished =>
    have he : g'.stage = g.stage := h.idle (by rw [hs]; rfl)
    simp only [requireTurns, he, hs, h.id]

theorem ask (hb : b.Alike caller b') (ht : t.Alike caller t') (text : String) :
    Agree (fun c c' => c'.turn = c.turn) (g.ask b t text) (g'.ask b' t' text) := by
  simp only [Game.ask, throw_eq_error, error_bind, pure_eq_ok, h.awaitsQuestion, h.id, hb.id_eq,
    ht.id_eq, h.turnBot_eq]
  refine .ite (fun _ => .error _) fun _ => .after fun i _ => ?_
  refine .ite (fun _ => .error _) fun _ => .ite (fun _ => .error _) fun _ => ?_
  exact .ok h.turn

theorem reply (hb : b.Alike caller b') (ht : t.Alike caller t') :
    Agree (fun c c' => c'.turn = c.turn) (g.reply b t) (g'.reply b' t') := by
  simp only [Game.reply, throw_eq_error, error_bind, pure_eq_ok, h.awaitsAnswer, h.id, hb.id_eq,
    ht.id_eq, h.target, h.turn, h.order]
  refine .ite (fun _ => .error _) fun _ => .ite (fun _ => .error _) fun _ =>
    .ite (fun _ => .error _) fun _ => ?_
  split
  · exact .error _
  · exact (h.bot _).bind fun d d' _ _ _ => .ok rfl

theorem advance (u : Utterance) :
    Agree (fun c c' => c'.turn = c.turn) (g.advance u) (g'.advance u) := by
  simp only [Game.advance, h.requireTurns_eq]
  refine .after fun _ _ => ?_
  refine (h.bot u.source).bind fun b b' _ _ hb => ?_
  refine (h.bot u.target).bind fun t t' _ _ ht => ?_
  cases u.kind with
  | question => exact h.ask hb ht u.text
  | answer => exact h.reply hb ht

theorem tag (tagger accused : Int) : Agree (fun o o' => o'.change.turn = o.change.turn)
    (g.tag tagger accused) (g'.tag tagger accused) := by
  simp only [Game.tag, throw_eq_error, error_bind, pure_eq_ok, h.finished_iff, h.id, h.acting_eq]
  refine .ite (fun _ => .error _) fun _ => .after fun due hd => ?_
  cases due with
  | none =>
    rw [h.idle (awaited_of_acting hd)]
    exact .error _
  | some due =>
    refine (h.bot tagger).bind fun t t' _ _ ht => ?_
    rw [ht.id_eq]
    refine .ite (fun _ => .error _) fun _ => .ite (fun _ => .error _) fun _ => ?_
    exact (h.bot accused).bind fun a a' _ _ _ => .ok h.turn

theorem nextTarget_eq (source : Int) (asked : Nat) :
    g'.nextTarget source asked = g.nextTarget source asked := by
  apply Agree.eq
  simp only [Game.nextTarget, others, h.order]
  exact (h.bot source).bind fun _ _ _ _ _ => .of_eq rfl

end Alike

end Game

end ImitationGame
