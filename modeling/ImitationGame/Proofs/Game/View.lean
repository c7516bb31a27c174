import ImitationGame.Game.View
import ImitationGame.Proofs.Game.Disguise

namespace ImitationGame

inductive Stage.Twin : Stage → Stage → Prop where
  | refl (s : Stage) : Twin s s
  | awaiting (d d' : Driver) (kind : MessageKind) : Twin (.awaiting d kind) (.awaiting d' kind)

theorem Stage.phase_eq_iff {s t : Stage} : t.phase = s.phase ↔ s.Twin t := by
  constructor
  · intro h
    cases s <;> cases t <;> cases h <;> constructor
  · rintro (_ | _) <;> rfl

namespace Game

variable {g g' : Game} {viewer : Option Int} {messages : List Message}

def due (g : Game) : Option Int :=
  match g.acting with
  | .ok a => a
  | .error _ => none

/-- Two games that differ at most in what drives the awaited bot, in the turn, in a pending job and
in what is private to the bots that are not the viewer's. -/
structure Resembles (viewer : Option Int) (g g' : Game) : Prop where
  id : g'.id = g.id
  stage : g.stage.Twin g'.stage
  order : g'.order = g.order
  handledAt : g'.handledAt = g.handledAt
  budget : g'.budget = g.budget
  question : g'.question = g.question
  target : g'.target = g.target
  result : g'.result = g.result
  winner : g'.winner = g.winner
  bots : g'.bots.map Bot.veil = g.bots.map Bot.veil
  own : (viewer.bind g'.botOf?).map (fun b => (b.id, b.help)) =
    (viewer.bind g.botOf?).map fun b => (b.id, b.help)

namespace Resembles

theorem due_eq (h : g.Resembles viewer g') (ht : g'.turn = g.turn) : g'.due = g.due := by
  have ha : g'.stage.awaited = g.stage.awaited :=
    Stage.awaited_eq_of_phase_eq (Stage.phase_eq_iff.mpr h.stage)
  have hacting : g'.acting = g.acting := by
    simp only [acting, ha, h.target, h.id, turnBot, h.order, ht]
  rw [due, due, hacting]

end Resembles

theorem views_eq_iff {bs bs' : List Bot} :
    (bs'.map fun b => (⟨b.id, b.seat, b.name⟩ : BotView)) = bs.map (fun b => ⟨b.id, b.seat, b.name⟩) ↔
      bs'.map Bot.veil = bs.map Bot.veil := by
  constructor
  · intro h
    have hm := congrArg (List.map fun v : BotView => (⟨v.id, v.seat, v.name, .ai, none, 0⟩ : Bot)) h
    rwa [List.map_map, List.map_map] at hm
  · intro h
    have hm := congrArg (List.map fun b : Bot => (⟨b.id, b.seat, b.name⟩ : BotView)) h
    rwa [List.map_map, List.map_map] at hm

theorem own_eq_iff {o o' : Option Bot} :
    o'.map (fun b => (b.id, b.help)) = o.map (fun b => (b.id, b.help)) ↔
      o'.map Bot.id = o.map Bot.id ∧ o'.map Bot.help = o.map Bot.help := by
  cases o <;> cases o' <;> simp

theorem view_eq_iff : g'.view messages viewer = g.view messages viewer ↔
    g.Resembles viewer g' ∧ g'.due = g.due := by
  constructor
  · intro h
    simp only [view, GameView.mk.injEq, true_and] at h
    obtain ⟨hid, hphase, hmine, hhelp, hbots, horder, hdue, hq, ht, hr, hw, hat, hbudget⟩ := h
    exact ⟨⟨hid, Stage.phase_eq_iff.mp hphase, horder, hat, hbudget, hq, ht, hr, hw,
      views_eq_iff.mp hbots, own_eq_iff.mpr ⟨hmine, hhelp⟩⟩, hdue⟩
  · rintro ⟨h, hdue⟩
    obtain ⟨hmine, hhelp⟩ := own_eq_iff.mp h.own
    simp only [view, GameView.mk.injEq, true_and]
    exact ⟨h.id, Stage.phase_eq_iff.mpr h.stage, hmine, hhelp, views_eq_iff.mpr h.bots, h.order,
      hdue, h.question, h.target, h.result, h.winner, h.handledAt, h.budget⟩

/-- A view never tells who is an AI: it is the same for games in which the viewer owns the same bot
with the same hints left, whatever drives the bots, whoever owns the others. -/
theorem view_undisclosed (viewer : Option Int) (g g' : Game) (h : g.Resembles viewer g')
    (ht : g'.turn = g.turn) (messages : List Message) :
    g'.view messages viewer = g.view messages viewer :=
  view_eq_iff.mpr ⟨h, h.due_eq ht⟩

def sampleAstray (stage : Stage) (handled : Bool) (bots : List Bot) : Game where
  id := 1
  stage
  order := [1, 2, 3]
  turn := 3
  handled
  handledAt := none
  budget := 60
  question := none
  target := none
  result := none
  winner := none
  bots

def sampleOpen : Game := sampleAstray (.awaiting .human .question) true
  [⟨1, 0, "Ada", .human, some 8, 2⟩, ⟨2, 1, "Bob", .human, some 7, 1⟩, ⟨3, 2, "Cy", .ai, none, 3⟩]

def sampleVeiled : Game := sampleAstray (.awaiting .ai .question) false
  [⟨1, 0, "Ada", .ai, none, 3⟩, ⟨2, 1, "Bob", .human, some 7, 1⟩, ⟨3, 2, "Cy", .human, some 8, 0⟩]

theorem sampleVeiled_undisclosed : sampleOpen.Resembles (some 7) sampleVeiled ∧
    sampleVeiled.turn = sampleOpen.turn ∧ sampleOpen.due = none ∧
    (sampleOpen.view [] (some 7)).mine = some 2 ∧
    sampleVeiled.view [] (some 7) = sampleOpen.view [] (some 7) := by
  have h : sampleOpen.Resembles (some 7) sampleVeiled :=
    ⟨rfl, .awaiting _ _ _, rfl, rfl, rfl, rfl, rfl, rfl, rfl, rfl, by decide⟩
  exact ⟨h, rfl, by decide, by decide, view_undisclosed (some 7) _ _ h rfl []⟩

end Game

end ImitationGame
