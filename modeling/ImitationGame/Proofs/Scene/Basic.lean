import ImitationGame.Proofs.Game.Proposal
import ImitationGame.Play.Join
import ImitationGame.Store.Row

/-! A game with its conversation, and all that a transaction can make of it. -/

namespace ImitationGame

def MessageRow.said (m : MessageRow) : Option Utterance :=
  m.kind.map fun kind => ⟨kind, m.source, m.target, m.text⟩

namespace Game

def seatLimit : Nat := 256

def mapBots (g : Game) (f : Bot → Bot) : Game := { g with bots := g.bots.map f }

def spend (g : Game) (bot : Int) : Game :=
  g.mapBots fun b => if b.id = bot then { b with help := b.help - 1 } else b

def applyAt (g : Game) (now : Instant) (c : Change) : Game :=
  { g.apply c with handledAt := some (.utc now) }

section

variable (g : Game) (now : Instant) (c : Change)

@[simp] theorem stage_applyAt : (g.applyAt now c).stage = c.stage := rfl
@[simp] theorem turn_applyAt : (g.applyAt now c).turn = c.turn := rfl
@[simp] theorem order_applyAt : (g.applyAt now c).order = c.order.getD g.order := rfl
@[simp] theorem handled_applyAt : (g.applyAt now c).handled = c.handled := rfl
@[simp] theorem budget_applyAt : (g.applyAt now c).budget = c.budget := rfl
@[simp] theorem question_applyAt : (g.applyAt now c).question = c.question := rfl
@[simp] theorem target_applyAt : (g.applyAt now c).target = c.target := rfl
@[simp] theorem bots_applyAt : (g.applyAt now c).bots = g.bots := rfl
@[simp] theorem ids_applyAt : (g.applyAt now c).ids = g.ids := rfl

end

end Game

structure Scene where
  game : Game
  log : List MessageRow

namespace Scene

structure Opening (s : Scene) : Prop where
  log : s.log = []
  stage : s.game.stage = .started
  turn : s.game.turn = 0
  handled : s.game.handled = true
  budget : s.game.budget = 0
  question : s.game.question = none
  target : s.game.target = none
  result : s.game.result = none
  winner : s.game.winner = none
  order : s.game.order = s.game.ids
  bots_ne_nil : s.game.bots ≠ []
  size : s.game.bots.length ≤ Game.seatLimit
  ids_nodup : s.game.ids.Nodup
  seats : s.game.bots.map Bot.seat = List.range s.game.bots.length
  bots : ∀ b ∈ s.game.bots, b.driver = .ai ∧ b.player = none ∧ b.help = Game.initialHelp

inductive Step : Scene → Scene → Prop where
  | join {g : Game} {log b player} : g.stage = .started → g.botOf? player = none →
      g.firstAi? = some b → (g.claim b.id player).quorum = none →
      Step ⟨g, log⟩ ⟨g.claim b.id player, log⟩
  | gather {g : Game} {log b player c now} : g.stage = .started → g.botOf? player = none →
      g.firstAi? = some b → (g.claim b.id player).quorum = some c →
      Step ⟨g, log⟩ ⟨(g.claim b.id player).applyAt now c, log⟩
  | start {g : Game} {log draws c now} : g.start draws = .ok c →
      Step ⟨g, log⟩ ⟨g.applyAt now c, log⟩
  | speak {g : Game} {log u c m now} : g.advance u = .ok c → m.said = some u →
      Step ⟨g, log⟩ ⟨g.applyAt now c, log ++ [m]⟩
  | tag {g : Game} {log tagger accused outcome now} : g.tag tagger accused = .ok outcome →
      Step ⟨g, log⟩ ⟨g.applyAt now outcome.change, log⟩
  | hint {g : Game} {log b} : b ∈ g.bots → g.acting = .ok (some b.id) → 0 < b.help →
      Step ⟨g, log⟩ ⟨g.spend b.id, log⟩

inductive Reached : Scene → Prop where
  | opening {s} : Opening s → Reached s
  | step {s t} : Reached s → Step s t → Reached t

end Scene

end ImitationGame
