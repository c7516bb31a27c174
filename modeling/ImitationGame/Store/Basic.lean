import ImitationGame.Store.Row

namespace ImitationGame

structure Store where
  players : Table PlayerRow
  games : Table GameRow
  bots : Table BotRow
  messages : Table MessageRow

/-- A change of the store that gives an answer, or a fault that changes nothing. -/
abbrev Transaction (α : Type) := Store → Except Fault (α × Store)

namespace Fault

def foreignKey : Fault := .storage (.execution "(code: 787) FOREIGN KEY constraint failed")

def seatTaken : Fault :=
  .storage (.execution "(code: 2067) UNIQUE constraint failed: bots.game_id, bots.seat")

def tableFull : Fault := .storage (.execution "(code: 13) database or disk is full")

def noTables : Fault := .storage (.execution "(code: 1) no such table")

def unwritable : Fault := .storage (.execution "(code: 1299) NOT NULL constraint failed")

end Fault

namespace Store

def empty : Store := ⟨.empty, .empty, .empty, .empty⟩

def player? (s : Store) (id : Int) : Option PlayerRow := s.players.rows.find? fun r => r.id == id

def gameRow? (s : Store) (id : Int) : Option GameRow := s.games.rows.find? fun r => r.id == id

def botRow? (s : Store) (id : Int) : Option BotRow := s.bots.rows.find? fun r => r.id == id

def botRows (s : Store) (game : Int) : List BotRow :=
  Sorted.sort (fun a b => a.seat.upTo b.seat) (s.bots.rows.filter fun r => r.game == game)

def messageRows (s : Store) (game : Int) : List MessageRow :=
  Sorted.sort
    (fun a b => a.createdAt.upTo b.createdAt && (!b.createdAt.upTo a.createdAt || a.id ≤ b.id))
    (s.messages.rows.filter fun r => r.game == game)

def find (s : Store) (game : Int) : Except Fault (Option Game) :=
  match s.gameRow? game with
  | none => .ok none
  | some row => (Game.ofRows row (s.botRows game)).map some

def load (s : Store) (game : Int) : Except Fault Game :=
  match s.gameRow? game with
  | none => .error (.refused (.gameMissing game))
  | some row => Game.ofRows row (s.botRows game)

def loadDated (s : Store) (game : Int) : Except Fault DatedGame :=
  match s.gameRow? game with
  | none => .error (.refused (.gameMissing game))
  | some row => DatedGame.ofRows row (s.botRows game)

def messagesOf (s : Store) (game : Int) : Except Fault (List Message) :=
  (s.messageRows game).mapM MessageRow.read

def questionsBy (s : Store) (game bot : Int) : Nat :=
  s.messages.count fun r => r.game == game && r.source == bot && r.kind == some .question

def requirePlayer (s : Store) (player : Int) : Except Fault Player :=
  match s.player? player with
  | some r => r.read
  | none => .error (.refused (.playerMissing player))

end Store

end ImitationGame
