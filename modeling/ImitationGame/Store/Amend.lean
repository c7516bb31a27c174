import ImitationGame.Store.Database
import ImitationGame.Store.Scan

/-! Amendments by hand: single cells set behind the back of play, and dates moved. The storage
engine still guards ids, references, unique keys and the cells that must not be empty. -/

namespace ImitationGame

inductive TableName where
  | players | games | bots | messages
deriving DecidableEq, Repr

def lowerName (s : String) : String := s.map Char.toLower

namespace TableName

def ofText? (s : String) : Option TableName :=
  match lowerName s with
  | "players" => some players
  | "games" => some games
  | "bots" => some bots
  | "messages" => some messages
  | _ => none

def columns : TableName → List String
  | players => ["id", "display_name", "created_at"]
  | games => ["id", "state", "turn_order", "current_turn_index", "state_handled",
      "state_handled_at", "current_state_total_time", "last_question",
      "last_question_target_bot_id", "result", "winning_bot_id", "created_at", "updated_at"]
  | bots => ["id", "game_id", "seat", "name", "bot_type", "player_id", "help_count", "created_at"]
  | messages => ["id", "game_id", "source_bot_id", "target_bot_id", "kind", "text", "created_at"]

def column? (t : TableName) (name : String) : Option String :=
  let name := lowerName name
  let name := if ["rowid", "oid", "_rowid_"].contains name then "id" else name
  if t.columns.contains name then some name else none

end TableName

namespace Cell

def reference? (c : Cell) : Option Int := c.toNumber.int?

def timestamp (c : Cell) : Timestamp := .other c.toText

def order (s : String) : OrderCell :=
  let text := s.toUTF8.data.toList
  match Json.Reader.whole (.list .int) text with
  | .ok (.list items) => .list <| items.filterMap fun
    | .int n => some n
    | _ => none
  | .ok _ => .garbled ""
  | .error f => .garbled (f.message text)

end Cell

def PlayerRow.set (r : PlayerRow) (column : String) (c : Option Cell) : Option PlayerRow :=
  match column with
  | "id" => (c.bind Cell.reference?).map fun id => { r with id }
  | "display_name" => c.map fun c => { r with name := c.toText }
  | "created_at" => c.map fun c => { r with createdAt := c.timestamp }
  | _ => none

def GameRow.set (r : GameRow) (column : String) (c : Option Cell) : Option GameRow :=
  match column with
  | "id" => (c.bind Cell.reference?).map fun id => { r with id }
  | "state" => c.map fun c => { r with stage := Stage.ofText? c.toText }
  | "turn_order" => c.map fun c => { r with order := Cell.order c.toText }
  | "current_turn_index" => c.map fun c => { r with turn := c.toNumber }
  | "state_handled" => c.map fun c => { r with handled := c.toNumber }
  | "state_handled_at" => some { r with handledAt := c.map Cell.timestamp }
  | "current_state_total_time" => c.map fun c => { r with budget := c.toNumber }
  | "last_question" => some { r with question := c.map Cell.toText }
  | "last_question_target_bot_id" => some { r with target := c.map Cell.toNumber }
  | "result" => some { r with result := c.map Cell.toText }
  | "winning_bot_id" => some { r with winner := c.map Cell.toNumber }
  | "created_at" => c.map fun c => { r with createdAt := c.timestamp }
  | "updated_at" => c.map fun c => { r with updatedAt := c.timestamp }
  | _ => none

def BotRow.set (r : BotRow) (column : String) (c : Option Cell) : Option BotRow :=
  match column with
  | "id" => (c.bind Cell.reference?).map fun id => { r with id }
  | "game_id" => (c.bind Cell.reference?).map fun game => { r with game }
  | "seat" => c.map fun c => { r with seat := c.toNumber }
  | "name" => c.map fun c => { r with name := c.toText }
  | "bot_type" => c.map fun c => { r with driver := Driver.ofText? c.toText }
  | "player_id" =>
    match c with
    | none => some { r with player := none }
    | some c => c.reference?.map fun player => { r with player := some player }
  | "help_count" => c.map fun c => { r with help := c.toNumber }
  | "created_at" => c.map fun c => { r with createdAt := c.timestamp }
  | _ => none

def MessageRow.set (r : MessageRow) (column : String) (c : Option Cell) : Option MessageRow :=
  match column with
  | "id" => (c.bind Cell.reference?).map fun id => { r with id }
  | "game_id" => (c.bind Cell.reference?).map fun game => { r with game }
  | "source_bot_id" => (c.bind Cell.reference?).map fun source => { r with source }
  | "target_bot_id" => (c.bind Cell.reference?).map fun target => { r with target }
  | "kind" => c.map fun c => { r with kind := MessageKind.ofText? c.toText }
  | "text" => c.map fun c => { r with text := c.toText }
  | "created_at" => c.map fun c => { r with createdAt := c.timestamp }
  | _ => none

structure Amendment where
  table : String
  id : Int
  cells : List (String × Option Cell)

def latest : List (String × Option Cell) → List (String × Option Cell)
  | [] => []
  | c :: cs => if cs.any fun d => d.1 == c.1 then latest cs else c :: latest cs

namespace Table

variable {ρ : Type} [Keyed ρ]

def amend (t : Table ρ) (id : Int) (set : ρ → String → Option Cell → Option ρ)
    (cells : List (String × Option Cell)) : Option (Nat × Table ρ) := do
  let hit (r : ρ) : Bool := Keyed.id r == id
  let rows ← t.rows.mapM fun r =>
    if hit r then cells.foldlM (fun r (column, c) => set r column c) r else some r
  if (rows.map Keyed.id).Nodup then
    some (t.count hit,
      { t with rows := Sorted.sort (fun a b => Keyed.id a ≤ Keyed.id b) rows })
  else none

end Table

namespace Store

def referencesHold (s : Store) : Bool :=
  s.bots.rows.all (fun b =>
      (s.gameRow? b.game).isSome && b.player.all fun p => (s.player? p).isSome) &&
    s.messages.rows.all fun m =>
      (s.gameRow? m.game).isSome && (s.botRow? m.source).isSome && (s.botRow? m.target).isSome

def seatsDiffer (s : Store) : Bool :=
  decide (s.bots.rows.Pairwise fun a b => ¬(a.game = b.game ∧ a.seat.same b.seat))

def amend (s : Store) (a : Amendment) : Option (Nat × Store) := do
  let table ← TableName.ofText? a.table
  let cells ← a.cells.mapM fun (name, c) => return (← table.column? name, c)
  if cells.isEmpty then none
  let cells := latest cells
  let (n, s) ← match table with
    | .players => do
      let (n, players) ← s.players.amend a.id PlayerRow.set cells
      pure (n, { s with players })
    | .games => do
      let (n, games) ← s.games.amend a.id GameRow.set cells
      pure (n, { s with games })
    | .bots => do
      let (n, bots) ← s.bots.amend a.id BotRow.set cells
      pure (n, { s with bots })
    | .messages => do
      let (n, messages) ← s.messages.amend a.id MessageRow.set cells
      pure (n, { s with messages })
  if s.referencesHold && s.seatsDiffer then some (n, s) else none

def backdate (now : Instant) (game created updated : Int) : Transaction GameRow := fun s => do
  let createdAt ← now.before created
  let updatedAt ← now.before updated
  let createdAt ← createdAt.stored
  let updatedAt ← updatedAt.stored
  let games := s.games.update (fun r => r.id == game) fun r => { r with createdAt, updatedAt }
  let s := { s with games }
  return (← (Fault.storage .notUpdated).require (s.gameRow? game), s)

def dateMessage (message : Int) (time : Instant) : Transaction MessageRow := fun s => do
  let createdAt ← (← time.onCalendar).stored
  let hit := fun (r : MessageRow) => r.id == message
  let s := { s with messages := s.messages.update hit fun r => { r with createdAt } }
  return (← (Fault.storage .notUpdated).require (s.messages.rows.find? hit), s)

end Store

namespace Database

def amend (db : Database) (a : Amendment) : Option (Nat × Database) := do
  let (n, s) ← (← db.store?).amend a
  return (n, ⟨some s⟩)

end Database

end ImitationGame
