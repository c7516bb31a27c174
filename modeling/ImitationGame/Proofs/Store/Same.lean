import ImitationGame.Proofs.Store.Log

/-! One game in two stores: with the same rows, or with rows that differ in the times of changes and
the ids of messages alone. -/

namespace ImitationGame

variable {s s' s'' : Store} {i j bot player : Int} {g : Game} {c : Change} {u : Utterance}
variable {now now' : Instant}

def GameRow.undated (r : GameRow) : GameRow :=
  { r with handledAt := r.handledAt.map fun _ => .other "", updatedAt := .other "" }

def MessageRow.unstamped (m : MessageRow) : MessageRow :=
  { m with id := 0, createdAt := .other "" }

namespace Store

structure Same (i : Int) (s s' : Store) : Prop where
  row : s'.gameRow? i = s.gameRow? i
  bots : s'.botRows i = s.botRows i
  log : s'.conversation i = s.conversation i

structure Alike (i : Int) (s s' : Store) : Prop where
  row : (s'.gameRow? i).map GameRow.undated = (s.gameRow? i).map GameRow.undated
  bots : s'.botRows i = s.botRows i
  log : (s'.conversation i).map MessageRow.unstamped = (s.conversation i).map MessageRow.unstamped

theorem Same.refl (i : Int) (s : Store) : Same i s s := ⟨rfl, rfl, rfl⟩

theorem Same.trans (h : Same i s s') (h' : Same i s' s'') : Same i s s'' :=
  ⟨h'.row.trans h.row, h'.bots.trans h.bots, h'.log.trans h.log⟩

theorem Same.holds (h : Same i s s') (hg : s.Holds i g) : s'.Holds i g := by
  refine ⟨?_, ?_, hg.check⟩
  · rw [h.row]
    exact hg.row
  · rw [h.bots]
    exact hg.bots

theorem Apart.same (h : Apart j s s') (hi : i ≠ j) : Same i s s' :=
  ⟨h.row i hi, h.bots i hi, h.log i hi⟩

theorem Alike.symm (h : Alike i s s') : Alike i s' s := ⟨h.row.symm, h.bots.symm, h.log.symm⟩

theorem Alike.trans (h : Alike i s s') (h' : Alike i s' s'') : Alike i s s'' :=
  ⟨h'.row.trans h.row, h'.bots.trans h.bots, h'.log.trans h.log⟩

section

variable (h : Same i s s')

include h

theorem Same.alike : Alike i s s' where
  row := by rw [h.row]
  bots := h.bots
  log := by rw [h.log]

theorem Same.load : s'.load i = s.load i := by
  simp only [Store.load, h.row, h.bots]

theorem Same.loadDated : s'.loadDated i = s.loadDated i := by
  simp only [Store.loadDated, h.row, h.bots]

theorem Same.messagesOf : s'.messagesOf i = s.messagesOf i := by
  have hl : s'.messageRows i = s.messageRows i := congrArg (Sorted.sort _) h.log
  rw [Store.messagesOf, Store.messagesOf, hl]

theorem Same.questionsBy : s'.questionsBy i bot = s.questionsBy i bot := by
  have hq : ∀ t : Store, t.questionsBy i bot =
      (t.conversation i).countP fun r => r.source == bot && r.kind == some .question := by
    intro t
    rw [Store.questionsBy, Table.count, conversation, List.countP_filter]
    apply List.countP_congr
    intro r _
    simp only [Bool.and_eq_true]
    tauto
  rw [hq, hq, h.log]

theorem Same.updateBots {hit : BotRow → Bool} {change : BotRow → BotRow}
    (hg : ∀ r, (change r).game = r.game) (hs : ∀ r, (change r).seat = r.seat) :
    Same i { s with bots := s.bots.update hit change }
      { s' with bots := s'.bots.update hit change } where
  row := h.row
  bots := by rw [botRows_update hg hs, botRows_update hg hs, h.bots]
  log := h.log

theorem Same.claimed : Same i (s.claimed bot player) (s'.claimed bot player) :=
  h.updateBots (fun _ => rfl) fun _ => rfl

theorem Same.spent : Same i (s.spent bot) (s'.spent bot) :=
  h.updateBots (fun _ => rfl) fun _ => rfl

theorem Same.written : Alike i (s.written now i c) (s'.written now' i c) where
  row := by
    rw [gameRow?_written, gameRow?_written, h.row, Option.map_map, Option.map_map]
    refine Option.map_congr fun r _ => ?_
    simp only [Function.comp_apply]
    split <;> rfl
  bots := h.bots
  log := congrArg _ h.log

end

theorem Alike.uttered (h : Alike i s s') :
    Alike i (s.uttered now i u) (s'.uttered now' i u) where
  row := h.row
  bots := h.bots
  log := by
    rw [conversation_uttered, conversation_uttered, List.map_append, List.map_append, h.log]
    rfl

theorem alike_cleared : Alike i (s.cleared i) (s'.cleared i) where
  row := by rw [gameRow?_cleared, gameRow?_cleared]
  bots := by rw [botRows_cleared, botRows_cleared]
  log := by rw [conversation_cleared, conversation_cleared]

structure SparesOthers (i : Int) (s s' : Store) : Prop where
  players : s'.players = s.players
  games : s'.games.rows.filter (·.id ≠ i) = s.games.rows.filter (·.id ≠ i)
  bots : s'.bots.rows.filter (·.game ≠ i) = s.bots.rows.filter (·.game ≠ i)
  messages : s'.messages.rows.filter (·.game ≠ i) = s.messages.rows.filter (·.game ≠ i)

/-- The same rows, but for the times of changes, and for the ids and times of messages. The
messages of each game are in the same order. -/
structure Equivalent (s s' : Store) : Prop where
  players : s'.players = s.players
  games : s'.games.rows.map GameRow.undated = s.games.rows.map GameRow.undated
  bots : s'.bots.rows = s.bots.rows
  messages : ∀ i, (s'.conversation i).map MessageRow.unstamped =
    (s.conversation i).map MessageRow.unstamped

theorem mem_conversation {m : MessageRow} :
    m ∈ s.conversation i ↔ m ∈ s.messages.rows ∧ m.game = i := by
  rw [conversation, List.mem_filter, beq_iff_eq]

theorem Tidy.mem_games_iff (ht : s.Tidy) {r : GameRow} :
    r ∈ s.games.rows ↔ s.gameRow? r.id = some r := ht.games.mem_rows_iff

theorem mem_undated (ht : s.Tidy) {r : GameRow} : r ∈ s.games.rows.map GameRow.undated ↔
    (s.gameRow? r.id).map GameRow.undated = some r := by
  rw [List.mem_map, Option.map_eq_some_iff]
  constructor
  · rintro ⟨x, hx, rfl⟩
    exact ⟨x, ht.mem_games_iff.mp hx, rfl⟩
  · rintro ⟨x, hx, rfl⟩
    exact ⟨x, Table.mem_of_row? (t := s.games) hx, rfl⟩

theorem Apart.sparesOthers (h : Apart i s s') (ht : s.Tidy) (ht' : s'.Tidy)
    (hp : s'.players = s.players) : SparesOthers i s s' where
  players := hp
  games := by
    refine Table.eq_of_ordered (ht'.games.ordered.filter _) (ht.games.ordered.filter _) fun r => ?_
    simp only [List.mem_filter, decide_eq_true_eq, ht'.mem_games_iff, ht.mem_games_iff]
    exact and_congr_left fun hr => by rw [h.row r.id hr]
  bots := by
    refine Table.eq_of_ordered (ht'.bots.ordered.filter _) (ht.bots.ordered.filter _) fun r => ?_
    simp only [List.mem_filter, decide_eq_true_eq]
    refine and_congr_left fun hr => ?_
    have hb := mem_botRows (s := s') (r := r) (i := r.game)
    rw [h.bots r.game hr, mem_botRows] at hb
    simpa using hb.symm
  messages := by
    refine Table.eq_of_ordered (ht'.messages.ordered.filter _) (ht.messages.ordered.filter _)
      fun r => ?_
    simp only [List.mem_filter, decide_eq_true_eq]
    refine and_congr_left fun hr => ?_
    have hm := mem_conversation (s := s') (m := r) (i := r.game)
    rw [h.log r.game hr, mem_conversation] at hm
    simpa using hm.symm

theorem equivalent_of_alike (h : ∀ i, Alike i s s') (ht : s.Tidy) (ht' : s'.Tidy)
    (hp : s'.players = s.players) : Equivalent s s' where
  players := hp
  games := by
    refine Table.eq_of_ordered (List.pairwise_map.mpr ht'.games.ordered)
      (List.pairwise_map.mpr ht.games.ordered) fun r => ?_
    rw [mem_undated ht', mem_undated ht, (h r.id).row]
  bots := by
    refine Table.eq_of_ordered ht'.bots.ordered ht.bots.ordered fun r => ?_
    have hb := mem_botRows (s := s') (r := r) (i := r.game)
    rw [(h r.game).bots, mem_botRows] at hb
    simpa using hb.symm
  messages i := (h i).log

end Store

end ImitationGame
