import ImitationGame.Proofs.Store.Writing

namespace ImitationGame

variable {s s' : Store} {i j : Int} {g : Game} {u : Utterance} {m : Message} {now : Instant}

def MessageRow.of (id : Int) (now : Instant) (game : Int) (u : Utterance) : MessageRow where
  id
  game
  source := u.source
  target := u.target
  kind := some u.kind
  text := u.text
  createdAt := .instant now

theorem MessageRow.said_of {id : Int} : (MessageRow.of id now i u).said = some u := rfl

theorem MessageRow.legible_of {id : Int} : (MessageRow.of id now i u).Legible :=
  ⟨by simp [MessageRow.of], _, Timestamp.read_instant now⟩

namespace Store

def HasRoom (s : Store) : Prop := s.messages.nextId < Int.pow 2 63

def uttered (s : Store) (now : Instant) (game : Int) (u : Utterance) : Store :=
  { s with messages := ⟨s.messages.rows ++ [.of s.messages.nextId now game u], s.messages.nextId⟩ }

theorem append_eq_ok_iff (h : s.Holds i g) (hs : u.source ∈ g.ids) (ht : u.target ∈ g.ids) :
    s.append now i u = .ok (m, s') ↔ s.HasRoom ∧
      (MessageRow.of s.messages.nextId now i u).read = .ok m ∧ s' = s.uttered now i u := by
  have hr : (s.gameRow? i).isNone = false := by
    obtain ⟨r, hr, -⟩ := h.row
    rw [hr, Option.isNone_some]
  have hb : ∀ x ∈ g.ids, (s.botRow? x).isNone = false := by
    intro x hx
    obtain ⟨r, hr⟩ := Option.isSome_iff_exists.mp (h.hasBot hx).botRow?
    rw [hr, Option.isNone_some]
  simp only [Store.append, bind_eq_ok, Fault.require_eq_ok, Prod.exists, Table.insert?_eq_some_iff,
    hr, hb _ hs, hb _ ht, Bool.or_self, Bool.false_eq_true, if_false, pure_eq_ok, Except.ok.injEq,
    Prod.mk.injEq]
  constructor
  · rintro ⟨row, messages, ⟨hn, rfl, rfl⟩, x, hx, rfl, rfl⟩
    exact ⟨hn, hx, rfl⟩
  · rintro ⟨hn, hx, rfl⟩
    exact ⟨_, _, ⟨hn, rfl, rfl⟩, m, hx, rfl, rfl⟩

theorem Tidy.uttered (h : s.Tidy) (hr : s.HasRoom) (hi : s.Holds i g) (hs : u.source ∈ g.ids)
    (ht : u.target ∈ g.ids) : (s.uttered now i u).Tidy := by
  refine { h with messages := ?_, spoken := fun m hm => ?_ }
  · exact h.messages.insert hr rfl
  · rcases List.mem_append.mp hm with hm | hm
    · exact h.spoken m hm
    · obtain rfl := List.mem_singleton.mp hm
      exact ⟨MessageRow.legible_of, hi.hasBot hs, hi.hasBot ht⟩

theorem conversation_uttered : (s.uttered now i u).conversation i =
    s.conversation i ++ [.of s.messages.nextId now i u] := by
  simp [conversation, Store.uttered, MessageRow.of]

theorem Apart.uttered : Apart i s (s.uttered now i u) where
  row _ _ := rfl
  bots _ _ := rfl
  log j hj := by simp [conversation, Store.uttered, MessageRow.of, hj.symm]

theorem Tidy.exists_messagesOf (h : s.Tidy) (i : Int) : ∃ ms, s.messagesOf i = .ok ms := by
  have hl : ∀ rs : List MessageRow, (∀ r ∈ rs, r.Legible) →
      ∃ ms, rs.mapM MessageRow.read = Except.ok ms := by
    intro rs hr
    induction rs with
    | nil => exact ⟨[], rfl⟩
    | cons r rs ih =>
      obtain ⟨m, hm⟩ := (hr r List.mem_cons_self).read
      obtain ⟨ms, hms⟩ := ih fun x hx => hr x (List.mem_cons_of_mem _ hx)
      exact ⟨m :: ms, by simp [hm, hms]⟩
  refine hl _ fun r hr => ?_
  rw [messageRows, (Sorted.sort_perm _ _).mem_iff] at hr
  exact (h.spoken r (List.mem_of_mem_filter hr)).1

def ownBots (s : Store) (game : Int) : List Int :=
  (s.bots.rows.filter fun b => b.game == game).map BotRow.id

def cleared (s : Store) (game : Int) : Store :=
  { s with
    games := s.games.delete fun g => g.id == game
    bots := s.bots.delete fun b => b.game == game
    messages := s.messages.delete fun m =>
      m.game == game || (s.ownBots game).contains m.source || (s.ownBots game).contains m.target }

theorem delete_eq_ok_iff :
    s.delete i = .ok s' ↔ (s.gameRow? i).isSome = true ∧ s' = s.cleared i := by
  simp only [Store.delete, throw_eq_error, error_bind, pure_eq_ok, ite_error_eq_ok,
    Except.ok.injEq, Option.isNone_iff_eq_none, ← Option.isSome_iff_ne_none, @eq_comm _ _ s',
    ← ne_eq]
  rfl

theorem mem_ownBots {x : Int} : x ∈ s.ownBots i ↔ s.HasBot i x := by
  simp only [ownBots, List.mem_map, List.mem_filter, beq_iff_eq, HasBot]
  constructor
  · rintro ⟨r, ⟨hr, hi⟩, hx⟩
    exact ⟨r, hr, hx, hi⟩
  · rintro ⟨r, hr, hx, hi⟩
    exact ⟨r, ⟨hr, hi⟩, hx⟩

theorem HasBot.game_eq {x : Int} (h : s.HasBot i x) (h' : s.HasBot j x) (ht : s.Tidy) : i = j := by
  obtain ⟨r, hr, hx, rfl⟩ := h
  obtain ⟨r', hr', hx', rfl⟩ := h'
  exact ht.game_eq hr hr' (hx.trans hx'.symm)

theorem mem_cleared_messages (h : s.Tidy) {r : MessageRow} :
    r ∈ (s.cleared i).messages.rows ↔ r ∈ s.messages.rows ∧ r.game ≠ i := by
  simp only [cleared, Table.delete, List.mem_filter, Bool.not_eq_true', ← Bool.not_eq_true,
    Bool.or_eq_true, beq_iff_eq, List.contains_iff_mem, mem_ownBots, not_or]
  constructor
  · rintro ⟨hr, ⟨hi, -⟩, -⟩
    exact ⟨hr, hi⟩
  · rintro ⟨hr, hi⟩
    -- A message of another game is between bots of that game, none of which is deleted.
    obtain ⟨-, hs, ht⟩ := h.spoken r hr
    exact ⟨hr, ⟨hi, fun hb => hi (hs.game_eq hb h)⟩, fun hb => hi (ht.game_eq hb h)⟩

theorem Tidy.apart_cleared (h : s.Tidy) : Apart i s (s.cleared i) where
  row j hj := Table.row?_delete (t := s.games) fun r _ hr => by
    simpa [show r.id = j from hr] using hj
  bots j hj := by
    simp only [botRows, cleared, Table.delete, List.filter_filter]
    congr 1
    apply List.filter_congr
    intro r _
    by_cases hr : r.game = j <;> simp [hr, hj]
  log j hj := by
    simp only [conversation, cleared, Table.delete, List.filter_filter]
    apply List.filter_congr
    intro r hr
    by_cases hg : r.game = j
    · have hm : r ∈ (s.cleared i).messages.rows := (mem_cleared_messages h).mpr ⟨hr, hg ▸ hj⟩
      have := (List.mem_filter.mp hm).2
      simp only [hg, beq_self_eq_true, Bool.true_and]
      simpa only [hg] using this
    · simp [hg]

theorem gameRow?_cleared : (s.cleared i).gameRow? i = none := by
  simp [gameRow?, cleared, Table.delete]

theorem botRows_cleared : (s.cleared i).botRows i = [] := by
  simp [botRows, cleared, Table.delete, List.filter_filter, Sorted.sort]

theorem conversation_cleared : (s.cleared i).conversation i = [] := by
  rw [conversation, List.filter_eq_nil_iff]
  intro m hm hi
  obtain ⟨-, hm⟩ := List.mem_filter.mp hm
  simp [hi] at hm

theorem Tidy.cleared (h : s.Tidy) : (s.cleared i).Tidy where
  players := h.players
  games := h.games.delete
  bots := h.bots.delete
  messages := h.messages.delete
  enrolled := h.enrolled
  seated b hb := by
    obtain ⟨hb, hi⟩ := List.mem_filter.mp hb
    obtain ⟨r, hr, he⟩ := h.seated b hb
    exact ⟨r, List.mem_filter.mpr ⟨hr, by simpa [he] using hi⟩, he⟩
  spoken m hm := by
    obtain ⟨hm, hi⟩ := (mem_cleared_messages h).mp hm
    have hb : ∀ x, s.HasBot m.game x → (s.cleared i).HasBot m.game x := by
      rintro x ⟨r, hr, hx, hg⟩
      exact ⟨r, List.mem_filter.mpr ⟨hr, by simpa [hg] using hi⟩, hx, hg⟩
    obtain ⟨hl, hs, ht⟩ := h.spoken m hm
    exact ⟨hl, hb _ hs, hb _ ht⟩

end Store

end ImitationGame
