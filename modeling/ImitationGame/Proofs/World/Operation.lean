import ImitationGame.Proofs.Play.Local
import ImitationGame.Proofs.World.Lifetime

/-! Operations on one game, from the request to the answer: one transaction, or the two of a turn of
an AI, which write as one. -/

namespace ImitationGame

inductive Operation where
  | join (game player : Int)
  | accuse (game player accused : Int)
  | send (game player : Int) (raw : String) (target : Option Int)
  | hint (game player : Int) (generator : String → Reply)
  | work (context : JobContext) (job : Job) (generator : String → Reply)

inductive Answer where
  | joined (a : Joined)
  | tagged (o : TagOutcome)
  | said (m : Message)
  | hinted (h : Hint)
  | worked (o : JobOutcome)

structure Times where
  first : Instant
  second : Instant

def JobProgress.reply (generator : String → Reply) : JobProgress → Reply
  | done _ => .error .disabled
  | thinking turn => generator turn.prompt

def Answer.unstamped : Answer → Answer
  | said m => said m.unstamped
  | a => a

variable {s s' : Store} {i : Int} {t t' : Times}

namespace Operation

def game : Operation → Int
  | join game _ | accuse game _ _ | send game _ _ _ | hint game _ _ => game
  | work _ job _ => job.game

def perform (t : Times) (db : Database) : Operation → Except Fault Answer × Database
  | join game player => (db.run (Play.join t.first game player)).map (Except.map .joined) id
  | accuse game player accused =>
    (db.run (Play.accuse t.first game player accused)).map (Except.map .tagged) id
  | send game player raw target =>
    (db.run (Play.send t.first game player raw target)).map (Except.map .said) id
  | hint game player generator =>
    (db.run (Play.requestHint game player)).map
      (Except.map fun r => .hinted (r.fill (generator r.prompt))) id
  | work context job generator =>
    match db.run (job.start context t.first) with
    | (.ok p, db) =>
      (db.run (Job.resume t.second (p.reply generator) p)).map (Except.map .worked) id
    | (.error f, db) => (.error f, db)

def act (t : Times) (o : Operation) : Transaction Answer := fun s =>
  match o with
  | join game player => do
    let (a, s) ← Play.join t.first game player s
    return (.joined a, s)
  | accuse game player accused => do
    let (o, s) ← Play.accuse t.first game player accused s
    return (.tagged o, s)
  | send game player raw target => do
    let (m, s) ← Play.send t.first game player raw target s
    return (.said m, s)
  | hint game player generator => do
    let (r, s) ← Play.requestHint game player s
    return (.hinted (r.fill (generator r.prompt)), s)
  | work context job generator => do
    let (p, s) ← job.start context t.first s
    let (o, s) ← Job.resume t.second (p.reply generator) p s
    return (.worked o, s)

def Deletes (o : Operation) : Prop :=
  ∃ context game generator, o = work context ⟨.deleteExpired, game⟩ generator

end Operation

theorem Database.run_map {α β : Type} (s : Store) (x : Transaction α) (f : α → β) :
    (run ⟨some s⟩ x).map (Except.map f) id =
      run ⟨some s⟩ fun s => x s >>= fun a => pure (f a.1, a.2) := by
  rw [run_created, run_created]
  rcases x s with e | ⟨a, s'⟩ <;> rfl

theorem Job.store_of_start {c : JobContext} {now : Instant} {j : Job} {turn : AiTurn}
    (h : j.start c now s = .ok (.thinking turn, s')) : s' = s := by
  obtain ⟨kind, i⟩ := j
  cases kind with
  | startAfterJoin | deleteExpired =>
    obtain ⟨_, -, he⟩ := bind_eq_ok.mp h
    cases he
  | askAsAi | answerAsAi =>
    obtain ⟨_, -, he⟩ := bind_eq_ok.mp h
    cases he
    rfl

theorem Operation.perform_eq (o : Operation) (t : Times) (s : Store) :
    o.perform t ⟨some s⟩ = Database.run ⟨some s⟩ (o.act t) := by
  cases o with
  | join | accuse | send | hint => exact Database.run_map _ _ _
  | work context job generator =>
    rw [perform, Database.run_created]
    cases hs : job.start context t.first s with
    | error f => simp only [Database.run_created, act, hs, error_bind]
    | ok x =>
      obtain ⟨p, s'⟩ := x
      dsimp only
      rw [Database.run_map, Database.run_created, Database.run_created]
      simp only [act, hs, ok_bind]
      cases p with
      | done o => rfl
      | thinking turn =>
        obtain rfl := Job.store_of_start hs
        rfl

theorem World.Act.players {w : World} {g : Game} {m : Move} {now : Instant} (h : w.Act now g m s) :
    s.players = w.store.players := by
  cases h with
  | join => exact Store.players_joined
  | rest | start | tag | speak | finish | hint | delete => rfl

theorem World.step_players {w : World} {m : Move} (h : w.store.Faithful) (hm : m.game? = some i)
    (now : Instant) : (w.step now m).store.players = w.store.players := by
  cases hr : w.store.gameRow? i with
  | none => rw [step_absent hm hr]
  | some r =>
    obtain ⟨g, hg, -⟩ := h.reached i (by rw [hr, Option.isSome_some])
    exact (step_act h hg hm now).players

namespace Operation

variable {o : Operation} {a : Answer}

theorem act_step (ha : o.act t s = .ok (a, s')) : ∃ (w : World) (now : Instant) (m : Move),
    w.store = s ∧ m.game? = some o.game ∧ (w.step now m).store = s' := by
  cases o with
  | join game player =>
    obtain ⟨⟨_, _⟩, hj, he⟩ := bind_eq_ok.mp ha
    cases he
    exact ⟨⟨s, []⟩, t.first, .join game player, rfl, rfl, World.store_transact hj⟩
  | accuse game player accused =>
    obtain ⟨⟨_, _⟩, hj, he⟩ := bind_eq_ok.mp ha
    cases he
    exact ⟨⟨s, []⟩, t.first, .accuse game player accused, rfl, rfl, World.store_transact hj⟩
  | send game player raw target =>
    obtain ⟨⟨_, _⟩, hj, he⟩ := bind_eq_ok.mp ha
    cases he
    exact ⟨⟨s, []⟩, t.first, .send game player raw target, rfl, rfl, World.store_transact hj⟩
  | hint game player generator =>
    obtain ⟨⟨r, _⟩, hj, he⟩ := bind_eq_ok.mp ha
    cases he
    exact ⟨⟨s, []⟩, t.first, .hint game player (generator r.prompt), rfl, rfl,
      World.store_transact (bind_eq_ok.mpr ⟨_, hj, rfl⟩)⟩
  | work context job generator =>
    obtain ⟨⟨p, _⟩, hs, ha⟩ := bind_eq_ok.mp ha
    obtain ⟨⟨_, _⟩, hr, he⟩ := bind_eq_ok.mp ha
    cases he
    cases p with
    | done o =>
      cases hr
      exact ⟨⟨s, []⟩, t.first, .begin context job, rfl, rfl, by
        simp only [World.step, World.begin, hs]⟩
    | thinking turn =>
      obtain rfl := Job.store_of_start hs
      obtain ⟨⟨_, _⟩, hc, he⟩ := bind_eq_ok.mp hr
      cases he
      refine ⟨⟨_, [turn]⟩, t.second, .finish turn ((JobProgress.thinking turn).reply generator),
        rfl, congrArg some (Job.game_of_start hs turn rfl), ?_⟩
      simp only [World.step, World.finish, List.mem_singleton, if_true, Store.after, hc]

theorem act_carries (h : s.Faithful) (ha : o.act t s = .ok (a, s')) :
    Store.Carries o.game s s' ∧ s'.players = s.players := by
  obtain ⟨w, now, m, rfl, hm, rfl⟩ := act_step ha
  exact ⟨World.step_carries_of_game h hm now, World.step_players h hm now⟩

theorem Deletes.eq_cleared (hd : o.Deletes) (ha : o.act t s = .ok (a, s')) :
    s' = s.cleared o.game := by
  obtain ⟨c, i, generator, rfl⟩ := hd
  obtain ⟨⟨p, _⟩, hs, ha⟩ := bind_eq_ok.mp ha
  obtain ⟨⟨_, _⟩, hd, he⟩ := bind_eq_ok.mp hs
  cases he
  obtain ⟨⟨_, _⟩, hr, he⟩ := bind_eq_ok.mp ha
  cases he
  cases hr
  exact Play.deleteExpired_eq_ok hd

end Operation

theorem Job.start_concurs {c : JobContext} {now now' : Instant} {j : Job}
    (h : Store.Twins j.game s s') (hc : j.kind = .deleteExpired → now' = now) :
    Agree (Store.Concurs j.game Eq) (j.start c now s) (j.start c now' s') := by
  obtain ⟨kind, i⟩ := j
  cases kind with
  | startAfterJoin =>
    refine (Play.startTurns_concurs h).bind ?_
    rintro ⟨stage, _⟩ ⟨_, _⟩ - - ⟨rfl, ha⟩
    exact .ok ⟨rfl, ha⟩
  | askAsAi | answerAsAi =>
    simp only [start, h.same.prepare]
    exact .after fun turn _ => .ok ⟨rfl, h.same.alike⟩
  | deleteExpired =>
    obtain rfl := hc rfl
    exact (Play.deleteExpired_concurs h).bind fun _ _ _ _ hx => .ok ⟨rfl, hx.2⟩

namespace Operation

variable {o : Operation}

theorem act_concurs (h : Store.Twins o.game s s') (hm : s.HasRoom) (hm' : s'.HasRoom)
    (hc : o.Deletes → t'.first = t.first) :
    Agree (Store.Concurs o.game fun a a' => a'.unstamped = a.unstamped) (o.act t s)
      (o.act t' s') := by
  cases o with
  | join game player =>
    refine (Play.join_concurs h).bind ?_
    rintro ⟨a, _⟩ ⟨_, _⟩ - - ⟨rfl, ha⟩
    exact .ok ⟨rfl, ha⟩
  | accuse game player accused =>
    refine (Play.accuse_concurs h).bind ?_
    rintro ⟨o, _⟩ ⟨_, _⟩ - - ⟨rfl, ha⟩
    exact .ok ⟨rfl, ha⟩
  | send game player raw target =>
    exact (Play.send_concurs h hm hm').bind fun _ _ _ _ hx =>
      .ok ⟨congrArg Answer.said hx.1, hx.2⟩
  | hint game player generator =>
    refine (Play.requestHint_concurs h).bind ?_
    rintro ⟨r, _⟩ ⟨_, _⟩ - - ⟨rfl, ha⟩
    exact .ok ⟨rfl, ha⟩
  | work context job generator =>
    have hclock : job.kind = .deleteExpired → t'.first = t.first := by
      intro hk
      obtain ⟨kind, i⟩ := job
      obtain rfl : kind = .deleteExpired := hk
      exact hc ⟨context, i, generator, rfl⟩
    refine (Job.start_concurs h hclock).bind ?_
    rintro ⟨p, s₁⟩ ⟨_, s₁'⟩ hs hs' ⟨rfl, ha⟩
    cases p with
    | done o => exact .ok ⟨rfl, ha⟩
    | thinking turn =>
      -- Nothing has been written when the reply is recorded.
      obtain rfl := Job.store_of_start hs
      obtain rfl := Job.store_of_start hs'
      have hi := Job.game_of_start hs turn rfl
      refine Agree.bind (R := Store.Concurs job.game Eq)
        ((Play.commit_concurs h hm hm' hi).bind ?_) ?_
      · rintro ⟨stage, _⟩ ⟨_, _⟩ - - ⟨rfl, ha⟩
        exact .ok ⟨rfl, ha⟩
      · rintro ⟨o, _⟩ ⟨_, _⟩ - - ⟨rfl, ha⟩
        exact .ok ⟨rfl, ha⟩

end Operation

end ImitationGame
