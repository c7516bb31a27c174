import ImitationGame.Proofs.Play.Local
import ImitationGame.Proofs.World.Undisturbed

/-! Runs in which no job is run twice at a time: a turn of an AI is committed only while all that it
was prepared from is as it was. -/

namespace ImitationGame

def AiTurn.job (t : AiTurn) : Job := ⟨t.kind.job, t.game⟩

def Move.Ends (t : AiTurn) : Move → Prop
  | .finish turn _ | .abandon turn => turn = t
  | _ => False

namespace Round

def moves (r : Round) (job : Job) : List (Instant × Move) :=
  r.before ++ (r.asked, .begin r.context job) :: r.meanwhile

def world (r : Round) (job : Job) : World := World.run (r.moves job)

end Round

variable {w : World} {i : Int} {kind : MessageKind} {t : AiTurn}
variable {r : Round} {now : Instant} {moves earlier : List (Instant × Move)}

namespace World

def Exclusive (moves : List (Instant × Move)) : Prop :=
  ∀ earlier, earlier <+: moves → ((run earlier).turns.map AiTurn.job).Nodup

theorem begin_of_prepare (hp : Play.prepare w.store i kind = .ok t) (c : JobContext)
    (now : Instant) : w.begin now c ⟨kind.job, i⟩ = ⟨w.store, t :: w.turns⟩ := by
  rw [begin, Job.start_job, hp]
  rfl

theorem turns_transact {α : Type} (x : Transaction α) : (w.transact x).turns = w.turns := rfl

theorem mem_turns_step {m : Move} (ht : t ∈ w.turns) (hm : ¬m.Ends t) (now : Instant) :
    t ∈ (w.step now m).turns := by
  cases m with
  | register | openNamed | openGame | join | accuse | send | hint =>
    rw [step, turns_transact]
    exact ht
  | begin context job =>
    simp only [step, begin]
    split
    · exact List.mem_cons_of_mem _ ht
    · exact ht
    · exact ht
  | finish turn reply =>
    simp only [step, finish]
    split
    · exact (List.mem_erase_of_ne (Ne.symm hm)).mpr ht
    · exact ht
  | abandon turn => exact (List.mem_erase_of_ne (Ne.symm hm)).mpr ht

theorem mem_turns_runFrom (ht : t ∈ w.turns) (hm : ∀ m ∈ moves, ¬m.2.Ends t) :
    t ∈ (w.runFrom moves).turns := by
  induction moves generalizing w with
  | nil => exact ht
  | cons m moves ih =>
    obtain ⟨hm₀, hm⟩ := List.forall_mem_cons.mp hm
    exact ih (mem_turns_step ht hm₀ m.1) hm

theorem Exclusive.of_prefix {job : Job} (h : Exclusive (r.moves job))
    (he : earlier <+: r.meanwhile) :
    Exclusive (Round.moves { r with meanwhile := earlier } job) := by
  have hp : Round.moves { r with meanwhile := earlier } job <+: r.moves job :=
    (List.prefix_append_right_inj _).mpr ((List.prefix_cons_inj _).mpr he)
  exact fun moves hm => h moves (hm.trans hp)

section

variable (hp : Play.prepare (run r.before).store i kind = .ok t)

include hp

theorem world_eq : r.world ⟨kind.job, i⟩ =
    World.runFrom ⟨(run r.before).store, t :: (run r.before).turns⟩ r.meanwhile := by
  have hb := begin_of_prepare hp r.context r.asked
  rw [Round.world, Round.moves, run, runFrom_append, runFrom_cons]
  exact congrArg (runFrom · r.meanwhile) hb

variable (hm : ∀ m ∈ r.meanwhile, ¬m.2.Ends t)

include hm

theorem mem_turns_world : t ∈ (r.world ⟨kind.job, i⟩).turns := by
  rw [world_eq hp]
  exact mem_turns_runFrom List.mem_cons_self hm

variable (hx : Exclusive (r.moves ⟨kind.job, i⟩))

include hx

theorem eq_of_mem_turns {turn : AiTurn} (ht : turn ∈ (r.world ⟨kind.job, i⟩).turns)
    (hi : turn.game = i) (hk : turn.kind = kind) : turn = t := by
  obtain ⟨⟨hti, htk⟩, -⟩ := Play.of_prepare hp
  have hn := hx (r.moves ⟨kind.job, i⟩) (List.prefix_refl _)
  have hjob : turn.job = t.job := by
    rw [AiTurn.job, AiTurn.job, hi, hk, hti, htk]
  exact List.inj_on_of_nodup_map hn ht (mem_turns_world hp hm) hjob

theorem world_undisturbed : Store.Same i (run r.before).store (r.world ⟨kind.job, i⟩).store ∨
    (r.world ⟨kind.job, i⟩).store.Gone i := by
  obtain ⟨-, g, hl, hs, -⟩ := Play.of_prepare hp
  have hf := run_faithful r.before
  obtain ⟨hg, -⟩ := hf.of_load hl
  rw [world_eq hp]
  refine runFrom_undisturbed r.meanwhile
    (w := ⟨(run r.before).store, t :: (run r.before).turns⟩) hf hg hs
    fun earlier now m he turn ht hi hk reply hmr => ?_
  have hpre : earlier <+: r.meanwhile := (List.prefix_append _ _).trans he
  have hmem : (now, m) ∈ r.meanwhile := he.subset (by simp)
  -- The round up to this move is one in which the job runs alone, too.
  let r' : Round := { r with meanwhile := earlier }
  have hm' : ∀ m ∈ r'.meanwhile, ¬m.2.Ends t := fun m hmem => hm m (hpre.subset hmem)
  have ht' : turn ∈ (r'.world ⟨kind.job, i⟩).turns := by
    rw [world_eq (r := r') hp]
    exact ht
  have heq : turn = t := eq_of_mem_turns (r := r') hp hm' (hx.of_prefix hpre) ht' hi hk
  apply hm _ hmem
  rw [hmr]
  exact heq

end

theorem run_undisturbed (r : Round) (i : Int) (kind : MessageKind) (t : AiTurn)
    (hp : Play.prepare (run r.before).store i kind = .ok t)
    (hx : Exclusive (r.moves ⟨kind.job, i⟩)) (hm : ∀ m ∈ r.meanwhile, ¬m.2.Ends t) :
    t ∈ (r.world ⟨kind.job, i⟩).turns ∧
    (∀ stage s, Play.commit r.told t r.reply (r.world ⟨kind.job, i⟩).store = .ok (stage, s) →
      Store.Same i (run r.before).store (r.world ⟨kind.job, i⟩).store ∧
      Play.prepare (r.world ⟨kind.job, i⟩).store i kind = .ok t ∧
      (kind = .question → ∃ g, (r.world ⟨kind.job, i⟩).store.load i = .ok g ∧
        g.nextTarget t.actor ((r.world ⟨kind.job, i⟩).store.questionsBy i t.actor) =
          .ok t.target)) ∧
    ∀ earlier, earlier <+: r.meanwhile →
      (Round.world { r with meanwhile := earlier } ⟨kind.job, i⟩).store.gameRow? i = none →
      Play.commit r.told t r.reply (r.world ⟨kind.job, i⟩).store =
        .error (.refused (.gameMissing i)) ∧
      ((r.world ⟨kind.job, i⟩).step r.told (.finish t r.reply)).store =
        (r.world ⟨kind.job, i⟩).store := by
  obtain ⟨⟨hti, -⟩, g, hl, -, -, hq⟩ := Play.of_prepare hp
  -- Each part falls to the two ends of a lonely run: nothing has changed, or the game is gone.
  refine ⟨mem_turns_world hp hm, fun stage s hc => ?_, fun earlier he hn => ?_⟩
  · obtain ⟨g', hl', -⟩ := bind_eq_ok.mp hc
    rcases world_undisturbed hp hm hx with hsame | hgone
    · refine ⟨hsame, hsame.prepare.trans hp, fun hk => ⟨g, hsame.load.trans hl, ?_⟩⟩
      rw [hsame.questionsBy]
      exact hq hk
    · rw [hti, Store.load_eq_error hgone.row] at hl'
      cases hl'
  · let r' : Round := { r with meanwhile := earlier }
    have hm' : ∀ m ∈ r'.meanwhile, ¬m.2.Ends t := fun m hmem => hm m (he.subset hmem)
    have hgone' : (r'.world ⟨kind.job, i⟩).store.Gone i := by
      rcases world_undisturbed (r := r') hp hm' (hx.of_prefix he) with hsame | hgone
      · rw [Store.load_eq_error (hsame.row.symm.trans hn)] at hl
        cases hl
      · exact hgone
    have hgone : (r.world ⟨kind.job, i⟩).store.Gone i := by
      obtain ⟨later, hlater⟩ := he
      have hw : r.world ⟨kind.job, i⟩ = (r'.world ⟨kind.job, i⟩).runFrom later := by
        rw [world_eq hp, world_eq (r := r') hp, ← runFrom_append, hlater]
      rw [hw]
      exact runFrom_gone (run_faithful _) hgone' later
    have hrow : (r.world ⟨kind.job, i⟩).store.gameRow? t.game = none := hti ▸ hgone.row
    refine ⟨?_, step_absent rfl hrow r.told⟩
    rw [Play.commit, Store.load_eq_error hrow, hti]
    rfl

def sampleRound : Round where
  before := [(0, .register "Ann"), (1, .register "Ben"), (2, .openNamed ["Ada", "Bob", "Cy"]),
    (3, .join 1 1), (4, .join 1 2), (5, .begin ⟨.fixed 0, ⟨86400, 3600⟩⟩ ⟨.startAfterJoin, 1⟩)]
  context := ⟨.fixed 0, ⟨86400, 3600⟩⟩
  asked := 6
  meanwhile := [(7, .register "Cal"), (8, .join 1 3), (9, .send 1 1 "Who?" none),
    (10, .begin ⟨.fixed 0, ⟨86400, 3600⟩⟩ ⟨.answerAsAi, 1⟩), (11, .accuse 1 2 3)]
  told := 12
  reply := .ok "Who are you?"

theorem sampleRound_undisturbed : ∃ t,
    Play.prepare (run sampleRound.before).store 1 .question = .ok t ∧
    (∃ stage s, Play.commit 12 t sampleRound.reply (sampleRound.world ⟨.askAsAi, 1⟩).store =
      .ok (stage, s)) ∧
    ∃ g, (sampleRound.world ⟨.askAsAi, 1⟩).store.load 1 = .ok g ∧
      g.nextTarget t.actor ((sampleRound.world ⟨.askAsAi, 1⟩).store.questionsBy 1 t.actor) =
        .ok t.target := by
  obtain ⟨⟨stage, s⟩, h⟩ : ∃ x, (Play.prepare (run sampleRound.before).store 1 .question >>=
      fun t => Play.commit 12 t sampleRound.reply (sampleRound.world ⟨.askAsAi, 1⟩).store) =
        .ok x := exists_of_isOk (by decide +kernel)
  obtain ⟨t, ht, hc⟩ := bind_eq_ok.mp h
  have hx : ∀ earlier ∈ (sampleRound.moves ⟨.askAsAi, 1⟩).inits,
      ((run earlier).turns.map AiTurn.job).Nodup := by decide +kernel
  have hm : ∀ m ∈ sampleRound.meanwhile, ¬m.2.Ends t := by
    simp [sampleRound, Move.Ends]
  obtain ⟨-, hr, -⟩ := run_undisturbed sampleRound 1 .question t ht
    (fun earlier he => hx earlier ((List.mem_inits _ _).mpr he)) hm
  exact ⟨t, ht, ⟨stage, s, hc⟩, (hr stage s hc).2.2 rfl⟩

end World

end ImitationGame
