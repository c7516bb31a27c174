import ImitationGame.Proofs.Job.Schedule
import ImitationGame.Proofs.Store.Reported
import ImitationGame.Proofs.Text.Numeral
import ImitationGame.Proofs.Text.Quotes
import ImitationGame.Proofs.World.Expiry
import ImitationGame.Settings.Server

/-! Which ages the settings accept for the deletion of games, and which of them are safe: the times
reckoned from them never leave the calendar, and no game of the future is listed. -/

namespace ImitationGame

variable {σ : Type} {s : Store} {now age i : Int} {x : Expiry}

namespace Instant

def IsPresent (now : Int) : Prop := 0 ≤ now ∧ now ≤ latest

/-- The seconds of the calendar before 1970. -/
def past : Int := 377705116800

theorem isOnCalendar_iff {t : Int} : isOnCalendar t = true ↔ -seconds past ≤ t ∧ t ≤ latest := by
  rw [isOnCalendar, Bool.and_eq_true, decide_eq_true_eq, decide_eq_true_eq]
  rfl

theorem isOnCalendar_sub (hn : IsPresent now) (ha : 0 ≤ age ∧ age ≤ past) :
    isOnCalendar (now - seconds age) = true := by
  obtain ⟨hl, hu⟩ := hn
  simp only [isOnCalendar_iff, seconds, perSecond]
  omega

theorem exists_not_isOnCalendar (ha : ¬(0 ≤ age ∧ age ≤ past)) :
    ∃ now, IsPresent now ∧ isOnCalendar (now - seconds age) = false := by
  have hle : (0 : Int) ≤ latest := by decide
  by_cases h : 0 ≤ age
  · refine ⟨0, ⟨Int.le_refl 0, hle⟩, Bool.eq_false_iff.mpr ?_⟩
    simp only [ne_eq, isOnCalendar_iff, seconds, perSecond]
    omega
  · refine ⟨latest, ⟨hle, Int.le_refl _⟩, Bool.eq_false_iff.mpr ?_⟩
    simp only [ne_eq, isOnCalendar_iff, seconds, perSecond]
    omega

theorem isOnCalendar_sub_iff : (∀ now, IsPresent now → isOnCalendar (now - seconds age) = true) ↔
    0 ≤ age ∧ age ≤ past := by
  refine ⟨fun h => ?_, fun ha now hn => isOnCalendar_sub hn ha⟩
  by_contra ha
  obtain ⟨now, hn, hc⟩ := exists_not_isOnCalendar ha
  rw [h now hn] at hc
  cases hc

end Instant

namespace Store

theorem expired_eq_ok (h : Instant.isOnCalendar (now - .seconds age) = true) (s : Store) :
    s.expired now age = .ok (s.aged (now - .seconds age)) := by
  rw [expired, Instant.before_eq_ok.mpr ⟨h, rfl⟩]
  rfl

theorem expired_crash (h : Instant.isOnCalendar (now - .seconds age) = false) (s : Store) :
    s.expired now age = .error (.refused (.crash .timeOutOfRange)) := by
  rw [expired, Instant.before, Instant.onCalendar, if_neg (Bool.eq_false_iff.mp h)]
  rfl

/-- Written times tell apart any two that are a second apart, so one second of age is enough. -/
theorem le_of_mem_aged (hn : Instant.IsPresent now) (ha : 1 ≤ age)
    (hi : i ∈ s.aged (now - .seconds age)) : ∃ r ∈ s.games.rows, r.id = i ∧
      ∀ t, r.createdAt = .instant t → t ≤ .latest → t ≤ now := by
  obtain ⟨hc, r, hr, rfl, hu⟩ := mem_aged.mp hi
  refine ⟨r, hr, rfl, fun (t : Int) ht hl => Int.not_lt.mp fun hlt => ?_⟩
  obtain ⟨hn, -⟩ := hn
  have hs : Instant.isStorable t = true := by
    rw [Instant.isStorable_iff, Instant.seconds, Instant.perSecond]
    exact ⟨by omega, hl⟩
  have hne : t / Instant.perSecond ≠ (now - Instant.seconds age) / Instant.perSecond := by
    simp only [Instant.seconds, Instant.perSecond]
    omega
  rw [ht, Timestamp.upTo_instant hs hc (.inr (.inl hne)), decide_eq_true_eq] at hu
  have hle : t ≤ now - age * 1000000000 := hu
  omega

end Store

namespace Play

theorem deleteExpired_fails (hm : Instant.isOnCalendar (now - .seconds x.maxAge) = true)
    (hi : Instant.isOnCalendar (now - .seconds x.idleGrace) = true) (i : Int) (s : Store) :
    Fails Fault.Reported (deleteExpired now x i s) := by
  simp only [deleteExpired, Instant.before_eq_ok.mpr ⟨hm, rfl⟩, Instant.before_eq_ok.mpr ⟨hi, rfl⟩,
    ok_bind, throw_eq_error, error_bind]
  refine (s.loadDated_fails i).bind fun d _ => ?_
  refine .guard (Fault.reported_refused (by rintro _ ⟨⟩)) ?_
  refine .guard (Fault.reported_refused (by rintro _ ⟨⟩)) ?_
  exact (s.delete_fails i).bind fun _ _ => .ok _

end Play

theorem Job.run_fails {c : JobContext}
    (hm : Instant.isOnCalendar (now - .seconds c.expiry.maxAge) = true)
    (hi : Instant.isOnCalendar (now - .seconds c.expiry.idleGrace) = true) (reply : Reply) (i : Int)
    (s : Store) : Fails Fault.Reported (run c now reply ⟨.deleteExpired, i⟩ s) := by
  simp only [run, start, bind_assoc, pure_bind, resume]
  exact (Play.deleteExpired_fails hm hi i s).bind fun _ _ => .ok _

namespace Sweep

variable {q : JobQueue σ} {found : List Scan}

theorem crashed_offerAll (q : JobQueue σ) (kind : JobKind) (games : List Int) (r : SweepReport)
    (queue : σ) : (offerAll q kind games (r, queue)).1.crashed = r.crashed := by
  obtain ⟨_, -, r', _, h, -, ⟨-, hc⟩, -⟩ := offerAll_recording q kind games r queue []
  rw [h, hc]

theorem crashed_pass (h : ∀ scan ∈ found, Fails Fault.Reported scan.2) (r : SweepReport)
    (queue : σ) : (pass q found (r, queue)).1.crashed = r.crashed := by
  induction found generalizing r queue with
  | nil => rfl
  | cons scan found ih =>
    obtain ⟨kind, result⟩ := scan
    obtain ⟨hf, hs⟩ := List.forall_mem_cons.mp h
    unfold pass
    split
    · rfl
    · split
      · rw [ih hs, crashed_offerAll]
      · exact absurd rfl (hf _ rfl _)
      · exact ih hs _ _

theorem crashed_of_scan (hq : ∀ st, q.cancelled st = false) {c : Crash} {kind : JobKind}
    (h : (kind, .error (.refused (.crash c))) ∈ found) (r : SweepReport) (queue : σ) :
    (pass q found (r, queue)).1.crashed = true := by
  induction found generalizing r queue with
  | nil => cases h
  | cons scan found ih =>
    obtain ⟨other, result⟩ := scan
    unfold pass
    rw [if_neg (Bool.eq_false_iff.mp (hq queue))]
    split
    · exact ih ((List.mem_cons.mp h).resolve_left nofun) _ _
    · rfl
    · rename_i hf
      refine ih ((List.mem_cons.mp h).resolve_left ?_) _ _
      rintro ⟨⟩
      exact hf c rfl

theorem scans_fails {db : Database}
    (h : Fails Fault.Reported (db.ask fun s => s.expired now x.maxAge)) :
    ∀ scan ∈ scans now x db, Fails Fault.Reported scan.2 := by
  have hp (stage : Stage) : Fails Fault.Reported (db.ask fun s => .ok (s.pending stage)) :=
    Database.ask_fails (fun _ => .ok _) db
  rintro scan (_ | ⟨_, _ | ⟨_, _ | ⟨_, _ | ⟨_, ⟨⟩⟩⟩⟩⟩)
  · exact hp _
  · exact hp _
  · exact hp _
  · exact h

theorem mem_scans_expired (now : Int) (x : Expiry) (db : Database) :
    (.deleteExpired, db.ask fun s => s.expired now x.maxAge) ∈ scans now x db :=
  .tail _ (.tail _ (.tail _ (.head _)))

end Sweep

theorem Database.ask_expired_crash (h : Instant.isOnCalendar (now - .seconds age) = false)
    (db : Database) :
    (db.ask fun s => s.expired now age) = .error (.refused (.crash .timeOutOfRange)) := by
  unfold ask
  split
  · exact Store.expired_crash h _
  · simp only [Store.expired_crash h]
    rfl

namespace Environment

open Text Text.Numeral

variable {e : Environment} {name : String} {fallback : Int}

theorem trim_toString (i : Int) : Blank.trim (toString i).toList = (toString i).toList := by
  have hb (c : Char) (h : c ∈ (toString i).toList) : Blank.isBlank c = false :=
    isBlank_of_mem_signed (toList_toString i ▸ h)
  exact Trimmed.trim_eq ⟨fun c h => hb c (List.mem_of_mem_head? h),
    fun c h => hb c (List.mem_reverse.mp (List.mem_of_mem_head? h))⟩

theorem isLong_of_longOr (h : e.longOr name fallback = .ok i) (hf : IsLong fallback) :
    IsLong i := by
  unfold longOr readOr at h
  split at h
  · exact Except.ok.inj h ▸ hf
  · split at h
    · exact Except.ok.inj h ▸ isLong_of_long? ‹_›
    · cases h

theorem longOr_toString (hv : e.value? name = some (toString i)) (hi : IsLong i) (fallback : Int) :
    e.longOr name fallback = .ok i := by
  simp only [longOr, readOr, hv, trim_toString, long?_toString hi]

end Environment

namespace Expiry

open Text.Numeral

/-- For every present time the times that the ages reach back to are on the calendar, so that
neither a scan nor a deletion crashes; and no scan lists a game that was opened after the
present. -/
structure Safe (x : Expiry) : Prop where
  cutoffs : ∀ now, Instant.IsPresent now → Instant.isOnCalendar (now - .seconds x.maxAge) = true ∧
    Instant.isOnCalendar (now - .seconds x.idleGrace) = true
  scan : ∀ now, Instant.IsPresent now → ∀ db : Database,
    Fails Fault.Reported (db.ask fun s => s.expired now x.maxAge)
  sweep : ∀ now, Instant.IsPresent now → ∀ {σ : Type} (q : JobQueue σ) (db : Database) (queue : σ),
    (Sweep.tick q now x db queue).1.crashed = false
  deletion : ∀ now, Instant.IsPresent now → ∀ (seeds : Random.SeedSource) (reply : Reply)
    (i : Int) (db : Database),
    Fails Fault.Reported (db.run (Job.run ⟨seeds, x⟩ now reply ⟨.deleteExpired, i⟩)).1
  listed : ∀ now, Instant.IsPresent now → ∀ (s : Store) (ids : List Int),
    s.expired now x.maxAge = .ok ids → ∀ i ∈ ids, ∃ r ∈ s.games.rows, r.id = i ∧
      ∀ t, r.createdAt = .instant t → t ≤ .latest → t ≤ now

def Bounded (x : Expiry) : Prop :=
  (1 ≤ x.maxAge ∧ x.maxAge ≤ Instant.past) ∧ 0 ≤ x.idleGrace ∧ x.idleGrace ≤ Instant.past

instance (x : Expiry) : Decidable x.Bounded := inferInstanceAs (Decidable (_ ∧ _))

theorem Bounded.safe (h : x.Bounded) : x.Safe := by
  obtain ⟨⟨h₁, hm⟩, hi⟩ := h
  have hage {now : Int} (hn : Instant.IsPresent now) :
      Instant.isOnCalendar (now - .seconds x.maxAge) = true :=
    Instant.isOnCalendar_sub hn ⟨by omega, hm⟩
  have hidle {now : Int} (hn : Instant.IsPresent now) :
      Instant.isOnCalendar (now - .seconds x.idleGrace) = true := Instant.isOnCalendar_sub hn hi
  have hscan (now : Int) (hn : Instant.IsPresent now) (db : Database) :
      Fails Fault.Reported (db.ask fun s => s.expired now x.maxAge) := by
    refine Database.ask_fails (fun s => ?_) db
    rw [Store.expired_eq_ok (hage hn)]
    exact .ok _
  exact {
    cutoffs := fun now hn => ⟨hage hn, hidle hn⟩
    scan := hscan
    sweep := fun now hn _ q db queue => Sweep.crashed_pass (Sweep.scans_fails (hscan now hn db)) _ _
    deletion := fun now hn seeds reply i =>
      Database.run_fails fun s => Job.run_fails (hage hn) (hidle hn) reply i s
    listed := fun now hn s ids h i hids => by
      rw [Store.expired_eq_ok (hage hn), Except.ok.injEq] at h
      exact Store.le_of_mem_aged hn h₁ (h ▸ hids) }

def coming : Store := (World.run [(1, .openNamed ["Ada"])]).store

theorem bounded_of_safe (h : x.Safe) : x.Bounded := by
  obtain ⟨hm₀, hm⟩ := Instant.isOnCalendar_sub_iff.mp fun now hn => (h.cutoffs now hn).1
  refine ⟨⟨?_, hm⟩, Instant.isOnCalendar_sub_iff.mp fun now hn => (h.cutoffs now hn).2⟩
  -- Without an age, a game that comes within the second is listed.
  have hne : x.maxAge ≠ 0 := by
    intro h0
    have hl := h.listed 0 ⟨by decide, by decide⟩ coming [1]
    rw [h0] at hl
    obtain ⟨r, hr, -, hle⟩ := hl (by decide +kernel) 1 (List.mem_singleton_self 1)
    have hc : ∀ r ∈ coming.games.rows, r.createdAt = .instant 1 := by decide +kernel
    exact absurd (hle 1 (hc r hr) (by decide)) (by decide)
  omega

def Accepted (x : Expiry) : Prop :=
  ∃ e : Environment, e.isSettable = true ∧
    ∃ c, ServerSettings.ofEnvironment e = .ok c ∧ c.expiry = x

theorem accepted_iff : x.Accepted ↔ IsLong x.maxAge ∧ IsLong x.idleGrace := by
  constructor
  · rintro ⟨e, -, c, h, rfl⟩
    simp only [ServerSettings.ofEnvironment, bind_eq_ok, throw_eq_error, error_bind,
      ite_error_eq_ok, pure_eq_ok, Except.ok.injEq] at h
    obtain ⟨_, -, _, -, _, -, _, -, -, a, ha, b, hb, _, -, _, -, rfl⟩ := h
    exact ⟨Environment.isLong_of_longOr ha (by decide), Environment.isLong_of_longOr hb (by decide)⟩
  · rintro ⟨ha, hb⟩
    obtain ⟨a, b⟩ := x
    let e : Environment :=
      ⟨[("GAME_MAX_AGE_SECS", toString a), ("GAME_IDLE_GRACE_SECS", toString b)]⟩
    have hva : e.value? "GAME_MAX_AGE_SECS" = some (toString a) := rfl
    have hvb : e.value? "GAME_IDLE_GRACE_SECS" = some (toString b) := rfl
    refine ⟨e, ?_, { expiry := ⟨a, b⟩ }, ?_, rfl⟩
    · simp only [Environment.isSettable, e, List.all_cons, List.all_nil, String.toList_append,
        toList_toString]
      simp [zero_notMem_signed]
    · simp only [ServerSettings.ofEnvironment, Environment.longOr_toString hva ha,
        Environment.longOr_toString hvb hb]
      rfl

theorem accepted_safe_iff (x : Expiry) :
    (x.Accepted ↔ IsLong x.maxAge ∧ IsLong x.idleGrace) ∧ (x.Safe ↔ x.Bounded) ∧
    (¬(0 ≤ x.maxAge ∧ x.maxAge ≤ Instant.past) → ∃ now, Instant.IsPresent now ∧
      ∀ db : Database,
        (db.ask fun s => s.expired now x.maxAge) = .error (.refused (.crash .timeOutOfRange)) ∧
        ∀ {σ : Type} (q : JobQueue σ) (queue : σ), (∀ st, q.cancelled st = false) →
          (Sweep.tick q now x db queue).1.crashed = true) := by
  refine ⟨accepted_iff, ⟨bounded_of_safe, Bounded.safe⟩, fun h => ?_⟩
  obtain ⟨now, hn, hc⟩ := Instant.exists_not_isOnCalendar h
  refine ⟨now, hn, fun db => ?_⟩
  have hcrash := Database.ask_expired_crash hc db
  exact ⟨hcrash, fun q queue hq =>
    Sweep.crashed_of_scan hq (hcrash ▸ Sweep.mem_scans_expired now x db) _ _⟩

example : ServerSettings.standard.expiry.Bounded := by decide

theorem accepted_not_safe :
    (¬∀ e c, e.isSettable = true → ServerSettings.ofEnvironment e = .ok c → c.expiry.Safe) ∧
    ∃ c, ServerSettings.ofEnvironment ⟨[("GAME_MAX_AGE_SECS", "-60")]⟩ = .ok c ∧
      (World.run [(.seconds 30, .openNamed ["Ada"])]).store.expired 0 c.expiry.maxAge =
        .ok [1] := by
  refine ⟨fun h => ?_, _, rfl, by decide +kernel⟩
  have hs := h ⟨[("GAME_MAX_AGE_SECS", "9223372036854775807")]⟩ _ (by decide +kernel) rfl
  exact absurd (hs.cutoffs 0 ⟨by decide, by decide⟩).1 (by decide)

end Expiry

end ImitationGame
