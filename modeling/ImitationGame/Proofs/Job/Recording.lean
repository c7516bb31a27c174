import ImitationGame.Job.Sweep

namespace ImitationGame

variable {σ : Type} {q : JobQueue σ} {kind : JobKind} {r : SweepReport} {s : σ} {log : List Job}

def JobQueue.recording (q : JobQueue σ) : JobQueue (σ × List Job) where
  offer st j := ((q.offer st.1 j).1, (q.offer st.1 j).2, st.2 ++ [j])
  cancelled st := q.cancelled st.1
  wait st := (q.wait st.1, st.2)

def SweepReport.total (r : SweepReport) : Nat := r.enqueued + r.duplicates + r.failures

theorem SweepReport.total_note (r : SweepReport) (kind : JobKind) (answer : QueueAnswer) :
    (r.note kind answer).total = r.total + 1 := by
  cases answer with
  | enqueued => cases kind <;> simp only [note, count, total, enqueued] <;> omega
  | duplicate | full | closed =>
    simp only [note, fail, total, enqueued]
    omega

theorem SweepReport.crashed_note (r : SweepReport) (kind : JobKind) (answer : QueueAnswer) :
    (r.note kind answer).crashed = r.crashed := by
  cases answer with
  | enqueued => cases kind <;> rfl
  | duplicate | full | closed => rfl

namespace Sweep

abbrev Scan := JobKind × Except Fault (List Int)

def Scan.failed (scan : Scan) : Bool := !scan.2.isOk

def Scan.jobs (scan : Scan) : List Job := (scan.2.toOption.getD []).map (Job.mk scan.1)

def offers (scans : List Scan) : List Job := scans.flatMap Scan.jobs

theorem offerAll_cons (h : q.cancelled s = false) (game : Int) (games : List Int) :
    offerAll q kind (game :: games) (r, s) = offerAll q kind games
      (r.note kind (q.offer s ⟨kind, game⟩).1, (q.offer s ⟨kind, game⟩).2) := by
  rw [offerAll, if_neg (Bool.eq_false_iff.mp h)]

theorem offerAll_of_cancelled (h : q.cancelled s = true) (games : List Int) :
    offerAll q kind games (r, s) = (r, s) := by
  cases games with
  | nil => rfl
  | cons game games => rw [offerAll, if_pos h]

theorem offerAll_recording (q : JobQueue σ) (kind : JobKind) (games : List Int) (r : SweepReport)
    (s : σ) (log : List Job) : ∃ made, made <+: games.map (Job.mk kind) ∧
    ∃ r' s', offerAll q kind games (r, s) = (r', s') ∧
      offerAll q.recording kind games (r, s, log) = (r', s', log ++ made) ∧
      (r'.total = r.total + made.length ∧ r'.crashed = r.crashed) ∧
      (q.cancelled s' = false → made = games.map (Job.mk kind)) := by
  induction games generalizing r s log with
  | nil =>
    refine ⟨[], List.nil_prefix, r, s, rfl, ?_, ⟨rfl, rfl⟩, fun _ => rfl⟩
    rw [List.append_nil]
    rfl
  | cons game games ih =>
    cases hc : q.cancelled s with
    | true =>
      refine ⟨[], List.nil_prefix, r, s, offerAll_of_cancelled hc _, ?_, ⟨rfl, rfl⟩, fun h => ?_⟩
      · have hcr : q.recording.cancelled (s, log) = true := hc
        rw [List.append_nil]
        exact offerAll_of_cancelled hcr _
      · rw [hc] at h
        cases h
    | false =>
      obtain ⟨made, hp, r', s', h, hr, ⟨ht, hcr⟩, hall⟩ := ih
        (r.note kind (q.offer s ⟨kind, game⟩).1) (q.offer s ⟨kind, game⟩).2 (log ++ [⟨kind, game⟩])
      refine ⟨⟨kind, game⟩ :: made, (List.prefix_cons_inj _).mpr hp, r', s', ?_, ?_, ⟨?_, ?_⟩, ?_⟩
      · exact (offerAll_cons hc game games).trans h
      · have hcr : q.recording.cancelled (s, log) = false := hc
        rw [List.append_cons]
        exact (offerAll_cons hcr game games).trans hr
      · rw [ht, SweepReport.total_note, List.length_cons]
        omega
      · rw [hcr, SweepReport.crashed_note]
      · intro hs
        rw [hall hs, List.map_cons]

theorem pass_of_cancelled (h : q.cancelled s = true) (scans : List Scan) :
    pass q scans (r, s) = (r, s) := by
  cases scans with
  | nil => rfl
  | cons scan scans =>
    obtain ⟨kind, found⟩ := scan
    rw [pass.eq_def]
    exact if_pos h

theorem pass_cons_ok (h : q.cancelled s = false) (games : List Int) (scans : List Scan) :
    pass q ((kind, .ok games) :: scans) (r, s) =
      pass q scans (offerAll q kind games (r, q.wait s)) := by
  rw [pass, if_neg (Bool.eq_false_iff.mp h)]

theorem pass_cons_error (kind : JobKind) (f : Fault) (scans : List Scan) :
    (∀ {τ : Type} {q : JobQueue τ} {r : SweepReport} {s : τ}, q.cancelled s = false →
      pass q ((kind, .error f) :: scans) (r, s) = pass q scans (r.fail, q.wait s)) ∨
    ∀ {τ : Type} {q : JobQueue τ} {r : SweepReport} {s : τ}, q.cancelled s = false →
      pass q ((kind, .error f) :: scans) (r, s) = ({ r with crashed := true }, q.wait s) := by
  by_cases hf : ∃ c, f = .refused (.crash c)
  · obtain ⟨c, rfl⟩ := hf
    refine .inr fun h => ?_
    rw [pass, if_neg (Bool.eq_false_iff.mp h)]
  · refine .inl fun h => ?_
    rw [pass, if_neg (Bool.eq_false_iff.mp h)]
    exact fun c hc => hf ⟨c, hc⟩

/-- A sweep offers the jobs of its scans in their order, as far as it comes, and counts every offer
and every failed scan once. Unless it was told to stop or a scan crashed it comes to the end. -/
def Recorded (q : JobQueue σ) (scans : List Scan) (r : SweepReport) (s : σ) (log : List Job) :
    Prop :=
  ∃ tried made, tried <+: scans ∧ made <+: offers tried ∧
    ∃ r' s', pass q scans (r, s) = (r', s') ∧
      pass q.recording scans (r, s, log) = (r', s', log ++ made) ∧
      r'.total = r.total + made.length + tried.countP Scan.failed ∧
      ((∀ scan ∈ scans, scan.failed = false) → r'.crashed = r.crashed) ∧
      (r'.crashed = false → q.cancelled s' = false → tried = scans ∧ made = offers scans)

variable {scans : List Scan}

theorem recorded_of_cancelled (hc : q.cancelled s = true) : Recorded q scans r s log := by
  have hcr : q.recording.cancelled (s, log) = true := hc
  refine ⟨[], [], List.nil_prefix, List.nil_prefix, r, s, pass_of_cancelled hc _, ?_, rfl,
    fun _ => rfl, fun _ h => ?_⟩
  · rw [List.append_nil]
    exact pass_of_cancelled hcr _
  · rw [hc] at h
    cases h

theorem recorded_cons_ok (hc : q.cancelled s = false) (games : List Int)
    (ih : ∀ r s log, Recorded q scans r s log) :
    Recorded q ((kind, .ok games) :: scans) r s log := by
  have hcr : q.recording.cancelled (s, log) = false := hc
  have hf : Scan.failed (kind, .ok games) = false := rfl
  obtain ⟨made, hp, r₁, s₁, ho, hor, ⟨ht, hcrash⟩, hall⟩ :=
    offerAll_recording q kind games r (q.wait s) log
  have hr₁ : q.recording.wait (s, log) = (q.wait s, log) := rfl
  rw [Recorded, pass_cons_ok hc, pass_cons_ok hcr, hr₁, ho, hor]
  cases hc₁ : q.cancelled s₁ with
  | true =>
    -- Told to stop among these games, the sweep tries no further scan.
    have hj : offers [(kind, .ok games)] = games.map (Job.mk kind) := List.append_nil _
    have hcr₁ : q.recording.cancelled (s₁, log ++ made) = true := hc₁
    rw [pass_of_cancelled hc₁, pass_of_cancelled hcr₁]
    refine ⟨[(kind, .ok games)], made, ⟨scans, rfl⟩, hj ▸ hp, r₁, s₁, rfl, rfl, ht,
      fun _ => hcrash, fun _ h => ?_⟩
    rw [hc₁] at h
    cases h
  | false =>
    obtain rfl := hall hc₁
    obtain ⟨tried, made, htr, hm, r', s', h, hr, htot, hsafe, hend⟩ :=
      ih r₁ s₁ (log ++ games.map (Job.mk kind))
    refine ⟨(kind, .ok games) :: tried, games.map (Job.mk kind) ++ made,
      (List.prefix_cons_inj _).mpr htr, (List.prefix_append_right_inj _).mpr hm, r', s', h, ?_, ?_,
      fun hs => ?_, fun hcs hs => ?_⟩
    · rw [hr, List.append_assoc]
    · rw [htot, ht, List.length_append, List.countP_cons_of_neg (Bool.eq_false_iff.mp hf)]
      omega
    · exact (hsafe (List.forall_mem_cons.mp hs).2).trans hcrash
    · obtain ⟨rfl, rfl⟩ := hend hcs hs
      exact ⟨rfl, rfl⟩

theorem recorded_cons_error (hc : q.cancelled s = false) (f : Fault)
    (ih : ∀ r s log, Recorded q scans r s log) :
    Recorded q ((kind, .error f) :: scans) r s log := by
  have hcr : q.recording.cancelled (s, log) = false := hc
  rcases pass_cons_error kind f scans with hf | hf
  · rw [Recorded, hf hc, hf hcr]
    obtain ⟨tried, made, htr, hm, r', s', h, hr, htot, -, hend⟩ := ih r.fail (q.wait s) log
    refine ⟨(kind, .error f) :: tried, made, (List.prefix_cons_inj _).mpr htr, hm, r', s', h, hr,
      ?_, fun hs => ?_, fun hcs hs => ?_⟩
    · rw [htot, List.countP_cons_of_pos rfl]
      simp only [SweepReport.total, SweepReport.fail, SweepReport.enqueued]
      omega
    · cases (List.forall_mem_cons.mp hs).1
    · obtain ⟨rfl, rfl⟩ := hend hcs hs
      exact ⟨rfl, rfl⟩
  · rw [Recorded, hf hc, hf hcr]
    refine ⟨[], [], List.nil_prefix, List.nil_prefix, _, q.wait s, rfl, ?_, rfl, fun hs => ?_,
      fun hs => ?_⟩
    · rw [List.append_nil]
      rfl
    · cases (List.forall_mem_cons.mp hs).1
    · cases hs

theorem recorded (q : JobQueue σ) (scans : List Scan) (r : SweepReport) (s : σ) (log : List Job) :
    Recorded q scans r s log := by
  induction scans generalizing r s log with
  | nil =>
    refine ⟨[], [], List.nil_prefix, List.nil_prefix, r, s, rfl, ?_, rfl, fun _ => rfl,
      fun _ _ => ⟨rfl, rfl⟩⟩
    rw [List.append_nil]
    rfl
  | cons scan scans ih =>
    obtain ⟨kind, found⟩ := scan
    cases hc : q.cancelled s with
    | true => exact recorded_of_cancelled hc
    | false =>
      cases found with
      | ok games => exact recorded_cons_ok hc games ih
      | error f => exact recorded_cons_error hc f ih

end Sweep

end ImitationGame
