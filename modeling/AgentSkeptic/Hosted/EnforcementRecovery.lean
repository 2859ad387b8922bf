import AgentSkeptic.Hosted.EnforcementRuns

/-!
# Recovering a trusted check

From which reachable states of an account can further requests lead to a check
answered `decision_trusted`?  From all but one kind: an accepted change whose
review date has passed before the rerun.  There `POST /baselines` asks for
`baseline_missing`, `POST /accept` asks for `action_required`, and `POST /check`
asks for a recreated baseline, so nothing moves any more.
-/

namespace AgentSkeptic.Hosted

open AgentSkeptic.Support

/-- Decision-grade evidence and, for an accept, members that parse: a review
date, if any, lies in the future. -/
def Request.WellFormed (r : Request) : Prop :=
  isDecisionGradeRunKind r.evidence.outcomeCertificate.runKind = true ∧
    match r with
    | .accept _ raw now => ∃ body, parseAcceptEvidenceInput raw now = .ok body
    | _ => True

/-- Some well-formed requests, none before time `t`, lead from `db` to a
trusted check. -/
def Recoverable (db : EnforcementDb) (t : ℤ) : Prop :=
  ∃ rs r, (∀ r' ∈ rs ++ [r], r'.WellFormed ∧ t ≤ r'.now) ∧
    trustedCheck (turnOf serveRequest (finish serveRequest db rs) r)

/-- An accepted change waits for its rerun, and at time `t` its baseline has to
be recreated or its review date has passed. -/
def Stuck (db : EnforcementDb) (t : ℤ) : Prop :=
  ∃ (life : LifecycleRow) (row : BaselineRow),
    db.row .lifecycle = some life ∧ db.row .baseline = some row ∧
    life.currentState = .rerunRequired ∧
    (row.needsRebaseline = true ∨ ∃ id, row.activeAcceptanceId = some id ∧
      reviewExpired t (db.row (.acceptance id)) = true)

/-- Being stuck, seen on the posture. -/
def Posture.stuck (p : Posture) (t : ℤ) : Prop :=
  p.state = .rerunRequired ∧ p.review.expire t = .expired

theorem Represents.stuck_iff {db : EnforcementDb} {p : Posture}
    (h : Represents db p) (t : ℤ) : Stuck db t ↔ p.stuck t := by
  constructor
  · rintro ⟨life, row, hlife, hrow, hstate, hdue⟩
    have hrerun := (h.lifecycle hlife).1.symm.trans hstate
    refine ⟨hrerun, ?_⟩
    cases p with
    | rerunRequired v b review =>
        obtain ⟨row', hrow', -, hholds⟩ := h.rows.1
        obtain rfl : row = row' := Option.some.inj (hrow.symm.trans hrow')
        rcases hdue with hneeds | ⟨id, hpointer, hexpired⟩
        · have hreview : review = .expired := by
            by_contra hne
            rw [hholds.needs hne] at hneeds
            exact Bool.noConfusion hneeds
          simp [hreview]
        · exact Review.expire_of_ne
            ((h.reviewExpired_iff t).mp ⟨row, id, hrow, hpointer, hexpired⟩)
    | unseen => simp at hrerun
    | baselineMissing v => simp at hrerun
    | baselineActive v b => simp at hrerun
    | actionRequired v b review => simp at hrerun
  · rintro ⟨hstate, hexpire⟩
    cases p with
    | rerunRequired v b review =>
        obtain ⟨⟨row, hrow, -, hholds⟩, life, hlife, hlifeState, -⟩ := h.rows
        refine ⟨life, row, hlife, hrow, hlifeState, ?_⟩
        by_cases hreview : review.expire t = review
        · rw [Posture.review, hreview] at hexpire
          subst hexpire
          exact .inl hholds.2
        · obtain ⟨row', id, hrow', hpointer, hexpired⟩ :=
            (h.reviewExpired_iff t).mpr hreview
          obtain rfl : row = row' := Option.some.inj (hrow.symm.trans hrow')
          exact .inr ⟨id, hpointer, hexpired⟩
    | unseen => simp at hstate
    | baselineMissing v => simp at hstate
    | baselineActive v b => simp at hstate
    | actionRequired v b review => simp at hstate

/-! ## Nothing moves a stuck account -/

/-- A review that has expired at `t` has expired at every later time. -/
theorem Review.expire_mono {review : Review} {t now : ℤ} (hle : t ≤ now)
    (h : review.expire t = .expired) : review.expire now = .expired := by
  cases review with
  | settled => simp [expire] at h
  | expired => rfl
  | accepted reviewBy =>
      cases reviewBy with
      | none => simp [expire] at h
      | some d =>
          by_cases hd : d ≤ t
          · simp [expire, hd.trans hle]
          · simp [expire, hd] at h

/-- A request at time `t` or later leaves a stuck posture stuck, and is not a
trusted check. -/
theorem Posture.stuck_step {p : Posture} {t : ℤ} (h : p.stuck t) {r : Request}
    (hr : t ≤ r.now) :
    (p.serve r).next.stuck t ∧ (p.serve r).answer = .refused := by
  obtain ⟨hstate, hexpire⟩ := h
  cases p with
  | rerunRequired v b review =>
      cases r with
      | createBaseline e now => exact ⟨⟨rfl, hexpire⟩, rfl⟩
      | check e now =>
          have hnow := Review.expire_mono hr hexpire
          rw [Posture.review, Request.now] at hnow
          simp [serve, check, refused, hnow, stuck]
      | accept e raw now =>
          cases hparse : parseAcceptEvidenceInput raw now with
          | error message =>
              simpa [serve, hparse, refused, stuck] using hexpire
          | ok body =>
              simpa [serve, hparse, accept, seen, refused, stuck] using hexpire
  | unseen => simp at hstate
  | baselineMissing v => simp at hstate
  | baselineActive v b => simp at hstate
  | actionRequired v b review => simp at hstate

theorem Posture.stuck_after {p : Posture} {t : ℤ} (h : p.stuck t)
    {rs : List Request} (hrs : ∀ r ∈ rs, t ≤ r.now) : (p.after rs).stuck t := by
  induction rs generalizing p with
  | nil => exact h
  | cons r rs ih =>
      exact ih (stuck_step h (hrs r (by simp))).1 fun r' hr' =>
        hrs r' (by simp [hr'])

theorem not_recoverable_of_stuck {db : EnforcementDb} {p : Posture}
    (h : Represents db p) {t : ℤ} (hstuck : p.stuck t) :
    ¬Recoverable db t := by
  rintro ⟨rs, r, hrequests, body, hbody, -⟩
  have hrep := finish_represents h rs
  have hlater : ∀ r' ∈ rs, t ≤ r'.now := fun r' hr' =>
    (hrequests r' (by simp [hr'])).2
  have hafter := Posture.stuck_after hstuck hlater
  obtain ⟨e, now, expected, rfl, hanswer⟩ := checkAnswer_turnOf hrep hbody
  have hrefused := (Posture.stuck_step hafter
    (hrequests (.check e now) (by simp)).2).2
  rw [Posture.serve, hanswer] at hrefused
  exact Answer.noConfusion hrefused

/-! ## Every other account recovers -/

/-- The posture trusts a check of its baseline hash at time `t`. -/
def Posture.Trusts (p : Posture) (b : Sha256) (t : ℤ) : Prop :=
  ∃ reason version expected, (p.check b t).answer =
    .checked reason .decisionTrusted version expected

theorem Posture.trusts_baselineActive (v : ℕ) (b : Sha256) (t : ℤ) :
    (baselineActive v b).Trusts b t :=
  ⟨.checkMatch, v + 1, none, by simp [check, checked]⟩

theorem Posture.trusts_rerunRequired {v : ℕ} {b : Sha256} {review : Review}
    {t : ℤ} (h : review.expire t ≠ .expired) :
    (rerunRequired v b review).Trusts b t :=
  ⟨.rerunPass, v + 1, none, by simp [check, checked, h]⟩

/-- Requests after which the posture trusts a check recover the account. -/
theorem recoverable_of_trusts {db : EnforcementDb} {p : Posture}
    (h : Represents db p) (rs : List Request) {t : ℤ}
    (hrs : ∀ r ∈ rs, r.WellFormed ∧ t ≤ r.now) {b : Sha256}
    (htrusts : (p.after rs).Trusts b t) : Recoverable db t := by
  refine ⟨rs, .check (contractEvidence b) t, ?_, ?_⟩
  · intro r hr
    rcases List.mem_append.mp hr with hr | hr
    · exact hrs r hr
    · rw [List.mem_singleton] at hr
      subst hr
      exact ⟨⟨rfl, trivial⟩, le_rfl⟩
  · obtain ⟨reason, version, expected, hanswer⟩ := htrusts
    have hcheck : ((p.after rs).serve (.check (contractEvidence b) t)).answer =
        .checked reason .decisionTrusted version expected := hanswer
    obtain ⟨body, hbody, -, hdecision, -⟩ :=
      checkAnswer_of_answer (finish_represents h rs) hcheck
    exact ⟨body, hbody, hdecision⟩

/-- Without a baseline, one is created and checked. -/
theorem recoverable_of_baselineMissing {db : EnforcementDb} {p : Posture}
    (h : Represents db p) (hstate : p.state = .baselineMissing) (t : ℤ) :
    Recoverable db t := by
  apply recoverable_of_trusts h [.createBaseline (contractEvidence ⟨0⟩) t]
  · intro r hr
    rw [List.mem_singleton] at hr
    subst hr
    exact ⟨⟨rfl, trivial⟩, le_rfl⟩
  · cases p with
    | unseen => exact Posture.trusts_baselineActive 1 ⟨0⟩ t
    | baselineMissing v => exact Posture.trusts_baselineActive (v + 1) ⟨0⟩ t
    | baselineActive v b => simp at hstate
    | actionRequired v b review => simp at hstate
    | rerunRequired v b review => simp at hstate

/-- An open drift is accepted without a review date and rerun. -/
theorem recoverable_of_actionRequired {db : EnforcementDb} {v : ℕ} {b : Sha256}
    {review : Review} (h : Represents db (.actionRequired v b review)) (t : ℤ) :
    Recoverable db t := by
  have hdate : ∀ d, (none : Option ℤ) = some d → t < d := by simp
  apply recoverable_of_trusts h
    [.accept (contractEvidence b) (acceptOf v b none) t]
  · intro r hr
    rw [List.mem_singleton] at hr
    subst hr
    exact ⟨⟨rfl, _, parse_acceptOf v b hdate⟩, le_rfl⟩
  · rw [Posture.after_cons, serve_acceptOf v b b review hdate]
    exact Posture.trusts_rerunRequired (by simp [Review.expire])

theorem recoverable_of_not_stuck {db : EnforcementDb} {p : Posture}
    (h : Represents db p) {t : ℤ} (hstuck : ¬p.stuck t) : Recoverable db t := by
  cases p with
  | unseen => exact recoverable_of_baselineMissing h rfl t
  | baselineMissing v => exact recoverable_of_baselineMissing h rfl t
  | baselineActive v b =>
      exact recoverable_of_trusts h [] (by simp)
        (Posture.trusts_baselineActive v b t)
  | actionRequired v b review => exact recoverable_of_actionRequired h t
  | rerunRequired v b review =>
      have hreview : review.expire t ≠ .expired := fun he => hstuck ⟨rfl, he⟩
      exact recoverable_of_trusts h [] (by simp)
        (Posture.trusts_rerunRequired hreview)

/-- After any run and from any time on, requests can lead to a trusted check
exactly when no accepted change waits for a rerun behind an expired review. -/
theorem recoverable_iff_not_stuck (rs : List Request) (t : ℤ) :
    Recoverable (accountAfter rs) t ↔ ¬Stuck (accountAfter rs) t := by
  have hrep := accountAfter_represents rs
  rw [hrep.stuck_iff t]
  constructor
  · intro hrecover hstuck
    exact not_recoverable_of_stuck hrep hstuck hrecover
  · exact recoverable_of_not_stuck hrep

/-! A drift accepted until time 10 and rerun at time 20. -/

def expiredRun : List Request :=
  [establish, drift,
    .accept (contractEvidence ⟨1⟩) (acceptOf 2 ⟨0⟩ (some 10)) 2,
    .check (contractEvidence ⟨1⟩) 20]

theorem after_expiredRun :
    Posture.unseen.after expiredRun = .rerunRequired 3 ⟨1⟩ .expired := by
  rw [show expiredRun = [establish, drift] ++
      [.accept (contractEvidence ⟨1⟩) (acceptOf 2 ⟨0⟩ (some 10)) 2,
        .check (contractEvidence ⟨1⟩) 20] from rfl,
    Posture.after_append, after_establish_drift, Posture.after_cons,
    serve_acceptOf _ _ _ _ (by simp)]
  rfl

/-- Not every reachable state can be recovered, whatever the clock says. -/
theorem expired_rerun_unrecoverable :
    ¬∀ rs : List Request, ∃ t, Recoverable (accountAfter rs) t := by
  intro hclaim
  obtain ⟨t, hrecover⟩ := hclaim expiredRun
  have hrep := accountAfter_represents expiredRun
  rw [after_expiredRun] at hrep
  exact not_recoverable_of_stuck hrep ⟨rfl, rfl⟩ hrecover

end AgentSkeptic.Hosted
