import AgentSkeptic.Hosted.EnforcementRuns

/-!
# Replaying the enforcement events

`applyFsmNormalizedEvent` rebuilds a posture from the `enforcement_event` rows.
Over any run it reads the events without a fatal result, and it ends in the
live posture except for an account that was checked and never given a baseline:
the drift event of such a check moves the reducer to `actionRequired`, while
the live lifecycle stays `baselineMissing`.
-/

namespace AgentSkeptic.Hosted

open AgentSkeptic.Support

/-- What the rows of an account say, in the terms of the reducer. -/
def liveState (db : EnforcementDb) : FsmReplayState where
  lifecycle :=
    ((db.row .lifecycle).map (·.currentState)).getD
      (inferLifecycleFromBaselineExists (db.row .baseline).isSome)
  baselineHash := (db.row .baseline).map (·.projectionHash)
  pendingAcceptHash :=
    (db.row .lifecycle).bind (·.pendingAcceptProjectionHash)

/-- The state in which a replay starts. -/
def replayStart : FsmReplayState := ⟨.baselineMissing, none, none⟩

/-- The replay of all enforcement events that a run appends. -/
def replayed (rs : List Request) : FsmReplayResult :=
  replayEvents replayStart (enforcementEvents (accountAfter rs).log)

def Request.isCheck : Request → Bool
  | .check _ _ => true
  | _ => false

/-- A `POST /baselines` with decision-grade evidence. -/
def Request.establishes : Request → Bool
  | .createBaseline e _ => isDecisionGradeRunKind e.outcomeCertificate.runKind
  | _ => false

/-! ## The reducer on the moves of the posture machine -/

def Posture.view (p : Posture) : FsmReplayState :=
  ⟨p.state, p.baseline, p.pending⟩

theorem Represents.liveState {db : EnforcementDb} {p : Posture}
    (h : Represents db p) : liveState db = p.view := by
  have hbase := h.baseline
  by_cases hp : p = .unseen
  · subst hp
    simp [Hosted.liveState, h.rows.1, h.rows.2, Posture.view,
      inferLifecycleFromBaselineExists]
  · obtain ⟨life, hlife⟩ := h.exists_lifecycle hp
    obtain ⟨hstate, -, hpending⟩ := h.lifecycle hlife
    simp [Hosted.liveState, hlife, hbase, hstate, hpending, Posture.view]

/-- Where the reducer stands on an account that was checked without ever
having a baseline. -/
def checkedWithoutBaseline : FsmReplayState := ⟨.actionRequired, none, none⟩

/-- What the reducer makes of a posture, given whether a check was served. -/
def Posture.replayView (p : Posture) (sawCheck : Bool) : FsmReplayState :=
  if p.baseline = none ∧ sawCheck = true then checkedWithoutBaseline else p.view

@[simp] theorem replayEvents_nil (s : FsmReplayState) :
    replayEvents s [] = some s := rfl

@[simp] theorem replayEvents_singleton (s : FsmReplayState)
    (ev : FsmNormalizedEvent) :
    replayEvents s [ev] = applyFsmNormalizedEvent s ev := by
  simp only [replayEvents]
  cases applyFsmNormalizedEvent s ev <;> rfl

namespace Posture

@[simp] theorem replayView_of_baseline {p : Posture} {b : Sha256}
    (h : p.baseline = some b) (sawCheck : Bool) :
    p.replayView sawCheck = p.view := by
  rw [replayView, if_neg]
  rintro ⟨hnone, -⟩
  rw [h] at hnone
  cases hnone

theorem replay_check (p : Posture) (observed : Sha256) (now : ℤ)
    (sawCheck : Bool) :
    replayEvents (p.replayView sawCheck) (p.check observed now).events =
      some ((p.check observed now).next.replayView true) := by
  cases p with
  | unseen =>
      cases sawCheck <;> rfl
  | baselineMissing v =>
      cases sawCheck <;> rfl
  | baselineActive v b =>
      by_cases hmatch : observed = b <;>
        simp [check, checked, replayView, view, hmatch, applyFsmNormalizedEvent,
          replayCheckPass]
  | actionRequired v b review =>
      by_cases hexpire : review.expire now = .expired
      · simp [check, refused, hexpire, replayView, view]
      · by_cases hmatch : observed = b <;>
          simp [check, checked, replayView, view, hexpire, hmatch,
            applyFsmNormalizedEvent]
  | rerunRequired v b review =>
      by_cases hexpire : review.expire now = .expired
      · simp [check, refused, hexpire, replayView, view]
      · by_cases hmatch : observed = b <;>
          simp [check, checked, replayView, view, hexpire, hmatch,
            applyFsmNormalizedEvent, replayCheckPass]

theorem replay_createBaseline (p : Posture) (truth : Sha256)
    (decisionGrade sawCheck : Bool) :
    replayEvents (p.replayView sawCheck)
        (p.createBaseline truth decisionGrade).events =
      some ((p.createBaseline truth decisionGrade).next.replayView sawCheck) := by
  cases p with
  | unseen => cases decisionGrade <;> cases sawCheck <;> rfl
  | baselineMissing v => cases decisionGrade <;> cases sawCheck <;> rfl
  | baselineActive v b => rfl
  | actionRequired v b review => rfl
  | rerunRequired v b review => rfl

theorem replay_accept (p : Posture) (e : Evidence) (body : AcceptBody)
    (sawCheck : Bool) :
    replayEvents (p.replayView sawCheck) (p.accept e body).events =
      some ((p.accept e body).next.replayView sawCheck) := by
  cases p with
  | unseen => cases sawCheck <;> rfl
  | baselineMissing v => rfl
  | baselineActive v b => rfl
  | rerunRequired v b review => rfl
  | actionRequired v b review =>
      by_cases hguard : body.lifecycleStateVersion = v ∧
          body.expectedProjectionHash = b.hex ∧
          isDecisionGradeRunKind e.outcomeCertificate.runKind = true
      · simp [accept, seen, hguard, replayView, view, applyFsmNormalizedEvent]
      · simp only [accept, seen, hguard, ↓reduceIte, refused]
        rfl

/-- One move and its events keep the reducer where it should stand. -/
theorem replay_step (p : Posture) (r : Request) (sawCheck : Bool) :
    replayEvents (p.replayView sawCheck) (p.serve r).events =
      some ((p.serve r).next.replayView (sawCheck || r.isCheck)) := by
  cases r with
  | createBaseline e now =>
      rw [show (Request.createBaseline e now).isCheck = false from rfl,
        Bool.or_false]
      exact p.replay_createBaseline _ _ sawCheck
  | check e now =>
      rw [show (Request.check e now).isCheck = true from rfl, Bool.or_true]
      exact p.replay_check _ now sawCheck
  | accept e raw now =>
      cases hparse : parseAcceptEvidenceInput raw now with
      | error message =>
          simp [serve, hparse, refused, Request.isCheck]
      | ok body =>
          simpa [serve, hparse, Request.isCheck] using
            p.replay_accept e body sawCheck

/-- A baseline appears only by a decision-grade `POST /baselines`, and stays. -/
theorem baseline_isSome_step (p : Posture) (r : Request) :
    (p.serve r).next.baseline.isSome =
      (p.baseline.isSome || r.establishes) := by
  cases r with
  | createBaseline e now =>
      cases p <;>
        cases hgrade : isDecisionGradeRunKind e.outcomeCertificate.runKind <;>
        simp [serve, createBaseline, seen, refused, Request.establishes, hgrade]
  | check e now =>
      cases p with
      | unseen => rfl
      | baselineMissing v => rfl
      | baselineActive v b =>
          by_cases hmatch : e.materialTruthSha256 = b <;>
            simp [serve, check, checked, hmatch]
      | actionRequired v b review =>
          by_cases hexpire : review.expire now = .expired <;>
            by_cases hmatch : e.materialTruthSha256 = b <;>
            simp [serve, check, checked, refused, hexpire, hmatch]
      | rerunRequired v b review =>
          by_cases hexpire : review.expire now = .expired <;>
            by_cases hmatch : e.materialTruthSha256 = b <;>
            simp [serve, check, checked, refused, hexpire, hmatch]
  | accept e raw now =>
      cases hparse : parseAcceptEvidenceInput raw now with
      | error message => simp [serve, hparse, refused, Request.establishes]
      | ok body =>
          simp only [serve, hparse, accept, Request.establishes, Bool.or_false]
          cases p with
          | actionRequired v b review =>
              simp only [seen]
              split <;> rfl
          | unseen => rfl
          | baselineMissing v => rfl
          | baselineActive v b => rfl
          | rerunRequired v b review => rfl

end Posture

/-! ## Runs -/

theorem enforcementEvents_snoc (rs : List Request) (r : Request) :
    enforcementEvents (accountAfter (rs ++ [r])).log =
      enforcementEvents (accountAfter rs).log ++
        ((Posture.unseen.after rs).serve r).events := by
  obtain ⟨response, db', hserve, -, -, hevents⟩ :=
    serveRequest_refines (accountAfter_represents rs) r
  rw [← hevents, accountAfter, finish_append, finish_cons, finish_nil]
  rw [accountAfter] at hserve
  rw [hserve]

theorem replayed_eq (rs : List Request) :
    replayed rs =
      some ((Posture.unseen.after rs).replayView (rs.any Request.isCheck)) := by
  induction rs using List.reverseRecOn with
  | nil => rfl
  | append_singleton rs r ih =>
      rw [replayed] at ih
      rw [replayed, enforcementEvents_snoc, replayEvents_append, ih,
        Option.bind_some, Posture.replay_step, Posture.after_append]
      simp

theorem baseline_isSome_after (rs : List Request) :
    (Posture.unseen.after rs).baseline.isSome =
      rs.any Request.establishes := by
  induction rs using List.reverseRecOn with
  | nil => rfl
  | append_singleton rs r ih =>
      rw [Posture.after_append, Posture.after_cons, Posture.after_nil,
        Posture.baseline_isSome_step, ih, List.any_append]
      simp

/-- The replay of a run is never fatal, and ends in the live posture exactly
when the run has no check or gives the account a baseline. -/
theorem replayed_eq_live_iff (rs : List Request) :
    replayed rs ≠ none ∧
      (replayed rs = some (liveState (accountAfter rs)) ↔
        (∀ r ∈ rs, r.isCheck = false) ∨ ∃ r ∈ rs, r.establishes = true) := by
  have hlive := (accountAfter_represents rs).liveState
  rw [replayed_eq, hlive]
  refine ⟨by simp, ?_⟩
  have hbase := baseline_isSome_after rs
  cases hestablished : rs.any Request.establishes with
  | true =>
      rw [hestablished] at hbase
      obtain ⟨b, hb⟩ := Option.isSome_iff_exists.mp hbase
      rw [Posture.replayView_of_baseline hb]
      simpa using .inr (by simpa using hestablished)
  | false =>
      rw [hestablished] at hbase
      have hnone : (Posture.unseen.after rs).baseline = none := by
        rwa [← Option.not_isSome_iff_eq_none, Bool.not_eq_true]
      have hno : ¬∃ r ∈ rs, r.establishes = true := by
        simpa using hestablished
      rw [or_iff_left hno]
      cases hcheck : rs.any Request.isCheck with
      | false =>
          simpa [Posture.replayView] using hcheck
      | true =>
          -- the reducer says `actionRequired`, the rows say `baselineMissing`
          have hview : (Posture.unseen.after rs).view ≠ checkedWithoutBaseline := by
            cases hp : Posture.unseen.after rs <;>
              simp_all [Posture.view, checkedWithoutBaseline]
          have hreplay : (Posture.unseen.after rs).replayView true =
              checkedWithoutBaseline := if_pos ⟨hnone, rfl⟩
          rw [hreplay, Option.some.injEq]
          simp only [List.any_eq_true] at hcheck
          obtain ⟨r, hr, hisCheck⟩ := hcheck
          constructor
          · intro heq
            exact absurd heq.symm hview
          · intro hall
            rw [hall r hr] at hisCheck
            exact Bool.noConfusion hisCheck

/-- A check of an account without a baseline leaves the replay elsewhere. -/
theorem replayed_check_without_baseline :
    ¬∀ rs : List Request, replayed rs = some (liveState (accountAfter rs)) := by
  intro hclaim
  have hreplay := hclaim [drift]
  rw [replayed_eq, (accountAfter_represents [drift]).liveState] at hreplay
  exact absurd hreplay (by decide)

end AgentSkeptic.Hosted
