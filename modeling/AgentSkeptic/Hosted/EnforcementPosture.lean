import AgentSkeptic.Hosted.EnforcementPersistence

/-!
# Postures of an account

What the hosted enforcement is for, without its tables: an account has no
baseline, or a baseline it trusts, or a drift waiting for an accept, or an
accepted change waiting for a rerun.  `Posture.serve` is the table of its
moves.  `serveRequest_refines` proves that the three transactions, served one
at a time, make exactly these moves; the invariants that link the baseline row,
the lifecycle row and the acceptance rows are the constructors of `Posture`.
-/

namespace AgentSkeptic.Hosted

open AgentSkeptic.Support

/-! ## The abstract machine -/

/-- What hangs on a baseline besides its hash. -/
inductive Review where
  /-- No acceptance is pointed at. -/
  | settled
  /-- The baseline was installed by an accept, with its review date. -/
  | accepted (reviewBy : Option ℤ)
  /-- The review date passed: the baseline must be recreated. -/
  | expired
  deriving DecidableEq, Repr

/-- The effect of the review-by test at the start of a check. -/
def Review.expire (now : ℤ) : Review → Review
  | .accepted (some reviewBy) =>
      if reviewBy ≤ now then .expired else .accepted (some reviewBy)
  | review => review

@[simp] theorem Review.expire_settled (now : ℤ) :
    settled.expire now = settled := rfl

@[simp] theorem Review.expire_expired (now : ℤ) :
    expired.expire now = expired := rfl

theorem Review.expire_of_ne {review : Review} {now : ℤ}
    (h : review.expire now ≠ review) : review.expire now = .expired := by
  cases review with
  | settled => exact absurd rfl h
  | expired => exact absurd rfl h
  | accepted reviewBy =>
      cases reviewBy with
      | none => exact absurd rfl h
      | some t =>
          by_cases hle : t ≤ now <;> simp_all [Review.expire]

inductive Posture where
  | unseen
  | baselineMissing (version : ℕ)
  | baselineActive (version : ℕ) (baseline : Sha256)
  | actionRequired (version : ℕ) (baseline : Sha256) (review : Review)
  | rerunRequired (version : ℕ) (baseline : Sha256) (review : Review)
  deriving DecidableEq, Repr

/-- What a response tells about the posture. -/
inductive Answer where
  | refused
  | checked (reason : DecisionReasonCode) (decision : DecisionState)
      (version : ℕ) (expectedForAccept : Option Sha256)
  | established (version : ℕ) (baseline : Sha256)
  | accepted (version : ℕ) (baseline : Sha256)
  deriving DecidableEq, Repr

structure PostureStep where
  next : Posture
  answer : Answer
  events : List FsmNormalizedEvent
  deriving DecidableEq

namespace Posture

/-- A check that was evaluated and recorded. -/
def checked (next : Posture) (reason : DecisionReasonCode)
    (decision : DecisionState) (version : ℕ)
    (expectedForAccept : Option Sha256) (event : FsmNormalizedEvent) :
    PostureStep :=
  ⟨next, .checked reason decision version expectedForAccept, [event]⟩

def refused (next : Posture) : PostureStep := ⟨next, .refused, []⟩

def check (p : Posture) (observed : Sha256) (now : ℤ) : PostureStep :=
  match p with
  | unseen =>
      checked (baselineMissing 1) .baselineMissing .decisionBlocked 1 none
        (.legacyDriftDetected none observed)
  | baselineMissing v =>
      checked (baselineMissing (v + 1)) .baselineMissing .decisionBlocked (v + 1)
        none (.legacyDriftDetected none observed)
  | baselineActive v b =>
      if observed = b then
        checked (baselineActive (v + 1) b) .checkMatch .decisionTrusted (v + 1)
          none (.legacyCheckPass observed)
      else
        checked (actionRequired (v + 1) b .settled) .driftDetected
          .decisionBlocked (v + 1) (some b)
          (.legacyDriftDetected (some b) observed)
  | actionRequired v b review =>
      if review.expire now = .expired then
        refused (actionRequired v b .expired)
      else if observed = b then
        checked (actionRequired (v + 1) b review) .remediationAckRequired
          .decisionBlocked (v + 1) none (.legacyDriftDetected (some b) observed)
      else
        checked (actionRequired (v + 1) b review) .driftDetected
          .decisionBlocked (v + 1) (some b)
          (.legacyDriftDetected (some b) observed)
  | rerunRequired v b review =>
      if review.expire now = .expired then
        refused (rerunRequired v b .expired)
      else if observed = b then
        checked (baselineActive (v + 1) b) .rerunPass .decisionTrusted (v + 1)
          none (.legacyCheckPass observed)
      else
        checked (actionRequired (v + 1) b review) .rerunFail .decisionBlocked
          (v + 1) (some b) (.legacyDriftDetected (some b) observed)

/-- Asking for the posture creates the lifecycle row of an unseen account. -/
def seen : Posture → Posture
  | unseen => baselineMissing 0
  | p => p

def createBaseline (p : Posture) (truth : Sha256) (decisionGrade : Bool) :
    PostureStep :=
  match p.seen with
  | baselineMissing v =>
      if decisionGrade then
        ⟨baselineActive (v + 1) truth, .established (v + 1) truth,
          [.legacyBaselineCreated truth]⟩
      else refused (baselineMissing v)
  | held => refused held

/-- An accept must name the version and the pending hash of the open drift. -/
def accept (p : Posture) (e : Evidence) (body : AcceptBody) : PostureStep :=
  match p.seen with
  | actionRequired v b review =>
      if body.lifecycleStateVersion = v ∧ body.expectedProjectionHash = b.hex ∧
          isDecisionGradeRunKind e.outcomeCertificate.runKind = true then
        ⟨rerunRequired (v + 1) e.materialTruthSha256
            (.accepted body.exceptionReviewBy),
          .accepted (v + 1) e.materialTruthSha256,
          [.legacyDriftAccepted e.materialTruthSha256]⟩
      else refused (actionRequired v b review)
  | other => refused other

theorem check_seen (p : Posture) (observed : Sha256) (now : ℤ) :
    p.seen.check observed now = p.check observed now := by
  cases p <;> rfl

def serve (p : Posture) : Request → PostureStep
  | .createBaseline e _ =>
      p.createBaseline e.materialTruthSha256
        (isDecisionGradeRunKind e.outcomeCertificate.runKind)
  | .check e now => p.check e.materialTruthSha256 now
  | .accept e raw now =>
      match parseAcceptEvidenceInput raw now with
      | .error _ => refused p
      | .ok body => p.accept e body

end Posture

/-! ## What each move can do -/

/-- The reasons of an evaluated check after which a drift is open. -/
@[simp] def DecisionReasonCode.opensDrift : DecisionReasonCode → Bool
  | .driftDetected | .rerunFail | .remediationAckRequired => true
  | _ => false

namespace Posture

/-- The lifecycle state of the row, or the one inferred without a row. -/
@[simp] def state : Posture → LifecycleState
  | unseen | baselineMissing _ => .baselineMissing
  | baselineActive _ _ => .baselineActive
  | actionRequired _ _ _ => .actionRequired
  | rerunRequired _ _ _ => .rerunRequired

@[simp] def version : Posture → ℕ
  | unseen => 0
  | baselineMissing v | baselineActive v _ | actionRequired v _ _
  | rerunRequired v _ _ => v

@[simp] def baseline : Posture → Option Sha256
  | unseen | baselineMissing _ => none
  | baselineActive _ b | actionRequired _ b _ | rerunRequired _ b _ => some b

/-- Only an open drift has a pending hash, and it is the baseline hash. -/
@[simp] def pending : Posture → Option Sha256
  | actionRequired _ b _ => some b
  | _ => none

@[simp] def review : Posture → Review
  | actionRequired _ _ review | rerunRequired _ _ review => review
  | _ => .settled

@[simp] theorem review_seen (p : Posture) : p.seen.review = p.review := by
  cases p <;> rfl

/-- A trusted check: the observed hash is the baseline hash, the baseline has
not expired and no drift is open. -/
theorem check_trusted {p : Posture} {observed : Sha256} {now : ℤ}
    {reason : DecisionReasonCode} {version : ℕ} {expected : Option Sha256}
    (h : (p.check observed now).answer =
      .checked reason .decisionTrusted version expected) :
    p.baseline = some observed ∧ p.state ≠ .actionRequired ∧
      p.review ≠ .expired ∧ (reason = .checkMatch ∨ reason = .rerunPass) ∧
      (p.check observed now).next = .baselineActive version observed := by
  cases p with
  | unseen => simp [check, checked] at h
  | baselineMissing v => simp [check, checked] at h
  | baselineActive v b =>
      by_cases hmatch : observed = b
      · simp_all [check, checked]
      · simp [check, checked, hmatch] at h
  | actionRequired v b review =>
      by_cases hexpire : review.expire now = .expired
      · simp [check, refused, hexpire] at h
      · by_cases hmatch : observed = b <;>
          simp [check, checked, hexpire, hmatch] at h
  | rerunRequired v b review =>
      by_cases hexpire : review.expire now = .expired
      · simp [check, refused, hexpire] at h
      · by_cases hmatch : observed = b
        · have hreview : review ≠ .expired := by
            rintro rfl
            exact hexpire rfl
          simp_all [check, checked]
        · simp [check, checked, hexpire, hmatch] at h

/-- An evaluated check against a baseline leaves the posture at the version it
answers with, and blocks exactly into `actionRequired`. -/
theorem check_blocked {p : Posture} {observed : Sha256} {now : ℤ}
    {reason : DecisionReasonCode} {version : ℕ} {expected : Option Sha256}
    (h : (p.check observed now).answer =
      .checked reason .decisionBlocked version expected)
    (hreason : reason ≠ .baselineMissing) :
    ∃ b review, p.baseline = some b ∧
      (p.check observed now).next = .actionRequired version b review := by
  cases p with
  | unseen => simp_all [check, checked]
  | baselineMissing v => simp_all [check, checked]
  | baselineActive v b =>
      by_cases hmatch : observed = b <;> simp_all [check, checked]
  | actionRequired v b review =>
      by_cases hexpire : review.expire now = .expired
      · simp [check, refused, hexpire] at h
      · by_cases hmatch : observed = b <;> simp_all [check, checked]
  | rerunRequired v b review =>
      by_cases hexpire : review.expire now = .expired
      · simp [check, refused, hexpire] at h
      · by_cases hmatch : observed = b <;> simp_all [check, checked]

theorem check_ne_accepted (p : Posture) (observed : Sha256) (now : ℤ)
    (version : ℕ) (truth : Sha256) :
    (p.check observed now).answer ≠ .accepted version truth := by
  cases p with
  | unseen => simp [check, checked]
  | baselineMissing v => simp [check, checked]
  | baselineActive v b =>
      by_cases hmatch : observed = b <;> simp [check, checked, hmatch]
  | actionRequired v b review =>
      by_cases hexpire : review.expire now = .expired <;>
        by_cases hmatch : observed = b <;>
        simp [check, checked, refused, hexpire, hmatch]
  | rerunRequired v b review =>
      by_cases hexpire : review.expire now = .expired <;>
        by_cases hmatch : observed = b <;>
        simp [check, checked, refused, hexpire, hmatch]

theorem createBaseline_ne_accepted (p : Posture) (truth : Sha256)
    (decisionGrade : Bool) (version : ℕ) (truth' : Sha256) :
    (p.createBaseline truth decisionGrade).answer ≠ .accepted version truth' := by
  cases p <;> cases decisionGrade <;> simp [createBaseline, seen, refused]

/-- An accept is either refused or goes through. -/
theorem serve_accept_answer (p : Posture) (e : Evidence) (raw : AcceptBody)
    (now : ℤ) :
    (p.serve (.accept e raw now)).answer = .refused ∨
      ∃ version truth,
        (p.serve (.accept e raw now)).answer = .accepted version truth := by
  cases hparse : parseAcceptEvidenceInput raw now with
  | error message => simp [serve, hparse, refused]
  | ok body =>
      simp only [serve, hparse, accept]
      split
      · split
        · exact .inr ⟨_, _, rfl⟩
        · exact .inl rfl
      · exact .inl rfl

/-- A move is an accept only out of an open drift, with its version and its
baseline hash. -/
theorem serve_accepted {p : Posture} {r : Request} {version : ℕ}
    {truth : Sha256} (h : (p.serve r).answer = .accepted version truth) :
    ∃ e raw now body v b review, r = .accept e raw now ∧
      parseAcceptEvidenceInput raw now = .ok body ∧
      p = .actionRequired v b review ∧ body.lifecycleStateVersion = v ∧
      body.expectedProjectionHash = b.hex ∧
      isDecisionGradeRunKind e.outcomeCertificate.runKind = true ∧
      (p.serve r).next = .rerunRequired (v + 1) e.materialTruthSha256
        (.accepted body.exceptionReviewBy) := by
  cases r with
  | createBaseline e now => exact absurd h (createBaseline_ne_accepted _ _ _ _ _)
  | check e now => exact absurd h (check_ne_accepted _ _ _ _ _)
  | accept e raw now =>
      cases hparse : parseAcceptEvidenceInput raw now with
      | error message => simp [serve, hparse, refused] at h
      | ok body =>
          simp only [serve, hparse] at h ⊢
          cases p with
          | actionRequired v b review =>
              by_cases hguard : body.lifecycleStateVersion = v ∧
                  body.expectedProjectionHash = b.hex ∧
                  isDecisionGradeRunKind e.outcomeCertificate.runKind = true
              · exact ⟨e, raw, now, body, v, b, review, rfl, hparse, rfl,
                  hguard.1, hguard.2.1, hguard.2.2, by
                    simp [accept, seen, hguard]⟩
              · simp [accept, seen, hguard, refused] at h
          | unseen => simp [accept, seen, refused] at h
          | baselineMissing v => simp [accept, seen, refused] at h
          | baselineActive v b => simp [accept, seen, refused] at h
          | rerunRequired v b review => simp [accept, seen, refused] at h

/-- Only an accept leaves an open drift. -/
theorem serve_of_actionRequired {v : ℕ} {b : Sha256} {review : Review}
    (r : Request)
    (h : ∀ version truth,
      ((actionRequired v b review).serve r).answer ≠ .accepted version truth) :
    ((actionRequired v b review).serve r).next.state = .actionRequired := by
  cases r with
  | createBaseline e now => rfl
  | check e now =>
      by_cases hexpire : review.expire now = .expired <;>
        by_cases hmatch : e.materialTruthSha256 = b <;>
        simp [serve, check, checked, refused, hexpire, hmatch]
  | accept e raw now =>
      cases hparse : parseAcceptEvidenceInput raw now with
      | error message => simp [serve, hparse, refused]
      | ok body =>
          by_cases hguard : body.lifecycleStateVersion = v ∧
              body.expectedProjectionHash = b.hex ∧
              isDecisionGradeRunKind e.outcomeCertificate.runKind = true
          · simp [serve, hparse, accept, seen, hguard] at h
          · simp [serve, hparse, accept, seen, hguard, refused]

/-- A drift is open because it already was, or because a check answered with
its version and compared with its baseline hash. -/
theorem serve_into_actionRequired {p : Posture} {r : Request} {v : ℕ}
    {b : Sha256} {review : Review}
    (h : (p.serve r).next = .actionRequired v b review) :
    ((∃ review', p = .actionRequired v b review') ∧
        (p.serve r).answer = .refused) ∨
      p.baseline = some b ∧ ∃ e now reason expected, r = .check e now ∧
        reason.opensDrift = true ∧
        (p.serve r).answer = .checked reason .decisionBlocked v expected := by
  cases r with
  | createBaseline e now =>
      cases p <;>
        cases hgrade : isDecisionGradeRunKind e.outcomeCertificate.runKind <;>
        simp_all [serve, createBaseline, seen, refused]
  | check e now =>
      cases p with
      | unseen => simp [serve, check, checked] at h
      | baselineMissing v => simp [serve, check, checked] at h
      | baselineActive v b =>
          by_cases hmatch : e.materialTruthSha256 = b <;>
            simp_all [serve, check, checked]
      | actionRequired v₀ b₀ review₀ =>
          by_cases hexpire : review₀.expire now = .expired <;>
            by_cases hmatch : e.materialTruthSha256 = b₀ <;>
            simp_all [serve, check, checked, refused]
      | rerunRequired v₀ b₀ review₀ =>
          by_cases hexpire : review₀.expire now = .expired <;>
            by_cases hmatch : e.materialTruthSha256 = b₀ <;>
            simp_all [serve, check, checked, refused]
  | accept e raw now =>
      cases hparse : parseAcceptEvidenceInput raw now with
      | error message => simp_all [serve, refused]
      | ok body =>
          cases p with
          | actionRequired v₀ b₀ review₀ =>
              by_cases hguard : body.lifecycleStateVersion = v₀ ∧
                  body.expectedProjectionHash = b₀.hex ∧
                  isDecisionGradeRunKind e.outcomeCertificate.runKind = true
              · simp [serve, hparse, accept, seen, hguard] at h
              · simp only [serve, hparse, accept, seen, hguard, ↓reduceIte,
                  refused] at h ⊢
                simp_all
          | unseen => simp_all [serve, accept, seen, refused]
          | baselineMissing v => simp_all [serve, accept, seen, refused]
          | baselineActive v b => simp_all [serve, accept, seen, refused]
          | rerunRequired v b review => simp_all [serve, accept, seen, refused]

end Posture

/-! ## The rows behind a posture -/

/-- The answer that a response gives. -/
def Response.answer (r : Response) : Answer :=
  match r.payload with
  | .refused _ _ | .acceptRefused _ _ _ _ => .refused
  | .checkBlocked _ body =>
      .checked body.decisionReasonCode body.decisionState
        body.lifecycleStateVersion none
  | .checkCompleted body _ expected _ _ =>
      .checked body.decisionReasonCode body.decisionState
        body.lifecycleStateVersion expected
  | .baselineCompleted version _ _ actual _ => .established version actual
  | .acceptCompleted version _ accepted _ _ => .accepted version accepted

/-- The legacy event that an `enforcement_event` row is read as. -/
def EventRow.normalized (row : EventRow) : FsmNormalizedEvent :=
  match row.event with
  | .baselineCreated => .legacyBaselineCreated row.actualProjectionHash
  | .checkPass => .legacyCheckPass row.actualProjectionHash
  | .driftDetected =>
      .legacyDriftDetected row.expectedProjectionHash row.actualProjectionHash
  | .driftAccepted => .legacyDriftAccepted row.actualProjectionHash

def LogEntry.normalized : LogEntry → Option FsmNormalizedEvent
  | .event row => some row.normalized
  | _ => none

/-- The enforcement events of a log, in order, as the reducer reads them. -/
def enforcementEvents (log : List LogEntry) : List FsmNormalizedEvent :=
  log.filterMap LogEntry.normalized

@[simp] theorem enforcementEvents_append (l₁ l₂ : List LogEntry) :
    enforcementEvents (l₁ ++ l₂) =
      enforcementEvents l₁ ++ enforcementEvents l₂ :=
  List.filterMap_append

@[simp] theorem enforcementEvents_nil : enforcementEvents [] = [] := rfl

@[simp] theorem enforcementEvents_decision (row : DecisionRow)
    (log : List LogEntry) :
    enforcementEvents (.decision row :: log) = enforcementEvents log := rfl

@[simp] theorem enforcementEvents_transition (row : TransitionRow)
    (log : List LogEntry) :
    enforcementEvents (.transition row :: log) = enforcementEvents log := rfl

@[simp] theorem enforcementEvents_event (row : EventRow) (log : List LogEntry) :
    enforcementEvents (.event row :: log) =
      row.normalized :: enforcementEvents log := rfl

/-- The baseline columns and the acceptance row that a review stands for. -/
def Review.Holds (db : EnforcementDb) (row : BaselineRow) : Review → Prop
  | .settled => row.activeAcceptanceId = none ∧ row.needsRebaseline = false
  | .accepted reviewBy =>
      row.needsRebaseline = false ∧
        ∃ id acc, row.activeAcceptanceId = some id ∧
          db.row (.acceptance id) = some acc ∧ acc.exceptionReviewBy = reviewBy
  | .expired => row.activeAcceptanceId = none ∧ row.needsRebaseline = true

theorem Review.Holds.needs {db : EnforcementDb} {row : BaselineRow}
    {review : Review} (h : review.Holds db row) (hne : review ≠ .expired) :
    row.needsRebaseline = false := by
  cases review with
  | settled => exact h.2
  | accepted reviewBy => exact h.1
  | expired => exact absurd rfl hne

def BaselineIs (db : EnforcementDb) (hash : Sha256) (review : Review) : Prop :=
  ∃ row : BaselineRow, db.row .baseline = some row ∧
    row.projectionHash = hash ∧ review.Holds db row

def LifecycleIs (db : EnforcementDb) (state : LifecycleState) (version : ℕ)
    (pending : Option Sha256) : Prop :=
  ∃ row : LifecycleRow, db.row .lifecycle = some row ∧
    row.currentState = state ∧ row.stateVersion = version ∧
    row.pendingAcceptProjectionHash = pending

def Posture.Rows (db : EnforcementDb) : Posture → Prop
  | unseen => db.row .baseline = none ∧ db.row .lifecycle = none
  | baselineMissing v =>
      db.row .baseline = none ∧ LifecycleIs db .baselineMissing v none
  | baselineActive v b =>
      BaselineIs db b .settled ∧ LifecycleIs db .baselineActive v none
  | actionRequired v b review =>
      BaselineIs db b review ∧ LifecycleIs db .actionRequired v (some b)
  | rerunRequired v b review =>
      BaselineIs db b review ∧ LifecycleIs db .rerunRequired v none

/-- The rows of `db` are those of posture `p`, and the identifiers still to be
drawn are not in use. -/
structure Represents (db : EnforcementDb) (p : Posture) : Prop where
  rows : p.Rows db
  unused : ∀ id, db.nextId ≤ id → db.row (.acceptance id) = none

section Rows

variable {db : EnforcementDb} {p : Posture}

theorem Represents.lifecycle (h : Represents db p) {life : LifecycleRow}
    (hlife : db.row .lifecycle = some life) :
    life.currentState = p.state ∧ life.stateVersion = p.version ∧
      life.pendingAcceptProjectionHash = p.pending := by
  have hrow : ∀ {state version pending},
      LifecycleIs db state version pending →
        life.currentState = state ∧ life.stateVersion = version ∧
          life.pendingAcceptProjectionHash = pending := by
    rintro state version pending ⟨row, hrow, hrest⟩
    obtain rfl : life = row := by simpa [hlife] using hrow
    exact hrest
  obtain ⟨hrows, -⟩ := h
  cases p with
  | unseen => simp [hrows.2] at hlife
  | baselineMissing v => exact hrow hrows.2
  | baselineActive v b => exact hrow hrows.2
  | actionRequired v b review => exact hrow hrows.2
  | rerunRequired v b review => exact hrow hrows.2

/-- The baseline row behind a posture that has one. -/
theorem Represents.baselineIs (h : Represents db p) {hash : Sha256}
    (hbase : p.baseline = some hash) : BaselineIs db hash p.review := by
  obtain ⟨hrows, -⟩ := h
  cases p with
  | unseen => simp at hbase
  | baselineMissing v => simp at hbase
  | baselineActive v b => simpa [← Option.some.inj hbase] using hrows.1
  | actionRequired v b review => simpa [← Option.some.inj hbase] using hrows.1
  | rerunRequired v b review => simpa [← Option.some.inj hbase] using hrows.1

theorem Represents.baseline (h : Represents db p) :
    (db.row .baseline).map (·.projectionHash) = p.baseline := by
  have hrow : ∀ {hash review}, BaselineIs db hash review →
      (db.row .baseline).map (·.projectionHash) = some hash := by
    rintro hash review ⟨row, hrow, hhash, -⟩
    simp [hrow, hhash]
  obtain ⟨hrows, -⟩ := h
  cases p with
  | unseen => simp [hrows.1]
  | baselineMissing v => simp [hrows.1]
  | baselineActive v b => exact hrow hrows.1
  | actionRequired v b review => exact hrow hrows.1
  | rerunRequired v b review => exact hrow hrows.1

/-- A posture that has been seen has a lifecycle row. -/
theorem Represents.exists_lifecycle (h : Represents db p)
    (hp : p ≠ .unseen) : ∃ life, db.row .lifecycle = some life := by
  obtain ⟨hrows, -⟩ := h
  cases p with
  | unseen => exact absurd rfl hp
  | baselineMissing v => exact hrows.2.imp fun _ hrow => hrow.1
  | baselineActive v b => exact hrows.2.imp fun _ hrow => hrow.1
  | actionRequired v b review => exact hrows.2.imp fun _ hrow => hrow.1
  | rerunRequired v b review => exact hrows.2.imp fun _ hrow => hrow.1

end Rows

theorem represents_emptyAccount : Represents emptyAccount .unseen :=
  ⟨⟨rfl, rfl⟩, fun _ _ => rfl⟩

end AgentSkeptic.Hosted
