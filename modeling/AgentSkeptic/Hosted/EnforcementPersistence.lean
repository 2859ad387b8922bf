import AgentSkeptic.Hosted.VerificationLifecycle
import AgentSkeptic.Support.Machine
import AgentSkeptic.Support.Transaction

/-!
# Persistence of the enforcement lifecycle

The three transactions of `website/src/lib/enforcementFsmPersistence.ts`, for
one user and one workflow, and the request parser of `POST /accept` from
`website/src/lib/enforcementState.ts`.

Of the tables the model keeps the columns that the transactions read or that
describe what a request did.  Free-form JSON columns (`projection`), the
`updated_at` stamps, the evidence links of an acceptance and the funnel records
written by `persistTrustBlockedSideEffects` are left out; no evaluator reads
them.
-/

namespace AgentSkeptic.Hosted

open AgentSkeptic.Support

/-! ## Rows -/

/-- `enforcement_baseline`. -/
structure BaselineRow where
  projectionHash : Sha256
  baselineEvidenceId : Option String
  activeAcceptanceId : Option ℕ
  needsRebaseline : Bool
  acceptedByKeyId : String
  deriving DecidableEq

/-- `enforcement_lifecycle`. -/
structure LifecycleRow where
  currentState : LifecycleState
  stateVersion : ℕ
  pendingAcceptProjectionHash : Option Sha256
  lastTransitionId : Option ℕ
  deriving DecidableEq

/-- `governance_acceptance`. -/
structure AcceptanceRow where
  runId : String
  evidenceId : String
  acceptanceReason : String
  acceptanceOwner : String
  exceptionReviewBy : Option ℤ
  acceptedMaterialTruthSha256 : Sha256
  deriving DecidableEq

inductive StateRelation where
  | matchesExpectations
  | doesNotMatch
  | notEstablished
  deriving DecidableEq, Repr

/-- What the transactions read of an outcome certificate. -/
structure OutcomeCertificate where
  runKind : RunKind
  stateRelation : StateRelation
  detailCodes : List String
  deriving DecidableEq

/-- `enforcement_decision`. -/
structure DecisionRow where
  attemptId : ℕ
  runId : String
  decisionState : DecisionState
  decisionReasonCode : DecisionReasonCode
  lifecycleStateBefore : LifecycleState
  lifecycleStateAfter : LifecycleState
  materialTruthSha256 : Sha256
  certificateSha256 : Sha256
  evidenceId : String
  httpStatus : ℕ
  recommendedAction : String
  automationSafe : Bool
  classificationCode : Option String
  /-- Whether a trust-block fingerprint is stored with the decision. -/
  trustBlocked : Bool
  deriving DecidableEq

inductive FsmEventKind where
  | check
  | baselineCreate
  | acceptDrift
  deriving DecidableEq, Repr

/-- The metadata of a transition or an event. -/
structure EnforcementMetadata where
  attemptId : Option ℕ
  decisionReasonCode : Option DecisionReasonCode
  runKind : Option RunKind
  certificateSha256 : Option Sha256
  governedAcceptanceId : Option ℕ
  acceptanceId : Option ℕ
  deriving DecidableEq

/-- `enforcement_transition`. -/
structure TransitionRow where
  id : ℕ
  runId : String
  eventKind : FsmEventKind
  fromState : LifecycleState
  toState : LifecycleState
  lifecycleStateVersionAfter : ℕ
  expectedProjectionHash : Option String
  actualProjectionHash : Sha256
  evidenceId : String
  metadata : EnforcementMetadata
  deriving DecidableEq

inductive EnforcementEventKind where
  | baselineCreated
  | checkPass
  | driftDetected
  | driftAccepted
  deriving DecidableEq, Repr

/-- `enforcement_event`. -/
structure EventRow where
  runId : String
  event : EnforcementEventKind
  expectedProjectionHash : Option Sha256
  actualProjectionHash : Sha256
  evidenceId : String
  metadata : EnforcementMetadata
  deriving DecidableEq

/-- A row of one of the append-only tables. -/
inductive LogEntry where
  | decision (row : DecisionRow)
  | transition (row : TransitionRow)
  | event (row : EventRow)
  deriving DecidableEq

/-- The unique keys of one user and workflow. -/
inductive EnforcementKey where
  | baseline
  | lifecycle
  | acceptance (id : ℕ)
  deriving DecidableEq

@[reducible] def EnforcementRow : EnforcementKey → Type
  | .baseline => BaselineRow
  | .lifecycle => LifecycleRow
  | .acceptance _ => AcceptanceRow

abbrev EnforcementDb := Db EnforcementKey EnforcementRow LogEntry

abbrev EnforcementTxn := Txn EnforcementKey EnforcementRow LogEntry

/-! ### Statements -/

abbrev selectBaseline : EnforcementTxn (Option BaselineRow) :=
  Txn.selectRow EnforcementKey.baseline

abbrev insertBaseline (row : BaselineRow) : EnforcementTxn Unit :=
  Txn.insertRow EnforcementKey.baseline row

abbrev updateBaseline (f : BaselineRow → Option BaselineRow) :
    EnforcementTxn Bool :=
  Txn.updateRow EnforcementKey.baseline f

abbrev selectLifecycle : EnforcementTxn (Option LifecycleRow) :=
  Txn.selectRow EnforcementKey.lifecycle

abbrev selectLifecycleForUpdate : EnforcementTxn (Option LifecycleRow) :=
  Txn.selectRowForUpdate EnforcementKey.lifecycle

abbrev insertLifecycle (row : LifecycleRow) : EnforcementTxn Unit :=
  Txn.insertRow EnforcementKey.lifecycle row

abbrev updateLifecycle (f : LifecycleRow → Option LifecycleRow) :
    EnforcementTxn Bool :=
  Txn.updateRow EnforcementKey.lifecycle f

abbrev selectAcceptance (id : ℕ) : EnforcementTxn (Option AcceptanceRow) :=
  Txn.selectRow (EnforcementKey.acceptance id)

abbrev insertAcceptance (id : ℕ) (row : AcceptanceRow) : EnforcementTxn Unit :=
  Txn.insertRow (EnforcementKey.acceptance id) row

/-! ## Requests and responses -/

/-- The parsed envelope of a request with the hashes that
`verifyEvidenceHashes` recomputed and the id of the stored evidence row. -/
structure Evidence where
  keyId : String
  runId : String
  outcomeCertificate : OutcomeCertificate
  certificateSha256 : Sha256
  materialTruthSha256 : Sha256
  evidenceId : String
  deriving DecidableEq

/-- The members that `POST /accept` adds to the envelope. -/
structure AcceptBody where
  expectedProjectionHash : String
  lifecycleStateVersion : ℤ
  acceptanceReason : String
  acceptanceOwner : String
  exceptionReviewBy : Option ℤ
  deriving DecidableEq

inductive PassKind where
  | baselineMatch
  | governedAcceptanceActive (acceptanceId : ℕ)
  deriving DecidableEq, Repr

/-- The members that the two answers of a check share. -/
structure CheckBody where
  lifecycleState : LifecycleState
  lifecycleStateVersion : ℕ
  decisionState : DecisionState
  decisionReasonCode : DecisionReasonCode
  attemptId : ℕ
  runId : String
  nextAction : String
  deriving DecidableEq

inductive Payload where
  | refused (code : ResponseCode) (message : String)
  | acceptRefused (code : ResponseCode) (lifecycleState : LifecycleState)
      (lifecycleStateVersion : ℕ) (message : String)
  | checkBlocked (code : ResponseCode) (body : CheckBody)
  | checkCompleted (body : CheckBody) (resultStatus : ResultStatus)
      (expectedProjectionHashForAccept : Option Sha256)
      (actualProjectionHash : Sha256) (passKind : Option PassKind)
  | baselineCompleted (lifecycleStateVersion attemptId : ℕ) (runId : String)
      (actualProjectionHash : Sha256) (nextAction : String)
  | acceptCompleted (lifecycleStateVersion : ℕ) (runId : String)
      (acceptedProjectionHash : Sha256) (acceptanceId : ℕ)
      (nextAction : String)
  deriving DecidableEq

structure Response where
  httpStatus : ℕ
  payload : Payload
  deriving DecidableEq

def refusalResponse (refusal : Refusal) : Response :=
  ⟨refusal.httpStatus, .refused refusal.responseCode refusal.message⟩

/-- The members of an evaluated check. -/
def Response.checkBody? (r : Response) : Option CheckBody :=
  match r.payload with
  | .checkBlocked _ body => some body
  | .checkCompleted body _ _ _ _ => some body
  | _ => none

/-! ## Shared pieces of the transactions -/

structure CertificateClassification where
  classificationCode : String
  recommendedAction : String
  automationSafe : Bool

def classificationFromCert (cert : OutcomeCertificate) :
    CertificateClassification :=
  let codes := cert.detailCodes.filter fun code => code ≠ ""
  let reconcile :=
    cert.stateRelation = .doesNotMatch ∨ cert.runKind ≠ .quickPreview
  { classificationCode := (sortUtf16 codes).head?.getD "UNKNOWN"
    recommendedAction :=
      if reconcile then "reconcile_downstream_state" else "manual_review"
    automationSafe := cert.runKind ≠ .quickPreview && codes.isEmpty }

/-- The baseline columns that an upsert is given; `activeAcceptanceId` is
`none` where the caller leaves it out. -/
structure BaselineUpsert where
  keyId : String
  projectionHash : Sha256
  baselineEvidenceId : Option String
  activeAcceptanceId : Option (Option ℕ)
  needsRebaseline : Option Bool

def BaselineUpsert.newRow (input : BaselineUpsert) : BaselineRow where
  projectionHash := input.projectionHash
  baselineEvidenceId := input.baselineEvidenceId
  activeAcceptanceId := input.activeAcceptanceId.getD none
  needsRebaseline := input.needsRebaseline.getD false
  acceptedByKeyId := input.keyId

def BaselineUpsert.apply (input : BaselineUpsert) (row : BaselineRow) :
    BaselineRow where
  projectionHash := input.projectionHash
  baselineEvidenceId := input.baselineEvidenceId
  activeAcceptanceId := input.activeAcceptanceId.getD row.activeAcceptanceId
  needsRebaseline := input.needsRebaseline.getD false
  acceptedByKeyId := input.keyId

def upsertBaselineTx (input : BaselineUpsert) : EnforcementTxn Unit := do
  match ← selectBaseline with
  | none => insertBaseline input.newRow
  | some _ => do
      let _ ← updateBaseline fun row => some (input.apply row)
      return ()

/-- The repair of a lifecycle row that says `baselineMissing` although the
baseline row was found. -/
def repairLifecycle (version : ℕ) (row : LifecycleRow) : Option LifecycleRow :=
  if row.currentState = .baselineMissing then
    some { row with
      currentState := .baselineActive
      stateVersion := version + 1 }
  else none

def initialLifecycleRow (baselineRowExists : Bool) : LifecycleRow where
  currentState := inferLifecycleFromBaselineExists baselineRowExists
  stateVersion := 0
  pendingAcceptProjectionHash := none
  lastTransitionId := none

def ensureLifecycleRow (baselineRowExists : Bool) :
    EnforcementTxn LifecycleRow := do
  match ← selectLifecycleForUpdate with
  | some row =>
      if row.currentState = .baselineMissing ∧ baselineRowExists then do
        let _ ← updateLifecycle (repairLifecycle row.stateVersion)
        let refreshed ← selectLifecycle
        Txn.expectRow refreshed
      else return row
  | none => do
      insertLifecycle (initialLifecycleRow baselineRowExists)
      let inserted ← selectLifecycleForUpdate
      Txn.expectRow inserted

/-- `UPDATE enforcement_lifecycle ... WHERE state_version = version`. -/
def moveLifecycle (version : ℕ) (state : LifecycleState)
    (pending : Option Sha256) (transitionId : ℕ) (row : LifecycleRow) :
    Option LifecycleRow :=
  if row.stateVersion = version then
    some
      { currentState := state
        stateVersion := version + 1
        pendingAcceptProjectionHash := pending
        lastTransitionId := some transitionId }
  else none

/-! ## `POST /check` -/

/-- `acc?.exceptionReviewBy && now.getTime() >= acc.exceptionReviewBy`. -/
def reviewExpired (now : ℤ) (acc : Option AcceptanceRow) : Bool :=
  match acc.bind (·.exceptionReviewBy) with
  | some reviewBy => reviewBy ≤ now
  | none => false

def expireBaseline (row : BaselineRow) : Option BaselineRow :=
  some { row with needsRebaseline := true, activeAcceptanceId := none }

def clearAcceptance (row : BaselineRow) : Option BaselineRow :=
  some { row with activeAcceptanceId := none }

def checkInput (e : Evidence) (baselineRow : Option BaselineRow)
    (life : LifecycleRow) : CheckEvaluationInput where
  lifecycleBefore := life.currentState
  baselineProjectionHash := baselineRow.map (·.projectionHash)
  baselineRowExists := baselineRow.isSome
  baselineNeedsRebaseline := (baselineRow.map (·.needsRebaseline)).getD false
  observedMaterialTruthSha256 := e.materialTruthSha256

/-- With a baseline row, the verdict is that on its hash. -/
theorem evaluateCheck_checkInput (e : Evidence) (row : BaselineRow)
    {life : LifecycleRow} (h : life.currentState ≠ .baselineMissing) :
    evaluateCheck (checkInput e (some row) life) =
      evaluateCheckAgainst life.currentState row.projectionHash
        e.materialTruthSha256 := by
  simp [evaluateCheck, checkInput, repairedLifecycle, h]

theorem evaluateCheckPreconditions_checkInput (e : Evidence) (row : BaselineRow)
    (life : LifecycleRow) :
    evaluateCheckPreconditions (checkInput e (some row) life) =
      if row.needsRebaseline = true then some rebaseRequired else none := by
  simp [evaluateCheckPreconditions, checkInput]

/-- A check that finds a repaired posture trusts only a match of its baseline,
with no drift open. -/
theorem evaluateCheck_trusted {e : Evidence} {baselineRow : Option BaselineRow}
    {life : LifecycleRow}
    (hpresent : baselineRow.isSome = true →
      life.currentState ≠ .baselineMissing)
    (h : (evaluateCheck (checkInput e baselineRow life)).decisionState =
      .decisionTrusted) :
    ∃ row, baselineRow = some row ∧
      row.projectionHash = e.materialTruthSha256 ∧
      (life.currentState = .baselineActive ∨
        life.currentState = .rerunRequired) := by
  cases baselineRow with
  | none => simp [evaluateCheck, checkInput, checkBaselineMissing] at h
  | some row =>
      rw [evaluateCheck_checkInput e row (hpresent rfl)] at h
      obtain ⟨hmatch, hstate, -⟩ := evaluateCheckAgainst_trusted h
      exact ⟨row, rfl, hmatch.symm, hstate⟩

/-- A check leaves `baselineMissing` only where it found no baseline. -/
theorem evaluateCheck_baselineMissing {e : Evidence}
    {baselineRow : Option BaselineRow} {life : LifecycleRow}
    (hpresent : baselineRow.isSome = true →
      life.currentState ≠ .baselineMissing)
    (h : (evaluateCheck (checkInput e baselineRow life)).lifecycleAfter =
      .baselineMissing) : baselineRow = none := by
  cases baselineRow with
  | none => rfl
  | some row =>
      have hstate := hpresent rfl
      rw [evaluateCheck_checkInput e row hstate] at h
      by_cases hmatch : e.materialTruthSha256 = row.projectionHash <;>
        cases hlife : life.currentState <;>
        simp_all [evaluateCheckAgainst]

/-- The acceptance that a trusted rerun certifies. -/
def governedAcceptance (baselineRow : Option BaselineRow)
    (result : CheckEvaluationOk) : Option ℕ :=
  if result.httpStatus = 200 ∧ result.decisionState = .decisionTrusted ∧
      result.decisionReasonCode = .rerunPass then
    baselineRow.bind (·.activeAcceptanceId)
  else none

def checkEventKind (result : CheckEvaluationOk) : EnforcementEventKind :=
  if result.decisionReasonCode = .checkMatch ∨
      result.decisionReasonCode = .rerunPass then
    .checkPass
  else .driftDetected

def checkDecision (e : Evidence) (life : LifecycleRow)
    (result : CheckEvaluationOk) (attemptId : ℕ) : DecisionRow where
  attemptId := attemptId
  runId := e.runId
  decisionState := result.decisionState
  decisionReasonCode := result.decisionReasonCode
  lifecycleStateBefore := life.currentState
  lifecycleStateAfter := result.lifecycleAfter
  materialTruthSha256 := e.materialTruthSha256
  certificateSha256 := e.certificateSha256
  evidenceId := e.evidenceId
  httpStatus := result.httpStatus
  recommendedAction := result.nextAction
  automationSafe := (classificationFromCert e.outcomeCertificate).automationSafe
  classificationCode :=
    some (classificationFromCert e.outcomeCertificate).classificationCode
  trustBlocked :=
    result.decisionState = .decisionBlocked &&
      result.decisionReasonCode.trustBlocked

def checkTransition (e : Evidence) (baselineRow : Option BaselineRow)
    (life : LifecycleRow) (result : CheckEvaluationOk)
    (attemptId id : ℕ) : TransitionRow where
  id := id
  runId := e.runId
  eventKind := .check
  fromState := life.currentState
  toState := result.lifecycleAfter
  lifecycleStateVersionAfter := life.stateVersion + 1
  expectedProjectionHash := baselineRow.map (·.projectionHash.hex)
  actualProjectionHash := e.materialTruthSha256
  evidenceId := e.evidenceId
  metadata :=
    { attemptId := some attemptId
      decisionReasonCode := some result.decisionReasonCode
      runKind := some e.outcomeCertificate.runKind
      certificateSha256 := none
      governedAcceptanceId := governedAcceptance baselineRow result
      acceptanceId := none }

def checkEvent (e : Evidence) (baselineRow : Option BaselineRow)
    (result : CheckEvaluationOk) (attemptId : ℕ) : EventRow where
  runId := e.runId
  event := checkEventKind result
  expectedProjectionHash := baselineRow.map (·.projectionHash)
  actualProjectionHash := e.materialTruthSha256
  evidenceId := e.evidenceId
  metadata :=
    { attemptId := some attemptId
      decisionReasonCode := none
      runKind := some e.outcomeCertificate.runKind
      certificateSha256 := some e.certificateSha256
      governedAcceptanceId := governedAcceptance baselineRow result
      acceptanceId := none }

def checkBody (e : Evidence) (life : LifecycleRow)
    (result : CheckEvaluationOk) (attemptId : ℕ) : CheckBody where
  lifecycleState := result.lifecycleAfter
  lifecycleStateVersion := life.stateVersion + 1
  decisionState := result.decisionState
  decisionReasonCode := result.decisionReasonCode
  attemptId := attemptId
  runId := e.runId
  nextAction := result.nextAction

def checkPayload (e : Evidence) (baselineRow : Option BaselineRow)
    (life : LifecycleRow) (result : CheckEvaluationOk) (attemptId : ℕ) :
    Payload :=
  if result.httpStatus = 409 then
    .checkBlocked result.responseCode (checkBody e life result attemptId)
  else
    .checkCompleted (checkBody e life result attemptId) result.resultStatus
      (if result.lifecycleAfter = .actionRequired then
        result.pendingAcceptProjectionHash else none)
      e.materialTruthSha256
      (if result.httpStatus = 200 ∧ result.decisionState = .decisionTrusted then
        some
          ((governedAcceptance baselineRow result).elim .baselineMatch
            .governedAcceptanceActive)
      else none)

/-- The writes of an evaluated check. -/
def recordCheck (e : Evidence) (baselineRow : Option BaselineRow)
    (life : LifecycleRow) (result : CheckEvaluationOk) :
    EnforcementTxn Response := do
  let attemptId ← Txn.freshId
  Txn.appendRow (.decision (checkDecision e life result attemptId))
  let transitionId ← Txn.freshId
  Txn.appendRow
    (.transition (checkTransition e baselineRow life result attemptId transitionId))
  let updated ← updateLifecycle
    (moveLifecycle life.stateVersion result.lifecycleAfter
      result.pendingAcceptProjectionHash transitionId)
  if updated then do
    Txn.appendRow (.event (checkEvent e baselineRow result attemptId))
    if (governedAcceptance baselineRow result).isSome then do
      let _ ← updateBaseline clearAcceptance
      return ⟨result.httpStatus, checkPayload e baselineRow life result attemptId⟩
    else
      return ⟨result.httpStatus, checkPayload e baselineRow life result attemptId⟩
  else Txn.fail "lifecycle optimistic lock conflict on enforcement check"

/-- The part of a check after the review-by test. -/
def checkPosture (e : Evidence) (baselineRow : Option BaselineRow) :
    EnforcementTxn Response := do
  let life ← ensureLifecycleRow baselineRow.isSome
  match evaluateCheckPreconditions (checkInput e baselineRow life) with
  | some refusal => return refusalResponse refusal
  | none =>
      recordCheck e baselineRow life (evaluateCheck (checkInput e baselineRow life))

def executeFsmCheck (e : Evidence) (now : ℤ) : EnforcementTxn Response := do
  let baselineRow ← selectBaseline
  match baselineRow.bind (·.activeAcceptanceId) with
  | none => checkPosture e baselineRow
  | some acceptanceId => do
      let acc ← selectAcceptance acceptanceId
      if reviewExpired now acc then do
        -- the early return of an expired review: no lifecycle row is touched
        let _ ← updateBaseline expireBaseline
        return refusalResponse rebaseRequired
      else checkPosture e baselineRow

/-! ## `POST /baselines` -/

def createBaselineUpsert (e : Evidence) : BaselineUpsert where
  keyId := e.keyId
  projectionHash := e.materialTruthSha256
  baselineEvidenceId := some e.evidenceId
  activeAcceptanceId := some none
  needsRebaseline := some false

def createBaselineDecision (e : Evidence) (life : LifecycleRow)
    (verdict : BaselineEvaluationOk) (attemptId : ℕ) : DecisionRow where
  attemptId := attemptId
  runId := e.runId
  decisionState := .decisionTrusted
  decisionReasonCode := .baselineEstablished
  lifecycleStateBefore := life.currentState
  lifecycleStateAfter := .baselineActive
  materialTruthSha256 := e.materialTruthSha256
  certificateSha256 := e.certificateSha256
  evidenceId := e.evidenceId
  httpStatus := 200
  recommendedAction := verdict.nextAction
  automationSafe := false
  classificationCode := none
  trustBlocked := false

def createBaselineTransition (e : Evidence) (life : LifecycleRow)
    (attemptId id : ℕ) : TransitionRow where
  id := id
  runId := e.runId
  eventKind := .baselineCreate
  fromState := life.currentState
  toState := .baselineActive
  lifecycleStateVersionAfter := life.stateVersion + 1
  expectedProjectionHash := none
  actualProjectionHash := e.materialTruthSha256
  evidenceId := e.evidenceId
  metadata := ⟨some attemptId, none, none, none, none, none⟩

def createBaselineEvent (e : Evidence) (attemptId : ℕ) : EventRow where
  runId := e.runId
  event := .baselineCreated
  expectedProjectionHash := none
  actualProjectionHash := e.materialTruthSha256
  evidenceId := e.evidenceId
  metadata :=
    { attemptId := some attemptId
      decisionReasonCode := none
      runKind := some e.outcomeCertificate.runKind
      certificateSha256 := some e.certificateSha256
      governedAcceptanceId := none
      acceptanceId := none }

/-- The writes of an accepted `POST /baselines`. -/
def recordBaseline (e : Evidence) (life : LifecycleRow)
    (verdict : BaselineEvaluationOk) : EnforcementTxn Response := do
  let attemptId ← Txn.freshId
  upsertBaselineTx (createBaselineUpsert e)
  Txn.appendRow (.decision (createBaselineDecision e life verdict attemptId))
  let transitionId ← Txn.freshId
  Txn.appendRow
    (.transition (createBaselineTransition e life attemptId transitionId))
  let updated ← updateLifecycle
    (moveLifecycle life.stateVersion .baselineActive none transitionId)
  if updated then do
    Txn.appendRow (.event (createBaselineEvent e attemptId))
    return ⟨200,
      .baselineCompleted (life.stateVersion + 1) attemptId e.runId
        e.materialTruthSha256 verdict.nextAction⟩
  else Txn.fail "lifecycle optimistic lock conflict on baseline create"

def executeFsmCreateBaseline (e : Evidence) : EnforcementTxn Response := do
  let baselineRow ← selectBaseline
  let life ← ensureLifecycleRow baselineRow.isSome
  match evaluateCreateBaseline life.currentState
      e.outcomeCertificate.runKind with
  | .error refusal => return refusalResponse refusal
  | .ok verdict => recordBaseline e life verdict

/-! ## `POST /accept` -/

def acceptUpsert (e : Evidence) (acceptanceId : ℕ) : BaselineUpsert where
  keyId := e.keyId
  projectionHash := e.materialTruthSha256
  baselineEvidenceId := some e.evidenceId
  activeAcceptanceId := some (some acceptanceId)
  needsRebaseline := some false

def acceptanceRow (e : Evidence) (body : AcceptBody) : AcceptanceRow where
  runId := e.runId
  evidenceId := e.evidenceId
  acceptanceReason := body.acceptanceReason
  acceptanceOwner := body.acceptanceOwner
  exceptionReviewBy := body.exceptionReviewBy
  acceptedMaterialTruthSha256 := e.materialTruthSha256

def acceptMetadata (e : Evidence) (acceptanceId : ℕ) : EnforcementMetadata where
  attemptId := none
  decisionReasonCode := none
  runKind := some e.outcomeCertificate.runKind
  certificateSha256 := some e.certificateSha256
  governedAcceptanceId := none
  acceptanceId := some acceptanceId

def acceptTransition (e : Evidence) (body : AcceptBody) (life : LifecycleRow)
    (acceptanceId id : ℕ) : TransitionRow where
  id := id
  runId := e.runId
  eventKind := .acceptDrift
  fromState := .actionRequired
  toState := .rerunRequired
  lifecycleStateVersionAfter := life.stateVersion + 1
  expectedProjectionHash := some body.expectedProjectionHash
  actualProjectionHash := e.materialTruthSha256
  evidenceId := e.evidenceId
  metadata := acceptMetadata e acceptanceId

/-- The event stores the expected hash of the request, which an accept that
gets here has compared with the pending one. -/
def acceptEvent (e : Evidence) (life : LifecycleRow) (acceptanceId : ℕ) :
    EventRow where
  runId := e.runId
  event := .driftAccepted
  expectedProjectionHash := life.pendingAcceptProjectionHash
  actualProjectionHash := e.materialTruthSha256
  evidenceId := e.evidenceId
  metadata := acceptMetadata e acceptanceId

/-- The answer to a refused accept: `BAD_REQUEST` carries no posture. -/
def acceptRefusal (life : LifecycleRow) (refusal : Refusal) : Response :=
  if refusal.responseCode = .badRequest then refusalResponse refusal
  else
    ⟨refusal.httpStatus,
      .acceptRefused refusal.responseCode life.currentState life.stateVersion
        refusal.message⟩

/-- The writes of a successful accept. -/
def recordAccept (e : Evidence) (body : AcceptBody) (life : LifecycleRow)
    (verdict : AcceptEvaluationOk) : EnforcementTxn Response := do
  let acceptanceId ← Txn.freshId
  insertAcceptance acceptanceId (acceptanceRow e body)
  upsertBaselineTx (acceptUpsert e acceptanceId)
  let transitionId ← Txn.freshId
  Txn.appendRow
    (.transition (acceptTransition e body life acceptanceId transitionId))
  let updated ← updateLifecycle
    (moveLifecycle life.stateVersion .rerunRequired none transitionId)
  if updated then do
    Txn.appendRow (.event (acceptEvent e life acceptanceId))
    return ⟨200,
      .acceptCompleted (life.stateVersion + 1) e.runId e.materialTruthSha256
        acceptanceId verdict.nextAction⟩
  else Txn.fail "lifecycle optimistic lock conflict on drift accept"

def acceptInput (e : Evidence) (body : AcceptBody) (life : LifecycleRow) :
    AcceptEvaluationInput where
  lifecycleBefore := life.currentState
  lifecycleStateVersion := life.stateVersion
  requestLifecycleVersion := some body.lifecycleStateVersion
  requestExpectedProjectionHash := some body.expectedProjectionHash
  pendingAcceptProjectionHash := life.pendingAcceptProjectionHash
  runKind := e.outcomeCertificate.runKind

def executeFsmAcceptDrift (e : Evidence) (body : AcceptBody) :
    EnforcementTxn Response := do
  let baselineRow ← selectBaseline
  let life ← ensureLifecycleRow baselineRow.isSome
  match evaluateAccept (acceptInput e body life) with
  | .error refusal => return acceptRefusal life refusal
  | .ok verdict => recordAccept e body life verdict

/-! ## The request parser of `POST /accept` -/

def parseExceptionReviewBy (raw : Option ℤ) (now : ℤ) :
    Except String (Option ℤ) :=
  match raw with
  | none => .ok none
  | some reviewBy =>
      if reviewBy ≤ now then
        .error "exception_review_by must be strictly in the future."
      else .ok (some reviewBy)

/-- The members that `POST /accept` adds, trimmed and checked in the order of
the code. -/
def parseAcceptEvidenceInput (raw : AcceptBody) (now : ℤ) :
    Except String AcceptBody :=
  let expected := jsTrim raw.expectedProjectionHash
  let reason := jsTrim raw.acceptanceReason
  let owner := jsTrim raw.acceptanceOwner
  if expected = "" then
    .error
      "Missing governance evidence fields or accept requirements: expected_projection_hash and lifecycle_state_version."
  else if reason = "" then .error "Missing acceptance_reason."
  else if owner = "" then .error "Missing acceptance_owner."
  else
    match parseExceptionReviewBy raw.exceptionReviewBy now with
    | .error message => .error message
    | .ok reviewBy =>
        .ok
          { expectedProjectionHash := expected
            lifecycleStateVersion := raw.lifecycleStateVersion
            acceptanceReason := reason
            acceptanceOwner := owner
            exceptionReviewBy := reviewBy }

/-- What a parsed accept keeps of the body it came from. -/
theorem parseAcceptEvidenceInput_ok {raw body : AcceptBody} {now : ℤ}
    (h : parseAcceptEvidenceInput raw now = .ok body) :
    body.lifecycleStateVersion = raw.lifecycleStateVersion ∧
      body.expectedProjectionHash = jsTrim raw.expectedProjectionHash ∧
      body.exceptionReviewBy = raw.exceptionReviewBy ∧
      ∀ t, raw.exceptionReviewBy = some t → now < t := by
  simp only [parseAcceptEvidenceInput] at h
  split at h
  · simp at h
  split at h
  · simp at h
  split at h
  · simp at h
  cases hreview : raw.exceptionReviewBy with
  | none =>
      simp only [hreview, parseExceptionReviewBy, Except.ok.injEq] at h
      subst h
      simp
  | some t =>
      by_cases hpast : t ≤ now
      · simp [hreview, parseExceptionReviewBy, hpast] at h
      · simp only [hreview, parseExceptionReviewBy, hpast, ↓reduceIte,
          Except.ok.injEq] at h
        subst h
        simpa using hpast

/-! ## Serving requests one at a time -/

/-- A request with the clock that its handler reads. -/
inductive Request where
  | createBaseline (e : Evidence) (now : ℤ)
  | check (e : Evidence) (now : ℤ)
  | accept (e : Evidence) (raw : AcceptBody) (now : ℤ)

def Request.evidence : Request → Evidence
  | .createBaseline e _ | .check e _ | .accept e _ _ => e

def Request.now : Request → ℤ
  | .createBaseline _ now | .check _ now | .accept _ _ now => now

def badRequest (message : String) : Response :=
  ⟨400, .refused .badRequest message⟩

/-- The transaction of a request; a body that does not parse is answered
without one. -/
def Request.transaction : Request → EnforcementTxn Response
  | .createBaseline e _ => executeFsmCreateBaseline e
  | .check e now => executeFsmCheck e now
  | .accept e raw now =>
      match parseAcceptEvidenceInput raw now with
      | .error message => return badRequest message
      | .ok body => executeFsmAcceptDrift e body

/-- Serve one request alone. -/
def serveRequest (db : EnforcementDb) (r : Request) :
    EnforcementDb × Except String Response :=
  r.transaction.serveAlone db

abbrev EnforcementTurn := Turn EnforcementDb Request (Except String Response)

/-- The account before its first request. -/
def emptyAccount : EnforcementDb := Db.empty

/-- The database after a run from an empty account. -/
def accountAfter (rs : List Request) : EnforcementDb :=
  finish serveRequest emptyAccount rs

/-- The turns of a run from an empty account. -/
def accountTurns (rs : List Request) : List EnforcementTurn :=
  turns serveRequest emptyAccount rs

end AgentSkeptic.Hosted
