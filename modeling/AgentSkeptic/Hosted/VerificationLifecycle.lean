import AgentSkeptic.Support.JsString
import Mathlib.Data.BitVec
import Mathlib.Tactic.IntervalCases

/-!
# The hosted enforcement lifecycle

The pure evaluators of `website/src/lib/verificationLifecycle.ts`: what a
`POST /check`, `POST /baselines` or `POST /accept` request decides from the
current posture, and the reducer `applyFsmNormalizedEvent` that replays the
enforcement events of a workflow.

A material-truth hash is a SHA-256 digest.  The code keeps it as a hexadecimal
string; the model keeps the digest, and `Sha256.hex_injective` is what makes
the two comparisons the same.
-/

namespace AgentSkeptic.Hosted

open AgentSkeptic.Support

/-! ## Digests -/

/-- A SHA-256 digest. -/
structure Sha256 where
  digest : BitVec 256
  deriving DecidableEq, Repr

namespace Sha256

/-- One lower-case hexadecimal digit. -/
def hexDigit (n : ℕ) : Char :=
  if n < 10 then Char.ofNat (48 + n) else Char.ofNat (87 + n)

/-- The `i`th group of four bits. -/
def nibble (h : Sha256) (i : ℕ) : ℕ := h.digest.toNat / 16 ^ i % 16

/-- The digest as `digest("hex")` prints it. -/
def hex (h : Sha256) : String :=
  String.ofList ((List.range 64).reverse.map fun i => hexDigit (h.nibble i))

theorem hexDigit_visible {n : ℕ} (hn : n < 16) :
    isJsWhitespace (hexDigit n) = false := by
  interval_cases n <;> decide

theorem hex_visible (h : Sha256) {c : Char} (hc : c ∈ h.hex.toList) :
    isJsWhitespace c = false := by
  rw [hex, String.toList_ofList, List.mem_map] at hc
  obtain ⟨i, -, rfl⟩ := hc
  exact hexDigit_visible (Nat.mod_lt _ (by decide))

/-- Trimming a printed digest changes nothing. -/
theorem jsTrim_hex (h : Sha256) : jsTrim h.hex = h.hex :=
  jsTrim_of_visible fun _ hc => h.hex_visible hc

/-- A printed digest is not blank. -/
theorem jsTrim_hex_ne_empty (h : Sha256) : jsTrim h.hex ≠ "" := by
  have hmem : hexDigit (h.nibble 0) ∈ h.hex.toList := by
    rw [hex, String.toList_ofList, List.mem_map]
    exact ⟨0, by simp, rfl⟩
  exact jsTrim_ne_empty hmem (h.hex_visible hmem)

end Sha256

/-! ## Postures, verdicts and codes -/

inductive LifecycleState where
  | baselineMissing
  | baselineActive
  | actionRequired
  | rerunRequired
  deriving DecidableEq, Repr

inductive DecisionState where
  | decisionTrusted
  | decisionBlocked
  deriving DecidableEq, Repr

/-- Reason codes persisted with an enforcement decision. -/
inductive DecisionReasonCode where
  | baselineMissing
  | baselineEstablished
  | checkMatch
  | driftDetected
  | rerunPass
  | rerunFail
  | remediationAckRequired
  | historicalUnmappable
  deriving DecidableEq, Repr

/-- Membership in `TRUST_BLOCKED_REASON_CODES`. -/
def DecisionReasonCode.trustBlocked : DecisionReasonCode → Bool
  | .baselineMissing | .driftDetected | .rerunFail
  | .remediationAckRequired => true
  | _ => false

inductive ResultStatus where
  | matched
  | drift
  | rerunPass
  | rerunFail
  deriving DecidableEq, Repr

inductive ResponseCode where
  | completed
  | enforceBaselineRequired
  | enforceInvalidTransition
  | enforceStaleStateVersion
  | enforceExpectedHashMismatch
  | enforceRemediationAckRequired
  | enforceDecisionGradeRequired
  | enforceBaselineRebaseRequired
  | badRequest
  deriving DecidableEq, Repr

/-- `runKind` of an outcome certificate. -/
inductive RunKind where
  | contractSql
  | contractSqlLanggraphCheckpointTrust
  | quickPreview
  deriving DecidableEq, Repr

/-- Baseline authorisation: contract run kinds only. -/
def isDecisionGradeRunKind : RunKind → Bool
  | .contractSql | .contractSqlLanggraphCheckpointTrust => true
  | .quickPreview => false

/-- Posture when the lifecycle row is absent. -/
def inferLifecycleFromBaselineExists (baselineRowExists : Bool) :
    LifecycleState :=
  if baselineRowExists then .baselineActive else .baselineMissing

/-! ## `POST /check` -/

structure CheckEvaluationInput where
  lifecycleBefore : LifecycleState
  baselineProjectionHash : Option Sha256
  baselineRowExists : Bool
  baselineNeedsRebaseline : Bool
  observedMaterialTruthSha256 : Sha256

structure CheckEvaluationOk where
  lifecycleAfter : LifecycleState
  decisionState : DecisionState
  decisionReasonCode : DecisionReasonCode
  httpStatus : ℕ
  responseCode : ResponseCode
  resultStatus : ResultStatus
  /-- Set when drifting into `actionRequired`. -/
  pendingAcceptProjectionHash : Option Sha256
  nextAction : String
  deriving DecidableEq

/-- A refusal before any lifecycle decision: status, code and message. -/
structure Refusal where
  httpStatus : ℕ
  responseCode : ResponseCode
  message : String
  deriving DecidableEq

def rebaseRequired : Refusal where
  httpStatus := 409
  responseCode := .enforceBaselineRebaseRequired
  message :=
    "Baseline must be recreated with evidence-native enforce before drift checks can run."

/-- The `needs_rebaseline` guard in front of the lifecycle decision. -/
def evaluateCheckPreconditions (input : CheckEvaluationInput) :
    Option Refusal :=
  if input.baselineRowExists && input.baselineNeedsRebaseline then
    some rebaseRequired
  else none

/-- The blocked answer given when there is no baseline. -/
def checkBaselineMissing : CheckEvaluationOk where
  lifecycleAfter := .baselineMissing
  decisionState := .decisionBlocked
  decisionReasonCode := .baselineMissing
  httpStatus := 409
  responseCode := .enforceBaselineRequired
  resultStatus := .drift
  pendingAcceptProjectionHash := none
  nextAction := "Run enforce with --create-baseline before POST /check."

/-- The lifecycle a check starts from: with a baseline row it is never
`baselineMissing`. -/
def repairedLifecycle (input : CheckEvaluationInput) : LifecycleState :=
  if input.lifecycleBefore = .baselineMissing ∧ input.baselineRowExists ∧
      input.baselineProjectionHash.isSome then
    .baselineActive
  else input.lifecycleBefore

/-- The decision once the baseline hash is known. -/
def evaluateCheckAgainst (lifecycleBefore : LifecycleState)
    (baseline actual : Sha256) : CheckEvaluationOk :=
  match lifecycleBefore with
  | .baselineMissing => checkBaselineMissing
  | .baselineActive =>
      if actual = baseline then
        { lifecycleAfter := .baselineActive
          decisionState := .decisionTrusted
          decisionReasonCode := .checkMatch
          httpStatus := 200
          responseCode := .completed
          resultStatus := .matched
          pendingAcceptProjectionHash := none
          nextAction := "No remediation required." }
      else
        { lifecycleAfter := .actionRequired
          decisionState := .decisionBlocked
          decisionReasonCode := .driftDetected
          httpStatus := 200
          responseCode := .completed
          resultStatus := .drift
          pendingAcceptProjectionHash := some baseline
          nextAction :=
            "Drift detected. Review evidence, reconcile or accept with POST /enforce accept after matching expected_projection_hash_for_accept." }
  | .actionRequired =>
      if actual = baseline then
        { lifecycleAfter := .actionRequired
          decisionState := .decisionBlocked
          decisionReasonCode := .remediationAckRequired
          httpStatus := 409
          responseCode := .enforceRemediationAckRequired
          resultStatus := .matched
          pendingAcceptProjectionHash := some baseline
          nextAction :=
            "Material truth matches baseline; record acknowledgement via POST /accept before returning to baseline_active." }
      else
        { lifecycleAfter := .actionRequired
          decisionState := .decisionBlocked
          decisionReasonCode := .driftDetected
          httpStatus := 200
          responseCode := .completed
          resultStatus := .drift
          pendingAcceptProjectionHash := some baseline
          nextAction :=
            "Drift still present. Continue remediation then POST /accept with expected_projection_hash_for_accept." }
  | .rerunRequired =>
      if actual = baseline then
        { lifecycleAfter := .baselineActive
          decisionState := .decisionTrusted
          decisionReasonCode := .rerunPass
          httpStatus := 200
          responseCode := .completed
          resultStatus := .rerunPass
          pendingAcceptProjectionHash := none
          nextAction :=
            "Rerun succeeded; posture returned to baseline_active." }
      else
        { lifecycleAfter := .actionRequired
          decisionState := .decisionBlocked
          decisionReasonCode := .rerunFail
          httpStatus := 200
          responseCode := .completed
          resultStatus := .rerunFail
          pendingAcceptProjectionHash := some baseline
          nextAction :=
            "Rerun verification still mismatched. Reconcile and POST /accept with expected_projection_hash_for_accept." }

def evaluateCheck (input : CheckEvaluationInput) : CheckEvaluationOk :=
  match input.baselineRowExists, input.baselineProjectionHash with
  | true, some baseline =>
      evaluateCheckAgainst (repairedLifecycle input) baseline
        input.observedMaterialTruthSha256
  | _, _ => checkBaselineMissing

/-- A trusted verdict means that the observed hash is the baseline hash and
that no acknowledgement was outstanding. -/
theorem evaluateCheckAgainst_trusted {life : LifecycleState}
    {baseline actual : Sha256}
    (h : (evaluateCheckAgainst life baseline actual).decisionState =
      .decisionTrusted) :
    actual = baseline ∧ (life = .baselineActive ∨ life = .rerunRequired) ∧
      (evaluateCheckAgainst life baseline actual).lifecycleAfter =
        .baselineActive := by
  by_cases hmatch : actual = baseline
  · subst hmatch
    cases life <;> simp_all [evaluateCheckAgainst, checkBaselineMissing]
  · cases life <;>
      simp [evaluateCheckAgainst, checkBaselineMissing, hmatch] at h

/-! ## `POST /baselines` -/

structure BaselineEvaluationOk where
  lifecycleAfter : LifecycleState
  decisionReasonCode : DecisionReasonCode
  httpStatus : ℕ
  responseCode : ResponseCode
  nextAction : String

def baselineEstablished : BaselineEvaluationOk where
  lifecycleAfter := .baselineActive
  decisionReasonCode := .baselineEstablished
  httpStatus := 200
  responseCode := .completed
  nextAction := "Baseline established. Subsequent checks use POST /check."

def evaluateCreateBaseline (lifecycleBefore : LifecycleState)
    (runKind : RunKind) : Except Refusal BaselineEvaluationOk :=
  if lifecycleBefore ≠ .baselineMissing then
    .error
      { httpStatus := 409
        responseCode := .enforceInvalidTransition
        message :=
          "POST /baselines is only permitted when lifecycle_state is baseline_missing. Use POST /accept and POST /check to advance after drift." }
  else if !isDecisionGradeRunKind runKind then
    .error
      { httpStatus := 409
        responseCode := .enforceDecisionGradeRequired
        message :=
          "Evidence run_kind must be contract_sql or contract_sql_langgraph_checkpoint_trust for authoritative baseline establishment." }
  else .ok baselineEstablished

/-! ## `POST /accept` -/

/-- The request parser lets only integers through as
`lifecycle_state_version`, so the version is an integer or null. -/
structure AcceptEvaluationInput where
  lifecycleBefore : LifecycleState
  lifecycleStateVersion : ℕ
  requestLifecycleVersion : Option ℤ
  requestExpectedProjectionHash : Option String
  pendingAcceptProjectionHash : Option Sha256
  runKind : RunKind

structure AcceptEvaluationOk where
  lifecycleAfter : LifecycleState
  httpStatus : ℕ
  responseCode : ResponseCode
  nextAction : String

def driftAcknowledged : AcceptEvaluationOk where
  lifecycleAfter := .rerunRequired
  httpStatus := 200
  responseCode := .completed
  nextAction :=
    "Drift acknowledged; rerun POST /check to certify against updated baseline projection."

def acceptInvalidTransition : Refusal where
  httpStatus := 409
  responseCode := .enforceInvalidTransition
  message := "POST /accept requires lifecycle_state action_required."

def acceptMissingVersion : Refusal where
  httpStatus := 400
  responseCode := .badRequest
  message := "Missing lifecycle_state_version."

def acceptStaleVersion : Refusal where
  httpStatus := 409
  responseCode := .enforceStaleStateVersion
  message := "lifecycle_state_version does not match current server posture."

def acceptMissingHash : Refusal where
  httpStatus := 400
  responseCode := .badRequest
  message := "Missing expected_projection_hash."

def acceptHashMismatch : Refusal where
  httpStatus := 409
  responseCode := .enforceExpectedHashMismatch
  message :=
    "expected_projection_hash must match expected_projection_hash_for_accept from the open drift POST /check response."

def acceptNotDecisionGrade : Refusal where
  httpStatus := 409
  responseCode := .enforceDecisionGradeRequired
  message := "Accept requires decision-grade outcome_certificate.run_kind."

/-- The guards of an accept, in the order of the code: posture, version
present, version current, hash present, hash equal to the pending one,
decision-grade evidence. -/
def evaluateAccept (input : AcceptEvaluationInput) :
    Except Refusal AcceptEvaluationOk :=
  if input.lifecycleBefore ≠ .actionRequired then .error acceptInvalidTransition
  else
    match input.requestLifecycleVersion with
    | none => .error acceptMissingVersion
    | some version =>
        if version ≠ input.lifecycleStateVersion then .error acceptStaleVersion
        else
          let expected := input.requestExpectedProjectionHash.getD ""
          if jsTrim expected = "" then .error acceptMissingHash
          else
            match input.pendingAcceptProjectionHash with
            | none => .error acceptHashMismatch
            | some pending =>
                if expected ≠ pending.hex then .error acceptHashMismatch
                else if !isDecisionGradeRunKind input.runKind then
                  .error acceptNotDecisionGrade
                else .ok driftAcknowledged

/-- An accept goes through exactly when all its guards hold. -/
theorem evaluateAccept_ok_iff (input : AcceptEvaluationInput)
    (verdict : AcceptEvaluationOk) :
    evaluateAccept input = .ok verdict ↔
      input.lifecycleBefore = .actionRequired ∧
      input.requestLifecycleVersion = some (input.lifecycleStateVersion : ℤ) ∧
      (∃ pending, input.pendingAcceptProjectionHash = some pending ∧
        input.requestExpectedProjectionHash = some pending.hex) ∧
      isDecisionGradeRunKind input.runKind = true ∧
      verdict = driftAcknowledged := by
  obtain ⟨life, current, version, expected, pending, runKind⟩ := input
  by_cases hlife : life = .actionRequired
  · cases version with
    | none => simp [evaluateAccept, hlife]
    | some version =>
        by_cases hversion : version = current
        · cases pending with
          | none =>
              by_cases htrim : jsTrim (expected.getD "") = "" <;>
                simp [evaluateAccept, hlife, hversion, htrim]
          | some pending =>
              have hpending := pending.jsTrim_hex_ne_empty
              have hblank : pending.hex ≠ "" := by
                intro h
                exact hpending (by rw [h]; rfl)
              cases expected with
              | none => simp [evaluateAccept, hlife, hversion, jsTrim, trimChars]
              | some expected =>
                  by_cases hhash : expected = pending.hex
                  · cases hgrade : isDecisionGradeRunKind runKind <;>
                      simp [evaluateAccept, hlife, hversion, hhash, hpending,
                        hgrade, eq_comm]
                  · by_cases htrim : jsTrim expected = "" <;>
                      simp [evaluateAccept, hlife, hversion, hhash, htrim]
        · simp [evaluateAccept, hlife, hversion]
  · simp [evaluateAccept, hlife]

/-! ## Replay of the enforcement events -/

inductive FsmNormalizedEvent where
  | legacyBaselineCreated (materialTruthSha256 : Sha256)
  | legacyCheckPass (materialTruthSha256 : Sha256)
  /-- The stored expected hash is null when the check found no baseline. -/
  | legacyDriftDetected (expectedBaselineHash : Option Sha256)
      (actualTruthSha256 : Sha256)
  | legacyDriftAccepted (acceptedTruthSha256 : Sha256)
  deriving DecidableEq, Repr

structure FsmReplayState where
  lifecycle : LifecycleState
  baselineHash : Option Sha256
  pendingAcceptHash : Option Sha256
  deriving DecidableEq, Repr

/-- `none` is the fatal `HISTORICAL_UNMAPPABLE` result. -/
abbrev FsmReplayResult := Option FsmReplayState

/-- Replay of a passed check. -/
def replayCheckPass (prev : FsmReplayState) (actual : Sha256) :
    FsmReplayResult :=
  match prev.baselineHash with
  | none => some { prev with lifecycle := .baselineMissing }
  | some baseline =>
      match prev.lifecycle with
      | .actionRequired =>
          if actual ≠ baseline then
            some { prev with
              lifecycle := .actionRequired
              pendingAcceptHash := some baseline }
          -- a match here without a recorded accept cannot be mapped
          else none
      | .rerunRequired | .baselineActive =>
          if actual = baseline then
            some { prev with
              lifecycle := .baselineActive
              pendingAcceptHash := none }
          else
            some { prev with
              lifecycle := .actionRequired
              pendingAcceptHash := some baseline }
      | .baselineMissing => some { prev with lifecycle := .baselineMissing }

/-- Replay one legacy event toward the derived posture. -/
def applyFsmNormalizedEvent (prev : FsmReplayState) :
    FsmNormalizedEvent → FsmReplayResult
  | .legacyBaselineCreated truth =>
      some
        { lifecycle := .baselineActive
          baselineHash := some truth
          pendingAcceptHash := none }
  | .legacyDriftAccepted truth =>
      some
        { lifecycle := .rerunRequired
          baselineHash := some truth
          pendingAcceptHash := none }
  | .legacyCheckPass truth => replayCheckPass prev truth
  | .legacyDriftDetected expected _ =>
      some { prev with
        lifecycle := .actionRequired
        pendingAcceptHash := expected.or prev.baselineHash }

/-- Replay a whole event log. -/
def replayEvents (start : FsmReplayState) :
    List FsmNormalizedEvent → FsmReplayResult
  | [] => some start
  | ev :: evs => (applyFsmNormalizedEvent start ev).bind (replayEvents · evs)

theorem replayEvents_append (start : FsmReplayState)
    (evs evs' : List FsmNormalizedEvent) :
    replayEvents start (evs ++ evs') =
      (replayEvents start evs).bind (replayEvents · evs') := by
  induction evs generalizing start with
  | nil => rfl
  | cons ev evs ih =>
      simp only [List.cons_append, replayEvents]
      cases applyFsmNormalizedEvent start ev with
      | none => rfl
      | some next => simpa using ih next

end AgentSkeptic.Hosted
