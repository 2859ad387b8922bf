import AgentSkeptic.Report.FailureAnalysis

/-!
# Actionable failures

`deriveActionableFailureWorkflow` of `actionableFailure.ts`: the category of a failure and
what to do about it, from the first evidence of its analysis.  The tables are object
literals, read with `[..]`.
-/

namespace AgentSkeptic.Report

open AgentSkeptic.Support AgentSkeptic.Engine

/-! ## Categories and actions -/

inductive ActionableFailureCategory where
  | decisionError | badInput | retrievalFailure | controlFlowProblem | stateInconsistency
  | downstreamExecutionFailure | ambiguous | unclassified
  deriving DecidableEq

def ActionableFailureCategory.text : ActionableFailureCategory → String
  | decisionError => "decision_error"
  | badInput => "bad_input"
  | retrievalFailure => "retrieval_failure"
  | controlFlowProblem => "control_flow_problem"
  | stateInconsistency => "state_inconsistency"
  | downstreamExecutionFailure => "downstream_execution_failure"
  | ambiguous => "ambiguous"
  | unclassified => "unclassified"

inductive ActionableFailureSeverity where
  | high | medium | low
  deriving DecidableEq

def ActionableFailureSeverity.text : ActionableFailureSeverity → String
  | high => "high"
  | medium => "medium"
  | low => "low"

/-- The actions that the tables of workflows name. -/
inductive RecommendedActionCode where
  | manualReview | deduplicate | reconcileDownstreamState | correctVerificationInputs
  | improveReadConnectivity | resolveMultiEffectFailures | alignToolObservations
  | fixEventIngestAndSteps | fixEventSequenceOrder | fixRunContextControls
  | fixVerificationDatabaseConnection
  deriving DecidableEq

def RecommendedActionCode.text : RecommendedActionCode → String
  | manualReview => "manual_review"
  | deduplicate => "deduplicate"
  | reconcileDownstreamState => "reconcile_downstream_state"
  | correctVerificationInputs => "correct_verification_inputs"
  | improveReadConnectivity => "improve_read_connectivity"
  | resolveMultiEffectFailures => "resolve_multi_effect_failures"
  | alignToolObservations => "align_tool_observations"
  | fixEventIngestAndSteps => "fix_event_ingest_and_steps"
  | fixEventSequenceOrder => "fix_event_sequence_order"
  | fixRunContextControls => "fix_run_context_controls"
  | fixVerificationDatabaseConnection => "fix_verification_database_connection"

structure RemediationRow where
  recommendedAction : RecommendedActionCode
  automationSafe : Bool
  deriving DecidableEq

def manualRemediation : RemediationRow := ⟨.manualReview, false⟩

structure ActionableFailure where
  category : Found ActionableFailureCategory
  severity : ActionableFailureSeverity
  remediation : Found RemediationRow

/-- `String(row.recommendedAction)`; what is inherited has no such member. -/
def recommendedActionText : Found RemediationRow → String
  | .own row => row.recommendedAction.text
  | .inherited _ => "undefined"

/-- `String(row.automationSafe)`. -/
def automationSafeText : Found RemediationRow → String
  | .own row => if row.automationSafe then "true" else "false"
  | .inherited _ => "undefined"

/-! ## Tables -/

def eventSequenceToCategory : List (String × ActionableFailureCategory) :=
  [("CAPTURE_ORDER_NOT_MONOTONIC_IN_SEQ", .controlFlowProblem),
    ("TIMESTAMP_NOT_MONOTONIC_WITH_SEQ_SORT_ORDER", .controlFlowProblem)]

def runContextCodeToCategory : List (String × ActionableFailureCategory) :=
  [("RETRIEVAL_ERROR", .retrievalFailure), ("MODEL_TURN_ERROR", .decisionError),
    ("MODEL_TURN_ABORTED", .decisionError), ("MODEL_TURN_INCOMPLETE", .decisionError),
    ("CONTROL_INTERRUPT", .decisionError), ("CONTROL_BRANCH_SKIPPED", .controlFlowProblem),
    ("CONTROL_GATE_SKIPPED", .controlFlowProblem), ("TOOL_SKIPPED", .controlFlowProblem)]

def fixEventIngest : RemediationRow := ⟨.fixEventIngestAndSteps, false⟩

def eventSequenceCodeToRemediation : List (String × RemediationRow) :=
  eventSequenceToCategory.map fun entry => (entry.1, ⟨.fixEventSequenceOrder, false⟩)

def runContextCodeToRemediation : List (String × RemediationRow) :=
  runContextCodeToCategory.map fun entry => (entry.1, ⟨.fixRunContextControls, false⟩)

def planRuleCodes : List String :=
  ["PLAN_RULE_ROW_KIND_MISMATCH", "PLAN_RULE_FORBIDDEN_ROW",
    "PLAN_RULE_REQUIRED_ROW_MISSING", "PLAN_RULE_ALLOWLIST_VIOLATION",
    "PLAN_RULE_RENAME_MISMATCH"]

/-- Codes of a state that is not the expected one, without that of duplicate rows. -/
def stateCodes : List String :=
  ["ROW_ABSENT", "RELATED_ROWS_ABSENT", "RELATIONAL_EXPECTATION_MISMATCH", "VALUE_MISMATCH",
    "ROW_PRESENT_WHEN_FORBIDDEN", "ORPHAN_ROW_DETECTED", "VECTOR_NOT_FOUND",
    "VECTOR_METADATA_MISMATCH", "VECTOR_PAYLOAD_MISMATCH", "OBJECT_MISSING",
    "OBJECT_DIGEST_MISMATCH", "OBJECT_SIZE_MISMATCH", "OBJECT_METADATA_MISMATCH",
    "HTTP_WITNESS_STATUS_MISMATCH", "HTTP_WITNESS_ASSERTION_MISMATCH",
    "MONGO_DOCUMENT_MISSING", "MONGO_VALUE_MISMATCH"] ++ planRuleCodes

/-- Codes of reads that did not succeed, without that of the connector. -/
def readCodes : List String :=
  ["RELATIONAL_SCALAR_UNUSABLE", "FORBIDDEN_ROWS_STILL_PRESENT_WITHIN_WINDOW",
    "ROW_NOT_OBSERVED_WITHIN_WINDOW", "MULTI_EFFECT_UNCERTAIN_WITHIN_WINDOW",
    "ROW_SHAPE_MISMATCH", "UNREADABLE_VALUE", "VECTOR_PROVIDER_ERROR",
    "HTTP_WITNESS_NETWORK_ERROR", "BOUNDED_WINDOW_EXPIRED_WITHOUT_OBSERVATION"]

/-- Codes of inputs, without that of witnesses beside a database file. -/
def inputCodes : List String :=
  ["UNKNOWN_TOOL", "MULTI_EFFECT_INCOMPLETE", "STATE_WITNESS_SETUP_ERROR",
    "OBJECT_TOO_LARGE_FOR_HASH", "BOUNDED_MODE_UNSUPPORTED_FOR_CONNECTOR"] ++
  resolveFailureCodes

def noReasonCodes : List String := [stepNoReasonCode, testBlockingCode]

def multiEffectFailureCodes : List String :=
  ["MULTI_EFFECT_PARTIAL", "MULTI_EFFECT_ALL_FAILED"]

def sqliteFileModeCode : String := "STATE_WITNESS_UNAVAILABLE_IN_SQLITE_FILE_MODE"

def stepCodeToCategory : List (String × ActionableFailureCategory) :=
  [("RETRY_OBSERVATIONS_DIVERGE", .decisionError)] ++
  ("DUPLICATE_ROWS" :: stateCodes).map (·, .stateInconsistency) ++
  ("CONNECTOR_ERROR" :: (readCodes ++ multiEffectFailureCodes)).map
    (·, .downstreamExecutionFailure) ++
  (sqliteFileModeCode :: inputCodes).map (·, .badInput) ++
  ("CONNECTOR_UNSUPPORTED_IN_SCOPE" :: noReasonCodes).map (·, .controlFlowProblem)

def stepCodeToRemediation : List (String × RemediationRow) :=
  [("RETRY_OBSERVATIONS_DIVERGE", ⟨.alignToolObservations, false⟩),
    ("DUPLICATE_ROWS", ⟨.deduplicate, false⟩),
    ("CONNECTOR_ERROR", ⟨.improveReadConnectivity, true⟩),
    (sqliteFileModeCode, ⟨.fixVerificationDatabaseConnection, false⟩),
    ("CONNECTOR_UNSUPPORTED_IN_SCOPE", ⟨.manualReview, false⟩)] ++
  stateCodes.map (·, ⟨.reconcileDownstreamState, false⟩) ++
  readCodes.map (·, ⟨.improveReadConnectivity, false⟩) ++
  multiEffectFailureCodes.map (·, ⟨.resolveMultiEffectFailures, false⟩) ++
  inputCodes.map (·, ⟨.correctVerificationInputs, false⟩) ++
  noReasonCodes.map (·, fixEventIngest)

/-! ## One item of evidence -/

def classifyRunLevelItem (codes : List String) : ActionableFailureCategory :=
  if "MALFORMED_EVENT_LINE" ∈ codes then .badInput
  else if "NO_STEPS_FOR_WORKFLOW" ∈ codes then .controlFlowProblem
  else if testBlockingCode ∈ codes then .controlFlowProblem
  else .unclassified

def classifyRunContextItem (codes : List String) : Found ActionableFailureCategory :=
  (codes.findSome? (lookUp runContextCodeToCategory)).getD (.own .unclassified)

def classifyEventSequenceItem (codes : List String) : ActionableFailureCategory :=
  if codes.any (isIn eventSequenceToCategory) then .controlFlowProblem else .unclassified

def classifyStepOrEffectItem (codes : List String) : Found ActionableFailureCategory :=
  match codes.head? with
  | none => .own .unclassified
  | some primary =>
      if isIn runLevelCodeToOrigin primary then .own (classifyRunLevelItem codes)
      else (lookUp stepCodeToCategory primary).getD (.own .unclassified)

def remediationForRunLevelItem (codes : List String) : RemediationRow :=
  if "MALFORMED_EVENT_LINE" ∈ codes then fixEventIngest
  else if "NO_STEPS_FOR_WORKFLOW" ∈ codes then fixEventIngest
  else if testBlockingCode ∈ codes then fixEventIngest
  else manualRemediation

/-- The row of the first code that the table has. -/
def remediationForItem (table : List (String × RemediationRow)) (codes : List String) :
    Found RemediationRow :=
  (codes.findSome? (lookUp table)).getD (.own manualRemediation)

def remediationForRunContextItem : List String → Found RemediationRow :=
  remediationForItem runContextCodeToRemediation

def remediationForEventSequenceItem : List String → Found RemediationRow :=
  remediationForItem eventSequenceCodeToRemediation

def remediationForStepOrEffectItem (codes : List String) : Found RemediationRow :=
  match codes.head? with
  | none => .own manualRemediation
  | some primary =>
      if isIn runLevelCodeToOrigin primary ∧ ¬ isIn reasonCodeToOrigin primary then
        .own (remediationForRunLevelItem codes)
      else (lookUp stepCodeToRemediation primary).getD (.own manualRemediation)

/-! ## The failure -/

/-- Every scope is classified, so that the first evidence decides. -/
def deriveRemediationFromEvidence (fa : FailureAnalysisBase) : Found RemediationRow :=
  match fa.evidence with
  | [] => .own manualRemediation
  | ev :: _ =>
      let codes := ev.codes.getD []
      match ev.scope with
      | .runLevel => .own (remediationForRunLevelItem codes)
      | .runContext => remediationForRunContextItem codes
      | .eventSequence => remediationForEventSequenceItem codes
      | .step | .effect => remediationForStepOrEffectItem codes

def deriveActionableCategory (fa : FailureAnalysisBase) : Found ActionableFailureCategory :=
  if fa.unknownReasonCodes.length > 0 then .own .unclassified
  else if (fa.alternativeHypotheses.getD []).length > 0 then .own .ambiguous
  else if fa.confidence = .low then .own .ambiguous
  else
    match fa.evidence with
    | [] => .own .unclassified
    | ev :: _ =>
        let codes := ev.codes.getD []
        match ev.scope with
        | .runLevel => .own (classifyRunLevelItem codes)
        | .runContext => classifyRunContextItem codes
        | .eventSequence => .own (classifyEventSequenceItem codes)
        | .step | .effect => classifyStepOrEffectItem codes

def deriveSeverityWorkflow (engine : WorkflowEngineResult) : ActionableFailureSeverity :=
  if engine.status = .inconsistent then .high
  else if engine.steps.any fun s =>
      s.status = .missing ∨ s.status = .inconsistent ∨ s.status = .partiallyVerified then
    .high
  else .medium

def deriveActionableFailureWorkflow (engine : WorkflowEngineResult)
    (fa : FailureAnalysisBase) : ActionableFailure :=
  let severity := deriveSeverityWorkflow engine
  match deriveActionableCategory fa with
  | .own .ambiguous => ⟨.own .ambiguous, severity, .own manualRemediation⟩
  | .own .unclassified => ⟨.own .unclassified, severity, .own manualRemediation⟩
  | category => ⟨category, severity, deriveRemediationFromEvidence fa⟩

end AgentSkeptic.Report
