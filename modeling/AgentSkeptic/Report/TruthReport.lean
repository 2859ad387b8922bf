import AgentSkeptic.Report.PathFindings
import AgentSkeptic.Report.ReconciliationPresentation
import AgentSkeptic.Support.Fallible

/-!
# The truth report

`workflowTruthReport.ts`: the report that is built from the result of the engine, and the
text in which it is shown.  The text is a list of lines, of which some take what an event,
a registry or a database says as it is.
-/

namespace AgentSkeptic.Report

open AgentSkeptic.Support AgentSkeptic.Engine AgentSkeptic.Events

/-! ## Phrases -/

def OutcomeLabel.text : OutcomeLabel → String
  | verified => "VERIFIED"
  | failedRowMissing => "FAILED_ROW_MISSING"
  | failedValueMismatch => "FAILED_VALUE_MISMATCH"
  | incompleteCannotVerify => "INCOMPLETE_CANNOT_VERIFY"
  | partiallyVerified => "PARTIALLY_VERIFIED"
  | uncertainNotObservedWithinWindow => "UNCERTAIN_NOT_OBSERVED_WITHIN_WINDOW"

def humanReportResultPhrase : OutcomeLabel → String
  | .verified => "Matched registry-backed expected state."
  | .failedRowMissing =>
      "Expected state at the verification target was not found (for example a missing row " ++
        "or absent witness result)."
  | .failedValueMismatch => "State was observed, but required values do not match."
  | .incompleteCannotVerify =>
      "This step could not be fully verified (registry, connector, or data shape issue)."
  | .partiallyVerified => "Some intended registry effects matched; others did not."
  | .uncertainNotObservedWithinWindow =>
      "The expected state did not appear within the verification window."

def humanReportPlanTransitionPhrase : OutcomeLabel → String
  | .verified => "Matched declared plan rules for the git transition."
  | .failedRowMissing =>
      "Expected git change implied by the plan rule was not observed in the diff."
  | .failedValueMismatch => "A plan-validation rule failed against the git diff."
  | .incompleteCannotVerify =>
      "This step could not be fully verified (plan or git diff processing issue)."
  | .partiallyVerified => "Some plan rules matched; others did not."
  | .uncertainNotObservedWithinWindow =>
      "The git transition could not be fully confirmed within the configured window."

/-- `STEP_STATUS_TRUTH_LABELS`. -/
def StepStatus.truthLabel : StepStatus → OutcomeLabel
  | .verified => .verified
  | .missing => .failedRowMissing
  | .inconsistent => .failedValueMismatch
  | .incompleteVerification => .incompleteCannotVerify
  | .partiallyVerified => .partiallyVerified
  | .uncertain => .uncertainNotObservedWithinWindow

/-- `EFFECT_STATUS_TRUTH_LABELS`: the statuses of reconcilers only. -/
def effectTruthLabel (status : String) : Option OutcomeLabel :=
  ownValue [("verified", .verified), ("missing", .failedRowMissing),
    ("inconsistent", .failedValueMismatch),
    ("incomplete_verification", .incompleteCannotVerify)] status

def FailureDiagnostic.text : FailureDiagnostic → String
  | .workflowExecution => "workflow_execution"
  | .verificationSetup => "verification_setup"
  | .observationUncertainty => "observation_uncertainty"

def trustLineByStatus : WorkflowStatus → String
  | .complete =>
      "TRUSTED: Every step matched registry-backed expected state under the configured " ++
        "verification rules."
  | .incomplete =>
      "NOT TRUSTED: Verification is incomplete; the workflow cannot be fully confirmed."
  | .inconsistent =>
      "NOT TRUSTED: At least one step failed verification against expected downstream " ++
        "state (determinate failure)."

def trustLineByStatusPlanTransition : WorkflowStatus → String
  | .complete => "TRUSTED: Every plan-validation rule passed against the git diff."
  | .incomplete =>
      "NOT TRUSTED: Plan validation is incomplete; the transition cannot be fully confirmed."
  | .inconsistent =>
      "NOT TRUSTED: At least one plan-validation rule failed against the git diff " ++
        "(determinate failure)."

def trustLineUncertainWithinWindow : String :=
  "NOT TRUSTED: At least one step could not be confirmed within the verification window " ++
    "(expected state not observed; replication or processing delay is possible)."

def trustLineEventSequenceIrregularSuffix : String :=
  "Event capture or timestamps were irregular; verification used seq-sorted order. See " ++
    "event_sequence below."

/-- The only failures are steps that were not observed within the window. -/
def onlyUncertain (engine : WorkflowEngineResult) : Bool :=
  engine.status = .incomplete ∧ engine.runLevelReasons.length = 0 ∧
    engine.steps.any (·.status = .uncertain) ∧
    ¬ engine.steps.any fun s =>
      s.status = .missing ∨ s.status = .inconsistent ∨ s.status = .partiallyVerified ∨
        s.status = .incompleteVerification

def trustLineBaseForEngine (engine : WorkflowEngineResult) : String :=
  if onlyUncertain engine then trustLineUncertainWithinWindow
  else if engine.workflowId = planTransitionWorkflowId then
    trustLineByStatusPlanTransition engine.status
  else trustLineByStatus engine.status

def trustSummaryForEngine (engine : WorkflowEngineResult) : String :=
  match engine.eventSequenceIntegrity with
  | .irregular _ =>
      trustLineBaseForEngine engine ++ " " ++ trustLineEventSequenceIrregularSuffix
  | .normal => trustLineBaseForEngine engine

/-! ## Building the report -/

def sanitizeOneLineId (value : String) : String :=
  String.ofList (replaceLineBreaks '_' value.toList)

structure TruthIssue where
  code : String
  message : String
  category : FailureDiagnostic

inductive TruthEventSequence where
  | normal
  | irregular (issues : List TruthIssue)

structure FailureAnalysis extends FailureAnalysisBase where
  actionableFailure : ActionableFailure

structure WorkflowTruthReport extends TruthOutline where
  workflowId : String
  runLevelIssues : List TruthIssue
  eventSequence : TruthEventSequence
  failureAnalysis : Option FailureAnalysis
  executionPathFindings : List ExecutionPathFinding
  executionPathSummary : String
  failureExplanation : Option FailureExplanationV1
  correctnessDefinition : Option CorrectnessDefinitionV1

def copyReason (r : Reason) : Reason := { r with field := r.field.filter (· ≠ "") }

/-- A reason of an effect row, of which the type promises that it is one. -/
def effectReason (reason : Json) : Except ReportError Reason := do
  let code ← reasonText "code" reason
  let message ← reasonText "message" reason
  match reason.member "field" with
  | .undefined => .ok { code, message }
  | .json (.str field) => .ok (copyReason { code, message, field := some field })
  | _ => .error .typeError

/-- A row of the evidence with the status of a reconciler. -/
def parseEffectEvidenceRow (row : Json) : Option (EvidenceRow × OutcomeLabel) := do
  let row ← evidenceRow? row
  let label ← effectTruthLabel row.status
  some (row, label)

def truthEffect (entry : EvidenceRow × OutcomeLabel) :
    Except ReportError WorkflowTruthEffect := do
  let reasons ← entry.1.reasons.mapM effectReason
  .ok { id := sanitizeOneLineId entry.1.id, outcomeLabel := entry.2, reasons }

def truthEffects (evidenceSummary : List (String × Json)) :
    Except ReportError (List WorkflowTruthEffect) :=
  match ownMember evidenceSummary "effects" with
  | some (.arr raw) => (raw.filterMap parseEffectEvidenceRow).mapM truthEffect
  | _ => .ok []

/-- The category of a step that is not verified. -/
def stepCategory (s : StepOutcome) : Except ReportError (Option FailureDiagnostic) :=
  if s.status = .verified then .ok none
  else
    match s.failureDiagnostic with
    | some category => .ok (some category)
    | none =>
        match failureDiagnosticForStep s.status s.reasons with
        | .ok category => .ok category
        | .error message => .error (.other message)

def buildTruthStep (tables : TextTables) (s : StepOutcome) :
    Except ReportError WorkflowTruthStep := do
  let observedStateSummary ← formatBatchObservedStateSummary s
  let failureCategory ← stepCategory s
  let effects ← truthEffects s.evidenceSummary
  .ok
    { seq := s.seq
      toolId := s.toolId
      releaseCritical := s.releaseCritical
      outcomeLabel := StepStatus.truthLabel s.status
      evaluatedOrdinal := s.evaluatedObservationOrdinal
      repeatCount := s.repeatObservationCount
      reasons := s.reasons.map copyReason
      intendedEffect := oneLine s.intendedEffect
      observedExecution := oneLine s.observedExecution
      failureCategory
      verifyTarget := formatVerificationTargetSummary tables s.verificationRequest
      observedStateSummary
      effects := if effects.length > 0 then some effects else none }

/-- `failureDiagnosticForRunLevelCode`. -/
def runLevelIssue (r : Reason) : TruthIssue :=
  { code := r.code, message := r.message, category := .workflowExecution }

/-- `EVENT_SEQUENCE_CODES`. -/
def eventSequenceCodes : List String := eventSequenceCodeToOrigin.map Prod.fst

def failureDiagnosticForEventSequenceCode (code : String) :
    Except ReportError FailureDiagnostic :=
  if code ∈ eventSequenceCodes then .ok .workflowExecution
  else
    .error (.other
      ("Unknown event-sequence reason code for failure diagnostic map: " ++ code))

def eventSequenceIssue (r : Reason) : Except ReportError TruthIssue := do
  let category ← failureDiagnosticForEventSequenceCode r.code
  .ok { code := r.code, message := r.message, category }

def truthEventSequence : EventSequenceIntegrity → Except ReportError TruthEventSequence
  | .normal => .ok .normal
  | .irregular reasons => do
      let issues ← reasons.mapM eventSequenceIssue
      .ok (.irregular issues)

section Build

variable (tables : TextTables)

/-- The definition, where there are an explanation and an analysis. -/
def truthCorrectness (engine : WorkflowEngineResult)
    (failureExplanation : Option FailureExplanationV1)
    (failureAnalysis : Option FailureAnalysis) (steps : List WorkflowTruthStep) :
    Except ReportError (Option CorrectnessDefinitionV1) :=
  match failureExplanation, failureAnalysis with
  | some fe, some fa => do
      let definition ← buildWorkflowCorrectnessDefinition tables engine fe
        fa.toFailureAnalysisBase fa.actionableFailure steps
      .ok (some definition)
  | _, _ => .ok none

variable {tables} in
theorem truthCorrectness_filled {engine : WorkflowEngineResult}
    {fe : Option FailureExplanationV1} {fa : Option FailureAnalysis}
    {steps : List WorkflowTruthStep} {cd : CorrectnessDefinitionV1}
    (h : truthCorrectness tables engine fe fa steps = .ok (some cd)) : Filled cd := by
  rw [truthCorrectness.eq_def] at h
  split at h
  · obtain ⟨definition, hdefinition, hsome⟩ := bind_eq_ok.mp h
    obtain rfl := Option.some.inj (Except.ok.inj hsome)
    exact buildWorkflowCorrectnessDefinition_filled hdefinition
  · exact absurd (Except.ok.inj h) nofun

def buildWorkflowTruthReport (engine : WorkflowEngineResult) :
    Except ReportError WorkflowTruthReport := do
  let eventSequence ← truthEventSequence engine.eventSequenceIntegrity
  let failureAnalysisBase ← buildFailureAnalysis tables engine
  let failureAnalysis := failureAnalysisBase.map fun fa =>
    { fa with actionableFailure := deriveActionableFailureWorkflow engine fa }
  let executionPathFindings ← buildExecutionPathFindings tables engine
  let executionPathSummary := buildExecutionPathSummary tables executionPathFindings
    engine.verificationRunContext.maxWireSchemaVersion
  let steps ← engine.steps.mapM (buildTruthStep tables)
  let outline : TruthOutline :=
    { trustSummary := trustSummaryForEngine engine, workflowStatus := engine.status, steps }
  let failureExplanation ← buildFailureExplanation tables engine outline
  let correctnessDefinition ← truthCorrectness tables engine failureExplanation
    failureAnalysis steps
  .ok
    { outline with
      workflowId := engine.workflowId
      runLevelIssues := engine.runLevelReasons.map runLevelIssue
      eventSequence
      failureAnalysis
      executionPathFindings
      executionPathSummary
      failureExplanation
      correctnessDefinition }

variable {tables} in
theorem buildWorkflowTruthReport_filled {engine : WorkflowEngineResult}
    {truth : WorkflowTruthReport} (h : buildWorkflowTruthReport tables engine = .ok truth) :
    ∀ cd ∈ truth.correctnessDefinition, Filled cd := by
  obtain ⟨eventSequence, -, h⟩ := bind_eq_ok.mp h
  obtain ⟨base, -, h⟩ := bind_eq_ok.mp h
  obtain ⟨findings, -, h⟩ := bind_eq_ok.mp h
  obtain ⟨steps, -, h⟩ := bind_eq_ok.mp h
  obtain ⟨explanation, -, h⟩ := bind_eq_ok.mp h
  obtain ⟨correctness, hcorrectness, h⟩ := bind_eq_ok.mp h
  obtain rfl := Except.ok.inj h
  rintro cd rfl
  exact truthCorrectness_filled hcorrectness

end Build

/-! ## The lines of the report -/

/-- The parts that an item of evidence has. -/
def optionalPart (label : String) (value : Option String) : List String :=
  value.toList.map fun v => label ++ v

/-- `msg.trim()`, or that there is none. -/
def humanMessage (message : String) : String :=
  if jsTrim message = "" then "(no message)" else jsTrim message

def findingParts (pf : ExecutionPathFinding) : List String :=
  ["code=" ++ sanitizeOneLineId pf.code, "severity=" ++ pf.severity.text,
    "concern=" ++ pf.concernCategory.text, "scope=" ++ pf.evidence.scope.text] ++
  optionalPart "codes=" (pf.evidence.codes.map (",".intercalate ·)) ++
  optionalPart "ingest_index=" (pf.evidence.ingestIndex.map seqText) ++
  optionalPart "seq=" (pf.evidence.seq.map seqText) ++
  optionalPart "tool=" (pf.evidence.toolId.map sanitizeOneLineId) ++
  optionalPart "source=" (pf.evidence.source.map sanitizeOneLineId)

def findingLines (pf : ExecutionPathFinding) : List String :=
  ["  - path_finding: " ++ " ".intercalate (findingParts pf),
    "    detail: " ++
      jsTrim (String.ofList (replaceLineBreaks ' ' pf.message.toList))]

def evidenceParts (ev : FailureAnalysisEvidenceItem) : List String :=
  ["scope=" ++ ev.scope.text] ++
  optionalPart "codes=" (ev.codes.map (",".intercalate ·)) ++
  optionalPart "ingest_index=" (ev.ingestIndex.map seqText) ++
  optionalPart "seq=" (ev.seq.map seqText) ++
  optionalPart "tool=" (ev.toolId.map sanitizeOneLineId) ++
  optionalPart "effect_id=" (ev.effectId.map sanitizeOneLineId) ++
  optionalPart "source=" (ev.source.map sanitizeOneLineId)

def evidenceLine (ev : FailureAnalysisEvidenceItem) : String :=
  "  - evidence: " ++ " ".intercalate (evidenceParts ev)

def alternativeLines (alt : FailureAnalysisAlternative) : List String :=
  ["  alternative_origin: " ++ alt.primaryOrigin.text, "    rationale: " ++ alt.rationale]

def actionableFailureLine (a : ActionableFailure) : String :=
  "  actionable_failure: " ++ ("category=" ++ a.category.text ActionableFailureCategory.text ++
    " severity=" ++ a.severity.text ++ " recommended_action=" ++
    recommendedActionText a.remediation ++ " automation_safe=" ++
    automationSafeText a.remediation)

def diagnosisLines (d : FailureAnalysis) : List String :=
  ["diagnosis:", "  summary: " ++ d.summary,
    "  primary_origin: " ++ d.primaryOrigin.text FailureOrigin.text,
    "  confidence: " ++ d.confidence.text, actionableFailureLine d.actionableFailure] ++
  d.evidence.map evidenceLine ++
  (d.alternativeHypotheses.getD []).flatMap alternativeLines

def factLine (id value : String) : String := "  - id=" ++ (id ++ " value=" ++ value)

def explanationLines (fe : FailureExplanationV1) : List String :=
  ["failure_explanation:", "expected: " ++ fe.expected, "observed: " ++ fe.observed,
    "divergence: " ++ fe.divergence, "known_facts:"] ++
  fe.knownFacts.map (fun kf => factLine kf.1.text kf.2) ++
  ["unknowns:"] ++ fe.unknowns.map fun u => factLine u.1.text u.2

def correctnessLines (cd : CorrectnessDefinitionV1) : List String :=
  ["correctness_definition:", "  enforcement_kind: " ++ cd.enforcementKind.text,
    "  must_always_hold: " ++ cd.mustAlwaysHold, "  enforce_as:"] ++
  cd.enforceAs.map (fun line => "    - " ++ line) ++
  ["  enforceable_projection: " ++ cd.enforceableProjection.stringify,
    "  remediation_alignment: " ++ ("recommended_action=" ++
      recommendedActionText cd.remediationAlignment ++ " automation_safe=" ++
      automationSafeText cd.remediationAlignment)]

section Lines

variable (tables : TextTables)

def issueLines (r : TruthIssue) : List String :=
  ["  - detail: " ++ humanMessage r.message,
    "    category: " ++ FailureDiagnostic.text r.category,
    "    reference_code: " ++ r.code,
    "    user_meaning: " ++ userPhraseForReasonCode tables r.code]

def runLevelLines (issues : List TruthIssue) : List String :=
  if issues.length = 0 then ["run_level: (none)"]
  else "run_level:" :: issues.flatMap (issueLines tables)

def eventSequenceLines : TruthEventSequence → List String
  | .normal => ["event_sequence: normal"]
  | .irregular issues =>
      "event_sequence: irregular" :: issues.flatMap (issueLines tables)

/-- The detail of a reason, with its field. -/
def reasonDetail (r : Reason) : String :=
  humanMessage r.message ++
    match r.field with
    | some field => if field = "" then "" else " field=" ++ field
    | none => ""

/-- `pushHumanReasonLines`. -/
def humanReasonLines (indent : String) (r : Reason) : List String :=
  [indent ++ ("detail: " ++ reasonDetail r), indent ++ ("reference_code: " ++ r.code),
    indent ++ ("user_meaning: " ++ userPhraseForReasonCode tables r.code)]

def effectLines (eff : WorkflowTruthEffect) : List String :=
  ("    " ++ ("effect: id=" ++ sanitizeOneLineId eff.id ++ " result=" ++
    humanReportResultPhrase eff.outcomeLabel)) ::
  eff.reasons.flatMap (humanReasonLines tables "      ")

def stepLine (s : WorkflowTruthStep) : String :=
  "  - seq=" ++ (seqText s.seq ++ " tool=" ++ sanitizeOneLineId s.toolId)

/-- The lines of a step after its first. -/
def stepDetailLines (phrase : OutcomeLabel → String) (s : WorkflowTruthStep) : List String :=
  ["    " ++ ("declared: " ++ formatBatchDeclaredStderrValue (sanitizeOneLineId s.toolId)
      s.intendedEffect s.observedExecution),
    "    " ++ ("expected: " ++ formatBatchExpectedStderrValue s.verifyTarget),
    "    " ++ ("observed_database: " ++ s.observedStateSummary),
    "    " ++ ("verification_verdict: " ++ formatBatchVerificationVerdictStderrValue
      s.outcomeLabel.text (phrase s.outcomeLabel)
      (if s.outcomeLabel = .verified then none
        else s.failureCategory.map FailureDiagnostic.text)),
    "    " ++ ("observations: evaluated=" ++ seqText s.evaluatedOrdinal ++ " of " ++
      seqText s.repeatCount ++ " in_capture_order")] ++
  s.reasons.flatMap (humanReasonLines tables "    ") ++
  (s.effects.getD []).flatMap (effectLines tables)

def stepLines (phrase : OutcomeLabel → String) (s : WorkflowTruthStep) : List String :=
  stepLine s :: stepDetailLines tables phrase s

def stepPhraseMap (truth : WorkflowTruthReport) : OutcomeLabel → String :=
  if truth.workflowId = planTransitionWorkflowId then humanReportPlanTransitionPhrase
  else humanReportResultPhrase

def statusLine (status : WorkflowStatus) : String :=
  "workflow_status: " ++ WorkflowStatus.text status

def trustLine (trustSummary : String) : String := "trust: " ++ trustSummary

/-- The lines between the head of the report and its steps. -/
def bodyLines (truth : WorkflowTruthReport) : List String :=
  truth.executionPathFindings.flatMap findingLines ++
  truth.failureAnalysis.elim [] diagnosisLines ++
  truth.failureExplanation.elim [] explanationLines ++
  truth.correctnessDefinition.elim [] correctnessLines ++
  runLevelLines tables truth.runLevelIssues ++
  eventSequenceLines tables truth.eventSequence ++ ["steps:"]

def reportLines (truth : WorkflowTruthReport) : List String :=
  ["workflow_id: " ++ sanitizeOneLineId truth.workflowId, statusLine truth.workflowStatus,
    trustLine truth.trustSummary, "execution_path: " ++ truth.executionPathSummary] ++
  bodyLines tables truth ++
  truth.steps.flatMap (stepLines tables (stepPhraseMap truth))

def formatWorkflowTruthReportStruct (truth : WorkflowTruthReport) : String :=
  "\n".intercalate (reportLines tables truth)

def formatWorkflowTruthReport (engine : WorkflowEngineResult) :
    Except ReportError String := do
  let truth ← buildWorkflowTruthReport tables engine
  .ok (formatWorkflowTruthReportStruct tables truth)

end Lines

end AgentSkeptic.Report
