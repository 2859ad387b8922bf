import AgentSkeptic.Report.TruthReport
import AgentSkeptic.Support.Regex

/-!
# Remediation items

`redactEvidenceString.ts` and the remediation items of `actionableFailure.ts`: for each
check of a workflow that did not pass, its identity in words and what to do about it.  What
an item says about automation, human review and reruns is left out.
-/

namespace AgentSkeptic.Report

open AgentSkeptic.Support AgentSkeptic.Engine AgentSkeptic.Events

/-! ## Redaction -/

namespace StripPatterns

open Regex

/-- A character of `\w`. -/
def isWordChar (c : Char) : Bool := c.isAlphanum || c == '_'

def wordBoundary : Regex Char := boundary isWordChar

/-- A text in any case, as under the flag `i`. -/
def anyCase (text : String) : Regex Char :=
  word (fun a b => a.toLower == b.toLower) text.toList

def literal (text : String) : Regex Char := word (fun a b => decide (a = b)) text.toList

/-- `/\bsk_(live|test)_[a-zA-Z0-9]{8,}\b/gi`. -/
def stripeKey : Regex Char :=
  inOrder [wordBoundary, anyCase "sk_", group 1 (alt (anyCase "live") (anyCase "test")),
    literal "_", atLeast 8 (char Char.isAlphanum), wordBoundary]

/-- `/\bAKIA[0-9A-Z]{16}\b/g`. -/
def awsKey : Regex Char :=
  inOrder [wordBoundary, literal "AKIA", times 16 (char fun c => c.isDigit || c.isUpper),
    wordBoundary]

def isTokenChar (c : Char) : Bool := c.isAlphanum || "._-+/=".contains c

/-- `/\bBearer\s+[a-zA-Z0-9._\-+/=]{20,}\b/gi`. -/
def bearerToken : Regex Char :=
  inOrder [wordBoundary, anyCase "Bearer", plus (char isJsWhitespace),
    atLeast 20 (char isTokenChar), wordBoundary]

def stripPatterns : List (Regex Char) := [stripeKey, awsKey, bearerToken]

end StripPatterns

/-- `s.length > max ? s.slice(0, max - 1) + "…" : s`. -/
def clip (maxLen : ℕ) (s : String) : String :=
  if maxLen < (utf16 s).length then
    String.ofList (ofUtf16 ((utf16 s).take (maxLen - 1))) ++ "…"
  else s

def redactEvidenceString (raw : String) (maxLen : ℕ) : String :=
  let stripped := StripPatterns.stripPatterns.foldl
    (fun s re => re.replaceAll "[redacted]".toList s) (replaceLineBreaks ' ' raw.toList)
  formatOperationalMessage (clip maxLen (String.ofList stripped))

/-! ## Actions -/

/-- `REMEDIATION_BY_CODE`. -/
def RecommendedActionCode.message : RecommendedActionCode → String
  | .manualReview =>
      "Review the evidence completeness block and workflow truth report, then decide on a " ++
        "manual fix path."
  | .deduplicate =>
      "Resolve duplicate or conflicting rows that matched the same verification key, then " ++
        "rerun verify."
  | .reconcileDownstreamState =>
      "Fix downstream database or service state to match declared expectations, then rerun " ++
        "verify."
  | .correctVerificationInputs =>
      "Correct registry, events, or tool parameters so expectations resolve, then rerun verify."
  | .improveReadConnectivity =>
      "Restore read-only database or witness connectivity and credentials, then rerun verify."
  | .resolveMultiEffectFailures =>
      "Align multi-effect registry coverage or split steps so each effect is verifiable, then " ++
        "rerun verify."
  | .alignToolObservations =>
      "Align repeated tool observations so canonical params agree, then rerun verify."
  | .fixEventIngestAndSteps =>
      "Repair NDJSON event capture so each line is schema-valid tool_observed for this " ++
        "workflow, then rerun verify."
  | .fixEventSequenceOrder =>
      "Fix capture ordering or timestamps so the event sequence is coherent, then rerun verify."
  | .fixRunContextControls =>
      "Fix model/retrieval/control ordering so observations are fairly evaluated, then rerun " ++
        "verify."
  | .fixVerificationDatabaseConnection =>
      "Point verify at a reachable read-only database URL (not SQLite file mode for remote " ++
        "witnesses), then rerun verify."

/-- `remediationMessageForRecommendedAction(row.recommendedAction)`; what is inherited has
no action. -/
def remediationMessage : Found RemediationRow → String
  | .own row => row.recommendedAction.message
  | .inherited _ => RecommendedActionCode.message .manualReview

def rowForCodes (scope : EvidenceScope) (codes : List String) : Found RemediationRow :=
  match scope with
  | .runLevel => .own (remediationForRunLevelItem codes)
  | .eventSequence => remediationForEventSequenceItem codes
  | .runContext => remediationForRunContextItem codes
  | .step | .effect => remediationForStepOrEffectItem codes

/-! ## Items -/

structure ItemOptions where
  id : String
  scope : EvidenceScope
  primary : Bool
  failedCheck : String
  reasonCodes : List String
  reason : String
  expectedSummary : String
  projectionKind : Option CorrectnessEnforcementKind := none
  forceManualReview : Bool := false

structure RemediationItem where
  id : String
  scope : EvidenceScope
  primary : Bool
  failedCheck : String
  reasonCodes : List String
  reason : String
  row : Found RemediationRow
  actionText : String
  expectedSummary : String
  projectionKind : Option CorrectnessEnforcementKind

/-- `a || b` of texts. -/
def orText (a b : String) : String := if a = "" then b else a

section Items

variable (tables : TextTables)

/-- `sortUniqueStrings`. -/
def sortUniqueStrings (codes : List String) : List String :=
  sortUniqueCodes tables (codes.filter (· ≠ ""))

def makeRemediationItem (opts : ItemOptions) : RemediationItem :=
  let codes := (sortUniqueStrings tables opts.reasonCodes).take 8
  let row := if opts.forceManualReview then .own manualRemediation
    else rowForCodes opts.scope codes
  { id := redactEvidenceString opts.id 128
    scope := opts.scope
    primary := opts.primary
    failedCheck := redactEvidenceString opts.failedCheck 256
    reasonCodes := codes.map fun c => redactEvidenceString c 128
    reason := redactEvidenceString (orText opts.reason "Verification check did not pass.") 1024
    row
    actionText := redactEvidenceString (remediationMessage row) 500
    expectedSummary := redactEvidenceString
      (orText opts.expectedSummary
        "Expected state must satisfy the verification contract.") 1024
    projectionKind := opts.projectionKind }

end Items

def primaryEvidenceKey (fa : Option FailureAnalysis) : Option String := do
  let fa ← fa
  let ev ← fa.evidence.head?
  match ev.scope with
  | .step => ev.seq.map fun seq => "step:" ++ seqText seq
  | .effect => do
      let seq ← ev.seq
      let effectId ← ev.effectId
      some ("effect:" ++ seqText seq ++ ":" ++ effectId)
  | scope => some scope.text

/-- What an item is about. -/
inductive Subject where
  | runLevel
  | eventSequence (issues : List TruthIssue)
  | runContext (ev : FailureAnalysisEvidenceItem)
  | step (step : WorkflowTruthStep)
  | effect (step : WorkflowTruthStep) (effect : WorkflowTruthEffect)

def stepTarget (step : WorkflowTruthStep) : String :=
  step.verifyTarget.getD step.intendedEffect

def stepExpectedSummary (step : WorkflowTruthStep) : String :=
  "Expected state: " ++ stepTarget step ++ "; observed: " ++ step.observedStateSummary

def effectExpectedSummary (step : WorkflowTruthStep) (effectId : String) : String :=
  "Expected effect " ++ effectId ++ " within " ++ stepTarget step ++ "; observed: " ++
    step.observedStateSummary

def stepFailedCheck (step : WorkflowTruthStep) : String :=
  "Failed check: step " ++ (seqText step.seq ++
    if step.toolId = "" then "" else " (" ++ (step.toolId ++ ")"))

def effectFailedCheck (step : WorkflowTruthStep) (effect : WorkflowTruthEffect) : String :=
  "Failed check: effect " ++ (effect.id ++ (" on step " ++ seqText step.seq))

section Workflow

variable (truth : WorkflowTruthReport)

/-- The primary item says what the definition says, and has its kind. -/
def primaryOr (id text : String) : String :=
  if primaryEvidenceKey truth.failureAnalysis = some id then
    truth.correctnessDefinition.elim text (·.mustAlwaysHold)
  else text

def primaryKind (id : String) : Option CorrectnessEnforcementKind :=
  if primaryEvidenceKey truth.failureAnalysis = some id then
    truth.correctnessDefinition.map (·.enforcementKind)
  else none

def isPrimary (id : String) : Bool := primaryEvidenceKey truth.failureAnalysis = some id

def manualAnalysis : Bool :=
  truth.failureAnalysis.any fun fa =>
    recommendedActionText fa.actionableFailure.remediation = "manual_review"

def itemOptions : Subject → ItemOptions
  | .runLevel =>
      { id := "run_level"
        scope := .runLevel
        primary := isPrimary truth "run_level"
        failedCheck := "run-level verification input"
        reasonCodes := truth.runLevelIssues.map (·.code)
        reason := "; ".intercalate (truth.runLevelIssues.map (·.message))
        expectedSummary := primaryOr truth "run_level"
          "Expected a valid captured run with no run-level ingest or planning failures."
        projectionKind := primaryKind truth "run_level" }
  | .eventSequence issues =>
      { id := "event_sequence"
        scope := .eventSequence
        primary := isPrimary truth "event_sequence"
        failedCheck := "event sequence"
        reasonCodes := issues.map (·.code)
        reason := "; ".intercalate (issues.map (·.message))
        expectedSummary := primaryOr truth "event_sequence"
          "Expected monotonic, coherent event capture for this workflow."
        projectionKind := primaryKind truth "event_sequence" }
  | .runContext ev =>
      { id := "run_context:" ++ seqText (ev.ingestIndex.getD 0)
        scope := .runContext
        primary := isPrimary truth "run_context"
        failedCheck := "run context before ingest " ++ (ev.ingestIndex.elim "unknown" seqText)
        reasonCodes := ev.codes.getD []
        reason := "Run context failed before the evaluated observation: " ++
          ",".intercalate (ev.codes.getD [])
        expectedSummary := primaryOr truth "run_context"
          "Expected retrieval, model, control, and tool context to allow fair verification."
        projectionKind := primaryKind truth "run_context" }
  | .effect step effect =>
      { id := "effect:" ++ seqText step.seq ++ ":" ++ effect.id
        scope := .effect
        primary := isPrimary truth ("effect:" ++ seqText step.seq ++ ":" ++ effect.id)
        failedCheck := effectFailedCheck step effect
        reasonCodes := effect.reasons.map Reason.code
        reason := (effect.reasons.head?.map Reason.message).getD effect.outcomeLabel.text
        expectedSummary := effectExpectedSummary step effect.id }
  | .step step =>
      { id := "step:" ++ seqText step.seq
        scope := .step
        primary := isPrimary truth ("step:" ++ seqText step.seq)
        failedCheck := stepFailedCheck step
        reasonCodes := step.reasons.map Reason.code
        reason := (step.reasons.head?.map Reason.message).getD step.outcomeLabel.text
        expectedSummary := primaryOr truth ("step:" ++ seqText step.seq)
          (stepExpectedSummary step)
        projectionKind := primaryKind truth ("step:" ++ seqText step.seq)
        forceManualReview :=
          isPrimary truth ("step:" ++ seqText step.seq) && manualAnalysis truth }

/-- A step that has effects is reported by those that are not verified. -/
def stepSubjects (step : WorkflowTruthStep) : List Subject :=
  if step.outcomeLabel = .verified then []
  else
    match step.effects with
    | some (e :: es) => ((e :: es).filter (·.outcomeLabel ≠ .verified)).map (.effect step)
    | _ => [.step step]

def workflowSubjects : List Subject :=
  (if truth.runLevelIssues.length > 0 then [.runLevel] else []) ++
  (match truth.eventSequence with
    | .normal => []
    | .irregular issues => [.eventSequence issues]) ++
  ((truth.failureAnalysis.elim [] (·.evidence)).filter (·.scope = .runContext)).map
    .runContext ++
  truth.steps.flatMap stepSubjects

/-- The item of an analysis of which no check tells. -/
def analysisOptions (fa : FailureAnalysis) : ItemOptions where
  id := "failure_analysis"
  scope := .runLevel
  primary := true
  failedCheck := "verification failure analysis"
  reasonCodes := ((fa.evidence.head?.bind (·.codes)).getD ["UNCLASSIFIED_GAP"])
  reason := fa.summary
  expectedSummary := truth.correctnessDefinition.elim
    "Expected state must satisfy the verification contract." (·.mustAlwaysHold)
  projectionKind := truth.correctnessDefinition.map (·.enforcementKind)
  forceManualReview := true

def workflowItemOptions : List ItemOptions :=
  match workflowSubjects truth, truth.failureAnalysis with
  | [], some fa => [analysisOptions truth fa]
  | subjects, _ => subjects.map (itemOptions truth)

def maxRemediationItems : ℕ := 32

def buildWorkflowRemediationItems (tables : TextTables) (status : WorkflowStatus) :
    List RemediationItem :=
  if status = .complete ∧ truth.failureAnalysis.isNone then []
  else ((workflowItemOptions truth).map (makeRemediationItem tables)).take maxRemediationItems

end Workflow

end AgentSkeptic.Report
