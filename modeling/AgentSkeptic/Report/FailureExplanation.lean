import AgentSkeptic.Report.FailureAnalysis
import AgentSkeptic.Support.Templates

/-!
# Failure explanations

`failureExplanation.ts`: three sentences that are filled into templates, and the facts
they rest on.  The placeholders of a template are replaced one after another, so that a
value in which a later placeholder stands is not put in as it is.
-/

namespace AgentSkeptic.Report

open AgentSkeptic.Support AgentSkeptic.Engine AgentSkeptic.Events

/-! ## Truth steps -/

inductive OutcomeLabel where
  | verified | failedRowMissing | failedValueMismatch | incompleteCannotVerify
  | partiallyVerified | uncertainNotObservedWithinWindow
  deriving DecidableEq

structure WorkflowTruthEffect where
  id : String
  outcomeLabel : OutcomeLabel
  reasons : List Reason

structure WorkflowTruthStep where
  seq : ℕ
  toolId : String
  releaseCritical : Bool
  outcomeLabel : OutcomeLabel
  evaluatedOrdinal : ℕ
  repeatCount : ℕ
  reasons : List Reason
  intendedEffect : String
  observedExecution : String
  failureCategory : Option FailureDiagnostic
  verifyTarget : Option String
  observedStateSummary : String
  effects : Option (List WorkflowTruthEffect)

/-- What an explanation reads of the truth report. -/
structure TruthOutline where
  trustSummary : String
  workflowStatus : WorkflowStatus
  steps : List WorkflowTruthStep

/-! ## Texts -/

/-- `s.replace(/\r\n|\r|\n/g, c)`. -/
def replaceLineBreaks (c : Char) : List Char → List Char
  | '\r' :: '\n' :: rest => c :: replaceLineBreaks c rest
  | '\r' :: rest => c :: replaceLineBreaks c rest
  | '\n' :: rest => c :: replaceLineBreaks c rest
  | x :: rest => x :: replaceLineBreaks c rest
  | [] => []

/-- Line breaks and runs of spaces become one space, the ends are trimmed. -/
def oneLine (s : String) : String :=
  String.ofList (trimChars (collapseSpaces (replaceLineBreaks ' ' s.toList)))

def normMessage (s : String) : String :=
  if oneLine s = "" then "(no message)" else formatOperationalMessage (oneLine s)

def scalarToDetail (v : Json) : String :=
  match v with
  | .null => "null"
  | .bool value => if value then "true" else "false"
  | .num value => value.toText
  | .str value => value
  | .arr items => (Json.arr items).stringify
  | .obj members => (Json.obj members).stringify

/-! ## Templates -/

/-- The placeholder of a variable and its value. -/
def placeholderRule (entry : String × String) : Rule Char :=
  ⟨'<' :: (entry.1.toList ++ ['>']), entry.2.toList⟩

def fillTemplate (template : String) (vars : List (String × String)) : String :=
  String.ofList (rewriteEach (vars.map placeholderRule) template.toList)

def feRunLevelExpected : String :=
  "Verification expected a valid captured run for workflowId=<workflowId> under policy [<P>] with no run-level ingest or planning failures."

def feRunLevelObserved : String := "Run-level failure: code=<firstCode> detail=<detail>."

def feRunLevelDivergence : String :=
  "Divergence at run_level: code=<firstCode> meaning=<meaning>"

def feEventSequenceExpected : String :=
  "Verification expected monotonic, well-formed event capture for workflowId=<workflowId> under policy [<P>]."

def feEventSequenceObserved : String :=
  "Event-sequence irregularity: code=<firstCode> detail=<detail>."

def feEventSequenceDivergence : String :=
  "Divergence at event_sequence: code=<firstCode> meaning=<meaning>"

def feRunContextExpected : String :=
  "Verification expected upstream run context through ingest_index=<ingestIndex> to allow fair evaluation of the failing tool observation under policy [<P>]."

def feRunContextObserved : String :=
  "Run-context signal before the failing observation: code=<C> <detail>."

def feRunContextDivergence : String :=
  "Divergence at run_context before the failing tool observation: code=<C> meaning=<meaning>"

def feStepExpected : String :=
  "Verification expected downstream state to satisfy verify_target \"<verifyTargetOrLiteralNull>\" and intended_effect \"<narrative>\" for seq=<seq> toolId=<toolId> under policy [<P>]."

def feStepObserved : String :=
  "Step verification outcome: code=<primaryCode> detail=<detail><suffix>"

def feStepDivergence : String :=
  "Divergence at step seq=<seq> toolId=<toolId>: primary_code=<primaryCode> meaning=<meaning>"

def feNoStepsObserved : String :=
  "No tool_observed steps were produced for workflowId=<workflowId>."

def feNoStepsDivergence : String :=
  "Divergence: no steps to verify against registry-backed expectations under policy [<P>]"

/-- A template and the values of its placeholders, in the order of the replacements. -/
structure Filling where
  template : String
  vars : List (String × String)

def Filling.filled (f : Filling) : String := fillTemplate f.template f.vars

/-! ## The branches -/

def policyInvalid : ReportError :=
  .invariant "EXPLANATION_VERIFICATION_POLICY_INVALID"
    "Verification policy is missing or invalid for failure explanation."

def emptyCodes : ReportError :=
  .invariant "EXPLANATION_EVIDENCE_CODES_EMPTY"
    "Primary failure analysis evidence had empty codes."

def effectScope : ReportError :=
  .invariant "EXPLANATION_PRIMARY_EVIDENCE_SCOPE_EFFECT"
    "Primary failure analysis evidence must not be scope effect."

def stepTruthMismatch : ReportError :=
  .invariant "EXPLANATION_STEP_TRUTH_MISMATCH"
    "Truth report step missing for failure explanation driver step."

def runContextIndexMissing : ReportError :=
  .invariant "EXPLANATION_RUN_CONTEXT_INDEX_MISSING"
    "Run-context failure explanation requires ingestIndex on primary evidence."

/-- A number that is one and is finite. -/
def finiteText (n : Option JsNumber) : Except ReportError String :=
  match n with
  | some n => if n.isFinite then .ok n.toText else .error policyInvalid
  | none => .error policyInvalid

def policyFragment (engine : WorkflowEngineResult) : Except ReportError String := do
  let consistencyMode ← match engine.verificationPolicy.consistencyMode with
    | .strong => .ok "strong"
    | .eventual => .ok "eventual"
    | .bounded => .error policyInvalid
  let verificationWindowMs ← finiteText engine.verificationPolicy.verificationWindowMs
  let pollIntervalMs ← finiteText engine.verificationPolicy.pollIntervalMs
  .ok ("consistencyMode=" ++ consistencyMode ++ "; verificationWindowMs=" ++
    verificationWindowMs ++ "; pollIntervalMs=" ++ pollIntervalMs)

inductive FailureExplanationFactId where
  | trustSummary | workflowStatus | verificationPolicy | primaryOrigin
  | classificationConfidence | failureAnalysisSummary | primaryScope | primaryCodes
  | primaryIngestIndex | primaryToolId | primarySource | primaryRunEventId | primarySeq
  | primaryEffectId | verifyTarget | intendedEffectNarrative | evidenceSummaryField
  | evidenceSummaryExpected | evidenceSummaryActual | evidenceSummaryRowCount
  deriving DecidableEq

abbrev Facts := List (FailureExplanationFactId × String)

/-- What a branch says, and the facts it adds. -/
structure Branch where
  expected : Filling
  observed : Filling
  divergence : Filling
  facts : Facts := []

section Branches

variable (tables : TextTables) (engine : WorkflowEngineResult) (truth : TruthOutline)
  (P : String)

/-- `R?.message ?? ""` of the first reason with the code. -/
def messageOf (reasons : List Reason) (code : String) : String :=
  ((reasons.find? (·.code == code)).map Reason.message).getD ""

/-- The least known code, or the least code. -/
def firstRunLevelCode (codes : List String) : Option String :=
  let U := sortUniqueCodes tables codes
  let knownOnly := U.filter (isIn runLevelCodeToOrigin)
  if knownOnly.length > 0 then minLex tables knownOnly else minLex tables U

def runLevelBranch (firstCode : String) : Branch :=
  let detail := normMessage (messageOf engine.runLevelReasons firstCode)
  let meaning := userPhraseForReasonCode tables firstCode
  { expected := ⟨feRunLevelExpected, [("workflowId", engine.workflowId), ("P", P)]⟩
    observed := ⟨feRunLevelObserved, [("firstCode", firstCode), ("detail", detail)]⟩
    divergence := ⟨feRunLevelDivergence, [("firstCode", firstCode), ("meaning", meaning)]⟩ }

def eventSequenceBranch (firstCode : String) : Branch :=
  let reasons := match engine.eventSequenceIntegrity with
    | .irregular reasons => reasons
    | .normal => []
  let detail := normMessage (messageOf reasons firstCode)
  let meaning := userPhraseForReasonCode tables firstCode
  { expected := ⟨feEventSequenceExpected, [("workflowId", engine.workflowId), ("P", P)]⟩
    observed := ⟨feEventSequenceObserved, [("firstCode", firstCode), ("detail", detail)]⟩
    divergence :=
      ⟨feEventSequenceDivergence, [("firstCode", firstCode), ("meaning", meaning)]⟩ }

def recordMissing : String := "run_context_record_missing=true"

def buildRunContextDetail (ctx : VerificationRunContext) (ingestIndex : ℕ) (C : String) :
    String :=
  if C = "RETRIEVAL_ERROR" then
    match ctx.retrievalEvents.find? fun e =>
        e.ingestIndex = ingestIndex ∧ e.status = .error with
    | some row => "source=" ++ row.source ++ " status=error"
    | none => recordMissing
  else
    match afterStart? "MODEL_TURN_" C with
    | some suffix =>
        match ctx.modelTurnEvents.find? fun e =>
            e.ingestIndex = ingestIndex ∧ e.status.text = tables.toLowerCase suffix with
        | some row => "status=" ++ row.status.text
        | none => recordMissing
    | none =>
        if C = "CONTROL_INTERRUPT" then
          if ctx.controlEvents.any fun e =>
              e.ingestIndex = ingestIndex ∧ e.controlKind = .interrupt then
            "controlKind=interrupt"
          else recordMissing
        else if C = "CONTROL_BRANCH_SKIPPED" then
          if ctx.controlEvents.any fun e =>
              e.ingestIndex = ingestIndex ∧ e.controlKind = .branch ∧
                e.decision = some .skipped then
            "controlKind=branch decision=skipped"
          else recordMissing
        else if C = "CONTROL_GATE_SKIPPED" then
          if ctx.controlEvents.any fun e =>
              e.ingestIndex = ingestIndex ∧ e.controlKind = .gate ∧
                e.decision = some .skipped then
            "controlKind=gate decision=skipped"
          else recordMissing
        else if C = "TOOL_SKIPPED" then
          match ctx.toolSkippedEvents.find? fun e => e.ingestIndex = ingestIndex with
          | some row => "toolId=" ++ row.toolId
          | none => recordMissing
        else recordMissing

def runContextBranch (index : ℕ) (C : String) : Branch :=
  let ingestIndex := seqText index
  let detail := buildRunContextDetail tables engine.verificationRunContext index C
  let meaning := userPhraseForReasonCode tables C
  { expected := ⟨feRunContextExpected, [("ingestIndex", ingestIndex), ("P", P)]⟩
    observed := ⟨feRunContextObserved, [("C", C), ("detail", detail)]⟩
    divergence := ⟨feRunContextDivergence, [("C", C), ("meaning", meaning)]⟩ }

def noStepsBranch : Branch :=
  { expected := ⟨feRunLevelExpected, [("workflowId", engine.workflowId), ("P", P)]⟩
    observed := ⟨feNoStepsObserved, [("workflowId", engine.workflowId)]⟩
    divergence := ⟨feNoStepsDivergence, [("P", P)]⟩ }

/-- The message of `msgReasonForDriverStep`. -/
def messageForDriverStep (driver : StepOutcome) (primaryCode : String) :
    Except ReportError String :=
  let own := (driver.reasons.head?.map Reason.message).getD ""
  if isRollup (rollupCode driver) ∧ rollupCode driver ≠ some primaryCode then
    match firstEffectReason? tables driver with
    | some reason => reasonText "message" reason
    | none => .ok own
  else .ok own

def evidenceSummarySuffix (evidenceSummary : List (String × Json)) : String :=
  let parts := ["field", "expected", "actual", "rowCount"].filterMap fun k =>
    (ownMember evidenceSummary k).map fun v => k ++ "=" ++ scalarToDetail v
  if parts.length = 0 then "" else "; " ++ "; ".intercalate parts

/-- The facts of the step, those of its evidence only where it has them. -/
def stepFacts (driver : StepOutcome) (truthStep : WorkflowTruthStep) (narrative : String) :
    Facts :=
  [(.verifyTarget, truthStep.verifyTarget.getD "null"),
    (.intendedEffectNarrative, narrative)] ++
  ([(.evidenceSummaryField, "field"), (.evidenceSummaryExpected, "expected"),
    (.evidenceSummaryActual, "actual"),
    (.evidenceSummaryRowCount, "rowCount")].filterMap fun fact =>
      (ownMember driver.evidenceSummary fact.2).map fun v => (fact.1, scalarToDetail v))

def stepBranch (e0 : FailureAnalysisEvidenceItem) (primaryCode : String) :
    Except ReportError Branch :=
  match e0.seq, e0.toolId with
  | some seq, some toolId =>
      match engine.steps.find? fun s => s.seq = seq ∧ s.toolId = toolId,
        truth.steps.find? fun s => s.seq = seq ∧ s.toolId = toolId with
      | some driver, some truthStep => do
          let verifyTargetOrLiteralNull := truthStep.verifyTarget.elim "null" normMessage
          let narrative := normMessage truthStep.intendedEffect
          let message ← messageForDriverStep tables driver primaryCode
          let detail := normMessage message
          let suffix := evidenceSummarySuffix driver.evidenceSummary
          let meaning := userPhraseForReasonCode tables primaryCode
          .ok
            { expected := ⟨feStepExpected,
                [("verifyTargetOrLiteralNull", verifyTargetOrLiteralNull),
                  ("narrative", narrative), ("seq", seqText seq), ("toolId", toolId),
                  ("P", P)]⟩
              observed := ⟨feStepObserved,
                [("primaryCode", primaryCode), ("detail", detail), ("suffix", suffix)]⟩
              divergence := ⟨feStepDivergence,
                [("seq", seqText seq), ("toolId", toolId), ("primaryCode", primaryCode),
                  ("meaning", meaning)]⟩
              facts := stepFacts driver truthStep narrative }
      | _, _ => .error stepTruthMismatch
  | _, _ => .error stepTruthMismatch

/-- The branch of the scope of the primary evidence. -/
def explanationBranch (e0 : FailureAnalysisEvidenceItem) (codes : List String)
    (primaryCode : String) : Except ReportError Branch :=
  match e0.scope with
  | .runLevel =>
      .ok (runLevelBranch tables engine P ((firstRunLevelCode tables codes).getD primaryCode))
  | .eventSequence =>
      let U := sortUniqueCodes tables codes
      .ok (eventSequenceBranch tables engine P ((minLex tables U).getD primaryCode))
  | .runContext =>
      match e0.ingestIndex with
      | some index => .ok (runContextBranch tables engine P index primaryCode)
      | none => .error runContextIndexMissing
  | .step =>
      if primaryCode = "NO_STEPS_FOR_WORKFLOW" then .ok (noStepsBranch engine P)
      else stepBranch tables engine truth P e0 primaryCode
  | .effect => .error effectScope

end Branches

/-! ## Facts and unknowns -/

def knownFactOrder : List FailureExplanationFactId :=
  [.trustSummary, .workflowStatus, .verificationPolicy, .primaryOrigin,
    .classificationConfidence, .failureAnalysisSummary, .primaryScope, .primaryCodes,
    .primaryIngestIndex, .primaryToolId, .primarySource, .primaryRunEventId, .primarySeq,
    .primaryEffectId, .verifyTarget, .intendedEffectNarrative, .evidenceSummaryField,
    .evidenceSummaryExpected, .evidenceSummaryActual, .evidenceSummaryRowCount]

def FailureExplanationFactId.text : FailureExplanationFactId → String
  | trustSummary => "trust_summary"
  | workflowStatus => "workflow_status"
  | verificationPolicy => "verification_policy"
  | primaryOrigin => "primary_origin"
  | classificationConfidence => "classification_confidence"
  | failureAnalysisSummary => "failure_analysis_summary"
  | primaryScope => "primary_scope"
  | primaryCodes => "primary_codes"
  | primaryIngestIndex => "primary_ingest_index"
  | primaryToolId => "primary_tool_id"
  | primarySource => "primary_source"
  | primaryRunEventId => "primary_run_event_id"
  | primarySeq => "primary_seq"
  | primaryEffectId => "primary_effect_id"
  | verifyTarget => "verify_target"
  | intendedEffectNarrative => "intended_effect_narrative"
  | evidenceSummaryField => "evidence_summary_field"
  | evidenceSummaryExpected => "evidence_summary_expected"
  | evidenceSummaryActual => "evidence_summary_actual"
  | evidenceSummaryRowCount => "evidence_summary_row_count"

/-- The facts in their order; a fact that is set twice has its last value. -/
def assembleKnownFacts (facts : Facts) : Facts :=
  knownFactOrder.filterMap fun id =>
    ((InsertionMap.ofEntries facts).get? id).map fun value => (id, value)

def WorkflowStatus.text : WorkflowStatus → String
  | .complete => "complete"
  | .incomplete => "incomplete"
  | .inconsistent => "inconsistent"

def FailureConfidence.text : FailureConfidence → String
  | high => "high"
  | medium => "medium"
  | low => "low"

def EvidenceScope.text : EvidenceScope → String
  | runContext => "run_context"
  | runLevel => "run_level"
  | eventSequence => "event_sequence"
  | step => "step"
  | effect => "effect"

/-- A fact of a value that may be missing. -/
def optionalFact (id : FailureExplanationFactId) (value : Option String) : Facts :=
  (value.map fun v => (id, v)).toList

def primaryEvidenceFacts (tables : TextTables) (e0 : FailureAnalysisEvidenceItem)
    (codes : List String) (fa : FailureAnalysisBase) : Facts :=
  [(.primaryScope, e0.scope.text),
    (.primaryCodes, ",".intercalate (sortUniqueCodes tables codes))] ++
  optionalFact .primaryIngestIndex (e0.ingestIndex.map seqText) ++
  optionalFact .primaryToolId e0.toolId ++
  optionalFact .primarySource e0.source ++
  optionalFact .primaryRunEventId (e0.runEventId.map (·.getD "null")) ++
  optionalFact .primarySeq (e0.seq.map seqText) ++
  (match fa.evidence[1]? with
    | some e1 =>
        if e1.scope = .effect then optionalFact .primaryEffectId e1.effectId else []
    | none => [])

inductive FailureExplanationUnknownId where
  | unknownReasonCode | classificationConfidenceBand | competingHypothesis
  deriving DecidableEq

def FailureExplanationUnknownId.text : FailureExplanationUnknownId → String
  | unknownReasonCode => "unknown_reason_code"
  | classificationConfidenceBand => "classification_confidence_band"
  | competingHypothesis => "competing_hypothesis"

abbrev Unknowns := List (FailureExplanationUnknownId × String)

def buildUnknowns (tables : TextTables) (fa : FailureAnalysisBase) : Unknowns :=
  let unknownRows := fa.unknownReasonCodes.map fun c =>
    (FailureExplanationUnknownId.unknownReasonCode,
      "code=" ++ c ++ "|meaning=" ++ userPhraseForReasonCode tables c)
  (unknownRows.insertionSort fun a b => tables.localeLe a.2 b.2 = true) ++
  (if fa.confidence = .medium ∨ fa.confidence = .low then
    [(.classificationConfidenceBand, fa.confidence.text)] else []) ++
  (fa.alternativeHypotheses.getD []).map fun alt =>
    (.competingHypothesis,
      "origin=" ++ alt.primaryOrigin.text ++ "|rationale=" ++ normMessage alt.rationale)

/-! ## The explanation -/

structure FailureExplanationV1 where
  expected : String
  observed : String
  divergence : String
  knownFacts : Facts
  unknowns : Unknowns

/-- The primary evidence with its codes, and the least of them. -/
structure PrimaryEvidence where
  analysis : FailureAnalysisBase
  item : FailureAnalysisEvidenceItem
  codes : List String
  primaryCode : String

section Explanation

variable (tables : TextTables) (engine : WorkflowEngineResult) (truth : TruthOutline)

def primaryEvidence : Except ReportError PrimaryEvidence := do
  match ← buildFailureAnalysis tables engine with
  | none => .error emptyCodes
  | some fa =>
      match fa.evidence with
      | [] => .error .typeError
      | e0 :: _ =>
          if e0.scope = .effect then .error effectScope
          else
            let codes := e0.codes.getD []
            match minLex tables codes with
            | none => .error emptyCodes
            | some primaryCode => .ok ⟨fa, e0, codes, primaryCode⟩

/-- The branch that explains a result that is not complete, with the policy's text. -/
def chosenBranch : Except ReportError (String × PrimaryEvidence × Branch) := do
  let P ← policyFragment engine
  let primary ← primaryEvidence tables engine
  let branch ← explanationBranch tables engine truth P primary.item primary.codes
    primary.primaryCode
  .ok (P, primary, branch)

def explanationOf (P : String) (primary : PrimaryEvidence) (branch : Branch) :
    FailureExplanationV1 :=
  let fa := primary.analysis
  { expected := formatOperationalMessage branch.expected.filled
    observed := formatOperationalMessage branch.observed.filled
    divergence := formatOperationalMessage branch.divergence.filled
    knownFacts := assembleKnownFacts
      ([(.trustSummary, truth.trustSummary),
        (.workflowStatus, WorkflowStatus.text truth.workflowStatus),
        (.verificationPolicy, P),
        (.primaryOrigin, fa.primaryOrigin.text FailureOrigin.text),
        (.classificationConfidence, fa.confidence.text),
        (.failureAnalysisSummary, normMessage fa.summary)] ++
      primaryEvidenceFacts tables primary.item primary.codes fa ++ branch.facts)
    unknowns := buildUnknowns tables fa }

def buildFailureExplanation : Except ReportError (Option FailureExplanationV1) :=
  if engine.status = .complete then .ok none
  else do
    let (P, primary, branch) ← chosenBranch tables engine truth
    .ok (some (explanationOf tables truth P primary branch))

end Explanation

/-! ## What is put in -/

/-- All placeholders replaced at once. -/
def Filling.substituted (f : Filling) : String :=
  String.ofList (rewrite (f.vars.map placeholderRule) f.template.toList)

/-- No value has the placeholder of a variable that is replaced later, unless that is the
value of the variable. -/
def Filling.Literal (f : Filling) : Prop := Inert (f.vars.map placeholderRule)

instance (f : Filling) : Decidable f.Literal := by
  unfold Filling.Literal
  infer_instance

def Branch.fillings (b : Branch) : List Filling := [b.expected, b.observed, b.divergence]

/-- The templates with the names of their variables. -/
def branchTemplates : List (String × List String) :=
  [(feRunLevelExpected, ["workflowId", "P"]),
    (feRunLevelObserved, ["firstCode", "detail"]),
    (feRunLevelDivergence, ["firstCode", "meaning"]),
    (feEventSequenceExpected, ["workflowId", "P"]),
    (feEventSequenceObserved, ["firstCode", "detail"]),
    (feEventSequenceDivergence, ["firstCode", "meaning"]),
    (feRunContextExpected, ["ingestIndex", "P"]),
    (feRunContextObserved, ["C", "detail"]),
    (feRunContextDivergence, ["C", "meaning"]),
    (feStepExpected, ["verifyTargetOrLiteralNull", "narrative", "seq", "toolId", "P"]),
    (feStepObserved, ["primaryCode", "detail", "suffix"]),
    (feStepDivergence, ["seq", "toolId", "primaryCode", "meaning"]),
    (feNoStepsObserved, ["workflowId"]),
    (feNoStepsDivergence, ["P"])]

/-- The placeholder of a name. -/
def placeholder (name : List Char) : List Char := '<' :: (name ++ ['>'])

/-- Delimiters stand only around the names, which are distinct, and the first name occurs. -/
def TemplateOver (template : List Char) (names : List (List Char)) : Prop :=
  (names.map placeholder).Nodup ∧ (∀ name ∈ names, '<' ∉ name ∧ '>' ∉ name) ∧
    templateFrom '<' (names.map placeholder) 0 template = true ∧
    ∀ name ∈ names.head?, placeholder name <:+: template

instance (template : List Char) (names : List (List Char)) :
    Decidable (TemplateOver template names) := by
  unfold TemplateOver
  infer_instance

/-- The characters of literals, which the kernel reads off faster than `toList` runs. -/
theorem templateOver_of_chars {template : String} {names : List String} {chars : List Char}
    {nameChars : List (List Char)} (htemplate : template = String.ofList chars)
    (hnames : List.Forall₂ (fun name cs => name = String.ofList cs) names nameChars)
    (h : TemplateOver chars nameChars) :
    TemplateOver template.toList (names.map String.toList) := by
  have hmap : names.map String.toList = nameChars := by
    clear h
    induction hnames with
    | nil => rfl
    | cons hname _ ih => rw [List.map_cons, ih, hname, String.toList_ofList]
  rw [htemplate, String.toList_ofList, hmap]
  exact h

set_option maxRecDepth 4096 in
theorem branchTemplates_over : ∀ entry ∈ branchTemplates,
    TemplateOver entry.1.toList (entry.2.map String.toList) := by
  have one {name : String} {cs : List Char} (h : name = String.ofList cs) :
      List.Forall₂ (fun name cs => name = String.ofList cs) [name] [cs] := .cons h .nil
  simp only [branchTemplates, List.forall_mem_cons]
  refine ⟨?_, ?_, ?_, ?_, ?_, ?_, ?_, ?_, ?_, ?_, ?_, ?_, ?_, ?_, by simp⟩
  iterate 9 exact templateOver_of_chars rfl (.cons rfl (one rfl)) (by decide +kernel)
  · exact templateOver_of_chars rfl
      (.cons rfl (.cons rfl (.cons rfl (.cons rfl (one rfl))))) (by decide +kernel)
  · exact templateOver_of_chars rfl (.cons rfl (.cons rfl (one rfl))) (by decide +kernel)
  · exact templateOver_of_chars rfl (.cons rfl (.cons rfl (.cons rfl (one rfl))))
      (by decide +kernel)
  · exact templateOver_of_chars rfl (one rfl) (by decide +kernel)
  · exact templateOver_of_chars rfl (one rfl) (by decide +kernel)

theorem Filling.patterns (f : Filling) :
    (f.vars.map placeholderRule).map Rule.pattern =
      ((f.vars.map Prod.fst).map String.toList).map placeholder := by
  simp only [List.map_map]
  rfl

section Fillings

variable {f : Filling} (hf : (f.template, f.vars.map Prod.fst) ∈ branchTemplates)
include hf

theorem Filling.templateOver :
    TemplateOver f.template.toList ((f.vars.map Prod.fst).map String.toList) :=
  branchTemplates_over _ hf

theorem Filling.placeholders : ∀ p ∈ ((f.vars.map Prod.fst).map String.toList).map placeholder,
    Placeholder '<' '>' p := by
  intro p hp
  obtain ⟨name, hname, rfl⟩ := List.mem_map.mp hp
  obtain ⟨-, hnames, -, -⟩ := Filling.templateOver hf
  exact ⟨by decide, name, rfl, hnames name hname⟩

theorem Filling.isTemplate :
    IsTemplate '<' (((f.vars.map Prod.fst).map String.toList).map placeholder)
      f.template.toList := by
  obtain ⟨-, -, htemplate, -⟩ := Filling.templateOver hf
  apply isTemplate_of_templateFrom _ htemplate
  intro p hp
  exact (Filling.placeholders hf p hp).ne_nil

theorem Filling.filled_of_literal (h : f.Literal) : f.filled = f.substituted := by
  obtain ⟨hnodup, -, -, -⟩ := Filling.templateOver hf
  rw [Filling.filled, fillTemplate, Filling.substituted,
    rewriteEach_inert (Filling.placeholders hf) hnodup (Filling.patterns f)
      (Filling.isTemplate hf) h]

/-- With at most two variables nothing else is filled alike. -/
theorem Filling.filled_eq_iff (htwo : f.vars.length ≤ 2) :
    f.filled = f.substituted ↔ f.Literal := by
  refine ⟨fun h => ?_, Filling.filled_of_literal hf⟩
  obtain ⟨template, vars⟩ := f
  match vars, htwo with
  | [], _ => exact List.Pairwise.nil
  | [x], _ => exact List.pairwise_singleton _ _
  | [x, y], _ =>
      have hplaceholders := Filling.placeholders hf
      obtain ⟨hnodup, -, -, hfirst⟩ := Filling.templateOver hf
      have hne : placeholder x.1.toList ≠ placeholder y.1.toList := by
        simpa using hnodup
      have hx : Placeholder '<' '>' (placeholder x.1.toList) :=
        hplaceholders _ List.mem_cons_self
      have hy : Placeholder '<' '>' (placeholder y.1.toList) :=
        hplaceholders _ (List.mem_cons_of_mem _ List.mem_cons_self)
      have htexts := String.ofList_inj.mp h
      exact (rewriteEach_two_iff hx hy hne (Filling.isTemplate hf) (hfirst _ rfl)
        x.2.toList y.2.toList).mp htexts

end Fillings

/-- The branch fills templates of `branchTemplates`. -/
def Branch.Fills (b : Branch) : Prop :=
  ∀ f ∈ b.fillings, (f.template, f.vars.map Prod.fst) ∈ branchTemplates

theorem Branch.fills {b : Branch}
    (hexpected : (b.expected.template, b.expected.vars.map Prod.fst) ∈ branchTemplates)
    (hobserved : (b.observed.template, b.observed.vars.map Prod.fst) ∈ branchTemplates)
    (hdivergence : (b.divergence.template, b.divergence.vars.map Prod.fst) ∈
      branchTemplates) : b.Fills := by
  intro f hf
  simp only [Branch.fillings, List.mem_cons, List.not_mem_nil, or_false] at hf
  rcases hf with rfl | rfl | rfl
  · exact hexpected
  · exact hobserved
  · exact hdivergence

section Fills

variable {tables : TextTables} {engine : WorkflowEngineResult} {truth : TruthOutline}
  {P : String} {e0 : FailureAnalysisEvidenceItem} {codes : List String}
  {primaryCode : String} {branch : Branch}

theorem runLevelBranch_fills (firstCode : String) :
    (runLevelBranch tables engine P firstCode).Fills := by
  apply Branch.fills
  · simp [runLevelBranch, branchTemplates]
  · simp [runLevelBranch, branchTemplates]
  · simp [runLevelBranch, branchTemplates]

theorem eventSequenceBranch_fills (firstCode : String) :
    (eventSequenceBranch tables engine P firstCode).Fills := by
  apply Branch.fills
  · simp [eventSequenceBranch, branchTemplates]
  · simp [eventSequenceBranch, branchTemplates]
  · simp [eventSequenceBranch, branchTemplates]

theorem runContextBranch_fills (index : ℕ) (C : String) :
    (runContextBranch tables engine P index C).Fills := by
  apply Branch.fills
  · simp [runContextBranch, branchTemplates]
  · simp [runContextBranch, branchTemplates]
  · simp [runContextBranch, branchTemplates]

theorem noStepsBranch_fills : (noStepsBranch engine P).Fills := by
  apply Branch.fills
  · simp [noStepsBranch, branchTemplates]
  · simp [noStepsBranch, branchTemplates]
  · simp [noStepsBranch, branchTemplates]

theorem stepBranch_fills (h : stepBranch tables engine truth P e0 primaryCode = .ok branch) :
    branch.Fills := by
  unfold stepBranch at h
  split at h
  · split at h
    · obtain ⟨message, -, hbranch⟩ := bind_eq_ok.mp h
      cases hbranch
      apply Branch.fills
      · simp [branchTemplates]
      · simp [branchTemplates]
      · simp [branchTemplates]
    · cases h
  · cases h

theorem explanationBranch_fills
    (h : explanationBranch tables engine truth P e0 codes primaryCode = .ok branch) :
    branch.Fills := by
  unfold explanationBranch at h
  split at h
  · cases h
    exact runLevelBranch_fills _
  · cases h
    exact eventSequenceBranch_fills _
  · split at h
    · cases h
      exact runContextBranch_fills _ _
    · cases h
  · split_ifs at h
    · cases h
      exact noStepsBranch_fills
    · exact stepBranch_fills h
  · cases h

end Fills

/-! ## Explanations -/

section Explained

variable {tables : TextTables} {engine : WorkflowEngineResult} {truth : TruthOutline}

theorem buildFailureExplanation_eq_some {fe : FailureExplanationV1} :
    buildFailureExplanation tables engine truth = .ok (some fe) ↔
      engine.status ≠ .complete ∧ ∃ P primary branch,
        chosenBranch tables engine truth = .ok (P, primary, branch) ∧
          fe = explanationOf tables truth P primary branch := by
  unfold buildFailureExplanation
  split_ifs with hcomplete
  · simp [hcomplete]
  · simp only [hcomplete, ne_eq, not_false_eq_true, true_and]
    constructor
    · intro h
      obtain ⟨⟨P, primary, branch⟩, hbranch, hfe⟩ := bind_eq_ok.mp h
      exact ⟨P, primary, branch, hbranch, (Option.some.inj (Except.ok.inj hfe)).symm⟩
    · rintro ⟨P, primary, branch, hbranch, rfl⟩
      exact bind_eq_ok.mpr ⟨(P, primary, branch), hbranch, rfl⟩

theorem chosenBranch_fills {P : String} {primary : PrimaryEvidence} {branch : Branch}
    (h : chosenBranch tables engine truth = .ok (P, primary, branch)) : branch.Fills := by
  unfold chosenBranch at h
  obtain ⟨P', -, h⟩ := bind_eq_ok.mp h
  obtain ⟨primary', -, h⟩ := bind_eq_ok.mp h
  obtain ⟨branch', hbranch, h⟩ := bind_eq_ok.mp h
  obtain ⟨-, htriple⟩ := Prod.mk.inj (Except.ok.inj h)
  obtain ⟨-, rfl⟩ := Prod.mk.inj htriple
  exact explanationBranch_fills hbranch

/-- The three sentences are the templates with all placeholders replaced at once. -/
structure InsertsLiterally (fe : FailureExplanationV1) (branch : Branch) : Prop where
  expected : fe.expected = formatOperationalMessage branch.expected.substituted
  observed : fe.observed = formatOperationalMessage branch.observed.substituted
  divergence : fe.divergence = formatOperationalMessage branch.divergence.substituted

/-- Every value is put in as it is when no value has the placeholder of a variable that is
replaced later; with two variables, before the texts are cut, only then. -/
theorem failureExplanation_literal {fe : FailureExplanationV1}
    (h : buildFailureExplanation tables engine truth = .ok (some fe)) :
    ∃ P primary branch, chosenBranch tables engine truth = .ok (P, primary, branch) ∧
      ((∀ f ∈ branch.fillings, f.Literal) → InsertsLiterally fe branch) ∧
      ∀ f ∈ branch.fillings, f.vars.length ≤ 2 → (f.filled = f.substituted ↔ f.Literal) := by
  obtain ⟨-, P, primary, branch, hbranch, rfl⟩ := buildFailureExplanation_eq_some.mp h
  have hfills := chosenBranch_fills hbranch
  refine ⟨P, primary, branch, hbranch, fun hliteral => ?_, fun f hf htwo => ?_⟩
  · have hfilled (f : Filling) (hf : f ∈ branch.fillings) : f.filled = f.substituted :=
      Filling.filled_of_literal (hfills f hf) (hliteral f hf)
    constructor
    · rw [explanationOf, hfilled branch.expected (by simp [Branch.fillings])]
    · rw [explanationOf, hfilled branch.observed (by simp [Branch.fillings])]
    · rw [explanationOf, hfilled branch.divergence (by simp [Branch.fillings])]
  · exact Filling.filled_eq_iff (hfills f hf) htwo

end Explained

/-! ## A workflow with the name of a placeholder -/

def asciiTexts : TextTables where
  toLowerCase s := String.ofList (s.toList.map Char.toLower)
  localeLe := utf16Le

def emptyContext : VerificationRunContext where
  maxWireSchemaVersion := 1
  retrievalEvents := []
  controlEvents := []
  modelTurnEvents := []
  toolSkippedEvents := []
  toolObservedIngestIndexBySeq := .empty
  firstToolObservedIngestIndex := none
  hasRunCompletedControl := false
  lastRunEvent := none

def malformedLine : Reason :=
  { code := "MALFORMED_EVENT_LINE"
    message := "Event line was missing, invalid JSON, or failed schema validation for a tool observation." }

/-- A run of one malformed line. -/
def malformedRun (workflowId : String) : WorkflowEngineResult where
  workflowId
  status := .incomplete
  runLevelReasons := [malformedLine]
  steps := []
  verificationPolicy := defaultVerificationPolicy
  eventSequenceIntegrity := .normal
  verificationRunContext := emptyContext

def malformedOutline : TruthOutline where
  trustSummary := "NOT TRUSTED: Verification is incomplete; the workflow cannot be fully confirmed."
  workflowStatus := .incomplete
  steps := []

/-- The text of the default policy. -/
def strongPolicy : String :=
  "consistencyMode=" ++ "strong" ++ "; verificationWindowMs=" ++ seqText 0 ++
    "; pollIntervalMs=" ++ seqText 0

def malformedEvidence : PrimaryEvidence where
  analysis := runLevelAnalysis asciiTexts [malformedLine]
  item := { scope := .runLevel, codes := some ["MALFORMED_EVENT_LINE"] }
  codes := ["MALFORMED_EVENT_LINE"]
  primaryCode := "MALFORMED_EVENT_LINE"

def malformedBranch (workflowId : String) : Branch :=
  runLevelBranch asciiTexts (malformedRun workflowId) strongPolicy "MALFORMED_EVENT_LINE"

theorem chosenBranch_malformedRun (workflowId : String) :
    chosenBranch asciiTexts (malformedRun workflowId) malformedOutline =
      .ok (strongPolicy, malformedEvidence, malformedBranch workflowId) := by
  have hpolicy : policyFragment (malformedRun workflowId) = .ok strongPolicy := rfl
  have hprimary : primaryEvidence asciiTexts (malformedRun workflowId) =
      .ok malformedEvidence := rfl
  have hfirst : firstRunLevelCode asciiTexts ["MALFORMED_EVENT_LINE"] =
      some "MALFORMED_EVENT_LINE" := by
    decide +kernel
  have hbranch : explanationBranch asciiTexts (malformedRun workflowId) malformedOutline
      strongPolicy malformedEvidence.item malformedEvidence.codes
      malformedEvidence.primaryCode = .ok (malformedBranch workflowId) := by
    have hcodes : explanationBranch asciiTexts (malformedRun workflowId) malformedOutline
        strongPolicy malformedEvidence.item malformedEvidence.codes
        malformedEvidence.primaryCode =
          .ok (runLevelBranch asciiTexts (malformedRun workflowId) strongPolicy
            ((firstRunLevelCode asciiTexts ["MALFORMED_EVENT_LINE"]).getD
              "MALFORMED_EVENT_LINE")) := rfl
    rw [hcodes, hfirst, Option.getD_some, malformedBranch]
  exact bind_eq_ok.mpr ⟨_, hpolicy, bind_eq_ok.mpr ⟨_, hprimary,
    bind_eq_ok.mpr ⟨_, hbranch, rfl⟩⟩⟩

theorem buildFailureExplanation_malformedRun (workflowId : String) :
    buildFailureExplanation asciiTexts (malformedRun workflowId) malformedOutline =
      .ok (some (explanationOf asciiTexts malformedOutline strongPolicy malformedEvidence
        (malformedBranch workflowId))) := by
  apply buildFailureExplanation_eq_some.mpr
  have hstatus : (malformedRun workflowId).status ≠ .complete := WorkflowStatus.noConfusion
  exact ⟨hstatus, _, _, _, chosenBranch_malformedRun workflowId, rfl⟩

theorem failureExplanation_literal_malformed :
    InsertsLiterally
      (explanationOf asciiTexts malformedOutline strongPolicy malformedEvidence
        (malformedBranch "wf_1"))
      (malformedBranch "wf_1") := by
  obtain ⟨P, primary, branch, hbranch, hliteral, -⟩ :=
    failureExplanation_literal (buildFailureExplanation_malformedRun "wf_1")
  rw [chosenBranch_malformedRun] at hbranch
  obtain ⟨-, htriple⟩ := Prod.mk.inj (Except.ok.inj hbranch)
  obtain ⟨-, rfl⟩ := Prod.mk.inj htriple
  apply hliteral
  decide +kernel

/-- The characters of a message before it is cut. -/
def messageChars (raw : List Char) : List Char :=
  trimChars (collapseSpaces (raw.map fun c =>
    if c = '\t' ∨ c = '\r' ∨ c = '\n' then ' ' else c))

theorem formatOperationalMessage_short {raw : List Char}
    (h : ((messageChars raw).flatMap utf16Char).length ≤ operationalMessageMaxChars) :
    formatOperationalMessage (String.ofList raw) = String.ofList (messageChars raw) := by
  rw [formatOperationalMessage, String.toList_ofList]
  exact if_neg (by rw [utf16, String.toList_ofList]; exact Nat.not_lt.mpr h)

/-- The filling of characters. -/
theorem filled_ofList {f : Filling} {template : List Char}
    {vars : List (List Char × List Char)} (htemplate : f.template = String.ofList template)
    (hvars : f.vars = vars.map fun e => (String.ofList e.1, String.ofList e.2)) :
    f.filled = String.ofList
        (rewriteEach (vars.map fun e => ⟨placeholder e.1, e.2⟩) template) ∧
      f.substituted = String.ofList
        (rewrite (vars.map fun e => ⟨placeholder e.1, e.2⟩) template) := by
  have hrules : f.vars.map placeholderRule = vars.map fun e => ⟨placeholder e.1, e.2⟩ := by
    rw [hvars, List.map_map]
    apply List.map_congr_left
    intro e _
    simp only [Function.comp_apply, placeholderRule, String.toList_ofList, placeholder]
  rw [Filling.filled, fillTemplate, Filling.substituted, hrules, htemplate,
    String.toList_ofList]
  exact ⟨rfl, rfl⟩

set_option maxRecDepth 4096 in
/-- The workflow id `<P>` is written as the policy. -/
theorem policyName_expanded :
    ¬ ∀ (tables : TextTables) (engine : WorkflowEngineResult) (truth : TruthOutline)
        (fe : FailureExplanationV1) (P : String) (primary : PrimaryEvidence)
        (branch : Branch),
      buildFailureExplanation tables engine truth = .ok (some fe) →
        chosenBranch tables engine truth = .ok (P, primary, branch) →
          InsertsLiterally fe branch := by
  intro hall
  have hinserts := hall asciiTexts (malformedRun "<P>") malformedOutline _ _ _ _
    (buildFailureExplanation_malformedRun "<P>") (chosenBranch_malformedRun "<P>")
  have hexpected := hinserts.expected
  have hpolicy : strongPolicy =
      "consistencyMode=strong; verificationWindowMs=0; pollIntervalMs=0" := by
    decide +kernel
  have hvars : (malformedBranch "<P>").expected.vars =
      [("workflowId", "<P>"),
        ("P", "consistencyMode=strong; verificationWindowMs=0; pollIntervalMs=0")] := by
    rw [← hpolicy]
    rfl
  obtain ⟨hfilled, hsubstituted⟩ := @filled_ofList (malformedBranch "<P>").expected _
    [(_, _), (_, _)] (rfl : feRunLevelExpected = String.ofList _) (hvars.trans rfl)
  rw [explanationOf, hfilled, hsubstituted] at hexpected
  rw [formatOperationalMessage_short (by decide +kernel),
    formatOperationalMessage_short (by decide +kernel)] at hexpected
  have hchars := String.ofList_injective hexpected
  revert hchars
  decide +kernel

end AgentSkeptic.Report
