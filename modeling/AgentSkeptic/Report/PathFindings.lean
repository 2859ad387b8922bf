import AgentSkeptic.Report.FailureAnalysis

/-!
# Execution-path findings

`executionPathFindings.ts`: what the run graph shows beside the verdicts of the steps.
Every finding has one of fifteen codes; what stands in its evidence comes from the events
and the reasons.
-/

namespace AgentSkeptic.Report

open AgentSkeptic.Support AgentSkeptic.Engine AgentSkeptic.Events

/-! ## Findings -/

inductive PathFindingSeverity where
  | high | medium | low
  deriving DecidableEq

def PathFindingSeverity.text : PathFindingSeverity → String
  | high => "high"
  | medium => "medium"
  | low => "low"

inductive PathConcernCategory where
  | contextQuality | decisionExecution | toolSelectionExecution | actionInputsInvalid
  | workflowCompleteness | captureIntegrity
  deriving DecidableEq

def PathConcernCategory.text : PathConcernCategory → String
  | contextQuality => "context_quality"
  | decisionExecution => "decision_execution"
  | toolSelectionExecution => "tool_selection_execution"
  | actionInputsInvalid => "action_inputs_invalid"
  | workflowCompleteness => "workflow_completeness"
  | captureIntegrity => "capture_integrity"

structure ExecutionPathEvidenceItem where
  scope : EvidenceScope
  codes : Option (List String) := none
  ingestIndex : Option ℕ := none
  seq : Option ℕ := none
  toolId : Option String := none
  source : Option String := none
  /-- An id may be `null`. -/
  runEventId : Option (Option String) := none

structure ExecutionPathFinding where
  code : String
  severity : PathFindingSeverity
  concernCategory : PathConcernCategory
  message : String
  evidence : ExecutionPathEvidenceItem

/-- `ACTION_INPUT_REASON_CODES`. -/
def actionInputReasonCodes : List String := "UNKNOWN_TOOL" :: resolveFailureCodes

/-- `RECONCILER_STEP_REASON_CODES`: the codes that have a phrase. -/
def reconcilerStepReasonCodes : List String := sqlVerificationPhrases.map Prod.fst

/-- `EXECUTION_PATH_FINDING_CODES`. -/
def executionPathFindingCodes : List String :=
  ["RETRIEVAL_EMPTY", "RETRIEVAL_ERROR", "RETRIEVAL_THIN_HITS", "NO_RETRIEVAL_EVENTS",
    "MODEL_TURN_ABNORMAL", "CONTROL_INTERRUPT", "BRANCH_OR_GATE_SKIPPED", "TOOL_SKIPPED",
    "ACTION_INPUT_RESOLUTION_FAILED", "MISSING_RUN_COMPLETED", "LOGICAL_STEP_RETRIES",
    "RETRY_OBSERVATIONS_DIVERGE", "LAST_EVENT_MODEL_ABNORMAL", "RUN_LEVEL_INGEST_ISSUES",
    "EVENT_SEQUENCE_IRREGULAR"]

/-- `RECONCILER_CODE_OK_AS_PATH_FINDING_CODE`. -/
def reconcilerCodeOkAsPathFindingCode : List String := ["RETRY_OBSERVATIONS_DIVERGE"]

/-! ## What each part of the run adds -/

section Findings

variable (tables : TextTables)

def runLevelFindings (runLevelReasons : List Reason) : List ExecutionPathFinding :=
  if runLevelReasons.length > 0 then
    let codes := sortUniqueCodes tables (runLevelReasons.map Reason.code)
    [{ code := "RUN_LEVEL_INGEST_ISSUES"
       severity := .high
       concernCategory := .captureIntegrity
       message := "Run-level ingest or parse issues (" ++ ", ".intercalate codes ++ ")."
       evidence := { scope := .runLevel, codes := some codes } }]
  else []

def eventSequenceFindings : EventSequenceIntegrity → List ExecutionPathFinding
  | .normal => []
  | .irregular reasons =>
      let codes := sortUniqueCodes tables (reasons.map Reason.code)
      [{ code := "EVENT_SEQUENCE_IRREGULAR"
         severity := .medium
         concernCategory := .captureIntegrity
         message := "Event capture order or timestamps were irregular (" ++
           ", ".intercalate codes ++ ")."
         evidence := { scope := .eventSequence, codes := some codes } }]

/-- A finding of a retrieval, whose code is also its evidence. -/
def retrievalFinding (r : RetrievalRow) (code : String) (severity : PathFindingSeverity)
    (outcome : String) : ExecutionPathFinding :=
  { code
    severity
    concernCategory := .contextQuality
    message := "Retrieval from \"" ++ r.source ++ "\" " ++ outcome
    evidence :=
      { scope := .runContext, ingestIndex := some r.ingestIndex, source := some r.source,
        runEventId := some r.runEventId, codes := some [code] } }

def retrievalFindings (r : RetrievalRow) : List ExecutionPathFinding :=
  match r.status with
  | .empty => [retrievalFinding r "RETRIEVAL_EMPTY" .high "returned empty."]
  | .error => [retrievalFinding r "RETRIEVAL_ERROR" .high "failed."]
  | .ok =>
      if r.hitCount = some 0 then
        [retrievalFinding r "RETRIEVAL_THIN_HITS" .medium "reported ok with hitCount 0."]
      else []

/-- Events of version 2 or 3 with an observation. -/
def isObservedGraph (ctx : VerificationRunContext) : Bool :=
  (ctx.maxWireSchemaVersion = 2 ∨ ctx.maxWireSchemaVersion = 3) ∧
    ctx.firstToolObservedIngestIndex.isSome

def missingRetrievalFindings (ctx : VerificationRunContext) : List ExecutionPathFinding :=
  if isObservedGraph ctx ∧ ctx.retrievalEvents.length = 0 then
    [{ code := "NO_RETRIEVAL_EVENTS"
       severity := .low
       concernCategory := .contextQuality
       message := "No retrieval events recorded before tool observations (coarse " ++
         "missing-context signal)."
       evidence := { scope := .runContext, codes := some ["NO_RETRIEVAL_EVENTS"] } }]
  else []

def modelTurnFindings (m : ModelTurnRow) : List ExecutionPathFinding :=
  if m.status = .error ∨ m.status = .aborted ∨ m.status = .incomplete then
    [{ code := "MODEL_TURN_ABNORMAL"
       severity := .high
       concernCategory := .decisionExecution
       message := "Model turn ended with status " ++ m.status.text ++ "."
       evidence :=
         { scope := .runContext, ingestIndex := some m.ingestIndex,
           runEventId := some m.runEventId,
           codes := some ["MODEL_TURN_" ++ m.status.upperText] } }]
  else []

def controlFindings (c : ControlRow) : List ExecutionPathFinding :=
  if c.controlKind = .interrupt then
    [{ code := "CONTROL_INTERRUPT"
       severity := .high
       concernCategory := .decisionExecution
       message := "Control interrupt recorded in run graph."
       evidence :=
         { scope := .runContext, ingestIndex := some c.ingestIndex,
           runEventId := some c.runEventId, codes := some ["CONTROL_INTERRUPT"] } }]
  else if (c.controlKind = .branch ∨ c.controlKind = .gate) ∧ c.decision = some .skipped then
    [{ code := "BRANCH_OR_GATE_SKIPPED"
       severity := .medium
       concernCategory := .decisionExecution
       message := c.controlKind.text ++ " path was skipped."
       evidence :=
         { scope := .runContext, ingestIndex := some c.ingestIndex,
           runEventId := some c.runEventId,
           codes := some ["CONTROL_" ++ c.controlKind.upperText ++ "_SKIPPED"] } }]
  else []

def toolSkippedFinding (s : ToolSkippedRow) : ExecutionPathFinding :=
  { code := "TOOL_SKIPPED"
    severity := .medium
    concernCategory := .toolSelectionExecution
    message := "Tool " ++ s.toolId ++ " was skipped."
    evidence :=
      { scope := .runContext, ingestIndex := some s.ingestIndex, toolId := some s.toolId,
        codes := some ["TOOL_SKIPPED"] } }

/-- The evidence of a step. -/
def stepEvidence (step : StepOutcome) (code : String) : ExecutionPathEvidenceItem :=
  { scope := .step, seq := some step.seq, toolId := some step.toolId, codes := some [code] }

/-- The finding of an incomplete step, by its first reason. -/
def incompleteStepFindings (step : StepOutcome) : List ExecutionPathFinding :=
  match step.reasons.head?.map Reason.code with
  | none => []
  | some primary =>
      if primary ∈ actionInputReasonCodes then
        [{ code := "ACTION_INPUT_RESOLUTION_FAILED"
           severity := .high
           concernCategory := .actionInputsInvalid
           message := "Tool " ++ step.toolId ++ " at seq " ++ seqText step.seq ++
             ": parameter/registry resolution failed (" ++ primary ++ ")."
           evidence := stepEvidence step primary }]
      else if primary = "RETRY_OBSERVATIONS_DIVERGE" then
        [{ code := "RETRY_OBSERVATIONS_DIVERGE"
           severity := .medium
           concernCategory := .workflowCompleteness
           message := "Seq " ++ seqText step.seq ++ " tool " ++ step.toolId ++
             ": repeated observations diverged."
           evidence := stepEvidence step primary }]
      else []

def stepFindings (step : StepOutcome) : List ExecutionPathFinding :=
  (if step.status = .incompleteVerification then incompleteStepFindings step else []) ++
  if step.repeatObservationCount > 1 then
    [{ code := "LOGICAL_STEP_RETRIES"
       severity := .low
       concernCategory := .workflowCompleteness
       message := "Seq " ++ seqText step.seq ++ " tool " ++ step.toolId ++ ": " ++
         seqText step.repeatObservationCount ++ " observations for one logical step."
       evidence := stepEvidence step "LOGICAL_STEP_RETRIES" }]
  else []

def missingRunCompletedFindings (ctx : VerificationRunContext) :
    List ExecutionPathFinding :=
  if isObservedGraph ctx ∧ ¬ ctx.hasRunCompletedControl then
    [{ code := "MISSING_RUN_COMPLETED"
       severity := .medium
       concernCategory := .workflowCompleteness
       message := "No run_completed control event after tool observations (v2 graph)."
       evidence := { scope := .runContext, codes := some ["MISSING_RUN_COMPLETED"] } }]
  else []

def lastEventFindings (last : LastRunEvent) : List ExecutionPathFinding :=
  match last.modelTurnStatus with
  | none => []
  | some status =>
      if last.type = .modelTurn ∧ status ≠ .completed then
        [{ code := "LAST_EVENT_MODEL_ABNORMAL"
           severity := .high
           concernCategory := .workflowCompleteness
           message := "Last captured event is model_turn with status " ++ status.text ++ "."
           evidence :=
             { scope := .runContext, ingestIndex := some last.ingestIndex,
               codes := some ["MODEL_TURN_" ++ status.upperText] } }]
      else []

/-! ## The findings of a run -/

/-- The findings in the order in which they are pushed. -/
def collectedFindings (engine : WorkflowEngineResult) : List ExecutionPathFinding :=
  let ctx := engine.verificationRunContext
  runLevelFindings tables engine.runLevelReasons ++
  eventSequenceFindings tables engine.eventSequenceIntegrity ++
  ctx.retrievalEvents.flatMap retrievalFindings ++
  missingRetrievalFindings ctx ++
  ctx.modelTurnEvents.flatMap modelTurnFindings ++
  ctx.controlEvents.flatMap controlFindings ++
  ctx.toolSkippedEvents.map toolSkippedFinding ++
  engine.steps.flatMap stepFindings ++
  missingRunCompletedFindings ctx ++
  ctx.lastRunEvent.elim [] lastEventFindings

/-- A position, or `-1` where there is none. -/
def positionText (position : Option ℕ) : String := position.elim "-1" seqText

def findingKey (f : ExecutionPathFinding) : String :=
  f.code ++ "\u0000" ++ positionText f.evidence.ingestIndex ++ "\u0000" ++
    positionText f.evidence.seq ++ "\u0000" ++ f.evidence.toolId.getD ""

/-- The first finding of each key. -/
def dedupeFindings (findings : List ExecutionPathFinding) : List ExecutionPathFinding :=
  (findings.foldl
    (fun (seen, out) f =>
      if findingKey f ∈ seen then (seen, out) else (findingKey f :: seen, out ++ [f]))
    (([] : List String), [])).2

def buildExecutionPathFindings (engine : WorkflowEngineResult) :
    Except ReportError (List ExecutionPathFinding) :=
  let deduped := dedupeFindings (collectedFindings tables engine)
  match deduped.find? fun f =>
      f.code ∉ executionPathFindingCodes ∨
        (f.code ∈ reconcilerStepReasonCodes ∧ f.code ∉ reconcilerCodeOkAsPathFindingCode) with
  | none => .ok deduped
  | some f =>
      if f.code ∉ executionPathFindingCodes then
        .error (.other ("Internal error: unknown execution path finding code " ++ f.code))
      else
        .error (.other ("Internal error: reconciler code leaked into path finding: " ++
          f.code))

def summaryV1NoConcerns : String :=
  "Full upstream execution-path visibility requires schemaVersion 2 run events " ++
    "(retrieval, model_turn, control, tool_skipped) with run graph fields."

def summaryV2Clear : String := "No execution-path concerns detected under current rules."

def buildExecutionPathSummary (findings : List ExecutionPathFinding)
    (maxWireSchemaVersion : ℕ) : String :=
  if findings.length = 0 then
    if maxWireSchemaVersion = 1 then summaryV1NoConcerns else summaryV2Clear
  else
    "execution_path_concerns=" ++ seqText findings.length ++ "; codes=" ++
      ",".intercalate (sortUniqueCodes tables (findings.map ExecutionPathFinding.code))

end Findings

/-! ## Codes of findings -/

/-- Every finding has one of the codes. -/
def Coded (findings : List ExecutionPathFinding) : Prop :=
  ∀ f ∈ findings, f.code ∈ executionPathFindingCodes

namespace Coded

theorem nil : Coded [] := fun _ h => absurd h List.not_mem_nil

theorem one {f : ExecutionPathFinding} (h : f.code ∈ executionPathFindingCodes) :
    Coded [f] := by
  intro g hg
  rwa [List.mem_singleton.mp hg]

theorem append {xs ys : List ExecutionPathFinding} (hxs : Coded xs) (hys : Coded ys) :
    Coded (xs ++ ys) := by
  intro f hf
  exact (List.mem_append.mp hf).elim (hxs f) (hys f)

theorem ite {p : Prop} [Decidable p] {xs ys : List ExecutionPathFinding} (hxs : Coded xs)
    (hys : Coded ys) : Coded (if p then xs else ys) := by
  split
  · exact hxs
  · exact hys

theorem flatMap {α : Type} {add : α → List ExecutionPathFinding} (h : ∀ x, Coded (add x))
    (events : List α) : Coded (events.flatMap add) := by
  intro f hf
  obtain ⟨x, -, hx⟩ := List.mem_flatMap.mp hf
  exact h x f hx

end Coded

section Coded

variable (tables : TextTables)

theorem runLevelFindings_coded (reasons : List Reason) :
    Coded (runLevelFindings tables reasons) :=
  .ite (.one (by simp [executionPathFindingCodes])) .nil

theorem eventSequenceFindings_coded (integrity : EventSequenceIntegrity) :
    Coded (eventSequenceFindings tables integrity) := by
  cases integrity with
  | normal => exact .nil
  | irregular reasons => exact .one (by simp [executionPathFindingCodes])

theorem retrievalFindings_coded (r : RetrievalRow) : Coded (retrievalFindings r) := by
  rw [retrievalFindings]
  split
  · exact .one (by simp [retrievalFinding, executionPathFindingCodes])
  · exact .one (by simp [retrievalFinding, executionPathFindingCodes])
  · exact .ite (.one (by simp [retrievalFinding, executionPathFindingCodes])) .nil

theorem incompleteStepFindings_coded (step : StepOutcome) :
    Coded (incompleteStepFindings step) := by
  rw [incompleteStepFindings]
  split
  · exact .nil
  · exact .ite (.one (by simp [executionPathFindingCodes]))
      (.ite (.one (by simp [executionPathFindingCodes])) .nil)

theorem lastEventFindings_coded (last : LastRunEvent) : Coded (lastEventFindings last) := by
  rw [lastEventFindings]
  split
  · exact .nil
  · exact .ite (.one (by simp [executionPathFindingCodes])) .nil

/-- Every finding that is pushed has one of the codes. -/
theorem collectedFindings_coded (engine : WorkflowEngineResult) :
    Coded (collectedFindings tables engine) := by
  have hmissing : Coded (missingRetrievalFindings engine.verificationRunContext) :=
    .ite (.one (by simp [executionPathFindingCodes])) .nil
  have hturn (m : ModelTurnRow) : Coded (modelTurnFindings m) :=
    .ite (.one (by simp [executionPathFindingCodes])) .nil
  have hcontrol (c : ControlRow) : Coded (controlFindings c) :=
    .ite (.one (by simp [executionPathFindingCodes]))
      (.ite (.one (by simp [executionPathFindingCodes])) .nil)
  have hskipped : Coded
      (engine.verificationRunContext.toolSkippedEvents.map toolSkippedFinding) := by
    intro f hf
    obtain ⟨s, -, rfl⟩ := List.mem_map.mp hf
    simp [toolSkippedFinding, executionPathFindingCodes]
  have hstep (step : StepOutcome) : Coded (stepFindings step) :=
    .append (.ite (incompleteStepFindings_coded step) .nil)
      (.ite (.one (by simp [executionPathFindingCodes])) .nil)
  have hcompleted : Coded (missingRunCompletedFindings engine.verificationRunContext) :=
    .ite (.one (by simp [executionPathFindingCodes])) .nil
  have hlast : Coded
      (engine.verificationRunContext.lastRunEvent.elim [] lastEventFindings) := by
    cases engine.verificationRunContext.lastRunEvent with
    | none => exact .nil
    | some last => exact lastEventFindings_coded last
  exact .append (.append (.append (.append (.append (.append (.append (.append (.append
    (runLevelFindings_coded tables _) (eventSequenceFindings_coded tables _))
    (.flatMap retrievalFindings_coded _)) hmissing) (.flatMap hturn _))
    (.flatMap hcontrol _)) hskipped) (.flatMap hstep _)) hcompleted) hlast

end Coded

theorem mem_of_mem_dedupeFindings {findings : List ExecutionPathFinding}
    {f : ExecutionPathFinding} (h : f ∈ dedupeFindings findings) : f ∈ findings := by
  have hkept : ∀ state : List String × List ExecutionPathFinding,
      f ∈ (findings.foldl (fun (seen, out) g =>
        if findingKey g ∈ seen then (seen, out) else (findingKey g :: seen, out ++ [g]))
        state).2 → f ∈ state.2 ∨ f ∈ findings := by
    clear h
    induction findings with
    | nil => exact fun _ h => .inl h
    | cons g findings ih =>
        rintro ⟨seen, out⟩ h
        have hstep := ih _ h
        by_cases hseen : findingKey g ∈ seen
        · simp only [if_pos hseen] at hstep
          exact hstep.imp_right (List.mem_cons_of_mem g)
        · simp only [if_neg hseen, List.mem_append, List.mem_singleton] at hstep
          rcases hstep with (hkept | rfl) | hrest
          · exact .inl hkept
          · exact .inr List.mem_cons_self
          · exact .inr (List.mem_cons_of_mem g hrest)
  exact (hkept ([], []) h).resolve_left List.not_mem_nil

/-- The checks of the codes never fail. -/
theorem buildExecutionPathFindings_eq (tables : TextTables) (engine : WorkflowEngineResult) :
    buildExecutionPathFindings tables engine =
      .ok (dedupeFindings (collectedFindings tables engine)) := by
  have hleak : ∀ code ∈ executionPathFindingCodes, code ∈ reconcilerStepReasonCodes →
      code ∈ reconcilerCodeOkAsPathFindingCode := by
    decide +kernel
  have hnone : (dedupeFindings (collectedFindings tables engine)).find? (fun f =>
      f.code ∉ executionPathFindingCodes ∨ (f.code ∈ reconcilerStepReasonCodes ∧
        f.code ∉ reconcilerCodeOkAsPathFindingCode)) = none := by
    rw [List.find?_eq_none]
    intro f hf
    have hcode := collectedFindings_coded tables engine f (mem_of_mem_dedupeFindings hf)
    rw [decide_eq_true_eq]
    rintro (hunknown | ⟨hreconciler, hleaked⟩)
    · exact hunknown hcode
    · exact hleaked (hleak f.code hcode hreconciler)
  rw [buildExecutionPathFindings, hnone]

end AgentSkeptic.Report
