import AgentSkeptic.Events.RunEvents
import AgentSkeptic.Report.ReasonCatalog
import AgentSkeptic.Support.InsertionMap

/-!
# Failure analysis

`failureAnalysis.ts` over the engine results of `types.ts`: why a workflow is not
complete, from the run-level reasons, the run context before the first failing
observation, the event sequence and the failing steps, in this order.
-/

namespace AgentSkeptic.Report

open AgentSkeptic.Support AgentSkeptic.Engine AgentSkeptic.Events

/-! ## Engine results -/

inductive RetrievalStatus where
  | ok | empty | error
  deriving DecidableEq

inductive ModelTurnStatus where
  | completed | error | aborted | incomplete
  deriving DecidableEq

inductive ControlKind where
  | branch | loop | interrupt | gate | runCompleted
  deriving DecidableEq

inductive ControlDecision where
  | taken | skipped
  deriving DecidableEq

inductive RunEventType where
  | toolObserved | modelTurn | retrieval | control | toolSkipped
  deriving DecidableEq

def ModelTurnStatus.text : ModelTurnStatus → String
  | completed => "completed"
  | error => "error"
  | aborted => "aborted"
  | incomplete => "incomplete"

/-- `status.toUpperCase()`. -/
def ModelTurnStatus.upperText : ModelTurnStatus → String
  | completed => "COMPLETED"
  | error => "ERROR"
  | aborted => "ABORTED"
  | incomplete => "INCOMPLETE"

def ControlKind.text : ControlKind → String
  | branch => "branch"
  | loop => "loop"
  | interrupt => "interrupt"
  | gate => "gate"
  | runCompleted => "run_completed"

/-- `controlKind.toUpperCase()`. -/
def ControlKind.upperText : ControlKind → String
  | branch => "BRANCH"
  | loop => "LOOP"
  | interrupt => "INTERRUPT"
  | gate => "GATE"
  | runCompleted => "RUN_COMPLETED"

structure RetrievalRow where
  ingestIndex : ℕ
  runEventId : Option String
  source : String
  status : RetrievalStatus
  hitCount : Option ℕ

structure ControlRow where
  ingestIndex : ℕ
  runEventId : Option String
  controlKind : ControlKind
  decision : Option ControlDecision

structure ModelTurnRow where
  ingestIndex : ℕ
  runEventId : Option String
  status : ModelTurnStatus

structure ToolSkippedRow where
  ingestIndex : ℕ
  toolId : String

structure LastRunEvent where
  ingestIndex : ℕ
  type : RunEventType
  modelTurnStatus : Option ModelTurnStatus

/-- The digest of the run graph, with the members that the reports read. -/
structure VerificationRunContext where
  maxWireSchemaVersion : ℕ
  retrievalEvents : List RetrievalRow
  controlEvents : List ControlRow
  modelTurnEvents : List ModelTurnRow
  toolSkippedEvents : List ToolSkippedRow
  toolObservedIngestIndexBySeq : InsertionMap String ℕ
  firstToolObservedIngestIndex : Option ℕ
  hasRunCompletedControl : Bool
  lastRunEvent : Option LastRunEvent

/-- The result of the engine with what the reports need besides its steps. -/
structure WorkflowEngineResult extends Engine.WorkflowEngineResult where
  verificationPolicy : VerificationPolicy
  eventSequenceIntegrity : EventSequenceIntegrity
  verificationRunContext : VerificationRunContext

/-! ## Analyses -/

inductive FailureConfidence where
  | high | medium | low
  deriving DecidableEq

inductive EvidenceScope where
  | runContext | runLevel | eventSequence | step | effect
  deriving DecidableEq

structure FailureAnalysisEvidenceItem where
  scope : EvidenceScope
  codes : Option (List String) := none
  ingestIndex : Option ℕ := none
  seq : Option ℕ := none
  toolId : Option String := none
  effectId : Option String := none
  source : Option String := none
  /-- An id may be `null`. -/
  runEventId : Option (Option String) := none

structure FailureAnalysisAlternative where
  primaryOrigin : FailureOrigin
  rationale : String

structure FailureAnalysisBase where
  summary : String
  primaryOrigin : Found FailureOrigin
  confidence : FailureConfidence
  unknownReasonCodes : List String
  evidence : List FailureAnalysisEvidenceItem
  alternativeHypotheses : Option (List FailureAnalysisAlternative) := none

/-- What a report throws. -/
inductive ReportError where
  /-- A property of `null` or `undefined`, or a text where there is none. -/
  | typeError
  | invariant (code message : String)
  | other (message : String)
  deriving DecidableEq

/-! ## Codes -/

/-- `String(seq)`. -/
def seqText (seq : ℕ) : String := (JsNumber.int seq).toText

section Codes

variable (tables : TextTables)

/-- `[...new Set(codes)].sort((a, b) => a.localeCompare(b))`. -/
def sortUniqueCodes (codes : List String) : List String :=
  (InsertionMap.ofKeys codes).keys.insertionSort fun a b => tables.localeLe a b = true

/-- The first code, if there is one. -/
def minLex (codes : List String) : Option String := (sortUniqueCodes tables codes).head?

end Codes

def multiEffectRollupCodes : List String :=
  ["MULTI_EFFECT_PARTIAL", "MULTI_EFFECT_ALL_FAILED", "MULTI_EFFECT_INCOMPLETE",
    "MULTI_EFFECT_UNCERTAIN_WITHIN_WINDOW"]

/-- An effect row of the evidence, with its reasons as they are. -/
structure EvidenceRow where
  id : String
  status : String
  reasons : List Json

def evidenceRow? (row : Json) : Option EvidenceRow :=
  match row with
  | .obj members =>
      match ownMember members "id", ownMember members "status",
        ownMember members "reasons" with
      | some (.str id), some (.str status), some (.arr reasons) =>
          some ⟨id, status, reasons⟩
      | _, _, _ => none
  | _ => none

def parseEffects (evidenceSummary : List (String × Json)) : List EvidenceRow :=
  match ownMember evidenceSummary "effects" with
  | some (.arr raw) => raw.filterMap evidenceRow?
  | _ => []

/-- The rows that are not verified, in the order of their ids. -/
def failingEffects (tables : TextTables) (evidenceSummary : List (String × Json)) :
    List EvidenceRow :=
  ((parseEffects evidenceSummary).filter (·.status != "verified")).insertionSort fun a b =>
    tables.localeLe a.id b.id = true

/-- A text of a reason of an effect row, which the type `Reason` promises. -/
def reasonText (key : String) (reason : Json) : Except ReportError String :=
  match reason.member key with
  | .json (.str text) => .ok text
  | _ => .error .typeError

def StepStatus.rank : StepStatus → ℕ
  | .incompleteVerification => 0
  | .missing => 1
  | .inconsistent => 2
  | .partiallyVerified => 3
  | .uncertain => 4
  | .verified => 99

section Steps

variable (tables : TextTables)

def isRollup (code : Option String) : Bool := code.any (· ∈ multiEffectRollupCodes)

/-- The first reason of the first failing effect. -/
def firstEffectReason? (step : StepOutcome) : Option Json :=
  (failingEffects tables step.evidenceSummary).head?.bind (·.reasons.head?)

def rollupCode (step : StepOutcome) : Option String := step.reasons.head?.map Reason.code

def primaryCodeForStep (step : StepOutcome) : Except ReportError String :=
  let own := (rollupCode step).getD stepNoReasonCode
  if isRollup (rollupCode step) then
    match firstEffectReason? tables step with
    | some reason => reasonText "code" reason
    | none => .ok own
  else .ok own

/-- The comparator is not positive: by rank, then by seq, then by tool id. -/
def driverLe (a b : StepOutcome) : Bool :=
  StepStatus.rank a.status < StepStatus.rank b.status ||
    (StepStatus.rank a.status == StepStatus.rank b.status &&
      (a.seq < b.seq || (a.seq == b.seq && tables.localeLe a.toolId b.toolId)))

def normativeDriverStep (steps : List StepOutcome) : Option StepOutcome :=
  ((steps.filter (·.status ≠ .verified)).insertionSort fun a b =>
    driverLe tables a b = true).head?

/-- The distinct seqs of the failing steps. -/
def failingSeqSet (steps : List StepOutcome) : List ℕ :=
  (InsertionMap.ofKeys ((steps.filter (·.status ≠ .verified)).map StepOutcome.seq)).keys

/-- The capture index of the first failing observation. -/
def iFailForF (seqs : List ℕ) (ctx : VerificationRunContext) : Option ℕ :=
  (seqs.filterMap fun seq => ctx.toolObservedIngestIndexBySeq.get? (seqText seq)).min?

end Steps

/-! ## Summaries -/

def rationaleRowAbsentDownstream : String :=
  "The database has no row at the verified key; the tool log may not have committed a " ++
    "write, or replication lag prevented observation."

def rationaleRowAbsentToolUse : String :=
  "The database has no row at the verified key; the registry key/value or pointer " ++
    "resolution from tool params may not match the row that was written."

def rationaleValueMismatchDownstream : String :=
  "Stored column values differ from required fields; the live database state may have " ++
    "diverged from what the tool reported."

def rationaleValueMismatchInputs : String :=
  "Stored column values differ from required fields; registry pointers or consts used " ++
    "to build the verification request may not match the observation payload."

def rationaleBranchSkippedAlt : String :=
  "A branch or gate was skipped earlier in capture order; sequencing or capture may " ++
    "also explain the later verification outcome."

def alternativesForCode (primaryCode : String) : Option (List FailureAnalysisAlternative) :=
  if primaryCode = "ROW_ABSENT" then
    some [⟨.downstreamSystemState, rationaleRowAbsentDownstream⟩,
      ⟨.toolUse, rationaleRowAbsentToolUse⟩]
  else if primaryCode = "VALUE_MISMATCH" then
    some [⟨.downstreamSystemState, rationaleValueMismatchDownstream⟩,
      ⟨.inputs, rationaleValueMismatchInputs⟩]
  else none

/-- The phase of `buildSummary` with what it reads of the details. -/
inductive SummaryPhase where
  | p0 (codes : List String)
  | p1 (retrievalLabel : String)
  | p2
  | p2b
  | p3
  | p4 (eventCode : Option String)
  | p5 (driverStep : StepOutcome) (primaryCode : String)

def buildSummary (origin : Found FailureOrigin) : SummaryPhase → String
  | .p0 codes =>
      "Run-level ingest or planning issue (" ++ ", ".intercalate codes ++ "); origin: " ++
        origin.text FailureOrigin.text ++ "."
  | .p1 label =>
      "A retrieval step failed before the failing tool observation (" ++ label ++
        "); origin: retrieval."
  | .p2 =>
      "A model or control event indicates the run did not complete normally before the " ++
        "failing tool observation; origin: " ++ origin.text FailureOrigin.text ++ "."
  | .p2b =>
      "A branch or gate was skipped before the failing tool observation; " ++
        "decision-making may explain downstream behavior (see alternatives)."
  | .p3 => "A tool was skipped before the failing tool observation; origin: tool_use."
  | .p4 eventCode =>
      "Event capture order or timestamps were irregular (" ++ eventCode.getD "" ++
        "); origin: workflow_flow."
  | .p5 driverStep primaryCode =>
      "Primary failure at seq " ++ seqText driverStep.seq ++ " tool " ++
        driverStep.toolId ++ " (code " ++ primaryCode ++ "); origin: " ++
        origin.text FailureOrigin.text ++ "." ++
      (if isRollup (rollupCode driverStep) then
        " Multi-effect verification: authoritative per-effect outcomes are under " ++
          "workflowTruthReport.steps[].effects."
      else "")

/-! ## The analysis -/

section Analysis

variable (tables : TextTables)

/-- The origin of the least code that the table has, and the codes that it has not. -/
def originOfCodes (table : List (String × FailureOrigin)) (unique : List String) :
    Option String × Found FailureOrigin × List String :=
  let unknown := sortUniqueCodes tables (unique.filter fun c => !isIn table c)
  let known := unique.filter (isIn table)
  if known.length > 0 then
    let first := minLex tables known
    (first, ((first.bind (lookUp table)).getD (.own .workflowFlow)), unknown)
  else (minLex tables unique, .own .workflowFlow, unknown)

/-- P0. -/
def runLevelAnalysis (runLevelReasons : List Reason) : FailureAnalysisBase :=
  let codes := runLevelReasons.map Reason.code
  let unique := sortUniqueCodes tables codes
  let (_, origin, unknownReasonCodes) := originOfCodes tables runLevelCodeToOrigin unique
  { summary := buildSummary origin (.p0 unique)
    primaryOrigin := origin
    confidence :=
      if unknownReasonCodes.length > 0 then .low
      else if (InsertionMap.ofKeys codes).keys.length = 1 then .high
      else .medium
    unknownReasonCodes
    evidence := [{ scope := .runLevel, codes := some unique }] }

/-- An analysis of one event of the run context. -/
def contextAnalysis (origin : FailureOrigin) (phase : SummaryPhase)
    (confidence : FailureConfidence) (evidence : FailureAnalysisEvidenceItem) :
    FailureAnalysisBase :=
  { summary := buildSummary (.own origin) phase
    primaryOrigin := .own origin
    confidence
    unknownReasonCodes := []
    evidence := [evidence] }

/-- P1 to P3: the first kind of event before the failing observation that explains it. -/
def runContextAnalysis (ctx : VerificationRunContext) (iFail : ℕ) :
    Option FailureAnalysisBase :=
  match ctx.retrievalEvents.filter fun e => e.status = .error ∧ e.ingestIndex < iFail with
  | e0 :: rest =>
      some { contextAnalysis .retrieval (.p1 e0.source) .high { scope := .runContext } with
        evidence := (e0 :: rest).map fun e =>
          { scope := .runContext
            ingestIndex := some e.ingestIndex
            source := some e.source
            runEventId := some e.runEventId
            codes := some ["RETRIEVAL_ERROR"] } }
  | [] =>
    match ctx.modelTurnEvents.find? fun e =>
        (e.status = .error ∨ e.status = .aborted ∨ e.status = .incomplete) ∧
          e.ingestIndex < iFail with
    | some e =>
        some (contextAnalysis .decisionMaking .p2 .high
          { scope := .runContext
            ingestIndex := some e.ingestIndex
            runEventId := some e.runEventId
            codes := some ["MODEL_TURN_" ++ e.status.upperText] })
    | none =>
      match ctx.controlEvents.find? fun e =>
          e.controlKind = .interrupt ∧ e.ingestIndex < iFail with
      | some e =>
          some (contextAnalysis .decisionMaking .p2 .high
            { scope := .runContext
              ingestIndex := some e.ingestIndex
              runEventId := some e.runEventId
              codes := some ["CONTROL_INTERRUPT"] })
      | none =>
        match ctx.controlEvents.find? fun e =>
            (e.controlKind = .branch ∨ e.controlKind = .gate) ∧
              e.decision = some .skipped ∧ e.ingestIndex < iFail with
        | some e =>
            some { contextAnalysis .decisionMaking .p2b .medium
              { scope := .runContext
                ingestIndex := some e.ingestIndex
                runEventId := some e.runEventId
                codes := some ["CONTROL_" ++ e.controlKind.upperText ++ "_SKIPPED"] } with
              alternativeHypotheses := some [⟨.workflowFlow, rationaleBranchSkippedAlt⟩] }
        | none =>
          match ctx.toolSkippedEvents.find? fun e => e.ingestIndex < iFail with
          | some e =>
              some (contextAnalysis .toolUse .p3 .medium
                { scope := .runContext
                  ingestIndex := some e.ingestIndex
                  toolId := some e.toolId
                  codes := some ["TOOL_SKIPPED"] })
          | none => none

/-- P4. -/
def eventSequenceAnalysis (reasons : List Reason) : FailureAnalysisBase :=
  let esCodes := sortUniqueCodes tables (reasons.map Reason.code)
  let (firstCode, origin, unknownReasonCodes) :=
    originOfCodes tables eventSequenceCodeToOrigin esCodes
  { summary := buildSummary origin (.p4 firstCode)
    primaryOrigin := origin
    confidence := if unknownReasonCodes.length > 0 then .low else .high
    unknownReasonCodes
    evidence := [{ scope := .eventSequence, codes := some esCodes }] }

def noStepsAnalysis : FailureAnalysisBase :=
  { summary := "No verification steps were produced; origin: workflow_flow."
    primaryOrigin := .own .workflowFlow
    confidence := .high
    unknownReasonCodes := []
    evidence := [{ scope := .step, codes := some ["NO_STEPS_FOR_WORKFLOW"] }] }

/-- The evidence of a failing effect beside that of its step. -/
def effectEvidence (driverStep : StepOutcome) (primaryCode : String) :
    List FailureAnalysisEvidenceItem :=
  if isRollup (rollupCode driverStep) ∧ rollupCode driverStep ≠ some primaryCode then
    match (failingEffects tables driverStep.evidenceSummary).head? with
    | some failing =>
        [{ scope := .effect, effectId := some failing.id, seq := some driverStep.seq,
           codes := some [primaryCode] }]
    | none => []
  else []

/-- P5, of the driver step and its code. -/
def stepAnalysis (driverStep : StepOutcome) (primaryCode : String) :
    FailureAnalysisBase :=
  let mappedOrigin := lookUp reasonCodeToOrigin primaryCode
  let origin := mappedOrigin.getD (.own .workflowFlow)
  let alts := alternativesForCode primaryCode
  { summary := buildSummary origin (.p5 driverStep primaryCode)
    primaryOrigin := origin
    confidence :=
      if primaryCode = stepNoReasonCode ∨ mappedOrigin.isNone then .low
      else if alts.isSome then .medium
      else .high
    unknownReasonCodes :=
      if isIn reasonCodeToOrigin primaryCode then []
      else sortUniqueCodes tables [primaryCode]
    evidence :=
      { scope := .step, seq := some driverStep.seq, toolId := some driverStep.toolId,
        codes := some [primaryCode] } :: effectEvidence tables driverStep primaryCode
    alternativeHypotheses := alts }

/-- P4 and P5. -/
def lateAnalysis (engine : WorkflowEngineResult) :
    Except ReportError FailureAnalysisBase :=
  match engine.eventSequenceIntegrity with
  | .irregular reasons => .ok (eventSequenceAnalysis tables reasons)
  | .normal =>
      if engine.steps.length = 0 then .ok noStepsAnalysis
      else
        match normativeDriverStep tables engine.steps with
        -- Without a failing step there is nothing to read a code of.
        | none => .error .typeError
        | some driverStep => do
            let primaryCode ← primaryCodeForStep tables driverStep
            .ok (stepAnalysis tables driverStep primaryCode)

def buildFailureAnalysis (engine : WorkflowEngineResult) :
    Except ReportError (Option FailureAnalysisBase) :=
  if engine.status = .complete then .ok none
  else if engine.runLevelReasons.length > 0 then
    .ok (some (runLevelAnalysis tables engine.runLevelReasons))
  else
    let iFail := iFailForF (failingSeqSet engine.steps) engine.verificationRunContext
    match iFail.bind (runContextAnalysis engine.verificationRunContext) with
    | some analysis => .ok (some analysis)
    | none => (lateAnalysis tables engine).map some

end Analysis

end AgentSkeptic.Report
