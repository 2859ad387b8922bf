import AgentSkeptic.Engine.RowRequests
import AgentSkeptic.Engine.RunComparison
import AgentSkeptic.Report.ActionableFailure
import AgentSkeptic.Report.FailureExplanation

/-!
# Correctness definitions

`buildWorkflowCorrectnessDefinition` of `correctnessDefinition.ts` and the templates it
fills: what has to hold for the failure not to come back, as sentences and as a JSON value
that carries the request of the failing step.
-/

namespace AgentSkeptic.Report

open AgentSkeptic.Support AgentSkeptic.Engine

/-! ## Requests as JSON -/

def VectorProvider.text : VectorProvider → String
  | .pinecone => "pinecone"
  | .weaviate => "weaviate"
  | .chroma => "chroma"

def HttpMethod.text : HttpMethod → String
  | .get => "GET"
  | .post => "POST"

def pairJson (p : IdentityEqPair) : Json :=
  .obj [("column", .str p.column), ("value", .str p.value)]

def pairsJson (pairs : List IdentityEqPair) : Json := .arr (pairs.map pairJson)

def scalarsJson (fields : ScalarFields) : Json :=
  .obj (propertyOrder (fields.map fun m => (m.1, m.2.json)))

/-- A member that is left out when it has no value. -/
def textMember (key : String) (value : Option String) : List (String × Json) :=
  value.toList.map fun v => (key, .str v)

def sqlRowMembers (request : VerificationRequest) : List (String × Json) :=
  [("kind", .str "sql_row"), ("table", .str request.table),
    ("identityEq", pairsJson request.identityEq),
    ("requiredFields", scalarsJson request.requiredFields)]

def joinPairJson (p : JoinEqPair) : Json :=
  .obj [("side", .str p.side.text), ("column", .str p.column), ("value", .str p.value)]

def expectMembers (op : ExpectOp) (value : JsNumber) : List (String × Json) :=
  [("expectOp", .str op.text), ("expectValue", .num value)]

def relationalCheckJson (check : ResolvedRelationalCheck) : Json :=
  .obj ([("checkKind", .str check.body.checkKind), ("id", .str check.id)] ++
    match check.body with
    | .relatedExists childTable matchEq =>
        [("childTable", .str childTable), ("matchEq", pairsJson matchEq)]
    | .aggregate table fn sumColumn whereEq expectOp expectValue =>
        [("table", .str table), ("fn", .str fn.text)] ++ textMember "sumColumn" sumColumn ++
          [("whereEq", pairsJson whereEq)] ++ expectMembers expectOp expectValue
    | .joinCount leftTable rightTable leftJoinColumn rightJoinColumn whereEq expectOp
        expectValue =>
        [("leftTable", .str leftTable), ("rightTable", .str rightTable),
          ("leftJoinColumn", .str leftJoinColumn),
          ("rightJoinColumn", .str rightJoinColumn),
          ("whereEq", .arr (whereEq.map joinPairJson))] ++ expectMembers expectOp expectValue
    | .antiJoin anchorTable lookupTable anchorColumn lookupColumn lookupPresenceColumn
        filterEqAnchor filterEqLookup =>
        [("anchorTable", .str anchorTable), ("lookupTable", .str lookupTable),
          ("anchorColumn", .str anchorColumn), ("lookupColumn", .str lookupColumn),
          ("lookupPresenceColumn", .str lookupPresenceColumn),
          ("filterEqAnchor", pairsJson filterEqAnchor),
          ("filterEqLookup", pairsJson filterEqLookup)])

def assertionJson (a : HttpWitnessResolvedAssertion) : Json :=
  .obj [("jsonPointer", .str a.jsonPointer), ("value", a.value.json)]

def stateWitnessJson : StateWitnessRequest → Json
  | .vectorDocument req =>
      .obj ([("kind", .str "vector_document"),
        ("provider", .str (VectorProvider.text req.provider)),
        ("documentId", .str req.documentId), ("indexName", .str req.indexName)] ++
        textMember "namespace" req.namespace_ ++ textMember "host" req.host ++
        (req.metadataSubset.toList.map fun fields => ("metadataSubset", scalarsJson fields)) ++
        textMember "expectPayloadSha256" req.expectPayloadSha256)
  | .objectStorageObject req =>
      .obj ([("kind", .str "object_storage_object"), ("bucket", .str req.bucket),
        ("key", .str req.key)] ++ textMember "endpoint" req.endpoint ++
        (req.expectSizeBytes.toList.map fun size => ("expectSizeBytes", .num size)) ++
        textMember "expectSha256" req.expectSha256 ++ textMember "expectEtag" req.expectEtag)
  | .httpWitness req =>
      .obj ([("kind", .str "http_witness"), ("method", .str (HttpMethod.text req.method)),
        ("url", .str req.url), ("expectedStatus", .num req.expectedStatus)] ++
        (req.assertions.toList.map fun list => ("assertions", .arr (list.map assertionJson))))
  | .mongoDocument req =>
      .obj ([("kind", .str "mongo_document"), ("collection", .str req.collection)] ++
        evidenceMember "filter" req.filter ++
        [("requiredFields", scalarsJson req.requiredFields)])

def requestJson : ResolvedRequest → Json
  | .sqlRow request => .obj (sqlRowMembers request)
  | .sqlRowAbsent request =>
      .obj [("kind", .str "sql_row_absent"), ("table", .str request.table),
        ("identityEq", pairsJson request.identityEq), ("filterEq", pairsJson request.filterEq)]
  | .sqlEffects effects =>
      .obj [("kind", .str "sql_effects"),
        ("effects", .arr (effects.map fun e =>
          .obj (("id", .str e.id) :: sqlRowMembers e.request)))]
  | .sqlRelational checks =>
      .obj [("kind", .str "sql_relational"), ("checks", .arr (checks.map relationalCheckJson))]
  | .stateWitness request => stateWitnessJson request

/-! ## Templates -/

def templateRunIngestMustHold (workflowId P codes : String) (nonEmptySteps : Bool) : String :=
  let tail :=
    if nonEmptySteps then
      " The stream SHALL yield at least one tool_observed step for verification."
    else ""
  fillTemplate
    ("Must: ingest for workflowId=<workflowId> SHALL deliver a valid captured run under " ++
      "policy [<P>] with no blocking run-level failures (codes: <codes>)." ++ tail)
    [("workflowId", workflowId), ("P", P), ("codes", codes)]

def templateRunIngestEnforceAs (codes : String) : List String :=
  ["Ingest pipelines SHALL validate each event line against the wire event contract " ++
      "before verification.",
    fillTemplate
      ("CI or preflight SHALL reject captures that surface primary failure codes <codes> " ++
        "for this workflow under the same policy.")
      [("codes", codes)]]

def templateEventCaptureMustHold (workflowId P codes : String) : String :=
  fillTemplate
    ("Must: event capture for workflowId=<workflowId> SHALL preserve monotonic, " ++
      "well-formed ordering under policy [<P>] and SHALL NOT emit event-sequence fault " ++
      "codes <codes>.")
    [("workflowId", workflowId), ("P", P), ("codes", codes)]

def templateEventCaptureEnforceAs (codes : String) : List String :=
  ["Capture agents SHALL preserve capture-order and timestamp monotonicity rules required " ++
      "for seq-sorted verification.",
    fillTemplate
      ("Automated checks SHALL fail runs that include codes <codes> in the event_sequence " ++
        "integrity set.")
      [("codes", codes)]]

def templateRunContextMustHold (workflowId P I C codes : String) : String :=
  fillTemplate
    ("Must: before evaluating the failing tool observation at ingest_index=<I>, upstream " ++
      "run context SHALL satisfy contract <C> under policy [<P>] for " ++
      "workflowId=<workflowId> (primary codes: <codes>).")
    [("workflowId", workflowId), ("P", P), ("I", I), ("C", C), ("codes", codes)]

def templateRunContextEnforceAs (C : String) : List String :=
  ["Orchestration SHALL record retrieval, model turns, controls, and tool_skipped events " ++
      "so fairness can be checked at the failing ingest index.",
    fillTemplate
      ("Replays SHALL not evaluate downstream tool_observed steps when <C> is violated for " ++
        "that index.")
      [("C", C)]]

def templateStepRegistryMustHold (W S T P : String) : String :=
  fillTemplate
    ("Must: after tool_observed seq=<S> toolId=<T>, authoritative downstream state SHALL " ++
      "satisfy the verification contract in verificationRequest under policy [<P>] for " ++
      "workflowId=<W>.")
    [("W", W), ("S", S), ("T", T), ("P", P)]

def templateStepRegistryEnforceAs (S : String) : List String :=
  [fillTemplate
      ("Registry (or synthetic events plus registry) SHALL keep verificationRequest " ++
        "aligned with declared tool parameters for seq=<S>.")
      [("S", S)],
    "Read-only verification reads at verify time (SQL, HTTP witnesses, object metadata, " ++
      "vector fetches, Mongo findOne, etc.) SHALL match verificationRequest."]

def templatePlanTransitionMustHold (W S T P codes : String) : String :=
  fillTemplate
    ("Must: plan-validation step seq=<S> toolId=<T> SHALL satisfy declared plan rules " ++
      "under policy [<P>] for workflowId=<W> (primary codes: <codes>).")
    [("W", W), ("S", S), ("T", T), ("P", P), ("codes", codes)]

def templatePlanTransitionEnforceAs : List String :=
  ["Plan.md rules and git transition inputs SHALL remain aligned with the verification " ++
      "target for this step.",
    "CI SHALL re-run plan-transition verification after changing patterns or git refs " ++
      "implicated by this failure."]

/-! ## Definitions -/

inductive CorrectnessEnforcementKind where
  | runIngestIntegrity | eventCaptureIntegrity | runContextFairness
  | stepRegistryExpectation | planTransitionExpectation
  deriving DecidableEq

def CorrectnessEnforcementKind.text : CorrectnessEnforcementKind → String
  | runIngestIntegrity => "run_ingest_integrity"
  | eventCaptureIntegrity => "event_capture_integrity"
  | runContextFairness => "run_context_fairness"
  | stepRegistryExpectation => "step_registry_expectation"
  | planTransitionExpectation => "plan_transition_expectation"

structure CorrectnessDefinitionV1 where
  enforcementKind : CorrectnessEnforcementKind
  mustAlwaysHold : String
  enforceAs : List String
  enforceableProjection : Json
  remediationAlignment : Found RemediationRow

def primaryScopeMissing (message : String) : ReportError :=
  .invariant "CORRECTNESS_PRIMARY_SCOPE_MISSING" message

def planTransitionWorkflowId : String := "wf_plan_transition"

def mapRunContextCodeToContract (code : String) : Except ReportError String :=
  if code = "RETRIEVAL_ERROR" then .ok "retrieval_ok_before_observation"
  else if code = "MODEL_TURN_ERROR" ∨ code = "MODEL_TURN_ABORTED" ∨
      code = "MODEL_TURN_INCOMPLETE" then .ok "model_turn_completed_before_observation"
  else if code = "CONTROL_INTERRUPT" then .ok "no_interrupt_before_observation"
  else if code = "CONTROL_BRANCH_SKIPPED" then .ok "branch_not_skipped_before_observation"
  else if code = "CONTROL_GATE_SKIPPED" then .ok "gate_not_skipped_before_observation"
  else if code = "TOOL_SKIPPED" then .ok "tool_not_skipped_before_observation"
  else
    .error (.invariant "CORRECTNESS_UNKNOWN_RUN_CONTEXT_CODE"
      ("Unknown run_context primary code for correctness contract: " ++ code))

def codesJson (codes : List String) : Json := .arr (codes.map .str)

/-- A definition of filled templates and of the members of its projection. -/
def correctnessOf (kind : CorrectnessEnforcementKind) (mustHold : String)
    (enforceAs : List String) (projection : List (String × Json))
    (alignment : Found RemediationRow) : CorrectnessDefinitionV1 :=
  { enforcementKind := kind
    mustAlwaysHold := formatOperationalMessage mustHold
    enforceAs := enforceAs.map formatOperationalMessage
    enforceableProjection := .obj (("projectionKind", .str kind.text) :: projection)
    remediationAlignment := alignment }

section Definitions

variable (tables : TextTables) (engine : WorkflowEngineResult)

/-- Run-level failures, and a run without steps. -/
def runIngestDefinition (P : String) (codes : List String) (nonEmptySteps : Bool)
    (alignment : Found RemediationRow) : CorrectnessDefinitionV1 :=
  let codesStr := ",".intercalate codes
  correctnessOf .runIngestIntegrity
    (templateRunIngestMustHold engine.workflowId P codesStr nonEmptySteps)
    (templateRunIngestEnforceAs codesStr)
    [("workflowId", .str engine.workflowId), ("verificationPolicyFragment", .str P),
      ("primaryFailureCodes", codesJson codes),
      ("ingestContractRequirement",
        .str (if nonEmptySteps then "non_empty_tool_observed_steps"
          else "no_run_level_failures"))]
    alignment

def eventCaptureDefinition (P : String) (codes : List String)
    (alignment : Found RemediationRow) : CorrectnessDefinitionV1 :=
  let codesStr := ",".intercalate codes
  correctnessOf .eventCaptureIntegrity
    (templateEventCaptureMustHold engine.workflowId P codesStr)
    (templateEventCaptureEnforceAs codesStr)
    [("workflowId", .str engine.workflowId), ("verificationPolicyFragment", .str P),
      ("forbiddenEventSequenceCodes", codesJson codes)]
    alignment

def runContextDefinition (P : String) (codes : List String) (ingestIndex : Option ℕ)
    (alignment : Found RemediationRow) : Except ReportError CorrectnessDefinitionV1 :=
  match ingestIndex with
  | none =>
      .error (.invariant "CORRECTNESS_RUN_CONTEXT_INDEX_MISSING"
        "run_context correctness requires ingestIndex on primary evidence")
  | some index => do
      let contract ← mapRunContextCodeToContract (codes.head?.getD "")
      .ok (correctnessOf .runContextFairness
        (templateRunContextMustHold engine.workflowId P (seqText index) contract
          (",".intercalate codes))
        (templateRunContextEnforceAs contract)
        [("workflowId", .str engine.workflowId), ("verificationPolicyFragment", .str P),
          ("ingestIndex", intJson index), ("requiredUpstreamContract", .str contract),
          ("primaryRunContextCodes", codesJson codes)]
        alignment)

def stepDefinition (truthSteps : List WorkflowTruthStep) (P : String) (codes : List String)
    (e0 : FailureAnalysisEvidenceItem) (alignment : Found RemediationRow) :
    Except ReportError CorrectnessDefinitionV1 :=
  match e0.seq, e0.toolId with
  | some seq, some toolId =>
      match engine.steps.find? fun s => s.seq = seq ∧ s.toolId = toolId with
      | none =>
          .error (primaryScopeMissing "step correctness driver not found in engine.steps")
      | some driver =>
          match truthSteps.find? fun s => s.seq = seq ∧ s.toolId = toolId with
          | none => .error (primaryScopeMissing "step correctness truth step not found")
          | some truthStep =>
              if engine.workflowId = planTransitionWorkflowId then
                .ok (correctnessOf .planTransitionExpectation
                  (templatePlanTransitionMustHold engine.workflowId (seqText seq) toolId P
                    (",".intercalate codes))
                  templatePlanTransitionEnforceAs
                  [("workflowId", .str engine.workflowId),
                    ("verificationPolicyFragment", .str P), ("seq", intJson seq),
                    ("toolId", .str toolId),
                    ("verifyTarget", truthStep.verifyTarget.elim .null .str),
                    ("primaryCodes", codesJson codes)]
                  alignment)
              else
                .ok (correctnessOf .stepRegistryExpectation
                  (templateStepRegistryMustHold engine.workflowId (seqText seq) toolId P)
                  (templateStepRegistryEnforceAs (seqText seq))
                  [("workflowId", .str engine.workflowId),
                    ("verificationPolicyFragment", .str P), ("seq", intJson seq),
                    ("toolId", .str toolId),
                    ("verificationRequest",
                      driver.verificationRequest.elim .null requestJson)]
                  alignment)
  | _, _ =>
      .error (primaryScopeMissing "step correctness requires seq and toolId on primary evidence")

/-- A known fact of the explanation. -/
def knownFact (fe : FailureExplanationV1) (id : FailureExplanationFactId) : Option String :=
  (fe.knownFacts.find? (·.1 = id)).map Prod.snd

def buildWorkflowCorrectnessDefinition (fe : FailureExplanationV1) (fa : FailureAnalysisBase)
    (actionableFailure : ActionableFailure) (truthSteps : List WorkflowTruthStep) :
    Except ReportError CorrectnessDefinitionV1 :=
  match knownFact fe .primaryScope with
  | none =>
      .error (primaryScopeMissing "failureExplanation.knownFacts missing primary_scope")
  | some scopeRaw => do
      let P ← policyFragment engine
      match fa.evidence with
      | [] => .error .typeError
      | e0 :: _ =>
          let codes := sortUniqueCodes tables (e0.codes.getD [])
          let alignment := actionableFailure.remediation
          if scopeRaw = "step" ∧ "NO_STEPS_FOR_WORKFLOW" ∈ codes then
            .ok (runIngestDefinition engine P codes true alignment)
          else if scopeRaw = "run_level" then
            .ok (runIngestDefinition engine P codes false alignment)
          else if scopeRaw = "event_sequence" then
            .ok (eventCaptureDefinition engine P codes alignment)
          else if scopeRaw = "run_context" then
            runContextDefinition engine P codes e0.ingestIndex alignment
          else if scopeRaw = "step" then
            stepDefinition engine truthSteps P codes e0 alignment
          else
            .error (primaryScopeMissing
              ("Unsupported primary_scope for correctness: " ++ scopeRaw))

/-! ## What every definition is -/

/-- The definition is one of filled templates. -/
def Filled (cd : CorrectnessDefinitionV1) : Prop :=
  ∃ kind mustHold enforceAs projection alignment,
    cd = correctnessOf kind mustHold enforceAs projection alignment

theorem correctnessOf_filled (kind : CorrectnessEnforcementKind) (mustHold : String)
    (enforceAs : List String) (projection : List (String × Json))
    (alignment : Found RemediationRow) :
    Filled (correctnessOf kind mustHold enforceAs projection alignment) :=
  ⟨kind, mustHold, enforceAs, projection, alignment, rfl⟩

variable {tables engine}

theorem stepDefinition_filled {steps : List WorkflowTruthStep} {P : String}
    {codes : List String} {e0 : FailureAnalysisEvidenceItem}
    {alignment : Found RemediationRow} {cd : CorrectnessDefinitionV1}
    (h : stepDefinition engine steps P codes e0 alignment = .ok cd) : Filled cd := by
  rw [stepDefinition] at h
  split at h
  · split at h
    · exact absurd h nofun
    · split at h
      · exact absurd h nofun
      · split at h
        · obtain rfl := Except.ok.inj h
          exact correctnessOf_filled _ _ _ _ _
        · obtain rfl := Except.ok.inj h
          exact correctnessOf_filled _ _ _ _ _
  · exact absurd h nofun

theorem buildWorkflowCorrectnessDefinition_filled {fe : FailureExplanationV1}
    {fa : FailureAnalysisBase} {actionable : ActionableFailure}
    {steps : List WorkflowTruthStep} {cd : CorrectnessDefinitionV1}
    (h : buildWorkflowCorrectnessDefinition tables engine fe fa actionable steps = .ok cd) :
    Filled cd := by
  rw [buildWorkflowCorrectnessDefinition] at h
  split at h
  · exact absurd h nofun
  · obtain ⟨P, -, h⟩ := bind_eq_ok.mp h
    split at h
    · exact absurd h nofun
    · dsimp only at h
      split_ifs at h
      · obtain rfl := Except.ok.inj h
        exact correctnessOf_filled _ _ _ _ _
      · obtain rfl := Except.ok.inj h
        exact correctnessOf_filled _ _ _ _ _
      · obtain rfl := Except.ok.inj h
        exact correctnessOf_filled _ _ _ _ _
      · rw [runContextDefinition.eq_def] at h
        split at h
        · exact absurd h nofun
        · obtain ⟨contract, -, h⟩ := bind_eq_ok.mp h
          obtain rfl := Except.ok.inj h
          exact correctnessOf_filled _ _ _ _ _
      · exact stepDefinition_filled h

end Definitions

end AgentSkeptic.Report
