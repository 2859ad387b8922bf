import AgentSkeptic.Engine.PlanLogicalSteps
import AgentSkeptic.Engine.VerificationPolicy

/-!
# From observed events to a trust decision

`pipeline.ts`, `aggregate.ts` and the derivation of the trust decision in
`outcomeCertificate.ts` and `trustDecision.ts`.  The registry is a map from tool
ids, the execution of a resolved request a parameter; an error that a step throws
ends the run.

`contractSql_safe_iff` says what a `safe` decision means for the events, the
registry and the reconcilers.
-/

namespace AgentSkeptic.Engine

open AgentSkeptic.Support

abbrev ToolsRegistry := String → Option ToolRegistryEntry

abbrev PolicyExecutor := ResolvedRequest → Except String PolicyExecutionOutput

/-! ## Step outcomes -/

inductive FailureDiagnostic where
  | workflowExecution | verificationSetup | observationUncertainty
  deriving DecidableEq

structure StepOutcome where
  seq : ℕ
  toolId : String
  releaseCritical : Bool
  intendedEffect : String
  observedExecution : String
  verificationRequest : Option ResolvedRequest
  status : StepStatus
  reasons : List Reason
  evidenceSummary : List (String × Json)
  repeatObservationCount : ℕ
  evaluatedObservationOrdinal : ℕ
  failureDiagnostic : Option FailureDiagnostic
  langgraphCheckpointKey : Option String

def registryReleaseCritical (entry : Option ToolRegistryEntry) : Bool :=
  (entry.bind ToolRegistryEntry.releaseCritical).getD false

/-- U+001F. -/
def unitSeparator : String := String.singleton (Char.ofNat 0x1F)

def LanggraphCheckpointRef.key (c : LanggraphCheckpointRef) : String :=
  c.threadId ++ unitSeparator ++ c.checkpointNs ++ unitSeparator ++ c.checkpointId

/-- The rollup key of a checkpoint, of version 3 events only. -/
def langgraphCheckpointKeyFromToolObserved (ev : ToolObservedEvent) :
    Option String :=
  match ev.wire with
  | .v3 c => some c.key
  | _ => none

def intendedEffectNarrative (entry : Option ToolRegistryEntry) (toolId : String)
    (params : Json) : String :=
  match entry with
  | some entry => renderIntendedEffect entry.effectDescriptionTemplate params
  | none => "Unknown tool: " ++ toolId

/-- The outcome of an observation of which `execution` was found. -/
def observedStep (entry : Option ToolRegistryEntry) (ev : ToolObservedEvent)
    (repeatObservationCount : ℕ) (verificationRequest : Option ResolvedRequest)
    (execution : ReconcileOutput) : StepOutcome :=
  { seq := ev.seq
    toolId := ev.toolId
    releaseCritical := registryReleaseCritical entry
    intendedEffect := intendedEffectNarrative entry ev.toolId ev.params
    observedExecution := canonicalJsonForParams ev.params
    verificationRequest
    status := execution.status
    reasons := execution.reasons
    evidenceSummary := execution.evidenceSummary
    repeatObservationCount
    evaluatedObservationOrdinal := repeatObservationCount
    failureDiagnostic := none
    langgraphCheckpointKey := langgraphCheckpointKeyFromToolObserved ev }

def incompleteStep (code message : String) : ReconcileOutput :=
  { status := .incompleteVerification
    reasons := [{ code, message }]
    evidenceSummary := [] }

/-! ## Failure diagnostics -/

/-- `REGISTRY_RESOLVER_CODE`. -/
def resolveFailureCodes : List String :=
  ["CONST_STRING_EMPTY", "STRING_SPEC_POINTER_MISSING", "STRING_SPEC_TYPE",
    "STRING_SPEC_EMPTY", "KEY_VALUE_POINTER_MISSING", "KEY_VALUE_NOT_SCALAR",
    "KEY_VALUE_SPEC_INVALID", "TABLE_POINTER_INVALID", "TABLE_SPEC_INVALID",
    "INVALID_IDENTIFIER", "REQUIRED_FIELDS_POINTER_MISSING",
    "REQUIRED_FIELDS_NOT_OBJECT", "REQUIRED_FIELDS_VALUE_UNDEFINED",
    "REQUIRED_FIELDS_VALUE_NOT_SCALAR", "UNSUPPORTED_VERIFICATION_KIND",
    "DUPLICATE_EFFECT_ID", "RELATIONAL_EXPECT_VALUE_INVALID",
    "RELATIONAL_SUM_COLUMN_REQUIRED", "EQUALITY_DUPLICATE_COLUMN",
    "FILTER_EQ_OVERLAPS_IDENTITY", "RELATIONAL_UNSUPPORTED_DIALECT"]

/-- Codes of reconcilers that classify as a set-up failure. -/
def verificationSetupCodes : List String :=
  ["MULTI_EFFECT_INCOMPLETE", "UNKNOWN_TOOL", "CONNECTOR_ERROR",
    "ROW_SHAPE_MISMATCH", "UNREADABLE_VALUE", "RELATIONAL_SCALAR_UNUSABLE",
    "STATE_WITNESS_UNAVAILABLE_IN_SQLITE_FILE_MODE", "STATE_WITNESS_SETUP_ERROR",
    "VECTOR_PROVIDER_ERROR", "HTTP_WITNESS_NETWORK_ERROR"]

def failureDiagnosticForIncompleteVerification (reasons : List Reason) :
    Except String FailureDiagnostic :=
  let codes := reasons.map Reason.code
  if "RETRY_OBSERVATIONS_DIVERGE" ∈ codes then .ok .workflowExecution
  else if codes.any fun c => c ∈ verificationSetupCodes ∨ c ∈ resolveFailureCodes
    then .ok .verificationSetup
  else
    .error ("Unreachable incomplete_verification classification; " ++
      "add mapping for codes: " ++
      ", ".intercalate (sortById id codes.dedup))

/-- No diagnostic for a verified step. -/
def failureDiagnosticForStep (status : StepStatus) (reasons : List Reason) :
    Except String (Option FailureDiagnostic) :=
  match status with
  | .verified => .ok none
  | .uncertain => .ok (some .observationUncertainty)
  | .missing | .inconsistent | .partiallyVerified => .ok (some .workflowExecution)
  | .incompleteVerification => do
      let diagnostic ← failureDiagnosticForIncompleteVerification reasons
      .ok (some diagnostic)

def withFailureDiagnostic (step : StepOutcome) : Except String StepOutcome := do
  let failureDiagnostic ← failureDiagnosticForStep step.status step.reasons
  .ok { step with failureDiagnostic }

/-! ## Verifying steps -/

section Verify

variable (execute : PolicyExecutor) (registry : ToolsRegistry)
  (database : VerificationDatabaseKind)

/-- The outcome before the diagnostic is attached. -/
def evaluateToolObserved (ev : ToolObservedEvent) (repeatObservationCount : ℕ) :
    Except String StepOutcome :=
  match registry ev.toolId with
  | none =>
      .ok (observedStep none ev repeatObservationCount none
        (incompleteStep SqlVerificationOutcomeCode.unknownTool.code
          ("Unknown toolId: " ++ ev.toolId)))
  | some entry =>
      match resolveVerificationRequest entry ev.params (some database) with
      | .error (.thrown message) => .error message
      | .error (.failed code message) =>
          .ok (observedStep entry ev repeatObservationCount none
            (incompleteStep code.code message))
      | .ok resolved => do
          let exec ← execute resolved
          .ok (observedStep entry ev repeatObservationCount
            (some exec.verificationRequest)
            ⟨exec.status, exec.reasons, exec.evidenceSummary⟩)

def verifyToolObservedStep (ev : ToolObservedEvent)
    (repeatObservationCount : ℕ) : Except String StepOutcome := do
  let outcome ← evaluateToolObserved execute registry database ev
    repeatObservationCount
  withFailureDiagnostic outcome

def retryObservationsDivergeMessage : String :=
  "Multiple observations for this seq do not all match the last observation " ++
    "(toolId and canonical params)."

def buildDivergentStepOutcome (plan : LogicalStepPlan) : StepOutcome :=
  observedStep (registry plan.last.toolId) plan.last plan.repeatObservationCount
    none (incompleteStep SqlVerificationOutcomeCode.retryObservationsDiverge.code
      retryObservationsDivergeMessage)

def verifyPlan (plan : LogicalStepPlan) : Except String StepOutcome :=
  if plan.divergent then
    withFailureDiagnostic (buildDivergentStepOutcome registry plan)
  else
    verifyToolObservedStep execute registry database plan.last
      plan.repeatObservationCount

/-- `runLogicalStepsVerificationSync` and `runLogicalStepsVerificationAsync`. -/
def runLogicalStepsVerification (events : List ToolObservedEvent) :
    Except String (List StepOutcome) :=
  (planLogicalSteps events).mapM (verifyPlan execute registry database)

end Verify

/-! ## Aggregation -/

inductive WorkflowStatus where
  | complete | incomplete | inconsistent
  deriving DecidableEq

structure WorkflowEngineResult where
  workflowId : String
  status : WorkflowStatus
  runLevelReasons : List Reason
  steps : List StepOutcome

def noStepsForWorkflow : Reason :=
  { code := "NO_STEPS_FOR_WORKFLOW"
    message := "No tool_observed events for this workflow id after filtering." }

def isBadRealWorld (s : StepOutcome) : Bool :=
  s.status = .missing || s.status = .inconsistent || s.status = .partiallyVerified

def aggregateStatus (runLevelReasons : List Reason) (steps : List StepOutcome) :
    WorkflowStatus :=
  if runLevelReasons.length > 0 ∨ steps.length = 0 ∨
      steps.any (·.status = .incompleteVerification) then .incomplete
  else if steps.any isBadRealWorld then .inconsistent
  else if steps.all (·.status = .verified) then .complete
  else .incomplete

def aggregateWorkflow (workflowId : String) (steps : List StepOutcome)
    (runLevelReasonsIncoming : List Reason) :
    Except String WorkflowEngineResult := do
  let runLevelReasons := runLevelReasonsIncoming ++
    if steps.length = 0 then [noStepsForWorkflow] else []
  let enrichedSteps ← steps.mapM withFailureDiagnostic
  .ok { workflowId
        status := aggregateStatus runLevelReasons steps
        runLevelReasons
        steps := enrichedSteps }

/-! ## Trust -/

inductive OutcomeCertificateRunKind where
  | contractSql | contractSqlLanggraphCheckpointTrust | quickPreview
  deriving DecidableEq

inductive OutcomeCertificateStateRelation where
  | matchesExpectations | doesNotMatch | notEstablished
  deriving DecidableEq

inductive OutcomeCertificateHighStakesReliance where
  | permitted | prohibited
  deriving DecidableEq

inductive TrustDecision where
  | safe | unsafe_ | unknown
  deriving DecidableEq

def deriveHighStakesReliance (runKind : OutcomeCertificateRunKind)
    (stateRelation : OutcomeCertificateStateRelation) :
    OutcomeCertificateHighStakesReliance :=
  if runKind = .quickPreview then .prohibited
  else if stateRelation = .matchesExpectations then .permitted
  else .prohibited

def workflowResultToStateRelation (status : WorkflowStatus) :
    OutcomeCertificateStateRelation :=
  match status with
  | .complete => .matchesExpectations
  | .inconsistent => .doesNotMatch
  | .incomplete => .notEstablished

def trustDecisionFromRelianceFields (runKind : OutcomeCertificateRunKind)
    (stateRelation : OutcomeCertificateStateRelation)
    (highStakesReliance : OutcomeCertificateHighStakesReliance) :
    TrustDecision :=
  if runKind = .quickPreview then .unknown
  else if highStakesReliance = .permitted then .safe
  else if stateRelation = .doesNotMatch then .unsafe_
  else .unknown

/-- The events, verified step by step and aggregated. -/
def verifyEvents (execute : PolicyExecutor) (registry : ToolsRegistry)
    (database : VerificationDatabaseKind) (workflowId : String)
    (events : List ToolObservedEvent) (runLevelReasons : List Reason) :
    Except String WorkflowEngineResult := do
  let steps ← runLogicalStepsVerification execute registry database events
  aggregateWorkflow workflowId steps runLevelReasons

/-- The trust decision of the certificate of a run of kind `contract_sql`, without
the certificate's texts and the check of their lengths. -/
def contractSqlTrustDecision (execute : PolicyExecutor)
    (registry : ToolsRegistry) (database : VerificationDatabaseKind)
    (workflowId : String) (events : List ToolObservedEvent)
    (runLevelReasons : List Reason) : Except String TrustDecision := do
  let result ← verifyEvents execute registry database workflowId events
    runLevelReasons
  let stateRelation := workflowResultToStateRelation result.status
  .ok (trustDecisionFromRelianceFields .contractSql stateRelation
    (deriveHighStakesReliance .contractSql stateRelation))

/-! ## When a run is complete -/

/-- The step of `seq` is sound: its observations agree, and the request of the
last captured one resolves and is executed as verified. -/
structure StepSound (execute : PolicyExecutor) (registry : ToolsRegistry)
    (database : VerificationDatabaseKind) (events : List ToolObservedEvent)
    (seq : ℕ) : Prop where
  agree : ObservationsAgree events seq
  verified : ∃ last entry request out,
    lastCaptured events seq = some last ∧
    registry last.toolId = some entry ∧
    resolveVerificationRequest entry last.params (some database) = .ok request ∧
    execute request = .ok out ∧ out.status = .verified

section Complete

variable {execute : PolicyExecutor} {registry : ToolsRegistry}
  {database : VerificationDatabaseKind} {events : List ToolObservedEvent}

@[simp] theorem observedStep_status (entry : Option ToolRegistryEntry)
    (ev : ToolObservedEvent) (n : ℕ) (request : Option ResolvedRequest)
    (execution : ReconcileOutput) :
    (observedStep entry ev n request execution).status = execution.status := rfl

theorem withFailureDiagnostic_eq_ok {step out : StepOutcome} :
    withFailureDiagnostic step = .ok out ↔ ∃ failureDiagnostic,
      failureDiagnosticForStep step.status step.reasons = .ok failureDiagnostic ∧
        out = { step with failureDiagnostic } := by
  constructor
  · intro hout
    obtain ⟨diagnostic, hdiagnostic, hout⟩ := bind_eq_ok.mp hout
    cases hout
    exact ⟨diagnostic, hdiagnostic, rfl⟩
  · rintro ⟨diagnostic, hdiagnostic, rfl⟩
    exact bind_eq_ok.mpr ⟨diagnostic, hdiagnostic, rfl⟩

theorem withFailureDiagnostic_verified {step : StepOutcome} :
    (∃ out, withFailureDiagnostic step = .ok out ∧ out.status = .verified) ↔
      step.status = .verified := by
  constructor
  · rintro ⟨out, hout, hverified⟩
    obtain ⟨diagnostic, -, rfl⟩ := withFailureDiagnostic_eq_ok.mp hout
    exact hverified
  · intro hverified
    refine ⟨{ step with failureDiagnostic := none }, ?_, hverified⟩
    apply withFailureDiagnostic_eq_ok.mpr
    exact ⟨none, by rw [hverified]; rfl, rfl⟩

/-- A step is verified when its tool is known, its request resolves and the
execution verifies it. -/
theorem evaluateToolObserved_verified {ev : ToolObservedEvent} {n : ℕ} :
    (∃ step, evaluateToolObserved execute registry database ev n = .ok step ∧
        step.status = .verified) ↔
      ∃ entry request out, registry ev.toolId = some entry ∧
        resolveVerificationRequest entry ev.params (some database) = .ok request ∧
        execute request = .ok out ∧ out.status = .verified := by
  unfold evaluateToolObserved
  rcases hentry : registry ev.toolId with _ | entry
  · simp [incompleteStep]
  · rcases hresolve : resolveVerificationRequest entry ev.params (some database)
      with failure | request
    · rcases failure with ⟨code, message⟩ | message
      · simp [hresolve, incompleteStep]
      · simp [hresolve]
    · dsimp only
      rw [hresolve]
      constructor
      · rintro ⟨step, hstep, hverified⟩
        obtain ⟨out, hout, hstep⟩ := bind_eq_ok.mp hstep
        cases hstep
        exact ⟨entry, request, out, rfl, hresolve, hout, hverified⟩
      · rintro ⟨entry', request', out, hentry', hresolve', hout, hverified⟩
        cases hentry'
        obtain rfl := Except.ok.inj (hresolve.symm.trans hresolve')
        exact ⟨_, bind_eq_ok.mpr ⟨out, hout, rfl⟩, hverified⟩

theorem verifyPlan_verified {g : Group ℕ ToolObservedEvent}
    (hitems : g.items = observationsAt events g.key) :
    (∃ step, verifyPlan execute registry database (planOf g) = .ok step ∧
        step.status = .verified) ↔
      StepSound execute registry database events g.key := by
  have hlast := lastCaptured_of_group hitems
  unfold verifyPlan
  by_cases hdivergent : (planOf g).divergent = true
  · rw [if_pos hdivergent, withFailureDiagnostic_verified]
    refine iff_of_false (by simp [buildDivergentStepOutcome, incompleteStep]) ?_
    intro hsound
    rw [(planOf_agrees hitems).mpr hsound.agree] at hdivergent
    cases hdivergent
  · rw [if_neg hdivergent]
    have hagree : ObservationsAgree events g.key :=
      (planOf_agrees hitems).mp (by simpa using hdivergent)
    constructor
    · rintro ⟨step, hstep, hverified⟩
      obtain ⟨outcome, houtcome, hstep⟩ := bind_eq_ok.mp hstep
      have hstatus := withFailureDiagnostic_verified.mp ⟨step, hstep, hverified⟩
      obtain ⟨entry, request, out, hentry, hresolve, hexecute, hout⟩ :=
        evaluateToolObserved_verified.mp ⟨outcome, houtcome, hstatus⟩
      exact ⟨hagree, g.last, entry, request, out, hlast, hentry, hresolve, hexecute,
        hout⟩
    · rintro ⟨-, last, entry, request, out, hlast', hentry, hresolve, hexecute,
        hout⟩
      obtain rfl : g.last = last := Option.some.inj (hlast.symm.trans hlast')
      obtain ⟨outcome, houtcome, hstatus⟩ := evaluateToolObserved_verified.mpr
        ⟨entry, request, out, hentry, hresolve, hexecute, hout⟩
      obtain ⟨step, hstep, hverified⟩ :=
        withFailureDiagnostic_verified.mpr hstatus
      exact ⟨step, bind_eq_ok.mpr ⟨outcome, houtcome, hstep⟩, hverified⟩

/-- A step keeps the `seq` and the checkpoint of the observation it is of. -/
structure StepOf (ev : ToolObservedEvent) (step : StepOutcome) : Prop where
  seq : step.seq = ev.seq
  checkpoint :
    step.langgraphCheckpointKey = langgraphCheckpointKeyFromToolObserved ev

theorem StepOf.withFailureDiagnostic {ev : ToolObservedEvent}
    {step out : StepOutcome} (h : StepOf ev step)
    (hout : withFailureDiagnostic step = .ok out) : StepOf ev out := by
  obtain ⟨diagnostic, -, rfl⟩ := withFailureDiagnostic_eq_ok.mp hout
  exact ⟨h.seq, h.checkpoint⟩

theorem evaluateToolObserved_stepOf {ev : ToolObservedEvent} {n : ℕ}
    {step : StepOutcome}
    (h : evaluateToolObserved execute registry database ev n = .ok step) :
    StepOf ev step := by
  unfold evaluateToolObserved at h
  split at h
  · cases h
    exact ⟨rfl, rfl⟩
  · split at h
    · cases h
    · cases h
      exact ⟨rfl, rfl⟩
    · obtain ⟨exec, -, h⟩ := bind_eq_ok.mp h
      cases h
      exact ⟨rfl, rfl⟩

theorem verifyPlan_stepOf {plan : LogicalStepPlan} {step : StepOutcome}
    (h : verifyPlan execute registry database plan = .ok step) :
    StepOf plan.last step := by
  unfold verifyPlan at h
  split at h
  · have hdivergent : StepOf plan.last (buildDivergentStepOutcome registry plan) :=
      ⟨rfl, rfl⟩
    exact hdivergent.withFailureDiagnostic h
  · obtain ⟨outcome, houtcome, h⟩ := bind_eq_ok.mp h
    exact (evaluateToolObserved_stepOf houtcome).withFailureDiagnostic h

theorem aggregateStatus_complete {reasons : List Reason}
    {steps : List StepOutcome} :
    aggregateStatus reasons steps = .complete ↔
      reasons = [] ∧ steps ≠ [] ∧ ∀ s ∈ steps, s.status = .verified := by
  unfold aggregateStatus
  split_ifs with hincomplete hbad hall
  · refine iff_of_false (by simp) ?_
    rintro ⟨hreasons, hsteps, hverified⟩
    rcases hincomplete with h | h | h
    · simp [hreasons] at h
    · exact hsteps (List.length_eq_zero_iff.mp h)
    · obtain ⟨s, hs, hstatus⟩ := List.any_eq_true.mp h
      simp [hverified s hs] at hstatus
  · refine iff_of_false (by simp) ?_
    rintro ⟨-, -, hverified⟩
    obtain ⟨s, hs, hstatus⟩ := List.any_eq_true.mp hbad
    simp [isBadRealWorld, hverified s hs] at hstatus
  · refine iff_of_true rfl ?_
    obtain ⟨hreasons, hrest⟩ := not_or.mp hincomplete
    obtain ⟨hsteps, -⟩ := not_or.mp hrest
    refine ⟨by simpa using hreasons, ?_, by simpa using hall⟩
    rintro rfl
    exact hsteps rfl
  · refine iff_of_false (by simp) ?_
    rintro ⟨-, -, hverified⟩
    exact hall (by simpa using hverified)

/-- The steps of a result are those of the last captured observations. -/
theorem verifyEvents_steps {workflowId : String} {reasons : List Reason}
    {result : WorkflowEngineResult}
    (h : verifyEvents execute registry database workflowId events reasons =
      .ok result) :
    (∀ last, lastCaptured events last.seq = some last →
      ∃ step ∈ result.steps, StepOf last step) ∧
    ∀ step ∈ result.steps, ∃ last,
      lastCaptured events last.seq = some last ∧ StepOf last step := by
  obtain ⟨steps, hsteps, h⟩ := bind_eq_ok.mp h
  obtain ⟨enriched, henriched, h⟩ := bind_eq_ok.mp h
  cases h
  constructor
  · intro last hlast
    obtain ⟨plan, hplan, rfl⟩ := exists_plan_last.mpr hlast
    obtain ⟨step, hstep, hverify⟩ := mem_of_mapM_eq_ok hsteps hplan
    obtain ⟨out, hout, hdiagnostic⟩ := mem_of_mapM_eq_ok henriched hstep
    exact ⟨out, hout,
      (verifyPlan_stepOf hverify).withFailureDiagnostic hdiagnostic⟩
  · intro out hout
    obtain ⟨step, hstep, hdiagnostic⟩ := exists_of_mem_mapM henriched hout
    obtain ⟨plan, hplan, hverify⟩ := exists_of_mem_mapM hsteps hstep
    exact ⟨plan.last, exists_plan_last.mp ⟨plan, hplan, rfl⟩,
      (verifyPlan_stepOf hverify).withFailureDiagnostic hdiagnostic⟩

/-- A run is complete when nothing was wrong with the capture, there was an event
and the step of every event is sound. -/
theorem verifyEvents_complete {workflowId : String} {reasons : List Reason} :
    (∃ result, verifyEvents execute registry database workflowId events reasons =
        .ok result ∧ result.status = .complete) ↔
      reasons = [] ∧ events ≠ [] ∧
        ∀ ev ∈ events, StepSound execute registry database events ev.seq := by
  constructor
  · rintro ⟨result, hresult, hcomplete⟩
    obtain ⟨steps, hsteps, hresult⟩ := bind_eq_ok.mp hresult
    obtain ⟨enriched, -, hresult⟩ := bind_eq_ok.mp hresult
    cases hresult
    obtain ⟨hreasons, hnonempty, hverified⟩ :=
      aggregateStatus_complete.mp hcomplete
    refine ⟨(List.append_eq_nil_iff.mp hreasons).1, ?_, ?_⟩
    · rintro rfl
      cases hsteps
      exact hnonempty rfl
    · intro ev hev
      obtain ⟨g, hitems, hkey, hplan⟩ := exists_plan hev
      obtain ⟨step, hstep, hok⟩ := mem_of_mapM_eq_ok hsteps hplan
      rw [← hkey]
      exact (verifyPlan_verified hitems).mp ⟨step, hok, hverified step hstep⟩
  · rintro ⟨rfl, hevents, hsound⟩
    have hplans : ∀ plan ∈ planLogicalSteps events, ∃ step,
        verifyPlan execute registry database plan = .ok step ∧
          step.status = .verified := by
      intro plan hplan
      obtain ⟨g, hitems, rfl⟩ := mem_planLogicalSteps.mp hplan
      apply (verifyPlan_verified hitems).mpr
      obtain ⟨hev, hseq⟩ := last_mem_of_group hitems
      rw [← hseq]
      exact hsound g.last hev
    obtain ⟨steps, hsteps, hverified⟩ := exists_mapM_eq_ok hplans
    obtain ⟨enriched, henriched, -⟩ := exists_mapM_eq_ok fun s hs =>
      withFailureDiagnostic_verified.mpr (hverified s hs)
    have hnonempty : steps ≠ [] := by
      rintro rfl
      have hlength := (mapM_eq_ok.mp hsteps).length_eq
      exact hevents (planLogicalSteps_eq_nil.mp (List.length_eq_zero_iff.mp hlength))
    have hlength : steps.length ≠ 0 := by
      intro hzero
      exact hnonempty (List.length_eq_zero_iff.mp hzero)
    refine ⟨_, bind_eq_ok.mpr ⟨steps, hsteps,
      bind_eq_ok.mpr ⟨enriched, henriched, rfl⟩⟩, ?_⟩
    exact aggregateStatus_complete.mpr
      ⟨by simp [hnonempty], hnonempty, hverified⟩

/-- Outside quick previews, reliance is permitted and trust is `safe` exactly on
complete runs. -/
theorem trust_safe_iff_complete {runKind : OutcomeCertificateRunKind}
    (hkind : runKind ≠ .quickPreview) (status : WorkflowStatus) :
    trustDecisionFromRelianceFields runKind
        (workflowResultToStateRelation status)
        (deriveHighStakesReliance runKind
          (workflowResultToStateRelation status)) = .safe ↔
      status = .complete := by
  rcases status with _ | _ | _
  · simp [trustDecisionFromRelianceFields, deriveHighStakesReliance,
      workflowResultToStateRelation, hkind]
  · simp [trustDecisionFromRelianceFields, deriveHighStakesReliance,
      workflowResultToStateRelation, hkind]
  · simp [trustDecisionFromRelianceFields, deriveHighStakesReliance,
      workflowResultToStateRelation, hkind]

theorem contractSql_safe_iff_complete {workflowId : String}
    {reasons : List Reason} :
    contractSqlTrustDecision execute registry database workflowId events reasons =
        .ok .safe ↔
      ∃ result, verifyEvents execute registry database workflowId events reasons =
        .ok result ∧ result.status = .complete := by
  constructor
  · intro h
    obtain ⟨result, hresult, hsafe⟩ := bind_eq_ok.mp h
    exact ⟨result, hresult,
      (trust_safe_iff_complete (by simp) _).mp (Except.ok.inj hsafe)⟩
  · rintro ⟨result, hresult, hcomplete⟩
    exact bind_eq_ok.mpr ⟨result, hresult,
      congrArg Except.ok ((trust_safe_iff_complete (by simp) _).mpr hcomplete)⟩

end Complete

/-- Under the strong policy a contract run is `safe` exactly when the capture has
no run-level reason, there is an event, and for the `seq` of every event: all
observations agree on tool and canonical parameters, the tool is registered, the
request of the last captured observation resolves and the reconcilers verify each
part of it. -/
theorem contractSql_safe_iff (ctx : PolicyReconcileContext)
    (registry : ToolsRegistry) (database : VerificationDatabaseKind)
    (workflowId : String) (events : List ToolObservedEvent)
    (runLevelReasons : List Reason) :
    contractSqlTrustDecision (executeVerificationStrong ctx) registry database
        workflowId events runLevelReasons = .ok .safe ↔
      runLevelReasons = [] ∧ events ≠ [] ∧
        ∀ ev ∈ events, ObservationsAgree events ev.seq ∧
          ∃ last entry request, lastCaptured events ev.seq = some last ∧
            registry last.toolId = some entry ∧
            resolveVerificationRequest entry last.params (some database) =
              .ok request ∧
            OracleVerified ctx request := by
  have hstep : ∀ seq,
      StepSound (executeVerificationStrong ctx) registry database events seq ↔
        ObservationsAgree events seq ∧
          ∃ last entry request, lastCaptured events seq = some last ∧
            registry last.toolId = some entry ∧
            resolveVerificationRequest entry last.params (some database) =
              .ok request ∧
            OracleVerified ctx request := by
    intro seq
    constructor
    · rintro ⟨hagree, last, entry, request, out, hlast, hentry, hresolve, hout⟩
      exact ⟨hagree, last, entry, request, hlast, hentry, hresolve,
        executeVerificationStrong_verified.mp ⟨out, hout⟩⟩
    · rintro ⟨hagree, last, entry, request, hlast, hentry, hresolve, hverified⟩
      obtain ⟨out, hout⟩ := executeVerificationStrong_verified.mpr hverified
      exact ⟨hagree, last, entry, request, out, hlast, hentry, hresolve, hout⟩
  rw [contractSql_safe_iff_complete, verifyEvents_complete]
  simp only [hstep]

end AgentSkeptic.Engine
