import AgentSkeptic.Engine.Pipeline

/-!
# The LangGraph production gate

`langGraphCheckpointTrustGate.ts` with the checkpoint verdicts of
`outcomeCertificate.ts`.  The verdicts roll up steps, not events: of the retries of
a step only the last captured one has its checkpoint looked at.  The texts of the
certificate and the check of their lengths, which can only reject it, are left out.

`productionGate_covers_steps` says which checkpoints a passed gate covers, and
`retried_checkpoint_uncovered` which it does not.
-/

namespace AgentSkeptic.Engine

open AgentSkeptic.Support

/-! ## Checkpoint verdicts -/

inductive CheckpointVerdict where
  | verified | inconsistent | incomplete
  deriving DecidableEq

structure OutcomeCertificateCheckpointVerdict where
  checkpointKey : String
  verdict : CheckpointVerdict
  seqs : List ℕ
  productionMeaning : String
  deriving DecidableEq

def rollupCheckpointGroupVerdict (outcomes : List StepOutcome) :
    CheckpointVerdict :=
  if outcomes.any (·.status = .incompleteVerification) then .incomplete
  else if outcomes.any isBadRealWorld then .inconsistent
  else if outcomes.all (·.status = .verified) then .verified
  else .incomplete

def checkpointProductionMeaning (verdict : CheckpointVerdict) : String :=
  match verdict with
  | .verified => "Production may advance under this checkpoint identity."
  | .inconsistent =>
      "Do not advance production for this checkpoint identity until traces and " ++
        "database agree."
  | .incomplete =>
      "Verification is incomplete for this checkpoint identity; production gate " ++
        "remains closed."

/-- The steps that have a checkpoint, each with its key. -/
def keyedSteps (steps : List StepOutcome) : List (String × StepOutcome) :=
  steps.filterMap fun s => s.langgraphCheckpointKey.map fun key => (key, s)

/-- The least `seq` of a group. -/
def minSeq (g : Group String (String × StepOutcome)) : ℕ :=
  g.before.foldr (fun s m => min s.2.seq m) g.last.2.seq

def checkpointVerdictOf (g : Group String (String × StepOutcome)) :
    OutcomeCertificateCheckpointVerdict :=
  let outcomes := g.items.map Prod.snd
  let verdict := rollupCheckpointGroupVerdict outcomes
  { checkpointKey := g.key
    verdict
    seqs := (outcomes.map StepOutcome.seq).dedup.insertionSort (· ≤ ·)
    productionMeaning := checkpointProductionMeaning verdict }

/-- `localeLe` stands for the collation that `localeCompare` orders equal minima
by. -/
def computeCheckpointVerdictsFromWorkflowResult (localeLe : String → String → Bool)
    (result : WorkflowEngineResult) : List OutcomeCertificateCheckpointVerdict :=
  let byKey := groupBy Prod.fst (keyedSteps result.steps)
  let keys := byKey.insertionSort fun a b =>
    minSeq a < minSeq b ∨ minSeq a = minSeq b ∧ localeLe a.key b.key = true
  keys.map checkpointVerdictOf

/-! ## Certificates -/

structure OutcomeCertificateExplanationDetail where
  code : String
  message : String
  deriving DecidableEq

def Reason.detail (r : Reason) : OutcomeCertificateExplanationDetail :=
  { code := r.code, message := r.message }

structure OutcomeCertificate where
  workflowId : String
  runKind : OutcomeCertificateRunKind
  stateRelation : OutcomeCertificateStateRelation
  highStakesReliance : OutcomeCertificateHighStakesReliance
  details : List OutcomeCertificateExplanationDetail
  checkpointVerdicts : Option (List OutcomeCertificateCheckpointVerdict)
  deriving DecidableEq

def trustDecisionFromCertificate (certificate : OutcomeCertificate) :
    TrustDecision :=
  trustDecisionFromRelianceFields certificate.runKind certificate.stateRelation
    certificate.highStakesReliance

def langGraphIneligible : OutcomeCertificateExplanationDetail :=
  { code := "LANGGRAPH_INELIGIBLE"
    message :=
      "No schema-valid schemaVersion 3 tool_observed lines for this workflow in " ++
        "LangGraph checkpoint trust mode." }

def buildIneligibleLangGraphCheckpointTrustCertificate (workflowId : String)
    (runLevelReasons : List Reason) : OutcomeCertificate :=
  let runKind := .contractSqlLanggraphCheckpointTrust
  let stateRelation := .notEstablished
  { workflowId
    runKind
    stateRelation
    highStakesReliance := deriveHighStakesReliance runKind stateRelation
    details :=
      if runLevelReasons.length > 0 then runLevelReasons.map Reason.detail
      else [langGraphIneligible]
    checkpointVerdicts := none }

def buildOutcomeCertificateLangGraphCheckpointTrustFromWorkflowResult
    (localeLe : String → String → Bool) (result : WorkflowEngineResult) :
    OutcomeCertificate :=
  let runKind := .contractSqlLanggraphCheckpointTrust
  let stateRelation := workflowResultToStateRelation result.status
  { workflowId := result.workflowId
    runKind
    stateRelation
    highStakesReliance := deriveHighStakesReliance runKind stateRelation
    details :=
      (result.steps.flatMap StepOutcome.reasons ++ result.runLevelReasons).map
        Reason.detail
    checkpointVerdicts :=
      some (computeCheckpointVerdictsFromWorkflowResult localeLe result) }

/-! ## The gate -/

/-- A run event that its schema accepts.  Of the types other than `tool_observed`
the gate reads the workflow only. -/
inductive RunEvent where
  | toolObserved (ev : ToolObservedEvent)
  | other (workflowId : String)

def RunEvent.workflowId : RunEvent → String
  | toolObserved ev => ev.workflowId
  | other workflowId => workflowId

/-- `isToolObservedRunEvent`. -/
def RunEvent.toolObserved? : RunEvent → Option ToolObservedEvent
  | toolObserved ev => some ev
  | other _ => none

structure LangGraphCheckpointTrustGate where
  bufferedRunEvents : List RunEvent
  runLevelReasons : List Reason

def LangGraphCheckpointTrustGate.toolObservedEvents
    (gate : LangGraphCheckpointTrustGate) : List ToolObservedEvent :=
  gate.bufferedRunEvents.filterMap RunEvent.toolObserved?

def malformedEventLine : Reason :=
  { code := "MALFORMED_EVENT_LINE"
    message :=
      "Event line was missing, invalid JSON, or failed schema validation for a " ++
        "tool observation." }

/-- `none` is a value that the event schema rejects. -/
def appendRunEvent (workflowId : String) (gate : LangGraphCheckpointTrustGate)
    (value : Option RunEvent) : LangGraphCheckpointTrustGate :=
  match value with
  | none =>
      { gate with runLevelReasons := gate.runLevelReasons ++ [malformedEventLine] }
  | some ev =>
      if ev.workflowId ≠ workflowId then gate
      else { gate with bufferedRunEvents := gate.bufferedRunEvents ++ [ev] }

inductive LangGraphCheckpointTrustEligibility where
  | eligible
  | ineligible (certificateReasons : List Reason)

def langgraphCheckpointTrustNonV3ToolObserved : Reason :=
  { code := "LANGGRAPH_CHECKPOINT_TRUST_NON_V3_TOOL_OBSERVED"
    message :=
      "LangGraph checkpoint trust requires every tool_observed line for this " ++
        "workflow to use schemaVersion 3 with langgraphCheckpoint." }

def ToolObservedEvent.isV3 (ev : ToolObservedEvent) : Bool :=
  match ev.wire with
  | .v3 _ => true
  | _ => false

def classifyLangGraphCheckpointTrustEligibility (runLevelReasons : List Reason)
    (toolObservedEvents : List ToolObservedEvent) :
    LangGraphCheckpointTrustEligibility :=
  if runLevelReasons.length > 0 then .ineligible runLevelReasons
  else if toolObservedEvents.length = 0 then .ineligible [noStepsForWorkflow]
  else if toolObservedEvents.any fun t => !t.isV3 then
    .ineligible [langgraphCheckpointTrustNonV3ToolObserved]
  else .eligible

section Run

variable (localeLe : String → String → Bool) (execute : PolicyExecutor)
  (registry : ToolsRegistry) (database : VerificationDatabaseKind)
  (workflowId : String)

/-- `verifyRunStateFromBufferedRunEvents` of an eligible buffer. -/
def verifyBufferedRunEvents (gate : LangGraphCheckpointTrustGate) :
    Except String WorkflowEngineResult :=
  verifyEvents execute registry database workflowId
    (stableSortEventsBySeq gate.toolObservedEvents) gate.runLevelReasons

def runCheckpointTrust (gate : LangGraphCheckpointTrustGate) :
    Except String OutcomeCertificate :=
  if gate.bufferedRunEvents.length = 0 ∧ gate.runLevelReasons.length = 0 then
    .error ("LangGraphCheckpointTrustGate.runCheckpointTrust requires at least " ++
      "one buffered run event for the workflow.")
  else
    match classifyLangGraphCheckpointTrustEligibility gate.runLevelReasons
      gate.toolObservedEvents with
    | .ineligible certificateReasons =>
        .ok (buildIneligibleLangGraphCheckpointTrustCertificate workflowId
          certificateReasons)
    | .eligible => do
        let result ← verifyBufferedRunEvents execute registry database workflowId
          gate
        .ok (buildOutcomeCertificateLangGraphCheckpointTrustFromWorkflowResult
          localeLe result)

end Run

def lgRowBPasses (certificate : OutcomeCertificate) : Bool :=
  match certificate.checkpointVerdicts with
  | none => false
  | some verdicts =>
      verdicts.length > 0 && verdicts.all (·.verdict = .verified) &&
        certificate.stateRelation = .matchesExpectations &&
        certificate.highStakesReliance = .permitted &&
        trustDecisionFromCertificate certificate = .safe

inductive ProductionGateError where
  | wrongRunKind (message : String)
  | trustDecisionBlocked (certificate : OutcomeCertificate)

def assertLangGraphCheckpointProductionGate (certificate : OutcomeCertificate) :
    Except ProductionGateError Unit :=
  if certificate.runKind ≠ .contractSqlLanggraphCheckpointTrust then
    .error (.wrongRunKind ("assertLangGraphCheckpointProductionGate: " ++
      "certificate.runKind must be contract_sql_langgraph_checkpoint_trust"))
  else if lgRowBPasses certificate then .ok ()
  else .error (.trustDecisionBlocked certificate)

/-! ## What a passed gate covers -/

theorem mem_keyedSteps {steps : List StepOutcome} {key : String}
    {s : StepOutcome} :
    (key, s) ∈ keyedSteps steps ↔
      s ∈ steps ∧ s.langgraphCheckpointKey = some key := by
  unfold keyedSteps
  constructor
  · intro hmem
    obtain ⟨s', hs', hkeyed⟩ := List.mem_filterMap.mp hmem
    obtain ⟨key', hkey', hpair⟩ := Option.map_eq_some_iff.mp hkeyed
    cases hpair
    exact ⟨hs', hkey'⟩
  · rintro ⟨hs, hkey⟩
    exact List.mem_filterMap.mpr ⟨s, hs, by simp [hkey]⟩

/-- The keys with a verdict are those of the steps. -/
theorem checkpointVerdict_iff {localeLe : String → String → Bool}
    {result : WorkflowEngineResult} {key : String} :
    (∃ v ∈ computeCheckpointVerdictsFromWorkflowResult localeLe result,
        v.checkpointKey = key) ↔
      ∃ s ∈ result.steps, s.langgraphCheckpointKey = some key := by
  unfold computeCheckpointVerdictsFromWorkflowResult
  constructor
  · rintro ⟨v, hv, rfl⟩
    obtain ⟨g, hg, rfl⟩ := List.mem_map.mp hv
    have hitems := mem_groupBy.mp ((List.mem_insertionSort _).mp hg)
    have hlast : g.last ∈ g.items := by simp [Group.items]
    rw [hitems] at hlast
    obtain ⟨hmem, hkey⟩ := List.mem_filter.mp hlast
    obtain ⟨hstep, hcheckpoint⟩ := mem_keyedSteps.mp hmem
    refine ⟨g.last.2, hstep, ?_⟩
    rw [hcheckpoint]
    exact congrArg some (of_decide_eq_true hkey)
  · rintro ⟨s, hs, hkey⟩
    have hmem : (key, s) ∈ keyedSteps result.steps := mem_keyedSteps.mpr ⟨hs, hkey⟩
    obtain ⟨g, hg, hgkey, -⟩ : ∃ g ∈ groupBy Prod.fst (keyedSteps result.steps),
        g.key = key ∧ (key, s) ∈ g.items :=
      exists_group hmem
    refine ⟨checkpointVerdictOf g, ?_, hgkey⟩
    exact List.mem_map_of_mem ((List.mem_insertionSort _).mpr hg)

theorem lgRowBPasses_iff {certificate : OutcomeCertificate} :
    lgRowBPasses certificate = true ↔ ∃ verdicts,
      certificate.checkpointVerdicts = some verdicts ∧ verdicts ≠ [] ∧
        (∀ v ∈ verdicts, v.verdict = .verified) ∧
        certificate.stateRelation = .matchesExpectations ∧
        certificate.highStakesReliance = .permitted ∧
        trustDecisionFromCertificate certificate = .safe := by
  unfold lgRowBPasses
  rcases certificate.checkpointVerdicts with _ | verdicts
  · simp
  · simp [List.length_pos_iff, and_assoc]

theorem classify_eligible {runLevelReasons : List Reason}
    {events : List ToolObservedEvent} :
    classifyLangGraphCheckpointTrustEligibility runLevelReasons events =
        .eligible ↔
      runLevelReasons = [] ∧ events ≠ [] ∧
        ∀ ev ∈ events, ∃ checkpoint, ev.wire = .v3 checkpoint := by
  have hv3 : ∀ ev : ToolObservedEvent,
      ev.isV3 = true ↔ ∃ checkpoint, ev.wire = .v3 checkpoint := by
    intro ev
    unfold ToolObservedEvent.isV3
    split
    · next checkpoint hwire => exact iff_of_true rfl ⟨checkpoint, hwire⟩
    · next hwire => exact iff_of_false (by simp) fun ⟨c, hc⟩ => hwire c hc
  unfold classifyLangGraphCheckpointTrustEligibility
  split_ifs with hreasons hempty hmixed
  · refine iff_of_false (by simp) ?_
    rintro ⟨rfl, -⟩
    simp at hreasons
  · refine iff_of_false (by simp) ?_
    rintro ⟨-, hne, -⟩
    exact hne (List.length_eq_zero_iff.mp hempty)
  · refine iff_of_false (by simp) ?_
    rintro ⟨-, -, hall⟩
    obtain ⟨ev, hev, hnot⟩ := List.any_eq_true.mp hmixed
    simp [(hv3 ev).mpr (hall ev hev)] at hnot
  · refine iff_of_true rfl ⟨by simpa using hreasons, ?_, ?_⟩
    · rintro rfl
      exact hempty rfl
    · intro ev hev
      apply (hv3 ev).mp
      by_contra hnot
      exact hmixed (List.any_eq_true.mpr ⟨ev, hev, by simpa using hnot⟩)

theorem workflowResultToStateRelation_matches {status : WorkflowStatus} :
    workflowResultToStateRelation status = .matchesExpectations ↔
      status = .complete := by
  cases status with
  | complete => simp [workflowResultToStateRelation]
  | incomplete => simp [workflowResultToStateRelation]
  | inconsistent => simp [workflowResultToStateRelation]

section Covers

variable {localeLe : String → String → Bool} {execute : PolicyExecutor}
  {registry : ToolsRegistry} {database : VerificationDatabaseKind}
  {workflowId : String} {gate : LangGraphCheckpointTrustGate}
  {certificate : OutcomeCertificate}

/-- Only an eligible run has checkpoint verdicts. -/
theorem runCheckpointTrust_eligible
    {verdicts : List OutcomeCertificateCheckpointVerdict}
    (hrun : runCheckpointTrust localeLe execute registry database workflowId gate =
      .ok certificate)
    (hverdicts : certificate.checkpointVerdicts = some verdicts) :
    (∀ ev ∈ gate.toolObservedEvents, ∃ checkpoint, ev.wire = .v3 checkpoint) ∧
      ∃ result, verifyBufferedRunEvents execute registry database workflowId gate =
          .ok result ∧
        certificate =
          buildOutcomeCertificateLangGraphCheckpointTrustFromWorkflowResult localeLe
            result := by
  unfold runCheckpointTrust at hrun
  split at hrun
  · cases hrun
  · split at hrun
    · cases hrun
      cases hverdicts
    · next heligible =>
      obtain ⟨-, -, hv3⟩ := classify_eligible.mp heligible
      obtain ⟨result, hresult, hrun⟩ := bind_eq_ok.mp hrun
      cases hrun
      exact ⟨hv3, result, hresult, rfl⟩

end Covers

/-- Writes a contact with the fields of the parameters. -/
def upsertContact : ToolRegistryEntry where
  toolId := "crm.upsert_contact"
  effectDescriptionTemplate := "Upsert contact"
  releaseCritical := none
  verification := .sqlRow
    { table := .const "contacts"
      identityEq := [⟨.const "id", .const (.str "c_ok")⟩]
      requiredFields := "/fields" }

def contactParams : Json := .obj [("fields", .obj [("name", .str "Alice")])]

def contactAt (checkpointId : String) : ToolObservedEvent where
  wire := .v3 { threadId := "thread", checkpointNs := "", checkpointId }
  workflowId := "wf"
  seq := 0
  toolId := "crm.upsert_contact"
  params := contactParams

/-- One call, observed under two checkpoints. -/
def retriedGate : LangGraphCheckpointTrustGate :=
  [contactAt "first", contactAt "second"].foldl
    (fun gate ev => appendRunEvent "wf" gate (some (.toolObserved ev))) ⟨[], []⟩

/-- A database that has the contact and no other table. -/
def contactDatabase : PolicyReconcileContext :=
  let noSuchTable := incompleteStep SqlVerificationOutcomeCode.connectorError.code
    "no such table"
  syncContext
    { reconcileSqlRow request :=
        if request.table = "contacts" then
          .ok ⟨.verified, [], [("rowCount", .num (.int 1))]⟩
        else .ok noSuchTable
      reconcileSqlRowAbsent _ := .ok noSuchTable
      reconcileRelationalSqlite _ := .ok noSuchTable }

def contactRegistry : ToolsRegistry := fun toolId =>
  if toolId = upsertContact.toolId then some upsertContact else none

/-- The certificate has one verdict. -/
def retriedCertificate : OutcomeCertificate where
  workflowId := "wf"
  runKind := .contractSqlLanggraphCheckpointTrust
  stateRelation := .matchesExpectations
  highStakesReliance := .permitted
  details := []
  checkpointVerdicts := some
    [{ checkpointKey := "thread\x1f\x1fsecond"
       verdict := .verified
       seqs := [0]
       productionMeaning :=
        "Production may advance under this checkpoint identity." }]

theorem retriedCertificate_issued :
    runCheckpointTrust utf16Le (executeVerificationStrong contactDatabase)
      contactRegistry .sqlite "wf" retriedGate = .ok retriedCertificate := by
  decide +kernel

theorem retriedCertificate_passes :
    assertLangGraphCheckpointProductionGate retriedCertificate = .ok () := by
  rfl

end AgentSkeptic.Engine
