import AgentSkeptic.Engine.Pipeline
import AgentSkeptic.Events.EmittedRuns
import AgentSkeptic.Events.ObservedEvents

/-!
# The decision gate and its export

`decisionGate.ts` with `verifyRunStateFromBufferedRunEvents.ts`, `noStepsMessage.ts` and
the two entries of `pipeline.ts`.  A gate buffers the events that are appended to it and
verifies its buffer; its export is an events file, which `verifyWorkflow` verifies.

`appendAll_spec` says what a gate holds after any appends, `loads_export` what the loader
finds in its export.
-/

namespace AgentSkeptic.Events

open AgentSkeptic.Support AgentSkeptic.Engine

/-! ## Runs without steps -/

def formatNoStepsForWorkflowMessage (workflowId : String) (c : EventFileAggregateCounts) :
    String :=
  "No tool_observed events for workflowId " ++ (Json.str workflowId).stringify ++
    " after filtering. event_file_non_empty_lines=" ++ toString c.eventFileNonEmptyLines ++
    " schema_valid_events=" ++ toString c.schemaValidEvents ++
    " tool_observed_for_workflow=" ++ toString c.toolObservedForRequestedWorkflowId ++
    " tool_observed_other_workflows=" ++ toString c.toolObservedForOtherWorkflowIds ++ "."

def enrichNoStepsRunLevelReasons (workflowId : String) (reasons : List Reason)
    (c : EventFileAggregateCounts) : List Reason :=
  reasons.map fun r =>
    if r.code = "NO_STEPS_FOR_WORKFLOW" then
      { r with message := formatNoStepsForWorkflowMessage workflowId c }
    else r

theorem codes_enrichNoSteps (workflowId : String) (reasons : List Reason)
    (c : EventFileAggregateCounts) :
    (enrichNoStepsRunLevelReasons workflowId reasons c).map Reason.code =
      reasons.map Reason.code := by
  rw [enrichNoStepsRunLevelReasons, List.map_map]
  apply List.map_congr_left
  intro r _
  dsimp only [Function.comp_apply]
  split_ifs
  · rfl
  · rfl

theorem enrichNoSteps_nil (workflowId : String) (c : EventFileAggregateCounts) :
    enrichNoStepsRunLevelReasons workflowId [] c = [] := rfl

/-! ## Verifying a run -/

/-- A result with what the capture adds to it. -/
structure VerifiedRun extends WorkflowEngineResult where
  eventSequenceIntegrity : EventSequenceIntegrity
  verificationRunContext : VerificationRunContext

structure VerifyRunStateFromEventsInput where
  workflowId : String
  events : List RunEvent
  runEvents : List RunEvent
  runLevelReasons : List Reason
  eventSequenceIntegrity : EventSequenceIntegrity
  eventFileAggregateCounts : EventFileAggregateCounts

/-- What an operation throws: an operational error, the error of a step, or the refusal
of an irreversible action. -/
inductive RunError where
  | operational (error : TruthLayerError)
  | thrown (message : String)
  | trustDecisionBlocked (trust : TrustDecision)

/-- The error of a step. -/
def orThrown {α : Type} : Except String α → Except RunError α
  | .ok a => .ok a
  | .error message => .error (.thrown message)

/-- An operational error. -/
def orOperational {α : Type} : Except TruthLayerError α → Except RunError α
  | .ok a => .ok a
  | .error e => .error (.operational e)

section Verify

-- The registry is read and the database opened for each verification; a failure of
-- either ends both the live one and the replay.
variable (execute : PolicyExecutor) (registry : ToolsRegistry)
  (database : VerificationDatabaseKind) (dateParse : String → Option ℤ)

def verifyRunStateFromEvents (input : VerifyRunStateFromEventsInput) :
    Except RunError VerifiedRun := do
  let engineBase ← orThrown (verifyEvents execute registry database input.workflowId
    (input.events.map RunEvent.observation) input.runLevelReasons)
  .ok
    { workflowId := engineBase.workflowId
      status := engineBase.status
      runLevelReasons := enrichNoStepsRunLevelReasons input.workflowId
        engineBase.runLevelReasons input.eventFileAggregateCounts
      steps := engineBase.steps
      eventSequenceIntegrity := input.eventSequenceIntegrity
      verificationRunContext := buildVerificationRunContext input.runEvents }

/-- The file is its bytes, or the message of the error that reading it throws. -/
def verifyWorkflow (file : Except String Bytes) (workflowId : String) :
    Except RunError VerifiedRun := do
  let load ← orOperational (loadEventsForWorkflow dateParse file workflowId)
  verifyRunStateFromEvents execute registry database
    { workflowId
      events := load.events
      runEvents := load.runEvents
      runLevelReasons := load.runLevelReasons
      eventSequenceIntegrity := load.eventSequenceIntegrity
      eventFileAggregateCounts := load.eventFileAggregateCounts }

def verifyRunStateFromBufferedRunEvents (workflowId : String)
    (bufferedRunEvents : List RunEvent) (runLevelReasons : List Reason) :
    Except RunError VerifiedRun :=
  if bufferedRunEvents.isEmpty && runLevelReasons.isEmpty then
    .error (.thrown
      "verifyRunStateFromBufferedRunEvents: empty buffer and no run-level reasons")
  else if bufferedRunEvents.isEmpty then
    verifyRunStateFromEvents execute registry database
      { workflowId
        events := []
        runEvents := []
        runLevelReasons
        eventSequenceIntegrity := .normal
        eventFileAggregateCounts := ⟨0, 0, 0, 0⟩ }
  else
    let toolCandidates := bufferedRunEvents.filter (·.isToolObserved)
    let prepared := prepareWorkflowEvents dateParse toolCandidates
    verifyRunStateFromEvents execute registry database
      { workflowId
        events := prepared.eventsSorted
        runEvents := bufferedRunEvents
        runLevelReasons
        eventSequenceIntegrity := prepared.eventSequenceIntegrity
        eventFileAggregateCounts := ⟨0, 0, toolCandidates.length, 0⟩ }

end Verify

/-! ## The gate -/

structure DecisionGate where
  bufferedRunEvents : List RunEvent
  runLevelReasons : List Reason

namespace DecisionGate

def create : DecisionGate := ⟨[], []⟩

/-- `typeof value === "object" && value !== null`. -/
def isObject : Json → Bool
  | .obj _ | .arr _ => true
  | _ => false

def pushMalformed (gate : DecisionGate) : DecisionGate :=
  { gate with runLevelReasons := gate.runLevelReasons ++ [malformedEventLine] }

def appendRunEvent (workflowId : String) (gate : DecisionGate) (value : Json) :
    DecisionGate :=
  if !isObject value then gate.pushMalformed
  else if h : validateEvent value = true then
    let ev : RunEvent := ⟨value, h⟩
    if ev.workflowId != some workflowId then gate
    else { gate with bufferedRunEvents := gate.bufferedRunEvents ++ [ev] }
  else gate.pushMalformed

/-- The gate after these appends. -/
def appendAll (workflowId : String) (values : List Json) : DecisionGate :=
  values.foldl (appendRunEvent workflowId) create

def toNdjsonUtf8 (gate : DecisionGate) : Bytes :=
  utf8Encode (eventLines (gate.bufferedRunEvents.map RunEvent.json))

def assertEmissionQuality (gate : DecisionGate) : Except TruthLayerError Unit :=
  if gate.runLevelReasons.length > 0 then
    .error ⟨"EMIT_LINT_FAILED",
      "Buffered run events contain malformed inputs from appendRunEvent."⟩
  else if gate.bufferedRunEvents.length = 0 then
    .error ⟨"EMIT_LINT_FAILED",
      "No buffered run events are available for emission-quality checks."⟩
  else assertValidRunEventParentGraph (gate.bufferedRunEvents.map RunEvent.json)

/-- The error of a gate that was given nothing. -/
def nothingBuffered : TruthLayerError :=
  ⟨"CLI_USAGE",
    "DecisionGate.evaluate requires at least one buffered run event for the workflow."⟩

section

variable (execute : PolicyExecutor) (registry : ToolsRegistry)
  (database : VerificationDatabaseKind) (dateParse : String → Option ℤ)

def evaluate (workflowId : String) (gate : DecisionGate) : Except RunError VerifiedRun :=
  if gate.bufferedRunEvents.isEmpty && gate.runLevelReasons.isEmpty then
    .error (.operational nothingBuffered)
  else
    verifyRunStateFromBufferedRunEvents execute registry database dateParse workflowId
      gate.bufferedRunEvents gate.runLevelReasons

end

end DecisionGate

/-- What the certificate of kind `contract_sql` of a result says, without its texts.
`schemaErrors` are the errors of its schema for the certificate of a result. -/
def contractSqlCertificateTrust (schemaErrors : VerifiedRun → Option String)
    (result : VerifiedRun) : Except RunError TrustDecision :=
  match schemaErrors result with
  | some errors => .error (.operational ⟨"WORKFLOW_RESULT_SCHEMA_INVALID", errors⟩)
  | none =>
      let stateRelation := workflowResultToStateRelation result.status
      .ok (trustDecisionFromRelianceFields .contractSql stateRelation
        (deriveHighStakesReliance .contractSql stateRelation))

/-- Only a certificate that is trusted lets an irreversible action go on. -/
def requireSafe (schemaErrors : VerifiedRun → Option String)
    (evaluated : Except RunError VerifiedRun) : Except RunError Unit := do
  let result ← evaluated
  let trust ← contractSqlCertificateTrust schemaErrors result
  if trust = .safe then .ok () else .error (.trustDecisionBlocked trust)

def DecisionGate.assertSafeForIrreversibleAction (execute : PolicyExecutor)
    (registry : ToolsRegistry) (database : VerificationDatabaseKind)
    (dateParse : String → Option ℤ) (schemaErrors : VerifiedRun → Option String)
    (workflowId : String) (gate : DecisionGate) : Except RunError Unit :=
  requireSafe schemaErrors (gate.evaluate execute registry database dateParse workflowId)

/-! ## What a gate holds -/

/-- The event that a value is. -/
def asRunEvent (v : Json) : Option RunEvent :=
  if h : validateEvent v = true then some ⟨v, h⟩ else none

theorem json_of_asRunEvent {v : Json} {ev : RunEvent} (h : asRunEvent v = some ev) :
    ev.json = v := by
  rw [asRunEvent] at h
  split_ifs at h
  cases h
  rfl

theorem isObject_of_valid {v : Json} (h : validateEvent v = true) :
    DecisionGate.isObject v = true := by
  obtain ⟨kind, schema, hpair, hvalid⟩ := RunEvent.exists_branch ⟨v, h⟩
  obtain ⟨hversion, -⟩ := kind_of_branch hpair hvalid
  cases v with
  | obj members => rfl
  | arr items => rfl
  | null => cases hversion
  | bool value => cases hversion
  | num value => cases hversion
  | str text =>
      have hindex : arrayIndex? "schemaVersion" = none := by decide
      have hmember : (Json.str text).member "schemaVersion" = .undefined := by
        rw [Json.member, if_neg (by decide), hindex]
        rfl
      rw [numberOf, hmember] at hversion
      cases hversion

namespace DecisionGate

/-- The values of these appends that are not events. -/
def malformedAppends (values : List Json) : ℕ := values.countP fun v => !validateEvent v

theorem appendRunEvent_of_event {workflowId : String} {gate : DecisionGate} {value : Json}
    {ev : RunEvent} (h : asRunEvent value = some ev) :
    appendRunEvent workflowId gate value =
      { gate with
        bufferedRunEvents := gate.bufferedRunEvents ++ ofWorkflow workflowId [ev] } := by
  rw [asRunEvent] at h
  split_ifs at h with hvalid
  cases h
  rw [appendRunEvent, isObject_of_valid hvalid, dif_pos hvalid]
  by_cases hworkflow : RunEvent.workflowId ⟨value, hvalid⟩ = some workflowId
  · simp [ofWorkflow, hworkflow]
  · simp [ofWorkflow, hworkflow]

theorem appendRunEvent_of_malformed {workflowId : String} {gate : DecisionGate}
    {value : Json} (h : asRunEvent value = none) :
    appendRunEvent workflowId gate value = gate.pushMalformed := by
  rw [asRunEvent] at h
  split_ifs at h with hvalid
  rw [appendRunEvent, dif_neg hvalid, ite_self]

theorem validateEvent_eq_isSome (v : Json) : validateEvent v = (asRunEvent v).isSome := by
  rw [asRunEvent]
  split_ifs with h
  · rw [h]
    rfl
  · exact Bool.eq_false_iff.mpr h

theorem foldl_appendRunEvent (workflowId : String) (values : List Json)
    (gate : DecisionGate) :
    values.foldl (appendRunEvent workflowId) gate =
      { bufferedRunEvents := gate.bufferedRunEvents ++
          ofWorkflow workflowId (values.filterMap asRunEvent)
        runLevelReasons := gate.runLevelReasons ++
          List.replicate (malformedAppends values) malformedEventLine } := by
  induction values generalizing gate with
  | nil => simp [ofWorkflow, malformedAppends]
  | cons value values ih =>
      rw [List.foldl_cons, ih]
      cases hevent : asRunEvent value with
      | none =>
          have hcount : malformedAppends (value :: values) = malformedAppends values + 1 := by
            simp [malformedAppends, validateEvent_eq_isSome, hevent]
          rw [appendRunEvent_of_malformed hevent, List.filterMap_cons_none hevent, hcount,
            List.replicate_succ, pushMalformed, List.append_assoc, List.singleton_append]
      | some ev =>
          have hcount : malformedAppends (value :: values) = malformedAppends values := by
            simp [malformedAppends, validateEvent_eq_isSome, hevent]
          rw [appendRunEvent_of_event hevent, List.filterMap_cons_some hevent, hcount,
            List.append_assoc, ofWorkflow, ofWorkflow, ofWorkflow, ← List.filter_append,
            List.singleton_append]

/-- A gate holds the events of its workflow, and a reason for each value that is none. -/
theorem appendAll_spec (workflowId : String) (values : List Json) :
    appendAll workflowId values =
      { bufferedRunEvents := ofWorkflow workflowId (values.filterMap asRunEvent)
        runLevelReasons :=
          List.replicate (malformedAppends values) malformedEventLine } := by
  rw [appendAll, foldl_appendRunEvent]
  rfl

/-! ## What the loader finds in the export -/

/-- Events that were written one to a line are read back. -/
theorem validEvents_lines {events : List RunEvent}
    (h : ∀ ev ∈ events, ev.json.WellFormed) :
    validEvents (splitLines (eventLines (events.map RunEvent.json))) = events ∧
      malformedLines (splitLines (eventLines (events.map RunEvent.json))) = 0 := by
  induction events with
  | nil => exact ⟨rfl, rfl⟩
  | cons ev events ih =>
      obtain ⟨hev, hrest⟩ := List.forall_mem_cons.mp h
      obtain ⟨hvalid, hmalformed⟩ := ih hrest
      have hlines : splitLines (eventLines ((ev :: events).map RunEvent.json)) =
          ev.json.stringify.toList :: splitLines (eventLines (events.map RunEvent.json)) := by
        have hsplit := splitLines_eventLine hev (eventLines (events.map RunEvent.json))
        rwa [List.map_cons, eventLines, List.flatMap_cons, List.append_assoc,
          List.singleton_append]
      have hblank := isBlank_stringify hev
      have hread := readLine_stringify hev ev.valid
      rw [hlines]
      constructor
      · rw [validEvents, List.filter_cons_of_pos (by simp [hblank]),
          List.filterMap_cons_some hread]
        exact congrArg _ hvalid
      · rw [malformedLines, List.filter_cons_of_pos (by simp [hblank]),
          List.countP_cons_of_neg (by simp [hread])]
        exact hmalformed

/-- The events that a gate holds are those of its workflow, and are well formed where
the appended values are. -/
structure Holds (workflowId : String) (gate : DecisionGate) : Prop where
  wellFormed : ∀ ev ∈ gate.bufferedRunEvents, ev.json.WellFormed
  ofWorkflow : Events.ofWorkflow workflowId gate.bufferedRunEvents = gate.bufferedRunEvents

theorem holds_appendAll {workflowId : String} {values : List Json}
    (h : ∀ v ∈ values, v.WellFormed) : Holds workflowId (appendAll workflowId values) where
  wellFormed := by
    intro ev hev
    rw [appendAll_spec] at hev
    obtain ⟨v, hv, hevent⟩ := List.mem_filterMap.mp (List.mem_filter.mp hev).1
    rw [json_of_asRunEvent hevent]
    exact h v hv
  ofWorkflow := by
    rw [appendAll_spec, Events.ofWorkflow, Events.ofWorkflow, List.filter_filter]
    simp only [Bool.and_self]

/-- The loader finds in an export what the gate holds, and nothing else. -/
theorem loads_export (dateParse : String → Option ℤ) {workflowId : String}
    {gate : DecisionGate} (h : Holds workflowId gate) :
    ∃ load, loadEventsForWorkflow dateParse (.ok gate.toNdjsonUtf8) workflowId = .ok load ∧
      load.runEvents = gate.bufferedRunEvents ∧ load.runLevelReasons = [] ∧
      load.events = stableSortEventsBySeq (gate.bufferedRunEvents.filter (·.isToolObserved)) ∧
      load.eventSequenceIntegrity = analyzeEventSequenceIntegrity dateParse
        (gate.bufferedRunEvents.filter (·.isToolObserved)) := by
  obtain ⟨hvalid, hmalformed⟩ := validEvents_lines h.wellFormed
  obtain ⟨hruns, hevents, hreasons, hintegrity⟩ := loadText_eq dateParse workflowId
    (eventLines (gate.bufferedRunEvents.map RunEvent.json))
  rw [hvalid, h.ofWorkflow] at hruns hevents hintegrity
  rw [hmalformed, List.replicate_zero] at hreasons
  refine ⟨_, ?_, hruns, hreasons, hevents, hintegrity⟩
  rw [loadEventsForWorkflow, toNdjsonUtf8, utf8Decode_utf8Encode]

end DecisionGate

/-! ## The live verification and its replay -/

section Replay

variable {execute : PolicyExecutor} {registry : ToolsRegistry}
  {database : VerificationDatabaseKind} {dateParse : String → Option ℤ}

/-- The steps of a run, as they were verified and with their diagnostics. -/
def verifiedSteps (execute : PolicyExecutor) (registry : ToolsRegistry)
    (database : VerificationDatabaseKind) (events : List RunEvent) :
    Except String (List StepOutcome × List StepOutcome) := do
  let steps ← runLogicalStepsVerification execute registry database
    (events.map RunEvent.observation)
  let enrichedSteps ← steps.mapM withFailureDiagnostic
  .ok (steps, enrichedSteps)

/-- The run-level reasons of a result, before their texts are filled in. -/
def reasonsWith (runLevelReasons : List Reason) (steps : List StepOutcome) : List Reason :=
  runLevelReasons ++ if steps.length = 0 then [noStepsForWorkflow] else []

/-- The run that ends with these steps. -/
def finishedRun (input : VerifyRunStateFromEventsInput)
    (steps : List StepOutcome × List StepOutcome) : VerifiedRun where
  workflowId := input.workflowId
  status := aggregateStatus (reasonsWith input.runLevelReasons steps.1) steps.1
  runLevelReasons := enrichNoStepsRunLevelReasons input.workflowId
    (reasonsWith input.runLevelReasons steps.1) input.eventFileAggregateCounts
  steps := steps.2
  eventSequenceIntegrity := input.eventSequenceIntegrity
  verificationRunContext := buildVerificationRunContext input.runEvents

/-- The steps depend on the events only. -/
theorem verifyRunStateFromEvents_eq (input : VerifyRunStateFromEventsInput) :
    verifyRunStateFromEvents execute registry database input =
      orThrown ((verifiedSteps execute registry database input.events).map
        (finishedRun input)) := by
  rw [verifyRunStateFromEvents, verifyEvents, verifiedSteps]
  cases runLogicalStepsVerification execute registry database
      (input.events.map RunEvent.observation) with
  | error message => rfl
  | ok steps =>
      have haggregate : aggregateWorkflow input.workflowId steps input.runLevelReasons =
          (steps.mapM withFailureDiagnostic).map fun enrichedSteps =>
            { workflowId := input.workflowId
              status := aggregateStatus (reasonsWith input.runLevelReasons steps) steps
              runLevelReasons := reasonsWith input.runLevelReasons steps
              steps := enrichedSteps } := by
        rw [aggregateWorkflow]
        cases steps.mapM withFailureDiagnostic <;> rfl
      change (orThrown (aggregateWorkflow input.workflowId steps input.runLevelReasons) >>=
        _) = orThrown ((steps.mapM withFailureDiagnostic >>= fun enrichedSteps =>
          .ok (steps, enrichedSteps)).map (finishedRun input))
      rw [haggregate]
      cases steps.mapM withFailureDiagnostic <;> rfl

/-- Two verifications of one capture, of which the first has `malformed` reasons more. -/
structure AgreesWithReplay (malformed : ℕ) (live replay : VerifiedRun) : Prop where
  workflowId : live.workflowId = replay.workflowId
  steps : live.steps = replay.steps
  eventSequenceIntegrity : live.eventSequenceIntegrity = replay.eventSequenceIntegrity
  verificationRunContext : live.verificationRunContext = replay.verificationRunContext
  codes : live.runLevelReasons.map Reason.code =
    List.replicate malformed "MALFORMED_EVENT_LINE" ++
      replay.runLevelReasons.map Reason.code
  status : live.status = if malformed = 0 then replay.status else .incomplete

theorem aggregateStatus_of_reasons {reasons : List Reason} (h : reasons ≠ [])
    (steps : List StepOutcome) : aggregateStatus reasons steps = .incomplete := by
  rw [aggregateStatus, if_pos (.inl (List.length_pos_iff.mpr h))]

/-- The second run is of the same capture as the first, and finds nothing wrong with it. -/
structure SameCapture (live replay : VerifyRunStateFromEventsInput) : Prop where
  workflowId : live.workflowId = replay.workflowId
  runEvents : live.runEvents = replay.runEvents
  eventSequenceIntegrity : live.eventSequenceIntegrity = replay.eventSequenceIntegrity
  quiet : replay.runLevelReasons = []

theorem SameCapture.agrees {live replay : VerifyRunStateFromEventsInput}
    (h : SameCapture live replay) {malformed : ℕ}
    (hlive : live.runLevelReasons = List.replicate malformed malformedEventLine)
    (steps : List StepOutcome × List StepOutcome) :
    AgreesWithReplay malformed (finishedRun live steps) (finishedRun replay steps) where
  workflowId := h.workflowId
  steps := rfl
  eventSequenceIntegrity := h.eventSequenceIntegrity
  verificationRunContext := congrArg buildVerificationRunContext h.runEvents
  codes := by
    have hcode : malformedEventLine.code = "MALFORMED_EVENT_LINE" := rfl
    dsimp only [finishedRun]
    rw [codes_enrichNoSteps, codes_enrichNoSteps, reasonsWith, reasonsWith, hlive, h.quiet,
      List.map_append, List.map_replicate, hcode, List.nil_append]
  status := by
    dsimp only [finishedRun]
    rw [hlive, h.quiet]
    cases malformed with
    | zero => rfl
    | succ n =>
        rw [if_neg n.succ_ne_zero, List.replicate_succ]
        exact aggregateStatus_of_reasons (List.cons_ne_nil _ _) _

/-- A complete run has no reasons, so its texts do not depend on how it was read. -/
theorem finishedRun_of_complete {input : VerifyRunStateFromEventsInput}
    {steps : List StepOutcome × List StepOutcome}
    (h : (finishedRun input steps).status = .complete) :
    reasonsWith input.runLevelReasons steps.1 = [] ∧ steps.1 ≠ [] := by
  obtain ⟨hreasons, hsteps, -⟩ := aggregateStatus_complete.mp h
  exact ⟨hreasons, hsteps⟩

theorem requireSafe_eq_ok {schemaErrors : VerifiedRun → Option String}
    {evaluated : Except RunError VerifiedRun} :
    requireSafe schemaErrors evaluated = .ok () ↔
      ∃ result, evaluated = .ok result ∧ schemaErrors result = none ∧
        result.status = .complete := by
  rw [requireSafe, bind_eq_ok]
  apply exists_congr
  intro result
  apply and_congr_right
  intro _
  rw [bind_eq_ok, contractSqlCertificateTrust]
  cases hschema : schemaErrors result with
  | some errors => simp
  | none =>
      have htrust := trust_safe_iff_complete
        (by simp : OutcomeCertificateRunKind.contractSql ≠ .quickPreview) result.status
      simp [htrust]

/-- Complete runs of one capture are equal where neither finds anything wrong with it. -/
theorem SameCapture.finishedRun_eq {live replay : VerifyRunStateFromEventsInput}
    (h : SameCapture live replay) (hlive : live.runLevelReasons = [])
    {steps : List StepOutcome × List StepOutcome}
    (hcomplete : (finishedRun replay steps).status = .complete) :
    finishedRun live steps = finishedRun replay steps := by
  have hquiet := (finishedRun_of_complete hcomplete).1
  rw [finishedRun, finishedRun, h.workflowId, h.runEvents, h.eventSequenceIntegrity,
    hlive.trans h.quiet.symm, hquiet, enrichNoSteps_nil, enrichNoSteps_nil]

/-- A run without events is not complete. -/
theorem finishedRun_of_nil {input : VerifyRunStateFromEventsInput}
    {steps : List StepOutcome × List StepOutcome}
    (h : verifiedSteps execute registry database [] = .ok steps) :
    (finishedRun input steps).status ≠ .complete := by
  intro hcomplete
  cases h
  exact (finishedRun_of_complete hcomplete).2 rfl

namespace DecisionGate

/-- What a live verification is given. -/
def liveInput (dateParse : String → Option ℤ) (workflowId : String) (gate : DecisionGate) :
    VerifyRunStateFromEventsInput where
  workflowId := workflowId
  events := stableSortEventsBySeq (gate.bufferedRunEvents.filter (·.isToolObserved))
  runEvents := gate.bufferedRunEvents
  runLevelReasons := gate.runLevelReasons
  eventSequenceIntegrity := analyzeEventSequenceIntegrity dateParse
    (gate.bufferedRunEvents.filter (·.isToolObserved))
  eventFileAggregateCounts :=
    ⟨0, 0, (gate.bufferedRunEvents.filter (·.isToolObserved)).length, 0⟩

/-- Without events, the buffered path gives what it gives with them. -/
theorem evaluate_eq (workflowId : String) (gate : DecisionGate) :
    gate.evaluate execute registry database dateParse workflowId =
      if gate.bufferedRunEvents = [] ∧ gate.runLevelReasons = [] then
        .error (.operational nothingBuffered)
      else verifyRunStateFromEvents execute registry database
        (gate.liveInput dateParse workflowId) := by
  obtain ⟨events, reasons⟩ := gate
  cases events with
  | nil =>
      cases reasons with
      | nil => rfl
      | cons reason reasons => rfl
  | cons ev events => rfl

/-- The replay of an export verifies the steps of the live run, of the same capture. -/
theorem exists_replay {workflowId : String} {gate : DecisionGate}
    (h : Holds workflowId gate) :
    ∃ input, SameCapture (gate.liveInput dateParse workflowId) input ∧
      verifyWorkflow execute registry database dateParse (.ok gate.toNdjsonUtf8) workflowId =
        orThrown ((verifiedSteps execute registry database
          (gate.liveInput dateParse workflowId).events).map (finishedRun input)) := by
  obtain ⟨load, hload, hruns, hquiet, hevents, hintegrity⟩ := loads_export dateParse h
  let input : VerifyRunStateFromEventsInput :=
    { workflowId
      events := load.events
      runEvents := load.runEvents
      runLevelReasons := load.runLevelReasons
      eventSequenceIntegrity := load.eventSequenceIntegrity
      eventFileAggregateCounts := load.eventFileAggregateCounts }
  have hsame : (gate.liveInput dateParse workflowId).events = input.events := hevents.symm
  refine ⟨input, ⟨rfl, hruns.symm, hintegrity.symm, hquiet⟩, ?_⟩
  rw [hsame, ← verifyRunStateFromEvents_eq, verifyWorkflow, hload]
  rfl

/-- The two ends of a complete run, of which the live one needs a quiet gate. -/
theorem requireSafe_replay {schemaErrors : VerifiedRun → Option String}
    {live replay : VerifyRunStateFromEventsInput} (h : SameCapture live replay)
    (steps : List StepOutcome × List StepOutcome) :
    requireSafe schemaErrors (.ok (finishedRun live steps)) = .ok () ↔
      live.runLevelReasons = [] ∧
        requireSafe schemaErrors (.ok (finishedRun replay steps)) = .ok () := by
  rw [requireSafe_eq_ok, requireSafe_eq_ok]
  constructor
  · rintro ⟨result, hresult, hschema, hcomplete⟩
    cases hresult
    have hquiet : live.runLevelReasons = [] :=
      (List.append_eq_nil_iff.mp (finishedRun_of_complete hcomplete).1).1
    have hstatus : (finishedRun live steps).status = (finishedRun replay steps).status := by
      dsimp only [finishedRun]
      rw [hquiet, h.quiet]
    have hreplayed := hstatus.symm.trans hcomplete
    rw [h.finishedRun_eq hquiet hreplayed] at hschema
    exact ⟨hquiet, _, rfl, hschema, hreplayed⟩
  · rintro ⟨hquiet, result, hresult, hschema, hcomplete⟩
    cases hresult
    rw [h.finishedRun_eq hquiet hcomplete]
    exact ⟨_, rfl, hschema, hcomplete⟩

/-- The emission checks pass on a gate with nothing malformed and a sound parent graph. -/
theorem assertEmissionQuality_eq_ok {gate : DecisionGate} :
    gate.assertEmissionQuality = .ok () ↔
      gate.runLevelReasons = [] ∧ gate.bufferedRunEvents ≠ [] ∧
        (runIds (gate.bufferedRunEvents.map RunEvent.json)).Nodup ∧
        ParentsEarlier (gate.bufferedRunEvents.map RunEvent.json) := by
  rw [assertEmissionQuality, ← assertValidRunEventParentGraph_iff]
  split_ifs with hmalformed hempty
  · exact iff_of_false (by simp) fun h => (List.length_pos_iff.mp hmalformed) h.1
  · exact iff_of_false (by simp) fun h => h.2.1 (List.length_eq_zero_iff.mp hempty)
  · have hquiet : gate.runLevelReasons = [] :=
      List.length_eq_zero_iff.mp (Nat.eq_zero_of_not_pos hmalformed)
    have hevents : gate.bufferedRunEvents ≠ [] := fun h => hempty (by rw [h]; rfl)
    exact ⟨fun h => ⟨hquiet, hevents, h⟩, fun h => h.2.2⟩

/-- An observation of the first wire version. -/
def sampleEvent : Json :=
  (toolObservedV1 sampleEmitter (EmitterState.start ()) "t" (.obj []) none).event

theorem wellFormed_sampleEvent : sampleEvent.WellFormed :=
  (sampleObservation_spec (Nat.zero_le _)).event.toEmittable.wellFormed

end DecisionGate

end Replay

end AgentSkeptic.Events
