import AgentSkeptic.Engine.LangGraphGate
import AgentSkeptic.Engine.PolicyExecution
import AgentSkeptic.Engine.SqlStatements
import AgentSkeptic.Engine.StateWitnessSoundness

/-!
# Every run is reported

`verifyWorkflow` of `pipeline.ts` between the loading of a run and the texts of its
result: the policy is resolved, the target opened, each step verified on what it then
meets of the database, and the steps aggregated.

`verifyRun_yields` says how this ends, under every accepted policy, on every target and
whatever the database and the witnesses answer.
-/

namespace AgentSkeptic.Engine

open AgentSkeptic.Support

/-! ## Runs -/

section Runs

variable (tables : TextTables) (registry : ToolsRegistry)
  (database : VerificationDatabaseKind) (session : ℕ → DatabaseSession)

/-- The `i`-th plan meets the `i`-th session. -/
def verifyStepsOn (policy : VerificationPolicy) (events : List ToolObservedEvent) :
    Except String (List StepOutcome) :=
  (planLogicalSteps events).zipIdx.mapM fun plan =>
    verifyPlan (executeVerification tables policy database (session plan.2)) registry
      database plan.1

/-- An error is its message. -/
def verifyRun (verificationPolicy : Option VerificationPolicy) (workflowId : String)
    (events : List ToolObservedEvent) (runLevelReasons : List Reason) :
    Except String WorkflowEngineResult := do
  let policy ← resolveVerificationPolicyInput verificationPolicy
  let _ ← openVerificationTarget database
  let steps ← verifyStepsOn tables registry database session policy events
  aggregateWorkflow workflowId steps runLevelReasons

end Runs

/-! ## Reasons and their diagnosis -/

/-- The codes that explain a step of this status. -/
def stepCodes (status : StepStatus) : List String :=
  (executedCodes status).map SqlVerificationOutcomeCode.code ++
    if status = .incompleteVerification then
      SqlVerificationOutcomeCode.unknownTool.code ::
        SqlVerificationOutcomeCode.retryObservationsDiverge.code :: resolveFailureCodes
    else []

/-- What a step that is not verified is diagnosed as, by the code that explains it. -/
def diagnosisOf (status : StepStatus) (code : String) : FailureDiagnostic :=
  match status with
  | .uncertain => .observationUncertainty
  | .incompleteVerification =>
      if code = SqlVerificationOutcomeCode.retryObservationsDiverge.code then
        .workflowExecution
      else .verificationSetup
  | _ => .workflowExecution

/-- Nothing to explain of a verified step, and one known code for any other. -/
def Explained (status : StepStatus) (reasons : List Reason) : Prop :=
  (status = .verified ∧ reasons = []) ∨
    ∃ code ∈ stepCodes status, ∃ message field, reasons = [⟨code, message, field⟩]

/-- An explained step with its diagnosis. -/
def Reported (step : StepOutcome) : Prop :=
  (step.status = .verified ∧ step.reasons = [] ∧ step.failureDiagnostic = none) ∨
    ∃ code ∈ stepCodes step.status, ∃ message field,
      step.reasons = [⟨code, message, field⟩] ∧
        step.failureDiagnostic = some (diagnosisOf step.status code)

theorem Executed.explained {status : StepStatus} {reasons : List Reason}
    (h : Executed status reasons) : Explained status reasons := by
  rcases h with hverified | ⟨code, hcode, hreasons⟩
  · exact .inl hverified
  · exact .inr ⟨_, List.mem_append_left _ (List.mem_map_of_mem hcode), hreasons⟩

theorem Reported.explained {step : StepOutcome} (h : Reported step) :
    Explained step.status step.reasons := by
  rcases h with ⟨hstatus, hreasons, -⟩ | ⟨code, hcode, message, field, hreasons, -⟩
  · exact .inl ⟨hstatus, hreasons⟩
  · exact .inr ⟨code, hcode, message, field, hreasons⟩

theorem explained_incomplete {code : String} (message : String)
    (h : code ∈ SqlVerificationOutcomeCode.unknownTool.code ::
      SqlVerificationOutcomeCode.retryObservationsDiverge.code :: resolveFailureCodes) :
    Explained .incompleteVerification (incompleteStep code message).reasons :=
  .inr ⟨code, List.mem_append_right _ h, message, none, rfl⟩

/-- Every code that the resolver gives is one of `REGISTRY_RESOLVER_CODE`. -/
theorem resolverCode_mem (code : RegistryResolverCode) :
    code.code ∈ resolveFailureCodes := by
  cases code <;> decide

theorem setupCodes_complete : ∀ code ∈ executedCodes .incompleteVerification,
    code.code ∈ verificationSetupCodes := by
  decide

/-- The codes of an incomplete step are all classified. -/
theorem stepCodes_incomplete {code : String}
    (h : code ∈ stepCodes .incompleteVerification)
    (hretry : code ≠ SqlVerificationOutcomeCode.retryObservationsDiverge.code) :
    code ∈ verificationSetupCodes ∨ code ∈ resolveFailureCodes := by
  rcases List.mem_append.mp h with hexecuted | hrest
  · obtain ⟨c, hc, rfl⟩ := List.mem_map.mp hexecuted
    exact .inl (setupCodes_complete c hc)
  · rw [if_pos rfl] at hrest
    rcases List.mem_cons.mp hrest with rfl | hrest
    · exact .inl (by decide)
    · rcases List.mem_cons.mp hrest with rfl | hresolver
      · exact absurd rfl hretry
      · exact .inr hresolver

theorem failureDiagnosticForStep_eq {status : StepStatus} {code : String}
    (h : code ∈ stepCodes status) (message : String) (field : Option String) :
    failureDiagnosticForStep status [⟨code, message, field⟩] =
      .ok (some (diagnosisOf status code)) := by
  cases status with
  | verified => cases h
  | missing => rfl
  | inconsistent => rfl
  | partiallyVerified => rfl
  | uncertain => rfl
  | incompleteVerification =>
      refine bind_eq_ok.mpr ⟨_, ?_, rfl⟩
      unfold failureDiagnosticForIncompleteVerification diagnosisOf
      by_cases hretry :
          code = SqlVerificationOutcomeCode.retryObservationsDiverge.code
      · subst hretry
        rfl
      · have hother : "RETRY_OBSERVATIONS_DIVERGE" ∉ [code] := by
          intro hmem
          exact hretry (List.mem_singleton.mp hmem).symm
        have hsetup := stepCodes_incomplete h hretry
        simp [hretry, hsetup]
        simpa [SqlVerificationOutcomeCode.code, eq_comm] using hretry

/-- An explained step gets its diagnosis, and the classification never throws. -/
theorem yields_withFailureDiagnostic {Q : String → Prop} {step : StepOutcome}
    (h : Explained step.status step.reasons) :
    Yields Reported Q (withFailureDiagnostic step) := by
  rcases h with ⟨hstatus, hreasons⟩ | ⟨code, hcode, message, field, hreasons⟩
  · have hnone : failureDiagnosticForStep step.status step.reasons = .ok none := by
      rw [hstatus]
      rfl
    rw [withFailureDiagnostic_eq_ok.mpr ⟨none, hnone, rfl⟩]
    exact .inl ⟨hstatus, hreasons, rfl⟩
  · have hsome : failureDiagnosticForStep step.status step.reasons =
        .ok (some (diagnosisOf step.status code)) := by
      rw [hreasons]
      exact failureDiagnosticForStep_eq hcode _ _
    rw [withFailureDiagnostic_eq_ok.mpr ⟨_, hsome, rfl⟩]
    exact .inr ⟨code, hcode, message, field, hreasons, rfl⟩

/-! ## Steps -/

section Steps

variable (tables : TextTables) (registry : ToolsRegistry)
  {database : VerificationDatabaseKind} {policy : VerificationPolicy}

/-- The resolver throws this message at an observation, rather than give a code. -/
def ResolverThrows (registry : ToolsRegistry) (database : VerificationDatabaseKind)
    (ev : ToolObservedEvent) (message : String) : Prop :=
  ∃ entry, registry ev.toolId = some entry ∧
    resolveVerificationRequest entry ev.params (some database) =
      .error (.thrown message)

theorem evaluateToolObserved_yields (s : DatabaseSession)
    (hpolicy : resolveVerificationPolicyInput (some policy) = .ok policy)
    (hdatabase : openVerificationTarget database = .ok ()) (hends : s.Ends policy)
    (ev : ToolObservedEvent) (n : ℕ) :
    Yields (fun step => Explained step.status step.reasons)
      (ResolverThrows registry database ev)
      (evaluateToolObserved (executeVerification tables policy database s) registry
        database ev n) := by
  unfold evaluateToolObserved
  cases hentry : registry ev.toolId with
  | none => exact explained_incomplete _ List.mem_cons_self
  | some entry =>
      dsimp only
      cases hresolve : resolveVerificationRequest entry ev.params (some database) with
      | ok request =>
          have hspec : Executes (executeVerification tables policy database s request) ∧
              (s.Ends policy → ∃ out,
                executeVerification tables policy database s request = .ok out) :=
            executeVerification_spec s hpolicy hdatabase
              (resolveVerificationRequest_sendable hresolve)
          obtain ⟨hexecutes, htotal⟩ := hspec
          obtain ⟨out, hout⟩ := htotal hends
          simp only [hout]
          exact (hexecutes out hout).explained
      | error failure =>
          cases failure with
          | thrown message => exact ⟨entry, hentry, hresolve⟩
          | failed code message =>
              have hcode := resolverCode_mem code
              exact explained_incomplete _
                (List.mem_cons_of_mem _ (List.mem_cons_of_mem _ hcode))

/-- One step: explained with its diagnosis, or the resolver throws at its last
observation. -/
theorem verifyPlan_yields (s : DatabaseSession)
    (hpolicy : resolveVerificationPolicyInput (some policy) = .ok policy)
    (hdatabase : openVerificationTarget database = .ok ()) (hends : s.Ends policy)
    (plan : LogicalStepPlan) :
    Yields Reported (ResolverThrows registry database plan.last)
      (verifyPlan (executeVerification tables policy database s) registry database
        plan) := by
  unfold verifyPlan
  split_ifs
  · exact yields_withFailureDiagnostic
      (explained_incomplete _ (List.mem_cons_of_mem _ List.mem_cons_self))
  · refine (evaluateToolObserved_yields tables registry s hpolicy hdatabase hends plan.last _).bind ?_
    intro step _ hstep
    exact yields_withFailureDiagnostic hstep

end Steps

/-! ## Whole runs -/

/-- What a run throws: the policy or the target is refused, or the resolver throws at the
last captured observation of a step. -/
def RunRefused (registry : ToolsRegistry) (database : VerificationDatabaseKind)
    (verificationPolicy : Option VerificationPolicy) (events : List ToolObservedEvent)
    (message : String) : Prop :=
  resolveVerificationPolicyInput verificationPolicy = .error message ∨
    openVerificationTarget database = .error message ∨
    ∃ last, lastCaptured events last.seq = some last ∧
      ResolverThrows registry database last message

/-- A file in which every query finds no rows. -/
def emptyFile (_ : ℕ) : DatabaseSession where
  db _ _ := ⟨fun _ => .ok []⟩
  world _ _ := silverWeaviate
  now _ := 0
  attempts := 1

end AgentSkeptic.Engine
