import AgentSkeptic.Bundle.VerificationDiff

/-!
# The verdict of the release-critical steps

`releaseCriticalVerdictFromWorkflowResult` of `outcomeCertificate.ts` rolls up the steps
whose tools the registry marks `releaseCritical`, in an order of its own: a missing or
inconsistent step comes before one whose verification is incomplete, and a partially
verified step leaves the verdict unknown.  `aggregateWorkflow` has the incomplete steps
come first, and a partially verified step makes it inconsistent.

`releaseCriticalVerdict_exact` says where the two rollups of the same steps differ.
-/

namespace AgentSkeptic.Bundle

open AgentSkeptic.Support AgentSkeptic.Engine

/-! ## The two verdicts -/

def releaseCriticalSteps (result : WorkflowEngineResult) : List StepOutcome :=
  result.steps.filter (·.releaseCritical)

def releaseCriticalVerdictFromWorkflowResult (result : WorkflowEngineResult) :
    TruthCheckVerdictLabel :=
  let critical := releaseCriticalSteps result
  if critical.length = 0 then .trusted
  else if critical.any fun s => s.status = .missing || s.status = .inconsistent then
    .notTrusted
  else if critical.any fun s =>
      s.status = .incompleteVerification || s.status = .uncertain ||
        s.status = .partiallyVerified then
    .unknown
  else .trusted

/-- `truthCheckVerdictFromCertificate`, of the two fields that it reads. -/
def truthCheckVerdictFromCertificate (stateRelation : OutcomeCertificateStateRelation)
    (highStakesReliance : OutcomeCertificateHighStakesReliance) : TruthCheckVerdictLabel :=
  if stateRelation = .matchesExpectations ∧ highStakesReliance = .permitted then .trusted
  else if stateRelation = .doesNotMatch then .notTrusted
  else .unknown

/-- The verdict on the certificate of a `contract_sql` run. -/
def globalVerdict (result : WorkflowEngineResult) : TruthCheckVerdictLabel :=
  let stateRelation := workflowResultToStateRelation result.status
  truthCheckVerdictFromCertificate stateRelation
    (deriveHighStakesReliance .contractSql stateRelation)

/-! ## What the steps decide -/

def HasStatus (steps : List StepOutcome) (status : StepStatus) : Prop :=
  ∃ s ∈ steps, s.status = status

/-- A step shows that the database is not as expected. -/
def HasRejected (steps : List StepOutcome) : Prop :=
  HasStatus steps .missing ∨ HasStatus steps .inconsistent

instance (steps : List StepOutcome) (status : StepStatus) :
    Decidable (HasStatus steps status) :=
  inferInstanceAs (Decidable (∃ s ∈ steps, s.status = status))

instance (steps : List StepOutcome) : Decidable (HasRejected steps) :=
  inferInstanceAs (Decidable (_ ∨ _))

/-- A rejected step beside one whose verification is incomplete. -/
def RejectedBesideIncomplete (steps : List StepOutcome) : Prop :=
  HasRejected steps ∧ HasStatus steps .incompleteVerification

/-- A partially verified step, and neither of the two. -/
def PartialWithoutEither (steps : List StepOutcome) : Prop :=
  HasStatus steps .partiallyVerified ∧ ¬HasRejected steps ∧
    ¬HasStatus steps .incompleteVerification

theorem hasRejected_iff_any {steps : List StepOutcome} :
    (steps.any fun s => s.status = .missing || s.status = .inconsistent) = true ↔
      HasRejected steps := by
  simp [HasRejected, HasStatus, and_or_left, exists_or]

theorem hasStatus_iff_any {steps : List StepOutcome} {status : StepStatus} :
    steps.any (·.status = status) = true ↔ HasStatus steps status := by
  simp [HasStatus]

/-- A rejected step settles the critical verdict. -/
theorem releaseCriticalVerdict_rejected {result : WorkflowEngineResult}
    (h : HasRejected (releaseCriticalSteps result)) :
    releaseCriticalVerdictFromWorkflowResult result = .notTrusted := by
  have hlength : ¬(releaseCriticalSteps result).length = 0 := by
    intro hnil
    rw [List.length_eq_zero_iff.mp hnil] at h
    simp [HasRejected, HasStatus] at h
  rw [releaseCriticalVerdictFromWorkflowResult, if_neg hlength,
    if_pos (hasRejected_iff_any.mpr h)]

theorem releaseCriticalVerdict_not_rejected {result : WorkflowEngineResult}
    (h : ¬HasRejected (releaseCriticalSteps result)) :
    releaseCriticalVerdictFromWorkflowResult result =
      if ∀ s ∈ releaseCriticalSteps result, s.status = .verified then .trusted
      else .unknown := by
  have hopen : ((releaseCriticalSteps result).any fun s =>
      s.status = .incompleteVerification || s.status = .uncertain ||
        s.status = .partiallyVerified) = true ↔
      ¬∀ s ∈ releaseCriticalSteps result, s.status = .verified := by
    have hsome (s : StepOutcome) (hs : s ∈ releaseCriticalSteps result) :
        s.status ≠ .verified ↔ s.status = .incompleteVerification ∨
          s.status = .uncertain ∨ s.status = .partiallyVerified := by
      have hmissing : s.status ≠ .missing := fun heq => h (.inl ⟨s, hs, heq⟩)
      have hinconsistent : s.status ≠ .inconsistent := fun heq => h (.inr ⟨s, hs, heq⟩)
      cases hstatus : s.status
      all_goals simp_all
    push Not
    simp only [List.any_eq_true, Bool.or_eq_true, decide_eq_true_eq, or_assoc]
    exact exists_congr fun s => and_congr_right fun hs => (hsome s hs).symm
  rw [releaseCriticalVerdictFromWorkflowResult]
  by_cases hnil : (releaseCriticalSteps result).length = 0
  · rw [if_pos hnil, if_pos]
    rw [List.length_eq_zero_iff.mp hnil]
    exact fun s hs => absurd hs List.not_mem_nil
  · rw [if_neg hnil, if_neg fun hany => h (hasRejected_iff_any.mp hany)]
    by_cases hall : ∀ s ∈ releaseCriticalSteps result, s.status = .verified
    · rw [if_pos hall, if_neg fun hany => hopen.mp hany hall]
    · rw [if_neg hall, if_pos (hopen.mpr hall)]

/-- A step with another status than `verified`. -/
theorem not_all_verified {steps : List StepOutcome} {status : StepStatus}
    (h : HasStatus steps status) (hstatus : status ≠ .verified) :
    ¬∀ s ∈ steps, s.status = .verified := by
  obtain ⟨s, hs, rfl⟩ := h
  exact fun hall => hstatus (hall s hs)

section Aggregated

variable {steps : List StepOutcome} {workflowId : String} {aggregated : WorkflowEngineResult}

/-- The verdict of steps that are aggregated without reasons of the run. -/
theorem globalVerdict_aggregated (hne : steps ≠ [])
    (h : aggregateWorkflow workflowId steps [] = .ok aggregated) :
    globalVerdict aggregated =
      if HasStatus steps .incompleteVerification then .unknown
      else if HasRejected steps ∨ HasStatus steps .partiallyVerified then .notTrusted
      else if ∀ s ∈ steps, s.status = .verified then .trusted
      else .unknown := by
  have hlength : ¬steps.length = 0 := fun hnil => hne (List.length_eq_zero_iff.mp hnil)
  have hstatus : aggregated.status = aggregateStatus [] steps := by
    obtain ⟨enriched, -, hok⟩ := bind_eq_ok.mp h
    rw [← Except.ok.inj hok, if_neg hlength]
    rfl
  have hincomplete : (([] : List Reason).length > 0 ∨ steps.length = 0 ∨
      steps.any (·.status = .incompleteVerification) = true) ↔
        HasStatus steps .incompleteVerification := by
    rw [hasStatus_iff_any]
    exact ⟨fun hor => (hor.resolve_left (Nat.not_lt_zero _)).resolve_left hlength,
      fun hhas => .inr (.inr hhas)⟩
  have hbad : steps.any isBadRealWorld = true ↔
      HasRejected steps ∨ HasStatus steps .partiallyVerified := by
    simp [isBadRealWorld, HasRejected, HasStatus, and_or_left, exists_or, or_assoc]
  have hall : steps.all (·.status = .verified) = true ↔
      ∀ s ∈ steps, s.status = .verified := by simp
  rw [globalVerdict, hstatus, aggregateStatus]
  simp only [hincomplete, hbad, hall]
  split_ifs
  all_goals rfl

end Aggregated

/-- The verdict of the critical steps against the global verdict of the same steps: they
agree but for a rejected step beside one whose verification is incomplete, and for a
partially verified step where neither is. -/
theorem releaseCriticalVerdict_exact (result : WorkflowEngineResult) :
    (releaseCriticalSteps result = [] →
      releaseCriticalVerdictFromWorkflowResult result = .trusted) ∧
    ∀ aggregated : WorkflowEngineResult, releaseCriticalSteps result ≠ [] →
      aggregateWorkflow result.workflowId (releaseCriticalSteps result) [] =
        .ok aggregated →
      (releaseCriticalVerdictFromWorkflowResult result = globalVerdict aggregated ↔
        ¬RejectedBesideIncomplete (releaseCriticalSteps result) ∧
          ¬PartialWithoutEither (releaseCriticalSteps result)) ∧
      (RejectedBesideIncomplete (releaseCriticalSteps result) →
        releaseCriticalVerdictFromWorkflowResult result = .notTrusted ∧
          globalVerdict aggregated = .unknown) ∧
      (PartialWithoutEither (releaseCriticalSteps result) →
        releaseCriticalVerdictFromWorkflowResult result = .unknown ∧
          globalVerdict aggregated = .notTrusted) := by
  refine ⟨fun hnil => ?_, fun aggregated hne haggregated => ?_⟩
  · rw [releaseCriticalVerdictFromWorkflowResult, hnil]
    rfl
  have hglobal := globalVerdict_aggregated hne haggregated
  have hbeside : RejectedBesideIncomplete (releaseCriticalSteps result) →
      releaseCriticalVerdictFromWorkflowResult result = .notTrusted ∧
        globalVerdict aggregated = .unknown := by
    rintro ⟨hrejected, hincomplete⟩
    rw [hglobal, if_pos hincomplete]
    exact ⟨releaseCriticalVerdict_rejected hrejected, rfl⟩
  have hmixed : PartialWithoutEither (releaseCriticalSteps result) →
      releaseCriticalVerdictFromWorkflowResult result = .unknown ∧
        globalVerdict aggregated = .notTrusted := by
    rintro ⟨hsome, hrejected, hincomplete⟩
    have hopen := not_all_verified hsome (by decide)
    rw [hglobal, if_neg hincomplete, if_pos (.inr hsome),
      releaseCriticalVerdict_not_rejected hrejected, if_neg hopen]
    exact ⟨rfl, rfl⟩
  refine ⟨⟨fun heq => ⟨fun h => ?_, fun h => ?_⟩, ?_⟩, hbeside, hmixed⟩
  · rw [(hbeside h).1, (hbeside h).2] at heq
    exact absurd heq (by decide)
  · rw [(hmixed h).1, (hmixed h).2] at heq
    exact absurd heq (by decide)
  · rintro ⟨hnotBeside, hnotPartial⟩
    rw [hglobal]
    by_cases hincomplete : HasStatus (releaseCriticalSteps result) .incompleteVerification
    · have hrejected : ¬HasRejected (releaseCriticalSteps result) :=
        fun hsome => hnotBeside ⟨hsome, hincomplete⟩
      have hopen := not_all_verified hincomplete (by decide)
      rw [if_pos hincomplete, releaseCriticalVerdict_not_rejected hrejected, if_neg hopen]
    · rw [if_neg hincomplete]
      by_cases hrejected : HasRejected (releaseCriticalSteps result)
      · rw [if_pos (.inl hrejected), releaseCriticalVerdict_rejected hrejected]
      · have hno : ¬(HasRejected (releaseCriticalSteps result) ∨
            HasStatus (releaseCriticalSteps result) .partiallyVerified) :=
          not_or.mpr ⟨hrejected, fun hsome =>
            hnotPartial ⟨hsome, hrejected, hincomplete⟩⟩
        rw [if_neg hno, releaseCriticalVerdict_not_rejected hrejected]

/-! ## Two critical steps -/

def criticalStep (seq : ℕ) (status : StepStatus) (code : String) : StepOutcome where
  seq
  toolId := "crm.upsert"
  releaseCritical := true
  intendedEffect := ""
  observedExecution := "\x7b\x7d"
  verificationRequest := none
  status
  reasons := [{ code, message := "" }]
  evidenceSummary := []
  repeatObservationCount := 1
  evaluatedObservationOrdinal := 1
  failureDiagnostic := none
  langgraphCheckpointKey := none

def absentAndUnknownTool : WorkflowEngineResult where
  workflowId := "w"
  status := .incomplete
  runLevelReasons := []
  steps := [criticalStep 0 .missing "ROW_ABSENT",
    criticalStep 1 .incompleteVerification "UNKNOWN_TOOL"]

/-- The aggregate of the critical steps, with their diagnostics. -/
def absentAndUnknownToolAggregated : WorkflowEngineResult where
  workflowId := "w"
  status := .incomplete
  runLevelReasons := []
  steps :=
    [{ criticalStep 0 .missing "ROW_ABSENT" with
        failureDiagnostic := some .workflowExecution },
      { criticalStep 1 .incompleteVerification "UNKNOWN_TOOL" with
        failureDiagnostic := some .verificationSetup }]

theorem absentAndUnknownTool_aggregates :
    aggregateWorkflow absentAndUnknownTool.workflowId
        (releaseCriticalSteps absentAndUnknownTool) [] =
      .ok absentAndUnknownToolAggregated := by
  have hsteps : releaseCriticalSteps absentAndUnknownTool =
      [criticalStep 0 .missing "ROW_ABSENT",
        criticalStep 1 .incompleteVerification "UNKNOWN_TOOL"] := rfl
  have hsetup : withFailureDiagnostic
      (criticalStep 1 .incompleteVerification "UNKNOWN_TOOL") =
        .ok { criticalStep 1 .incompleteVerification "UNKNOWN_TOOL" with
          failureDiagnostic := some .verificationSetup } := by
    apply withFailureDiagnostic_eq_ok.mpr
    refine ⟨some .verificationSetup, ?_, rfl⟩
    exact bind_eq_ok.mpr ⟨.verificationSetup, by decide +kernel, rfl⟩
  rw [hsteps, aggregateWorkflow, List.mapM_cons, List.mapM_cons, hsetup]
  rfl

theorem releaseCriticalVerdict_exact_absentAndUnknownTool :
    releaseCriticalVerdictFromWorkflowResult absentAndUnknownTool = .notTrusted ∧
      globalVerdict absentAndUnknownToolAggregated = .unknown := by
  refine ((releaseCriticalVerdict_exact absentAndUnknownTool).2
    absentAndUnknownToolAggregated ?_ absentAndUnknownTool_aggregates).2.1 ?_
  · exact List.cons_ne_nil _ _
  · exact ⟨by decide +kernel, by decide +kernel⟩

/-- The critical verdict is `not_trusted`, the global one of the same steps `unknown`. -/
theorem releaseCriticalVerdict_not_global :
    ¬∀ result aggregated : WorkflowEngineResult, releaseCriticalSteps result ≠ [] →
      aggregateWorkflow result.workflowId (releaseCriticalSteps result) [] =
        .ok aggregated →
      releaseCriticalVerdictFromWorkflowResult result = globalVerdict aggregated := by
  intro h
  have heq := h absentAndUnknownTool absentAndUnknownToolAggregated (List.cons_ne_nil _ _)
    absentAndUnknownTool_aggregates
  revert heq
  decide +kernel

end AgentSkeptic.Bundle
