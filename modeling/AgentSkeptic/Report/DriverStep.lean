import AgentSkeptic.Report.FailureExplanation
import AgentSkeptic.Support.StableSort

/-!
# Failure analysis of every engine result

`buildFailureAnalysis` on the results of `aggregateWorkflow`.  A result that is not
complete has a run-level reason or a step that is not verified, so the last phase finds
its driver step.
-/

namespace AgentSkeptic.Report

open AgentSkeptic.Support AgentSkeptic.Engine AgentSkeptic.Events

/-! ## The driver step -/

/-- The least failing step by rank, seq and tool id. -/
structure IsDriverStep (tables : TextTables) (steps : List StepOutcome)
    (driverStep : StepOutcome) : Prop where
  mem : driverStep ∈ steps
  failing : driverStep.status ≠ .verified
  least : ∀ s ∈ steps, s.status ≠ .verified → driverLe tables driverStep s = true

section Driver

variable {tables : TextTables}
  (htotal : ∀ a b, tables.localeLe a b = true ∨ tables.localeLe b a = true)
  (htrans : ∀ a b c, tables.localeLe a b = true → tables.localeLe b c = true →
    tables.localeLe a c = true)

theorem driverLe_iff {a b : StepOutcome} : driverLe tables a b = true ↔
    StepStatus.rank a.status < StepStatus.rank b.status ∨
      StepStatus.rank a.status = StepStatus.rank b.status ∧
        (a.seq < b.seq ∨ a.seq = b.seq ∧ tables.localeLe a.toolId b.toolId = true) := by
  simp only [driverLe, Bool.or_eq_true, Bool.and_eq_true, decide_eq_true_eq, beq_iff_eq]

include htotal in
theorem driverLe_total : Std.Total fun a b => driverLe tables a b = true where
  total := by
    intro a b
    rw [driverLe_iff, driverLe_iff]
    rcases lt_trichotomy (StepStatus.rank a.status) (StepStatus.rank b.status) with hlt | heq | hgt
    · exact .inl (.inl hlt)
    · rcases lt_trichotomy a.seq b.seq with hseq | hseq | hseq
      · exact .inl (.inr ⟨heq, .inl hseq⟩)
      · rcases htotal a.toolId b.toolId with h | h
        · exact .inl (.inr ⟨heq, .inr ⟨hseq, h⟩⟩)
        · exact .inr (.inr ⟨heq.symm, .inr ⟨hseq.symm, h⟩⟩)
      · exact .inr (.inr ⟨heq.symm, .inl hseq⟩)
    · exact .inr (.inl hgt)

include htrans in
theorem driverLe_trans : IsTrans StepOutcome fun a b => driverLe tables a b = true where
  trans := by
    intro a b c hab hbc
    rw [driverLe_iff] at hab hbc ⊢
    have htool := htrans a.toolId b.toolId c.toolId
    rcases hab with hab | ⟨hab, hab' | ⟨hab', habTool⟩⟩
    · rcases hbc with hbc | ⟨hbc, -⟩
      · exact .inl (hab.trans hbc)
      · exact .inl (hbc ▸ hab)
    · rcases hbc with hbc | ⟨hbc, hbc' | ⟨hbc', -⟩⟩
      · exact .inl (hab ▸ hbc)
      · exact .inr ⟨hab.trans hbc, .inl (hab'.trans hbc')⟩
      · exact .inr ⟨hab.trans hbc, .inl (hbc' ▸ hab')⟩
    · rcases hbc with hbc | ⟨hbc, hbc' | ⟨hbc', hbcTool⟩⟩
      · exact .inl (hab ▸ hbc)
      · exact .inr ⟨hab.trans hbc, .inl (hab' ▸ hbc')⟩
      · exact .inr ⟨hab.trans hbc, .inr ⟨hab'.trans hbc', htool habTool hbcTool⟩⟩

include htotal htrans in
theorem normativeDriverStep_isDriverStep {steps : List StepOutcome}
    (h : ∃ s ∈ steps, s.status ≠ .verified) :
    ∃ driverStep, normativeDriverStep tables steps = some driverStep ∧
      IsDriverStep tables steps driverStep := by
  have := driverLe_total htotal
  have := driverLe_trans htrans
  obtain ⟨s, hs, hfailing⟩ := h
  have hmem : ∀ x, x ∈ (steps.filter (·.status ≠ .verified)).insertionSort
      (fun a b => driverLe tables a b = true) ↔ x ∈ steps ∧ x.status ≠ .verified := by
    intro x
    rw [List.mem_insertionSort, List.mem_filter, decide_eq_true_eq]
  have hsorted := List.pairwise_insertionSort (fun a b => driverLe tables a b = true)
    (steps.filter (·.status ≠ .verified))
  rw [normativeDriverStep]
  cases hsort : (steps.filter (·.status ≠ .verified)).insertionSort
      (fun a b => driverLe tables a b = true) with
  | nil =>
      have hin := (hmem s).mpr ⟨hs, hfailing⟩
      rw [hsort] at hin
      exact absurd hin List.not_mem_nil
  | cons driverStep rest =>
      rw [hsort] at hmem hsorted
      obtain ⟨hfirst, -⟩ := List.pairwise_cons.mp hsorted
      obtain ⟨hdriver, hdriverFailing⟩ := (hmem driverStep).mp List.mem_cons_self
      refine ⟨driverStep, rfl, hdriver, hdriverFailing, ?_⟩
      intro x hx hxfailing
      rcases List.mem_cons.mp ((hmem x).mpr ⟨hx, hxfailing⟩) with rfl | hrest
      · exact ((driverLe_total htotal).total x x).elim id id
      · exact hfirst x hrest

end Driver

/-! ## Results of the aggregation -/

section Aggregate

variable {workflowId : String} {steps : List StepOutcome} {runLevelReasons : List Reason}
  {result : Engine.WorkflowEngineResult}

/-- The diagnostics that are added leave the status of each step. -/
theorem mapM_withFailureDiagnostic_failing {enriched : List StepOutcome}
    (h : steps.mapM withFailureDiagnostic = .ok enriched) {s : StepOutcome} (hs : s ∈ steps)
    (hfailing : s.status ≠ .verified) : ∃ e ∈ enriched, e.status ≠ .verified := by
  obtain ⟨e, he, hstep⟩ := mem_of_mapM_eq_ok h hs
  obtain ⟨diagnostic, -, rfl⟩ := withFailureDiagnostic_eq_ok.mp hstep
  exact ⟨_, he, hfailing⟩

/-- A result that is not complete has a run-level reason or a failing step. -/
theorem exists_failing_of_aggregate
    (h : aggregateWorkflow workflowId steps runLevelReasons = .ok result)
    (hstatus : result.status ≠ .complete) (hreasons : result.runLevelReasons.length = 0) :
    ∃ s ∈ result.steps, s.status ≠ .verified := by
  obtain ⟨enriched, henriched, h⟩ := bind_eq_ok.mp h
  obtain rfl := Except.ok.inj h
  dsimp only at hstatus hreasons ⊢
  rw [List.length_append] at hreasons
  have hsteps : steps.length ≠ 0 := by
    intro hnone
    rw [if_pos hnone, List.length_singleton] at hreasons
    omega
  rw [if_neg hsteps] at hstatus
  have hnoReason : runLevelReasons = [] := List.length_eq_zero_iff.mp (by omega)
  suffices hfailing : ∃ s ∈ steps, s.status ≠ .verified by
    obtain ⟨s, hs, hnot⟩ := hfailing
    exact mapM_withFailureDiagnostic_failing henriched hs hnot
  by_contra hall
  have hverified : ∀ s ∈ steps, s.status = .verified := by
    intro s hs
    by_contra hnot
    exact hall ⟨s, hs, hnot⟩
  apply hstatus
  have hincomplete : steps.any (·.status = .incompleteVerification) = false := by
    rw [List.any_eq_false]
    intro s hs
    rw [hverified s hs]
    decide
  have hbad : steps.any isBadRealWorld = false := by
    rw [List.any_eq_false]
    intro s hs
    rw [isBadRealWorld, hverified s hs]
    decide
  have hcomplete : steps.all (·.status = .verified) = true := by
    rw [List.all_eq_true]
    intro s hs
    rw [hverified s hs]
    decide
  rw [hnoReason, List.append_nil, aggregateStatus, if_neg (by simp [hincomplete, hsteps]), hbad,
    if_neg Bool.false_ne_true, if_pos hcomplete]

end Aggregate

/-! ## The first evidence -/

/-- The first item of the evidence has a code. -/
def HasCode (fa : FailureAnalysisBase) : Prop :=
  ∃ item rest code codes, fa.evidence = item :: rest ∧ item.codes = some (code :: codes)

section Evidence

variable {tables : TextTables} {fa : FailureAnalysisBase}

theorem sortUniqueCodes_eq_cons {reasons : List Reason} (h : reasons ≠ []) :
    ∃ code codes, sortUniqueCodes tables (reasons.map Reason.code) = code :: codes := by
  apply List.exists_cons_of_ne_nil
  obtain ⟨r, rest, rfl⟩ := List.exists_cons_of_ne_nil h
  apply List.ne_nil_of_mem
  rw [sortUniqueCodes, List.mem_insertionSort, InsertionMap.mem_keys_ofKeys]
  exact List.mem_cons_self

theorem runLevelAnalysis_hasCode {reasons : List Reason} (h : reasons ≠ []) :
    HasCode (runLevelAnalysis tables reasons) := by
  obtain ⟨code, codes, hcodes⟩ := @sortUniqueCodes_eq_cons tables _ h
  exact ⟨_, _, code, codes, rfl, congrArg some hcodes⟩

theorem eventSequenceAnalysis_hasCode {reasons : List Reason} (h : reasons ≠ []) :
    HasCode (eventSequenceAnalysis tables reasons) := by
  obtain ⟨code, codes, hcodes⟩ := @sortUniqueCodes_eq_cons tables _ h
  exact ⟨_, _, code, codes, rfl, congrArg some hcodes⟩

theorem runContextAnalysis_hasCode {ctx : VerificationRunContext} {iFail : ℕ}
    (h : runContextAnalysis ctx iFail = some fa) : HasCode fa := by
  rw [runContextAnalysis] at h
  split at h
  · obtain rfl := Option.some.inj h
    exact ⟨_, _, _, _, rfl, rfl⟩
  · split at h
    · obtain rfl := Option.some.inj h
      exact ⟨_, _, _, _, rfl, rfl⟩
    · split at h
      · obtain rfl := Option.some.inj h
        exact ⟨_, _, _, _, rfl, rfl⟩
      · split at h
        · obtain rfl := Option.some.inj h
          exact ⟨_, _, _, _, rfl, rfl⟩
        · split at h
          · obtain rfl := Option.some.inj h
            exact ⟨_, _, _, _, rfl, rfl⟩
          · exact absurd h nofun

end Evidence

/-! ## The analysis -/

/-- The first reason of the failing effect whose code stands for a roll-up has a code. -/
def CodedEffects (tables : TextTables) (step : StepOutcome) : Prop :=
  isRollup (rollupCode step) = true →
    ∀ reason, firstEffectReason? tables step = some reason →
      ∃ code, reasonText "code" reason = .ok code

theorem primaryCodeForStep_ok {tables : TextTables} {step : StepOutcome}
    (h : CodedEffects tables step) : ∃ code, primaryCodeForStep tables step = .ok code := by
  rw [primaryCodeForStep]
  split
  · rename_i hrollup
    split
    · rename_i reason hreason
      exact h hrollup reason hreason
    · exact ⟨_, rfl⟩
  · exact ⟨_, rfl⟩

/-- P4 and P5 of a result with a failing step. -/
theorem lateAnalysis_hasCode {tables : TextTables} {engine : WorkflowEngineResult}
    (hsequence : engine.eventSequenceIntegrity ≠ .irregular [])
    (hcoded : ∀ s ∈ engine.steps, CodedEffects tables s)
    (hdriver : ∃ driverStep, normativeDriverStep tables engine.steps = some driverStep ∧
      IsDriverStep tables engine.steps driverStep) :
    ∃ fa, lateAnalysis tables engine = .ok fa ∧ HasCode fa := by
  obtain ⟨driverStep, hsome, hisDriver⟩ := hdriver
  rw [lateAnalysis]
  cases hkind : engine.eventSequenceIntegrity with
  | irregular reasons =>
      refine ⟨_, rfl, eventSequenceAnalysis_hasCode ?_⟩
      rintro rfl
      exact hsequence hkind
  | normal =>
      have hsteps : engine.steps.length ≠ 0 := by
        intro hnone
        have hmem := hisDriver.mem
        rw [List.length_eq_zero_iff.mp hnone] at hmem
        exact absurd hmem List.not_mem_nil
      obtain ⟨code, hcode⟩ := primaryCodeForStep_ok (hcoded driverStep hisDriver.mem)
      dsimp only
      rw [if_neg hsteps, hsome]
      dsimp only
      rw [hcode]
      exact ⟨_, rfl, _, _, _, _, rfl, rfl⟩

section Totality

variable {tables : TextTables} {engine : WorkflowEngineResult}

theorem buildFailureAnalysis_hasCode (hstatus : engine.status ≠ .complete)
    (hsequence : engine.eventSequenceIntegrity ≠ .irregular [])
    (hcoded : ∀ s ∈ engine.steps, CodedEffects tables s)
    (hdriver : engine.runLevelReasons.length = 0 →
      ∃ driverStep, normativeDriverStep tables engine.steps = some driverStep ∧
        IsDriverStep tables engine.steps driverStep) :
    ∃ fa, buildFailureAnalysis tables engine = .ok (some fa) ∧ HasCode fa := by
  rw [buildFailureAnalysis, if_neg hstatus]
  by_cases hreasons : engine.runLevelReasons.length > 0
  · rw [if_pos hreasons]
    exact ⟨_, rfl, runLevelAnalysis_hasCode (List.ne_nil_of_length_pos hreasons)⟩
  · rw [if_neg hreasons]
    dsimp only
    split
    · rename_i analysis hcontext
      obtain ⟨iFail, -, hanalysis⟩ := Option.bind_eq_some_iff.mp hcontext
      exact ⟨analysis, rfl, runContextAnalysis_hasCode hanalysis⟩
    · obtain ⟨fa, hfa, hcode⟩ := lateAnalysis_hasCode hsequence hcoded (hdriver (by omega))
      rw [hfa]
      exact ⟨fa, rfl, hcode⟩

end Totality

/-- On a result of the aggregation whose irregular sequence has a reason and whose effect
rows have their codes, the analysis returns, with nothing just for a complete result and
with a code in the first evidence otherwise; where no run-level reason explains the
result there is a driver step, and wherever a step fails the driver step is the least. -/
theorem buildFailureAnalysis_total (tables : TextTables)
    (htotal : ∀ a b, tables.localeLe a b = true ∨ tables.localeLe b a = true)
    (htrans : ∀ a b c, tables.localeLe a b = true → tables.localeLe b c = true →
      tables.localeLe a c = true)
    (workflowId : String) (steps : List StepOutcome) (runLevelReasons : List Reason)
    (engine : WorkflowEngineResult)
    (hengine : aggregateWorkflow workflowId steps runLevelReasons =
      .ok engine.toWorkflowEngineResult)
    (hsequence : engine.eventSequenceIntegrity ≠ .irregular [])
    (hcoded : ∀ s ∈ engine.steps, CodedEffects tables s) :
    (∃ analysis, buildFailureAnalysis tables engine = .ok analysis ∧
      (analysis = none ↔ engine.status = .complete) ∧ ∀ fa ∈ analysis, HasCode fa) ∧
    (engine.status ≠ .complete → engine.runLevelReasons = [] →
      ∃ s ∈ engine.steps, s.status ≠ .verified) ∧
    ((∃ s ∈ engine.steps, s.status ≠ .verified) →
      ∃ driverStep, normativeDriverStep tables engine.steps = some driverStep ∧
        IsDriverStep tables engine.steps driverStep) := by
  have hfailing (hstatus : engine.status ≠ .complete)
      (hreasons : engine.runLevelReasons.length = 0) :
      ∃ s ∈ engine.steps, s.status ≠ .verified :=
    exists_failing_of_aggregate hengine hstatus hreasons
  refine ⟨?_, fun hstatus hreasons => hfailing hstatus (by rw [hreasons, List.length_nil]),
    normativeDriverStep_isDriverStep htotal htrans⟩
  by_cases hstatus : engine.status = .complete
  · refine ⟨none, ?_, iff_of_true rfl hstatus, fun fa hfa => absurd hfa nofun⟩
    rw [buildFailureAnalysis, if_pos hstatus]
  · obtain ⟨fa, hfa, hcode⟩ := buildFailureAnalysis_hasCode hstatus hsequence hcoded
      fun hreasons => normativeDriverStep_isDriverStep htotal htrans (hfailing hstatus hreasons)
    refine ⟨some fa, hfa, iff_of_false nofun hstatus, ?_⟩
    intro fa' hfa'
    obtain rfl := Option.some.inj hfa'
    exact hcode

/-! ## Results outside the types -/

/-- A failing step with its diagnostic, as the aggregation returns it. -/
def failingStep (status : StepStatus) (code : String) (evidenceSummary : List (String × Json)) :
    StepOutcome where
  seq := 0
  toolId := "crm.upsert_contact"
  releaseCritical := false
  intendedEffect := "Upsert the contact"
  observedExecution := "\x7b\x7d"
  verificationRequest := none
  status
  reasons := [{ code, message := "The check did not pass." }]
  evidenceSummary
  repeatObservationCount := 1
  evaluatedObservationOrdinal := 1
  failureDiagnostic := some .workflowExecution
  langgraphCheckpointKey := none

def absentStep : StepOutcome := failingStep .missing "ROW_ABSENT" [("rowCount", .num (.int 0))]

/-- The first reason of the effect row is `null`. -/
def codelessStep : StepOutcome :=
  failingStep .partiallyVerified "MULTI_EFFECT_PARTIAL"
    [("effects", .arr [.obj [("id", .str "contact"), ("status", .str "missing"),
      ("reasons", .arr [.null])]])]

def oneStepRun (step : StepOutcome) (eventSequenceIntegrity : EventSequenceIntegrity) :
    WorkflowEngineResult where
  workflowId := "wf_1"
  status := .inconsistent
  runLevelReasons := []
  steps := [step]
  verificationPolicy := defaultVerificationPolicy
  eventSequenceIntegrity
  verificationRunContext := emptyContext

/-- The witness: a missing row. -/
theorem buildFailureAnalysis_absentStep :
    ∃ analysis, buildFailureAnalysis asciiTexts (oneStepRun absentStep .normal) =
      .ok analysis ∧ ∀ fa ∈ analysis, HasCode fa := by
  have htotal (a b : String) : utf16Le a b = true ∨ utf16Le b a = true :=
    Bool.or_eq_true_iff.mp (utf16Le_total a b)
  have hcoded : ∀ s ∈ (oneStepRun absentStep .normal).steps, CodedEffects asciiTexts s := by
    intro s hs hrollup
    rw [List.mem_singleton.mp hs] at hrollup
    exact absurd hrollup (by decide)
  obtain ⟨⟨analysis, hok, -, hcode⟩, -⟩ := buildFailureAnalysis_total asciiTexts htotal
    (fun _ _ _ => utf16Le_trans) "wf_1" [absentStep] [] (oneStepRun absentStep .normal) rfl
    nofun hcoded
  exact ⟨analysis, hok, hcode⟩

/-- An irregular sequence without a reason leaves the first evidence without a code, and an
effect row whose first reason is `null` makes the analysis throw. -/
theorem buildFailureAnalysis_outside_types :
    (aggregateWorkflow "wf_1" [absentStep] [] =
        .ok (oneStepRun absentStep (.irregular [])).toWorkflowEngineResult ∧
      ∃ fa, buildFailureAnalysis asciiTexts (oneStepRun absentStep (.irregular [])) =
        .ok (some fa) ∧ ¬HasCode fa) ∧
    aggregateWorkflow "wf_1" [codelessStep] [] =
        .ok (oneStepRun codelessStep .normal).toWorkflowEngineResult ∧
      buildFailureAnalysis asciiTexts (oneStepRun codelessStep .normal) =
        .error .typeError := by
  refine ⟨⟨rfl, eventSequenceAnalysis asciiTexts [], rfl, ?_⟩, rfl, rfl⟩
  rintro ⟨item, rest, code, codes, hevidence, hcodes⟩
  obtain ⟨rfl, -⟩ := List.cons.inj hevidence
  exact absurd hcodes nofun

end AgentSkeptic.Report
