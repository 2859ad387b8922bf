import AgentSkeptic.Engine.Pipeline
import AgentSkeptic.Engine.StateWitness
import AgentSkeptic.Support.InsertionMap

/-!
# Witness coverage and its budget

`witnessCoverageRollup.ts` with `evaluateCoverageBudgetPhaseB` of `coverageBudget.ts`.
The rollup keeps the worst rank that a step has given to each kind of witness; the
budget asks that some kinds have rank 0.
-/

namespace AgentSkeptic.Engine

open AgentSkeptic.Support

/-! ## Kinds -/

inductive CanonicalWitnessRollupKind where
  | sql | httpWitness | objectStorage | vectorDocument | mongoDocument | stateWitness
  deriving DecidableEq

namespace CanonicalWitnessRollupKind

def text : CanonicalWitnessRollupKind → String
  | sql => "sql"
  | httpWitness => "http_witness"
  | objectStorage => "object_storage"
  | vectorDocument => "vector_document"
  | mongoDocument => "mongo_document"
  | stateWitness => "state_witness"

theorem text_injective : Function.Injective text := by
  intro a b h
  cases a <;> cases b <;> first | rfl | exact absurd h (by decide)

end CanonicalWitnessRollupKind

def canonicalWitnessKinds : List CanonicalWitnessRollupKind :=
  [.sql, .httpWitness, .objectStorage, .vectorDocument, .mongoDocument, .stateWitness]

inductive WitnessCoverageSupportLabel where
  | meaningfulMultiWitness | sqlOnlyContract | singleNonSqlContract | thinOrUnknown
  | coverageIncompleteOrFailed
  deriving DecidableEq

structure WitnessCoverageRollupJson where
  schemaVersion : ℕ
  exercisedKinds : List CanonicalWitnessRollupKind
  fullySatisfiedKinds : List CanonicalWitnessRollupKind
  notFullySatisfiedKinds : List CanonicalWitnessRollupKind
  supportLabel : WitnessCoverageSupportLabel
  summaryLine : Option String

/-- Higher is farther from verified. -/
def statusRank : StepStatus → ℕ
  | .verified => 0
  | .uncertain => 1
  | .incompleteVerification => 2
  | .partiallyVerified => 3
  | .missing => 4
  | .inconsistent => 5

def maxKindsDisplay : ℕ := 24

def witnessKindsFromVerificationRequest :
    Option ResolvedRequest → List CanonicalWitnessRollupKind
  | none => []
  | some (.sqlRow _) | some (.sqlRowAbsent _) | some (.sqlEffects _)
  | some (.sqlRelational _) => [.sql]
  | some (.stateWitness (.httpWitness _)) => [.httpWitness]
  | some (.stateWitness (.vectorDocument _)) => [.vectorDocument]
  | some (.stateWitness (.objectStorageObject _)) => [.objectStorage]
  | some (.stateWitness (.mongoDocument _)) => [.mongoDocument]

/-! ## The rollup -/

section

-- The order of `localeCompare`.
variable (localeLe : String → String → Bool)

def sortedUniqueKinds (list : List CanonicalWitnessRollupKind) :
    List CanonicalWitnessRollupKind :=
  ((InsertionMap.ofKeys list).keys.insertionSort fun a b =>
    localeLe a.text b.text = true).take maxKindsDisplay

/-- A kind is touched by a step of a rank. -/
def touch (worstByKind : InsertionMap CanonicalWitnessRollupKind ℕ)
    (touched : CanonicalWitnessRollupKind × ℕ) :
    InsertionMap CanonicalWitnessRollupKind ℕ :=
  worstByKind.set touched.1
    (((worstByKind.get? touched.1).map fun worst => max worst touched.2).getD touched.2)

def worstByKind (steps : List StepOutcome) : InsertionMap CanonicalWitnessRollupKind ℕ :=
  steps.foldl (fun worst step =>
    (witnessKindsFromVerificationRequest step.verificationRequest).foldl
      (fun worst kind => touch worst (kind, statusRank step.status)) worst) .empty

def deriveSupportLabel (exercisedKinds fullySatisfiedKinds
    notFullySatisfiedKinds : List CanonicalWitnessRollupKind) :
    WitnessCoverageSupportLabel :=
  if exercisedKinds.length = 0 then .thinOrUnknown
  else if notFullySatisfiedKinds.length > 0 then .coverageIncompleteOrFailed
  else if fullySatisfiedKinds.length = exercisedKinds.length ∧ exercisedKinds.length ≥ 2 then
    .meaningfulMultiWitness
  else if fullySatisfiedKinds.length = 1 ∧ fullySatisfiedKinds[0]? = some .sql ∧
      exercisedKinds.length = 1 then .sqlOnlyContract
  else if exercisedKinds.length = 1 ∧ fullySatisfiedKinds.length = 1 ∧
      exercisedKinds[0]? ≠ none ∧ exercisedKinds[0]? ≠ some .sql then .singleNonSqlContract
  else .coverageIncompleteOrFailed

def kindsCsv (kinds : List CanonicalWitnessRollupKind) : String :=
  ",".intercalate (kinds.map (·.text))

def formatSummaryLine (exercised fullySatisfied
    notFullySatisfied : List CanonicalWitnessRollupKind)
    (label : WitnessCoverageSupportLabel) : String :=
  if exercised.length = 0 then
    "No verification modalities exercised on captured steps with resolved " ++
      "verification targets."
  else
    let bad := if kindsCsv notFullySatisfied = "" then "(none)" else
      kindsCsv notFullySatisfied
    let body := match label with
      | .meaningfulMultiWitness => "Multiple modalities satisfied."
      | .sqlOnlyContract => "SQL-only contract checks satisfied."
      | .singleNonSqlContract => "Single non-SQL modality satisfied."
      | .thinOrUnknown => "Thin or unknown witness footprint."
      | .coverageIncompleteOrFailed =>
          "One or more modalities incomplete, partial, mismatched, or failed."
    let raw := "[" ++ body ++ "] modalities_exercised=" ++ kindsCsv exercised ++
      " modalities_fully_satisfied=" ++ kindsCsv fullySatisfied ++
        " modalities_not_fully_satisfied=" ++ bad
    -- all of it is ASCII, so characters are code units
    if raw.length ≤ 320 then raw
    else String.ofList (raw.toList.take 316 ++ ['…'])

def buildWitnessCoverageFromSteps (steps : List StepOutcome) : WitnessCoverageRollupJson :=
  let worst := worstByKind steps
  let exercised := sortedUniqueKinds localeLe worst.keys
  let fullySatisfied := exercised.filter fun k => (worst.get? k).getD 5 ≤ 0
  let notFullySatisfied := exercised.filter fun k => ¬ (worst.get? k).getD 5 ≤ 0
  let supportLabel := deriveSupportLabel exercised fullySatisfied notFullySatisfied
  let summaryLine := formatSummaryLine exercised fullySatisfied notFullySatisfied supportLabel
  { schemaVersion := 1
    exercisedKinds := exercised
    fullySatisfiedKinds := sortedUniqueKinds localeLe fullySatisfied
    notFullySatisfiedKinds := sortedUniqueKinds localeLe notFullySatisfied
    supportLabel
    summaryLine := if summaryLine.length > 0 then some summaryLine else none }

end

/-! ## The budget -/

inductive CoverageBudgetMachineCode where
  | pass | failUnderfull | skipNoEntry | unevalNoWitness
  deriving DecidableEq

def CoverageBudgetMachineCode.text : CoverageBudgetMachineCode → String
  | pass => "PASS"
  | failUnderfull => "FAIL_UNDERFULL"
  | skipNoEntry => "SKIP_NO_ENTRY"
  | unevalNoWitness => "UNEVAL_NO_WITNESS"

inductive CoverageBudgetVerdict where
  | pass | fail | skipped | unevaluable
  deriving DecidableEq

def CoverageBudgetVerdict.text : CoverageBudgetVerdict → String
  | pass => "pass"
  | fail => "fail"
  | skipped => "skipped"
  | unevaluable => "unevaluable"

structure CoverageBudgetEvaluation where
  verdict : CoverageBudgetVerdict
  code : CoverageBudgetMachineCode
  detailLine : String
  humanBlock : String

structure CoverageBudgetRow where
  workflowId : String
  minimumFullySatisfiedKinds : List String

/-- What `assertUniqueWorkflowIds` lets pass. -/
structure CoverageBudgetPolicyV1 where
  workflows : List CoverageBudgetRow
  unique : (workflows.map (·.workflowId)).Nodup

/-- What the budget reads of a certificate. -/
structure BudgetedCertificate where
  workflowId : String
  witnessCoverage : Option WitnessCoverageRollupJson

section

variable (localeLe : String → String → Bool)

def sortedCsv (kinds : List String) : String :=
  if kinds.length = 0 then "-"
  else ",".intercalate (kinds.insertionSort fun a b => localeLe a b = true)

def buildDetailLine (workflowId : String) (verdict : CoverageBudgetVerdict)
    (required satisfied missing : List String) (code : CoverageBudgetMachineCode) : String :=
  " ".intercalate
    ["workflow=" ++ encodeURIComponent workflowId, "verdict=" ++ verdict.text,
      "required=" ++ sortedCsv localeLe required,
      "satisfied=" ++ sortedCsv localeLe satisfied,
      "missing=" ++ sortedCsv localeLe missing, "code=" ++ code.text]

def buildHumanBlock (policyPath requiredKinds observed resultLine : String) : String :=
  "=== coverage_budget ===\n" ++
    "policy_path: " ++ policyPath ++ "\n" ++
    "required_kinds: " ++ requiredKinds ++ "\n" ++
    "observed_fully_satisfied: " ++ observed ++ "\n" ++
    "result: " ++ resultLine ++ "\n" ++
    "=== end coverage_budget ===\n"

def witnessRollup (certificate : BudgetedCertificate) : Option WitnessCoverageRollupJson :=
  certificate.witnessCoverage.filter (·.schemaVersion = 1)

def evaluateCoverageBudgetPhaseB (certificate : BudgetedCertificate)
    (policy : CoverageBudgetPolicyV1) (policyPath : String) : CoverageBudgetEvaluation :=
  let sort := fun kinds : List String => kinds.insertionSort fun a b => localeLe a b = true
  match policy.workflows.find? (·.workflowId = certificate.workflowId) with
  | none =>
      { verdict := .skipped
        code := .skipNoEntry
        detailLine := buildDetailLine localeLe certificate.workflowId .skipped [] [] []
          .skipNoEntry
        humanBlock := buildHumanBlock policyPath "-" "-"
          ("skipped_no_entry (no policy row for workflow \"" ++ certificate.workflowId ++
            "\")") }
  | some row =>
      let required := sort row.minimumFullySatisfiedKinds
      match witnessRollup certificate with
      | none =>
          { verdict := .unevaluable
            code := .unevalNoWitness
            detailLine := buildDetailLine localeLe certificate.workflowId .unevaluable
              required [] [] .unevalNoWitness
            humanBlock := buildHumanBlock policyPath (sortedCsv localeLe required) "-"
              ("unevaluable_no_witness_rollup (certificate lacks " ++
                "witnessCoverage.fullySatisfiedKinds)") }
      | some rollup =>
          let satisfiedKinds := rollup.fullySatisfiedKinds.map (·.text)
          let satisfied := sort satisfiedKinds
          let missing := required.filter fun k => !satisfiedKinds.contains k
          if missing.length = 0 then
            { verdict := .pass
              code := .pass
              detailLine := buildDetailLine localeLe certificate.workflowId .pass required
                satisfied [] .pass
              humanBlock := buildHumanBlock policyPath (sortedCsv localeLe required)
                (sortedCsv localeLe satisfied) "pass" }
          else
            { verdict := .fail
              code := .failUnderfull
              detailLine := buildDetailLine localeLe certificate.workflowId .fail required
                satisfied missing .failUnderfull
              humanBlock := buildHumanBlock policyPath (sortedCsv localeLe required)
                (sortedCsv localeLe satisfied)
                ("fail — state_relation may still be matches_expectations; coverage " ++
                  "budget not satisfied.") }

end

/-! ## What is exercised -/

/-- A step exercises a kind. -/
def Exercises (step : StepOutcome) (kind : CanonicalWitnessRollupKind) : Prop :=
  kind ∈ witnessKindsFromVerificationRequest step.verificationRequest

/-- Some step exercises the kind, and all steps that do are verified. -/
def FullySatisfied (steps : List StepOutcome) (kind : CanonicalWitnessRollupKind) : Prop :=
  (∃ step ∈ steps, Exercises step kind) ∧
    ∀ step ∈ steps, Exercises step kind → step.status = .verified

theorem statusRank_eq_zero {status : StepStatus} : statusRank status = 0 ↔
    status = .verified := by
  cases status <;> simp [statusRank]

/-- The touches of all steps, one after the other. -/
def touches (steps : List StepOutcome) : List (CanonicalWitnessRollupKind × ℕ) :=
  steps.flatMap fun step =>
    (witnessKindsFromVerificationRequest step.verificationRequest).map
      (·, statusRank step.status)

theorem worstByKind_eq (steps : List StepOutcome) :
    worstByKind steps = (touches steps).foldl touch .empty := by
  rw [touches, List.foldl_flatMap, worstByKind]
  simp only [List.foldl_map]

theorem mem_touches {steps : List StepOutcome} {kind : CanonicalWitnessRollupKind}
    {rank : ℕ} : (kind, rank) ∈ touches steps ↔
      ∃ step ∈ steps, Exercises step kind ∧ statusRank step.status = rank := by
  simp only [touches, List.mem_flatMap, List.mem_map, Prod.mk.injEq, Exercises]
  constructor
  · rintro ⟨step, hstep, _, hkind, rfl, hrank⟩
    exact ⟨step, hstep, hkind, hrank⟩
  · rintro ⟨step, hstep, hkind, hrank⟩
    exact ⟨step, hstep, _, hkind, rfl, hrank⟩

/-- The fold keeps the greatest rank of each kind. -/
theorem foldl_touch_spec (items : List (CanonicalWitnessRollupKind × ℕ))
    (kind : CanonicalWitnessRollupKind) :
    ((items.foldl touch .empty).get? kind = none → ∀ e ∈ items, e.1 ≠ kind) ∧
      ∀ worst, (items.foldl touch .empty).get? kind = some worst →
        (kind, worst) ∈ items ∧ ∀ e ∈ items, e.1 = kind → e.2 ≤ worst := by
  induction items using List.reverseRecOn with
  | nil => exact ⟨fun _ => nofun, nofun⟩
  | append_singleton items e ih =>
      obtain ⟨hnone, hsome⟩ := ih
      rw [List.foldl_append, List.foldl_cons, List.foldl_nil, touch, InsertionMap.get?_set]
      by_cases hkind : e.1 = kind
      · subst hkind
        rw [if_pos rfl]
        refine ⟨nofun, fun worst hworst => ?_⟩
        cases hold : (items.foldl touch .empty).get? e.1 with
        | none =>
            rw [hold] at hworst
            obtain rfl : e.2 = worst := Option.some.inj hworst
            refine ⟨by simp, fun e' he' hsame => ?_⟩
            rcases List.mem_append.mp he' with hearlier | hlast
            · exact absurd hsame (hnone hold e' hearlier)
            · rw [List.mem_singleton.mp hlast]
        | some old =>
            rw [hold] at hworst
            obtain rfl : max old e.2 = worst := Option.some.inj hworst
            obtain ⟨hmem, hmax⟩ := hsome old hold
            constructor
            · rcases max_choice old e.2 with h | h
              · rw [h]
                exact List.mem_append_left _ hmem
              · rw [h]
                simp
            · intro e' he' hsame
              rcases List.mem_append.mp he' with hearlier | hlast
              · exact (hmax e' hearlier hsame).trans (le_max_left _ _)
              · rw [List.mem_singleton.mp hlast]
                exact le_max_right _ _
      · rw [if_neg hkind]
        constructor
        · intro h e' he'
          rcases List.mem_append.mp he' with hearlier | hlast
          · exact hnone h e' hearlier
          · rw [List.mem_singleton.mp hlast]
            exact hkind
        · intro worst hworst
          obtain ⟨hmem, hmax⟩ := hsome worst hworst
          refine ⟨List.mem_append_left _ hmem, fun e' he' hsame => ?_⟩
          rcases List.mem_append.mp he' with hearlier | hlast
          · exact hmax e' hearlier hsame
          · rw [List.mem_singleton.mp hlast] at hsame
            exact absurd hsame hkind

theorem mem_keys_worstByKind {steps : List StepOutcome}
    {kind : CanonicalWitnessRollupKind} :
    kind ∈ (worstByKind steps).keys ↔ ∃ step ∈ steps, Exercises step kind := by
  rw [worstByKind_eq, InsertionMap.mem_keys_iff, Option.isSome_iff_exists]
  obtain ⟨hnone, hsome⟩ := foldl_touch_spec (touches steps) kind
  constructor
  · rintro ⟨worst, hworst⟩
    obtain ⟨step, hstep, hkind, -⟩ := mem_touches.mp (hsome worst hworst).1
    exact ⟨step, hstep, hkind⟩
  · rintro ⟨step, hstep, hkind⟩
    have hmem := mem_touches.mpr ⟨step, hstep, hkind, rfl⟩
    by_contra hno
    have hnoWorst := Option.eq_none_iff_forall_ne_some.mpr fun worst h => hno ⟨worst, h⟩
    exact hnone hnoWorst _ hmem rfl

/-- Rank 0 is what all verified steps give. -/
theorem worst_zero_iff {steps : List StepOutcome} {kind : CanonicalWitnessRollupKind} :
    ((worstByKind steps).get? kind).getD 5 ≤ 0 ↔ FullySatisfied steps kind := by
  obtain ⟨hnone, hsome⟩ := foldl_touch_spec (touches steps) kind
  rw [worstByKind_eq]
  constructor
  · intro hzero
    cases hworst : ((touches steps).foldl touch .empty).get? kind with
    | none =>
        rw [hworst] at hzero
        exact absurd hzero (by decide)
    | some worst =>
        rw [hworst, Option.getD_some, Nat.le_zero] at hzero
        subst hzero
        obtain ⟨hmem, hmax⟩ := hsome 0 hworst
        obtain ⟨step, hstep, hkind, -⟩ := mem_touches.mp hmem
        refine ⟨⟨step, hstep, hkind⟩, fun other hother hexercises => ?_⟩
        have hle := hmax _ (mem_touches.mpr ⟨other, hother, hexercises, rfl⟩) rfl
        exact statusRank_eq_zero.mp (Nat.le_zero.mp hle)
  · rintro ⟨⟨step, hstep, hkind⟩, hall⟩
    have hmem := mem_touches.mpr ⟨step, hstep, hkind, rfl⟩
    cases hworst : ((touches steps).foldl touch .empty).get? kind with
    | none => exact absurd rfl (hnone hworst _ hmem)
    | some worst =>
        obtain ⟨other, hother, hexercises, hrank⟩ :=
          mem_touches.mp (hsome worst hworst).1
        rw [Option.getD_some, ← hrank, statusRank_eq_zero.mpr (hall other hother hexercises)]

/-! ## The partition -/

section

variable {localeLe : String → String → Bool}

/-- There are fewer kinds than are displayed. -/
theorem sortedUniqueKinds_perm (list : List CanonicalWitnessRollupKind) :
    (sortedUniqueKinds localeLe list).Perm (InsertionMap.ofKeys list).keys := by
  have hperm := List.perm_insertionSort
    (fun a b : CanonicalWitnessRollupKind => localeLe a.text b.text = true)
    (InsertionMap.ofKeys list).keys
  have hall : (InsertionMap.ofKeys list).keys ⊆ canonicalWitnessKinds := by
    intro kind _
    cases kind <;> decide
  have hlength : (InsertionMap.ofKeys list).keys.length ≤ maxKindsDisplay :=
    (List.subperm_of_subset (InsertionMap.ofKeys list).nodup hall).length_le.trans
      (by decide)
  rw [sortedUniqueKinds, List.take_of_length_le (hperm.length_eq.trans_le hlength)]
  exact hperm

theorem mem_sortedUniqueKinds {list : List CanonicalWitnessRollupKind}
    {kind : CanonicalWitnessRollupKind} :
    kind ∈ sortedUniqueKinds localeLe list ↔ kind ∈ list := by
  rw [(sortedUniqueKinds_perm list).mem_iff, InsertionMap.mem_keys_ofKeys]

theorem nodup_sortedUniqueKinds (list : List CanonicalWitnessRollupKind) :
    (sortedUniqueKinds localeLe list).Nodup :=
  (sortedUniqueKinds_perm list).nodup_iff.mpr (InsertionMap.ofKeys list).nodup

theorem mem_exercisedKinds {steps : List StepOutcome} {kind : CanonicalWitnessRollupKind} :
    kind ∈ (buildWitnessCoverageFromSteps localeLe steps).exercisedKinds ↔
      ∃ step ∈ steps, Exercises step kind := by
  rw [buildWitnessCoverageFromSteps, mem_sortedUniqueKinds, mem_keys_worstByKind]

theorem mem_fullySatisfiedKinds {steps : List StepOutcome}
    {kind : CanonicalWitnessRollupKind} :
    kind ∈ (buildWitnessCoverageFromSteps localeLe steps).fullySatisfiedKinds ↔
      FullySatisfied steps kind := by
  rw [buildWitnessCoverageFromSteps, mem_sortedUniqueKinds, List.mem_filter,
    mem_sortedUniqueKinds, mem_keys_worstByKind, decide_eq_true_eq, worst_zero_iff]
  exact and_iff_right_of_imp fun h => h.1

theorem mem_notFullySatisfiedKinds {steps : List StepOutcome}
    {kind : CanonicalWitnessRollupKind} :
    kind ∈ (buildWitnessCoverageFromSteps localeLe steps).notFullySatisfiedKinds ↔
      (∃ step ∈ steps, Exercises step kind) ∧ ¬ FullySatisfied steps kind := by
  rw [buildWitnessCoverageFromSteps, mem_sortedUniqueKinds, List.mem_filter,
    mem_sortedUniqueKinds, mem_keys_worstByKind, decide_eq_true_eq, worst_zero_iff]

/-! ## The verdict of the budget -/

theorem find?_row {policy : CoverageBudgetPolicyV1} {row : CoverageBudgetRow}
    (h : row ∈ policy.workflows) :
    policy.workflows.find? (·.workflowId = row.workflowId) = some row := by
  cases hfound : policy.workflows.find? (·.workflowId = row.workflowId) with
  | none =>
      have hnone := List.find?_eq_none.mp hfound row h
      exact absurd (decide_eq_true rfl) hnone
  | some found =>
      have hid : found.workflowId = row.workflowId := by
        simpa using List.find?_some hfound
      rw [List.inj_on_of_nodup_map policy.unique (List.mem_of_find?_eq_some hfound) h hid]

theorem budget_pass_iff {steps : List StepOutcome} {policy : CoverageBudgetPolicyV1}
    {row : CoverageBudgetRow} (h : row ∈ policy.workflows) (policyPath : String) :
    (evaluateCoverageBudgetPhaseB localeLe
        ⟨row.workflowId, some (buildWitnessCoverageFromSteps localeLe steps)⟩ policy
        policyPath).verdict = .pass ↔
      ∀ required ∈ row.minimumFullySatisfiedKinds,
        ∃ kind, kind.text = required ∧ FullySatisfied steps kind := by
  have hrollup : witnessRollup
      ⟨row.workflowId, some (buildWitnessCoverageFromSteps localeLe steps)⟩ =
        some (buildWitnessCoverageFromSteps localeLe steps) := by
    simp [witnessRollup, buildWitnessCoverageFromSteps]
  have hverdict : ∀ missing : List String, ∀ pass fail : CoverageBudgetEvaluation,
      pass.verdict = .pass → fail.verdict = .fail →
        ((if missing.length = 0 then pass else fail).verdict = .pass ↔ missing = []) := by
    intro missing pass fail hpass hfail
    split_ifs with hlength
    · exact iff_of_true hpass (List.length_eq_zero_iff.mp hlength)
    · rw [hfail]
      exact iff_of_false (fun h => by cases h) fun hnil => hlength (List.length_eq_zero_iff.mpr hnil)
  simp only [evaluateCoverageBudgetPhaseB, find?_row h, hrollup]
  rw [hverdict _ _ _ rfl rfl, List.filter_eq_nil_iff]
  simp only [List.mem_insertionSort, Bool.not_eq_true', Bool.not_eq_false,
    List.contains_iff_mem, List.mem_map, mem_fullySatisfiedKinds]
  exact forall₂_congr fun required _ => exists_congr fun kind => and_comm

end

/-- The kinds are split by whether all their steps are verified, and the budget passes
exactly when that is so of every kind it requires. -/
theorem witnessCoverage_exact (localeLe : String → String → Bool)
    (steps : List StepOutcome) :
    (∀ kind, kind ∈ (buildWitnessCoverageFromSteps localeLe steps).exercisedKinds ↔
        ∃ step ∈ steps, Exercises step kind) ∧
      (∀ kind, kind ∈ (buildWitnessCoverageFromSteps localeLe steps).fullySatisfiedKinds ↔
        FullySatisfied steps kind) ∧
      List.Disjoint (buildWitnessCoverageFromSteps localeLe steps).fullySatisfiedKinds
        (buildWitnessCoverageFromSteps localeLe steps).notFullySatisfiedKinds ∧
      ((buildWitnessCoverageFromSteps localeLe steps).fullySatisfiedKinds ++
          (buildWitnessCoverageFromSteps localeLe steps).notFullySatisfiedKinds).Perm
        (buildWitnessCoverageFromSteps localeLe steps).exercisedKinds ∧
      (buildWitnessCoverageFromSteps localeLe steps).exercisedKinds.Nodup ∧
      ∀ (policy : CoverageBudgetPolicyV1) (policyPath : String),
        ∀ row ∈ policy.workflows,
          (evaluateCoverageBudgetPhaseB localeLe
              ⟨row.workflowId, some (buildWitnessCoverageFromSteps localeLe steps)⟩ policy
              policyPath).verdict = .pass ↔
            ∀ required ∈ row.minimumFullySatisfiedKinds,
              ∃ kind, kind.text = required ∧ FullySatisfied steps kind := by
  have hdisjoint : List.Disjoint
      (buildWitnessCoverageFromSteps localeLe steps).fullySatisfiedKinds
      (buildWitnessCoverageFromSteps localeLe steps).notFullySatisfiedKinds :=
    fun kind hfully hnot =>
      (mem_notFullySatisfiedKinds.mp hnot).2 (mem_fullySatisfiedKinds.mp hfully)
  refine ⟨fun kind => mem_exercisedKinds, fun kind => mem_fullySatisfiedKinds, hdisjoint, ?_,
    nodup_sortedUniqueKinds _, fun policy policyPath row h => budget_pass_iff h policyPath⟩
  have hnodup : ((buildWitnessCoverageFromSteps localeLe steps).fullySatisfiedKinds ++
      (buildWitnessCoverageFromSteps localeLe steps).notFullySatisfiedKinds).Nodup :=
    List.nodup_append'.mpr
      ⟨nodup_sortedUniqueKinds _, nodup_sortedUniqueKinds _, hdisjoint⟩
  have hexercised : (buildWitnessCoverageFromSteps localeLe steps).exercisedKinds.Nodup :=
    nodup_sortedUniqueKinds _
  rw [List.perm_ext_iff_of_nodup hnodup hexercised]
  intro kind
  rw [List.mem_append, mem_exercisedKinds]
  constructor
  · rintro (hfully | hnot)
    · exact (mem_fullySatisfiedKinds.mp hfully).1
    · exact (mem_notFullySatisfiedKinds.mp hnot).1
  · intro hexercised
    by_cases hfully : FullySatisfied steps kind
    · exact .inl (mem_fullySatisfiedKinds.mpr hfully)
    · exact .inr (mem_notFullySatisfiedKinds.mpr ⟨hexercised, hfully⟩)

end AgentSkeptic.Engine
