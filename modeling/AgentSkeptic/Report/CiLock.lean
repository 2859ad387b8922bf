import AgentSkeptic.Engine.RecodedValues
import AgentSkeptic.Quick.RunQuickVerify
import AgentSkeptic.Report.TruthReport
import AgentSkeptic.Support.JsSafeInteger
import AgentSkeptic.Support.JsonMembers

/-!
# CI locks

`ciLock.ts` and the schema `ci-lock-v1`: a result is reduced to what a build compares, the
lock is written as canonical text, and a lock that is read back is checked against the
schema before it is compared.

The schema has a policy of two modes and the engine one of three, so a lock is accepted
exactly where the mode is one of the two (`ciLockFaithful_iff`).
-/

namespace AgentSkeptic.Report

open AgentSkeptic.Support AgentSkeptic.Engine AgentSkeptic.Events AgentSkeptic.Quick

/-! ## Locks -/

inductive CiLockEventSequence where
  | normal
  | irregular (reasonCodes : List String)

structure CiLockStep where
  seq : ℕ
  toolId : String
  status : StepStatus
  outcomeLabel : OutcomeLabel
  reasonCodes : List String
  referenceCode : Option String

structure CiLockBatchV1 where
  workflowId : String
  status : WorkflowStatus
  verificationPolicy : VerificationPolicy
  runLevelReasonCodes : List String
  eventSequence : CiLockEventSequence
  steps : List CiLockStep
  primaryFailureCodes : List String
  correctnessEnforcementKind : Option CorrectnessEnforcementKind
  enforceableProjection : Option Json

structure CiLockUnit where
  unitId : String
  kind : UnitKind
  verdict : UnitVerdict
  reasonCodes : List String
  toolName : String
  actionIndex : ℕ

structure CiLockQuickV1 where
  verdict : QuickVerdict
  ingestReasonCodes : List String
  runHeaderReasonCodes : List String
  units : List CiLockUnit

inductive CiLockV1 where
  | batch (lock : CiLockBatchV1)
  | quick (lock : CiLockQuickV1)

section Locks

variable (tables : TextTables)

/-- `sortedUniqueStrings(reasons.map((r) => r.code))`. -/
def reasonCodesOf (reasons : List Reason) : List String :=
  sortUniqueCodes tables (reasons.map Reason.code)

def lockEventSequence : EventSequenceIntegrity → CiLockEventSequence
  | .normal => .normal
  | .irregular reasons => .irregular (reasonCodesOf tables reasons)

/-- The step of the report with the same place and tool, or else with the same place. -/
def truthStepOf (truthSteps : List WorkflowTruthStep) (s : StepOutcome) :
    Option WorkflowTruthStep :=
  (truthSteps.find? fun t => t.seq = s.seq ∧ t.toolId = s.toolId).or
    (truthSteps.find? fun t => t.seq = s.seq)

def lockStep (truthSteps : List WorkflowTruthStep) (s : StepOutcome) : CiLockStep where
  seq := s.seq
  toolId := s.toolId
  status := s.status
  outcomeLabel := (truthStepOf truthSteps s).elim .verified (·.outcomeLabel)
  reasonCodes := reasonCodesOf tables s.reasons
  referenceCode := s.reasons.head?.map Reason.code

def lockFailureCodes (failureAnalysis : Option FailureAnalysis) : List String :=
  failureAnalysis.elim [] fun fa => sortUniqueCodes tables
    (fa.evidence.flatMap (fun e => e.codes.getD []) ++ fa.unknownReasonCodes)

/-- The projection is copied as `JSON.parse(JSON.stringify(projection))`. -/
def workflowResultToCiLockV1 (engine : WorkflowEngineResult) (truth : WorkflowTruthReport) :
    CiLockBatchV1 where
  workflowId := engine.workflowId
  status := engine.status
  verificationPolicy := engine.verificationPolicy
  runLevelReasonCodes := reasonCodesOf tables engine.runLevelReasons
  eventSequence := lockEventSequence tables engine.eventSequenceIntegrity
  steps := engine.steps.map (lockStep tables truth.steps)
  primaryFailureCodes := lockFailureCodes tables truth.failureAnalysis
  correctnessEnforcementKind := truth.correctnessDefinition.map (·.enforcementKind)
  enforceableProjection := truth.correctnessDefinition.map (·.enforceableProjection.reread)

def lockUnit (u : QuickUnit) : CiLockUnit where
  unitId := u.unitId
  kind := u.kind
  verdict := u.verdict
  reasonCodes := sortUniqueCodes tables u.reasonCodes
  toolName := u.sourceAction.toolName
  actionIndex := u.sourceAction.actionIndex

def quickReportToCiLockV1 (report : QuickVerifyReport) : CiLockQuickV1 where
  verdict := report.verdict
  ingestReasonCodes := sortUniqueCodes tables report.ingestReasonCodes
  runHeaderReasonCodes := sortUniqueCodes tables report.runHeaderReasonCodes
  units := (sortById QuickUnit.unitId report.units).map (lockUnit tables)

end Locks

/-! ## Locks as JSON -/

def UnitKind.text : UnitKind → String
  | .row => "row"
  | .relatedExists => "related_exists"

def UnitVerdict.text : UnitVerdict → String
  | .verified => "verified"
  | .fail => "fail"
  | .uncertain => "uncertain"

def QuickVerdict.text : QuickVerdict → String
  | .pass => "pass"
  | .fail => "fail"
  | .uncertain => "uncertain"

def ConsistencyMode.text : ConsistencyMode → String
  | .strong => "strong"
  | .eventual => "eventual"
  | .bounded => "bounded"

def textOrNullJson (value : Option String) : Json := value.elim .null .str

/-- A number that there is not is left out. -/
def numberMember (key : String) (value : Option JsNumber) : List (String × Json) :=
  value.toList.map fun n => (key, .num n)

def policyJson (p : VerificationPolicy) : Json :=
  .obj (("consistencyMode", .str (ConsistencyMode.text p.consistencyMode)) ::
    (numberMember "verificationWindowMs" p.verificationWindowMs ++
      (numberMember "pollIntervalMs" p.pollIntervalMs ++
        numberMember "maxStalenessMs" p.maxStalenessMs)))

def CiLockEventSequence.json : CiLockEventSequence → Json
  | normal => .obj [("kind", .str "normal")]
  | irregular reasonCodes =>
      .obj [("kind", .str "irregular"), ("reasonCodes", codesJson reasonCodes)]

def CiLockStep.json (s : CiLockStep) : Json :=
  .obj [("seq", intJson s.seq), ("toolId", .str s.toolId), ("status", .str s.status.text),
    ("outcomeLabel", .str s.outcomeLabel.text), ("reasonCodes", codesJson s.reasonCodes),
    ("referenceCode", textOrNullJson s.referenceCode)]

def CiLockBatchV1.json (lock : CiLockBatchV1) : Json :=
  .obj [("lockSchemaVersion", .num (.int 1)), ("kind", .str "batch"),
    ("workflowId", .str lock.workflowId), ("status", .str (WorkflowStatus.text lock.status)),
    ("verificationPolicy", policyJson lock.verificationPolicy),
    ("runLevelReasonCodes", codesJson lock.runLevelReasonCodes),
    ("eventSequence", lock.eventSequence.json),
    ("steps", .arr (lock.steps.map CiLockStep.json)),
    ("primaryFailureCodes", codesJson lock.primaryFailureCodes),
    ("correctnessEnforcementKind",
      textOrNullJson (lock.correctnessEnforcementKind.map (·.text))),
    ("enforceableProjection", lock.enforceableProjection.getD .null)]

def CiLockUnit.json (u : CiLockUnit) : Json :=
  .obj [("unitId", .str u.unitId), ("kind", .str (UnitKind.text u.kind)),
    ("verdict", .str (UnitVerdict.text u.verdict)), ("reasonCodes", codesJson u.reasonCodes),
    ("toolName", .str u.toolName), ("actionIndex", intJson u.actionIndex)]

def CiLockQuickV1.json (lock : CiLockQuickV1) : Json :=
  .obj [("lockSchemaVersion", .num (.int 1)), ("kind", .str "quick"),
    ("verdict", .str (QuickVerdict.text lock.verdict)),
    ("ingestReasonCodes", codesJson lock.ingestReasonCodes),
    ("runHeaderReasonCodes", codesJson lock.runHeaderReasonCodes),
    ("units", .arr (lock.units.map CiLockUnit.json))]

def CiLockV1.json : CiLockV1 → Json
  | batch lock => lock.json
  | quick lock => lock.json

/-! ## The schema -/

def codesSchema : Schema := .array (.text 0 none)

def lockPolicySchema : Schema :=
  .object ["consistencyMode", "verificationWindowMs", "pollIntervalMs"]
    [("consistencyMode", .oneOf ["strong", "eventual"]),
      ("verificationWindowMs", .anyInteger), ("pollIntervalMs", .anyInteger)]

def lockEventSequenceSchema : Schema :=
  .exactlyOne
    [.object ["kind"] [("kind", .oneOf ["normal"])],
      .object ["kind", "reasonCodes"]
        [("kind", .oneOf ["irregular"]), ("reasonCodes", codesSchema)]]

def lockStepSchema : Schema :=
  .object ["seq", "toolId", "status", "outcomeLabel", "reasonCodes", "referenceCode"]
    [("seq", .integer 0), ("toolId", .text 0 none), ("status", .text 0 none),
      ("outcomeLabel", .text 0 none), ("reasonCodes", codesSchema),
      ("referenceCode", .textOrNull)]

def batchLockSchema : Schema :=
  .object
    ["lockSchemaVersion", "kind", "workflowId", "status", "verificationPolicy",
      "runLevelReasonCodes", "eventSequence", "steps", "primaryFailureCodes",
      "correctnessEnforcementKind", "enforceableProjection"]
    [("lockSchemaVersion", .number 1), ("kind", .oneOf ["batch"]),
      ("workflowId", .text 0 none),
      ("status", .oneOf ["complete", "incomplete", "inconsistent"]),
      ("verificationPolicy", lockPolicySchema), ("runLevelReasonCodes", codesSchema),
      ("eventSequence", lockEventSequenceSchema), ("steps", .array lockStepSchema),
      ("primaryFailureCodes", codesSchema), ("correctnessEnforcementKind", .textOrNull),
      ("enforceableProjection", .objectOrNull)]

def lockUnitSchema : Schema :=
  .object ["unitId", "kind", "verdict", "reasonCodes", "toolName", "actionIndex"]
    [("unitId", .text 0 none), ("kind", .oneOf ["row", "related_exists"]),
      ("verdict", .oneOf ["verified", "fail", "uncertain"]), ("reasonCodes", codesSchema),
      ("toolName", .text 0 none), ("actionIndex", .integer 0)]

def quickLockSchema : Schema :=
  .object
    ["lockSchemaVersion", "kind", "verdict", "ingestReasonCodes", "runHeaderReasonCodes",
      "units"]
    [("lockSchemaVersion", .number 1), ("kind", .oneOf ["quick"]),
      ("verdict", .oneOf ["pass", "fail", "uncertain"]), ("ingestReasonCodes", codesSchema),
      ("runHeaderReasonCodes", codesSchema), ("units", .array lockUnitSchema)]

/-- `ci-lock-v1.schema.json`. -/
def ciLockSchema : Schema := .exactlyOne [batchLockSchema, quickLockSchema]

/-! ## Writing, reading and comparing -/

/-- An error is its code. -/
def assertCiLockSchemaValid (lock : Json) : Except String Unit :=
  if ciLockSchema.valid lock then .ok () else .error "CI_LOCK_SCHEMA_INVALID"

/-- `parseCiLockFromUtf8File`, of a file that can be read. -/
def parseCiLock (raw : String) : Except String Json :=
  match parseJson raw.toList with
  | none => .error "CI_LOCK_SCHEMA_INVALID"
  | some parsed => do
      assertCiLockSchemaValid parsed
      .ok parsed

def ciLocksEqualStable (a b : Json) : Bool := stableStringify a = stableStringify b

/-! ## The policies of a run -/

theorem integral_of_isPositiveInteger {value : Option JsNumber}
    (h : isPositiveInteger value = true) : ∃ n, value = some n ∧ n.toInt?.isSome = true := by
  cases value with
  | none => exact absurd h nofun
  | some n =>
      obtain ⟨i, hi, -⟩ := (Option.any_eq_true _ _).mp h
      exact ⟨n, rfl, Option.isSome_iff_exists.mpr ⟨i, hi⟩⟩

/-- A policy that was accepted has its two numbers, and a bound on the staleness exactly
where the mode is the one that needs it. -/
theorem numbers_of_resolved {input : Option VerificationPolicy} {p : VerificationPolicy}
    (h : resolveVerificationPolicyInput input = .ok p) :
    (∃ n, p.verificationWindowMs = some n ∧ n.toInt?.isSome = true) ∧
      (∃ n, p.pollIntervalMs = some n ∧ n.toInt?.isSome = true) ∧
        (p.consistencyMode = .bounded ↔ ∃ n, p.maxStalenessMs = some n) := by
  obtain ⟨_, hvalid, hp⟩ := bind_eq_ok.mp h
  have hp := Except.ok.inj hp
  have hmode : (normalizeVerificationPolicy p) = p := by
    rw [← hp, normalizeVerificationPolicy_idem]
  rw [hp, assertValidVerificationPolicy] at hvalid
  rw [normalizeVerificationPolicy.eq_def] at hmode
  split_ifs at hvalid with hstrong hwindow hinterval horder hbounded
  · rw [hstrong] at hmode
    rw [← hmode]
    exact ⟨⟨_, rfl, rfl⟩, ⟨_, rfl, rfl⟩, by simp [defaultVerificationPolicy]⟩
  · refine ⟨integral_of_isPositiveInteger (by simpa using hwindow),
      integral_of_isPositiveInteger (by simpa using hinterval), ?_⟩
    constructor
    · intro hmode'
      have hstale : isPositiveInteger p.maxStalenessMs = true := by
        simpa [hmode'] using hbounded
      obtain ⟨n, hn, -⟩ := integral_of_isPositiveInteger hstale
      exact ⟨n, hn⟩
    · rintro ⟨n, hn⟩
      cases hcase : p.consistencyMode with
      | strong => exact absurd hcase hstrong
      | bounded => rfl
      | eventual =>
          rw [hcase] at hmode
          rw [← hmode] at hn
          exact absurd hn nofun

/-! ## What a run emits -/

/-- What holds of the values of a run because they are values of the language: its numbers
are doubles, and its objects have distinct keys. -/
structure Representable (engine : WorkflowEngineResult) (truth : WorkflowTruthReport) :
    Prop where
  seqs : ∀ s ∈ engine.steps, (JsNumber.int s.seq).Readable
  window : ∀ n ∈ engine.verificationPolicy.verificationWindowMs, n.Readable
  interval : ∀ n ∈ engine.verificationPolicy.pollIntervalMs, n.Readable
  staleness : ∀ n ∈ engine.verificationPolicy.maxStalenessMs, n.Readable
  projection : ∀ cd ∈ truth.correctnessDefinition, cd.enforceableProjection.Decoded

/-- A result that `finalizeEmittedWorkflowResult` returns, of a run under a policy that was
accepted. -/
structure EmittedWorkflow (tables : TextTables) where
  policyInput : Option VerificationPolicy
  engine : WorkflowEngineResult
  workflowTruthReport : WorkflowTruthReport
  policy_eq : resolveVerificationPolicyInput policyInput = .ok engine.verificationPolicy
  report_eq : buildWorkflowTruthReport tables engine = .ok workflowTruthReport
  representable : Representable engine workflowTruthReport

/-- A report of a quick run, whose numbers are doubles. -/
structure EmittedQuick where
  report : QuickVerifyReport
  representable : ∀ u ∈ report.units, (JsNumber.int u.sourceAction.actionIndex).Readable

section Emitted

variable (tables : TextTables)

def EmittedWorkflow.lock {tables : TextTables} (r : EmittedWorkflow tables) : CiLockBatchV1 :=
  workflowResultToCiLockV1 tables r.engine r.workflowTruthReport

def EmittedQuick.lock (r : EmittedQuick) : CiLockQuickV1 :=
  quickReportToCiLockV1 tables r.report

/-- `toCiLockV1`, whose argument shows which of the two it is. -/
def toCiLockV1 : EmittedWorkflow tables ⊕ EmittedQuick → CiLockV1
  | .inl workflow => .batch workflow.lock
  | .inr quick => .quick (quick.lock tables)

end Emitted

/-! ## The JSON value of a lock -/

theorem exact_codesJson (codes : List String) : (codesJson codes).Exact := by
  rw [codesJson, exact_arr]
  intro v hv
  obtain ⟨code, -, rfl⟩ := List.mem_map.mp hv
  trivial

theorem exact_textOrNullJson (value : Option String) : (textOrNullJson value).Exact := by
  cases value with
  | none => trivial
  | some s => trivial

theorem exact_intJson {n : ℕ} (h : (JsNumber.int n).Readable) : (intJson n).Exact := h

theorem exact_eventSequence (sequence : CiLockEventSequence) : sequence.json.Exact := by
  cases sequence with
  | normal => exact exact_obj.mpr ⟨by decide, by simp [Json.Exact]⟩
  | irregular reasonCodes =>
      refine exact_obj.mpr ⟨by simp, ?_⟩
      simp [Json.Exact, exact_codesJson]

theorem exact_lockStep {s : CiLockStep} (h : (JsNumber.int s.seq).Readable) :
    s.json.Exact := by
  refine exact_obj.mpr ⟨by simp, ?_⟩
  simp [Json.Exact, exact_codesJson, exact_textOrNullJson, exact_intJson h]

theorem exact_lockUnit {u : CiLockUnit} (h : (JsNumber.int u.actionIndex).Readable) :
    u.json.Exact := by
  refine exact_obj.mpr ⟨by simp, ?_⟩
  simp [Json.Exact, exact_codesJson, exact_intJson h]

theorem mem_numberMember {key : String} {value : Option JsNumber} {m : String × Json}
    (hm : m ∈ numberMember key value) : ∃ n ∈ value, m = (key, .num n) := by
  obtain ⟨n, hn, rfl⟩ := List.mem_map.mp hm
  exact ⟨n, Option.mem_toList.mp hn, rfl⟩

theorem exact_policyJson {p : VerificationPolicy}
    (hwindow : ∀ n ∈ p.verificationWindowMs, n.Readable)
    (hinterval : ∀ n ∈ p.pollIntervalMs, n.Readable)
    (hstaleness : ∀ n ∈ p.maxStalenessMs, n.Readable) : (policyJson p).Exact := by
  refine exact_obj.mpr ⟨?_, ?_⟩
  · have hsub : ∀ key (value : Option JsNumber),
        ((numberMember key value).map Prod.fst).Sublist [key] := by
      intro key value
      cases value with
      | none => exact List.nil_sublist _
      | some n => exact List.Sublist.refl _
    rw [List.map_cons, List.map_append, List.map_append]
    have hkeys := ((hsub "verificationWindowMs" p.verificationWindowMs).append
      ((hsub "pollIntervalMs" p.pollIntervalMs).append
        (hsub "maxStalenessMs" p.maxStalenessMs))).cons_cons "consistencyMode"
    exact List.Nodup.sublist hkeys (by decide)
  · intro m hm
    rcases List.mem_cons.mp hm with rfl | hm
    · trivial
    · rcases List.mem_append.mp hm with hm | hm
      · obtain ⟨n, hn, rfl⟩ := mem_numberMember hm
        exact hwindow n hn
      · rcases List.mem_append.mp hm with hm | hm
        · obtain ⟨n, hn, rfl⟩ := mem_numberMember hm
          exact hinterval n hn
        · obtain ⟨n, hn, rfl⟩ := mem_numberMember hm
          exact hstaleness n hn

theorem readable_one : (JsNumber.int 1).Readable := JsNumber.readable_safeInteger (by norm_num)

theorem EmittedWorkflow.exact_lock {tables : TextTables} (r : EmittedWorkflow tables) :
    r.lock.json.Exact := by
  have hpolicy := exact_policyJson r.representable.window r.representable.interval
    r.representable.staleness
  have hsteps : (Json.arr (r.lock.steps.map CiLockStep.json)).Exact := by
    rw [exact_arr]
    intro v hv
    obtain ⟨s, hs, rfl⟩ := List.mem_map.mp hv
    obtain ⟨outcome, houtcome, rfl⟩ := List.mem_map.mp hs
    exact exact_lockStep (r.representable.seqs outcome houtcome)
  have hprojection : (r.lock.enforceableProjection.getD .null).Exact := by
    rw [EmittedWorkflow.lock, workflowResultToCiLockV1]
    cases hcd : r.workflowTruthReport.correctnessDefinition with
    | none => trivial
    | some cd =>
        have hdecoded := r.representable.projection cd hcd
        exact hdecoded.wellFormed_reread.exact
  refine exact_obj.mpr ⟨by simp, ?_⟩
  simp only [List.forall_mem_cons]
  exact ⟨readable_one, trivial, trivial, trivial, hpolicy, exact_codesJson _,
    exact_eventSequence _, hsteps, exact_codesJson _, exact_textOrNullJson _, hprojection,
    List.forall_mem_nil _⟩

theorem EmittedQuick.exact_lock (tables : TextTables) (r : EmittedQuick) :
    (r.lock tables).json.Exact := by
  have hunits : (Json.arr ((r.lock tables).units.map CiLockUnit.json)).Exact := by
    rw [exact_arr]
    intro v hv
    obtain ⟨u, hu, rfl⟩ := List.mem_map.mp hv
    obtain ⟨quickUnit, hquick, rfl⟩ := List.mem_map.mp hu
    have hmem := (List.mem_insertionSort _).mp hquick
    exact exact_lockUnit (r.representable quickUnit hmem)
  refine exact_obj.mpr ⟨by simp, ?_⟩
  simp only [List.forall_mem_cons]
  exact ⟨readable_one, trivial, trivial, exact_codesJson _, exact_codesJson _, hunits,
    List.forall_mem_nil _⟩

/-! ## The schema accepts locks of two modes -/

@[simp] theorem codesSchema_valid (codes : List String) :
    codesSchema.valid (codesJson codes) = true := by
  rw [codesSchema, codesJson, Schema.valid, List.all_map]
  exact List.all_eq_true.mpr fun code _ => anyText_valid code

@[simp] theorem textOrNull_valid (value : Option String) :
    Schema.textOrNull.valid (textOrNullJson value) = true := by
  cases value with
  | none => rfl
  | some s => rfl

@[simp] theorem integer_intJson (n : ℕ) : (Schema.integer 0).valid (intJson n) = true := by
  simp [Schema.integer, Schema.valid, intJson, JsNumber.toInt?]

theorem oneOf_valid {values : List String} {s : String} (h : s ∈ values) :
    (Schema.oneOf values).valid (.str s) = true := by
  simpa [Schema.oneOf, Schema.textWith, Schema.valid] using h

theorem anyInteger_valid {n : JsNumber} (h : n.toInt?.isSome = true) :
    Schema.anyInteger.valid (.num n) = true := h

theorem number_one_valid : (Schema.number 1).valid (.num (.int 1)) = true := by
  simp [Schema.number, Schema.valid]

theorem exactlyOne_pair (s t : Schema) (v : Json) :
    (Schema.exactlyOne [s, t]).valid v = xor (s.valid v) (t.valid v) := by
  rw [Schema.exactlyOne, Schema.valid]
  cases hs : s.valid v with
  | false => cases ht : t.valid v with
    | false => simp [hs, ht]
    | true => simp [hs, ht]
  | true => cases ht : t.valid v with
    | false => simp [hs, ht]
    | true => simp [hs, ht]

/-- An object is not valid where the member of a key is not. -/
theorem object_not_valid {required : List String} {properties : List (String × Schema)}
    {members : List (String × Json)} {key : String} {schema : Schema} {v : Json}
    (hschema : (key, schema) ∈ properties) (hv : ownMember members key = some v)
    (hnot : schema.valid v = false) :
    (Schema.object required properties).valid (.obj members) = false := by
  apply Bool.eq_false_iff.mpr
  intro h
  simp only [Schema.valid, Bool.and_eq_true] at h
  have hvalid := Schema.validMembers_mem h.2 hschema hv
  rw [hnot] at hvalid
  exact absurd hvalid nofun

theorem oneOf_not_valid {values : List String} {s : String} (h : s ∉ values) :
    (Schema.oneOf values).valid (.str s) = false := by
  simpa [Schema.oneOf, Schema.textWith, Schema.valid] using h

theorem lockEventSequence_valid (sequence : CiLockEventSequence) :
    lockEventSequenceSchema.valid sequence.json = true := by
  rw [lockEventSequenceSchema, exactlyOne_pair]
  cases sequence with
  | normal =>
      have hnormal : (Schema.object ["kind"] [("kind", .oneOf ["normal"])]).valid
          (CiLockEventSequence.json .normal) = true :=
        Schema.valid_of_forall₂ rfl (by decide)
          (.cons ⟨rfl, oneOf_valid (.head _)⟩ .nil)
      have hirregular : (Schema.object ["kind", "reasonCodes"]
          [("kind", .oneOf ["irregular"]), ("reasonCodes", codesSchema)]).valid
          (CiLockEventSequence.json .normal) = false :=
        object_not_valid (.head _) rfl (oneOf_not_valid (by decide))
      rw [hnormal, hirregular, Bool.xor_false]
  | irregular reasonCodes =>
      have hnormal : (Schema.object ["kind"] [("kind", .oneOf ["normal"])]).valid
          (CiLockEventSequence.json (.irregular reasonCodes)) = false :=
        object_not_valid (.head _) rfl (oneOf_not_valid (by decide))
      have hirregular : (Schema.object ["kind", "reasonCodes"]
          [("kind", .oneOf ["irregular"]), ("reasonCodes", codesSchema)]).valid
          (CiLockEventSequence.json (.irregular reasonCodes)) = true :=
        Schema.valid_of_forall₂ rfl (by decide)
          (.cons ⟨rfl, oneOf_valid (.head _)⟩
            (.cons ⟨rfl, codesSchema_valid reasonCodes⟩ .nil))
      rw [hnormal, hirregular, Bool.false_xor]

theorem lockStep_valid (s : CiLockStep) : lockStepSchema.valid s.json = true :=
  Schema.valid_of_forall₂ rfl (by decide)
    (.cons ⟨rfl, integer_intJson s.seq⟩ (.cons ⟨rfl, anyText_valid s.toolId⟩
      (.cons ⟨rfl, anyText_valid s.status.text⟩ (.cons ⟨rfl, anyText_valid s.outcomeLabel.text⟩
        (.cons ⟨rfl, codesSchema_valid s.reasonCodes⟩
          (.cons ⟨rfl, textOrNull_valid s.referenceCode⟩ .nil))))))

theorem lockUnit_valid (u : CiLockUnit) : lockUnitSchema.valid u.json = true := by
  have hkind : (Schema.oneOf ["row", "related_exists"]).valid (.str (UnitKind.text u.kind)) =
      true := by
    cases u.kind with
    | row => exact oneOf_valid (.head _)
    | relatedExists => exact oneOf_valid (.tail _ (.head _))
  have hverdict : (Schema.oneOf ["verified", "fail", "uncertain"]).valid
      (.str (UnitVerdict.text u.verdict)) = true := by
    cases u.verdict with
    | verified => exact oneOf_valid (.head _)
    | fail => exact oneOf_valid (.tail _ (.head _))
    | uncertain => exact oneOf_valid (.tail _ (.tail _ (.head _)))
  exact Schema.valid_of_forall₂ rfl (by decide)
    (.cons ⟨rfl, anyText_valid u.unitId⟩ (.cons ⟨rfl, hkind⟩ (.cons ⟨rfl, hverdict⟩
      (.cons ⟨rfl, codesSchema_valid u.reasonCodes⟩ (.cons ⟨rfl, anyText_valid u.toolName⟩
        (.cons ⟨rfl, integer_intJson u.actionIndex⟩ .nil))))))

theorem array_valid {α : Type} {items : Schema} {json : α → Json}
    (h : ∀ x, items.valid (json x) = true) (xs : List α) :
    (Schema.array items).valid (.arr (xs.map json)) = true := by
  rw [Schema.valid, List.all_map]
  exact List.all_eq_true.mpr fun x _ => h x

theorem quickLock_valid (lock : CiLockQuickV1) : quickLockSchema.valid lock.json = true := by
  have hverdict : (Schema.oneOf ["pass", "fail", "uncertain"]).valid
      (.str (QuickVerdict.text lock.verdict)) = true := by
    cases lock.verdict with
    | pass => exact oneOf_valid (.head _)
    | fail => exact oneOf_valid (.tail _ (.head _))
    | uncertain => exact oneOf_valid (.tail _ (.tail _ (.head _)))
  exact Schema.valid_of_forall₂ rfl (by decide)
    (.cons ⟨rfl, number_one_valid⟩ (.cons ⟨rfl, oneOf_valid (.head _)⟩
      (.cons ⟨rfl, hverdict⟩ (.cons ⟨rfl, codesSchema_valid lock.ingestReasonCodes⟩
        (.cons ⟨rfl, codesSchema_valid lock.runHeaderReasonCodes⟩
          (.cons ⟨rfl, array_valid lockUnit_valid lock.units⟩ .nil))))))

/-- The schema of a policy takes the two modes that have no bound on the staleness. -/
theorem lockPolicy_valid_iff {input : Option VerificationPolicy} {p : VerificationPolicy}
    (h : resolveVerificationPolicyInput input = .ok p) :
    lockPolicySchema.valid (policyJson p) = true ↔ p.consistencyMode ≠ .bounded := by
  obtain ⟨⟨window, hwindow, hw⟩, ⟨interval, hinterval, hi⟩, hbounded⟩ := numbers_of_resolved h
  constructor
  · intro hvalid hmode
    have hnot : (Schema.oneOf ["strong", "eventual"]).valid
        (.str (ConsistencyMode.text p.consistencyMode)) = false := by
      rw [hmode]
      exact oneOf_not_valid (by decide)
    rw [lockPolicySchema, policyJson, object_not_valid (.head _) rfl hnot] at hvalid
    exact absurd hvalid nofun
  · intro hmode
    have hstaleness : p.maxStalenessMs = none := by
      cases hcase : p.maxStalenessMs with
      | none => rfl
      | some n => exact absurd (hbounded.mpr ⟨n, hcase⟩) hmode
    have hmodeValid : (Schema.oneOf ["strong", "eventual"]).valid
        (.str (ConsistencyMode.text p.consistencyMode)) = true := by
      cases hcase : p.consistencyMode with
      | strong => exact oneOf_valid (.head _)
      | eventual => exact oneOf_valid (.tail _ (.head _))
      | bounded => exact absurd hcase hmode
    rw [policyJson, hwindow, hinterval, hstaleness]
    exact Schema.valid_of_forall₂ rfl (by decide)
      (.cons ⟨rfl, hmodeValid⟩ (.cons ⟨rfl, anyInteger_valid hw⟩
        (.cons ⟨rfl, anyInteger_valid hi⟩ .nil)))

theorem EmittedWorkflow.projection_valid {tables : TextTables} (r : EmittedWorkflow tables) :
    Schema.objectOrNull.valid (r.lock.enforceableProjection.getD .null) = true := by
  rw [EmittedWorkflow.lock, workflowResultToCiLockV1]
  cases hcd : r.workflowTruthReport.correctnessDefinition with
  | none => rfl
  | some cd =>
      obtain ⟨kind, mustHold, enforceAs, projection, alignment, rfl⟩ :=
        buildWorkflowTruthReport_filled r.report_eq cd hcd
      rfl

theorem EmittedWorkflow.batchLock_valid_iff {tables : TextTables}
    (r : EmittedWorkflow tables) : batchLockSchema.valid r.lock.json = true ↔
      r.engine.verificationPolicy.consistencyMode ≠ .bounded := by
  have hpolicy := lockPolicy_valid_iff r.policy_eq
  have hlock : r.lock.verificationPolicy = r.engine.verificationPolicy := rfl
  constructor
  · intro hvalid
    apply hpolicy.mp
    rw [← Bool.not_eq_false]
    intro hnot
    rw [← hlock] at hnot
    have hrefused : batchLockSchema.valid r.lock.json = false :=
      object_not_valid (.tail _ (.tail _ (.tail _ (.tail _ (.head _))))) rfl hnot
    rw [hrefused] at hvalid
    exact absurd hvalid nofun
  · intro hmode
    have hstatus : (Schema.oneOf ["complete", "incomplete", "inconsistent"]).valid
        (.str (WorkflowStatus.text r.lock.status)) = true := by
      cases r.lock.status with
      | complete => exact oneOf_valid (.head _)
      | incomplete => exact oneOf_valid (.tail _ (.head _))
      | inconsistent => exact oneOf_valid (.tail _ (.tail _ (.head _)))
    exact Schema.valid_of_forall₂ rfl (by decide)
      (.cons ⟨rfl, number_one_valid⟩ (.cons ⟨rfl, oneOf_valid (.head _)⟩
        (.cons ⟨rfl, anyText_valid _⟩ (.cons ⟨rfl, hstatus⟩ (.cons ⟨rfl, hpolicy.mpr hmode⟩
          (.cons ⟨rfl, codesSchema_valid _⟩ (.cons ⟨rfl, lockEventSequence_valid _⟩
            (.cons ⟨rfl, array_valid lockStep_valid _⟩ (.cons ⟨rfl, codesSchema_valid _⟩
              (.cons ⟨rfl, textOrNull_valid _⟩
                (.cons ⟨rfl, r.projection_valid⟩ .nil)))))))))))

theorem quickSchema_batchLock (lock : CiLockBatchV1) :
    quickLockSchema.valid lock.json = false :=
  object_not_valid (.tail _ (.head _)) rfl (oneOf_not_valid (by decide))

theorem batchSchema_quickLock (lock : CiLockQuickV1) :
    batchLockSchema.valid lock.json = false :=
  object_not_valid (.tail _ (.head _)) rfl (oneOf_not_valid (by decide))

theorem EmittedWorkflow.lock_valid_iff {tables : TextTables} (r : EmittedWorkflow tables) :
    ciLockSchema.valid r.lock.json = true ↔
      r.engine.verificationPolicy.consistencyMode ≠ .bounded := by
  rw [ciLockSchema, exactlyOne_pair, quickSchema_batchLock, Bool.xor_false]
  exact r.batchLock_valid_iff

theorem EmittedQuick.lock_valid (tables : TextTables) (r : EmittedQuick) :
    ciLockSchema.valid (r.lock tables).json = true := by
  rw [ciLockSchema, exactlyOne_pair, batchSchema_quickLock, Bool.false_xor]
  exact quickLock_valid _

/-! ## A lock is read back -/

@[simp] theorem orderFree_text (minLength : ℕ) (maxLength : Option ℕ) :
    OrderFree (.text minLength maxLength) :=
  orderFree_scalar (fun _ _ => rfl) (fun _ _ => rfl)

@[simp] theorem orderFree_oneOf (values : List String) : OrderFree (.oneOf values) :=
  orderFree_scalar (fun _ _ => rfl) (fun _ _ => rfl)

@[simp] theorem orderFree_number (value : ℤ) : OrderFree (.number value) :=
  orderFree_scalar (fun _ _ => rfl) (fun _ _ => rfl)

@[simp] theorem orderFree_integer (minimum : ℤ) : OrderFree (.integer minimum) :=
  orderFree_scalar (fun _ _ => rfl) (fun _ _ => rfl)

@[simp] theorem orderFree_anyInteger : OrderFree .anyInteger :=
  orderFree_scalar (fun _ _ => rfl) (fun _ _ => rfl)

@[simp] theorem orderFree_textOrNull : OrderFree .textOrNull :=
  orderFree_scalar (fun _ _ => rfl) (fun _ _ => rfl)

@[simp] theorem orderFree_objectOrNull : OrderFree .objectOrNull :=
  orderFree_scalar (fun _ _ => rfl) (fun _ _ => rfl)

@[simp] theorem orderFree_codesSchema : OrderFree codesSchema :=
  orderFree_array (orderFree_text 0 none)

theorem orderFree_lockPolicySchema : OrderFree lockPolicySchema :=
  orderFree_object (by simp)

theorem orderFree_lockEventSequenceSchema : OrderFree lockEventSequenceSchema := by
  have hnormal : OrderFree (.object ["kind"] [("kind", .oneOf ["normal"])]) :=
    orderFree_object (by simp)
  have hirregular : OrderFree (.object ["kind", "reasonCodes"]
      [("kind", .oneOf ["irregular"]), ("reasonCodes", codesSchema)]) :=
    orderFree_object (by simp)
  exact orderFree_exactlyOne (by simp [hnormal, hirregular])

theorem orderFree_lockStepSchema : OrderFree lockStepSchema :=
  orderFree_object (by simp)

theorem orderFree_batchLockSchema : OrderFree batchLockSchema :=
  orderFree_object (by
    simp [orderFree_lockPolicySchema, orderFree_lockEventSequenceSchema,
      orderFree_array orderFree_lockStepSchema])

theorem orderFree_lockUnitSchema : OrderFree lockUnitSchema :=
  orderFree_object (by simp)

theorem orderFree_quickLockSchema : OrderFree quickLockSchema :=
  orderFree_object (by simp [orderFree_array orderFree_lockUnitSchema])

theorem orderFree_ciLockSchema : OrderFree ciLockSchema :=
  orderFree_exactlyOne (by simp [orderFree_batchLockSchema, orderFree_quickLockSchema])

/-- The schema takes the lock, and the lock that is read from its text is equal to it. -/
structure Locks (lock : Json) : Prop where
  accepted : assertCiLockSchemaValid lock = .ok ()
  readBack : ∃ parsed, parseCiLock (stableStringify lock) = .ok parsed ∧
    ciLocksEqualStable parsed lock = true

theorem ciLocksEqualStable_iff {a b : Json} :
    ciLocksEqualStable a b = true ↔ canonicalJsonForParams a = canonicalJsonForParams b := by
  rw [ciLocksEqualStable, stableStringify_eq, stableStringify_eq, decide_eq_true_iff]

theorem locks_iff {lock : Json} (h : lock.Exact) :
    Locks lock ↔ ciLockSchema.valid lock = true := by
  constructor
  · intro hlocks
    have haccepted := hlocks.accepted
    rw [assertCiLockSchemaValid] at haccepted
    split_ifs at haccepted with hvalid
    exact hvalid
  · intro hvalid
    have hrecoded : ciLockSchema.valid (recoded lock) = true := by
      rw [orderFree_ciLockSchema lock h, hvalid]
    refine ⟨if_pos hvalid, recoded lock, ?_, ?_⟩
    · have hread := parseJson_canonicalJsonForParams h.decoded
      rw [parseCiLock, stableStringify_eq, hread]
      exact bind_eq_ok.mpr ⟨(), if_pos hrecoded, rfl⟩
    · exact ciLocksEqualStable_iff.mpr (canonicalJsonForParams_recoded h)

/-! ## Equal locks are of equal outcomes -/

/-- The steps agree in what a lock says of them. -/
structure SameStep (s t : StepOutcome) : Prop where
  seq : s.seq = t.seq
  toolId : s.toolId = t.toolId
  status : s.status = t.status
  reasonCodes : ∀ code, code ∈ s.reasons.map Reason.code ↔ code ∈ t.reasons.map Reason.code

structure SameOutcome (a b : WorkflowEngineResult) : Prop where
  status : a.status = b.status
  steps : List.Forall₂ SameStep a.steps b.steps

theorem WorkflowStatus.text_injective {s t : WorkflowStatus}
    (h : WorkflowStatus.text s = WorkflowStatus.text t) : s = t := by
  cases s <;> cases t <;> first | rfl | exact absurd h (by decide)

theorem StepStatus.text_injective {s t : StepStatus} (h : s.text = t.text) : s = t := by
  cases s <;> cases t <;> first | rfl | exact absurd h (by decide)

theorem mem_reasonCodesOf {tables : TextTables} {reasons : List Reason} {code : String} :
    code ∈ reasonCodesOf tables reasons ↔ code ∈ reasons.map Reason.code :=
  (List.mem_insertionSort _).trans InsertionMap.mem_keys_ofKeys

/-- Objects that are read as one value are read so at every key. -/
theorem recoded_member_eq {members members' : List (String × Json)}
    (hnodup : (members.map Prod.fst).Nodup) (hnodup' : (members'.map Prod.fst).Nodup)
    (h : recoded (.obj members) = recoded (.obj members')) (key : String) :
    (ownMember members key).map recoded = (ownMember members' key).map recoded := by
  rw [recoded_obj, recoded_obj] at h
  rw [← ownMember_recodedMembers hnodup, ← ownMember_recodedMembers hnodup',
    Json.obj.inj h]

theorem recoded_codesJson (codes : List String) : recoded (codesJson codes) = codesJson codes := by
  rw [codesJson, recoded_arr, List.map_map]
  rfl

theorem codesJson_injective {codes codes' : List String}
    (h : codesJson codes = codesJson codes') : codes = codes' :=
  List.map_injective_iff.mpr (fun _ _ => Json.str.inj) (Json.arr.inj h)

theorem sameStep_of_recoded {tables : TextTables} {truth truth' : List WorkflowTruthStep}
    {s t : StepOutcome} (hs : (JsNumber.int s.seq).Readable)
    (ht : (JsNumber.int t.seq).Readable)
    (h : recoded (lockStep tables truth s).json = recoded (lockStep tables truth' t).json) :
    SameStep s t := by
  have hmember := recoded_member_eq
    (exact_obj.mp (@exact_lockStep (lockStep tables truth s) hs)).1
    (exact_obj.mp (@exact_lockStep (lockStep tables truth' t) ht)).1 h
  have hseq : some (recoded (intJson s.seq)) = some (recoded (intJson t.seq)) := hmember "seq"
  have htool : some (recoded (.str s.toolId)) = some (recoded (.str t.toolId)) :=
    hmember "toolId"
  have hstatus : some (recoded (.str s.status.text)) = some (recoded (.str t.status.text)) :=
    hmember "status"
  have hcodes : some (recoded (codesJson (reasonCodesOf tables s.reasons))) =
      some (recoded (codesJson (reasonCodesOf tables t.reasons))) := hmember "reasonCodes"
  refine ⟨?_, Json.str.inj (Option.some.inj htool),
    StepStatus.text_injective (Json.str.inj (Option.some.inj hstatus)), fun code => ?_⟩
  · rw [intJson, intJson, recoded_num hs, recoded_num ht] at hseq
    simpa using hseq
  · rw [recoded_codesJson, recoded_codesJson] at hcodes
    have hsame := codesJson_injective (Option.some.inj hcodes)
    rw [← @mem_reasonCodesOf tables, hsame, mem_reasonCodesOf]

theorem sameSteps_of_recoded {tables : TextTables} {truth truth' : List WorkflowTruthStep}
    {steps steps' : List StepOutcome}
    (hsteps : ∀ s ∈ steps, (JsNumber.int s.seq).Readable)
    (hsteps' : ∀ s ∈ steps', (JsNumber.int s.seq).Readable)
    (h : (steps.map fun s => recoded (lockStep tables truth s).json) =
      steps'.map fun s => recoded (lockStep tables truth' s).json) :
    List.Forall₂ SameStep steps steps' := by
  rw [← List.forall₂_eq_eq_eq, List.forall₂_map_left_iff, List.forall₂_map_right_iff] at h
  have hleft := (List.forall₂_and_left _ _).mpr ⟨hsteps, h⟩
  have hboth := (List.forall₂_and_left _ _).mpr ⟨hsteps', hleft.flip⟩
  exact hboth.flip.imp fun s t hst => sameStep_of_recoded hst.2.1 hst.1 hst.2.2

theorem EmittedWorkflow.sameOutcome {tables : TextTables} {r r' : EmittedWorkflow tables}
    (h : ciLocksEqualStable r.lock.json r'.lock.json = true) :
    SameOutcome r.engine r'.engine := by
  have hread := recoded_eq_of_text r.exact_lock r'.exact_lock (ciLocksEqualStable_iff.mp h)
  have hmember := recoded_member_eq (exact_obj.mp r.exact_lock).1
    (exact_obj.mp r'.exact_lock).1 hread
  have hstatus : some (recoded (.str (WorkflowStatus.text r.engine.status))) =
      some (recoded (.str (WorkflowStatus.text r'.engine.status))) := hmember "status"
  have hsteps : some (recoded (.arr (r.lock.steps.map CiLockStep.json))) =
      some (recoded (.arr (r'.lock.steps.map CiLockStep.json))) := hmember "steps"
  refine ⟨WorkflowStatus.text_injective (Json.str.inj (Option.some.inj hstatus)), ?_⟩
  have hitems := Option.some.inj hsteps
  rw [recoded_arr, recoded_arr] at hitems
  have hsame := Json.arr.inj hitems
  simp only [EmittedWorkflow.lock, workflowResultToCiLockV1, List.map_map] at hsame
  exact sameSteps_of_recoded r.representable.seqs r'.representable.seqs hsame

/-! ## The locks that are taken -/

/-- The lock of a result is taken and read back, and shows the outcome of its run. -/
structure CiLockFaithful {tables : TextTables} (r : EmittedWorkflow tables) : Prop where
  locks : Locks (toCiLockV1 tables (.inl r)).json
  outcome : ∀ r' : EmittedWorkflow tables,
    ciLocksEqualStable (toCiLockV1 tables (.inl r)).json (toCiLockV1 tables (.inl r')).json =
      true → SameOutcome r.engine r'.engine

/-- The lock of a run is taken exactly where its policy has one of the two modes of the
schema, and the lock of a quick report always. -/
theorem ciLockFaithful_iff (tables : TextTables) (r : EmittedWorkflow tables)
    (q : EmittedQuick) :
    (CiLockFaithful r ↔ r.engine.verificationPolicy.consistencyMode ≠ .bounded) ∧
      Locks (toCiLockV1 tables (.inr q)).json := by
  have hlocks := (locks_iff r.exact_lock).trans r.lock_valid_iff
  refine ⟨⟨fun h => hlocks.mp h.locks, fun hmode => ?_⟩, ?_⟩
  · exact ⟨hlocks.mpr hmode, fun _ hequal => EmittedWorkflow.sameOutcome hequal⟩
  · exact (locks_iff (q.exact_lock tables)).mpr (q.lock_valid tables)

/-! ## A run under a bounded policy -/

def boundedPolicy : VerificationPolicy where
  consistencyMode := .bounded
  verificationWindowMs := some (.int 1000)
  pollIntervalMs := some (.int 100)
  maxStalenessMs := some (.int 5000)

def verifiedStep : StepOutcome where
  seq := 0
  toolId := "crm.upsert_contact"
  releaseCritical := false
  intendedEffect := "Upsert contact."
  observedExecution := "\x7b\x7d"
  verificationRequest := none
  status := .verified
  reasons := []
  evidenceSummary := []
  repeatObservationCount := 1
  evaluatedObservationOrdinal := 1
  failureDiagnostic := none
  langgraphCheckpointKey := none

def boundedRun : WorkflowEngineResult where
  workflowId := "wf_1"
  status := .complete
  runLevelReasons := []
  steps := [verifiedStep]
  verificationPolicy := boundedPolicy
  eventSequenceIntegrity := .normal
  verificationRunContext := emptyContext

/-- The run is verified, so there is nothing to explain and no definition. -/
theorem boundedRun_report : ∃ truth, buildWorkflowTruthReport asciiTexts boundedRun = .ok truth ∧
    truth.correctnessDefinition = none := by
  have hbuilt : ((buildWorkflowTruthReport asciiTexts boundedRun).toOption.any
      fun truth => truth.correctnessDefinition.isNone) = true := by
    decide +kernel
  obtain ⟨truth, htruth, hnone⟩ := (Option.any_eq_true _ _).mp hbuilt
  refine ⟨truth, ?_, Option.isNone_iff_eq_none.mp hnone⟩
  cases hreport : buildWorkflowTruthReport asciiTexts boundedRun with
  | error e =>
      rw [hreport] at htruth
      exact absurd htruth nofun
  | ok built =>
      rw [hreport] at htruth
      rw [Option.some.inj htruth]

theorem boundedRun_representable {truth : WorkflowTruthReport}
    (h : truth.correctnessDefinition = none) : Representable boundedRun truth where
  seqs := by
    intro s hs
    rw [List.mem_singleton.mp hs]
    exact JsNumber.readable_safeInteger (by norm_num [verifiedStep])
  window := by
    rintro n ⟨⟩
    exact JsNumber.readable_safeInteger (by norm_num)
  interval := by
    rintro n ⟨⟩
    exact JsNumber.readable_safeInteger (by norm_num)
  staleness := by
    rintro n ⟨⟩
    exact JsNumber.readable_safeInteger (by norm_num)
  projection := by simp [h]

/-- The result of a run that is verified under an accepted policy, whose lock is refused. -/
theorem boundedRun_lock_refused : ∃ r : EmittedWorkflow asciiTexts,
    r.engine = boundedRun ∧ r.policyInput = some boundedPolicy ∧
      assertCiLockSchemaValid (toCiLockV1 asciiTexts (.inl r)).json =
        .error "CI_LOCK_SCHEMA_INVALID" := by
  obtain ⟨truth, htruth, hnone⟩ := boundedRun_report
  let r : EmittedWorkflow asciiTexts :=
    ⟨some boundedPolicy, boundedRun, truth, rfl, htruth, boundedRun_representable hnone⟩
  have hinvalid : ciLockSchema.valid r.lock.json ≠ true := by
    intro hvalid
    exact r.lock_valid_iff.mp hvalid rfl
  exact ⟨r, rfl, rfl, if_neg hinvalid⟩

end AgentSkeptic.Report
