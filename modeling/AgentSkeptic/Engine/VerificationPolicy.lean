import AgentSkeptic.Engine.ResolveExpectation

/-!
# Executing a resolved request

The strong branch of `verificationPolicy.ts` with the rollups of
`multiEffectRollup.ts`: every row, check or witness is reconciled once.  The
reconcilers are parameters; an error of theirs is its message.
-/

namespace AgentSkeptic.Engine

open AgentSkeptic.Support

/-! ## Messages -/

/-- `s.replace(/ +/g, " ")`. -/
def collapseSpaces : List Char → List Char
  | ' ' :: ' ' :: rest => collapseSpaces (' ' :: rest)
  | c :: rest => c :: collapseSpaces rest
  | [] => []

def operationalMessageMaxChars : ℕ := 2048

def formatOperationalMessage (raw : String) : String :=
  let spaced := raw.toList.map fun c =>
    if c = '\t' ∨ c = '\r' ∨ c = '\n' then ' ' else c
  let s := String.ofList (trimChars (collapseSpaces spaced))
  if operationalMessageMaxChars < (utf16 s).length then
    String.ofList (ofUtf16 ((utf16 s).take (operationalMessageMaxChars - 3))) ++
      "..."
  else s

/-! ## Rollup of several checks -/

def StepStatus.text : StepStatus → String
  | verified => "verified"
  | missing => "missing"
  | inconsistent => "inconsistent"
  | incompleteVerification => "incomplete_verification"
  | partiallyVerified => "partially_verified"
  | uncertain => "uncertain"

structure EffectRow where
  id : String
  status : StepStatus
  reasons : List Reason
  evidenceSummary : List (String × Json)

def sortById {α : Type} (id : α → String) (xs : List α) : List α :=
  xs.insertionSort fun a b => utf16Le (id a) (id b) = true

def joinIds (rows : List EffectRow) : String :=
  ", ".intercalate (sortById id (rows.map EffectRow.id))

/-- Each segment is `id (firstReasonCode)`. -/
def formatPerEffectFailureCodes (rows : List EffectRow) : String :=
  "; ".intercalate ((sortById EffectRow.id rows).map fun e =>
    e.id ++ " (" ++ (e.reasons.head?.elim "UNKNOWN" Reason.code) ++ ")")

def rollupReason (code : SqlVerificationOutcomeCode) (message : String) : Reason :=
  { code := code.code, message }

def computeMultiCheckRollupStatus (effectRows : List EffectRow) :
    StepStatus × List Reason :=
  let n := effectRows.length
  let incomplete := effectRows.filter (·.status = .incompleteVerification)
  let verified := effectRows.filter (·.status = .verified)
  if incomplete.length > 0 then
    (.incompleteVerification, [rollupReason .multiEffectIncomplete
      ("Incomplete verification for effects: " ++ joinIds incomplete)])
  else if verified.length = n then (.verified, [])
  else if verified.length = 0 then
    (.inconsistent, [rollupReason .multiEffectAllFailed
      (formatOperationalMessage ("All " ++ toString n ++ " effects failed: " ++
        joinIds effectRows ++ ". Per effect: " ++
        formatPerEffectFailureCodes effectRows))])
  else
    let badRows := effectRows.filter fun e =>
      e.status = .missing ∨ e.status = .inconsistent
    (.partiallyVerified, [rollupReason .multiEffectPartial
      (formatOperationalMessage ("Verified " ++ toString verified.length ++ " of " ++
        toString n ++ " effects; not verified: " ++ joinIds badRows ++
        ". Per effect: " ++ formatPerEffectFailureCodes badRows))])

def reasonJson (r : Reason) : Json :=
  .obj ([("code", .str r.code), ("message", .str r.message)] ++
    match r.field with
    | some field => [("field", .str field)]
    | none => [])

def effectRowJson (row : EffectRow) : Json :=
  .obj [("id", .str row.id), ("status", .str row.status.text),
    ("reasons", .arr (row.reasons.map reasonJson)),
    ("evidenceSummary", .obj row.evidenceSummary)]

structure PolicyExecutionOutput where
  verificationRequest : ResolvedRequest
  status : StepStatus
  reasons : List Reason
  evidenceSummary : List (String × Json)

/-- The rollup over rows that are sorted by id. -/
def buildRollup (verificationRequest : ResolvedRequest)
    (effectRows : List EffectRow) : PolicyExecutionOutput :=
  let rollup := computeMultiCheckRollupStatus effectRows
  { verificationRequest
    status := rollup.1
    reasons := rollup.2
    evidenceSummary :=
      [("effectCount", .num (.int effectRows.length)),
        ("effects", .arr (effectRows.map effectRowJson))] }

/-! ## Execution -/

structure PolicyReconcileContext where
  reconcileRow : VerificationRequest → Except String ReconcileOutput
  reconcileRowAbsent : RowAbsentVerificationRequest → Except String ReconcileOutput
  reconcileRelationalCheck :
    ResolvedRelationalCheck → Except String ReconcileOutput
  reconcileStateWitness : StateWitnessRequest → Except String ReconcileOutput

/-- The row of an effect or a check, once it is reconciled. -/
def reconciledRow {α : Type} (id : α → String)
    (reconcile : α → Except String ReconcileOutput) (item : α) :
    Except String EffectRow := do
  let out ← reconcile item
  .ok ⟨id item, out.status, out.reasons, out.evidenceSummary⟩

def outputOf (verificationRequest : ResolvedRequest) (out : ReconcileOutput) :
    PolicyExecutionOutput :=
  { verificationRequest
    status := out.status
    reasons := out.reasons
    evidenceSummary := out.evidenceSummary }

def executeOne {α : Type} (reconcile : α → Except String ReconcileOutput)
    (request : α) (payload : ResolvedRequest) :
    Except String PolicyExecutionOutput := do
  let out ← reconcile request
  .ok (outputOf payload out)

/-- `executeVerificationWithPolicyAsync` under the strong policy. -/
def executeVerificationStrong (ctx : PolicyReconcileContext)
    (resolved : ResolvedRequest) : Except String PolicyExecutionOutput :=
  match resolved with
  | .sqlEffects effects => do
      let rows ← effects.mapM
        (reconciledRow ResolvedEffect.id fun e => ctx.reconcileRow e.request)
      .ok (buildRollup (.sqlEffects (sortById ResolvedEffect.id effects))
        (sortById EffectRow.id rows))
  | .stateWitness request =>
      executeOne ctx.reconcileStateWitness request resolved
  | .sqlRelational [check] =>
      executeOne ctx.reconcileRelationalCheck check resolved
  | .sqlRelational checks => do
      let rows ← checks.mapM
        (reconciledRow ResolvedRelationalCheck.id ctx.reconcileRelationalCheck)
      .ok (buildRollup (.sqlRelational (sortById ResolvedRelationalCheck.id checks))
        (sortById EffectRow.id rows))
  | .sqlRowAbsent request => executeOne ctx.reconcileRowAbsent request resolved
  | .sqlRow request => executeOne ctx.reconcileRow request resolved

/-- The reconcilers over an SQLite file. -/
structure SqliteReconcilers where
  reconcileSqlRow : VerificationRequest → Except String ReconcileOutput
  reconcileSqlRowAbsent :
    RowAbsentVerificationRequest → Except String ReconcileOutput
  reconcileRelationalSqlite :
    ResolvedRelationalCheck → Except String ReconcileOutput

def StateWitnessRequest.verificationKind : StateWitnessRequest → String
  | vectorDocument _ => "vector_document"
  | objectStorageObject _ => "object_storage_object"
  | httpWitness _ => "http_witness"
  | mongoDocument _ => "mongo_document"

def witnessUnavailable (request : StateWitnessRequest) : ReconcileOutput :=
  { status := .incompleteVerification
    reasons := [{
      code :=
        SqlVerificationOutcomeCode.stateWitnessUnavailableInSqliteFileMode.code
      message :=
        "State store verification (vector, object storage, HTTP witness, MongoDB) " ++
        "requires the async verification runtime with a remote database URL, not " ++
        "SQLite file mode." }]
    evidenceSummary := [("verificationKind", .str request.verificationKind)] }

/-- `executeVerificationWithPolicySync`: as the strong policy over a context that
serves no state witness. -/
def syncContext (db : SqliteReconcilers) : PolicyReconcileContext where
  reconcileRow := db.reconcileSqlRow
  reconcileRowAbsent := db.reconcileSqlRowAbsent
  reconcileRelationalCheck := db.reconcileRelationalSqlite
  reconcileStateWitness request := .ok (witnessUnavailable request)

/-! ## When a request is verified -/

/-- A reconciler answers, and verifies. -/
def AnswersVerified (answer : Except String ReconcileOutput) : Prop :=
  ∃ out, answer = .ok out ∧ out.status = .verified

/-- Every part of the request is verified. -/
def OracleVerified (ctx : PolicyReconcileContext) : ResolvedRequest → Prop
  | .sqlRow request => AnswersVerified (ctx.reconcileRow request)
  | .sqlRowAbsent request => AnswersVerified (ctx.reconcileRowAbsent request)
  | .sqlEffects effects =>
      ∀ e ∈ effects, AnswersVerified (ctx.reconcileRow e.request)
  | .sqlRelational checks =>
      ∀ c ∈ checks, AnswersVerified (ctx.reconcileRelationalCheck c)
  | .stateWitness request => AnswersVerified (ctx.reconcileStateWitness request)

section

variable {ctx : PolicyReconcileContext}

theorem computeMultiCheckRollupStatus_verified {rows : List EffectRow} :
    (computeMultiCheckRollupStatus rows).1 = .verified ↔
      ∀ row ∈ rows, row.status = .verified := by
  unfold computeMultiCheckRollupStatus
  dsimp only
  split_ifs with hincomplete hall hnone
  · refine iff_of_false (by simp) ?_
    intro hverified
    obtain ⟨row, hrow⟩ := List.exists_mem_of_length_pos hincomplete
    obtain ⟨hmem, hstatus⟩ := List.mem_filter.mp hrow
    simp [hverified row hmem] at hstatus
  · have hself := List.length_filter_eq_length_iff.mp hall
    simpa using hself
  · refine iff_of_false (by simp) ?_
    intro hverified
    exact hall (List.length_filter_eq_length_iff.mpr (by simpa using hverified))
  · refine iff_of_false (by simp) ?_
    intro hverified
    exact hall (List.length_filter_eq_length_iff.mpr (by simpa using hverified))

theorem executeOne_verified {α : Type}
    {reconcile : α → Except String ReconcileOutput} {request : α}
    {payload : ResolvedRequest} :
    (∃ out, executeOne reconcile request payload = .ok out ∧
        out.status = .verified) ↔
      AnswersVerified (reconcile request) := by
  constructor
  · rintro ⟨out, hout, hverified⟩
    obtain ⟨answer, hanswer, hout⟩ := bind_eq_ok.mp hout
    cases hout
    exact ⟨answer, hanswer, hverified⟩
  · rintro ⟨answer, hanswer, hverified⟩
    exact ⟨outputOf payload answer, bind_eq_ok.mpr ⟨answer, hanswer, rfl⟩,
      hverified⟩

/-- A rollup is verified when every item is. -/
theorem rollup_verified {α : Type} {id : α → String}
    {reconcile : α → Except String ReconcileOutput} {items : List α}
    {payload : ResolvedRequest} :
    (∃ out, (do
        let rows ← items.mapM (reconciledRow id reconcile)
        .ok (buildRollup payload (sortById EffectRow.id rows))) = .ok out ∧
        out.status = .verified) ↔
      ∀ item ∈ items, AnswersVerified (reconcile item) := by
  constructor
  · rintro ⟨out, hout, hverified⟩ item hitem
    obtain ⟨rows, hrows, hout⟩ := bind_eq_ok.mp hout
    cases hout
    obtain ⟨row, hrow, hreconciled⟩ := mem_of_mapM_eq_ok hrows hitem
    obtain ⟨answer, hanswer, hrowAnswer⟩ := bind_eq_ok.mp hreconciled
    cases hrowAnswer
    have hall := computeMultiCheckRollupStatus_verified.mp hverified
    exact ⟨answer, hanswer, hall _ ((List.mem_insertionSort _).mpr hrow)⟩
  · intro hall
    have hrows : ∀ item ∈ items, ∃ row,
        reconciledRow id reconcile item = .ok row ∧ row.status = .verified := by
      intro item hitem
      obtain ⟨answer, hanswer, hverified⟩ := hall item hitem
      exact ⟨⟨id item, answer.status, answer.reasons, answer.evidenceSummary⟩,
        bind_eq_ok.mpr ⟨answer, hanswer, rfl⟩, hverified⟩
    obtain ⟨rows, hmapM, hverified⟩ := exists_mapM_eq_ok hrows
    refine ⟨_, bind_eq_ok.mpr ⟨rows, hmapM, rfl⟩, ?_⟩
    apply computeMultiCheckRollupStatus_verified.mpr
    intro row hrow
    exact hverified row ((List.mem_insertionSort _).mp hrow)

/-- A request is executed as verified exactly when each of its parts is. -/
theorem executeVerificationStrong_verified {request : ResolvedRequest} :
    (∃ out, executeVerificationStrong ctx request = .ok out ∧
        out.status = .verified) ↔
      OracleVerified ctx request := by
  rcases request with request | request | effects | checks | request
  · exact executeOne_verified
  · exact executeOne_verified
  · exact rollup_verified
  · rcases checks with _ | ⟨check, _ | ⟨next, rest⟩⟩
    · exact rollup_verified
    · have hone : (∃ out, executeVerificationStrong ctx (.sqlRelational [check]) =
          .ok out ∧ out.status = .verified) ↔
            AnswersVerified (ctx.reconcileRelationalCheck check) :=
        executeOne_verified
      simpa [OracleVerified] using hone
    · exact rollup_verified
  · exact executeOne_verified

end

end AgentSkeptic.Engine
