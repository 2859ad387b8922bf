import AgentSkeptic.Engine.Pipeline
import AgentSkeptic.Engine.Reconcilers

/-!
# Execution under a verification policy

The policies of `verificationPolicy.ts` and its executors, strong and polling,
over the targets that `verificationConnections.ts` opens.  A session is what one
step meets: the answers to each call of each attempt, and the clock.

`executeVerification_spec` says what an execution can return: nothing to report
of a verified request, and otherwise one reason whose code belongs to the status.
-/

namespace AgentSkeptic.Engine

open AgentSkeptic.Support

/-! ## Policies -/

inductive ConsistencyMode where
  | strong | eventual | bounded
  deriving DecidableEq

/-- A missing number stands for `undefined` and `NaN`. -/
structure VerificationPolicy where
  consistencyMode : ConsistencyMode
  verificationWindowMs : Option JsNumber
  pollIntervalMs : Option JsNumber
  maxStalenessMs : Option JsNumber := none
  deriving DecidableEq

def defaultVerificationPolicy : VerificationPolicy :=
  { consistencyMode := .strong
    verificationWindowMs := some (.int 0)
    pollIntervalMs := some (.int 0) }

def normalizeVerificationPolicy (policy : VerificationPolicy) :
    VerificationPolicy :=
  match policy.consistencyMode with
  | .strong => defaultVerificationPolicy
  | .bounded => policy
  | .eventual => { policy with maxStalenessMs := none }

/-- `!Number.isInteger(n) || n < 1` is false. -/
def isPositiveInteger (n : Option JsNumber) : Bool :=
  (n.bind JsNumber.toInt?).any (1 ≤ ·)

def milliseconds (n : Option JsNumber) : ℤ := (n.bind JsNumber.toInt?).getD 0

/-- The message of the `VERIFICATION_POLICY_INVALID` error, when there is one. -/
def assertValidVerificationPolicy (policy : VerificationPolicy) :
    Except String Unit :=
  if policy.consistencyMode = .strong then .ok ()
  else if isPositiveInteger policy.verificationWindowMs = false then
    .error "eventual mode requires integer verificationWindowMs >= 1"
  else if isPositiveInteger policy.pollIntervalMs = false then
    .error "eventual mode requires integer pollIntervalMs >= 1"
  else if milliseconds policy.verificationWindowMs <
      milliseconds policy.pollIntervalMs then
    .error "pollIntervalMs must be <= verificationWindowMs"
  else if policy.consistencyMode = .bounded ∧
      isPositiveInteger policy.maxStalenessMs = false then
    .error "bounded mode requires integer maxStalenessMs >= 1"
  else .ok ()

def resolveVerificationPolicyInput (input : Option VerificationPolicy) :
    Except String VerificationPolicy := do
  let normalized := normalizeVerificationPolicy
    (input.getD defaultVerificationPolicy)
  assertValidVerificationPolicy normalized
  .ok normalized

theorem normalizeVerificationPolicy_idem (policy : VerificationPolicy) :
    normalizeVerificationPolicy (normalizeVerificationPolicy policy) =
      normalizeVerificationPolicy policy := by
  rcases policy with ⟨mode, window, poll, staleness⟩
  rcases mode with _ | _ | _
  · rfl
  · rfl
  · rfl

/-- An accepted policy is accepted as it is. -/
theorem resolveVerificationPolicyInput_idem {input : Option VerificationPolicy}
    {policy : VerificationPolicy}
    (h : resolveVerificationPolicyInput input = .ok policy) :
    resolveVerificationPolicyInput (some policy) = .ok policy := by
  obtain ⟨_, hvalid, hpolicy⟩ := bind_eq_ok.mp h
  cases hpolicy
  unfold resolveVerificationPolicyInput
  simp only [Option.getD_some, normalizeVerificationPolicy_idem]
  exact bind_eq_ok.mpr ⟨_, hvalid, rfl⟩

/-! ## Polling -/

/-- How a poll ended: with an attempt that is not retried, or with the window
over. -/
inductive PollEnd (α : Type) where
  | done (out : α)
  | expired (last : α) (attempts : ℕ) (elapsedMs : ℤ)

/-- `for (;;) { … }` from the `k`-th attempt on; `now 0` is the reading before the
loop and `now k` the one after the `k`-th attempt.  A poll that is not over after
`fuel` more attempts has no result. -/
def poll {α : Type} (attempt : ℕ → Except String α) (retry : α → Bool)
    (now : ℕ → ℤ) (verificationWindowMs : ℤ) :
    ℕ → ℕ → Except String (PollEnd α)
  | 0, _ => .error "still polling"
  | fuel + 1, k => do
      let out ← attempt k
      if retry out = false then .ok (.done out)
      else if verificationWindowMs ≤ now k - now 0 then
        .ok (.expired out k (now (k + 1) - now 0))
      else poll attempt retry now verificationWindowMs fuel (k + 1)

/-- What one step meets: the answers to the calls of each attempt, by their
position, and the clock. -/
structure VerificationSession where
  context : ℕ → ℕ → PolicyReconcileContext
  now : ℕ → ℤ
  /-- How many attempts a poll is followed for. -/
  attempts : ℕ

/-- The rows of a list of items at the `k`-th attempt. -/
def reconcileItems {α : Type} (id : α → String)
    (reconcile : ℕ → α → Except String ReconcileOutput) (items : List α) :
    Except String (List EffectRow) :=
  items.zipIdx.mapM fun item => reconciledRow id (reconcile item.2) item.1

/-- `pending_all_missing` of the two classifications. -/
def pendingAllMissing (rows : List EffectRow) : Bool :=
  if rows.any (·.status = .incompleteVerification) then false
  else if (rows.filter (·.status = .verified)).length = rows.length then false
  else rows.all (·.status = .missing)

def timingEvidence (policy : VerificationPolicy) (attempts : ℕ)
    (elapsedMs : ℤ) : List (String × Json) :=
  [("attempts", intJson attempts), ("elapsedMs", .num (.int elapsedMs)),
    ("verificationWindowMs",
      .num (.int (milliseconds policy.verificationWindowMs))),
    ("pollIntervalMs", .num (.int (milliseconds policy.pollIntervalMs)))]

def uncertainOutput (request : ResolvedRequest) (code : SqlVerificationOutcomeCode)
    (message : String) (evidenceSummary : List (String × Json)) :
    PolicyExecutionOutput :=
  { verificationRequest := request
    status := .uncertain
    reasons := [rollupReason code message]
    evidenceSummary }

def rowNotObservedMessage : String :=
  "No row matched the key within the verification window; replication or " ++
    "processing delay is possible."

def stateNotObservedMessage : String :=
  "Expected state was not observed within the verification window; replication " ++
    "or processing delay is possible."

def forbiddenRowsMessage : String :=
  "Forbidden row(s) still present within the verification window; replication " ++
    "or processing delay is possible."

/-- `buildUncertainSqlRow`, `…SqlRelationalSingle` and `…StateWitness`. -/
def buildUncertainOne (message : String) (request : ResolvedRequest)
    (policy : VerificationPolicy) (_ : ReconcileOutput) (attempts : ℕ)
    (elapsedMs : ℤ) : PolicyExecutionOutput :=
  uncertainOutput request .rowNotObservedWithinWindow message
    (timingEvidence policy attempts elapsedMs)

def atLeastOne (value : Option Json) : Json :=
  match value with
  | some (.num n) => if 1 ≤ n.toRat then .num n else intJson 1
  | _ => intJson 1

def arrayOrEmpty (value : Option Json) : Json :=
  match value with
  | some (.arr items) => .arr items
  | _ => .arr []

def buildUncertainSqlRowAbsent (request : ResolvedRequest)
    (policy : VerificationPolicy) (lastRec : ReconcileOutput) (attempts : ℕ)
    (elapsedMs : ℤ) : PolicyExecutionOutput :=
  uncertainOutput request .forbiddenRowsStillPresentWithinWindow
    forbiddenRowsMessage
    (timingEvidence policy attempts elapsedMs ++
      [("matchedRowCount",
          atLeastOne (ownMember lastRec.evidenceSummary "matchedRowCount")),
        ("sampleRows",
          arrayOrEmpty (ownMember lastRec.evidenceSummary "sampleRows"))])

/-- `buildUncertainSqlEffects` and `buildUncertainSqlRelational`. -/
def buildUncertainRows (request : ResolvedRequest) (policy : VerificationPolicy)
    (rows : List EffectRow) (attempts : ℕ) (elapsedMs : ℤ) :
    PolicyExecutionOutput :=
  let sorted := sortById EffectRow.id rows
  uncertainOutput request .multiEffectUncertainWithinWindow
    ("Not all effects were observable within the verification window; " ++
      "replication or processing delay is possible (effects: " ++ joinIds rows ++
      ").")
    ([("effectCount", intJson rows.length),
        ("effects", .arr (sorted.map effectRowJson))] ++
      timingEvidence policy attempts elapsedMs)

section Executors

variable (policy : VerificationPolicy) (session : VerificationSession)

/-- Poll until an attempt is not to be retried, or the window is over. -/
def executeEventual {α : Type} (attempt : ℕ → Except String α) (retry : α → Bool)
    (done : α → PolicyExecutionOutput)
    (uncertain : α → ℕ → ℤ → PolicyExecutionOutput) :
    Except String PolicyExecutionOutput := do
  match ← poll attempt retry session.now
      (milliseconds policy.verificationWindowMs) session.attempts 1 with
  | .done out => .ok (done out)
  | .expired last attempts elapsedMs => .ok (uncertain last attempts elapsedMs)

def isMissing (out : ReconcileOutput) : Bool := out.status = .missing

/-- Neither verified nor failed for another reason. -/
def forbiddenRowPresent (out : ReconcileOutput) : Bool :=
  out.status = .inconsistent &&
    out.reasons.head?.any fun r =>
      r.code = SqlVerificationOutcomeCode.rowPresentWhenForbidden.code

def executeSqlRowEventual (request : VerificationRequest) :
    Except String PolicyExecutionOutput :=
  executeEventual policy session
    (fun k => (session.context k 0).reconcileRow request) isMissing
    (outputOf (.sqlRow request))
    (buildUncertainOne rowNotObservedMessage (.sqlRow request) policy)

def executeSqlRowAbsentEventual (request : RowAbsentVerificationRequest) :
    Except String PolicyExecutionOutput :=
  executeEventual policy session
    (fun k => (session.context k 0).reconcileRowAbsent request)
    forbiddenRowPresent (outputOf (.sqlRowAbsent request))
    (buildUncertainSqlRowAbsent (.sqlRowAbsent request) policy)

def executeStateWitnessEventual (request : StateWitnessRequest) :
    Except String PolicyExecutionOutput :=
  executeEventual policy session
    (fun k => (session.context k 0).reconcileStateWitness request) isMissing
    (outputOf (.stateWitness request))
    (buildUncertainOne stateNotObservedMessage (.stateWitness request) policy)

def executeSqlRelationalSingleEventual (check : ResolvedRelationalCheck) :
    Except String PolicyExecutionOutput :=
  executeEventual policy session
    (fun k => (session.context k 0).reconcileRelationalCheck check) isMissing
    (outputOf (.sqlRelational [check]))
    (buildUncertainOne rowNotObservedMessage (.sqlRelational [check]) policy)

/-- `executeSqlEffectsEventual` and `executeSqlRelationalEventual`. -/
def executeItemsEventual {α : Type} (id : α → String)
    (reconcile : PolicyReconcileContext → α → Except String ReconcileOutput)
    (items : List α) (request : ResolvedRequest) :
    Except String PolicyExecutionOutput :=
  executeEventual policy session
    (fun k => reconcileItems id (fun i => reconcile (session.context k i)) items)
    pendingAllMissing
    (fun rows => buildRollup request (sortById EffectRow.id rows))
    (buildUncertainRows request policy)

def sortedEffectsRequest (effects : List ResolvedEffect) : ResolvedRequest :=
  .sqlEffects (sortById ResolvedEffect.id effects)

def sortedChecksRequest (checks : List ResolvedRelationalCheck) :
    ResolvedRequest :=
  .sqlRelational (sortById ResolvedRelationalCheck.id checks)

def executeSqlEffectsEventual (effects : List ResolvedEffect) :
    Except String PolicyExecutionOutput :=
  executeItemsEventual policy session ResolvedEffect.id
    (fun ctx e => ctx.reconcileRow e.request) effects
    (sortedEffectsRequest effects)

def executeSqlRelationalEventual (checks : List ResolvedRelationalCheck) :
    Except String PolicyExecutionOutput :=
  executeItemsEventual policy session ResolvedRelationalCheck.id
    PolicyReconcileContext.reconcileRelationalCheck checks
    (sortedChecksRequest checks)

end Executors

/-! ## The executors -/

/-- Every item reconciled once, and rolled up. -/
def executeItemsStrong {α : Type} (id : α → String)
    (reconcile : ℕ → α → Except String ReconcileOutput) (items : List α)
    (request : ResolvedRequest) : Except String PolicyExecutionOutput := do
  let rows ← reconcileItems id reconcile items
  .ok (buildRollup request (sortById EffectRow.id rows))

/-- The strong branch, where each call may find another state of the database. -/
def executeVerificationStrongAt (context : ℕ → PolicyReconcileContext)
    (resolved : ResolvedRequest) : Except String PolicyExecutionOutput :=
  match resolved with
  | .sqlEffects effects =>
      executeItemsStrong ResolvedEffect.id
        (fun i e => (context i).reconcileRow e.request) effects
        (sortedEffectsRequest effects)
  | .stateWitness request =>
      executeOne (context 0).reconcileStateWitness request resolved
  | .sqlRelational [check] =>
      executeOne (context 0).reconcileRelationalCheck check resolved
  | .sqlRelational checks =>
      executeItemsStrong ResolvedRelationalCheck.id
        (fun i => (context i).reconcileRelationalCheck) checks
        (sortedChecksRequest checks)
  | .sqlRowAbsent request =>
      executeOne (context 0).reconcileRowAbsent request resolved
  | .sqlRow request => executeOne (context 0).reconcileRow request resolved

def executeVerificationWithPolicyAsync (policy : VerificationPolicy)
    (session : VerificationSession) (resolved : ResolvedRequest) :
    Except String PolicyExecutionOutput := do
  let p ← resolveVerificationPolicyInput (some policy)
  if p.consistencyMode = .strong then
    executeVerificationStrongAt (session.context 1) resolved
  else
    match resolved with
    | .sqlRowAbsent request => executeSqlRowAbsentEventual p session request
    | .stateWitness request => executeStateWitnessEventual p session request
    | .sqlRow request => executeSqlRowEventual p session request
    | .sqlEffects effects => executeSqlEffectsEventual p session effects
    | .sqlRelational [check] =>
        executeSqlRelationalSingleEventual p session check
    | .sqlRelational checks => executeSqlRelationalEventual p session checks

/-! ## Targets -/

/-- What one step meets of a database and of the outside world. -/
structure DatabaseSession where
  db : ℕ → ℕ → SqlConnection
  world : ℕ → ℕ → WitnessWorld
  now : ℕ → ℤ
  attempts : ℕ

section Targets

variable (tables : TextTables)

def sqliteReconcilers (db : SqlConnection) : SqliteReconcilers where
  reconcileSqlRow := reconcileSqlRow tables db
  reconcileSqlRowAbsent := reconcileSqlRowAbsent tables db
  reconcileRelationalSqlite := reconcileRelationalSqlite tables db

def unavailableInSqlite : ReconcileOutput :=
  output .incompleteVerification .stateWitnessUnavailableInSqliteFileMode
    ("State store verification is not available in SQLite file mode; use a " ++
      "remote database URL for the verify run.") []

def createSqlitePolicyContext (db : SqlConnection) : PolicyReconcileContext where
  reconcileRow := reconcileSqlRow tables db
  reconcileRowAbsent := reconcileSqlRowAbsent tables db
  reconcileRelationalCheck := reconcileRelationalSqlite tables db
  reconcileStateWitness _ := .ok unavailableInSqlite

/-- The context of `verifyRunStateFromEvents` over a target that was opened. -/
def remotePolicyContext (dialect : SqlRowDialect) (db : SqlConnection)
    (world : WitnessWorld) : PolicyReconcileContext where
  reconcileRow := reconcileSqlRowAsync tables dialect db
  reconcileRowAbsent := executeRowAbsentRemote tables dialect db
  reconcileRelationalCheck := reconcileRelationalQuery tables dialect db
  reconcileStateWitness request := .ok (reconcileStateWitness world request)

def DatabaseSession.sqlite (s : DatabaseSession) : VerificationSession where
  context k i := createSqlitePolicyContext tables (s.db k i)
  now := s.now
  attempts := s.attempts

def DatabaseSession.remote (s : DatabaseSession) (dialect : SqlRowDialect) :
    VerificationSession where
  context k i := remotePolicyContext tables dialect (s.db k i) (s.world k i)
  now := s.now
  attempts := s.attempts

def connectorNotShipped (kind : String) : String :=
  "Verification connector \"" ++ kind ++ "\" is not shipped in this package build."

/-- `openVerificationSqlTarget`, of the kinds that it never opens. -/
def openVerificationTarget (database : VerificationDatabaseKind) :
    Except String Unit :=
  match database with
  | .bigquery => .error (connectorNotShipped "bigquery")
  | .sqlserver => .error (connectorNotShipped "sqlserver")
  | .sqlite | .postgres | .mysql => .ok ()

def executeVerificationWithPolicySync (policy : VerificationPolicy)
    (db : ℕ → SqlConnection) (resolved : ResolvedRequest) :
    Except String PolicyExecutionOutput := do
  let p ← resolveVerificationPolicyInput (some policy)
  if p.consistencyMode = .strong then
    executeVerificationStrongAt
      (fun i => syncContext (sqliteReconcilers tables (db i))) resolved
  else
    .error "executeVerificationWithPolicySync requires strong consistency mode"

/-- How the steps of a run are executed on each kind of target. -/
def executeVerification (policy : VerificationPolicy)
    (database : VerificationDatabaseKind) (s : DatabaseSession) :
    PolicyExecutor := fun resolved =>
  match database with
  | .sqlite =>
      if policy.consistencyMode = .strong then
        executeVerificationWithPolicySync tables policy (s.db 1) resolved
      else executeVerificationWithPolicyAsync policy (s.sqlite tables) resolved
  | .postgres =>
      executeVerificationWithPolicyAsync policy (s.remote tables .postgresql)
        resolved
  | .mysql =>
      executeVerificationWithPolicyAsync policy (s.remote tables .mysql) resolved
  | .bigquery => .error (connectorNotShipped "bigquery")
  | .sqlserver => .error (connectorNotShipped "sqlserver")

end Targets

/-! ## Polls -/

section Poll

variable {α : Type} {attempt : ℕ → Except String α} {retry : α → Bool}
  {now : ℕ → ℤ} {window : ℤ}

/-- A poll that ends does so with the answer of one of its attempts. -/
theorem poll_eq_ok {fuel k : ℕ} {result : PollEnd α}
    (h : poll attempt retry now window fuel k = .ok result) :
    ∃ n out, k ≤ n ∧ attempt n = .ok out ∧
      ((retry out = false ∧ result = .done out) ∨
        (retry out = true ∧ window ≤ now n - now 0 ∧
          result = .expired out n (now (n + 1) - now 0))) := by
  induction fuel generalizing k with
  | zero => cases h
  | succ fuel ih =>
      obtain ⟨out, hout, h⟩ := bind_eq_ok.mp h
      by_cases hretry : retry out = false
      · rw [if_pos hretry] at h
        exact ⟨k, out, le_rfl, hout, .inl ⟨hretry, (Except.ok.inj h).symm⟩⟩
      · rw [if_neg hretry] at h
        by_cases hwindow : window ≤ now k - now 0
        · rw [if_pos hwindow] at h
          have hagain : retry out = true := by simpa using hretry
          exact ⟨k, out, le_rfl, hout,
            .inr ⟨hagain, hwindow, (Except.ok.inj h).symm⟩⟩
        · rw [if_neg hwindow] at h
          obtain ⟨n, last, hn, hlast, hresult⟩ := ih h
          exact ⟨n, last, by omega, hlast, hresult⟩

/-- A poll whose attempts are answered ends when the window is over by then. -/
theorem poll_ends {fuel k n : ℕ} (hattempt : ∀ i, ∃ out, attempt i = .ok out)
    (hk : k ≤ n) (hn : n < k + fuel) (hwindow : window ≤ now n - now 0) :
    ∃ result, poll attempt retry now window fuel k = .ok result := by
  induction fuel generalizing k with
  | zero => omega
  | succ fuel ih =>
      obtain ⟨out, hout⟩ := hattempt k
      unfold poll
      simp only [bind_eq_ok, hout, Except.ok.injEq, exists_eq_left']
      split_ifs with hretry hover
      · exact ⟨_, rfl⟩
      · exact ⟨_, rfl⟩
      · have hne : k ≠ n := by
          rintro rfl
          exact hover hwindow
        exact ih (by omega) (by omega)

end Poll

/-! ## What an execution returns -/

/-- The codes that come with a status. -/
def executedCodes : StepStatus → List SqlVerificationOutcomeCode
  | .verified => []
  | .missing => reconcilerCodes .missing
  | .inconsistent => .multiEffectAllFailed :: reconcilerCodes .inconsistent
  | .incompleteVerification =>
      .multiEffectIncomplete :: reconcilerCodes .incompleteVerification
  | .partiallyVerified => [.multiEffectPartial]
  | .uncertain =>
      [.rowNotObservedWithinWindow, .forbiddenRowsStillPresentWithinWindow,
        .multiEffectUncertainWithinWindow]

def Executed (status : StepStatus) (reasons : List Reason) : Prop :=
  (status = .verified ∧ reasons = []) ∨
    ∃ code ∈ executedCodes status, ∃ message field,
      reasons = [⟨code.code, message, field⟩]

theorem reconcilerCodes_subset (status : StepStatus) :
    reconcilerCodes status ⊆ executedCodes status := by
  rcases status with _ | _ | _ | _ | _ | _
  · exact List.Subset.refl _
  · exact List.Subset.refl _
  · exact List.subset_cons_self _ _
  · exact List.subset_cons_self _ _
  · exact List.nil_subset _
  · exact List.nil_subset _

theorem Reconciled.executed {out : ReconcileOutput} (h : Reconciled out) :
    Executed out.status out.reasons := by
  rcases h with hverified | ⟨code, hcode, hreasons⟩
  · exact .inl hverified
  · exact .inr ⟨code, reconcilerCodes_subset _ hcode, hreasons⟩

theorem executed_reason {status : StepStatus} {code : SqlVerificationOutcomeCode}
    (message : String) (field : Option String) (h : code ∈ executedCodes status) :
    Executed status [⟨code.code, message, field⟩] :=
  .inr ⟨code, h, message, field, rfl⟩

theorem computeMultiCheckRollupStatus_executed (rows : List EffectRow) :
    Executed (computeMultiCheckRollupStatus rows).1
      (computeMultiCheckRollupStatus rows).2 := by
  unfold computeMultiCheckRollupStatus
  dsimp only
  split_ifs
  · show Executed .incompleteVerification _
    exact executed_reason _ none (by decide)
  · exact .inl ⟨rfl, rfl⟩
  · show Executed .inconsistent _
    exact executed_reason _ none (by decide)
  · show Executed .partiallyVerified _
    exact executed_reason _ none (by decide)

theorem uncertainOutput_executed {request : ResolvedRequest}
    {code : SqlVerificationOutcomeCode} (message : String)
    (evidence : List (String × Json)) (h : code ∈ executedCodes .uncertain) :
    Executed (uncertainOutput request code message evidence).status
      (uncertainOutput request code message evidence).reasons :=
  executed_reason message none h

/-- An execution that answers, and with a status and reasons that belong
together. -/
def Executes (run : Except String PolicyExecutionOutput) : Prop :=
  ∀ out, run = .ok out → Executed out.status out.reasons

/-- A context every call of which is answered. -/
structure PolicyReconcileContext.Serves (ctx : PolicyReconcileContext) : Prop where
  row : ∀ req, ∃ out, ctx.reconcileRow req = .ok out ∧ Reconciled out
  rowAbsent : ∀ req, ∃ out, ctx.reconcileRowAbsent req = .ok out ∧ Reconciled out
  relational : ∀ check, SumColumnGiven check →
    ∃ out, ctx.reconcileRelationalCheck check = .ok out ∧ Reconciled out
  witness : ∀ req, ∃ out, ctx.reconcileStateWitness req = .ok out ∧ Reconciled out

section Contexts

variable (tables : TextTables) (db : SqlConnection)

theorem reconcileSqlRowAbsent_spec (req : RowAbsentVerificationRequest) :
    ∃ out, reconcileSqlRowAbsent tables db req = .ok out ∧ Reconciled out :=
  rowAbsentOutput_spec rowAbsentRun_answered

theorem createSqlitePolicyContext_serves :
    (createSqlitePolicyContext tables db).Serves where
  row req := reconcileSqlRowAsync_spec .sqlite db req
  rowAbsent req := reconcileSqlRowAbsent_spec tables db req
  relational _ h := reconcileRelationalQuery_spec .sqlite db h
  witness _ := ⟨_, rfl, reconciled_output _ _ (by decide)⟩

theorem witnessUnavailable_reconciled (request : StateWitnessRequest) :
    Reconciled (witnessUnavailable request) := by
  have hcode : SqlVerificationOutcomeCode.stateWitnessUnavailableInSqliteFileMode ∈
      reconcilerCodes .incompleteVerification := by decide
  exact .inr ⟨_, hcode, _, none, rfl⟩

theorem syncContext_serves :
    (syncContext (sqliteReconcilers tables db)).Serves where
  row req := reconcileSqlRowAsync_spec .sqlite db req
  rowAbsent req := reconcileSqlRowAbsent_spec tables db req
  relational _ h := reconcileRelationalQuery_spec .sqlite db h
  witness req := ⟨_, rfl, witnessUnavailable_reconciled req⟩

theorem remotePolicyContext_serves (dialect : SqlRowDialect)
    (world : WitnessWorld) :
    (remotePolicyContext tables dialect db world).Serves where
  row req := reconcileSqlRowAsync_spec dialect db req
  rowAbsent _ := rowAbsentOutput_spec rowAbsentRun_answered
  relational _ h := reconcileRelationalQuery_spec dialect db h
  witness req := ⟨_, rfl, reconcileStateWitness_reconciled world req⟩

end Contexts

/-! ### The strong branch -/

theorem reconcileItems_total {α : Type} {id : α → String}
    {reconcile : ℕ → α → Except String ReconcileOutput} {items : List α}
    (h : ∀ i, ∀ item ∈ items, ∃ out, reconcile i item = .ok out) :
    ∃ rows, reconcileItems id reconcile items = .ok rows := by
  have hrows : ∀ item ∈ items.zipIdx, ∃ row,
      reconciledRow id (reconcile item.2) item.1 = .ok row ∧ True := by
    intro item hitem
    have hmem : item.1 ∈ items := by
      obtain ⟨-, -, hget⟩ := List.mem_zipIdx hitem
      rw [hget]
      exact List.getElem_mem _
    obtain ⟨out, hout⟩ := h item.2 item.1 hmem
    exact ⟨_, bind_eq_ok.mpr ⟨out, hout, rfl⟩, trivial⟩
  obtain ⟨rows, hok, -⟩ := exists_mapM_eq_ok hrows
  exact ⟨rows, hok⟩

theorem executeOne_spec {α : Type}
    {reconcile : α → Except String ReconcileOutput} {request : α}
    {payload : ResolvedRequest}
    (h : ∃ out, reconcile request = .ok out ∧ Reconciled out) :
    ∃ out, executeOne reconcile request payload = .ok out ∧
      Executed out.status out.reasons := by
  obtain ⟨out, hout, hreconciled⟩ := h
  exact ⟨_, bind_eq_ok.mpr ⟨out, hout, rfl⟩, hreconciled.executed⟩

theorem executeItemsStrong_spec {α : Type} {id : α → String}
    {reconcile : ℕ → α → Except String ReconcileOutput} {items : List α}
    {request : ResolvedRequest}
    (h : ∀ i, ∀ item ∈ items, ∃ out, reconcile i item = .ok out) :
    ∃ out, executeItemsStrong id reconcile items request = .ok out ∧
      Executed out.status out.reasons := by
  obtain ⟨rows, hrows⟩ : ∃ rows, reconcileItems id reconcile items = .ok rows :=
    reconcileItems_total h
  exact ⟨_, bind_eq_ok.mpr ⟨rows, hrows, rfl⟩,
    computeMultiCheckRollupStatus_executed _⟩

/-- Whatever can be sent is executed, and as `Executed` says. -/
theorem executeVerificationStrongAt_spec {context : ℕ → PolicyReconcileContext}
    (hcontext : ∀ i, (context i).Serves) {request : ResolvedRequest}
    (hrequest : Sendable request) :
    ∃ out, executeVerificationStrongAt context request = .ok out ∧
      Executed out.status out.reasons := by
  rcases request with request | request | effects | checks | request
  · exact executeOne_spec ((hcontext 0).row request)
  · exact executeOne_spec ((hcontext 0).rowAbsent request)
  · apply executeItemsStrong_spec
    intro i effect _
    obtain ⟨out, hout, -⟩ := (hcontext i).row effect.request
    exact ⟨out, hout⟩
  · have hitems : ∀ i, ∀ check ∈ checks, ∃ out,
        (context i).reconcileRelationalCheck check = .ok out := by
      intro i check hcheck
      obtain ⟨out, hout, -⟩ := (hcontext i).relational check (hrequest check hcheck)
      exact ⟨out, hout⟩
    rcases checks with _ | ⟨check, _ | ⟨next, rest⟩⟩
    · exact executeItemsStrong_spec hitems
    · apply executeOne_spec
      exact (hcontext 0).relational check (hrequest check List.mem_cons_self)
    · exact executeItemsStrong_spec hitems
  · exact executeOne_spec ((hcontext 0).witness request)

/-! ### Polling -/

section Eventual

variable {policy : VerificationPolicy} {session : VerificationSession}

/-- The window is over at one of the attempts that the session is followed for. -/
def WindowEnds (policy : VerificationPolicy) (now : ℕ → ℤ) (attempts : ℕ) : Prop :=
  ∃ n, 1 ≤ n ∧ n ≤ attempts ∧
    milliseconds policy.verificationWindowMs ≤ now n - now 0

theorem executeEventual_executes {α : Type} {attempt : ℕ → Except String α}
    {retry : α → Bool} {done : α → PolicyExecutionOutput}
    {uncertain : α → ℕ → ℤ → PolicyExecutionOutput}
    (hdone : ∀ n out, attempt n = .ok out →
      Executed (done out).status (done out).reasons)
    (huncertain : ∀ out n elapsedMs, Executed (uncertain out n elapsedMs).status
      (uncertain out n elapsedMs).reasons) :
    Executes (executeEventual policy session attempt retry done uncertain) := by
  intro result hresult
  obtain ⟨ended, hended, hresult⟩ := bind_eq_ok.mp hresult
  obtain ⟨n, out, -, hout, ⟨-, rfl⟩ | ⟨-, -, rfl⟩⟩ := poll_eq_ok hended
  · cases hresult
    exact hdone n out hout
  · cases hresult
    exact huncertain _ _ _

theorem executeEventual_total {α : Type} {attempt : ℕ → Except String α}
    {retry : α → Bool} {done : α → PolicyExecutionOutput}
    {uncertain : α → ℕ → ℤ → PolicyExecutionOutput}
    (hattempt : ∀ i, ∃ out, attempt i = .ok out)
    (hends : WindowEnds policy session.now session.attempts) :
    ∃ out, executeEventual policy session attempt retry done uncertain =
      .ok out := by
  obtain ⟨n, hpos, hle, hwindow⟩ := hends
  obtain ⟨ended, hended⟩ : ∃ ended, poll attempt retry session.now
      (milliseconds policy.verificationWindowMs) session.attempts 1 = .ok ended :=
    poll_ends hattempt hpos (by omega) hwindow
  rcases ended with out | ⟨last, attempts, elapsedMs⟩
  · exact ⟨_, bind_eq_ok.mpr ⟨_, hended, rfl⟩⟩
  · exact ⟨_, bind_eq_ok.mpr ⟨_, hended, rfl⟩⟩

/-- The two facts about a poll of single calls. -/
theorem executeEventual_one {retry : ReconcileOutput → Bool}
    {attempt : ℕ → Except String ReconcileOutput} {request : ResolvedRequest}
    {uncertain : ReconcileOutput → ℕ → ℤ → PolicyExecutionOutput}
    (hattempt : ∀ i, ∃ out, attempt i = .ok out ∧ Reconciled out)
    (huncertain : ∀ out n elapsedMs, Executed (uncertain out n elapsedMs).status
      (uncertain out n elapsedMs).reasons) :
    Executes (executeEventual policy session attempt retry (outputOf request)
        uncertain) ∧
      (WindowEnds policy session.now session.attempts → ∃ out,
        executeEventual policy session attempt retry (outputOf request) uncertain =
          .ok out) := by
  constructor
  · refine executeEventual_executes ?_ huncertain
    intro n out hout
    obtain ⟨found, hfound, hreconciled⟩ := hattempt n
    obtain rfl : found = out := Except.ok.inj (hfound.symm.trans hout)
    exact hreconciled.executed
  · intro hends
    refine executeEventual_total ?_ hends
    intro i
    obtain ⟨out, hout, -⟩ := hattempt i
    exact ⟨out, hout⟩

theorem executeItemsEventual_spec {α : Type} {id : α → String}
    {reconcile : PolicyReconcileContext → α → Except String ReconcileOutput}
    {items : List α} {request : ResolvedRequest}
    (h : ∀ k i, ∀ item ∈ items, ∃ out,
      reconcile (session.context k i) item = .ok out) :
    Executes (executeItemsEventual policy session id reconcile items request) ∧
      (WindowEnds policy session.now session.attempts → ∃ out,
        executeItemsEventual policy session id reconcile items request =
          .ok out) := by
  constructor
  · apply executeEventual_executes
    · intro n rows _
      exact computeMultiCheckRollupStatus_executed _
    · intro rows n elapsedMs
      exact uncertainOutput_executed _ _ (by decide)
  · intro hends
    refine executeEventual_total ?_ hends
    intro k
    exact reconcileItems_total fun i item hitem => h k i item hitem

theorem buildUncertainOne_executed (message : String) (request : ResolvedRequest)
    (out : ReconcileOutput) (n : ℕ) (elapsedMs : ℤ) :
    Executed (buildUncertainOne message request policy out n elapsedMs).status
      (buildUncertainOne message request policy out n elapsedMs).reasons :=
  uncertainOutput_executed _ _ (by decide)

/-- The polling branch executes as `Executed` says, and ends with the window. -/
theorem executeVerificationWithPolicyAsync_spec
    (hcontext : ∀ k i, (session.context k i).Serves) {request : ResolvedRequest}
    (hrequest : Sendable request)
    (hpolicy : resolveVerificationPolicyInput (some policy) = .ok policy) :
    Executes (executeVerificationWithPolicyAsync policy session request) ∧
      (policy.consistencyMode = .strong ∨
          WindowEnds policy session.now session.attempts →
        ∃ out, executeVerificationWithPolicyAsync policy session request =
          .ok out) := by
  unfold executeVerificationWithPolicyAsync
  simp only [hpolicy, bind_eq_ok, Executes, Except.ok.injEq, exists_eq_left']
  by_cases hstrong : policy.consistencyMode = .strong
  · simp only [if_pos hstrong]
    obtain ⟨out, hout, hexecuted⟩ :=
      executeVerificationStrongAt_spec (hcontext 1) hrequest
    constructor
    · intro found hfound
      obtain rfl : out = found := Except.ok.inj (hout.symm.trans hfound)
      exact hexecuted
    · intro _
      exact ⟨out, hout⟩
  · simp only [hstrong, ↓reduceIte, false_or]
    rcases request with request | request | effects | checks | request
    · exact executeEventual_one (fun k => (hcontext k 0).row request)
        (buildUncertainOne_executed _ _)
    · refine executeEventual_one (fun k => (hcontext k 0).rowAbsent request) ?_
      intro out n elapsedMs
      exact uncertainOutput_executed _ _ (by decide)
    · refine executeItemsEventual_spec ?_
      intro k i effect _
      obtain ⟨out, hout, -⟩ := (hcontext k i).row effect.request
      exact ⟨out, hout⟩
    · have hitems : ∀ k i, ∀ check ∈ checks, ∃ out,
          (session.context k i).reconcileRelationalCheck check = .ok out := by
        intro k i check hcheck
        obtain ⟨out, hout, -⟩ :=
          (hcontext k i).relational check (hrequest check hcheck)
        exact ⟨out, hout⟩
      rcases checks with _ | ⟨check, _ | ⟨next, rest⟩⟩
      · exact executeItemsEventual_spec hitems
      · refine executeEventual_one ?_ (buildUncertainOne_executed _ _)
        intro k
        exact (hcontext k 0).relational check (hrequest check List.mem_cons_self)
      · exact executeItemsEventual_spec hitems
    · exact executeEventual_one (fun k => (hcontext k 0).witness request)
        (buildUncertainOne_executed _ _)

end Eventual

/-! ### All targets -/

/-- A step of the session is over: under a strong policy after one attempt, else
with the window. -/
def DatabaseSession.Ends (s : DatabaseSession) (policy : VerificationPolicy) :
    Prop :=
  policy.consistencyMode = .strong ∨ WindowEnds policy s.now s.attempts

/-- On the targets that are opened, a request that can be sent is executed as
`Executed` says, and once the session is over the execution has a result. -/
theorem executeVerification_spec {tables : TextTables}
    {policy : VerificationPolicy} {database : VerificationDatabaseKind}
    (s : DatabaseSession) {request : ResolvedRequest}
    (hpolicy : resolveVerificationPolicyInput (some policy) = .ok policy)
    (hdatabase : openVerificationTarget database = .ok ())
    (hrequest : Sendable request) :
    Executes (executeVerification tables policy database s request) ∧
      (s.Ends policy → ∃ out,
        executeVerification tables policy database s request = .ok out) := by
  rcases database with _ | _ | _ | _ | _
  · simp only [executeVerification]
    by_cases hstrong : policy.consistencyMode = .strong
    · rw [if_pos hstrong]
      unfold executeVerificationWithPolicySync
      simp only [hpolicy, bind_eq_ok, Executes, Except.ok.injEq, exists_eq_left',
        if_pos hstrong]
      obtain ⟨out, hout, hexecuted⟩ := executeVerificationStrongAt_spec
        (fun i => syncContext_serves tables (s.db 1 i)) hrequest
      constructor
      · intro found hfound
        obtain rfl : out = found := Except.ok.inj (hout.symm.trans hfound)
        exact hexecuted
      · intro _
        exact ⟨out, hout⟩
    · rw [if_neg hstrong]
      exact executeVerificationWithPolicyAsync_spec
        (fun k i => createSqlitePolicyContext_serves tables (s.db k i)) hrequest
        hpolicy
  · exact executeVerificationWithPolicyAsync_spec
      (fun k i => remotePolicyContext_serves tables _ _ _) hrequest hpolicy
  · exact executeVerificationWithPolicyAsync_spec
      (fun k i => remotePolicyContext_serves tables _ _ _) hrequest hpolicy
  · cases hdatabase
  · cases hdatabase

end AgentSkeptic.Engine
