import AgentSkeptic.Hosted.LicenseClient
import Mathlib.Algebra.BigOperators.Group.Finset.Basic

/-!
# Licensed runs over a lossy network

The CLI processes of one account, the two activation routes they call
(`POST /api/v1/usage/reserve` and `POST /api/v1/funnel/verify-outcome`) and the network
between them.  Requests are served in any order, late, repeatedly or never; answers are
lost; transactions are rolled back, or are committed without the route learning of it;
meanwhile keys are created, rotated and revoked and the plan changes.

Whatever happens, a run is charged once at most, a process goes on only with its run
charged, and the outcome of a run is recorded once at most.
-/

namespace AgentSkeptic.Hosted.License

open AgentSkeptic.Support AgentSkeptic.Events

/-! ## Bodies of the answers -/

def ACTIVATION_PROBLEM_BASE : String := "https://agentskeptic.com/problems"

/-- `code.toLowerCase().replace(/_/g, "-")`, of an ASCII code. -/
def problemSlug (code : String) : String :=
  String.ofList (code.toList.map fun c => if c = '_' then '-' else c.toLower)

def reserveDenyText : ReserveDenyCode → String
  | .badRequest => "BAD_REQUEST"
  | .subscriptionInactive => "SUBSCRIPTION_INACTIVE"
  | .enforcementRequiresPaidPlan => "ENFORCEMENT_REQUIRES_PAID_PLAN"
  | .billingPriceUnmapped => "BILLING_PRICE_UNMAPPED"
  | .quotaExceeded => "QUOTA_EXCEEDED"
  | .serverError => "SERVER_ERROR"

def authCodeText : AuthCode → String
  | .unauthorized => "UNAUTHORIZED"
  | .invalidKey => "INVALID_KEY"
  | .keyRevoked => "KEY_REVOKED"
  | .keyDisabled => "KEY_DISABLED"
  | .keyExpired => "KEY_EXPIRED"
  | .insufficientScope => "INSUFFICIENT_SCOPE"

def planText : PlanId → String
  | .starter => "starter"
  | .individual => "individual"
  | .team => "team"
  | .business => "business"
  | .enterprise => "enterprise"

/-- A member that is there when the value is. -/
def optionalText (key : String) (value : Option String) : List (String × Json) :=
  (value.map fun text => (key, Json.str text)).toList

def natJson (n : ℕ) : Json := .num (.int n)

/-- `activationProblemBody`. -/
def activationProblemBody (status : ℕ) (type title detail code : String)
    (location : Option String) : Json :=
  .obj ([("type", .str (ACTIVATION_PROBLEM_BASE ++ "/" ++ type)), ("title", .str title),
    ("status", natJson status), ("detail", .str detail), ("code", .str code)] ++
      optionalText "instance" location)

/-- The problem of `authenticateApiKey`, or of `requireScopes` with the scopes. -/
def authProblemBody (problem : AuthProblem) (requiredScopes : List ApiKeyScope) : Json :=
  activationProblemBody problem.status (problemSlug (authCodeText problem.code))
    (if problem.status = 403 then "Forbidden" else "Unauthorized") problem.detail
    (authCodeText problem.code)
    (if problem.code = .insufficientScope then
      some ("required_scopes=" ++ ",".intercalate (requiredScopes.map ApiKeyScope.text))
    else none)

/-- `activationReserveDeny`. -/
def reserveDenyBody (denial : ReserveDenial) : Json :=
  let code := reserveDenyText denial.code
  .obj ([("type", .str (ACTIVATION_PROBLEM_BASE ++ "/reserve-" ++ problemSlug code)),
    ("title", .str "License reservation denied"), ("status", natJson denial.status),
    ("detail", .str denial.message), ("allowed", .bool false), ("code", .str code),
    ("message", .str denial.message)] ++ optionalText "upgrade_url" denial.upgradeUrl)

def reserveAllowedBody (payload : ReserveAllowed) : Json :=
  .obj [("allowed", .bool true), ("plan", .str (planText payload.plan)),
    ("limit", natJson payload.limit), ("used", natJson payload.used),
    ("included_monthly", (payload.includedMonthly.map natJson).getD .null),
    ("overage_count", natJson payload.overageCount)]

/-- A route answers with the request id that the gateway chose. -/
def reserveAnswer (requestId : String) : ReserveResponse → HttpAnswer
  | .unauthenticated problem =>
      ⟨problem.status, some (authProblemBody problem [.meter]), some requestId⟩
  | .denied denial => ⟨denial.status, some (reserveDenyBody denial), some requestId⟩
  | .allowed payload => ⟨200, some (reserveAllowedBody payload), some requestId⟩

theorem allowedIs_problemBody (status : ℕ) (type title detail code : String)
    (location : Option String) :
    allowedIs true
      (some (activationProblemBody status type title detail code location)) = false := by
  cases location <;>
    simp [allowedIs, activationProblemBody, ownMember, optionalText]

theorem allowedIs_reserveDenyBody (denial : ReserveDenial) :
    allowedIs true (some (reserveDenyBody denial)) = false := by
  simp [allowedIs, reserveDenyBody, ownMember]

/-- Only a reservation allows. -/
theorem exists_allowed_of_allows {requestId : String} {response : ReserveResponse}
    (h : Allows (.answered (reserveAnswer requestId response))) :
    ∃ payload, response = .allowed payload := by
  obtain ⟨-, hallowed⟩ := h
  cases response with
  | unauthenticated problem =>
      simp only [reserveAnswer, authProblemBody, allowedIs_problemBody] at hallowed
      cases hallowed
  | denied denial =>
      simp only [reserveAnswer, allowedIs_reserveDenyBody] at hallowed
      cases hallowed
  | allowed payload => exact ⟨payload, rfl⟩

/-! ## The tables -/

/-- What `verifyOutcomeRequestSchema` requires of the subcommand. -/
inductive OutcomeSubcommand where
  | batchVerify | quickVerify | verifyIntegratorOwned
  | activate (activation : Json)

/-- The other fields of a verify-outcome request, as the schema returns them. -/
structure OutcomeData where
  workflowId : String
  trustDecision : String
  reasonCodes : List String
  terminalStatus : String
  workloadClass : String
  evidenceGapPrimary : String
  subcommand : OutcomeSubcommand

/-- The metadata of a `licensed_verify_outcome` event. -/
structure LicensedVerifyOutcomeMetadata where
  schemaVersion : ℕ
  data : OutcomeData

def buildLicensedVerifyOutcomeMetadata (data : OutcomeData) :
    LicensedVerifyOutcomeMetadata :=
  match data.subcommand with
  | .activate _ => ⟨5, data⟩
  | .batchVerify | .quickVerify | .verifyIntegratorOwned => ⟨4, data⟩

/-- The rows of one account that the two routes read and write. -/
structure LicenseServer where
  account : UsageAccount
  /-- `usage_reservation` with `created_at`. -/
  reservationRows : List ((KeyId × String) × ℤ)
  verifyOutcomeBeacons : List (KeyId × String)
  /-- The `licensed_verify_outcome` rows of `funnel_event`. -/
  licensedVerifyOutcomes : List LicensedVerifyOutcomeMetadata

/-- How a transaction ends. -/
inductive TxFault where
  | none
  /-- It is rolled back, as by a unique violation. -/
  | rolledBack
  /-- It is committed, but the route is told of an error. -/
  | lostCommit
  deriving DecidableEq, Repr

/-- What a route reads of its world while it handles one request. -/
structure ServeWorld where
  now : ℤ
  ym : String
  requestId : String
  fault : TxFault

/-- `parseBearer`; the key is identified with its row. -/
def parseBearer (apiKey : String) : Option KeyId :=
  let rawKey := jsTrim apiKey
  if rawKey = "" then none else some rawKey

/-! ## `POST /api/v1/usage/reserve` -/

/-- The response is that of the transaction. -/
def reachesTransaction : ReserveResponse → Bool
  | .unauthenticated _ => false
  | .denied denial => denial.code = .quotaExceeded
  | .allowed _ => true

def reservationFailed (requestId : String) : HttpAnswer :=
  reserveAnswer requestId (.denied
    { status := 503
      code := .serverError
      message := "Reservation failed." })

/-- The rows that the transaction inserted carry its time. -/
def LicenseServer.withAccount (s : LicenseServer) (a : UsageAccount) (now : ℤ) :
    LicenseServer :=
  { s with
    account := a
    reservationRows := s.reservationRows ++
      (a.usageReservations.drop s.account.usageReservations.length).map (·, now) }

def serveReserve (d : UsageDeployment) (s : LicenseServer) (apiKey : String)
    (body : ReserveBody) (w : ServeWorld) : LicenseServer × HttpAnswer :=
  let out := reserve d w.ym s.account (parseBearer apiKey) (some body) w.now
  let after := s.withAccount out.1 w.now
  if reachesTransaction out.2 then
    match w.fault with
    | .none => (after, reserveAnswer w.requestId out.2)
    | .rolledBack => (s, reservationFailed w.requestId)
    | .lostCommit => (after, reservationFailed w.requestId)
  else (after, reserveAnswer w.requestId out.2)

/-! ## `POST /api/v1/funnel/verify-outcome` -/

def VERIFY_OUTCOME_BEACON_MAX_RESERVATION_AGE_MS : ℤ := 6 * 60 * 60 * 1000

def outcomeProblem (requestId : String) (status : ℕ) (type title detail code : String) :
    HttpAnswer :=
  ⟨status, some (activationProblemBody status type title detail code none),
    some requestId⟩

def activationNoContent (requestId : String) : HttpAnswer := ⟨204, none, some requestId⟩

/-- `INSERT ... ON CONFLICT DO NOTHING`, and the event where a row was inserted. -/
def LicenseServer.recordOutcome (s : LicenseServer) (key : KeyId × String)
    (data : OutcomeData) : LicenseServer :=
  if s.verifyOutcomeBeacons.contains key then s
  else
    { s with
      verifyOutcomeBeacons := s.verifyOutcomeBeacons ++ [key]
      licensedVerifyOutcomes :=
        s.licensedVerifyOutcomes ++ [buildLicensedVerifyOutcomeMetadata data] }

/-- After the reservation was found. -/
def recordOutcomeOf (s : LicenseServer) (key : KeyId × String) (data : OutcomeData)
    (createdAt : ℤ) (w : ServeWorld) : LicenseServer × HttpAnswer :=
  if VERIFY_OUTCOME_BEACON_MAX_RESERVATION_AGE_MS < w.now - createdAt then
    (s, outcomeProblem w.requestId 410 "gone" "Gone"
      "Reservation is too old to accept a verify-outcome beacon." "RESERVATION_EXPIRED")
  else
    let failed := outcomeProblem w.requestId 503 "server-error" "Service unavailable"
      "Could not record verify-outcome beacon." "SERVER_ERROR"
    match w.fault with
    | .none => (s.recordOutcome key data, activationNoContent w.requestId)
    | .rolledBack => (s, failed)
    | .lostCommit => (s.recordOutcome key data, failed)

/-- `data` is `none` where another field fails the schema. -/
def serveVerifyOutcome (s : LicenseServer) (apiKey runId : String)
    (data : Option OutcomeData) (w : ServeWorld) : LicenseServer × HttpAnswer :=
  let length := (utf16 runId).length
  match if 1 ≤ length ∧ length ≤ 256 then data else none with
  | none =>
      (s, outcomeProblem w.requestId 400 "bad-request" "Bad request"
        "Request body failed validation." "VALIDATION_FAILED")
  | some data =>
      match authenticateApiKey s.account (parseBearer apiKey) w.now with
      | .error problem =>
          (s, ⟨problem.status, some (authProblemBody problem [.report]),
            some w.requestId⟩)
      | .ok (apiKeyId, scopes) =>
          match requireScopes scopes [.report] with
          | .error problem =>
              (s, ⟨problem.status, some (authProblemBody problem [.report]),
                some w.requestId⟩)
          | .ok () =>
              match s.reservationRows.find? (·.1 = (apiKeyId, runId)) with
              | none =>
                  (s, outcomeProblem w.requestId 404 "not-found" "Not found"
                    "No usage reservation matches this run_id for this API key."
                    "RESERVATION_NOT_FOUND")
              | some row => recordOutcomeOf s (apiKeyId, runId) data row.2 w

/-! ## The system -/

/-- A process that reports the outcome of its run. -/
structure OutcomeBeacon where
  env : LicenseEnv
  runId : Option String
  data : Option OutcomeData

/-- The key and the run id of the request that `postVerifyOutcomeBeacon` sends. -/
def OutcomeBeacon.request (b : OutcomeBeacon) : Option (String × String) :=
  if b.env.preflightEnabled then
    match b.runId, resolveApiKey b.env with
    | some runId, some apiKey => some (apiKey, runId)
    | _, _ => none
  else none

inductive LicenseCall where
  | preflight (p : Preflight)
  | outcome (b : OutcomeBeacon)

/-- What a process ends with: of a preflight what it returns or throws. -/
inductive LicenseResult where
  | preflight (result : Except TruthLayerError (Option String))
  | posted

/-- An outcome is posted once, and every error is ignored. -/
def LicenseCall.result : LicenseCall → List FetchOutcome → Option LicenseResult
  | .preflight p, outcomes => (runLicensePreflightIfNeeded p outcomes).map .preflight
  | .outcome b, outcomes =>
      if b.request.isNone ∨ outcomes ≠ [] then some .posted else none

/-- The route that serves a request; a process without a key sends none. -/
def LicenseCall.serve (d : UsageDeployment) (s : LicenseServer) (call : LicenseCall)
    (w : ServeWorld) : LicenseServer × HttpAnswer :=
  match call with
  | .preflight p => serveReserve d s (p.apiKey.getD "") p.body w
  | .outcome b =>
      let request := b.request.getD ("", "")
      serveVerifyOutcome s request.1 request.2 b.data w

/-- What else changes the account. -/
inductive AccountEvent where
  | createKey (scopes : List ApiKeyScope) (expiresAt : Option ℤ) (newId : KeyId)
  | rotateKey (keyId : KeyId) (expiresAtOverride : Option ℤ) (newId : KeyId) (now : ℤ)
  | revokeKey (keyId : KeyId) (now : ℤ)
  | setUser (user : UserRow)

def AccountEvent.apply (a : UsageAccount) : AccountEvent → UsageAccount
  | .createKey scopes expiresAt newId =>
      (createApiKeyForUser a scopes expiresAt newId).getD a
  | .rotateKey keyId expiresAtOverride newId now =>
      (rotateApiKeyForUser a keyId expiresAtOverride newId now).getD a
  | .revokeKey keyId now => (revokeApiKeyForUser a keyId now).1
  | .setUser user => { a with user }

/-- What a process is told without an answer of the routes: an error of `fetch`, or any
answer of a gateway that is not a success. -/
def foreignOutcome : FetchOutcome → Bool
  | .threw _ => true
  | .answered answer => !answer.ok

/-- The processes `calls` and the server of one account. -/
def licensedRuns {ι : Type} (d : UsageDeployment) (calls : ι → LicenseCall) :
    Calls ι LicenseServer ServeWorld AccountEvent FetchOutcome LicenseResult where
  serve s i w :=
    let out := (calls i).serve d s w
    (out.1, .answered out.2)
  other s event := { s with account := event.apply s.account }
  foreign := foreignOutcome
  result i outcomes := (calls i).result outcomes

/-! ## The ledger -/

/-- The counters of a key add up to `total` over all months. -/
def CountedInMonths (a : UsageAccount) (id : KeyId) (total : ℕ) : Prop :=
  ∃ months : Finset String, (∀ ym, ym ∉ months → a.counted ym id = 0) ∧
    ∑ ym ∈ months, a.counted ym id = total

/-- The reservations of a key. -/
def reservationsOf (a : UsageAccount) (id : KeyId) : List (KeyId × String) :=
  a.usageReservations.filter (·.1 = id)

/-- A run is reserved once and counted once on its key. -/
structure Ledger (a : UsageAccount) : Prop where
  nodup : a.usageReservations.Nodup
  counted : ∀ id, CountedInMonths a id (reservationsOf a id).length

/-- What `reserve` does to the ledger in the month `ym`: nothing, or one run is reserved
and counted. -/
inductive LedgerStep (ym : String) (a a' : UsageAccount) : Prop where
  | same (hreserved : a'.usageReservations = a.usageReservations)
      (hcounted : ∀ ym' id, a'.counted ym' id = a.counted ym' id)
  | charge (key : KeyId) (runId : String)
      (hfresh : (key, runId) ∉ a.usageReservations)
      (hreserved : a'.usageReservations = a.usageReservations ++ [(key, runId)])
      (hcounted : ∀ ym' id, a'.counted ym' id =
        if id = key ∧ ym' = ym then a.counted ym key + 1 else a.counted ym' id)

section Ledger

variable {a a' : UsageAccount} {ym : String}

theorem counted_setCounter_of (a : UsageAccount) (key id : KeyId) (ym ym' : String)
    (count : ℕ) :
    (a.setCounter key ym count).counted ym' id =
      if id = key ∧ ym' = ym then count else a.counted ym' id := by
  by_cases hid : id = key
  · by_cases hym : ym' = ym
    · simp [UsageAccount.counted, UsageAccount.setCounter, hid, hym]
    · simp [UsageAccount.counted, UsageAccount.setCounter, hid, hym]
  · simp [UsageAccount.counted, UsageAccount.setCounter, hid]

/-- A counter row that is missing counts zero. -/
theorem counted_setCounter_zero {key : KeyId} (h : a.usageCounters key ym = none)
    (ym' : String) (id : KeyId) :
    (a.setCounter key ym 0).counted ym' id = a.counted ym' id := by
  rw [counted_setCounter_of]
  split
  · rename_i heq
    rw [heq.1, heq.2, UsageAccount.counted, h, Option.getD_none]
  · rfl

/-- The account with the counter row of the key in place. -/
def withCounterRow (a : UsageAccount) (key : KeyId) (ym : String) : UsageAccount :=
  match a.usageCounters key ym with
  | none => a.setCounter key ym 0
  | some _ => a

/-- The transaction from there on. -/
def chargeRun (a : UsageAccount) (keyIds : List KeyId) (key : KeyId) (runId ym : String)
    (plan : PlanDefinition) : UsageAccount × ReserveResult :=
  if computeAllowedNext
      ⟨a.sumCounters ym keyIds, plan.includedMonthly, plan.allowOverage⟩ then
    let charged :=
      { a with usageReservations := a.usageReservations ++ [(key, runId)] }.setCounter key
        ym (a.counted ym key + 1)
    (charged, .ok (charged.sumCounters ym keyIds) false)
  else (a, .quotaExceeded)

theorem reserveTransaction_eq (a : UsageAccount) (key : KeyId) (runId ym : String)
    (plan : PlanDefinition) :
    reserveTransaction a key runId ym plan =
      if (key, runId) ∈ a.usageReservations then
        (a, .ok (a.sumCounters ym (a.reserveKeyIds key)) true)
      else chargeRun (withCounterRow a key ym) (a.reserveKeyIds key) key runId ym plan := by
  rw [reserveTransaction, withCounterRow]
  cases a.usageCounters key ym <;> rfl

theorem withCounterRow_spec (a : UsageAccount) (key : KeyId) (ym : String) :
    (withCounterRow a key ym).usageReservations = a.usageReservations ∧
      ∀ ym' id, (withCounterRow a key ym).counted ym' id = a.counted ym' id := by
  rw [withCounterRow]
  split
  · rename_i hrow
    exact ⟨rfl, counted_setCounter_zero hrow⟩
  · exact ⟨rfl, fun _ _ => rfl⟩

/-- Where the transaction answers `ok`, the run is reserved. -/
theorem reserveTransaction_ledger (a : UsageAccount) (key : KeyId) (runId ym : String)
    (plan : PlanDefinition) :
    LedgerStep ym a (reserveTransaction a key runId ym plan).1 ∧
      (∀ x ∈ (reserveTransaction a key runId ym plan).1.usageReservations,
        x ∈ a.usageReservations ∨ x = (key, runId)) ∧
      ∀ usedTotal duplicate,
        (reserveTransaction a key runId ym plan).2 = .ok usedTotal duplicate →
        (key, runId) ∈ (reserveTransaction a key runId ym plan).1.usageReservations := by
  obtain ⟨hreserved, hcounted⟩ := withCounterRow_spec a key ym
  rw [reserveTransaction_eq]
  by_cases hdup : (key, runId) ∈ a.usageReservations
  · rw [if_pos hdup]
    exact ⟨.same rfl fun _ _ => rfl, fun x hx => .inl hx, fun _ _ _ => hdup⟩
  · rw [if_neg hdup, chargeRun]
    split
    · refine ⟨.charge key runId hdup ?_ ?_, ?_, ?_⟩
      · rw [← hreserved]
        rfl
      · intro ym' id
        rw [counted_setCounter_of, ← hcounted ym key, ← hcounted ym' id]
        rfl
      · intro x hx
        rcases List.mem_append.mp hx with hold | hnew
        · exact .inl (hreserved ▸ hold)
        · exact .inr (List.mem_singleton.mp hnew)
      · exact fun _ _ _ => List.mem_append_right _ (List.mem_singleton_self _)
    · refine ⟨.same hreserved hcounted, fun x hx => .inl (hreserved ▸ hx), ?_⟩
      intro usedTotal duplicate hok
      cases hok

theorem authenticateApiKey_key {bearer : Option KeyId} {now : ℤ} {key : KeyId}
    {scopes : List ApiKeyScope}
    (h : authenticateApiKey a bearer now = .ok (key, scopes)) : bearer = some key := by
  unfold authenticateApiKey at h
  split at h
  · cases h
  · split at h
    · split_ifs at h
      exact congrArg some (Prod.mk.inj (Except.ok.inj h)).1
    · split_ifs at h
      exact congrArg some (Prod.mk.inj (Except.ok.inj h)).1

theorem checkReserveBody_runId {d : UsageDeployment} {body : ReserveBody} {now : ℤ}
    {intent : ReserveIntent} {runId : String}
    (h : checkReserveBody d (some body) now = .ok (intent, runId)) :
    runId = (body.runId.map jsTrim).getD "" := by
  unfold checkReserveBody at h
  dsimp only at h
  split at h
  · cases h
  · split_ifs at h
    split at h
    · cases h
    · split_ifs at h
      exact (Prod.mk.inj (Except.ok.inj h)).2.symm

/-- What a reserve request of `bearer` for `runId` does to the account. -/
structure ReserveStep (ym : String) (a : UsageAccount) (bearer : Option KeyId)
    (runId : String) (out : UsageAccount × ReserveResponse) : Prop where
  step : LedgerStep ym a out.1
  new : ∀ x ∈ out.1.usageReservations,
    x ∈ a.usageReservations ∨ (bearer = some x.1 ∧ x.2 = runId)
  allowed : ∀ payload, out.2 = .allowed payload →
    ∃ key, bearer = some key ∧ (key, runId) ∈ out.1.usageReservations

theorem ReserveStep.refused {bearer : Option KeyId} {runId : String}
    {response : ReserveResponse} (h : ∀ payload, response ≠ .allowed payload) :
    ReserveStep ym a bearer runId (a, response) where
  step := .same rfl fun _ _ => rfl
  new _ hx := .inl hx
  allowed payload hallowed := absurd hallowed (h payload)

/-- `POST /api/v1/usage/reserve` reserves the run of its request or none. -/
theorem reserve_ledger (d : UsageDeployment) (ym : String) (a : UsageAccount)
    (bearer : Option KeyId) (body : ReserveBody) (now : ℤ) :
    ReserveStep ym a bearer ((body.runId.map jsTrim).getD "")
      (reserve d ym a bearer (some body) now) := by
  unfold reserve
  split
  · exact .refused (by simp)
  · rename_i key scopes hauth
    have hbearer := authenticateApiKey_key hauth
    split
    · exact .refused (by simp)
    · split
      · exact .refused (by simp)
      · rename_i intent runId hbody
        obtain rfl := checkReserveBody_runId hbody
        split
        · exact .refused (by simp)
        · rename_i planId hplan
          obtain ⟨hstep, hnew, hok⟩ := reserveTransaction_ledger a key
            ((body.runId.map jsTrim).getD "") ym (d.plans planId)
          dsimp only
          split
          · rename_i a' usedTotal duplicate htransaction
            rw [htransaction] at hstep hnew hok
            refine ⟨hstep, fun x hx => (hnew x hx).imp_right ?_, fun _ _ =>
              ⟨key, hbearer, hok usedTotal duplicate rfl⟩⟩
            rintro rfl
            exact ⟨hbearer, rfl⟩
          · rename_i a' htransaction
            rw [htransaction] at hstep hnew
            refine ⟨hstep, fun x hx => (hnew x hx).imp_right ?_, by simp⟩
            rintro rfl
            exact ⟨hbearer, rfl⟩

theorem LedgerStep.mono (h : LedgerStep ym a a') {x : KeyId × String}
    (hx : x ∈ a.usageReservations) : x ∈ a'.usageReservations := by
  cases h with
  | same hreserved hcounted => exact hreserved ▸ hx
  | charge key runId hfresh hreserved hcounted =>
      exact hreserved ▸ List.mem_append_left _ hx

/-- One run more on one key in one month. -/
theorem Ledger.step (h : Ledger a) (hstep : LedgerStep ym a a') : Ledger a' := by
  cases hstep with
  | same hreserved hcounted =>
      refine ⟨hreserved ▸ h.nodup, fun id => ?_⟩
      have hcount := h.counted id
      simp only [CountedInMonths, reservationsOf, hreserved, hcounted] at hcount ⊢
      exact hcount
  | charge key runId hfresh hreserved hcounted =>
      refine ⟨?_, fun id => ?_⟩
      · rw [hreserved, List.nodup_append_comm]
        exact List.nodup_cons.mpr ⟨hfresh, h.nodup⟩
      · obtain ⟨months, houtside, hsum⟩ := h.counted id
        by_cases hid : id = key
        · subst hid
          refine ⟨insert ym months, fun ym' hym' => ?_, ?_⟩
          · have hne : ym' ≠ ym := by
              rintro rfl
              exact hym' (Finset.mem_insert_self ym' months)
            rw [hcounted, if_neg (by simp [hne])]
            exact houtside ym' fun hmem => hym' (Finset.mem_insert_of_mem hmem)
          · -- The month is counted in the old sum, whether it was there or not.
            have hold : ∑ ym' ∈ insert ym months, a.counted ym' id =
                (reservationsOf a id).length := by
              rw [← hsum]
              exact Finset.sum_insert_of_eq_zero_if_notMem (houtside ym)
            have hrest : ∑ ym' ∈ (insert ym months).erase ym, a'.counted ym' id =
                ∑ ym' ∈ (insert ym months).erase ym, a.counted ym' id := by
              refine Finset.sum_congr rfl fun ym' hym' => ?_
              rw [hcounted, if_neg (by simp [Finset.ne_of_mem_erase hym'])]
            have hmonth : a'.counted ym id = a.counted ym id + 1 := by
              rw [hcounted, if_pos ⟨rfl, rfl⟩]
            have hmem := Finset.mem_insert_self ym months
            have hlength : (reservationsOf a' id).length =
                (reservationsOf a id).length + 1 := by
              simp [reservationsOf, hreserved]
            rw [hlength, ← hold, ← Finset.add_sum_erase _ _ hmem, hrest, hmonth,
              ← Finset.add_sum_erase _ (fun ym' => a.counted ym' id) hmem]
            omega
        · refine ⟨months, fun ym' hym' => ?_, ?_⟩
          · rw [hcounted, if_neg (by simp [hid])]
            exact houtside ym' hym'
          · have hsame : reservationsOf a' id = reservationsOf a id := by
              simp [reservationsOf, hreserved, Ne.symm hid]
            rw [hsame, ← hsum]
            refine Finset.sum_congr rfl fun ym' _ => ?_
            rw [hcounted, if_neg (by simp [hid])]

end Ledger

/-- What else changes the account does not touch the ledger. -/
theorem accountEvent_ledger (a : UsageAccount) (event : AccountEvent) :
    (event.apply a).usageReservations = a.usageReservations ∧
      (event.apply a).usageCounters = a.usageCounters := by
  have hinsert {a a' : UsageAccount} {id : KeyId} {key : ApiKeyV2}
      (h : a.insertKey id key = some a') :
      a'.usageReservations = a.usageReservations ∧
        a'.usageCounters = a.usageCounters := by
    obtain ⟨-, rfl⟩ := UsageAccount.insertKey_eq_some h
    exact ⟨rfl, rfl⟩
  cases event with
  | createKey scopes expiresAt newId =>
      rw [AccountEvent.apply, createApiKeyForUser]
      cases h : a.insertKey newId { status := .active, scopes, expiresAt } with
      | none => exact ⟨rfl, rfl⟩
      | some a' => exact hinsert h
  | rotateKey keyId expiresAtOverride newId now =>
      rw [AccountEvent.apply]
      cases h : rotateApiKeyForUser a keyId expiresAtOverride newId now with
      | none => exact ⟨rfl, rfl⟩
      | some a' =>
          rw [rotateApiKeyForUser] at h
          split at h
          · split_ifs at h
            obtain ⟨a₁, ha₁, rfl⟩ := Option.map_eq_some_iff.mp h
            exact ⟨(hinsert ha₁).1, (hinsert ha₁).2⟩
          · cases h
  | revokeKey keyId now =>
      rw [AccountEvent.apply, revokeApiKeyForUser]
      split
      · split <;> exact ⟨rfl, rfl⟩
      · exact ⟨rfl, rfl⟩
  | setUser user => exact ⟨rfl, rfl⟩

/-! ## What the routes keep -/

/-- The invariant of the tables. -/
structure LicenseServer.Kept (s : LicenseServer) : Prop where
  ledger : Ledger s.account
  rows : s.reservationRows.map (·.1) = s.account.usageReservations
  beacons : s.verifyOutcomeBeacons.Nodup
  reserved : s.verifyOutcomeBeacons ⊆ s.account.usageReservations
  recorded : s.licensedVerifyOutcomes.length = s.verifyOutcomeBeacons.length

section Routes

variable {s : LicenseServer}

theorem LicenseServer.Kept.withAccount (h : s.Kept) {ym : String} {a : UsageAccount}
    (hstep : LedgerStep ym s.account a) (now : ℤ) : (s.withAccount a now).Kept := by
  have hsuffix : a.usageReservations = s.account.usageReservations ++
      a.usageReservations.drop s.account.usageReservations.length := by
    cases hstep with
    | same hreserved hcounted => rw [hreserved, List.drop_length, List.append_nil]
    | charge key runId hfresh hreserved hcounted => rw [hreserved, List.drop_left]
  refine ⟨h.ledger.step hstep, ?_, h.beacons, fun x hx => ?_, h.recorded⟩
  · simp only [LicenseServer.withAccount, List.map_append, List.map_map, h.rows]
    rw [hsuffix, List.drop_left]
    simp [Function.comp_def]
  · rw [LicenseServer.withAccount, hsuffix]
    exact List.mem_append_left _ (h.reserved hx)

theorem LicenseServer.Kept.recordOutcome (h : s.Kept) {key : KeyId × String}
    (hkey : key ∈ s.reservationRows.map (·.1)) (data : OutcomeData) :
    (s.recordOutcome key data).Kept := by
  rw [LicenseServer.recordOutcome]
  split
  · exact h
  · rename_i hfresh
    rw [List.contains_iff_mem] at hfresh
    refine ⟨h.ledger, h.rows, ?_, fun x hx => ?_, ?_⟩
    · rw [List.nodup_append_comm]
      exact List.nodup_cons.mpr ⟨hfresh, h.beacons⟩
    · rcases List.mem_append.mp hx with hold | hnew
      · exact h.reserved hold
      · rw [List.mem_singleton.mp hnew]
        exact h.rows ▸ hkey
    · simp [h.recorded]

theorem accountEvent_kept (h : s.Kept) (event : AccountEvent) :
    { s with account := event.apply s.account }.Kept := by
  obtain ⟨hreserved, hcounters⟩ := accountEvent_ledger s.account event
  have hstep : LedgerStep "" s.account (event.apply s.account) :=
    .same hreserved fun ym' id => by
      rw [UsageAccount.counted, hcounters, UsageAccount.counted]
  exact ⟨h.ledger.step hstep, hreserved ▸ h.rows, h.beacons,
    fun x hx => hreserved ▸ h.reserved hx, h.recorded⟩

end Routes

/-! ## What a request can do -/

/-- The reservation that a preflight asks for. -/
def Preflight.run (p : Preflight) : KeyId × String :=
  (jsTrim (p.apiKey.getD ""), jsTrim p.runId)

/-- The run whose outcome a process reports. -/
def OutcomeBeacon.run (b : OutcomeBeacon) : KeyId × String :=
  (jsTrim (b.request.getD ("", "")).1, (b.request.getD ("", "")).2)

theorem parseBearer_eq_some {apiKey : String} {key : KeyId}
    (h : parseBearer apiKey = some key) : key = jsTrim apiKey := by
  rw [parseBearer] at h
  split_ifs at h
  exact (Option.some.inj h).symm

/-- What serving a request does: a preflight is refused, or its run is reserved where one
is; an outcome is recorded or not. -/
inductive Served (s : LicenseServer) (w : ServeWorld) :
    LicenseCall → LicenseServer × HttpAnswer → Prop
  | refused (p : Preflight) (answer : HttpAnswer) (hdenied : ¬Allows (.answered answer)) :
      Served s w (.preflight p) (s, answer)
  | reserved (p : Preflight) (a : UsageAccount) (answer : HttpAnswer)
      (hstep : LedgerStep w.ym s.account a)
      (hnew : ∀ x ∈ a.usageReservations, x ∈ s.account.usageReservations ∨ x = p.run)
      (hallows : Allows (.answered answer) → p.run ∈ a.usageReservations) :
      Served s w (.preflight p) (s.withAccount a w.now, answer)
  | ignored (b : OutcomeBeacon) (answer : HttpAnswer) : Served s w (.outcome b) (s, answer)
  | recorded (b : OutcomeBeacon) (data : OutcomeData) (answer : HttpAnswer)
      (hrow : b.run ∈ s.reservationRows.map (·.1)) :
      Served s w (.outcome b) (s.recordOutcome b.run data, answer)

theorem serveReserve_served (d : UsageDeployment) (s : LicenseServer) (p : Preflight)
    (w : ServeWorld) :
    Served s w (.preflight p) (serveReserve d s (p.apiKey.getD "") p.body w) := by
  have h := reserve_ledger d w.ym s.account (parseBearer (p.apiKey.getD "")) p.body w.now
  rw [serveReserve]
  generalize reserve d w.ym s.account (parseBearer (p.apiKey.getD "")) (some p.body)
    w.now = out at h ⊢
  have hnew : ∀ x ∈ out.1.usageReservations,
      x ∈ s.account.usageReservations ∨ x = p.run := by
    intro x hx
    refine (h.new x hx).imp_right ?_
    rintro ⟨hkey, hrun⟩
    exact Prod.ext (parseBearer_eq_some hkey) hrun
  have hallows (hallowed : Allows (.answered (reserveAnswer w.requestId out.2))) :
      p.run ∈ out.1.usageReservations := by
    obtain ⟨payload, hpayload⟩ := exists_allowed_of_allows hallowed
    obtain ⟨key, hkey, hmem⟩ := h.allowed payload hpayload
    rw [parseBearer_eq_some hkey] at hmem
    exact hmem
  have hfailed : ¬Allows (.answered (reservationFailed w.requestId)) := by
    intro h
    obtain ⟨payload, hpayload⟩ := exists_allowed_of_allows h
    cases hpayload
  split
  · cases w.fault with
    | none => exact .reserved p _ _ h.step hnew hallows
    | rolledBack => exact .refused p _ hfailed
    | lostCommit => exact .reserved p _ _ h.step hnew fun h => absurd h hfailed
  · exact .reserved p _ _ h.step hnew hallows

theorem serveVerifyOutcome_served (s : LicenseServer) (b : OutcomeBeacon) (w : ServeWorld) :
    Served s w (.outcome b) (serveVerifyOutcome s (b.request.getD ("", "")).1
      (b.request.getD ("", "")).2 b.data w) := by
  rw [serveVerifyOutcome]
  split
  · exact .ignored b _
  · rename_i data hdata
    split
    · exact .ignored b _
    · rename_i key scopes hauth
      have hkey := parseBearer_eq_some (authenticateApiKey_key hauth)
      split
      · exact .ignored b _
      · split
        · exact .ignored b _
        · rename_i row hrow
          have hrun : (key, (b.request.getD ("", "")).2) = b.run := Prod.ext hkey rfl
          rw [hrun] at hrow ⊢
          have hrow' : b.run ∈ s.reservationRows.map (·.1) :=
            List.mem_map.mpr ⟨row, List.mem_of_find?_eq_some hrow,
              by simpa using List.find?_some hrow⟩
          rw [recordOutcomeOf]
          split
          · exact .ignored b _
          · cases w.fault with
            | none => exact .recorded b data _ hrow'
            | rolledBack => exact .ignored b _
            | lostCommit => exact .recorded b data _ hrow'

theorem serve_served (d : UsageDeployment) (s : LicenseServer) (call : LicenseCall)
    (w : ServeWorld) : Served s w call (call.serve d s w) := by
  cases call with
  | preflight p => exact serveReserve_served d s p w
  | outcome b => exact serveVerifyOutcome_served s b w

section Steps

variable {s : LicenseServer} {w : ServeWorld} {call : LicenseCall}
  {out : LicenseServer × HttpAnswer}

theorem Served.kept (hout : Served s w call out) (h : s.Kept) : out.1.Kept := by
  cases hout with
  | refused p answer hdenied => exact h
  | ignored b answer => exact h
  | reserved p a answer hstep hnew hallows => exact h.withAccount hstep w.now
  | recorded b data answer hrow => exact h.recordOutcome hrow data

/-- Reservations are never taken back. -/
theorem Served.reserved_mono (hout : Served s w call out) {x : KeyId × String}
    (hx : x ∈ s.account.usageReservations) : x ∈ out.1.account.usageReservations := by
  cases hout with
  | refused p answer hdenied => exact hx
  | ignored b answer => exact hx
  | reserved p a answer hstep hnew hallows => exact hstep.mono hx
  | recorded b data answer hrow =>
      rw [LicenseServer.recordOutcome]
      split <;> exact hx

/-- An answer that allows a preflight is given with its run reserved. -/
theorem Served.allows {p : Preflight} (hout : Served s w (.preflight p) out)
    (h : Allows (.answered out.2)) : p.run ∈ out.1.account.usageReservations := by
  cases hout with
  | refused _ answer hdenied => exact absurd h hdenied
  | reserved _ a answer hstep hnew hallows => exact hallows h

/-- A reservation is made for the run of the request that was served. -/
theorem Served.cause_of_reserved (hout : Served s w call out) {x : KeyId × String}
    (hx : x ∈ out.1.account.usageReservations) :
    x ∈ s.account.usageReservations ∨ ∃ p, call = .preflight p ∧ p.run = x := by
  cases hout with
  | refused p answer hdenied => exact .inl hx
  | ignored b answer => exact .inl hx
  | reserved p a answer hstep hnew hallows =>
      exact (hnew x hx).imp_right fun hrun => ⟨p, rfl, hrun.symm⟩
  | recorded b data answer hrow =>
      rw [LicenseServer.recordOutcome] at hx
      split at hx <;> exact .inl hx

/-- A beacon is recorded for the run of the request that was served. -/
theorem Served.cause_of_beacon (hout : Served s w call out) {x : KeyId × String}
    (hx : x ∈ out.1.verifyOutcomeBeacons) :
    x ∈ s.verifyOutcomeBeacons ∨ ∃ b, call = .outcome b ∧ b.run = x := by
  cases hout with
  | refused p answer hdenied => exact .inl hx
  | ignored b answer => exact .inl hx
  | reserved p a answer hstep hnew hallows => exact .inl hx
  | recorded b data answer hrow =>
      rw [LicenseServer.recordOutcome] at hx
      split at hx
      · exact .inl hx
      · refine (List.mem_append.mp hx).imp_right fun hnew => ?_
        exact ⟨b, rfl, (List.mem_singleton.mp hnew).symm⟩

end Steps

/-! ## Runs -/

/-- The tables of an account that the routes have kept so far. -/
structure LicenseTables where
  server : LicenseServer
  kept : server.Kept

/-- An account with keys and no usage yet. -/
def LicenseTables.unused (user : UserRow) (apiKeysV2 : KeyId → Option ApiKeyV2)
    (apiKeys : List ApiKeyRow) : LicenseTables where
  server := ⟨⟨user, apiKeysV2, apiKeys, fun _ _ => none, []⟩, [], [], []⟩
  kept := ⟨⟨List.nodup_nil, fun _ => ⟨∅, fun _ _ => rfl, rfl⟩⟩, rfl, List.nodup_nil,
    List.nil_subset _, rfl⟩

section Runs

variable {ι : Type} [DecidableEq ι] (d : UsageDeployment) (calls : ι → LicenseCall)
  (tables : LicenseTables)
  (events : List (NetEvent ι ServeWorld AccountEvent FetchOutcome))

/-- The processes and the server after the events. -/
def licensedNet : Net ι LicenseServer FetchOutcome :=
  (Net.start tables.server).run (licensedRuns d calls) events

/-- The tables keep their invariant. -/
theorem licensedNet_kept : (licensedNet d calls tables events).server.Kept :=
  Net.server_invariant (licensedRuns d calls) LicenseServer.Kept
    (fun s i w h => (serve_served d s (calls i) w).kept h) (fun _ event h => accountEvent_kept h event)
    tables.kept events

/-- What a process was told that allows its preflight: its run is reserved. -/
theorem licensedNet_justified :
    (licensedNet d calls tables events).Justified (fun _ o => Allows o)
      fun i s => ∀ p, calls i = .preflight p → p.run ∈ s.account.usageReservations := by
  refine Net.run_justified (fun _ => True) (fun _ _ _ _ => trivial)
    (fun _ _ _ => trivial) ?_ ?_ ?_ ?_ trivial events
  · intro s i w _ hallows p hp
    simp only [licensedRuns, hp] at hallows ⊢
    exact (serve_served d s (.preflight p) w).allows hallows
  · intro s i j w _ hfact p hp
    exact (serve_served d s (calls j) w).reserved_mono (hfact p hp)
  · intro s i event _ hfact p hp
    have hreserved := (accountEvent_ledger s.account event).1
    exact hreserved.symm ▸ hfact p hp
  · intro i o hforeign hallows
    cases o with
    | threw message => exact hallows
    | answered answer =>
        have hok := hallows.1
        simp [licensedRuns, foreignOutcome, hok] at hforeign

/-- Over every run: each run is reserved once and counted once on its key; a process that
goes on with a run id has it reserved; what was reserved was asked for; and a process
asks four times at most. -/
theorem each_run_charged_once :
    Ledger (licensedNet d calls tables events).server.account ∧
      (∀ i p runId, calls i = .preflight p →
        runLicensePreflightIfNeeded p ((licensedNet d calls tables events).seen i) =
          some (.ok (some runId)) →
        runId = p.runId ∧
          p.run ∈ (licensedNet d calls tables events).server.account.usageReservations) ∧
      (∀ x ∈ (licensedNet d calls tables events).server.account.usageReservations,
        x ∈ tables.server.account.usageReservations ∨
          ∃ i p attempt, calls i = .preflight p ∧ p.run = x ∧
            (i, attempt) ∈ (licensedNet d calls tables events).sent) ∧
      ∀ i attempt, (i, attempt) ∈ (licensedNet d calls tables events).sent →
        attempt < 4 := by
  refine ⟨(licensedNet_kept d calls tables events).ledger, ?_, ?_, ?_⟩
  · intro i p runId hp hok
    obtain ⟨hrunId, -, o, ho, hallows⟩ := runLicensePreflight_ok hok
    exact ⟨hrunId, (licensedNet_justified d calls tables events).seen i o ho hallows p hp⟩
  · intro x hx
    have hcause := Net.cause_of_server (licensedRuns d calls)
      (fun s => x ∈ s.account.usageReservations)
      (fun i => ∃ p, calls i = .preflight p ∧ p.run = x)
      (fun s i w h => (serve_served d s (calls i) w).cause_of_reserved h)
      (fun s event h => (accountEvent_ledger s.account event).1 ▸ h)
      tables.server events hx
    rcases hcause with hold | ⟨i, attempt, hsent, p, hp, hrun⟩
    · exact .inl hold
    · exact .inr ⟨i, p, attempt, hp, hrun, hsent⟩
  · intro i attempt hsent
    refine Net.attempt_lt_of_sent (licensedRuns d calls) ?_ tables.server events hsent
    intro j outcomes hlength
    simp only [licensedRuns]
    cases calls j with
    | preflight p =>
        rw [LicenseCall.result, Option.isSome_map]
        exact runLicensePreflight_isSome p hlength
    | outcome b =>
        have hne : outcomes ≠ [] := List.ne_nil_of_length_pos (by omega)
        rw [LicenseCall.result, if_pos (.inr hne)]
        rfl

/-- Over every run: the outcome of a run is recorded once, with one event, only for a
reserved run and only on a report of it. -/
theorem each_outcome_recorded_once :
    (licensedNet d calls tables events).server.verifyOutcomeBeacons.Nodup ∧
      (licensedNet d calls tables events).server.verifyOutcomeBeacons ⊆
        (licensedNet d calls tables events).server.account.usageReservations ∧
      (licensedNet d calls tables events).server.licensedVerifyOutcomes.length =
        (licensedNet d calls tables events).server.verifyOutcomeBeacons.length ∧
      (licensedNet d calls tables events).server.licensedVerifyOutcomes.length ≤
        (licensedNet d calls tables events).server.account.usageReservations.length ∧
      ∀ x ∈ (licensedNet d calls tables events).server.verifyOutcomeBeacons,
        x ∈ tables.server.verifyOutcomeBeacons ∨
          ∃ i b attempt, calls i = .outcome b ∧ b.run = x ∧
            (i, attempt) ∈ (licensedNet d calls tables events).sent := by
  have hkept := licensedNet_kept d calls tables events
  refine ⟨hkept.beacons, hkept.reserved, hkept.recorded, ?_, ?_⟩
  · rw [hkept.recorded]
    exact (List.subperm_of_subset hkept.beacons hkept.reserved).length_le
  · intro x hx
    have hcause := Net.cause_of_server (licensedRuns d calls)
      (fun s => x ∈ s.verifyOutcomeBeacons)
      (fun i => ∃ b, calls i = .outcome b ∧ b.run = x)
      (fun s i w h => (serve_served d s (calls i) w).cause_of_beacon h) (fun s event h => h) tables.server events hx
    rcases hcause with hold | ⟨i, attempt, hsent, b, hb, hrun⟩
    · exact .inl hold
    · exact .inr ⟨i, b, attempt, hb, hrun, hsent⟩

end Runs

end AgentSkeptic.Hosted.License
