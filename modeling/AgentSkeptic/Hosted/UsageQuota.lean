import AgentSkeptic.Support.JsString
import AgentSkeptic.Support.Machine
import Mathlib.Algebra.BigOperators.Group.List.Basic
import Mathlib.Algebra.GroupWithZero.Nat
import Mathlib.Data.Finset.Card
import Mathlib.Logic.Function.Basic

/-!
# Key lifecycle and the monthly quota

`lib/apiKeyLifecycle.ts`, `lib/quotaPolicy.ts`, `lib/usageSnapshot.ts` and
`POST /api/v1/usage/reserve` for one account in one UTC month.  A reservation is
counted on the key that makes it; the cap is compared with the sum over the keys
that are not revoked at that moment.

`quota_kept_iff` says when that is the account-pooled quota of
`docs/commercial.md`: exactly when no key that was counted this month is rotated
or revoked.
-/

namespace AgentSkeptic.Hosted

open AgentSkeptic.Support

/-! ## Plans and quota policy -/

inductive PlanId where
  | starter | individual | team | business | enterprise
  deriving DecidableEq, Repr

/-- `userRow.plan as PlanId`, looked up in the plans file. -/
def PlanId.ofText? : String → Option PlanId
  | "starter" => some .starter
  | "individual" => some .individual
  | "team" => some .team
  | "business" => some .business
  | "enterprise" => some .enterprise
  | _ => none

def paidEnforcementPlanIds : List PlanId :=
  [.individual, .team, .business, .enterprise]

/-- The quota part of an entry of `config/commercial-plans.json`. -/
structure PlanDefinition where
  /-- `none` is unlimited. -/
  includedMonthly : Option ℕ
  allowOverage : Bool

structure QuotaPolicyInput where
  usedTotal : ℕ
  includedMonthly : Option ℕ
  allowOverage : Bool

def computeOverageCount (input : QuotaPolicyInput) : ℕ :=
  match input.includedMonthly with
  | none => 0
  | some includedMonthly => input.usedTotal - includedMonthly

def computeAllowedNext (input : QuotaPolicyInput) : Bool :=
  match input.includedMonthly with
  | none => true
  | some includedMonthly =>
      if input.allowOverage then true else input.usedTotal < includedMonthly

/-- Without overage the cap is compared with what is used already. -/
theorem lt_of_computeAllowedNext {used cap : ℕ}
    (h : computeAllowedNext ⟨used, some cap, false⟩ = true) : used < cap := by
  simpa [computeAllowedNext] using h

/-! ## Entitlement -/

inductive SubscriptionStatus where
  | none | active | inactive
  deriving DecidableEq, Repr

def normalizeSubscriptionStatus : String → Option SubscriptionStatus
  | "none" => some .none
  | "active" => some .active
  | "inactive" => some .inactive
  | _ => Option.none

inductive ReserveIntent where
  | verify | enforce
  deriving DecidableEq, Repr

/-- The `intent` field: absent or `null`, a string, or any other value. -/
inductive RawIntent where
  | missing
  | text (value : String)
  | other

def parseIntent : RawIntent → Option ReserveIntent
  | .missing => some .verify
  | .text "verify" => some .verify
  | .text "enforce" => some .enforce
  | .text _ => none
  | .other => none

inductive ReserveDenyCode where
  | badRequest | subscriptionInactive | enforcementRequiresPaidPlan
  | billingPriceUnmapped | quotaExceeded | serverError
  deriving DecidableEq, Repr

/-- `none` is `proceedToQuota: true`. -/
def resolveCommercialEntitlement (planId : PlanId)
    (subscriptionStatus : SubscriptionStatus) (intent : ReserveIntent)
    (emergencyAllow : Bool) : Option ReserveDenyCode :=
  if intent = .enforce ∧ planId = .starter then
    some .enforcementRequiresPaidPlan
  else if intent = .verify ∧ planId = .starter then
    none
  else
    let paid := planId ∈ paidEnforcementPlanIds
    let effectiveActive :=
      (subscriptionStatus = .active) ∨ (paid ∧ emergencyAllow = true)
    if intent = .enforce ∧ paid ∧ ¬effectiveActive then
      some .subscriptionInactive
    else if intent = .verify ∧ paid ∧ ¬effectiveActive then
      some .subscriptionInactive
    else
      none

/-! ## The account -/

abbrev KeyId := String

inductive KeyStatus where
  | active | revoked | disabled
  deriving DecidableEq, Repr

inductive ApiKeyScope where
  | read | meter | report | admin
  deriving DecidableEq, Repr

def ApiKeyScope.text : ApiKeyScope → String
  | .read => "read"
  | .meter => "meter"
  | .report => "report"
  | .admin => "admin"

/-- A row of `api_key_v2`, without its label and hashes. -/
structure ApiKeyV2 where
  status : KeyStatus
  scopes : List ApiKeyScope
  expiresAt : Option ℤ

/-- A row of the legacy table `api_key`, which the usage tables refer to. -/
structure ApiKeyRow where
  id : KeyId
  revokedAt : Option ℤ

structure UserRow where
  plan : String
  subscriptionStatus : String
  stripePriceId : Option String

/-- The rows of one user. -/
structure UsageAccount where
  user : UserRow
  apiKeysV2 : KeyId → Option ApiKeyV2
  apiKeys : List ApiKeyRow
  /-- `usage_counter` by key and month. -/
  usageCounters : KeyId → String → Option ℕ
  /-- `usage_reservation`: key and run id. -/
  usageReservations : List (KeyId × String)

namespace UsageAccount

/-- `isNull(apiKeys.revokedAt)`. -/
def liveKeyIds (a : UsageAccount) : List KeyId :=
  (a.apiKeys.filter (·.revokedAt.isNone)).map (·.id)

def counted (a : UsageAccount) (ym : String) (id : KeyId) : ℕ :=
  (a.usageCounters id ym).getD 0

/-- `sum(usageCounters.count)` over the given keys. -/
def sumCounters (a : UsageAccount) (ym : String) (keyIds : List KeyId) : ℕ :=
  (keyIds.map (a.counted ym)).sum

def isActive (a : UsageAccount) (id : KeyId) : Bool :=
  match a.apiKeysV2 id with
  | some key => key.status = .active
  | none => false

/-- The primary keys of both key tables admit a row with this id. -/
def idFree (a : UsageAccount) (id : KeyId) : Bool :=
  (a.apiKeysV2 id).isNone && !(a.apiKeys.map (·.id)).contains id

end UsageAccount

/-- The part of `UsageCurrentV1` that depends on the account. -/
structure UsageSnapshot where
  usedTotal : ℕ
  includedMonthly : Option ℕ
  allowOverage : Bool
  overageCount : ℕ
  allowedNext : Bool

def loadUsageSnapshotForUser (a : UsageAccount) (ym : String)
    (plan : PlanDefinition) : UsageSnapshot :=
  let keyIds := a.liveKeyIds
  let usedTotal := if keyIds.length > 0 then a.sumCounters ym keyIds else 0
  let input : QuotaPolicyInput :=
    ⟨usedTotal, plan.includedMonthly, plan.allowOverage⟩
  { usedTotal
    includedMonthly := plan.includedMonthly
    allowOverage := plan.allowOverage
    overageCount := computeOverageCount input
    allowedNext := computeAllowedNext input }

/-- What `GET /usage/current` reports as used. -/
def UsageAccount.usedTotal (a : UsageAccount) (ym : String) : ℕ :=
  a.sumCounters ym a.liveKeyIds

/-! ## Key lifecycle -/

/-- The two inserts of a new key; `none` when a primary key is taken, which
rolls the transaction back. -/
def UsageAccount.insertKey (a : UsageAccount) (id : KeyId) (key : ApiKeyV2) :
    Option UsageAccount :=
  if a.idFree id then
    some
      { a with
        apiKeysV2 := Function.update a.apiKeysV2 id (some key)
        apiKeys := a.apiKeys ++ [⟨id, none⟩] }
  else
    none

/-- `set({ revokedAt })` on the legacy row of a key. -/
def markRevoked (id : KeyId) (now : ℤ) (rows : List ApiKeyRow) :
    List ApiKeyRow :=
  rows.map fun row =>
    if row.id = id then { row with revokedAt := some now } else row

/-- The two updates that retire a key. -/
def UsageAccount.retireKey (a : UsageAccount) (id : KeyId) (key : ApiKeyV2)
    (now : ℤ) : UsageAccount :=
  { a with
    apiKeysV2 :=
      Function.update a.apiKeysV2 id (some { key with status := .revoked })
    apiKeys := markRevoked id now a.apiKeys }

/-- The new row's id is drawn by the database layer. -/
def createApiKeyForUser (a : UsageAccount) (scopes : List ApiKeyScope)
    (expiresAt : Option ℤ) (newId : KeyId) : Option UsageAccount :=
  a.insertKey newId { status := .active, scopes, expiresAt }

def revokeApiKeyForUser (a : UsageAccount) (keyId : KeyId) (now : ℤ) :
    UsageAccount × Bool :=
  match a.apiKeysV2 keyId with
  | some key =>
      if key.status = .active then (a.retireKey keyId key now, true)
      else (a, false)
  | none => (a, false)

/-- `none`: the key is not active, or the successor's id is taken. -/
def rotateApiKeyForUser (a : UsageAccount) (keyId : KeyId)
    (expiresAtOverride : Option ℤ) (newId : KeyId) (now : ℤ) :
    Option UsageAccount :=
  match a.apiKeysV2 keyId with
  | some existing =>
      if existing.status = .active then
        (a.insertKey newId
          { status := .active
            scopes := existing.scopes
            expiresAt := expiresAtOverride.or existing.expiresAt }).map
          (·.retireKey keyId existing now)
      else none
  | none => none

/-! ## Reserving a run -/

/-- What the deployment and the runtime contribute. -/
structure UsageDeployment where
  plans : PlanId → PlanDefinition
  dateParse : String → Option ℤ
  priceIdToPlanId : String → Option PlanId
  /-- `RESERVE_EMERGENCY_ALLOW`. -/
  emergencyAllow : Bool
  upgradeUrl : String
  /-- `CONTACT_SALES_EMAIL`, when it is an address. -/
  contact : Option String

inductive AuthCode where
  | unauthorized | invalidKey | keyRevoked | keyDisabled | keyExpired
  | insufficientScope
  deriving DecidableEq, Repr

structure AuthProblem where
  status : ℕ
  code : AuthCode
  detail : String

/-- A bearer is identified with the key it was issued for: the lookup
fingerprint is unique. -/
def authenticateApiKey (a : UsageAccount) (bearer : Option KeyId) (now : ℤ) :
    Except AuthProblem (KeyId × List ApiKeyScope) :=
  match bearer with
  | none =>
      .error ⟨401, .unauthorized,
        "Missing or invalid Authorization Bearer token."⟩
  | some id =>
      match a.apiKeysV2 id with
      | some key =>
          if key.status = .revoked then
            .error ⟨401, .keyRevoked, "API key is revoked."⟩
          else if key.status = .disabled then
            .error ⟨401, .keyDisabled, "API key is disabled."⟩
          else if key.expiresAt.any (· ≤ now) then
            .error ⟨401, .keyExpired, "API key is expired."⟩
          else
            let scopes := key.scopes.dedup
            .ok (id, if scopes.length > 0 then scopes
              else [.read, .meter, .report, .admin])
      | none =>
          if id ∈ a.liveKeyIds then .ok (id, [.read, .meter, .report, .admin])
          else .error ⟨401, .invalidKey, "Unknown API key."⟩

def requireScopes (scopes required : List ApiKeyScope) :
    Except AuthProblem Unit :=
  if required.all (scopes.contains ·) then .ok ()
  else .error ⟨403, .insufficientScope,
    "This key does not include required scope(s): " ++
      ", ".intercalate (required.map ApiKeyScope.text)⟩

structure ReserveBody where
  runId : Option String
  issuedAt : Option String
  intent : RawIntent

structure ReserveDenial where
  status : ℕ
  code : ReserveDenyCode
  message : String
  upgradeUrl : Option String := none

def badReserve (message : String) : ReserveDenial :=
  { status := 400, code := .badRequest, message }

def billingPriceUnmappedMessage (contact : Option String)
    (stripePriceId : String) : String :=
  "This deployment does not recognize Stripe price id " ++ stripePriceId ++
    ". Align STRIPE_PRICE_* environment variables with your Stripe prices, " ++
    "redeploy, or contact " ++ contact.getD "the site operator" ++ "."

/-- The checks of the body. -/
def checkReserveBody (d : UsageDeployment) (body : Option ReserveBody)
    (now : ℤ) : Except ReserveDenial (ReserveIntent × String) :=
  match body with
  | none => .error (badReserve "Invalid JSON body.")
  | some body =>
      match parseIntent body.intent with
      | none => .error (badReserve "Invalid intent.")
      | some intent =>
          let runId := (body.runId.map jsTrim).getD ""
          if runId = "" ∨ (utf16 runId).length > 256 then
            .error (badReserve "Invalid run_id.")
          else
            let issuedAt := body.issuedAt.getD ""
            if issuedAt = "" then .error (badReserve "Missing issued_at.")
            else
              match d.dateParse issuedAt with
              | none => .error (badReserve "Invalid issued_at.")
              | some t =>
                  if (now - t).natAbs > 300000 then
                    .error (badReserve "issued_at skew too large.")
                  else
                    .ok (intent, runId)

/-- The checks of plan, subscription and price, up to the quota. -/
def checkEntitlement (d : UsageDeployment) (user : UserRow)
    (intent : ReserveIntent) : Except ReserveDenial PlanId :=
  match PlanId.ofText? user.plan with
  | none =>
      .error
        { status := 403
          code := .subscriptionInactive
          message := "Invalid plan configuration." }
  | some planId =>
      match normalizeSubscriptionStatus user.subscriptionStatus with
      | none =>
          .error
            { status := 500
              code := .serverError
              message := "Invalid subscription_status in database." }
      | some status =>
          let price := (user.stripePriceId.map jsTrim).getD ""
          if planId ∈ paidEnforcementPlanIds ∧ price ≠ "" ∧
              d.priceIdToPlanId price = none then
            .error
              { status := 403
                code := .billingPriceUnmapped
                message := billingPriceUnmappedMessage d.contact price
                upgradeUrl := some d.upgradeUrl }
          else
            match resolveCommercialEntitlement planId status intent
              d.emergencyAllow with
            | some code =>
                .error
                  { status := 403
                    code
                    message :=
                      if code = .enforcementRequiresPaidPlan then
                        "Enforcing correctness in workflows requires a paid plan."
                      else
                        "Subscription is not active for licensed verification or CI enforcement."
                    upgradeUrl := some d.upgradeUrl }
            | none => .ok planId

structure ReserveAllowed where
  plan : PlanId
  limit : ℕ
  used : ℕ
  includedMonthly : Option ℕ
  overageCount : ℕ

def reserveAllowedPayload (planId : PlanId) (usedTotal : ℕ)
    (included : Option ℕ) (allowOverage : Bool) : ReserveAllowed :=
  match included with
  | none => ⟨planId, usedTotal, usedTotal, none, 0⟩
  | some cap =>
      ⟨planId, cap, usedTotal, some cap,
        computeOverageCount ⟨usedTotal, some cap, allowOverage⟩⟩

/-- `keyIds` of the reserve transaction. -/
def UsageAccount.reserveKeyIds (a : UsageAccount) (apiKeyId : KeyId) :
    List KeyId :=
  if a.liveKeyIds.length > 0 then a.liveKeyIds else [apiKeyId]

def UsageAccount.setCounter (a : UsageAccount) (id : KeyId) (ym : String)
    (count : ℕ) : UsageAccount :=
  { a with
    usageCounters := Function.update a.usageCounters id
      (Function.update (a.usageCounters id) ym (some count)) }

inductive ReserveResult where
  | ok (usedTotal : ℕ) (duplicate : Bool)
  | quotaExceeded

/-- The transaction of the reserve route, serialized by the advisory lock. -/
def reserveTransaction (a : UsageAccount) (apiKeyId : KeyId) (runId : String)
    (ym : String) (plan : PlanDefinition) : UsageAccount × ReserveResult :=
  let keyIds := a.reserveKeyIds apiKeyId
  if (apiKeyId, runId) ∈ a.usageReservations then
    (a, .ok (a.sumCounters ym keyIds) true)
  else
    -- A missing counter row is inserted, and stays when the quota is exceeded.
    let a₁ := match a.usageCounters apiKeyId ym with
      | none => a.setCounter apiKeyId ym 0
      | some _ => a
    let usedBefore := a₁.sumCounters ym keyIds
    if computeAllowedNext ⟨usedBefore, plan.includedMonthly, plan.allowOverage⟩
    then
      let a₂ :=
        { a₁ with usageReservations := a₁.usageReservations ++ [(apiKeyId, runId)] }
      let a₃ := a₂.setCounter apiKeyId ym (a₁.counted ym apiKeyId + 1)
      (a₃, .ok (a₃.sumCounters ym keyIds) false)
    else
      (a₁, .quotaExceeded)

inductive ReserveResponse where
  | unauthenticated (problem : AuthProblem)
  | denied (denial : ReserveDenial)
  | allowed (payload : ReserveAllowed)

/-- `POST /api/v1/usage/reserve`. -/
def reserve (d : UsageDeployment) (ym : String) (a : UsageAccount)
    (bearer : Option KeyId) (body : Option ReserveBody) (now : ℤ) :
    UsageAccount × ReserveResponse :=
  match authenticateApiKey a bearer now with
  | .error problem => (a, .unauthenticated problem)
  | .ok (apiKeyId, scopes) =>
      match requireScopes scopes [.meter] with
      | .error problem => (a, .unauthenticated problem)
      | .ok () =>
          match checkReserveBody d body now with
          | .error denial => (a, .denied denial)
          | .ok (intent, runId) =>
              match checkEntitlement d a.user intent with
              | .error denial => (a, .denied denial)
              | .ok planId =>
                  let plan := d.plans planId
                  match reserveTransaction a apiKeyId runId ym plan with
                  | (a', .ok usedTotal _) =>
                      (a', .allowed (reserveAllowedPayload planId usedTotal
                        plan.includedMonthly plan.allowOverage))
                  | (a', .quotaExceeded) =>
                      (a', .denied
                        { status := 403
                          code := .quotaExceeded
                          message := "Monthly verification quota exceeded." })

/-! ## The service -/

inductive UsageRequest where
  | createKey (scopes : List ApiKeyScope) (expiresAt : Option ℤ) (newId : KeyId)
  | rotateKey (keyId : KeyId) (expiresAtOverride : Option ℤ) (newId : KeyId)
      (now : ℤ)
  | revokeKey (keyId : KeyId) (now : ℤ)
  | reserve (bearer : Option KeyId) (body : Option ReserveBody) (now : ℤ)

inductive UsageResponse where
  | key (created : Bool)
  | revoked (revoked : Bool)
  | reserve (response : ReserveResponse)

def serveUsage (d : UsageDeployment) (ym : String) (a : UsageAccount) :
    UsageRequest → UsageAccount × UsageResponse
  | .createKey scopes expiresAt newId =>
      match createApiKeyForUser a scopes expiresAt newId with
      | some a' => (a', .key true)
      | none => (a, .key false)
  | .rotateKey keyId expiresAtOverride newId now =>
      match rotateApiKeyForUser a keyId expiresAtOverride newId now with
      | some a' => (a', .key true)
      | none => (a, .key false)
  | .revokeKey keyId now =>
      let out := revokeApiKeyForUser a keyId now
      (out.1, .revoked out.2)
  | .reserve bearer body now =>
      let out := Hosted.reserve d ym a bearer body now
      (out.1, .reserve out.2)

/-- The key that a request takes out of use. -/
def UsageRequest.retires (a : UsageAccount) : UsageRequest → Option KeyId
  | .createKey _ _ _ => none
  | .rotateKey keyId _ newId _ =>
      if a.isActive keyId && a.idFree newId then some keyId else none
  | .revokeKey keyId _ => if a.isActive keyId then some keyId else none
  | .reserve _ _ _ => none

/-- The request takes a key out of use that was counted in this month. -/
def UsageRequest.retiresCounted (ym : String) (a : UsageAccount)
    (r : UsageRequest) : Bool :=
  (r.retires a).any fun id => 0 < a.counted ym id

/-! ## Valid accounts -/

/-- What the writes of the key tables and the foreign keys keep. -/
structure UsageAccount.Valid (a : UsageAccount) : Prop where
  nodup : (a.apiKeys.map (·.id)).Nodup
  live : ∀ id, a.isActive id = true → id ∈ a.liveKeyIds
  counters : ∀ id ym, (a.usageCounters id ym).isSome = true →
    id ∈ a.apiKeys.map (·.id)

namespace UsageAccount

theorem isActive_of_some {a : UsageAccount} {id : KeyId} {key : ApiKeyV2}
    (h : a.apiKeysV2 id = some key) (hactive : key.status = .active) :
    a.isActive id = true := by
  simp [isActive, h, hactive]

theorem isActive_eq_true {a : UsageAccount} {id : KeyId}
    (h : a.isActive id = true) :
    ∃ key, a.apiKeysV2 id = some key ∧ key.status = .active := by
  cases hkey : a.apiKeysV2 id with
  | none => simp [isActive, hkey] at h
  | some key => exact ⟨key, rfl, by simpa [isActive, hkey] using h⟩

theorem idFree_eq_true {a : UsageAccount} {id : KeyId}
    (h : a.idFree id = true) :
    a.apiKeysV2 id = none ∧ id ∉ a.apiKeys.map (·.id) := by
  simpa [idFree] using h

theorem liveKeyIds_subset (a : UsageAccount) :
    a.liveKeyIds ⊆ a.apiKeys.map (·.id) :=
  List.map_subset _ (List.filter_sublist.subset)

theorem Valid.liveKeyIds_nodup {a : UsageAccount} (h : a.Valid) :
    a.liveKeyIds.Nodup :=
  h.nodup.sublist (List.filter_sublist.map _)

/-! ### Retiring a key -/

theorem markRevoked_ids (id : KeyId) (now : ℤ) (rows : List ApiKeyRow) :
    (markRevoked id now rows).map (·.id) = rows.map (·.id) := by
  rw [markRevoked, List.map_map]
  refine List.map_congr_left fun row _ => ?_
  simp only [Function.comp_apply]
  split <;> rfl

theorem liveKeyIds_retireKey (a : UsageAccount) (id : KeyId) (key : ApiKeyV2)
    (now : ℤ) :
    (a.retireKey id key now).liveKeyIds = a.liveKeyIds.filter (· ≠ id) := by
  simp only [liveKeyIds, retireKey, markRevoked]
  induction a.apiKeys with
  | nil => rfl
  | cons row rows ih =>
      by_cases hid : row.id = id
      · by_cases hnull : row.revokedAt.isNone <;> simp [hid, hnull, ih]
      · by_cases hnull : row.revokedAt.isNone <;> simp [hid, hnull, ih]

/-- The count of a retired key leaves the sum. -/
theorem usedTotal_retireKey {a : UsageAccount} (h : a.Valid) {id : KeyId}
    (hid : id ∈ a.liveKeyIds) (key : ApiKeyV2) (now : ℤ) (ym : String) :
    (a.retireKey id key now).usedTotal ym + a.counted ym id =
      a.usedTotal ym := by
  have hids : (a.retireKey id key now).liveKeyIds = a.liveKeyIds.erase id := by
    rw [liveKeyIds_retireKey, h.liveKeyIds_nodup.erase_eq_filter]
    refine List.filter_congr fun j _ => ?_
    by_cases hj : j = id <;> simp [hj]
  have hcounted : (a.retireKey id key now).counted ym = a.counted ym := rfl
  rw [usedTotal, sumCounters, hids, hcounted, Nat.add_comm]
  exact List.sum_map_erase _ hid

theorem Valid.retireKey {a : UsageAccount} (h : a.Valid) (id : KeyId)
    (key : ApiKeyV2) (now : ℤ) : (a.retireKey id key now).Valid := by
  constructor
  · have hids := markRevoked_ids id now a.apiKeys
    rw [UsageAccount.retireKey, hids]
    exact h.nodup
  · intro j hj
    obtain ⟨key', hkey, hactive⟩ := isActive_eq_true hj
    have hne : j ≠ id := by
      rintro rfl
      simp only [UsageAccount.retireKey, Function.update_self,
        Option.some.injEq] at hkey
      subst hkey
      cases hactive
    have hold : a.apiKeysV2 j = some key' := by
      simpa [UsageAccount.retireKey, hne] using hkey
    rw [liveKeyIds_retireKey, List.mem_filter]
    exact ⟨h.live j (isActive_of_some hold hactive), by simpa using hne⟩
  · intro j ym hj
    have hids := markRevoked_ids id now a.apiKeys
    rw [UsageAccount.retireKey, hids]
    exact h.counters j ym hj

/-! ### Adding a key -/

theorem insertKey_eq_some {a a' : UsageAccount} {id : KeyId} {key : ApiKeyV2}
    (h : a.insertKey id key = some a') :
    a.idFree id = true ∧
      a' = { a with
        apiKeysV2 := Function.update a.apiKeysV2 id (some key)
        apiKeys := a.apiKeys ++ [⟨id, none⟩] } := by
  rw [insertKey] at h
  split at h
  · rename_i hfree
    exact ⟨hfree, (Option.some.inj h).symm⟩
  · cases h

theorem insertKey_eq_none {a : UsageAccount} {id : KeyId} {key : ApiKeyV2}
    (h : a.insertKey id key = none) : a.idFree id = false := by
  rw [insertKey] at h
  split at h
  · cases h
  · rename_i hfree
    simpa using hfree

section InsertKey

variable {a a' : UsageAccount} {id : KeyId} {key : ApiKeyV2}

theorem liveKeyIds_insertKey (h : a.insertKey id key = some a') :
    a'.liveKeyIds = a.liveKeyIds ++ [id] := by
  obtain ⟨-, rfl⟩ := insertKey_eq_some h
  simp [liveKeyIds]

/-- A new key has not been counted. -/
theorem usedTotal_insertKey (hvalid : a.Valid)
    (h : a.insertKey id key = some a') (ym : String) :
    a'.usedTotal ym = a.usedTotal ym := by
  have hids := liveKeyIds_insertKey h
  obtain ⟨hfree, rfl⟩ := insertKey_eq_some h
  have hnone : a.usageCounters id ym = none := by
    by_contra hsome
    exact (idFree_eq_true hfree).2
      (hvalid.counters id ym (Option.isSome_iff_ne_none.mpr hsome))
  have hzero : a.counted ym id = 0 := by
    rw [counted, hnone, Option.getD_none]
  rw [usedTotal, sumCounters, hids, List.map_append, List.sum_append,
    List.map_singleton, List.sum_singleton]
  exact congrArg (a.usedTotal ym + ·) hzero

theorem Valid.insertKey (hvalid : a.Valid)
    (h : a.insertKey id key = some a') : a'.Valid := by
  have hids := liveKeyIds_insertKey h
  obtain ⟨hfree, rfl⟩ := insertKey_eq_some h
  have hfresh := (idFree_eq_true hfree).2
  constructor
  · rw [List.map_append, List.map_singleton, List.nodup_append_comm]
    exact List.nodup_cons.mpr ⟨hfresh, hvalid.nodup⟩
  · intro j hj
    rw [hids, List.mem_append, List.mem_singleton]
    by_cases hne : j = id
    · exact .inr hne
    · obtain ⟨key', hkey, hactive⟩ := isActive_eq_true hj
      have hold : a.apiKeysV2 j = some key' := by
        simpa [hne] using hkey
      exact .inl (hvalid.live j (isActive_of_some hold hactive))
  · intro j ym hj
    rw [List.map_append, List.mem_append]
    exact .inl (hvalid.counters j ym hj)

end InsertKey

/-! ### Counting a reservation -/

theorem counted_setCounter (a : UsageAccount) (id j : KeyId) (ym : String)
    (count : ℕ) :
    (a.setCounter id ym count).counted ym j =
      if j = id then count else a.counted ym j := by
  by_cases hj : j = id
  · subst hj
    simp [counted, setCounter]
  · simp [counted, setCounter, hj]

theorem Valid.setCounter {a : UsageAccount} (h : a.Valid) {id : KeyId}
    (hid : id ∈ a.liveKeyIds) (ym : String) (count : ℕ) :
    (a.setCounter id ym count).Valid := by
  refine ⟨h.nodup, h.live, ?_⟩
  intro j ym' hj
  by_cases hne : j = id
  · exact hne.symm ▸ a.liveKeyIds_subset hid
  · have hold : (a.usageCounters j ym').isSome = true := by
      simpa [UsageAccount.setCounter, hne] using hj
    exact h.counters j ym' hold

theorem usedTotal_setCounter_succ {a : UsageAccount} (h : a.Valid) {id : KeyId}
    (hid : id ∈ a.liveKeyIds) (ym : String) :
    (a.setCounter id ym (a.counted ym id + 1)).usedTotal ym =
      a.usedTotal ym + 1 := by
  have hothers : ∀ j ∈ a.liveKeyIds.erase id,
      (a.setCounter id ym (a.counted ym id + 1)).counted ym j =
        a.counted ym j := by
    intro j hj
    have hne : j ≠ id := (h.liveKeyIds_nodup.mem_erase_iff.mp hj).1
    rw [counted_setCounter, if_neg hne]
  have hself : (a.setCounter id ym (a.counted ym id + 1)).counted ym id =
      a.counted ym id + 1 := by
    rw [counted_setCounter, if_pos rfl]
  have hsplit := List.sum_map_erase
    ((a.setCounter id ym (a.counted ym id + 1)).counted ym) hid
  rw [hself] at hsplit
  calc (a.setCounter id ym (a.counted ym id + 1)).usedTotal ym
      = a.counted ym id + 1 + ((a.liveKeyIds.erase id).map
          ((a.setCounter id ym (a.counted ym id + 1)).counted ym)).sum :=
        hsplit.symm
    _ = a.counted ym id + 1 +
          ((a.liveKeyIds.erase id).map (a.counted ym)).sum := by
        rw [List.map_congr_left hothers]
    _ = a.usedTotal ym + 1 := by
        rw [usedTotal, sumCounters, ← List.sum_map_erase (a.counted ym) hid]
        omega

end UsageAccount

/-! ## What one request can do -/

/-- The effect of a request from `a` on the month: nothing is counted, a key is
taken out of use, or one reservation is charged. -/
inductive UsageStep (ym : String) (plan : Option PlanDefinition)
    (a : UsageAccount) (retired : Option KeyId) (a' : UsageAccount) : Prop where
  | uncounted (hretired : retired = none)
      (hused : a'.usedTotal ym = a.usedTotal ym)
      (hreserved : a'.usageReservations = a.usageReservations)
  | retire (id : KeyId) (hretired : retired = some id)
      (hused : a'.usedTotal ym + a.counted ym id = a.usedTotal ym)
      (hreserved : a'.usageReservations = a.usageReservations)
  | charge (p : PlanDefinition) (reservation : KeyId × String)
      (hretired : retired = none) (hplan : plan = some p)
      (hnext : computeAllowedNext
        ⟨a.usedTotal ym, p.includedMonthly, p.allowOverage⟩ = true)
      (hfresh : reservation ∉ a.usageReservations)
      (hused : a'.usedTotal ym = a.usedTotal ym + 1)
      (hreserved :
        a'.usageReservations = a.usageReservations ++ [reservation])

section Step

variable {d : UsageDeployment} {a : UsageAccount} (ym : String)

/-- The plan that the account's quota is computed from. -/
def UsageDeployment.planOf (d : UsageDeployment) (user : UserRow) :
    Option PlanDefinition :=
  (PlanId.ofText? user.plan).map d.plans

theorem authenticateApiKey_ok (hvalid : a.Valid) {bearer : Option KeyId}
    {now : ℤ} {apiKeyId : KeyId} {scopes : List ApiKeyScope}
    (h : authenticateApiKey a bearer now = .ok (apiKeyId, scopes)) :
    apiKeyId ∈ a.liveKeyIds := by
  unfold authenticateApiKey at h
  split at h
  · cases h
  · rename_i id
    split at h
    · rename_i key hkey
      split_ifs at h with hrevoked hdisabled hexpired
      obtain ⟨rfl, -⟩ := Prod.mk.inj (Except.ok.inj h)
      have hactive : key.status = .active := by
        cases hstatus : key.status with
        | active => rfl
        | revoked => exact absurd hstatus hrevoked
        | disabled => exact absurd hstatus hdisabled
      exact hvalid.live id (UsageAccount.isActive_of_some hkey hactive)
    · split_ifs at h with hlive
      obtain ⟨rfl, -⟩ := Prod.mk.inj (Except.ok.inj h)
      exact hlive

theorem checkEntitlement_ok {user : UserRow} {intent : ReserveIntent}
    {planId : PlanId} (h : checkEntitlement d user intent = .ok planId) :
    PlanId.ofText? user.plan = some planId := by
  unfold checkEntitlement at h
  split at h
  · cases h
  · rename_i planId' hplan
    split at h
    · cases h
    · dsimp only at h
      split_ifs at h
      split at h
      · cases h
      · rw [hplan, Except.ok.inj h]

/-- The transaction of an authenticated key: what it counts, what it reports and
that the account stays valid. -/
theorem reserveTransaction_spec (hvalid : a.Valid) {apiKeyId : KeyId}
    (hlive : apiKeyId ∈ a.liveKeyIds) (runId : String) (plan : PlanDefinition) :
    UsageStep ym (some plan) a none
      (reserveTransaction a apiKeyId runId ym plan).1 ∧
    (reserveTransaction a apiKeyId runId ym plan).1.Valid ∧
    ∀ usedTotal duplicate,
      (reserveTransaction a apiKeyId runId ym plan).2 =
        .ok usedTotal duplicate →
      usedTotal =
        (reserveTransaction a apiKeyId runId ym plan).1.usedTotal ym := by
  have hkeyIds : a.reserveKeyIds apiKeyId = a.liveKeyIds := by
    rw [UsageAccount.reserveKeyIds, if_pos (List.length_pos_of_mem hlive)]
  -- The account with its counter row in place.
  obtain ⟨a₁, ha₁, hvalid₁, hids₁, hcounted₁, hreserved₁⟩ : ∃ a₁ : UsageAccount,
      (match a.usageCounters apiKeyId ym with
        | none => a.setCounter apiKeyId ym 0
        | some _ => a) = a₁ ∧ a₁.Valid ∧ a₁.liveKeyIds = a.liveKeyIds ∧
        a₁.counted ym = a.counted ym ∧
        a₁.usageReservations = a.usageReservations := by
    cases hrow : a.usageCounters apiKeyId ym with
    | some count => exact ⟨a, rfl, hvalid, rfl, rfl, rfl⟩
    | none =>
        refine ⟨a.setCounter apiKeyId ym 0, rfl, hvalid.setCounter hlive ym 0,
          rfl, ?_, rfl⟩
        funext j
        rw [UsageAccount.counted_setCounter]
        split
        · rename_i hj
          rw [hj, UsageAccount.counted, hrow, Option.getD_none]
        · rfl
  have hused₁ : a₁.usedTotal ym = a.usedTotal ym := by
    rw [UsageAccount.usedTotal, UsageAccount.sumCounters, hids₁, hcounted₁]
    rfl
  have hsum₁ : a₁.sumCounters ym a.liveKeyIds = a.usedTotal ym := by
    rw [← hused₁, UsageAccount.usedTotal, hids₁]
  simp only [reserveTransaction, hkeyIds, ha₁, hsum₁]
  by_cases hdup : (apiKeyId, runId) ∈ a.usageReservations
  · rw [if_pos hdup]
    refine ⟨.uncounted rfl rfl rfl, hvalid, ?_⟩
    rintro usedTotal duplicate ⟨⟩
    rfl
  · rw [if_neg hdup]
    by_cases hnext : computeAllowedNext
        ⟨a.usedTotal ym, plan.includedMonthly, plan.allowOverage⟩ = true
    · rw [if_pos hnext]
      have hlive₁ : apiKeyId ∈ a₁.liveKeyIds := hids₁ ▸ hlive
      have hused := UsageAccount.usedTotal_setCounter_succ hvalid₁ hlive₁ ym
      have hset := hvalid₁.setCounter hlive₁ ym (a₁.counted ym apiKeyId + 1)
      refine ⟨.charge plan (apiKeyId, runId) rfl rfl hnext hdup ?_ ?_, ?_, ?_⟩
      · rw [← hused₁]
        exact hused
      · rw [← hreserved₁]
        rfl
      · exact ⟨hset.nodup, hset.live, hset.counters⟩
      · rintro usedTotal duplicate ⟨⟩
        rw [← hids₁]
        rfl
    · rw [if_neg hnext]
      refine ⟨.uncounted rfl hused₁ hreserved₁, hvalid₁, ?_⟩
      rintro usedTotal duplicate ⟨⟩

/-- A reservation that is refused before the transaction changes nothing; the
others do what the transaction does. -/
theorem reserve_cases (d : UsageDeployment) (ym : String) (a : UsageAccount)
    (bearer : Option KeyId) (body : Option ReserveBody) (now : ℤ) :
    ((reserve d ym a bearer body now).1 = a ∧
      ∀ payload, (reserve d ym a bearer body now).2 ≠ .allowed payload) ∨
    ∃ apiKeyId scopes runId planId,
      authenticateApiKey a bearer now = .ok (apiKeyId, scopes) ∧
      PlanId.ofText? a.user.plan = some planId ∧
      (reserve d ym a bearer body now).1 =
        (reserveTransaction a apiKeyId runId ym (d.plans planId)).1 ∧
      ∀ payload, (reserve d ym a bearer body now).2 = .allowed payload →
        ∃ usedTotal duplicate,
          (reserveTransaction a apiKeyId runId ym (d.plans planId)).2 =
            .ok usedTotal duplicate ∧
          payload = reserveAllowedPayload planId usedTotal
            (d.plans planId).includedMonthly (d.plans planId).allowOverage := by
  unfold reserve
  split
  · exact .inl ⟨rfl, by simp⟩
  · rename_i apiKeyId scopes hauth
    split
    · exact .inl ⟨rfl, by simp⟩
    · split
      · exact .inl ⟨rfl, by simp⟩
      · rename_i intent runId hbody
        split
        · exact .inl ⟨rfl, by simp⟩
        · rename_i planId hplan
          refine .inr ⟨apiKeyId, scopes, runId, planId, hauth,
            checkEntitlement_ok hplan, ?_⟩
          dsimp only
          split
          · rename_i a' usedTotal duplicate htransaction
            rw [htransaction]
            refine ⟨rfl, ?_⟩
            rintro payload ⟨⟩
            exact ⟨usedTotal, duplicate, rfl, rfl⟩
          · rename_i a' htransaction
            rw [htransaction]
            exact ⟨rfl, by simp⟩

theorem reserve_step (hvalid : a.Valid) (bearer : Option KeyId)
    (body : Option ReserveBody) (now : ℤ) :
    UsageStep ym (d.planOf a.user) a none (reserve d ym a bearer body now).1 ∧
      (reserve d ym a bearer body now).1.Valid := by
  rcases reserve_cases d ym a bearer body now with
    ⟨hsame, -⟩ | ⟨apiKeyId, scopes, runId, planId, hauth, hplan, hafter, -⟩
  · rw [hsame]
    exact ⟨.uncounted rfl rfl rfl, hvalid⟩
  · have hspec := reserveTransaction_spec ym hvalid
      (authenticateApiKey_ok hvalid hauth) runId (d.plans planId)
    rw [hafter, UsageDeployment.planOf, hplan]
    exact ⟨hspec.1, hspec.2.1⟩

theorem retireKey_step (hvalid : a.Valid) {id : KeyId}
    (hactive : a.isActive id = true) (key : ApiKeyV2) (now : ℤ)
    (plan : Option PlanDefinition) :
    UsageStep ym plan a (some id) (a.retireKey id key now) :=
  .retire id rfl
    (UsageAccount.usedTotal_retireKey hvalid (hvalid.live id hactive) key now ym)
    rfl

theorem serveUsage_step (hvalid : a.Valid) (r : UsageRequest) :
    UsageStep ym (d.planOf a.user) a (r.retires a) (serveUsage d ym a r).1 ∧
      (serveUsage d ym a r).1.Valid := by
  cases r with
  | createKey scopes expiresAt newId =>
      rw [serveUsage]
      split
      · rename_i a' hinsert
        refine ⟨.uncounted rfl ?_ ?_, hvalid.insertKey hinsert⟩
        · exact UsageAccount.usedTotal_insertKey hvalid hinsert ym
        · obtain ⟨-, rfl⟩ := UsageAccount.insertKey_eq_some hinsert
          rfl
      · exact ⟨.uncounted rfl rfl rfl, hvalid⟩
  | revokeKey keyId now =>
      cases hactive : a.isActive keyId with
      | true =>
          obtain ⟨key, hkey, hstatus⟩ := UsageAccount.isActive_eq_true hactive
          have hrevoke : revokeApiKeyForUser a keyId now =
              (a.retireKey keyId key now, true) := by
            simp [revokeApiKeyForUser, hkey, hstatus]
          have hretires :
              (UsageRequest.revokeKey keyId now).retires a = some keyId := by
            rw [UsageRequest.retires, if_pos hactive]
          rw [serveUsage, hrevoke, hretires]
          exact ⟨retireKey_step ym hvalid hactive key now _,
            hvalid.retireKey keyId key now⟩
      | false =>
          have hrevoke : revokeApiKeyForUser a keyId now = (a, false) := by
            rw [revokeApiKeyForUser]
            split
            · rename_i key hkey
              refine if_neg fun hstatus => ?_
              rw [UsageAccount.isActive_of_some hkey hstatus] at hactive
              cases hactive
            · rfl
          have hretires :
              (UsageRequest.revokeKey keyId now).retires a = none := by
            simp [UsageRequest.retires, hactive]
          rw [serveUsage, hrevoke, hretires]
          exact ⟨.uncounted rfl rfl rfl, hvalid⟩
  | rotateKey keyId expiresAtOverride newId now =>
      cases hactive : a.isActive keyId with
      | true =>
          obtain ⟨existing, hkey, hstatus⟩ :=
            UsageAccount.isActive_eq_true hactive
          cases hinsert : a.insertKey newId
              { status := .active
                scopes := existing.scopes
                expiresAt := expiresAtOverride.or existing.expiresAt } with
          | none =>
              have hrotate : rotateApiKeyForUser a keyId expiresAtOverride newId
                  now = none := by
                simp [rotateApiKeyForUser, hkey, hstatus, hinsert]
              have hretires : (UsageRequest.rotateKey keyId expiresAtOverride
                  newId now).retires a = none := by
                simp [UsageRequest.retires,
                  UsageAccount.insertKey_eq_none hinsert]
              rw [serveUsage, hrotate, hretires]
              exact ⟨.uncounted rfl rfl rfl, hvalid⟩
          | some a₁ =>
              have hrotate : rotateApiKeyForUser a keyId expiresAtOverride newId
                  now = some (a₁.retireKey keyId existing now) := by
                simp [rotateApiKeyForUser, hkey, hstatus, hinsert]
              have hfree := (UsageAccount.insertKey_eq_some hinsert).1
              have hretires : (UsageRequest.rotateKey keyId expiresAtOverride
                  newId now).retires a = some keyId := by
                simp [UsageRequest.retires, hactive, hfree]
              have hvalid₁ := hvalid.insertKey hinsert
              have hlive₁ : keyId ∈ a₁.liveKeyIds := by
                rw [UsageAccount.liveKeyIds_insertKey hinsert]
                exact List.mem_append_left _ (hvalid.live keyId hactive)
              have hused := UsageAccount.usedTotal_retireKey hvalid₁ hlive₁
                existing now ym
              rw [UsageAccount.usedTotal_insertKey hvalid hinsert] at hused
              rw [serveUsage, hrotate, hretires]
              refine ⟨.retire keyId rfl ?_ ?_, hvalid₁.retireKey _ _ _⟩
              · obtain ⟨-, rfl⟩ := UsageAccount.insertKey_eq_some hinsert
                exact hused
              · obtain ⟨-, rfl⟩ := UsageAccount.insertKey_eq_some hinsert
                rfl
      | false =>
          have hrotate : rotateApiKeyForUser a keyId expiresAtOverride newId
              now = none := by
            rw [rotateApiKeyForUser]
            split
            · rename_i existing hkey
              refine if_neg fun hstatus => ?_
              rw [UsageAccount.isActive_of_some hkey hstatus] at hactive
              cases hactive
            · rfl
          have hretires : (UsageRequest.rotateKey keyId expiresAtOverride newId
              now).retires a = none := by
            simp [UsageRequest.retires, hactive]
          rw [serveUsage, hrotate, hretires]
          exact ⟨.uncounted rfl rfl rfl, hvalid⟩
  | reserve bearer body now => exact reserve_step ym hvalid bearer body now

/-- No request changes the user row. -/
theorem serveUsage_user (d : UsageDeployment) (ym : String) (a : UsageAccount)
    (r : UsageRequest) : (serveUsage d ym a r).1.user = a.user := by
  have hinsert : ∀ {id key a'}, a.insertKey id key = some a' →
      a'.user = a.user := by
    intro id key a' h
    obtain ⟨-, rfl⟩ := UsageAccount.insertKey_eq_some h
    rfl
  cases r with
  | createKey scopes expiresAt newId =>
      rw [serveUsage]
      split
      · exact hinsert ‹_›
      · rfl
  | rotateKey keyId expiresAtOverride newId now =>
      rw [serveUsage]
      split
      · rename_i a' hrotate
        rw [rotateApiKeyForUser] at hrotate
        split at hrotate
        · split_ifs at hrotate
          obtain ⟨a₁, ha₁, rfl⟩ := Option.map_eq_some_iff.mp hrotate
          have huser : a₁.user = a.user := hinsert ha₁
          exact huser
        · cases hrotate
      · rfl
  | revokeKey keyId now =>
      rw [serveUsage, revokeApiKeyForUser]
      split
      · split_ifs <;> rfl
      · rfl
  | reserve bearer body now =>
      rw [serveUsage]
      rcases reserve_cases d ym a bearer body now with
        ⟨hsame, -⟩ | ⟨apiKeyId, -, runId, planId, -, -, hafter, -⟩
      · exact congrArg UsageAccount.user hsame
      · refine (congrArg UsageAccount.user hafter).trans ?_
        rw [reserveTransaction]
        cases a.usageCounters apiKeyId ym <;> dsimp only <;> split_ifs <;> rfl

end Step

/-! ## A month -/

/-- An account on a plan with a finite included quota and no overage, before the
first reservation of the month. -/
structure CappedMonth (d : UsageDeployment) (ym : String) where
  account : UsageAccount
  includedMonthly : ℕ
  valid : account.Valid
  plan : d.planOf account.user = some ⟨some includedMonthly, false⟩
  uncounted : ∀ id, account.usageCounters id ym = none

namespace CappedMonth

variable {d : UsageDeployment} {ym : String} (m : CappedMonth d ym)

/-- The account after the requests. -/
def after (requests : List UsageRequest) : UsageAccount :=
  finish (serveUsage d ym) m.account requests

/-- The reservations charged in the month: every charge inserts its row. -/
def charged (requests : List UsageRequest) : Finset (KeyId × String) :=
  (m.after requests).usageReservations.toFinset \
    m.account.usageReservations.toFinset

/-- The account-pooled quota over a run: the cap holds, and what is reported as
used never goes down. -/
def QuotaKept (requests : List UsageRequest) : Prop :=
  (m.charged requests).card ≤ m.includedMonthly ∧
    ∀ earlier later rest, requests = earlier ++ later ++ rest →
      (m.after earlier).usedTotal ym ≤ (m.after (earlier ++ later)).usedTotal ym

/-- No request of the run takes a key out of use that was counted this month. -/
def RetiresUncounted (requests : List UsageRequest) : Prop :=
  ∀ earlier r rest, requests = earlier ++ r :: rest →
    r.retiresCounted ym (m.after earlier) = false

theorem after_append (requests requests' : List UsageRequest) :
    m.after (requests ++ requests') =
      finish (serveUsage d ym) (m.after requests) requests' :=
  finish_append ..

theorem after_snoc (requests : List UsageRequest) (r : UsageRequest) :
    m.after (requests ++ [r]) = (serveUsage d ym (m.after requests) r).1 := by
  rw [after_append, finish_cons, finish_nil]

/-- The account stays valid and on its plan. -/
theorem after_valid (requests : List UsageRequest) :
    (m.after requests).Valid ∧ (m.after requests).user = m.account.user := by
  have hstep : ∀ (a : UsageAccount) (r : UsageRequest),
      a.Valid ∧ a.user = m.account.user →
        (serveUsage d ym a r).1.Valid ∧
          (serveUsage d ym a r).1.user = m.account.user := by
    intro a r h
    exact ⟨(serveUsage_step (d := d) ym h.1 r).2,
      (serveUsage_user d ym a r).trans h.2⟩
  exact finish_invariant hstep ⟨m.valid, rfl⟩ requests

theorem step (requests : List UsageRequest) (r : UsageRequest) :
    UsageStep ym (some ⟨some m.includedMonthly, false⟩) (m.after requests)
      (r.retires (m.after requests)) (m.after (requests ++ [r])) := by
  obtain ⟨hvalid, huser⟩ := m.after_valid requests
  have hstep := (serveUsage_step (d := d) ym hvalid r).1
  rw [huser, m.plan] at hstep
  rw [after_snoc]
  exact hstep

theorem usedTotal_start : (m.after []).usedTotal ym = 0 := by
  have hzero : ∀ id ∈ m.account.liveKeyIds, m.account.counted ym id = 0 := by
    intro id _
    rw [UsageAccount.counted, m.uncounted id, Option.getD_none]
  show (m.account.liveKeyIds.map (m.account.counted ym)).sum = 0
  rw [List.map_congr_left hzero]
  simp

/-- While no counted key is taken out of use, every charged reservation is in
the sum, and the sum respects the cap. -/
theorem charged_le_usedTotal {requests : List UsageRequest}
    (h : m.RetiresUncounted requests) :
    (m.charged requests).card ≤ (m.after requests).usedTotal ym ∧
      (m.after requests).usedTotal ym ≤ m.includedMonthly := by
  induction requests using List.reverseRecOn with
  | nil =>
      have hnone : m.charged [] = ∅ := Finset.sdiff_self _
      rw [hnone, usedTotal_start]
      exact ⟨le_rfl, Nat.zero_le _⟩
  | append_singleton requests r ih =>
      have hbefore : m.RetiresUncounted requests := by
        intro earlier r' rest hsplit
        exact h earlier r' (rest ++ [r]) (by simp [hsplit])
      obtain ⟨hcharged, hcap⟩ := ih hbefore
      have hr := h requests r [] (by simp)
      cases m.step requests r with
      | uncounted hretired hused hreserved =>
          rw [charged, hreserved, hused]
          exact ⟨hcharged, hcap⟩
      | retire id hretired hused hreserved =>
          have hzero : (m.after requests).counted ym id = 0 := by
            simpa [UsageRequest.retiresCounted, hretired] using hr
          rw [hzero, Nat.add_zero] at hused
          rw [charged, hreserved, hused]
          exact ⟨hcharged, hcap⟩
      | charge p reservation hretired hplan hnext hfresh hused hreserved =>
          obtain rfl := Option.some.inj hplan
          have hlt := lt_of_computeAllowedNext hnext
          have hnew : m.charged (requests ++ [r]) ⊆
              insert reservation (m.charged requests) := by
            intro x hx
            rw [charged, hreserved] at hx
            rw [charged]
            simp only [List.toFinset_append, Finset.mem_sdiff, Finset.mem_union,
              List.mem_toFinset, List.mem_singleton, Finset.mem_insert] at hx ⊢
            tauto
          have hcard := (Finset.card_le_card hnew).trans
            (Finset.card_insert_le reservation _)
          rw [hused]
          omega

/-- One request lowers the reported sum only by taking a counted key out of
use. -/
theorem usedTotal_le_snoc_iff (requests : List UsageRequest)
    (r : UsageRequest) :
    (m.after requests).usedTotal ym ≤ (m.after (requests ++ [r])).usedTotal ym ↔
      r.retiresCounted ym (m.after requests) = false := by
  rw [UsageRequest.retiresCounted]
  cases m.step requests r with
  | uncounted hretired hused hreserved => simp [hretired, hused]
  | retire id hretired hused hreserved =>
      simp only [hretired, Option.any_some, decide_eq_false_iff_not, not_lt,
        Nat.le_zero]
      omega
  | charge p reservation hretired hplan hnext hfresh hused hreserved =>
      simp [hretired, hused]

theorem usedTotal_le_append {earlier : List UsageRequest} :
    ∀ {later : List UsageRequest},
      m.RetiresUncounted (earlier ++ later) →
        (m.after earlier).usedTotal ym ≤
          (m.after (earlier ++ later)).usedTotal ym := by
  intro later
  induction later using List.reverseRecOn with
  | nil =>
      intro _
      rw [List.append_nil]
  | append_singleton later r ih =>
      intro h
      rw [← List.append_assoc] at h ⊢
      have hbefore : m.RetiresUncounted (earlier ++ later) := by
        intro earlier' r' rest hsplit
        exact h earlier' r' (rest ++ [r]) (by simp [hsplit])
      have hr := h (earlier ++ later) r [] rfl
      exact (ih hbefore).trans
        ((m.usedTotal_le_snoc_iff (earlier ++ later) r).mpr hr)

/-- The monthly quota is account-pooled exactly when no key that was counted
this month is rotated or revoked. -/
theorem quota_kept_iff (requests : List UsageRequest) :
    m.QuotaKept requests ↔ m.RetiresUncounted requests := by
  constructor
  · rintro ⟨-, hmono⟩ earlier r rest hsplit
    have hle := hmono earlier [r] rest (by simp [hsplit])
    exact (m.usedTotal_le_snoc_iff earlier r).mp hle
  · intro h
    refine ⟨?_, ?_⟩
    · obtain ⟨hcharged, hcap⟩ := m.charged_le_usedTotal h
      exact hcharged.trans hcap
    · intro earlier later rest hsplit
      refine m.usedTotal_le_append ?_
      intro earlier' r' rest' hsplit'
      exact h earlier' r' (rest' ++ rest) (by simp [hsplit, hsplit'])

/-! ### A new key in the middle of a month -/

/-- A deployment whose starter plan includes one run a month. -/
def oneRunDeployment : UsageDeployment where
  plans
    | .starter => ⟨some 1, false⟩
    | .enterprise => ⟨none, false⟩
    | _ => ⟨some 5000, true⟩
  dateParse text :=
    if text = "2026-01-05T00:00:00.000Z" then some 1767571200000 else none
  priceIdToPlanId _ := none
  emergencyAllow := false
  upgradeUrl := "https://example.com/pricing"
  contact := none

/-- A starter account with one active key. -/
def oneKeyAccount : UsageAccount where
  user := ⟨"starter", "none", none⟩
  apiKeysV2 id :=
    if id = "key-1" then some ⟨.active, [.meter], none⟩ else none
  apiKeys := [⟨"key-1", none⟩]
  usageCounters _ _ := none
  usageReservations := []

theorem oneKeyAccount_valid : oneKeyAccount.Valid where
  nodup := by decide
  live := by
    intro id hid
    obtain ⟨key, hkey, -⟩ := UsageAccount.isActive_eq_true hid
    have hone : id = "key-1" := by
      by_contra hne
      simp [oneKeyAccount, hne] at hkey
    subst hone
    decide
  counters := by
    intro id ym hcounter
    cases hcounter

def oneRunMonth : CappedMonth oneRunDeployment "2026-01" where
  account := oneKeyAccount
  includedMonthly := 1
  valid := oneKeyAccount_valid
  plan := rfl
  uncounted _ := rfl

def reserveWith (keyId runId : String) : UsageRequest :=
  .reserve (some keyId)
    (some ⟨some runId, some "2026-01-05T00:00:00.000Z", .missing⟩) 1767571200000

def revokeFirstKey : UsageRequest := .revokeKey "key-1" 1767571200000

def createSecondKey : UsageRequest := .createKey [.meter] none "key-2"

/-- Replacing the counted key resets the pool: two runs are charged where one is
included, and the reported usage falls back to zero. -/
theorem replacement_resets_quota :
    oneRunMonth.includedMonthly = 1 ∧
      (oneRunMonth.charged [reserveWith "key-1" "run-1", revokeFirstKey,
        createSecondKey, reserveWith "key-2" "run-2"]).card = 2 ∧
      (oneRunMonth.after [reserveWith "key-1" "run-1"]).usedTotal "2026-01" =
        1 ∧
      (oneRunMonth.after [reserveWith "key-1" "run-1",
        revokeFirstKey]).usedTotal "2026-01" = 0 ∧
      ¬ oneRunMonth.QuotaKept [reserveWith "key-1" "run-1", revokeFirstKey,
        createSecondKey, reserveWith "key-2" "run-2"] := by
  have hcharged : (oneRunMonth.charged [reserveWith "key-1" "run-1",
      revokeFirstKey, createSecondKey, reserveWith "key-2" "run-2"]).card = 2 := by
    decide +kernel
  refine ⟨rfl, hcharged, by decide +kernel, by decide +kernel, ?_⟩
  rintro ⟨hcap, -⟩
  rw [hcharged] at hcap
  exact absurd hcap (by decide)

end CappedMonth

end AgentSkeptic.Hosted
