import AgentSkeptic.Events.RunEvents
import AgentSkeptic.Hosted.UsageQuota
import AgentSkeptic.Support.RetriedCalls

/-!
# The license preflight of the CLI

`sdk/transport.ts` and `commercial/licensePreflight.ts`: before a licensed verification
the CLI asks `POST /api/v1/usage/reserve` for its run, up to four times.  An attempt ends
in an answer or in an error that `fetch` or `text()` throws; the waits between the
attempts do not matter here.
-/

namespace AgentSkeptic.Hosted.License

open AgentSkeptic.Support AgentSkeptic.Events

/-! ## Answers -/

structure HttpAnswer where
  status : ℕ
  /-- `JSON.parse(text)`; `none` where it throws. -/
  parsed : Option Json
  /-- The `x-request-id` header. -/
  requestId : Option String

/-- What one attempt of a call came to. -/
inductive FetchOutcome where
  | threw (message : String)
  | answered (answer : HttpAnswer)

/-- `res.ok`. -/
def HttpAnswer.ok (answer : HttpAnswer) : Bool :=
  200 ≤ answer.status && answer.status ≤ 299

def requestIdSuffix (answer : HttpAnswer) : String :=
  let rid := (answer.requestId.map jsTrim).getD ""
  if rid = "" then "" else " [x-request-id=" ++ rid ++ "]"

/-- `"allowed" in parsed` with the given value. -/
def allowedIs (value : Bool) : Option Json → Bool
  | some (.obj members) =>
      match ownMember members "allowed" with
      | some (.bool allowed) => allowed == value
      | _ => false
  | _ => false

/-! ## Denials -/

def licenseDenied : String := "LICENSE_DENIED"

/-- A template literal throws where an object has its own `toString`. -/
def toPrimitiveError : String := "Cannot convert object to primitive value"

/-- `` `${body.message || "..."}${suffix}${rid}` ``, where the codes with a plan page
have `suffix`. -/
def denyError (body : Json) (rid code default : String) (withUpgradeUrl : Bool) :
    Option TruthLayerError := do
  let upgradeUrl := body.member "upgrade_url"
  let suffix ←
    if withUpgradeUrl && upgradeUrl.truthy then (" " ++ ·) <$> upgradeUrl.toText
    else some ""
  let message := body.member "message"
  let text ← if message.truthy then message.toText else some default
  pure ⟨code, text ++ suffix ++ rid⟩

/-- `none` where the message cannot be made. -/
def mapReserveDenyToTruthError (body : Json) (rid : String) : Option TruthLayerError :=
  match textOf body "code" with
  | some "ENFORCEMENT_REQUIRES_PAID_PLAN" =>
      denyError body rid "ENFORCEMENT_REQUIRES_PAID_PLAN"
        "Enforcement requires a paid plan." true
  | some "VERIFICATION_REQUIRES_SUBSCRIPTION" =>
      denyError body rid "VERIFICATION_REQUIRES_SUBSCRIPTION"
        "Licensed verification requires an active subscription." true
  | some "SUBSCRIPTION_INACTIVE" =>
      denyError body rid licenseDenied
        "Subscription is not active for licensed verification or CI enforcement." true
  | some "BILLING_PRICE_UNMAPPED" =>
      denyError body rid licenseDenied
        "Stripe price is not mapped in this deployment." true
  | some "INSUFFICIENT_SCOPE" =>
      denyError body rid licenseDenied
        "API key does not include required scope for this operation." false
  | some "KEY_EXPIRED" => denyError body rid licenseDenied "API key is expired." false
  | some "KEY_REVOKED" => denyError body rid licenseDenied "API key is revoked." false
  | some "KEY_DISABLED" => denyError body rid licenseDenied "API key is disabled." false
  | _ => do
      let message := body.member "message"
      let default ←
        if message.truthy then some ""
        else
          (fun code => "License check failed (" ++ code ++ ").") <$>
            (body.member "code").toText
      denyError body rid licenseDenied default false

/-! ## `postUsageReserve` -/

def RETRY_MS : List ℕ := [250, 750, 2250]

/-- The body of the loop: an outcome of `fetch` ends the call or is kept as `lastErr`. -/
def judgeReserve : FetchOutcome → Verdict String (Except TruthLayerError Unit)
  | .threw message => .retry message
  | .answered answer =>
      let rid := requestIdSuffix answer
      if answer.status ∈ [429, 502, 503, 504] then
        .retry ("HTTP " ++ toString answer.status ++ rid)
      else if !answer.ok then
        if allowedIs false answer.parsed then
          match mapReserveDenyToTruthError (answer.parsed.getD .null) rid with
          | some error => .stop (.error error)
          | none => .retry toPrimitiveError
        else
          .stop (.error ⟨licenseDenied,
            "License check failed with HTTP " ++ toString answer.status ++ "." ++ rid⟩)
      else if !allowedIs true answer.parsed then
        .stop (.error ⟨licenseDenied,
          "License server returned an unexpected response." ++ rid⟩)
      else .stop (.ok ())

/-- After the last attempt. -/
def reserveUnavailable (lastErr : Option String) : Except TruthLayerError Unit :=
  .error ⟨"LICENSE_USAGE_UNAVAILABLE",
    "Could not reach license service after retries: " ++ lastErr.getD "unknown"⟩

/-- `none` while the call waits for its next attempt. -/
def postUsageReserve (outcomes : List FetchOutcome) :
    Option (Except TruthLayerError Unit) :=
  retryLoop judgeReserve reserveUnavailable (RETRY_MS.length + 1) none outcomes

/-- The answer of a server that reserved the run. -/
def Allows : FetchOutcome → Prop
  | .threw _ => False
  | .answered answer => answer.ok = true ∧ allowedIs true answer.parsed = true

theorem allows_of_judge {outcome : FetchOutcome}
    (h : judgeReserve outcome = .stop (.ok ())) : Allows outcome := by
  cases outcome with
  | threw message => cases h
  | answered answer =>
      simp only [judgeReserve] at h
      split_ifs at h with hretry hok hdenied hallowed
      · split at h <;> cases h
      · cases h
      · cases h
      · exact ⟨by simpa using hok, by simpa using hallowed⟩

/-- The call succeeds only on an attempt that was allowed. -/
theorem exists_allows_of_ok {outcomes : List FetchOutcome}
    (h : postUsageReserve outcomes = some (.ok ())) : ∃ o ∈ outcomes, Allows o := by
  rcases retryLoop_eq_some h with ⟨o, ho, hjudge⟩ | ⟨last, hlast⟩
  · exact ⟨o, ho, allows_of_judge hjudge⟩
  · cases hlast

theorem postUsageReserve_isSome {outcomes : List FetchOutcome}
    (h : 4 ≤ outcomes.length) : (postUsageReserve outcomes).isSome = true :=
  retryLoop_isSome h

/-! ## `runLicensePreflightIfNeeded` -/

/-- The build flags and the environment of a CLI process. -/
structure LicenseEnv where
  preflightEnabled : Bool
  agentskepticApiKey : Option String
  workflowVerifierApiKey : Option String
  agentskepticRunId : Option String
  workflowVerifierRunId : Option String
  /-- `crypto.randomUUID()`. -/
  randomUUID : String
  /-- `new Date().toISOString()`. -/
  nowIso : String

/-- `value?.trim() || next`. -/
def trimmedOr (value : Option String) (next : Option String) : Option String :=
  match value.map jsTrim with
  | some text => if text = "" then next else some text
  | none => next

def resolveApiKey (env : LicenseEnv) : Option String :=
  trimmedOr env.agentskepticApiKey (trimmedOr env.workflowVerifierApiKey none)

/-- A process that asks for a license. -/
structure Preflight where
  env : LicenseEnv
  intent : ReserveIntent
  optsRunId : Option String

namespace Preflight

def runId (p : Preflight) : String :=
  (trimmedOr p.optsRunId (trimmedOr p.env.agentskepticRunId
    (trimmedOr p.env.workflowVerifierRunId none))).getD p.env.randomUUID

/-- The key of the requests; `none` where the process sends none. -/
def apiKey (p : Preflight) : Option String :=
  if p.env.preflightEnabled then resolveApiKey p.env else none

def intentText (p : Preflight) : String :=
  match p.intent with
  | .verify => "verify"
  | .enforce => "enforce"

/-- The body of every attempt. -/
def body (p : Preflight) : ReserveBody :=
  ⟨some p.runId, some p.env.nowIso, .text p.intentText⟩

end Preflight

def licenseKeyMissing : TruthLayerError :=
  ⟨"LICENSE_KEY_MISSING", "Commercial agentskeptic requires AGENTSKEPTIC_API_KEY for " ++
    "contract verification (legacy WORKFLOW_VERIFIER_API_KEY is still accepted). Sign in " ++
    "at the product website to obtain a key."⟩

/-- The run id, where a license was needed. -/
def runLicensePreflightIfNeeded (p : Preflight) (outcomes : List FetchOutcome) :
    Option (Except TruthLayerError (Option String)) :=
  if !p.env.preflightEnabled then some (.ok none)
  else
    match resolveApiKey p.env with
    | none => some (.error licenseKeyMissing)
    | some _ => (postUsageReserve outcomes).map fun result =>
        result.map fun _ => some p.runId

theorem runLicensePreflight_isSome (p : Preflight) {outcomes : List FetchOutcome}
    (h : 4 ≤ outcomes.length) :
    (runLicensePreflightIfNeeded p outcomes).isSome = true := by
  rw [runLicensePreflightIfNeeded]
  split
  · rfl
  · split
    · rfl
    · rw [Option.isSome_map]
      exact postUsageReserve_isSome h

/-- A process that goes on with a run id had a key, and an allowed attempt. -/
theorem runLicensePreflight_ok {p : Preflight} {outcomes : List FetchOutcome}
    {runId : String} (h : runLicensePreflightIfNeeded p outcomes = some (.ok (some runId))) :
    runId = p.runId ∧ (∃ key, p.apiKey = some key) ∧ ∃ o ∈ outcomes, Allows o := by
  rw [runLicensePreflightIfNeeded] at h
  split at h
  · cases h
  · rename_i henabled
    split at h
    · cases h
    · rename_i key hkey
      obtain ⟨result, hpost, hresult⟩ := Option.map_eq_some_iff.mp h
      cases result with
      | error error => cases hresult
      | ok _ =>
          refine ⟨(Option.some.inj (Except.ok.inj hresult)).symm, ⟨key, ?_⟩,
            exists_allows_of_ok hpost⟩
          rw [Preflight.apiKey, if_pos (by simpa using henabled), hkey]

end AgentSkeptic.Hosted.License
