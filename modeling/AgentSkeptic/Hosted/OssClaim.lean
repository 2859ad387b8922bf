import AgentSkeptic.Hosted.MagicLinkGate
import AgentSkeptic.Hosted.OssPendingCookie
import AgentSkeptic.Support.KeyedTable

/-!
# OSS claim tickets

`POST /api/oss/claim-ticket`, `GET /verify/link` and `POST /api/oss/claim-redeem`.
The CLI mints a ticket under the hash of a secret and gets a handoff token; the
browser trades the token for a pending cookie; a signed-in user redeems the
cookie, or the secret itself.  Each of the three runs one serializable
transaction on `oss_claim_ticket` and the hourly counters.

A ticket keeps its first owner, and a token yields one cookie, in every order of
the requests (`claim_has_one_owner`).
-/

namespace AgentSkeptic.Hosted.OssClaim

open AgentSkeptic.Support

/-! ## Tables -/

/-- A row of `oss_claim_ticket`. -/
structure TicketRow where
  secretHash : String
  runId : String
  terminalStatus : String
  workloadClass : String
  subcommand : String
  buildProfile : String
  issuedAt : String
  telemetrySource : String
  createdAt : ℤ
  expiresAt : ℤ
  claimedAt : Option ℤ
  userId : Option String
  handoffToken : Option String
  handoffConsumedAt : Option ℤ
  interactiveHumanClaim : Bool
  activationRequestId : String
  deriving DecidableEq, Repr

/-- The table with its primary key and the partial unique index on the token. -/
structure TicketTable where
  table : KeyedTable String TicketRow TicketRow.secretHash
  uniqueToken : table.UniqueOn TicketRow.handoffToken

namespace TicketTable

def find? (t : TicketTable) (secretHash : String) : Option TicketRow :=
  t.table.find? secretHash

/-- The row with the handoff token. -/
def findToken? (t : TicketTable) (token : String) : Option TicketRow :=
  t.table.rows.find? fun row => row.handoffToken = some token

/-- A row other than that of `secretHash` has the token. -/
def tokenTaken (t : TicketTable) (secretHash : String) (token : Option String) : Bool :=
  t.table.rows.any fun row =>
    row.secretHash != secretHash && row.handoffToken.isSome && row.handoffToken == token

theorem not_taken {t : TicketTable} {secretHash : String} {token : Option String}
    (h : t.tokenTaken secretHash token = false) {row : TicketRow}
    (hrow : row ∈ t.table.rows) (hother : row.secretHash ≠ secretHash) {a : String}
    (ha : row.handoffToken = some a) : token ≠ some a := by
  intro heq
  have hnone := List.any_eq_false.mp h row hrow
  simp [hother, ha, heq] at hnone

/-- `INSERT`; `none` where it violates a unique constraint. -/
def insert? (t : TicketTable) (row : TicketRow) : Option TicketTable :=
  if htaken : t.tokenTaken row.secretHash row.handoffToken = true then none
  else
    match hinsert : t.table.insert? row with
    | none => none
    | some table =>
        some
          { table
            uniqueToken := by
              apply t.uniqueToken.insert? hinsert
              intro r hr a ha
              have hother : r.secretHash ≠ row.secretHash := by
                intro heq
                unfold KeyedTable.insert? at hinsert
                split_ifs at hinsert with hkey
                apply hkey
                rw [List.contains_iff_mem, ← heq]
                exact List.mem_map_of_mem hr
              exact not_taken (Bool.eq_false_iff.mpr htaken) hr hother ha }

def setHandoff (token : String) (row : TicketRow) : TicketRow :=
  { row with handoffToken := some token, handoffConsumedAt := none }

/-- The handoff token of a ticket is replaced. -/
def rotate? (t : TicketTable) (secretHash token : String) : Option TicketTable :=
  if htaken : t.tokenTaken secretHash (some token) = true then none
  else
    some
      { table := t.table.updateWhere (fun row => row.secretHash = secretHash)
          (setHandoff token) fun _ => rfl
        uniqueToken := by
          apply t.uniqueToken.updateWhere_of_fresh secretHash _ _ (fun _ => rfl)
          intro r hr hother heq
          exact not_taken (Bool.eq_false_iff.mpr htaken) hr hother heq rfl }

/-- An update that leaves the secret and the token of each row alone. -/
def update (t : TicketTable) (secretHash : String) (f : TicketRow → TicketRow)
    (hkey : ∀ row, (f row).secretHash = row.secretHash)
    (htoken : ∀ row, (f row).handoffToken = row.handoffToken) : TicketTable where
  table := t.table.updateWhere (fun row => row.secretHash = secretHash) f hkey
  uniqueToken := t.uniqueToken.updateWhere_of_kept _ _ hkey htoken

/-- `SET handoff_consumed_at`. -/
def consume (t : TicketTable) (secretHash : String) (now : ℤ) : TicketTable :=
  t.update secretHash (fun row => { row with handoffConsumedAt := some now })
    (fun _ => rfl) fun _ => rfl

/-- `SET user_id, claimed_at`. -/
def claim (t : TicketTable) (secretHash userId : String) (claimedAt : ℤ) : TicketTable :=
  t.update secretHash
    (fun row => { row with userId := some userId, claimedAt := some claimedAt })
    (fun _ => rfl) fun _ => rfl

end TicketTable

/-! ## Rate limits -/

inductive OssClaimRateScope where
  | claimTicketIp | claimHandoffIp | claimRedeemUser
  deriving DecidableEq, Repr

def OSS_CLAIM_TICKET_IP_CAP : ℕ := 60

def OSS_CLAIM_REDEEM_USER_CAP : ℕ := 30

def OSS_CLAIM_HANDOFF_IP_CAP : ℕ := 30

/-- The primary key of `oss_claim_rate_limit_counter`. -/
structure RateKey where
  scope : OssClaimRateScope
  windowStart : ℤ
  scopeKey : String
  deriving DecidableEq, Repr

/-- A row of the funnel log, written with the claim it reports. -/
structure ClaimLogged where
  userId : String
  runId : String
  deriving DecidableEq, Repr

structure ClaimDb where
  /-- The ids in `user`. -/
  users : List String
  tickets : TicketTable
  counters : RateKey → Option ℕ
  funnelEvents : List ClaimLogged

/-- What is thrown out of a transaction, which rolls it back. -/
inductive TxFailure where
  | rateLimited
  | error (message : String)
  deriving DecidableEq, Repr

/-- The counter of the hour is inserted with 1, or incremented below the cap. -/
def reserveSlot (scope : OssClaimRateScope) (cap : ℕ) (db : ClaimDb) (scopeKey : String)
    (now : ℤ) : Except TxFailure ClaimDb :=
  let k : RateKey := ⟨scope, MagicLink.utcHourStart now, scopeKey⟩
  match db.counters k with
  | none => .ok { db with counters := Function.update db.counters k (some 1) }
  | some c =>
      if cap ≤ c then .error .rateLimited
      else .ok { db with counters := Function.update db.counters k (some (c + 1)) }

def reserveClaimTicketIpSlot : ClaimDb → String → ℤ → Except TxFailure ClaimDb :=
  reserveSlot .claimTicketIp OSS_CLAIM_TICKET_IP_CAP

def reserveClaimHandoffIpSlot : ClaimDb → String → ℤ → Except TxFailure ClaimDb :=
  reserveSlot .claimHandoffIp OSS_CLAIM_HANDOFF_IP_CAP

def reserveClaimRedeemUserSlot : ClaimDb → String → ℤ → Except TxFailure ClaimDb :=
  reserveSlot .claimRedeemUser OSS_CLAIM_REDEEM_USER_CAP

/-- A slot writes a counter and nothing else. -/
theorem reserveSlot_tickets {scope : OssClaimRateScope} {cap : ℕ} {db db' : ClaimDb}
    {scopeKey : String} {now : ℤ} (h : reserveSlot scope cap db scopeKey now = .ok db') :
    db'.tickets = db.tickets := by
  simp only [reserveSlot] at h
  split at h
  · obtain rfl := Except.ok.inj h
    rfl
  · split_ifs at h
    obtain rfl := Except.ok.inj h
    rfl

/-! ## Answers -/

def ACTIVATION_PROBLEM_BASE : String := "https://agentskeptic.com/problems"

structure Problem where
  status : ℕ
  type : String
  title : String
  detail : String
  code : String
  deriving DecidableEq, Repr

/-- `redeemJson`. -/
structure RedeemJson where
  runId : String
  terminalStatus : String
  workloadClass : String
  subcommand : String
  buildProfile : String
  claimedAt : ℤ
  deriving DecidableEq, Repr

/-- A response; `requestId` is its `x-request-id` where the ticket decides it. -/
inductive ClaimAnswer where
  | problem (body : Problem)
  /-- 200 with the handoff URL of the token. -/
  | jsonHandoff (requestId handoffToken : String)
  /-- 204. -/
  | noContent (requestId : String)
  /-- 302 to `/claim` with an error. -/
  | errorRedirect (error : String)
  /-- 302 to the sign-in page with the pending cookie. -/
  | signinRedirect (setCookie : String)
  | redeemed (requestId : String) (body : RedeemJson)
  deriving DecidableEq, Repr

namespace ClaimAnswer

/-- The response sets a pending cookie. -/
def yieldsCookie : ClaimAnswer → Bool
  | signinRedirect _ => true
  | _ => false

def isRedeemed : ClaimAnswer → Bool
  | redeemed _ _ => true
  | _ => false

end ClaimAnswer

def problemOf (status : ℕ) (kind title detail code : String) : ClaimAnswer :=
  .problem ⟨status, ACTIVATION_PROBLEM_BASE ++ "/" ++ kind, title, detail, code⟩

def rateLimitedProblem (detail : String) : ClaimAnswer :=
  problemOf 429 "rate-limited" "Too many requests" detail "RATE_LIMITED"

def serverErrorProblem (detail : String) : ClaimAnswer :=
  problemOf 503 "server-error" "Service unavailable" detail "SERVER_ERROR"

/-! ## Requests -/

/-- What `node:crypto`, `Date.parse` and `Number` contribute. -/
structure Runtime where
  crypto : CookieCrypto
  /-- Of a string in UTF-8, in hexadecimal. -/
  sha256Hex : String → String
  /-- The `n`-th token of 32 random bytes in base64url. -/
  randomToken : ℕ → String
  /-- `Date.parse`, where it is not `NaN`. -/
  dateParse : String → Option ℤ
  /-- `Number(text)`, where it is finite. -/
  finiteNumber : String → Option ℚ

/-- What became of the attempts at a transaction. -/
inductive Fate where
  | reported
  /-- Every attempt was aborted, or the database was not reached. -/
  | aborted
  /-- The last attempt committed, but its answer was lost. -/
  | unreported
  deriving DecidableEq, Repr

/-- What a request meets: the readings of its clock in order, the tokens that
aborted attempts have drawn, and the fate of the attempts. -/
structure Attempts where
  clock : ℕ → ℤ
  lostDraws : ℕ
  fate : Fate

structure TicketRequest where
  header : String → Option String
  /-- `req.text()`; `none` where it cannot be read. -/
  body : Option (List Char)
  /-- What `resolveActivationRequestId` returns. -/
  requestId : String
  attempts : Attempts

structure HandoffRequest where
  header : String → Option String
  /-- `searchParams.get("h")`. -/
  h : Option String
  attempts : Attempts

structure RedeemRequest where
  header : String → Option String
  /-- `session?.user?.id`. -/
  session : Option String
  pendingCookie : Option String
  body : Option (List Char)
  attempts : Attempts

inductive ClaimRequest where
  | ticket (r : TicketRequest)
  | handoff (r : HandoffRequest)
  | redeem (r : RedeemRequest)

structure ClaimState where
  db : ClaimDb
  /-- How many tokens have been drawn. -/
  drawn : ℕ

variable (rt : Runtime)

def hashOssClaimSecret (claimSecret : String) : String := rt.sha256Hex claimSecret

/-- A committed transaction leaves its tables; any other leaves the old ones. -/
def settle (s : ClaimState) (fate : Fate) (drawn : ℕ)
    (result : Except TxFailure (ClaimDb × ClaimAnswer))
    (rateLimited unavailable : ClaimAnswer) : ClaimState × ClaimAnswer :=
  match fate, result with
  | .aborted, _ => (⟨s.db, drawn⟩, unavailable)
  | .reported, .ok (db, answer) => (⟨db, drawn⟩, answer)
  | .unreported, .ok (db, _) => (⟨db, drawn⟩, unavailable)
  | _, .error .rateLimited => (⟨s.db, drawn⟩, rateLimited)
  | _, .error (.error _) => (⟨s.db, drawn⟩, unavailable)

/-- `rawCt?.toLowerCase()` starts with `application/json`. -/
def isJsonContentType (header : String → Option String) : Bool :=
  "application/json".toList.isPrefixOf
    (((header "content-type").getD "").toList.map Char.toLower)

/-! ## Minting -/

def PRODUCT_ACTIVATION_MAX_BODY_BYTES : ℕ := 4096

def PRODUCT_ACTIVATION_MAX_ISSUED_AT_SKEW_MS : ℤ := 300000

def PRODUCT_ACTIVATION_CLI_PRODUCT_HEADER : String := "X-AgentSkeptic-Product"

def PRODUCT_ACTIVATION_CLI_VERSION_HEADER : String := "X-AgentSkeptic-Cli-Version"

def PRODUCT_ACTIVATION_CLI_PRODUCT_VALUE : String := "cli"

/-- 72 hours. -/
def OSS_CLAIM_TICKET_TTL_MS : ℤ := 259200000

def expiresAtFromCreated (created : ℤ) : ℤ := created + OSS_CLAIM_TICKET_TTL_MS

def isVersionSuffixChar (c : Char) : Bool :=
  c == '-' || c == '+' || c == '.' || c == '_' || c.isAlphanum

/-- Digits, and what follows them. -/
def afterDigits (text : List Char) : Option (List Char) :=
  if text.takeWhile Char.isDigit = [] then none else some (text.dropWhile Char.isDigit)

def afterDot : List Char → Option (List Char)
  | '.' :: rest => some rest
  | _ => none

/-- `/^[0-9]+\.[0-9]+\.[0-9]+(?:[-+._a-zA-Z0-9]*)?$/` and a length of 1 to 64. -/
def isCliVersion (version : String) : Bool :=
  let suffix := do
    let rest ← afterDigits version.toList
    let rest ← afterDot rest
    let rest ← afterDigits rest
    let rest ← afterDot rest
    afterDigits rest
  version.length ≤ 64 && suffix.any (·.all isVersionSuffixChar)

/-- `assertCliHeaders` does not throw. -/
def hasCliHeaders (header : String → Option String) : Bool :=
  (header PRODUCT_ACTIVATION_CLI_PRODUCT_HEADER).map jsTrim ==
      some PRODUCT_ACTIVATION_CLI_PRODUCT_VALUE &&
    ((header PRODUCT_ACTIVATION_CLI_VERSION_HEADER).map jsTrim).any isCliVersion

/-- `ossClaimTicketRequestSchema`'s output; `telemetrySource` is set in version 2. -/
structure OssClaimTicketRequest where
  claimSecret : String
  runId : String
  issuedAt : String
  terminalStatus : String
  workloadClass : String
  subcommand : String
  buildProfile : String
  interactiveHuman : Option Bool
  telemetrySource : Option String
  deriving DecidableEq, Repr

/-- A string member that passes `test`. -/
def textMember (members : List (String × Json)) (key : String) (test : String → Bool) :
    Option String :=
  match ownMember members key with
  | some (.str s) => if test s then some s else none
  | _ => none

/-- `z.string().min(1).max(n)`, in UTF-16 units. -/
def hasLength (n : ℕ) (s : String) : Bool :=
  1 ≤ (utf16 s).length && (utf16 s).length ≤ n

/-- `z.boolean().optional()`. -/
def optionalFlag (members : List (String × Json)) (key : String) : Option (Option Bool) :=
  match ownMember members key with
  | none => some none
  | some (.bool b) => some (some b)
  | some _ => none

def ossClaimTicketCore (members : List (String × Json)) (telemetrySource : Option String) :
    Option OssClaimTicketRequest := do
  let claimSecret ← textMember members "claim_secret" isHex64
  let runId ← textMember members "run_id" (hasLength 256)
  let issuedAt ← textMember members "issued_at" (hasLength 64)
  let terminalStatus ← textMember members "terminal_status"
    (["complete", "inconsistent", "incomplete"].contains ·)
  let workloadClass ← textMember members "workload_class"
    (["bundled_examples", "non_bundled"].contains ·)
  let subcommand ← textMember members "subcommand"
    (["batch_verify", "quick_verify"].contains ·)
  let buildProfile ← textMember members "build_profile" (["oss", "commercial"].contains ·)
  let interactiveHuman ← optionalFlag members "interactive_human"
  pure
    { claimSecret, runId, issuedAt, terminalStatus, workloadClass, subcommand, buildProfile,
      interactiveHuman, telemetrySource }

def ossClaimTicketRequestSchemaV2 (members : List (String × Json)) :
    Option OssClaimTicketRequest :=
  match ownMember members "schema_version" with
  | some (.num n) =>
      if n = .int 2 then do
        let source ← textMember members "telemetry_source" (["local_dev", "unknown"].contains ·)
        ossClaimTicketCore members (some source)
      else none
  | _ => none

/-- A `schema_version` of any value is refused. -/
def ossClaimTicketRequestSchemaV1 (members : List (String × Json)) :
    Option OssClaimTicketRequest :=
  if (ownMember members "schema_version").isSome then none
  else ossClaimTicketCore members none

def ossClaimTicketRequestSchema : Json → Option OssClaimTicketRequest
  | .obj members =>
      (ossClaimTicketRequestSchemaV2 members).or (ossClaimTicketRequestSchemaV1 members)
  | _ => none

def validateIssuedAtSkew (issuedAt : String) (now : ℤ) : Bool :=
  (rt.dateParse issuedAt).any fun t => |now - t| ≤ PRODUCT_ACTIVATION_MAX_ISSUED_AT_SKEW_MS

def newTicketRow (body : OssClaimTicketRequest) (requestId : String) (createdAt : ℤ)
    (handoffToken : String) : TicketRow where
  secretHash := hashOssClaimSecret rt body.claimSecret
  runId := body.runId
  terminalStatus := body.terminalStatus
  workloadClass := body.workloadClass
  subcommand := body.subcommand
  buildProfile := body.buildProfile
  issuedAt := body.issuedAt
  telemetrySource := body.telemetrySource.getD "legacy_unattributed"
  createdAt
  expiresAt := expiresAtFromCreated createdAt
  claimedAt := none
  userId := none
  handoffToken := some handoffToken
  handoffConsumedAt := none
  interactiveHumanClaim := body.interactiveHuman == some true
  activationRequestId := requestId

/-- The insert loop, and the tokens drawn after it: after a unique violation the
transaction is aborted, and the next attempt throws. -/
def insertTicket (db : ClaimDb) (row : String → TicketRow) (aborted : Bool) :
    (attempts next : ℕ) → ℕ × Except TxFailure (ClaimDb × ClaimAnswer)
  | 0, next =>
      (next + 1,
        .error (.error "oss_claim_ticket: exhausted handoff_token uniqueness retries"))
  | attempts + 1, next =>
      if aborted then (next + 1, .error (.error "current transaction is aborted"))
      else
        match db.tickets.insert? (row (rt.randomToken next)) with
        | some tickets =>
            (next + 1, .ok ({ db with tickets },
              .jsonHandoff (row (rt.randomToken next)).activationRequestId
                (rt.randomToken next)))
        | none => insertTicket db row true attempts (next + 1)

/-- A new token for an existing ticket. -/
def rotateTicket (db : ClaimDb) (row : TicketRow) (next : ℕ) :
    ℕ × Except TxFailure (ClaimDb × ClaimAnswer) :=
  match db.tickets.rotate? row.secretHash (rt.randomToken next) with
  | some tickets =>
      (next + 1,
        .ok ({ db with tickets }, .jsonHandoff row.activationRequestId (rt.randomToken next)))
  | none => (next + 1, .error (.error "duplicate key value violates unique constraint"))

/-- The transaction of `claim-ticket`, and the tokens drawn after it. -/
def claimTicketTxn (db : ClaimDb) (body : OssClaimTicketRequest) (ipKey requestId : String)
    (clock : ℕ → ℤ) (next : ℕ) : ℕ × Except TxFailure (ClaimDb × ClaimAnswer) :=
  match db.tickets.find? (hashOssClaimSecret rt body.claimSecret) with
  | some row =>
      if row.claimedAt.isSome then (next, .ok (db, .noContent row.activationRequestId))
      else if row.handoffConsumedAt.isNone then
        match row.handoffToken.filter (· ≠ "") with
        | some token => (next, .ok (db, .jsonHandoff row.activationRequestId token))
        | none => rotateTicket rt db row next
      else rotateTicket rt db row next
  | none =>
      match reserveClaimTicketIpSlot db ipKey (clock 1) with
      | .error failure => (next, .error failure)
      | .ok db => insertTicket rt db (newTicketRow rt body requestId (clock 2)) false 8 next

def badRequest (detail code : String) : ClaimAnswer :=
  problemOf 400 "bad-request" "Bad request" detail code

def payloadTooLarge : ClaimAnswer :=
  problemOf 413 "payload-too-large" "Payload too large"
    "Request body exceeds the maximum allowed size." "PAYLOAD_TOO_LARGE"

/-- The checks before the transaction, in their order. -/
def checkTicketRequest (r : TicketRequest) : Except ClaimAnswer OssClaimTicketRequest :=
  if !isJsonContentType r.header then
    .error (badRequest "Content-Type must be application/json." "UNSUPPORTED_MEDIA_TYPE")
  else if ((r.header "content-length").bind rt.finiteNumber).any
      ((PRODUCT_ACTIVATION_MAX_BODY_BYTES : ℚ) < ·) then
    .error payloadTooLarge
  else
    match r.body with
    | none => .error (badRequest "Could not read request body." "BAD_REQUEST")
    | some rawText =>
        if PRODUCT_ACTIVATION_MAX_BODY_BYTES < (utf8Encode rawText).length then
          .error payloadTooLarge
        else if !hasCliHeaders r.header then
          .error (problemOf 403 "forbidden" "Forbidden"
            "This endpoint requires a supported AgentSkeptic CLI client." "FORBIDDEN")
        else
          match parseJson rawText with
          | none => .error (badRequest "Invalid JSON." "BAD_REQUEST")
          | some jsonBody =>
              match ossClaimTicketRequestSchema jsonBody with
              | none => .error (badRequest "Request body failed validation." "VALIDATION_FAILED")
              | some body =>
                  if validateIssuedAtSkew rt body.issuedAt (r.attempts.clock 0) then .ok body
                  else
                    .error (badRequest
                      "issued_at is missing, invalid, or skewed too far from server time."
                      "ISSUED_AT_INVALID")

def postClaimTicket (s : ClaimState) (r : TicketRequest) : ClaimState × ClaimAnswer :=
  match checkTicketRequest rt r with
  | .error answer => (s, answer)
  | .ok body =>
      let (drawn, result) := claimTicketTxn rt s.db body
        (MagicLink.extractClientIpKey r.header) r.requestId r.attempts.clock
        (s.drawn + r.attempts.lostDraws)
      settle s r.attempts.fate drawn result
        (rateLimitedProblem "Claim ticket rate limit exceeded for this IP.")
        (serverErrorProblem "Could not complete claim ticket. Try again later.")

/-! ## Handoff -/

def MAX_HANDOFF_QUERY_LEN : ℕ := 256

/-- The cookie for an unclaimed, unexpired ticket; `now` and `signedAt` are two
readings of the clock. -/
def mintOssClaimPendingSetCookieHeader (row : TicketRow) (now signedAt : ℤ) :
    Option String :=
  if row.claimedAt.isSome || row.expiresAt < now then none
  else
    (signPendingEnvelopeV1 rt.crypto row.secretHash row.expiresAt signedAt).map
      fun signed => buildSetCookiePendingHeader signed.1 signed.2

/-- The transaction of `runOssClaimHandoffGet`. -/
def handoffTxn (db : ClaimDb) (ipKey h : String) (clock : ℕ → ℤ) :
    Except TxFailure (ClaimDb × ClaimAnswer) :=
  match reserveClaimHandoffIpSlot db ipKey (clock 0) with
  | .error failure => .error failure
  | .ok db =>
      match db.tickets.findToken? h with
      | none => .ok (db, .errorRedirect "handoff_invalid")
      | some row =>
          if row.expiresAt < clock 1 || row.claimedAt.isSome then
            .ok (db, .errorRedirect "handoff_invalid")
          else if row.handoffConsumedAt.isSome then .ok (db, .errorRedirect "handoff_used")
          else
            match mintOssClaimPendingSetCookieHeader rt row (clock 2) (clock 3) with
            | none => .ok (db, .errorRedirect "handoff_invalid")
            | some setCookie =>
                .ok ({ db with tickets := db.tickets.consume row.secretHash (clock 1) },
                  .signinRedirect setCookie)

/-- `hRaw?.trim() ?? ""`. -/
def HandoffRequest.token (r : HandoffRequest) : String := (r.h.map jsTrim).getD ""

def runOssClaimHandoffGet (s : ClaimState) (r : HandoffRequest) : ClaimState × ClaimAnswer :=
  let length := (utf16 r.token).length
  if length = 0 ∨ MAX_HANDOFF_QUERY_LEN < length then (s, .errorRedirect "handoff_invalid")
  else
    settle s r.attempts.fate s.drawn
      (handoffTxn rt s.db (MagicLink.extractClientIpKey r.header) r.token r.attempts.clock)
      (rateLimitedProblem "Claim handoff rate limit exceeded for this IP.")
      (.errorRedirect "handoff_invalid")

/-! ## Redeem -/

/-- The output: `claim_secret`, where it is there. -/
def ossClaimRedeemRequestSchema : Json → Option (Option String)
  | .obj members =>
      if members.all (·.1 == "claim_secret") then
        match ownMember members "claim_secret" with
        | none => some none
        | some (.str s) => if isHex64 s then some (some s) else none
        | some _ => none
      else none
  | _ => none

def claimFailed (detail : String) : ClaimAnswer :=
  problemOf 400 "claim-failed" "Claim failed" detail "CLAIM_FAILED"

def redeemJson (row : TicketRow) (claimedAt : ℤ) : RedeemJson :=
  ⟨row.runId, row.terminalStatus, row.workloadClass, row.subcommand, row.buildProfile,
    claimedAt⟩

/-- The ticket gets its owner, and the claim is logged. -/
def claimRow (db : ClaimDb) (row : TicketRow) (userId : String) (clock : ℕ → ℤ) :
    Except TxFailure (ClaimDb × ClaimAnswer) :=
  match reserveClaimRedeemUserSlot db userId (clock 2) with
  | .error failure => .error failure
  | .ok db =>
      if !db.users.contains userId then
        .error (.error "insert or update on table violates foreign key constraint")
      else
        .ok
          ({ db with
              tickets := db.tickets.claim row.secretHash userId (clock 3)
              funnelEvents := ⟨userId, row.runId⟩ :: db.funnelEvents },
            .redeemed row.activationRequestId (redeemJson row (clock 3)))

/-- The transaction of `claim-redeem`. -/
def redeemTxn (db : ClaimDb) (userId secretHash : String) (clock : ℕ → ℤ) :
    Except TxFailure (ClaimDb × ClaimAnswer) :=
  match db.tickets.find? secretHash with
  | none => .ok (db, claimFailed "No claim ticket matches this secret.")
  | some row =>
      if row.expiresAt < clock 1 then
        .ok (db, problemOf 400 "claim-failed" "Claim failed"
          "This claim ticket has expired." "CLAIM_EXPIRED")
      else if row.userId.any (· ≠ userId) then
        .ok (db, problemOf 409 "already-claimed" "Already claimed"
          "This verification run is linked to a different account." "ALREADY_CLAIMED")
      else
        match row.userId, row.claimedAt with
        | some _, some claimedAt =>
            .ok (db, .redeemed row.activationRequestId (redeemJson row claimedAt))
        | _, _ => claimRow db row userId clock

/-- The hash that a redeem stands for: that of an accepted cookie, else that of the
secret in the body. -/
def presentedHash (r : RedeemRequest) (claimSecret : Option String) : Option String :=
  match (r.pendingCookie.filter (· ≠ "")).bind
      (verifyPendingEnvelopeV1 rt.crypto · (r.attempts.clock 0)) with
  | some env => some env.h
  | none => claimSecret.map (hashOssClaimSecret rt)

def postClaimRedeem (s : ClaimState) (r : RedeemRequest) : ClaimState × ClaimAnswer :=
  match r.session.filter (· ≠ "") with
  | none =>
      (s, problemOf 401 "unauthorized" "Unauthorized" "Sign in to redeem this claim."
        "UNAUTHORIZED")
  | some userId =>
      if !isJsonContentType r.header then
        (s, claimFailed "Content-Type must be application/json.")
      else
        match r.body.bind parseJson with
        | none => (s, claimFailed "Invalid JSON.")
        | some jsonBody =>
            match ossClaimRedeemRequestSchema jsonBody with
            | none => (s, claimFailed "Request body failed validation.")
            | some claimSecret =>
                match presentedHash rt r claimSecret with
                | none =>
                    (s, claimFailed "Missing pending claim cookie or claim_secret in body.")
                | some secretHash =>
                    settle s r.attempts.fate s.drawn
                      (redeemTxn s.db userId secretHash r.attempts.clock)
                      (rateLimitedProblem "Claim redeem rate limit exceeded for this user.")
                      (serverErrorProblem "Could not complete claim redeem. Try again later.")

/-- One request, its transaction as one step. -/
def serve (s : ClaimState) : ClaimRequest → ClaimState × ClaimAnswer
  | .ticket r => postClaimTicket rt s r
  | .handoff r => runOssClaimHandoffGet rt s r
  | .redeem r => postClaimRedeem rt s r

/-! ## What a request may do to a ticket -/

/-- What a request does to one row; `may` says who may claim which ticket. -/
inductive RowStep (may : String → String → Prop) (s s' : ClaimState) (row : TicketRow) :
    TicketRow → Prop where
  | kept : RowStep may s s' row row
  | rotated (n : ℕ) (hlow : s.drawn ≤ n) (hhigh : n < s'.drawn) :
      RowStep may s s' row (TicketTable.setHandoff (rt.randomToken n) row)
  | consumed (now : ℤ) : RowStep may s s' row { row with handoffConsumedAt := some now }
  | claimed (u : String) (time : ℤ) (hmay : may row.secretHash u)
      (howner : row.userId = none ∨ row.userId = some u)
      (hopen : row.userId = none ∨ row.claimedAt = none) :
      RowStep may s s' row { row with userId := some u, claimedAt := some time }

/-- A new row has no owner and a new token. -/
structure NewRow (s s' : ClaimState) (row : TicketRow) : Prop where
  unowned : row.userId = none
  unclaimed : row.claimedAt = none
  token : ∃ n, s.drawn ≤ n ∧ n < s'.drawn ∧ row.handoffToken = some (rt.randomToken n)

/-- Every row is stepped, and the rows are the stepped ones and new ones. -/
structure Effect (may : String → String → Prop) (s s' : ClaimState) : Prop where
  drawn : s.drawn ≤ s'.drawn
  stepped : ∀ row ∈ s.db.tickets.table.rows,
    ∃ row' ∈ s'.db.tickets.table.rows, RowStep rt may s s' row row'
  origin : ∀ row' ∈ s'.db.tickets.table.rows,
    (∃ row ∈ s.db.tickets.table.rows, RowStep rt may s s' row row') ∨
      NewRow rt s s' row'

variable {rt}

theorem RowStep.secretHash {may : String → String → Prop} {s s' : ClaimState}
    {row row' : TicketRow} (h : RowStep rt may s s' row row') :
    row'.secretHash = row.secretHash := by
  cases h <;> rfl

theorem Effect.of_kept {may : String → String → Prop} {s s' : ClaimState}
    (hdrawn : s.drawn ≤ s'.drawn) (htickets : s'.db.tickets = s.db.tickets) :
    Effect rt may s s' where
  drawn := hdrawn
  stepped := fun row hrow => ⟨row, htickets ▸ hrow, .kept⟩
  origin := fun row hrow => .inl ⟨row, htickets ▸ hrow, .kept⟩

/-- An update of the row of one secret. -/
theorem Effect.of_update {may : String → String → Prop} {s s' : ClaimState} {h : String}
    {f : TicketRow → TicketRow} (hdrawn : s.drawn ≤ s'.drawn)
    (hrows : s'.db.tickets.table.rows =
      s.db.tickets.table.rows.map fun row => if row.secretHash = h then f row else row)
    (hstep : ∀ row ∈ s.db.tickets.table.rows, row.secretHash = h →
      RowStep rt may s s' row (f row)) :
    Effect rt may s s' := by
  have hrow : ∀ row ∈ s.db.tickets.table.rows,
      RowStep rt may s s' row (if row.secretHash = h then f row else row) := by
    intro row hmem
    split_ifs with heq
    · exact hstep row hmem heq
    · exact .kept
  refine ⟨hdrawn, fun row hmem => ?_, fun row' hmem => .inl ?_⟩
  · refine ⟨_, ?_, hrow row hmem⟩
    rw [hrows]
    exact List.mem_map_of_mem hmem
  · rw [hrows] at hmem
    obtain ⟨row, hold, rfl⟩ := List.mem_map.mp hmem
    exact ⟨row, hold, hrow row hold⟩

theorem Effect.of_insert {may : String → String → Prop} {s s' : ClaimState}
    {row : TicketRow} (hdrawn : s.drawn ≤ s'.drawn)
    (hinsert : s.db.tickets.insert? row = some s'.db.tickets)
    (hnew : NewRow rt s s' row) : Effect rt may s s' := by
  have hrows : s'.db.tickets.table.rows = s.db.tickets.table.rows ++ [row] := by
    unfold TicketTable.insert? at hinsert
    split_ifs at hinsert
    split at hinsert
    · cases hinsert
    · rename_i table htable
      rw [← Option.some.inj hinsert]
      exact KeyedTable.rows_of_insert? htable
  refine ⟨hdrawn, fun r hmem => ⟨r, ?_, .kept⟩, fun r hmem => ?_⟩
  · rw [hrows]
    exact List.mem_append_left _ hmem
  · rw [hrows, List.mem_append, List.mem_singleton] at hmem
    rcases hmem with hold | rfl
    · exact .inl ⟨r, hold, .kept⟩
    · exact .inr hnew

/-- The row of a key, found by its key or by its token. -/
theorem row_of_findToken? {t : TicketTable} {token : String} {row : TicketRow}
    (h : t.findToken? token = some row) :
    row ∈ t.table.rows ∧ row.handoffToken = some token :=
  ⟨List.mem_of_find?_eq_some h, by simpa using List.find?_some h⟩

/-- The rows with the secret of a row of the table are that row. -/
theorem eq_of_secretHash {t : TicketTable} {row other : TicketRow}
    (hrow : row ∈ t.table.rows) (hother : other ∈ t.table.rows)
    (h : other.secretHash = row.secretHash) : other = row :=
  List.inj_on_of_nodup_map t.table.nodup hother hrow h

/-! ## Transactions -/

/-- The answer sets a pending cookie or reports a redeemed ticket. -/
def ClaimAnswer.gives (answer : ClaimAnswer) : Bool :=
  answer.yieldsCookie || answer.isRedeemed

theorem ClaimAnswer.gives_of_yieldsCookie {answer : ClaimAnswer}
    (h : answer.yieldsCookie = true) : answer.gives = true := by
  simp [gives, h]

theorem ClaimAnswer.gives_of_isRedeemed {answer : ClaimAnswer}
    (h : answer.isRedeemed = true) : answer.gives = true := by
  simp [gives, h]

/-- A settled transaction has left its tables, and its answer is the one given if any
is; or nothing is left of it. -/
theorem settle_cases (s : ClaimState) (fate : Fate) (drawn : ℕ)
    (result : Except TxFailure (ClaimDb × ClaimAnswer))
    (rateLimited unavailable : ClaimAnswer) (hlimited : rateLimited.gives = false)
    (hunavailable : unavailable.gives = false) :
    (∃ db answer, result = .ok (db, answer) ∧
      (settle s fate drawn result rateLimited unavailable).1 = ⟨db, drawn⟩ ∧
      ((settle s fate drawn result rateLimited unavailable).2.gives = true →
        (settle s fate drawn result rateLimited unavailable).2 = answer)) ∨
    ((settle s fate drawn result rateLimited unavailable).1 = ⟨s.db, drawn⟩ ∧
      (settle s fate drawn result rateLimited unavailable).2.gives = false) := by
  cases fate with
  | aborted => exact .inr ⟨rfl, hunavailable⟩
  | reported =>
      rcases result with failure | ⟨db, answer⟩
      · cases failure with
        | rateLimited => exact .inr ⟨rfl, hlimited⟩
        | error message => exact .inr ⟨rfl, hunavailable⟩
      · exact .inl ⟨db, answer, rfl, rfl, fun _ => rfl⟩
  | unreported =>
      rcases result with failure | ⟨db, answer⟩
      · cases failure with
        | rateLimited => exact .inr ⟨rfl, hlimited⟩
        | error message => exact .inr ⟨rfl, hunavailable⟩
      · refine .inl ⟨db, answer, rfl, rfl, fun h => ?_⟩
        exact absurd (hunavailable.symm.trans h) Bool.false_ne_true

/-- A transaction of `claim-ticket` keeps the tables, or inserts a row or replaces a
token, with a token that it draws. -/
theorem insertTicket_spec (rt : Runtime) (db : ClaimDb) (row : String → TicketRow) (aborted : Bool)
    (attempts next : ℕ) :
    next < (insertTicket rt db row aborted attempts next).1 ∧
    ∀ db' answer, (insertTicket rt db row aborted attempts next).2 = .ok (db', answer) →
      answer.gives = false ∧
      ∃ n, next ≤ n ∧ n < (insertTicket rt db row aborted attempts next).1 ∧
        db.tickets.insert? (row (rt.randomToken n)) = some db'.tickets := by
  induction attempts generalizing aborted next with
  | zero => exact ⟨Nat.lt_succ_self next, fun _ _ h => by cases h⟩
  | succ attempts ih =>
      unfold insertTicket
      cases aborted with
      | true => exact ⟨Nat.lt_succ_self next, fun _ _ h => by cases h⟩
      | false =>
          cases hinsert : db.tickets.insert? (row (rt.randomToken next)) with
          | some tickets =>
              refine ⟨Nat.lt_succ_self next, fun db' answer h => ?_⟩
              cases h
              exact ⟨rfl, next, Nat.le_refl next, Nat.lt_succ_self next, hinsert⟩
          | none =>
              obtain ⟨hlt, hok⟩ := ih true (next + 1)
              refine ⟨by simpa using (Nat.lt_of_succ_lt hlt), fun db' answer h => ?_⟩
              obtain ⟨hgives, n, hlow, hhigh, hrow⟩ := hok db' answer h
              exact ⟨hgives, n, by omega, hhigh, hrow⟩

theorem rotateTicket_spec (rt : Runtime) (db : ClaimDb) (row : TicketRow) (next : ℕ) :
    next < (rotateTicket rt db row next).1 ∧
    ∀ db' answer, (rotateTicket rt db row next).2 = .ok (db', answer) →
      answer.gives = false ∧
        db.tickets.rotate? row.secretHash (rt.randomToken next) = some db'.tickets := by
  unfold rotateTicket
  cases hrotate : db.tickets.rotate? row.secretHash (rt.randomToken next) with
  | none => exact ⟨Nat.lt_succ_self next, fun _ _ h => by cases h⟩
  | some tickets =>
      refine ⟨Nat.lt_succ_self next, fun db' answer h => ?_⟩
      cases h
      exact ⟨rfl, rfl⟩

theorem Effect.of_rotate {may : String → String → Prop} {s s' : ClaimState} {h : String}
    {n : ℕ} (hlow : s.drawn ≤ n) (hhigh : n < s'.drawn)
    (hrotate : s.db.tickets.rotate? h (rt.randomToken n) = some s'.db.tickets) :
    Effect rt may s s' := by
  have hrows : s'.db.tickets.table.rows = s.db.tickets.table.rows.map fun row =>
      if row.secretHash = h then TicketTable.setHandoff (rt.randomToken n) row else row := by
    unfold TicketTable.rotate? at hrotate
    split_ifs at hrotate
    rw [← Option.some.inj hrotate]
    simp [KeyedTable.updateWhere]
  exact Effect.of_update (by omega) hrows fun row _ _ => .rotated n hlow hhigh

theorem update_rows (t : TicketTable) (h : String) (f : TicketRow → TicketRow)
    (hkey : ∀ row, (f row).secretHash = row.secretHash)
    (htoken : ∀ row, (f row).handoffToken = row.handoffToken) :
    (t.update h f hkey htoken).table.rows =
      t.table.rows.map fun row => if row.secretHash = h then f row else row := by
  simp [TicketTable.update, KeyedTable.updateWhere]

theorem claimTicketTxn_spec (rt : Runtime) (may : String → String → Prop) {s : ClaimState}
    (body : OssClaimTicketRequest) (ipKey requestId : String) (clock : ℕ → ℤ) {next : ℕ}
    (hnext : s.drawn ≤ next) :
    s.drawn ≤ (claimTicketTxn rt s.db body ipKey requestId clock next).1 ∧
    ∀ db' answer,
      (claimTicketTxn rt s.db body ipKey requestId clock next).2 = .ok (db', answer) →
        answer.gives = false ∧ Effect rt may s
          ⟨db', (claimTicketTxn rt s.db body ipKey requestId clock next).1⟩ := by
  have hrotated (row : TicketRow) : s.drawn ≤ (rotateTicket rt s.db row next).1 ∧
      ∀ db' answer, (rotateTicket rt s.db row next).2 = .ok (db', answer) →
        answer.gives = false ∧
          Effect rt may s ⟨db', (rotateTicket rt s.db row next).1⟩ := by
    obtain ⟨hlt, hok⟩ := rotateTicket_spec rt s.db row next
    refine ⟨by omega, fun db' answer h => ?_⟩
    obtain ⟨hgives, hrotate⟩ := hok db' answer h
    exact ⟨hgives, Effect.of_rotate hnext hlt hrotate⟩
  unfold claimTicketTxn
  cases hfound : s.db.tickets.find? (hashOssClaimSecret rt body.claimSecret) with
  | some row =>
      have hsame (answer : ClaimAnswer) (hgives : answer.gives = false) :
          ∀ db' answer', (Except.ok (s.db, answer) : Except TxFailure _) = .ok (db', answer') →
            answer'.gives = false ∧ Effect rt may s ⟨db', next⟩ := by
        intro db' answer' h
        cases h
        exact ⟨hgives, Effect.of_kept hnext rfl⟩
      dsimp only
      split_ifs with hclaimed hopen
      · exact ⟨hnext, hsame _ rfl⟩
      · cases htoken : row.handoffToken.filter (· ≠ "") with
        | some token => exact ⟨hnext, hsame _ rfl⟩
        | none => exact hrotated row
      · exact hrotated row
  | none =>
      cases hslot : reserveClaimTicketIpSlot s.db ipKey (clock 1) with
      | error failure => exact ⟨hnext, fun _ _ h => by cases h⟩
      | ok db =>
          have htickets : db.tickets = s.db.tickets := reserveSlot_tickets hslot
          obtain ⟨hlt, hok⟩ := insertTicket_spec rt db
            (newTicketRow rt body requestId (clock 2)) false 8 next
          refine ⟨by dsimp only; omega, fun db' answer h => ?_⟩
          obtain ⟨hgives, n, hlow, hhigh, hinsert⟩ := hok db' answer h
          rw [htickets] at hinsert
          exact ⟨hgives, Effect.of_insert (by dsimp only; omega) hinsert
            ⟨rfl, rfl, n, by omega, hhigh, rfl⟩⟩

/-- A handoff gives a cookie for the unconsumed ticket with the token, and consumes
it. -/
theorem handoffTxn_spec {db db' : ClaimDb} {ipKey h : String} {clock : ℕ → ℤ}
    {answer : ClaimAnswer} (hok : handoffTxn rt db ipKey h clock = .ok (db', answer)) :
    (answer.gives = false ∧ db'.tickets = db.tickets) ∨
    (answer.isRedeemed = false ∧ ∃ row, db.tickets.findToken? h = some row ∧
      row.handoffConsumedAt = none ∧
      db'.tickets = db.tickets.consume row.secretHash (clock 1)) := by
  unfold handoffTxn at hok
  cases hslot : reserveClaimHandoffIpSlot db ipKey (clock 0) with
  | error failure => simp [hslot] at hok
  | ok db₁ =>
      have htickets : db₁.tickets = db.tickets := reserveSlot_tickets hslot
      simp only [hslot, htickets] at hok
      cases hfound : db.tickets.findToken? h with
      | none =>
          simp only [hfound] at hok
          cases hok
          exact .inl ⟨rfl, htickets⟩
      | some row =>
          simp only [hfound] at hok
          split_ifs at hok with hclosed hconsumed
          · cases hok
            exact .inl ⟨rfl, htickets⟩
          · cases hok
            exact .inl ⟨rfl, htickets⟩
          · cases hmint :
              mintOssClaimPendingSetCookieHeader rt row (clock 2) (clock 3) with
            | none =>
                simp only [hmint] at hok
                cases hok
                exact .inl ⟨rfl, htickets⟩
            | some setCookie =>
                simp only [hmint] at hok
                cases hok
                exact .inr ⟨rfl, row, rfl, by simpa using hconsumed, rfl⟩

/-- A redeem keeps the tickets and finds its user the owner where it succeeds, or
makes the user the owner of an open ticket. -/
theorem redeemTxn_spec {db db' : ClaimDb} {userId secretHash : String} {clock : ℕ → ℤ}
    {answer : ClaimAnswer}
    (hok : redeemTxn db userId secretHash clock = .ok (db', answer)) :
    answer.yieldsCookie = false ∧
    ((db'.tickets = db.tickets ∧ (answer.isRedeemed = true →
        ∃ row, db.tickets.find? secretHash = some row ∧ row.userId = some userId ∧
          row.claimedAt.isSome = true)) ∨
      (∃ row, db.tickets.find? secretHash = some row ∧
        (row.userId = none ∨ row.userId = some userId) ∧
        (row.userId = none ∨ row.claimedAt = none) ∧
        db'.tickets = db.tickets.claim row.secretHash userId (clock 3))) := by
  unfold redeemTxn at hok
  cases hfound : db.tickets.find? secretHash with
  | none =>
      simp only [hfound] at hok
      cases hok
      exact ⟨rfl, .inl ⟨rfl, fun h => by cases h⟩⟩
  | some row =>
      simp only [hfound] at hok
      split_ifs at hok with hexpired hother
      · cases hok
        exact ⟨rfl, .inl ⟨rfl, fun h => by cases h⟩⟩
      · cases hok
        exact ⟨rfl, .inl ⟨rfl, fun h => by cases h⟩⟩
      · have howner : row.userId = none ∨ row.userId = some userId := by
          cases huser : row.userId with
          | none => exact .inl rfl
          | some u =>
              have hu : u = userId := by simpa [huser] using hother
              exact .inr (by rw [hu])
        have hclaim (hopen : row.userId = none ∨ row.claimedAt = none)
            (hclaimed : claimRow db row userId clock = .ok (db', answer)) :
            answer.yieldsCookie = false ∧
              db'.tickets = db.tickets.claim row.secretHash userId (clock 3) := by
          unfold claimRow at hclaimed
          cases hslot : reserveClaimRedeemUserSlot db userId (clock 2) with
          | error failure => simp [hslot] at hclaimed
          | ok db₁ =>
              have htickets : db₁.tickets = db.tickets := reserveSlot_tickets hslot
              simp only [hslot] at hclaimed
              split_ifs at hclaimed
              cases hclaimed
              exact ⟨rfl, by rw [htickets]⟩
        split at hok
        · rename_i u claimedAt huser hclaimedAt
          cases hok
          refine ⟨rfl, .inl ⟨rfl, fun _ => ⟨row, rfl, ?_, by simp [hclaimedAt]⟩⟩⟩
          rcases howner with hnone | hsome
          · rw [huser] at hnone
            cases hnone
          · exact hsome
        · rename_i hnot
          have hopen : row.userId = none ∨ row.claimedAt = none := by
            cases huser : row.userId with
            | none => exact .inl rfl
            | some u =>
                cases hclaimedAt : row.claimedAt with
                | none => exact .inr rfl
                | some claimedAt => exact (hnot u claimedAt huser hclaimedAt).elim
          obtain ⟨hyields, htickets⟩ := hclaim hopen hok
          exact ⟨hyields, .inr ⟨row, rfl, howner, hopen, htickets⟩⟩

/-! ## Who may claim -/

/-- The secret in a valid body of a redeem. -/
def RedeemRequest.claimSecret (r : RedeemRequest) : Option String :=
  ((r.body.bind parseJson).bind ossClaimRedeemRequestSchema).join

/-- The secret of a request that passes the checks of `claim-ticket`. -/
def TicketRequest.claimSecret (rt : Runtime) (r : TicketRequest) : Option String :=
  match checkTicketRequest rt r with
  | .ok body => some body.claimSecret
  | .error _ => none

/-- The secret of the ticket with the hash: no other is minted under it in `rs`. -/
def SecretOf (rt : Runtime) (rs : List ClaimRequest) (secretHash secret : String) : Prop :=
  hashOssClaimSecret rt secret = secretHash ∧
    ∀ m, .ticket m ∈ rs → ∀ other, m.claimSecret rt = some other →
      hashOssClaimSecret rt other = secretHash → other = secret

/-- The redeem comes with a signed cookie for the hash, in its window, or with the
secret of the ticket. -/
def Presents (rt : Runtime) (rs : List ClaimRequest) (r : RedeemRequest)
    (secretHash : String) : Prop :=
  (∃ cookie env, r.pendingCookie = some cookie ∧ Signed rt.crypto cookie env ∧
    inWindow env (secondsOf (r.attempts.clock 0)) = true ∧ env.h = secretHash) ∨
  ∃ secret, r.claimSecret = some secret ∧ SecretOf rt rs secretHash secret

/-- The request is a redeem of user `u` that presents what the ticket asks for. -/
def Authorises (rt : Runtime) (rs : List ClaimRequest) (request : ClaimRequest)
    (secretHash u : String) : Prop :=
  ∃ r, request = .redeem r ∧ r.session = some u ∧ Presents rt rs r secretHash

/-- No two secrets of the schema have one hash. -/
def HashCollisionFree (rt : Runtime) : Prop :=
  ∀ a b, isHex64 a = true → isHex64 b = true →
    hashOssClaimSecret rt a = hashOssClaimSecret rt b → a = b

theorem textMember_passes {members : List (String × Json)} {key s : String}
    {test : String → Bool} (h : textMember members key test = some s) : test s = true := by
  unfold textMember at h
  split at h
  · split_ifs at h with htest
    obtain rfl := Option.some.inj h
    exact htest
  · cases h

theorem ossClaimTicketCore_claimSecret {members : List (String × Json)}
    {source : Option String} {body : OssClaimTicketRequest}
    (h : ossClaimTicketCore members source = some body) :
    isHex64 body.claimSecret = true := by
  simp only [ossClaimTicketCore, Option.bind_eq_bind, Option.bind_eq_some_iff] at h
  obtain ⟨secret, hsecret, hrest⟩ := h
  have hbody : body.claimSecret = secret := by
    obtain ⟨_, -, _, -, _, -, _, -, _, -, _, -, _, -, hbody⟩ := hrest
    cases hbody
    rfl
  rw [hbody]
  exact textMember_passes hsecret

theorem ossClaimTicketRequestSchema_claimSecret {v : Json} {body : OssClaimTicketRequest}
    (h : ossClaimTicketRequestSchema v = some body) : isHex64 body.claimSecret = true := by
  cases v with
  | obj members =>
      rcases Option.or_eq_some_iff.mp h with hv | ⟨-, hv⟩
      · unfold ossClaimTicketRequestSchemaV2 at hv
        split at hv
        · split_ifs at hv
          obtain ⟨source, -, hcore⟩ := Option.bind_eq_some_iff.mp hv
          exact ossClaimTicketCore_claimSecret hcore
        · cases hv
      · unfold ossClaimTicketRequestSchemaV1 at hv
        split_ifs at hv
        exact ossClaimTicketCore_claimSecret hv
  | _ => cases h

/-- The checks refuse a request with a problem, or find a body of the schema. -/
theorem checkTicketRequest_cases (rt : Runtime) (r : TicketRequest) :
    (∃ answer, checkTicketRequest rt r = .error answer ∧ answer.gives = false) ∨
    ∃ body v, checkTicketRequest rt r = .ok body ∧
      ossClaimTicketRequestSchema v = some body := by
  unfold checkTicketRequest
  -- The second test of a header does not depend on the body, so `split_ifs` would
  -- take it first.
  split
  · exact .inl ⟨_, rfl, rfl⟩
  split
  · exact .inl ⟨_, rfl, rfl⟩
  · cases r.body with
    | none => exact .inl ⟨_, rfl, rfl⟩
    | some rawText =>
        dsimp only
        split_ifs
        · exact .inl ⟨_, rfl, rfl⟩
        · exact .inl ⟨_, rfl, rfl⟩
        · cases parseJson rawText with
          | none => exact .inl ⟨_, rfl, rfl⟩
          | some v =>
              dsimp only
              cases hschema : ossClaimTicketRequestSchema v with
              | none => exact .inl ⟨_, rfl, rfl⟩
              | some body =>
                  dsimp only
                  split_ifs
                  · exact .inr ⟨body, v, rfl, hschema⟩
                  · exact .inl ⟨_, rfl, rfl⟩

theorem TicketRequest.claimSecret_isHex64 {r : TicketRequest} {secret : String}
    (h : r.claimSecret rt = some secret) : isHex64 secret = true := by
  unfold TicketRequest.claimSecret at h
  rcases checkTicketRequest_cases rt r with ⟨answer, hcheck, -⟩ | ⟨body, v, hcheck, hschema⟩
  · simp [hcheck] at h
  · simp only [hcheck, Option.some.injEq] at h
    rw [← h]
    exact ossClaimTicketRequestSchema_claimSecret hschema

theorem ossClaimRedeemRequestSchema_isHex64 {v : Json} {secret : String}
    (h : ossClaimRedeemRequestSchema v = some (some secret)) : isHex64 secret = true := by
  cases v with
  | obj members =>
      simp only [ossClaimRedeemRequestSchema] at h
      split_ifs at h
      split at h
      · cases h
      · split_ifs at h with hhex
        cases h
        exact hhex
      · cases h
  | _ => cases h

/-- The hash that a redeem stands for is one that it presents. -/
theorem presents_of_presentedHash (hhash : HashCollisionFree rt) (rs : List ClaimRequest)
    {r : RedeemRequest} {v : Json} {claimSecret : Option String} {secretHash : String}
    (hbody : r.body.bind parseJson = some v)
    (hschema : ossClaimRedeemRequestSchema v = some claimSecret)
    (h : presentedHash rt r claimSecret = some secretHash) :
    Presents rt rs r secretHash := by
  unfold presentedHash at h
  cases hcookie : (r.pendingCookie.filter (· ≠ "")).bind
      (verifyPendingEnvelopeV1 rt.crypto · (r.attempts.clock 0)) with
  | some env =>
      simp only [hcookie, Option.some.injEq] at h
      obtain ⟨cookie, hfilter, hverify⟩ := Option.bind_eq_some_iff.mp hcookie
      obtain ⟨hpending, -⟩ := Option.filter_eq_some_iff.mp hfilter
      obtain ⟨hsigned, hwindow⟩ :=
        (verifyPendingEnvelopeV1_eq_some_iff rt.crypto cookie _ env).mp hverify
      exact .inl ⟨cookie, env, hpending, hsigned, hwindow, h⟩
  | none =>
      simp only [hcookie] at h
      obtain ⟨secret, rfl, hsecret⟩ := Option.map_eq_some_iff.mp h
      refine .inr ⟨secret, by simp [RedeemRequest.claimSecret, hbody, hschema], hsecret, ?_⟩
      intro m _ other hother heq
      exact hhash other secret (TicketRequest.claimSecret_isHex64 hother)
        (ossClaimRedeemRequestSchema_isHex64 hschema) (heq.trans hsecret.symm)

/-! ## One request -/

theorem postClaimTicket_spec (rt : Runtime) (may : String → String → Prop)
    (s : ClaimState) (r : TicketRequest) :
    Effect rt may s (postClaimTicket rt s r).1 ∧
      (postClaimTicket rt s r).2.gives = false := by
  unfold postClaimTicket
  rcases checkTicketRequest_cases rt r with ⟨answer, hcheck, hgives⟩ | ⟨body, -, hcheck, -⟩
  · rw [hcheck]
    exact ⟨Effect.of_kept (Nat.le_refl _) rfl, hgives⟩
  · rw [hcheck]
    obtain ⟨hdrawn, hok⟩ := claimTicketTxn_spec rt may body
      (MagicLink.extractClientIpKey r.header) r.requestId r.attempts.clock
      (Nat.le_add_right s.drawn r.attempts.lostDraws)
    dsimp only
    rcases settle_cases s r.attempts.fate _ _
        (rateLimitedProblem "Claim ticket rate limit exceeded for this IP.")
        (serverErrorProblem "Could not complete claim ticket. Try again later.")
        rfl rfl with
      ⟨db, answer, hresult, hstate, hanswer⟩ | ⟨hstate, hnone⟩
    · obtain ⟨hgives, heffect⟩ := hok db answer hresult
      rw [hstate]
      refine ⟨heffect, Bool.eq_false_iff.mpr fun h => ?_⟩
      rw [hanswer h, hgives] at h
      cases h
    · rw [hstate]
      exact ⟨Effect.of_kept hdrawn rfl, hnone⟩

/-- A handoff that yields a cookie consumes the ticket of its token. -/
theorem runOssClaimHandoffGet_spec (rt : Runtime) (may : String → String → Prop)
    (s : ClaimState) (r : HandoffRequest) :
    Effect rt may s (runOssClaimHandoffGet rt s r).1 ∧
      (runOssClaimHandoffGet rt s r).2.isRedeemed = false ∧
      ((runOssClaimHandoffGet rt s r).2.yieldsCookie = true →
        ∃ row now, s.db.tickets.findToken? r.token = some row ∧
          row.handoffConsumedAt = none ∧
          (runOssClaimHandoffGet rt s r).1.db.tickets =
            s.db.tickets.consume row.secretHash now) := by
  unfold runOssClaimHandoffGet
  dsimp only
  split_ifs with hlength
  · exact ⟨Effect.of_kept (Nat.le_refl _) rfl, rfl, fun h => by cases h⟩
  rcases settle_cases s r.attempts.fate s.drawn
      (handoffTxn rt s.db (MagicLink.extractClientIpKey r.header) r.token r.attempts.clock)
      (rateLimitedProblem "Claim handoff rate limit exceeded for this IP.")
      (.errorRedirect "handoff_invalid") rfl rfl with
    ⟨db, answer, hresult, hstate, hanswer⟩ | ⟨hstate, hnone⟩
  · rw [hstate]
    rcases handoffTxn_spec hresult with ⟨hgives, htickets⟩ |
      ⟨hredeemed, row, hfound, hopen, htickets⟩
    · refine ⟨Effect.of_kept (Nat.le_refl _) htickets,
        Bool.eq_false_iff.mpr fun h => ?_, fun h => ?_⟩
      · have hgiven := ClaimAnswer.gives_of_isRedeemed h
        rw [hanswer hgiven, hgives] at hgiven
        cases hgiven
      · have hgiven := ClaimAnswer.gives_of_yieldsCookie h
        rw [hanswer hgiven, hgives] at hgiven
        cases hgiven
    · have hrows : db.tickets.table.rows = s.db.tickets.table.rows.map fun other =>
          if other.secretHash = row.secretHash then
            { other with handoffConsumedAt := some (r.attempts.clock 1) }
          else other := by
        rw [htickets]
        exact update_rows _ _ _ _ _
      refine ⟨Effect.of_update (Nat.le_refl _) hrows fun _ _ _ => .consumed _,
        Bool.eq_false_iff.mpr fun h => ?_, fun _ => ⟨row, _, hfound, hopen, htickets⟩⟩
      rw [hanswer (ClaimAnswer.gives_of_isRedeemed h), hredeemed] at h
      cases h
  · rw [hstate]
    refine ⟨Effect.of_kept (Nat.le_refl _) rfl, (Bool.or_eq_false_iff.mp hnone).2,
      fun h => ?_⟩
    rw [(Bool.or_eq_false_iff.mp hnone).1] at h
    cases h

theorem find?_claim {t : TicketTable} {row : TicketRow}
    (h : t.find? row.secretHash = some row) (userId : String) (claimedAt : ℤ) :
    (t.claim row.secretHash userId claimedAt).find? row.secretHash =
      some { row with userId := some userId, claimedAt := some claimedAt } := by
  have hfound : t.table.find? row.secretHash = some row := h
  simp only [TicketTable.find?, TicketTable.claim, TicketTable.update,
    KeyedTable.find?_updateWhere, hfound, Option.map_some, decide_true, if_true]

/-- What a redeem comes to: where it succeeds, it leaves a ticket of a user who may
claim it. -/
structure RedeemOutcome (rt : Runtime) (may : String → String → Prop) (s : ClaimState)
    (outcome : ClaimState × ClaimAnswer) : Prop where
  effect : Effect rt may s outcome.1
  noCookie : outcome.2.yieldsCookie = false
  owned : outcome.2.isRedeemed = true → ∃ h u row, may h u ∧
    outcome.1.db.tickets.find? h = some row ∧ row.userId = some u ∧
    row.claimedAt.isSome = true

theorem RedeemOutcome.of_refused {may : String → String → Prop} (s : ClaimState)
    {answer : ClaimAnswer} (hgives : answer.gives = false) :
    RedeemOutcome rt may s (s, answer) := by
  obtain ⟨hyields, hredeemed⟩ := Bool.or_eq_false_iff.mp hgives
  refine ⟨Effect.of_kept (Nat.le_refl _) rfl, hyields, fun h => ?_⟩
  rw [hredeemed] at h
  cases h

theorem RedeemOutcome.of_settle {may : String → String → Prop} (s : ClaimState)
    (fate : Fate) {userId secretHash : String} (clock : ℕ → ℤ)
    {rateLimited unavailable : ClaimAnswer} (hlimited : rateLimited.gives = false)
    (hunavailable : unavailable.gives = false) (hmay : may secretHash userId) :
    RedeemOutcome rt may s (settle s fate s.drawn (redeemTxn s.db userId secretHash clock)
      rateLimited unavailable) := by
  rcases settle_cases s fate s.drawn (redeemTxn s.db userId secretHash clock) rateLimited
      unavailable hlimited hunavailable with
    ⟨db, answer, hresult, hstate, hanswer⟩ | ⟨hstate, hnone⟩
  · obtain ⟨hyields, hcases⟩ := redeemTxn_spec hresult
    refine ⟨?_, Bool.eq_false_iff.mpr fun h => ?_, fun h => ?_⟩
    · rw [hstate]
      rcases hcases with ⟨htickets, -⟩ | ⟨row, hfound, howner, hopen, htickets⟩
      · exact Effect.of_kept (Nat.le_refl _) htickets
      · have hrow := KeyedTable.find?_eq_some_iff.mp hfound
        have hrows : db.tickets.table.rows = s.db.tickets.table.rows.map fun other =>
            if other.secretHash = row.secretHash then
              { other with userId := some userId, claimedAt := some (clock 3) }
            else other := by
          rw [htickets]
          exact update_rows _ _ _ _ _
        refine Effect.of_update (Nat.le_refl _) hrows fun other hmem heq => ?_
        obtain rfl := eq_of_secretHash hrow.1 hmem heq
        exact .claimed userId _ (hrow.2 ▸ hmay) howner hopen
    · rw [hanswer (ClaimAnswer.gives_of_yieldsCookie h), hyields] at h
      cases h
    · rw [hanswer (ClaimAnswer.gives_of_isRedeemed h)] at h
      rw [hstate]
      rcases hcases with ⟨htickets, hfound⟩ | ⟨row, hfound, howner, hopen, htickets⟩
      · obtain ⟨row, hrow, huser, hclaimed⟩ := hfound h
        exact ⟨secretHash, userId, row, hmay, by rw [htickets, hrow], huser, hclaimed⟩
      · have hkey : row.secretHash = secretHash := KeyedTable.find?_key hfound
        rw [← hkey] at hfound hmay
        exact ⟨row.secretHash, userId, _, hmay, by rw [htickets, find?_claim hfound],
          rfl, rfl⟩
  · obtain ⟨hyields, hredeemed⟩ := Bool.or_eq_false_iff.mp hnone
    refine ⟨?_, hyields, fun h => ?_⟩
    · rw [hstate]
      exact Effect.of_kept (Nat.le_refl _) rfl
    · rw [hredeemed] at h
      cases h

theorem postClaimRedeem_spec (hhash : HashCollisionFree rt) (rs : List ClaimRequest)
    (s : ClaimState) (r : RedeemRequest) :
    RedeemOutcome rt (Authorises rt rs (.redeem r)) s (postClaimRedeem rt s r) := by
  unfold postClaimRedeem
  cases hsession : r.session.filter (· ≠ "") with
  | none => exact .of_refused s rfl
  | some userId =>
      dsimp only
      split
      · exact .of_refused s rfl
      cases hbody : r.body.bind parseJson with
      | none => exact .of_refused s rfl
      | some v =>
          dsimp only
          cases hschema : ossClaimRedeemRequestSchema v with
          | none => exact .of_refused s rfl
          | some claimSecret =>
              dsimp only
              cases hpresented : presentedHash rt r claimSecret with
              | none => exact .of_refused s rfl
              | some secretHash =>
                  have huser := (Option.filter_eq_some_iff.mp hsession).1
                  have hpresents := presents_of_presentedHash hhash rs hbody hschema hpresented
                  exact .of_settle s r.attempts.fate r.attempts.clock rfl rfl
                    ⟨r, rfl, huser, hpresents⟩

/-! ## Owners -/

/-- The owner and the time of the claim, once they are set, are kept. -/
def KeepsOwner (row row' : TicketRow) : Prop :=
  (∀ u, row.userId = some u → row'.userId = some u) ∧
    ∀ time, row.claimedAt = some time → row'.claimedAt = some time

/-- A claimed ticket has an owner, and no token is still to be drawn. -/
structure Sound (rt : Runtime) (s : ClaimState) : Prop where
  owned : ∀ row ∈ s.db.tickets.table.rows, row.claimedAt.isSome = true →
    row.userId.isSome = true
  drawn : ∀ row ∈ s.db.tickets.table.rows, ∀ n, s.drawn ≤ n →
    row.handoffToken ≠ some (rt.randomToken n)

theorem RowStep.keepsOwner {may : String → String → Prop} {s s' : ClaimState}
    {row row' : TicketRow} (h : RowStep rt may s s' row row')
    (howned : row.claimedAt.isSome = true → row.userId.isSome = true) :
    KeepsOwner row row' := by
  cases h with
  | kept => exact ⟨fun _ h => h, fun _ h => h⟩
  | rotated n _ _ => exact ⟨fun _ h => h, fun _ h => h⟩
  | consumed now => exact ⟨fun _ h => h, fun _ h => h⟩
  | claimed u time hmay howner hopen =>
      constructor
      · intro v hv
        rcases howner with hnone | hsame
        · rw [hnone] at hv
          cases hv
        · rwa [hsame] at hv
      · intro time' htime
        rcases hopen with hnone | hunclaimed
        · have hsome := howned (by rw [htime]; rfl)
          rw [hnone] at hsome
          cases hsome
        · rw [hunclaimed] at htime
          cases htime

theorem Effect.keepsOwner {may : String → String → Prop} {s s' : ClaimState}
    (h : Effect rt may s s') (hs : Sound rt s) {key : String} {row : TicketRow}
    (hrow : s.db.tickets.find? key = some row) :
    ∃ row', s'.db.tickets.find? key = some row' ∧ KeepsOwner row row' := by
  obtain ⟨hmem, hkey⟩ := KeyedTable.find?_eq_some_iff.mp hrow
  obtain ⟨row', hmem', hstep⟩ := h.stepped row hmem
  refine ⟨row', ?_, hstep.keepsOwner (hs.owned row hmem)⟩
  exact KeyedTable.find?_eq_some_iff.mpr ⟨hmem', hstep.secretHash.trans hkey⟩

theorem Effect.sound {may : String → String → Prop} {s s' : ClaimState}
    (h : Effect rt may s s') (hs : Sound rt s)
    (hfresh : Function.Injective rt.randomToken) : Sound rt s' := by
  have hdrawn := h.drawn
  constructor
  · intro row' hmem' hclaimed
    rcases h.origin row' hmem' with ⟨row, hmem, hstep⟩ | hnew
    · have howned := hs.owned row hmem
      cases hstep with
      | kept => exact howned hclaimed
      | rotated n _ _ => exact howned hclaimed
      | consumed now => exact howned hclaimed
      | claimed u time _ _ _ => rfl
    · rw [hnew.unclaimed] at hclaimed
      cases hclaimed
  · intro row' hmem' n hn
    have hlater {m : ℕ} (hm : m < s'.drawn) :
        some (rt.randomToken m) ≠ some (rt.randomToken n) := by
      intro heq
      have hmn : m = n := hfresh (Option.some.inj heq)
      omega
    rcases h.origin row' hmem' with ⟨row, hmem, hstep⟩ | hnew
    · have hold := hs.drawn row hmem n (by omega)
      cases hstep with
      | kept => exact hold
      | rotated m _ hm => exact hlater hm
      | consumed now => exact hold
      | claimed u time _ _ _ => exact hold
    · obtain ⟨m, -, hm, htoken⟩ := hnew.token
      rw [htoken]
      exact hlater hm

/-- The user of a row is the one it had, or one who may claim it. -/
theorem Effect.owner {may : String → String → Prop} {s s' : ClaimState}
    (h : Effect rt may s s') {key u : String} {row' : TicketRow}
    (hrow' : s'.db.tickets.find? key = some row') (huser : row'.userId = some u) :
    (∃ row, s.db.tickets.find? key = some row ∧ row.userId = some u) ∨ may key u := by
  obtain ⟨hmem', hkey⟩ := KeyedTable.find?_eq_some_iff.mp hrow'
  rcases h.origin row' hmem' with ⟨row, hmem, hstep⟩ | hnew
  · have hfound : s.db.tickets.find? key = some row :=
      KeyedTable.find?_eq_some_iff.mpr ⟨hmem, hstep.secretHash.symm.trans hkey⟩
    cases hstep with
    | kept => exact .inl ⟨row', hfound, huser⟩
    | rotated n _ _ => exact .inl ⟨row, hfound, huser⟩
    | consumed now => exact .inl ⟨row, hfound, huser⟩
    | claimed v time hmay _ _ =>
        have hv : v = u := Option.some.inj huser
        rw [← hkey, ← hv]
        exact .inr hmay
  · rw [hnew.unowned] at huser
    cases huser

/-! ## Tokens -/

/-- The token is not drawn again, and a ticket that has it is consumed. -/
def Spent (rt : Runtime) (token : String) (s : ClaimState) : Prop :=
  (∀ n, s.drawn ≤ n → rt.randomToken n ≠ token) ∧
    ∀ row ∈ s.db.tickets.table.rows, row.handoffToken = some token →
      row.handoffConsumedAt.isSome = true

theorem Effect.spent {may : String → String → Prop} {s s' : ClaimState} {token : String}
    (h : Effect rt may s s') (hs : Spent rt token s) : Spent rt token s' := by
  have hdrawn := h.drawn
  refine ⟨fun n hn => hs.1 n (by omega), fun row' hmem' htoken => ?_⟩
  have hnever {n : ℕ} (hn : s.drawn ≤ n) : some (rt.randomToken n) ≠ some token :=
    fun heq => hs.1 n hn (Option.some.inj heq)
  rcases h.origin row' hmem' with ⟨row, hmem, hstep⟩ | hnew
  · have hold := hs.2 row hmem
    cases hstep with
    | kept => exact hold htoken
    | rotated n hn _ => exact (hnever hn htoken).elim
    | consumed now => rfl
    | claimed u time _ _ _ => exact hold htoken
  · obtain ⟨n, hn, -, hdraw⟩ := hnew.token
    rw [hdraw] at htoken
    exact (hnever hn htoken).elim

/-- Consuming the ticket that has the token spends it. -/
theorem spent_of_consume {s s' : ClaimState} (hs : Sound rt s) (hdrawn : s.drawn ≤ s'.drawn)
    {token : String} {row : TicketRow} {now : ℤ}
    (hfound : s.db.tickets.findToken? token = some row)
    (htickets : s'.db.tickets = s.db.tickets.consume row.secretHash now) :
    Spent rt token s' := by
  obtain ⟨hmem, htoken⟩ := row_of_findToken? hfound
  constructor
  · intro n hn heq
    apply hs.drawn row hmem n (by omega)
    rw [htoken, heq]
  · intro other hother hothertoken
    rw [htickets, TicketTable.consume, update_rows] at hother
    obtain ⟨old, hold, rfl⟩ := List.mem_map.mp hother
    split_ifs with hkey
    · rfl
    · rw [if_neg hkey] at hothertoken
      have hsame := s.db.tickets.uniqueToken old hold row hmem token hothertoken htoken
      exact (hkey (by rw [hsame])).elim

/-! ## Runs -/

abbrev ClaimTurn := Turn ClaimState ClaimRequest ClaimAnswer

/-- The token that a request hands in. -/
def ClaimRequest.token : ClaimRequest → Option String
  | handoff r => some r.token
  | _ => none

/-- The turn trades the token for a pending cookie. -/
def YieldsFor (token : String) (t : ClaimTurn) : Prop :=
  t.response.yieldsCookie = true ∧ t.request.token = some token

instance (token : String) : DecidablePred (YieldsFor token) :=
  fun _ => inferInstanceAs (Decidable (_ ∧ _))

theorem serve_effect (hhash : HashCollisionFree rt) (rs : List ClaimRequest)
    (s : ClaimState) (request : ClaimRequest) :
    Effect rt (Authorises rt rs request) s (serve rt s request).1 := by
  cases request with
  | ticket r => exact (postClaimTicket_spec rt _ s r).1
  | handoff r => exact (runOssClaimHandoffGet_spec rt _ s r).1
  | redeem r => exact (postClaimRedeem_spec hhash rs s r).effect

theorem sound_serve (hhash : HashCollisionFree rt)
    (hfresh : Function.Injective rt.randomToken) (s : ClaimState) (request : ClaimRequest)
    (hs : Sound rt s) : Sound rt (serve rt s request).1 :=
  (serve_effect hhash [] s request).sound hs hfresh

/-- A turn yields a cookie for a token by consuming the ticket that has it. -/
theorem yieldsFor_serve {token : String} {s : ClaimState} {request : ClaimRequest}
    (h : YieldsFor token (turnOf (serve rt) s request)) :
    ∃ row now, s.db.tickets.findToken? token = some row ∧ row.handoffConsumedAt = none ∧
      (serve rt s request).1.db.tickets = s.db.tickets.consume row.secretHash now := by
  obtain ⟨hyields, htoken⟩ := h
  cases request with
  | ticket r => cases htoken
  | redeem r => cases htoken
  | handoff r =>
      obtain rfl := Option.some.inj htoken
      exact (runOssClaimHandoffGet_spec rt (fun _ _ => False) s r).2.2 hyields

theorem keepsOwner_finish (hhash : HashCollisionFree rt)
    (hfresh : Function.Injective rt.randomToken) {s : ClaimState} (hs : Sound rt s)
    (rs : List ClaimRequest) {key : String} {row : TicketRow}
    (hrow : s.db.tickets.find? key = some row) :
    ∃ row', (finish (serve rt) s rs).db.tickets.find? key = some row' ∧
      KeepsOwner row row' := by
  induction rs generalizing s row with
  | nil => exact ⟨row, hrow, fun _ h => h, fun _ h => h⟩
  | cons r rs ih =>
      obtain ⟨next, hnext, huser, htime⟩ := (serve_effect hhash [] s r).keepsOwner hs hrow
      obtain ⟨last, hlast, huser', htime'⟩ := ih (sound_serve hhash hfresh s r hs) hnext
      exact ⟨last, hlast, fun u h => huser' u (huser u h), fun t h => htime' t (htime t h)⟩

/-- For every sequence of requests, each transaction one step: a ticket keeps its
owner and the time of its claim; a ticket is claimed by, and a redeem succeeds for, a
user who presents its secret or a signed cookie for it; a token yields one cookie. -/
theorem claim_has_one_owner (rt : Runtime) (hfresh : Function.Injective rt.randomToken)
    (hhash : HashCollisionFree rt) (s : ClaimState) (hs : Sound rt s)
    (rs : List ClaimRequest) :
    (∀ pre post, rs = pre ++ post → ∀ key row,
      (finish (serve rt) s pre).db.tickets.find? key = some row →
        ∃ row', (finish (serve rt) s rs).db.tickets.find? key = some row' ∧
          KeepsOwner row row') ∧
    (∀ t ∈ turns (serve rt) s rs,
      (t.response.isRedeemed = true → ∃ key u row, Authorises rt rs t.request key u ∧
        t.after.db.tickets.find? key = some row ∧ row.userId = some u ∧
        row.claimedAt.isSome = true) ∧
      ∀ key u row, t.after.db.tickets.find? key = some row → row.userId = some u →
        (∃ row, t.before.db.tickets.find? key = some row ∧ row.userId = some u) ∨
          Authorises rt rs t.request key u) ∧
    ∀ token, (turns (serve rt) s rs).countP (fun t => YieldsFor token t) ≤ 1 := by
  have hsound := sound_serve hhash hfresh
  refine ⟨?_, ?_, ?_⟩
  · rintro pre post rfl key row hrow
    rw [finish_append]
    exact keepsOwner_finish hhash hfresh (finish_invariant hsound hs pre) post hrow
  · intro t ht
    have hturn := (turns_before hsound hs ht).2
    rw [hturn]
    constructor
    · intro hredeemed
      cases hrequest : t.request with
      | ticket r =>
          have hnone : (serve rt t.before (.ticket r)).2.gives = false :=
            (postClaimTicket_spec rt (fun _ _ => False) t.before r).2
          rw [hrequest] at hredeemed
          exact absurd (ClaimAnswer.gives_of_isRedeemed hredeemed)
            (Bool.eq_false_iff.mp hnone)
      | handoff r =>
          have hnone : (serve rt t.before (.handoff r)).2.isRedeemed = false :=
            (runOssClaimHandoffGet_spec rt (fun _ _ => False) t.before r).2.1
          rw [hrequest] at hredeemed
          exact absurd hredeemed (Bool.eq_false_iff.mp hnone)
      | redeem r =>
          rw [hrequest] at hredeemed
          exact (postClaimRedeem_spec hhash rs t.before r).owned hredeemed
    · intro key u row hrow huser
      exact (serve_effect hhash rs t.before t.request).owner hrow huser
  · intro token
    apply countP_turns_le_one (Spent rt token) hsound
    · intro s r hs hyields
      obtain ⟨row, now, hfound, -, htickets⟩ := yieldsFor_serve hyields
      exact spent_of_consume hs (serve_effect hhash [] s r).drawn hfound htickets
    · intro s r _ hspent
      exact (serve_effect hhash [] s r).spent hspent
    · intro s r _ hspent hyields
      obtain ⟨row, now, hfound, hopen, -⟩ := yieldsFor_serve hyields
      obtain ⟨hmem, htoken⟩ := row_of_findToken? hfound
      have hconsumed := hspent.2 row hmem htoken
      rw [hopen] at hconsumed
      cases hconsumed
    · exact hs

/-- Before the first request. -/
def noTickets (users : List String) : ClaimState where
  db :=
    { users
      tickets := ⟨⟨[], List.nodup_nil⟩, fun _ hr => by cases hr⟩
      counters := fun _ => none
      funnelEvents := [] }
  drawn := 0

theorem sound_noTickets (rt : Runtime) (users : List String) :
    Sound rt (noTickets users) := by
  constructor
  · intro row hrow
    cases hrow
  · intro row hrow
    cases hrow

/-- 64 zeros. -/
def zeroSecret : String := String.ofList (List.replicate 64 '0')

/-- The SHA-256 of 64 zeros. -/
def zeroSecretHash : String :=
  "60e05bd1b195af2f94112fa7197a5c88289058840ce7c6df9693756bc6250f55"

/-- Tokens of 43 letters and more; the hash of `zeroSecret` is its SHA-256. -/
def zeroRuntime : Runtime where
  crypto := ⟨fun _ => [], fun _ => "", fun _ => []⟩
  sha256Hex := Equiv.swap zeroSecret zeroSecretHash
  randomToken := fun n => String.ofList (List.replicate (43 + n) 'A')
  dateParse := fun _ => some 0
  finiteNumber := fun _ => none

theorem zeroRuntime_fresh : Function.Injective zeroRuntime.randomToken := by
  intro m n h
  have hlength := congrArg (fun s => s.toList.length) h
  simp only [zeroRuntime, String.toList_ofList, List.length_replicate] at hlength
  omega

def zeroAttempts : Attempts := ⟨fun n => n, 0, .reported⟩

def jsonHeader (name : String) : Option String :=
  if name = "content-type" then some "application/json"
  else if name = PRODUCT_ACTIVATION_CLI_PRODUCT_HEADER then some "cli"
  else if name = PRODUCT_ACTIVATION_CLI_VERSION_HEADER then some "1.0.0"
  else none

/-- The body of the CLI, with `zeroSecret`. -/
def mintBody : List Char :=
  (Json.stringify (.obj
    [("claim_secret", .str zeroSecret), ("run_id", .str "run"),
      ("issued_at", .str "1970-01-01T00:00:00Z"), ("terminal_status", .str "complete"),
      ("workload_class", .str "non_bundled"), ("subcommand", .str "batch_verify"),
      ("build_profile", .str "oss")])).toList

def mintRequest : ClaimRequest := .ticket ⟨jsonHeader, some mintBody, "request", zeroAttempts⟩

def redeemBody : List Char :=
  (Json.stringify (.obj [("claim_secret", .str zeroSecret)])).toList

def redeemBy (userId : String) : ClaimRequest :=
  .redeem ⟨jsonHeader, some userId, none, some redeemBody, zeroAttempts⟩

theorem zeroRuntime_collisionFree : HashCollisionFree zeroRuntime := by
  intro a b _ _ h
  exact (Equiv.swap zeroSecret zeroSecretHash).injective h

/-- One ticket, redeemed by two users. -/
def twoRedeems : List ClaimRequest := [mintRequest, redeemBy "ada", redeemBy "bob"]

theorem claim_has_one_owner_twoRedeems :
    (∀ pre post, twoRedeems = pre ++ post → ∀ key row,
      (finish (serve zeroRuntime) (noTickets ["ada", "bob"]) pre).db.tickets.find? key =
          some row →
        ∃ row', (finish (serve zeroRuntime) (noTickets ["ada", "bob"])
            twoRedeems).db.tickets.find? key = some row' ∧
          KeepsOwner row row') ∧
    (∀ t ∈ turns (serve zeroRuntime) (noTickets ["ada", "bob"]) twoRedeems,
      (t.response.isRedeemed = true → ∃ key u row,
        Authorises zeroRuntime twoRedeems t.request key u ∧
        t.after.db.tickets.find? key = some row ∧ row.userId = some u ∧
        row.claimedAt.isSome = true) ∧
      ∀ key u row, t.after.db.tickets.find? key = some row → row.userId = some u →
        (∃ row, t.before.db.tickets.find? key = some row ∧ row.userId = some u) ∨
          Authorises zeroRuntime twoRedeems t.request key u) ∧
    ∀ token, (turns (serve zeroRuntime) (noTickets ["ada", "bob"]) twoRedeems).countP
      (fun t => YieldsFor token t) ≤ 1 :=
  claim_has_one_owner zeroRuntime zeroRuntime_fresh zeroRuntime_collisionFree
    (noTickets ["ada", "bob"]) (sound_noTickets zeroRuntime _) twoRedeems

end AgentSkeptic.Hosted.OssClaim
