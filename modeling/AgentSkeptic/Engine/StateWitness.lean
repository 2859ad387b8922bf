import AgentSkeptic.Engine.ResolveExpectation
import Mathlib.Data.List.Infix

/-!
# State witnesses

`stateWitness.ts`: the four kinds of requests that are checked against a system
other than an SQL database.  The environment, `fetch`, the S3 client and the
MongoDB driver are a `WitnessWorld`, which answers each request in an arbitrary
way; an error is its message, or what the code reads of an AWS error.
-/

namespace AgentSkeptic.Engine

open AgentSkeptic.Support

/-! ## The outside world -/

structure FetchRequest where
  url : String
  method : String
  headers : List (String × String)
  body : Option String

structure FetchReply where
  status : ℕ
  /-- `await r.text()`, or the message of the error while reading it. -/
  text : Except String String

/-- `r.ok`. -/
def FetchReply.ok (r : FetchReply) : Bool := 200 ≤ r.status && r.status ≤ 299

structure AwsError where
  name : Option String
  Code : Option String
  code : Option String
  httpStatusCode : Option ℕ
  message : String

structure HeadObjectReply where
  contentLength : Option ℤ
  eTag : Option String

inductive GetObjectBody where
  | unreadable
  | bytes (bytes : Bytes)
  | failing (error : AwsError)

structure S3Client where
  region : String
  /-- With path-style addressing, when there is one. -/
  endpoint : Option String

structure WitnessWorld where
  env : String → Option String
  /-- `new URL(s)` succeeds and its protocol is `http:` or `https:`. -/
  isAbsoluteHttpOrHttps : String → Bool
  fetch : FetchRequest → Except String FetchReply
  /-- The message of the error that `JSON.parse` throws. -/
  jsonSyntaxError : String → String
  headObject : S3Client → String → String → Except AwsError HeadObjectReply
  getObject : S3Client → String → String → Except AwsError GetObjectBody
  /-- `createHash("sha256").update(bytes).digest("hex")`. -/
  sha256Hex : Bytes → String
  /-- Connecting to a URI and `collection(name).findOne(filter)`: the fields of
  the document. -/
  findOne : String → String → JsValue →
    Except String (Option (List (String × JsValue)))

/-! ## Outputs -/

def output (status : StepStatus) (code : SqlVerificationOutcomeCode)
    (message : String) (evidenceSummary : List (String × Json)) :
    ReconcileOutput :=
  { status, reasons := [{ code := code.code, message }], evidenceSummary }

def verifiedOutput (evidenceSummary : List (String × Json)) : ReconcileOutput :=
  { status := .verified, reasons := [], evidenceSummary }

def setupError (msg : String) : ReconcileOutput :=
  output .incompleteVerification .stateWitnessSetupError msg []

/-- `try { … } catch (e) { … }` with the message of the error. -/
def caught (run : Except String ReconcileOutput)
    (onError : String → ReconcileOutput) : ReconcileOutput :=
  match run with
  | .ok out => out
  | .error message => onError message

/-! ## Comparing fields -/

structure FieldMismatch where
  field : String
  expected : String
  actual : String

/-- The first field that differs from what is read for it. -/
def firstMismatch (read : String → Except String JsValue) :
    ScalarFields → Except String (Option FieldMismatch)
  | [] => .ok none
  | (field, expected) :: rest => do
      let actual ← read field
      match ← verificationScalarsEqual expected actual with
      | .ok => firstMismatch read rest
      | .mismatch expected actual => .ok (some ⟨field, expected, actual⟩)

/-! ## Vector documents -/

def VectorProvider.text : VectorProvider → String
  | pinecone => "pinecone"
  | weaviate => "weaviate"
  | chroma => "chroma"

/-- Characters that `encodeURIComponent` keeps. -/
def isUnreserved (c : Char) : Bool :=
  c.isAlphanum || c ∈ "-_.!~*'()".toList

def percentEncode (byte : UInt8) : List Char :=
  ['%', (hexDigit (byte.toNat / 16)).toUpper, (hexDigit (byte.toNat % 16)).toUpper]

def encodeURIComponent (s : String) : String :=
  String.ofList (s.toList.flatMap fun c =>
    if isUnreserved c then [c] else (utf8Encode [c]).flatMap percentEncode)

def vectorProviderBaseFromHost (w : WitnessWorld) (host : String) : String :=
  let t := jsTrim host
  if w.isAbsoluteHttpOrHttps t then t else "https://" ++ t

/-- `base.replace(/\/$/, "")`. -/
def stripTrailingSlash (base : String) : String :=
  let cs := base.toList
  String.ofList (if cs.getLast? = some '/' then cs.dropLast else cs)

/-- Where a provider is asked, and with which key. -/
structure VectorTarget where
  base : String
  apiKey : String

def vectorTarget (w : WitnessWorld) (req : VectorDocumentVerificationRequest) :
    Except String VectorTarget :=
  let host := req.host <|> match req.provider with
    | .pinecone => w.env "PINECONE_INDEX_HOST"
    | .weaviate => w.env "WEAVIATE_HOST"
    | .chroma => w.env "CHROMA_HOST"
  let apiKey := match req.provider with
    | .pinecone => w.env "PINECONE_API_KEY"
    | .weaviate => w.env "WEAVIATE_API_KEY"
    | .chroma => w.env "CHROMA_TENANT_AUTH_TOKEN" <|> w.env "CHROMA_API_KEY"
  let provider := req.provider.text
  match host.filter (· ≠ "") with
  | none =>
      .error (s!"vector_document ({provider}): missing host in registry or env " ++
        "(PINECONE_INDEX_HOST / WEAVIATE_HOST / CHROMA_HOST)")
  | some host =>
      match apiKey.filter (· ≠ "") with
      | none => .error s!"vector_document ({provider}): missing API key env"
      | some apiKey => .ok ⟨vectorProviderBaseFromHost w host, apiKey⟩

def pineconeFetch (t : VectorTarget) (req : VectorDocumentVerificationRequest) :
    FetchRequest :=
  { url := stripTrailingSlash t.base ++ "/vectors/fetch"
    method := "POST"
    headers := [("Content-Type", "application/json"), ("Api-Key", t.apiKey)]
    body := some (Json.obj (("ids", .arr [.str req.documentId]) ::
      match req.namespace_.filter (· ≠ "") with
      | some ns => [("namespace", .str ns)]
      | none => [])).stringify }

def weaviateFetch (t : VectorTarget) (req : VectorDocumentVerificationRequest) :
    FetchRequest :=
  { url := stripTrailingSlash t.base ++ "/v1/objects/" ++
      encodeURIComponent req.indexName ++ "/" ++ encodeURIComponent req.documentId
    method := "GET"
    headers := [("Authorization", "Bearer " ++ t.apiKey)]
    body := none }

def chromaFetch (t : VectorTarget) (req : VectorDocumentVerificationRequest) :
    FetchRequest :=
  { url := stripTrailingSlash t.base ++ "/api/v1/collections/" ++
      encodeURIComponent req.indexName ++ "/get"
    method := "POST"
    headers := [("Content-Type", "application/json"),
      ("Authorization", "Bearer " ++ t.apiKey)]
    body := some (Json.obj [("ids", .arr [.str req.documentId])]).stringify }

/-- `await r.json()`. -/
def responseJson (w : WitnessWorld) (r : FetchReply) : Except String Json := do
  let text ← r.text
  match parseJson text.toList with
  | some value => .ok value
  | none => .error (w.jsonSyntaxError text)

/-- `body[key]`, which throws on `null`. -/
def bodyMember (body : Json) (key : String) : Except String JsValue :=
  match body with
  | .null => .error ("Cannot read properties of null (reading '" ++ key ++ "')")
  | body => .ok (body.member key)

def httpStatusEvidence (r : FetchReply) : List (String × Json) :=
  [("httpStatus", .num (.int r.status))]

/-- `vec.metadata?.[key]`. -/
def vectorMetadata (vec : JsValue) (key : String) : JsValue :=
  (vec.member "metadata").optionalMember key

def reconcilePinecone (w : WitnessWorld) (t : VectorTarget)
    (req : VectorDocumentVerificationRequest) : Except String ReconcileOutput := do
  let r ← w.fetch (pineconeFetch t req)
  if r.ok = false then
    .ok (output .incompleteVerification .vectorProviderError
      ("Pinecone fetch HTTP " ++ toString r.status) (httpStatusEvidence r))
  else
    let body ← responseJson w r
    let vectors ← bodyMember body "vectors"
    let vec := vectors.optionalMember req.documentId
    if vec.truthy = false then
      .ok (output .missing .vectorNotFound "Vector id not found in index"
        [("provider", .str req.provider.text)])
    else
      match ← firstMismatch (fun key => .ok (vectorMetadata vec key))
        (req.metadataSubset.getD []) with
      | some m =>
          .ok (output .inconsistent .vectorMetadataMismatch
            ("metadata." ++ m.field ++ ": expected " ++ m.expected ++ " found " ++
              m.actual) [("field", .str m.field)])
      | none =>
          .ok (verifiedOutput
            [("provider", .str req.provider.text), ("vector", .bool true)])

def reconcileWeaviate (w : WitnessWorld) (t : VectorTarget)
    (req : VectorDocumentVerificationRequest) : Except String ReconcileOutput := do
  let r ← w.fetch (weaviateFetch t req)
  if r.status = 404 then
    .ok (output .missing .vectorNotFound "Weaviate object not found" [])
  else if r.ok = false then
    .ok (output .incompleteVerification .vectorProviderError
      ("Weaviate HTTP " ++ toString r.status) (httpStatusEvidence r))
  else .ok (verifiedOutput [("provider", .str "weaviate")])

/-- `ids?.includes(documentId)`: of an array, or of a text. -/
def idsIncludes (ids : JsValue) (documentId : String) : Except String Bool :=
  match ids with
  | .undefined | .json .null => .ok false
  | .json (.arr items) =>
      .ok (items.any fun
        | .str item => item = documentId
        | _ => false)
  | .json (.str text) => .ok (decide (documentId.toList <:+: text.toList))
  | _ => .error "body.ids?.includes is not a function"

def reconcileChroma (w : WitnessWorld) (t : VectorTarget)
    (req : VectorDocumentVerificationRequest) : Except String ReconcileOutput := do
  let r ← w.fetch (chromaFetch t req)
  if r.ok = false then
    .ok (output .incompleteVerification .vectorProviderError
      ("Chroma HTTP " ++ toString r.status) (httpStatusEvidence r))
  else
    let body ← responseJson w r
    let ids ← bodyMember body "ids"
    if ← idsIncludes ids req.documentId then
      .ok (verifiedOutput [("provider", .str "chroma")])
    else .ok (output .missing .vectorNotFound "Chroma id not returned" [])

def reconcileProvider (w : WitnessWorld) (t : VectorTarget)
    (req : VectorDocumentVerificationRequest) : Except String ReconcileOutput :=
  match req.provider with
  | .pinecone => reconcilePinecone w t req
  | .weaviate => reconcileWeaviate w t req
  | .chroma => reconcileChroma w t req

def reconcileVectorDocument (w : WitnessWorld)
    (req : VectorDocumentVerificationRequest) : ReconcileOutput :=
  if req.expectPayloadSha256.any (· ≠ "") then
    setupError
      "vector_document: expectPayloadSha256 is not supported yet; use metadataEq"
  else
    match vectorTarget w req with
    | .error message => setupError message
    | .ok t =>
        caught (reconcileProvider w t req) fun message =>
          output .incompleteVerification .vectorProviderError message
            [("error", .bool true)]

/-! ## Object storage -/

/-- Bodies larger than this are not hashed. -/
def objectMaxHashBytes : ℤ := 10 * 1024 * 1024

def unquoted (t : List Char) : List Char :=
  if t.head? = some '"' ∧ t.getLast? = some '"' ∧ 2 ≤ t.length then
    t.tail.dropLast
  else t

def normalizeS3Etag (etag : Option String) : Option String :=
  (etag.filter (· ≠ "")).map fun e => String.ofList (unquoted (trimChars e.toList))

def isAwsObjectNotFound (e : AwsError) : Bool :=
  e.name = some "NotFound" || e.Code = some "NotFound" ||
    e.code = some "NotFound" || e.httpStatusCode = some 404

def s3Evidence : List (String × Json) := [("s3", .bool true)]

def contentLengthEvidence (n : ℤ) : List (String × Json) :=
  [("contentLength", .num (.int n)), ("s3", .bool true)]

def s3Client (w : WitnessWorld) (req : ObjectStorageVerificationRequest) :
    S3Client :=
  let nonBlank (text : Option String) := (text.map jsTrim).filter (· ≠ "")
  { region := (nonBlank (w.env "AWS_REGION") <|>
      nonBlank (w.env "AWS_DEFAULT_REGION")).getD "us-east-1"
    endpoint := nonBlank req.endpoint }

/-- The size, when both sides are known. -/
def sizeMismatch (req : ObjectStorageVerificationRequest)
    (head : HeadObjectReply) : Option ReconcileOutput :=
  match req.expectSizeBytes, head.contentLength with
  | some size, some n =>
      if JsNumber.int n = size then none
      else
        some (output .inconsistent .objectSizeMismatch
          ("expected size " ++ size.toText ++ " bytes, HeadObject reports " ++
            toString n) (contentLengthEvidence n))
  | _, _ => none

def etagMismatch (req : ObjectStorageVerificationRequest)
    (head : HeadObjectReply) : Option ReconcileOutput :=
  match req.expectEtag with
  | none => none
  | some etag =>
      let want := normalizeS3Etag (some etag)
      let got := normalizeS3Etag head.eTag
      if want = got then none
      else
        some (output .inconsistent .objectMetadataMismatch
          ("ETag mismatch (expected " ++ want.getD "∅" ++ ", got " ++
            got.getD "∅" ++ ")") s3Evidence)

/-- `hex.toLowerCase() === want` of a digest: the other letters that have a lower
case do not occur in one. -/
def sameDigest (hex expected : String) : Bool :=
  hex.toLower = (jsTrim expected).toLower

/-- The bytes of an object against a digest; the error is left to the caller. -/
def digestCheck (w : WitnessWorld) (req : ObjectStorageVerificationRequest)
    (head : HeadObjectReply) (sha : String) :
    Except AwsError (Option ReconcileOutput) :=
  if head.contentLength.any (objectMaxHashBytes < ·) then
    let n := head.contentLength.getD 0
    .ok (some (output .inconsistent .objectTooLargeForHash
      ("object Content-Length " ++ toString n ++ " exceeds hash cap (" ++
        toString objectMaxHashBytes ++ " bytes)") (contentLengthEvidence n)))
  else
    match w.getObject (s3Client w req) req.bucket req.key with
    | .error e =>
        if isAwsObjectNotFound e then
          .ok (some (output .missing .objectMissing
            "S3 object not found on GetObject" s3Evidence))
        else
          .ok (some (output .incompleteVerification .stateWitnessSetupError
            ("object_storage: GetObject failed (" ++ e.message ++ ")")
            [("error", .bool true), ("s3", .bool true)]))
    | .ok .unreadable =>
        .ok (some (setupError
          "object_storage: GetObject returned unreadable body"))
    | .ok (.failing e) => .error e
    | .ok (.bytes bytes) =>
        let n : ℤ := bytes.length
        if objectMaxHashBytes < n then
          .ok (some (output .inconsistent .objectTooLargeForHash
            ("object body (" ++ toString n ++ " bytes) exceeds hash cap (" ++
              toString objectMaxHashBytes ++ " bytes)")
            (contentLengthEvidence n)))
        else if sameDigest (w.sha256Hex bytes) sha then .ok none
        else
          .ok (some (output .inconsistent .objectDigestMismatch
            "SHA-256 digest does not match expected value"
            (contentLengthEvidence n)))

/-- The checks on an object whose head was read, in the order of the code. -/
def objectChecks (w : WitnessWorld) (req : ObjectStorageVerificationRequest)
    (head : HeadObjectReply) : Except AwsError ReconcileOutput :=
  match sizeMismatch req head with
  | some out => .ok out
  | none =>
      match etagMismatch req head with
      | some out => .ok out
      | none =>
          match req.expectSha256 with
          | none => .ok (verifiedOutput s3Evidence)
          | some sha => do
              match ← digestCheck w req head sha with
              | some out => .ok out
              | none => .ok (verifiedOutput s3Evidence)

def reconcileObjectStorage (w : WitnessWorld)
    (req : ObjectStorageVerificationRequest) : ReconcileOutput :=
  let run := do
    let head ← w.headObject (s3Client w req) req.bucket req.key
    objectChecks w req head
  match run with
  | .ok out => out
  | .error e =>
      if isAwsObjectNotFound e then
        output .missing .objectMissing "S3 object not found (HeadObject)" s3Evidence
      else
        output .incompleteVerification .stateWitnessSetupError
          ("object_storage: HeadObject failed (" ++ e.message ++ ")")
          [("error", .bool true), ("s3", .bool true)]

/-! ## MongoDB documents -/

/-- `plain[field]` of a document. -/
def documentField (doc : List (String × JsValue)) (field : String) : JsValue :=
  match doc.find? (·.1 == field) with
  | some member => member.2
  | none => inherited [] field

def mongoUri (w : WitnessWorld) : Option String :=
  let nonBlank (text : Option String) := (text.map jsTrim).filter (· ≠ "")
  nonBlank (w.env "AGENTSKEPTIC_MONGO_URL") <|> nonBlank (w.env "MONGODB_URI")

def mongoRun (w : WitnessWorld) (uri : String)
    (req : MongoDocumentVerificationRequest) : Except String ReconcileOutput := do
  match ← w.findOne uri req.collection req.filter with
  | none =>
      .ok (output .missing .mongoDocumentMissing
        "No MongoDB document matched the filter" [])
  | some doc =>
      match ← firstMismatch (fun field => .ok (documentField doc field))
        req.requiredFields with
      | some m =>
          .ok { status := .inconsistent
                reasons :=
                  [{ code := SqlVerificationOutcomeCode.mongoValueMismatch.code
                     message := m.field ++ ": expected " ++ m.expected ++
                       " found " ++ m.actual
                     field := some m.field }]
                evidenceSummary :=
                  [("field", .str m.field), ("mongo", .bool true)] }
      | none => .ok (verifiedOutput [("mongo", .bool true)])

def reconcileMongoDocument (w : WitnessWorld)
    (req : MongoDocumentVerificationRequest) : ReconcileOutput :=
  match mongoUri w with
  | none =>
      setupError "mongo_document: set AGENTSKEPTIC_MONGO_URL or MONGODB_URI"
  | some uri =>
      caught (mongoRun w uri req) fun message =>
        output .incompleteVerification .stateWitnessSetupError
          ("mongo_document: " ++ message) [("error", .bool true)]

/-! ## HTTP witnesses -/

def HttpMethod.text : HttpMethod → String
  | get => "GET"
  | post => "POST"

def httpFetch (req : HttpWitnessVerificationRequest) : FetchRequest :=
  { url := req.url
    method := req.method.text
    headers := [("Accept", "application/json")]
    body := none }

/-- The parsed body, or its text where it is no JSON. -/
def parsedBody (text : String) : Json :=
  (parseJson text.toList).getD (.str text)

/-- `typeof parsed === "object" && parsed !== null`. -/
def isJsonObject : Json → Bool
  | .arr _ | .obj _ => true
  | _ => false

/-- An assertion's pointer, with the slash it may lack. -/
def assertionPointer (a : HttpWitnessResolvedAssertion) : String :=
  if a.jsonPointer.toList.head? = some '/' then a.jsonPointer
  else "/" ++ a.jsonPointer

def assertionFields (req : HttpWitnessVerificationRequest) : ScalarFields :=
  (req.assertions.getD []).map fun a => (assertionPointer a, a.value)

def httpRun (w : WitnessWorld) (req : HttpWitnessVerificationRequest) :
    Except String ReconcileOutput := do
  let r ← w.fetch (httpFetch req)
  if JsNumber.int r.status ≠ req.expectedStatus then
    .ok (output .inconsistent .httpWitnessStatusMismatch
      ("HTTP status " ++ toString r.status ++ ", expected " ++
        req.expectedStatus.toText) (httpStatusEvidence r))
  else
    let text ← r.text
    let parsed := parsedBody text
    if assertionFields req = [] then
      .ok (verifiedOutput [("http", .bool true)])
    else if isJsonObject parsed = false then
      .ok (output .inconsistent .httpWitnessAssertionMismatch
        "Response is not a JSON object; cannot apply assertions" [])
    else
      match ← firstMismatch (getPointer parsed) (assertionFields req) with
      | some m =>
          .ok (output .inconsistent .httpWitnessAssertionMismatch
            ("Assertion " ++ m.field ++ ": expected " ++ m.expected ++ " found " ++
              m.actual) [("jsonPointer", .str m.field)])
      | none => .ok (verifiedOutput [("http", .bool true)])

def reconcileHttpWitness (w : WitnessWorld)
    (req : HttpWitnessVerificationRequest) : ReconcileOutput :=
  caught (httpRun w req) fun message =>
    output .incompleteVerification .httpWitnessNetworkError message []

def reconcileStateWitness (w : WitnessWorld) (req : StateWitnessRequest) :
    ReconcileOutput :=
  match req with
  | .vectorDocument req => reconcileVectorDocument w req
  | .objectStorageObject req => reconcileObjectStorage w req
  | .httpWitness req => reconcileHttpWitness w req
  | .mongoDocument req => reconcileMongoDocument w req

end AgentSkeptic.Engine
