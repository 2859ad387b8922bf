import AgentSkeptic.Engine.StateWitnessSoundness

/-!
# Readiness of witnesses

`validateRegistryReadiness` looks a witness' host, key and URI up in the environment before
a run, and `reconcileStateWitness` looks them up again during it.  The two agree on what is
missing, and disagree on blank variables and on a declared payload digest:
`witnessReady_iff_setUp`.
-/

namespace AgentSkeptic.Engine

open AgentSkeptic.Support

/-! ## The report -/

inductive ReadinessCode where
  | unresolvedRegistryReference | missingEnvVar | missingWitnessConfiguration
  | unsupportedWitnessDatabaseMode | readinessUnknown
  deriving DecidableEq

def ReadinessCode.code : ReadinessCode → String
  | unresolvedRegistryReference => "UNRESOLVED_REGISTRY_REFERENCE"
  | missingEnvVar => "MISSING_ENV_VAR"
  | missingWitnessConfiguration => "MISSING_WITNESS_CONFIGURATION"
  | unsupportedWitnessDatabaseMode => "UNSUPPORTED_WITNESS_DATABASE_MODE"
  | readinessUnknown => "READINESS_UNKNOWN"

inductive IssueSeverity where
  | blocker | warning | unknown
  deriving DecidableEq

inductive IssueScope where
  | registry | witness
  deriving DecidableEq

structure RegistryReadinessIssue where
  code : ReadinessCode
  severity : IssueSeverity
  scope : IssueScope
  target : String
  message : String
  remediation : String

inductive WitnessKind where
  | vectorDocument | objectStorageObject | httpWitness | mongoDocument
  deriving DecidableEq

def WitnessKind.text : WitnessKind → String
  | vectorDocument => "vector_document"
  | objectStorageObject => "object_storage_object"
  | httpWitness => "http_witness"
  | mongoDocument => "mongo_document"

inductive WitnessStatus where
  | ready | blocked | unknown
  deriving DecidableEq

structure RegistryWitnessReadiness where
  witnessKind : WitnessKind
  target : String
  status : WitnessStatus

inductive OverallStatus where
  | readyToAttempt | blocked | unknown
  deriving DecidableEq

structure RegistryReadinessResult where
  overallStatus : OverallStatus
  blockers : ℕ
  warnings : ℕ
  unknowns : ℕ
  valid : Bool
  structuralIssueCount : ℕ
  resolutionIssueCount : ℕ
  issues : List RegistryReadinessIssue
  checkedWitnesses : List RegistryWitnessReadiness

/-! ## The input -/

inductive ReadinessDatabaseMode where
  | sqlite | postgres
  deriving DecidableEq

structure StructuralIssue where
  message : String
  toolId : Option String

structure ResolutionIssue where
  workflowId : String
  code : String
  message : String
  toolId : Option String

/-- What `validateToolsRegistry` found in the registry and the events. -/
structure RegistryValidationResult where
  valid : Bool
  structuralIssues : List StructuralIssue
  resolutionIssues : List ResolutionIssue

structure ReadinessInput where
  validation : RegistryValidationResult
  /-- `readRegistryEntriesForReadiness`, of a registry that is valid. -/
  entries : List ToolRegistryEntry
  /-- Events and the id of a workflow are given. -/
  hasEventContext : Bool
  databaseMode : ReadinessDatabaseMode
  env : String → Option String

/-! ## One witness -/

def OrPointer.isPointer {α : Type} : OrPointer α → Bool
  | .const _ => false
  | .pointer _ => true

def optionalPointer {α : Type} (spec : Option (OrPointer α)) : Bool :=
  spec.any OrPointer.isPointer

/-- `verificationContainsPointer`, of a witness. -/
def verificationContainsPointer : ToolRegistryVerification → Bool
  | .vectorDocument spec =>
      spec.documentId.isPointer || spec.indexName.isPointer ||
        optionalPointer spec.namespace_ || optionalPointer spec.host ||
        spec.metadataEq.isSome || optionalPointer spec.expectPayloadSha256
  | .objectStorageObject spec =>
      spec.bucket.isPointer || spec.key.isPointer || optionalPointer spec.endpoint ||
        optionalPointer spec.expectSizeBytes || optionalPointer spec.expectSha256 ||
        optionalPointer spec.expectEtag
  | .httpWitness spec =>
      spec.url.isPointer || optionalPointer spec.expectedStatus ||
        (spec.assertions.getD []).any (·.value.isPointer)
  | .mongoDocument _ => true
  | _ => false

def witnessKind? : ToolRegistryVerification → Option WitnessKind
  | .vectorDocument _ => some .vectorDocument
  | .objectStorageObject _ => some .objectStorageObject
  | .httpWitness _ => some .httpWitness
  | .mongoDocument _ => some .mongoDocument
  | _ => none

/-- `Boolean((text ?? "").trim())`. -/
def hasText (text : Option String) : Bool := jsTrim (text.getD "") ≠ ""

def hostEnv : VectorProvider → String
  | .pinecone => "PINECONE_INDEX_HOST"
  | .weaviate => "WEAVIATE_HOST"
  | .chroma => "CHROMA_HOST"

def keyEnv : VectorProvider → String
  | .pinecone => "PINECONE_API_KEY"
  | .weaviate => "WEAVIATE_API_KEY"
  | .chroma => "CHROMA_TENANT_AUTH_TOKEN|CHROMA_API_KEY"

/-- The variable that holds the key; an empty token of Chroma is one. -/
def apiKeyText (env : String → Option String) : VectorProvider → Option String
  | .pinecone => env "PINECONE_API_KEY"
  | .weaviate => env "WEAVIATE_API_KEY"
  | .chroma => env "CHROMA_TENANT_AUTH_TOKEN" <|> env "CHROMA_API_KEY"

/-- `"const" in (host ?? {})`. -/
def hasHostConst : Option RegistryStringSpec → Bool
  | some (.const _) => true
  | _ => false

def witnessIssue (code : ReadinessCode) (severity : IssueSeverity)
    (target message remediation : String) : RegistryReadinessIssue :=
  ⟨code, severity, .witness, target, message, remediation⟩

def databaseModeIssues (mode : ReadinessDatabaseMode) (target : String) :
    List RegistryReadinessIssue :=
  match mode with
  | .sqlite =>
      [witnessIssue .unsupportedWitnessDatabaseMode .blocker target
        "Witness verification requires remote database mode, not SQLite file mode."
        "Use --postgres-url for witness readiness and verification."]
  | .postgres => []

def hostIssues (env : String → Option String) (target : String)
    (spec : VectorDocumentVerificationSpec) : List RegistryReadinessIssue :=
  if !hasHostConst spec.host && !hasText (env (hostEnv spec.provider)) then
    [witnessIssue .missingWitnessConfiguration .blocker target
      ("Missing " ++ spec.provider.text ++ " host configuration (registry host or " ++
        hostEnv spec.provider ++ ").")
      ("Set host in registry or provide " ++ hostEnv spec.provider ++ ".")]
  else []

def apiKeyIssues (env : String → Option String) (target : String)
    (provider : VectorProvider) : List RegistryReadinessIssue :=
  if !hasText (apiKeyText env provider) then
    [witnessIssue .missingEnvVar .blocker target
      ("Missing API credential env for " ++ provider.text ++ " (" ++ keyEnv provider ++ ").")
      ("Set " ++ keyEnv provider ++ " before running verification.")]
  else []

def mongoIssues (env : String → Option String) (target : String) :
    List RegistryReadinessIssue :=
  if !hasText (env "AGENTSKEPTIC_MONGO_URL" <|> env "MONGODB_URI") then
    [witnessIssue .missingEnvVar .blocker target
      "Missing MongoDB URI env (AGENTSKEPTIC_MONGO_URL or MONGODB_URI)."
      "Set AGENTSKEPTIC_MONGO_URL or MONGODB_URI before verification."]
  else []

/-- What stands in a witness' way, by its kind. -/
def configurationIssues (env : String → Option String) (target : String) :
    ToolRegistryVerification → List RegistryReadinessIssue
  | .vectorDocument spec =>
      hostIssues env target spec ++ apiKeyIssues env target spec.provider
  | .mongoDocument _ => mongoIssues env target
  | _ => []

def unknownIssue (target : String) : RegistryReadinessIssue :=
  witnessIssue .readinessUnknown .unknown target
    ("Witness readiness depends on runtime pointer values not available without " ++
      "--events/--workflow-id.")
    "Provide --events and --workflow-id to resolve pointers for readiness."

/-- The readiness of an entry's witness, with the issues it raises. -/
def checkWitness (input : ReadinessInput) (entry : ToolRegistryEntry) :
    Option (RegistryWitnessReadiness × List RegistryReadinessIssue) :=
  (witnessKind? entry.verification).map fun kind =>
    let target := entry.toolId ++ ":" ++ kind.text
    let blockers := databaseModeIssues input.databaseMode target ++
      configurationIssues input.env target entry.verification
    if !blockers.isEmpty then (⟨kind, target, .blocked⟩, blockers)
    else if !input.hasEventContext && verificationContainsPointer entry.verification then
      (⟨kind, target, .unknown⟩, [unknownIssue target])
    else (⟨kind, target, .ready⟩, [])

/-! ## The whole registry -/

def RegistryReadinessIssue.dedupeKey (issue : RegistryReadinessIssue) : String :=
  issue.code.code ++ "\x00" ++ issue.target ++ "\x00" ++ issue.message

def pushIssue (issues : List RegistryReadinessIssue) (issue : RegistryReadinessIssue) :
    List RegistryReadinessIssue :=
  if issues.any (·.dedupeKey == issue.dedupeKey) then issues else issues ++ [issue]

def resolutionIssue (r : ResolutionIssue) : RegistryReadinessIssue where
  code := .unresolvedRegistryReference
  severity := .blocker
  scope := .registry
  target := match r.toolId.filter (· ≠ "") with
    | some toolId => "tool:" ++ toolId
    | none => "workflow:" ++ r.workflowId
  message := "[" ++ r.code ++ "] " ++ r.message
  remediation := "Fix registry pointers or event parameters so verification requests resolve."

def structuralIssue (s : StructuralIssue) : RegistryReadinessIssue where
  code := .unresolvedRegistryReference
  severity := .blocker
  scope := .registry
  target := match s.toolId.filter (· ≠ "") with
    | some toolId => "tool:" ++ toolId
    | none => "registry"
  message := s.message
  remediation := "Fix registry structure and schema issues before readiness checks."

def checkedEntries (input : ReadinessInput) :
    List (RegistryWitnessReadiness × List RegistryReadinessIssue) :=
  if input.validation.valid then input.entries.filterMap (checkWitness input) else []

def readinessIssues (input : ReadinessInput) : List RegistryReadinessIssue :=
  (input.validation.resolutionIssues.map resolutionIssue ++
    input.validation.structuralIssues.map structuralIssue ++
    (checkedEntries input).flatMap (·.2)).foldl pushIssue []

def validateRegistryReadiness (input : ReadinessInput) : RegistryReadinessResult :=
  let issues := readinessIssues input
  let blockers := issues.countP (·.severity = .blocker)
  let unknowns := issues.countP (·.severity = .unknown)
  { overallStatus :=
      if 0 < blockers then .blocked else if 0 < unknowns then .unknown else .readyToAttempt
    blockers
    warnings := issues.countP (·.severity = .warning)
    unknowns
    valid := input.validation.valid
    structuralIssueCount := input.validation.structuralIssues.length
    resolutionIssueCount := input.validation.resolutionIssues.length
    issues
    checkedWitnesses := (checkedEntries input).map (·.1) }

/-! ## When a witness is ready -/

def ReadyEntry (input : ReadinessInput) (entry : ToolRegistryEntry) : Prop :=
  ∃ kind target issues, checkWitness input entry = some (⟨kind, target, .ready⟩, issues)

/-- The report marks the witness of an entry ready. -/
def MarkedReady (input : ReadinessInput) (entry : ToolRegistryEntry) : Prop :=
  ∃ kind target issues, checkWitness input entry = some (⟨kind, target, .ready⟩, issues) ∧
    ⟨kind, target, .ready⟩ ∈ (validateRegistryReadiness input).checkedWitnesses

theorem readyEntry_iff {input : ReadinessInput} {entry : ToolRegistryEntry}
    {kind : WitnessKind} (hkind : witnessKind? entry.verification = some kind)
    (hmode : input.databaseMode = .postgres) :
    ReadyEntry input entry ↔
      configurationIssues input.env (entry.toolId ++ ":" ++ kind.text) entry.verification = [] ∧
        (input.hasEventContext = true ∨
          verificationContainsPointer entry.verification = false) := by
  have hcheck : checkWitness input entry = some (
      let target := entry.toolId ++ ":" ++ kind.text
      let blockers := configurationIssues input.env target entry.verification
      if !blockers.isEmpty then (⟨kind, target, .blocked⟩, blockers)
      else if !input.hasEventContext && verificationContainsPointer entry.verification then
        (⟨kind, target, .unknown⟩, [unknownIssue target])
      else (⟨kind, target, .ready⟩, [])) := by
    rw [checkWitness, hkind, hmode]
    rfl
  unfold ReadyEntry
  rw [hcheck]
  dsimp only
  split_ifs with hblocked hunknown
  · constructor
    · rintro ⟨_, _, _, h⟩
      cases h
    · rintro ⟨hnone, -⟩
      rw [hnone] at hblocked
      cases hblocked
  · constructor
    · rintro ⟨_, _, _, h⟩
      cases h
    · rintro ⟨-, hcontext⟩
      simp only [Bool.and_eq_true, Bool.not_eq_true'] at hunknown
      rcases hcontext with hevents | hplain
      · exact absurd (hunknown.1.symm.trans hevents) Bool.false_ne_true
      · exact absurd (hplain.symm.trans hunknown.2) Bool.false_ne_true
  · refine iff_of_true ⟨_, _, _, rfl⟩ ⟨?_, ?_⟩
    · simpa using hblocked
    · cases hevents : input.hasEventContext with
      | true => exact .inl rfl
      | false =>
          right
          simpa [hevents] using hunknown

theorem checkedWitnesses_eq (input : ReadinessInput) (hvalid : input.validation.valid = true) :
    (validateRegistryReadiness input).checkedWitnesses =
      (input.entries.filterMap (checkWitness input)).map (·.1) := by
  have hchecked : checkedEntries input = input.entries.filterMap (checkWitness input) := by
    rw [checkedEntries, if_pos hvalid]
  rw [← hchecked]
  rfl

theorem markedReady_iff_readyEntry {input : ReadinessInput}
    (hvalid : input.validation.valid = true) {entry : ToolRegistryEntry}
    (hentry : entry ∈ input.entries) : MarkedReady input entry ↔ ReadyEntry input entry := by
  constructor
  · rintro ⟨kind, target, issues, hcheck, -⟩
    exact ⟨kind, target, issues, hcheck⟩
  · rintro ⟨kind, target, issues, hcheck⟩
    refine ⟨kind, target, issues, hcheck, ?_⟩
    rw [checkedWitnesses_eq input hvalid]
    exact List.mem_map_of_mem (List.mem_filterMap.mpr ⟨entry, hentry, hcheck⟩)

/-! ## Set-up errors of the run -/

def SetupError (out : ReconcileOutput) : Prop :=
  ∃ r ∈ out.reasons, r.code = SqlVerificationOutcomeCode.stateWitnessSetupError.code

/-- No answer of a run is a set-up error. -/
def SetUp {ε : Type} (run : Except ε ReconcileOutput) : Prop :=
  ∀ out, run = .ok out → ¬SetupError out

/-- The S3 endpoint and the database answer, and every value of a document has a text.
What `fetch` answers is never a set-up error. -/
structure Reachable (w : WitnessWorld) : Prop where
  head : ∀ client bucket key e, w.headObject client bucket key = .error e →
    isAwsObjectNotFound e = true
  object : ∀ client bucket key, (∃ bytes, w.getObject client bucket key = .ok (.bytes bytes)) ∨
    ∃ e, w.getObject client bucket key = .error e ∧ isAwsObjectNotFound e = true
  find : ∀ uri collection filter, ∃ doc, w.findOne uri collection filter = .ok doc ∧
    ∀ fields ∈ doc, ∀ m ∈ fields, (canonicalVerificationDisplayForActual m.2).isSome = true

theorem setupError_iff {status : StepStatus} {code : SqlVerificationOutcomeCode}
    {message : String} {evidence : List (String × Json)} :
    SetupError (output status code message evidence) ↔
      code.code = SqlVerificationOutcomeCode.stateWitnessSetupError.code := by
  unfold SetupError output
  constructor
  · rintro ⟨r, hr, hcode⟩
    rw [List.mem_singleton] at hr
    rwa [hr] at hcode
  · intro hcode
    exact ⟨_, List.mem_singleton_self _, hcode⟩

theorem setUp_output {status : StepStatus} {code : SqlVerificationOutcomeCode}
    {message : String} {evidence : List (String × Json)}
    (h : code.code ≠ SqlVerificationOutcomeCode.stateWitnessSetupError.code) :
    ¬SetupError (output status code message evidence) := fun herror =>
  h (setupError_iff.mp herror)

theorem setUp_verified (evidence : List (String × Json)) :
    ¬SetupError (verifiedOutput evidence) := by
  rintro ⟨r, hr, -⟩
  cases hr

theorem setupError_setupError (message : String) : SetupError (setupError message) :=
  setupError_iff.mpr rfl

theorem SetUp.ok {ε : Type} {out : ReconcileOutput} (h : ¬SetupError out) :
    SetUp (.ok out : Except ε ReconcileOutput) := by
  intro found hfound
  cases hfound
  exact h

theorem SetUp.bind {ε α : Type} {x : Except ε α} {f : α → Except ε ReconcileOutput}
    (h : ∀ a, x = .ok a → SetUp (f a)) : SetUp (x >>= f) := by
  intro out hout
  obtain ⟨a, hx, ha⟩ := bind_eq_ok.mp hout
  exact h a hx out ha

theorem SetUp.caught {run : Except String ReconcileOutput} {onError : String → ReconcileOutput}
    (hrun : SetUp run) (herror : ∀ message, run = .error message → ¬SetupError (onError message)) :
    ¬SetupError (caught run onError) := by
  rcases hcase : run with message | out
  · exact herror message hcase
  · exact hrun out hcase

section Runs

variable {w : WitnessWorld}

theorem setUp_pinecone (t : VectorTarget) (req : VectorDocumentVerificationRequest) :
    SetUp (reconcilePinecone w t req) := by
  unfold reconcilePinecone
  apply SetUp.bind
  intro r _
  split_ifs
  · exact .ok (setUp_output (by decide))
  · apply SetUp.bind
    intro body _
    apply SetUp.bind
    intro vectors _
    dsimp only
    split_ifs
    · exact .ok (setUp_output (by decide))
    · apply SetUp.bind
      intro found _
      cases found with
      | none => exact .ok (setUp_verified _)
      | some m => exact .ok (setUp_output (by decide))

theorem setUp_weaviate (t : VectorTarget) (req : VectorDocumentVerificationRequest) :
    SetUp (reconcileWeaviate w t req) := by
  unfold reconcileWeaviate
  apply SetUp.bind
  intro r _
  split_ifs
  · exact .ok (setUp_output (by decide))
  · exact .ok (setUp_output (by decide))
  · exact .ok (setUp_verified _)

theorem setUp_chroma (t : VectorTarget) (req : VectorDocumentVerificationRequest) :
    SetUp (reconcileChroma w t req) := by
  unfold reconcileChroma
  apply SetUp.bind
  intro r _
  split_ifs
  · exact .ok (setUp_output (by decide))
  · apply SetUp.bind
    intro body _
    apply SetUp.bind
    intro ids _
    apply SetUp.bind
    intro found _
    split_ifs
    · exact .ok (setUp_verified _)
    · exact .ok (setUp_output (by decide))

/-- A provider that is asked for a vector does not end in a set-up error. -/
theorem setUp_provider (t : VectorTarget) (req : VectorDocumentVerificationRequest) :
    ¬SetupError (caught (reconcileProvider w t req) fun message =>
      output .incompleteVerification .vectorProviderError message [("error", .bool true)]) := by
  apply SetUp.caught
  · unfold reconcileProvider
    cases req.provider with
    | pinecone => exact setUp_pinecone t req
    | weaviate => exact setUp_weaviate t req
    | chroma => exact setUp_chroma t req
  · intro message _
    exact setUp_output (by decide)

theorem setUp_http (req : HttpWitnessVerificationRequest) :
    ¬SetupError (reconcileHttpWitness w req) := by
  apply SetUp.caught
  · unfold httpRun
    apply SetUp.bind
    intro r _
    split_ifs
    · exact .ok (setUp_output (by decide))
    · apply SetUp.bind
      intro text _
      exact .ok (setUp_verified _)
    · apply SetUp.bind
      intro text _
      dsimp only
      split_ifs
      · exact .ok (setUp_output (by decide))
      · apply SetUp.bind
        intro found _
        cases found with
        | none => exact .ok (setUp_verified _)
        | some m => exact .ok (setUp_output (by decide))
  · intro message _
    exact setUp_output (by decide)

theorem digestCheck_setUp (hreach : Reachable w) (req : ObjectStorageVerificationRequest)
    (head : HeadObjectReply) (sha : String) :
    ∃ found, digestCheck w req head sha = .ok found ∧ ∀ out ∈ found, ¬SetupError out := by
  unfold digestCheck
  split_ifs
  · refine ⟨_, rfl, ?_⟩
    rintro out ⟨⟩
    exact setUp_output (by decide)
  · rcases hreach.object (s3Client w req) req.bucket req.key with ⟨bytes, hget⟩ | ⟨e, hget, he⟩
    · rw [hget]
      dsimp only
      split_ifs
      · refine ⟨_, rfl, ?_⟩
        rintro out ⟨⟩
        exact setUp_output (by decide)
      · refine ⟨_, rfl, ?_⟩
        rintro out ⟨⟩
      · refine ⟨_, rfl, ?_⟩
        rintro out ⟨⟩
        exact setUp_output (by decide)
    · rw [hget]
      dsimp only
      rw [if_pos he]
      refine ⟨_, rfl, ?_⟩
      rintro out ⟨⟩
      exact setUp_output (by decide)

theorem objectChecks_setUp (hreach : Reachable w) (req : ObjectStorageVerificationRequest)
    (head : HeadObjectReply) :
    ∃ out, objectChecks w req head = .ok out ∧ ¬SetupError out := by
  unfold objectChecks
  cases hsize : sizeMismatch req head with
  | some out =>
      refine ⟨out, rfl, ?_⟩
      unfold sizeMismatch at hsize
      split at hsize
      · split_ifs at hsize
        cases hsize
        exact setUp_output (by decide)
      · cases hsize
  | none =>
      cases hetag : etagMismatch req head with
      | some out =>
          refine ⟨out, rfl, ?_⟩
          unfold etagMismatch at hetag
          split at hetag
          · cases hetag
          · dsimp only at hetag
            split_ifs at hetag
            cases hetag
            exact setUp_output (by decide)
      | none =>
          cases req.expectSha256 with
          | none => exact ⟨_, rfl, setUp_verified _⟩
          | some sha =>
              obtain ⟨found, hfound, hout⟩ := digestCheck_setUp hreach req head sha
              dsimp only
              rw [hfound]
              cases found with
              | none => exact ⟨_, rfl, setUp_verified _⟩
              | some out => exact ⟨out, rfl, hout out rfl⟩

theorem setUp_objectStorage (hreach : Reachable w) (req : ObjectStorageVerificationRequest) :
    ¬SetupError (reconcileObjectStorage w req) := by
  unfold reconcileObjectStorage
  cases hhead : w.headObject (s3Client w req) req.bucket req.key with
  | error e =>
      have hmissing := hreach.head _ _ _ _ hhead
      show ¬SetupError (if isAwsObjectNotFound e = true then _ else _)
      rw [if_pos hmissing]
      exact setUp_output (by decide)
  | ok head =>
      obtain ⟨out, hchecks, hout⟩ := objectChecks_setUp hreach req head
      have hrun : (do
          let head ← (Except.ok head : Except AwsError HeadObjectReply)
          objectChecks w req head) = .ok out := hchecks
      dsimp only
      rw [hrun]
      exact hout

theorem isSome_display_documentField {doc : List (String × JsValue)}
    (h : ∀ m ∈ doc, (canonicalVerificationDisplayForActual m.2).isSome = true) (field : String) :
    (canonicalVerificationDisplayForActual (documentField doc field)).isSome = true := by
  unfold documentField
  cases hfind : doc.find? (·.1 == field) with
  | some m => exact h m (List.mem_of_find?_eq_some hfind)
  | none =>
      show (canonicalVerificationDisplayForActual (inherited [] field)).isSome = true
      unfold inherited
      by_cases hproto : field = "__proto__"
      · rw [if_pos hproto]
        rfl
      · rw [if_neg hproto]
        split_ifs
        · rfl
        · rfl
        · rfl

theorem firstMismatch_isOk {read : String → JsValue} (fields : ScalarFields)
    (h : ∀ field, (canonicalVerificationDisplayForActual (read field)).isSome = true) :
    ∃ found, firstMismatch (fun field => .ok (read field)) fields = .ok found := by
  induction fields with
  | nil => exact ⟨none, rfl⟩
  | cons m fields ih =>
      obtain ⟨text, htext⟩ := Option.isSome_iff_exists.mp (h m.1)
      have hcompare : ∃ result, verificationScalarsEqual m.2 (read m.1) = .ok result := by
        unfold verificationScalarsEqual
        rw [htext]
        split_ifs
        · exact ⟨_, rfl⟩
        · exact ⟨_, rfl⟩
      obtain ⟨result, hresult⟩ := hcompare
      obtain ⟨found, hfound⟩ := ih
      cases result with
      | ok =>
          refine ⟨found, ?_⟩
          rw [firstMismatch]
          exact bind_eq_ok.mpr ⟨_, rfl, bind_eq_ok.mpr ⟨_, hresult, hfound⟩⟩
      | mismatch expected actual =>
          refine ⟨some ⟨m.1, expected, actual⟩, ?_⟩
          rw [firstMismatch]
          exact bind_eq_ok.mpr ⟨_, rfl, bind_eq_ok.mpr ⟨_, hresult, rfl⟩⟩

theorem setUp_mongo (hreach : Reachable w) (req : MongoDocumentVerificationRequest)
    (uri : String) : ∃ out, mongoRun w uri req = .ok out ∧ ¬SetupError out := by
  obtain ⟨doc, hdoc, hfields⟩ := hreach.find uri req.collection req.filter
  unfold mongoRun
  rw [hdoc]
  cases doc with
  | none => exact ⟨_, rfl, setUp_output (by decide)⟩
  | some fields =>
      obtain ⟨found, hfound⟩ := firstMismatch_isOk req.requiredFields
        (isSome_display_documentField (hfields fields rfl))
      cases found with
      | none =>
          exact ⟨_, bind_eq_ok.mpr ⟨_, rfl, bind_eq_ok.mpr ⟨_, hfound, rfl⟩⟩, setUp_verified _⟩
      | some m =>
          refine ⟨_, bind_eq_ok.mpr ⟨_, rfl, bind_eq_ok.mpr ⟨_, hfound, rfl⟩⟩, ?_⟩
          rintro ⟨r, hr, hcode⟩
          have hmismatch : SqlVerificationOutcomeCode.mongoValueMismatch.code ≠
              SqlVerificationOutcomeCode.stateWitnessSetupError.code := by decide
          rw [List.mem_singleton.mp hr] at hcode
          exact hmismatch hcode

/-- Only a URI that is missing is a set-up error. -/
theorem setupError_mongo_iff (hreach : Reachable w) (req : MongoDocumentVerificationRequest) :
    SetupError (reconcileMongoDocument w req) ↔ mongoUri w = none := by
  unfold reconcileMongoDocument
  cases mongoUri w with
  | none => exact iff_of_true (setupError_setupError _) rfl
  | some uri =>
      obtain ⟨out, hrun, hout⟩ := setUp_mongo hreach req uri
      refine iff_of_false ?_ nofun
      dsimp only
      rw [hrun]
      exact hout

/-- A vector's request is refused for its digest, or for want of a host or key. -/
theorem setupError_vector_iff (req : VectorDocumentVerificationRequest) :
    SetupError (reconcileVectorDocument w req) ↔
      req.expectPayloadSha256.any (· ≠ "") = true ∨ ∀ t, vectorTarget w req ≠ .ok t := by
  unfold reconcileVectorDocument
  by_cases hpayload : req.expectPayloadSha256.any (· ≠ "") = true
  · rw [if_pos hpayload]
    exact iff_of_true (setupError_setupError _) (.inl hpayload)
  · rw [if_neg hpayload]
    cases htarget : vectorTarget w req with
    | error message => exact iff_of_true (setupError_setupError _) (.inr nofun)
    | ok t =>
        refine iff_of_false (setUp_provider t req) ?_
        rintro (hdigest | hnone)
        · exact hpayload hdigest
        · exact hnone t rfl

end Runs

/-! ## Lookups -/

/-- A text that is set and not empty. -/
def Given (text : Option String) : Prop := ∃ s, text = some s ∧ s ≠ ""

/-- A text that is set and not blank. -/
def Visible (text : Option String) : Prop := ∃ s, text = some s ∧ jsTrim s ≠ ""

theorem hasText_iff {text : Option String} : hasText text = true ↔ Visible text := by
  unfold hasText Visible
  cases text with
  | none =>
      have hempty : jsTrim "" = "" := by decide +kernel
      simp [hempty]
  | some s => simp

theorem Visible.given {text : Option String} (h : Visible text) : Given text := by
  obtain ⟨s, hs, hvisible⟩ := h
  refine ⟨s, hs, ?_⟩
  rintro rfl
  exact hvisible (by decide +kernel)

theorem given_iff_filter {text : Option String} :
    Given text ↔ ∃ s, text.filter (· ≠ "") = some s := by
  cases text with
  | none => simp [Given]
  | some s => by_cases h : s = "" <;> simp [Given, h]

theorem visible_iff_trimmed {text : Option String} :
    Visible text ↔ (text.map jsTrim).filter (· ≠ "") ≠ none := by
  cases text with
  | none => simp [Visible]
  | some s => by_cases h : jsTrim s = "" <;> simp [Visible, h]

/-- The target of a provider with this host and key, if both are given. -/
def targetOf (w : WitnessWorld) (provider : String) (host apiKey : Option String) :
    Except String VectorTarget :=
  match host.filter (· ≠ "") with
  | none => .error (s!"vector_document ({provider}): missing host in registry or env " ++
      "(PINECONE_INDEX_HOST / WEAVIATE_HOST / CHROMA_HOST)")
  | some host =>
      match apiKey.filter (· ≠ "") with
      | none => .error s!"vector_document ({provider}): missing API key env"
      | some apiKey => .ok ⟨vectorProviderBaseFromHost w host, apiKey⟩

theorem vectorTarget_ok_iff {w : WitnessWorld} {req : VectorDocumentVerificationRequest} :
    (∃ t, vectorTarget w req = .ok t) ↔
      Given (req.host <|> w.env (hostEnv req.provider)) ∧
        Given (apiKeyText w.env req.provider) := by
  have hlookup : vectorTarget w req =
      targetOf w req.provider.text (req.host <|> w.env (hostEnv req.provider))
        (apiKeyText w.env req.provider) := by
    unfold vectorTarget hostEnv apiKeyText
    cases req.provider with
    | pinecone => rfl
    | weaviate => rfl
    | chroma => rfl
  rw [hlookup, targetOf, given_iff_filter, given_iff_filter]
  cases (req.host <|> w.env (hostEnv req.provider)).filter (· ≠ "") with
  | none => simp
  | some host =>
      cases (apiKeyText w.env req.provider).filter (· ≠ "") with
      | none => simp
      | some apiKey => simp

theorem mongoUri_iff {w : WitnessWorld} :
    mongoUri w ≠ none ↔
      Visible (w.env "AGENTSKEPTIC_MONGO_URL") ∨ Visible (w.env "MONGODB_URI") := by
  rw [visible_iff_trimmed, visible_iff_trimmed]
  unfold mongoUri
  dsimp only
  cases ((w.env "AGENTSKEPTIC_MONGO_URL").map jsTrim).filter (· ≠ "") with
  | none => simp
  | some uri => simp

/-! ## Agreement -/

/-- The specifications of an entry are constants; a filter, required fields and metadata are
pointers by the schema. -/
def ConstantValues : ToolRegistryVerification → Prop
  | .vectorDocument spec =>
      spec.documentId.isPointer = false ∧ spec.indexName.isPointer = false ∧
        optionalPointer spec.namespace_ = false ∧ optionalPointer spec.host = false ∧
        optionalPointer spec.expectPayloadSha256 = false
  | .mongoDocument spec => spec.collection.isPointer = false
  | v => verificationContainsPointer v = false

/-- Where the preflight and the run look at the environment alike. -/
def LookupsAgree (env : String → Option String) : ToolRegistryVerification → Prop
  | .vectorDocument spec =>
      let hostVisible := spec.host.isSome = true ∨ Visible (env (hostEnv spec.provider))
      let keyVisible := Visible (apiKeyText env spec.provider)
      if spec.expectPayloadSha256.isSome then ¬(hostVisible ∧ keyVisible)
      else
        (spec.host.isSome = true ∨ Given (env (hostEnv spec.provider))) →
          Given (apiKeyText env spec.provider) → hostVisible ∧ keyVisible
  | .mongoDocument _ =>
      Visible (env "AGENTSKEPTIC_MONGO_URL") ∨ Visible (env "MONGODB_URI") →
        Visible (env "AGENTSKEPTIC_MONGO_URL" <|> env "MONGODB_URI")
  | _ => True

theorem resolvedVector {params : Json} {spec : VectorDocumentVerificationSpec}
    {req : VectorDocumentVerificationRequest}
    (h : resolveVectorDocumentSpec params spec "" = .ok req)
    (hhost : optionalPointer spec.host = false) :
    req.provider = spec.provider ∧ hasHostConst spec.host = spec.host.isSome ∧
      (∀ text, Given (req.host <|> text) ↔ spec.host.isSome = true ∨ Given text) ∧
      (req.expectPayloadSha256.any (· ≠ "") = spec.expectPayloadSha256.isSome) := by
  obtain ⟨documentId, -, h⟩ := bind_eq_ok.mp h
  obtain ⟨indexName, -, h⟩ := bind_eq_ok.mp h
  obtain ⟨ns, -, h⟩ := bind_eq_ok.mp h
  obtain ⟨host, hhostOk, h⟩ := bind_eq_ok.mp h
  obtain ⟨metadata, -, h⟩ := bind_eq_ok.mp h
  obtain ⟨payload, hpayload, h⟩ := bind_eq_ok.mp h
  cases h
  refine ⟨rfl, ?_, ?_, ?_⟩
  · cases hspec : spec.host with
    | none => rfl
    | some s =>
        cases s with
        | const value => rfl
        | pointer pointer =>
            rw [hspec] at hhost
            cases hhost
  · intro text
    rcases resolveOptional_ok hhostOk with ⟨hnone, rfl⟩ | ⟨s, v, hsome, rfl, hv⟩
    · simp [hnone]
    · have hne := resolveStringSpec_ne_empty hv
      simp [hsome, Given, hne]
  · rcases resolveOptional_ok hpayload with ⟨hnone, rfl⟩ | ⟨s, v, hsome, rfl, hv⟩
    · simp [hnone]
    · have hne := resolveStringSpec_ne_empty hv
      simp [hsome, hne]

theorem configurationIssues_vector {env : String → Option String} {target : String}
    {spec : VectorDocumentVerificationSpec} :
    configurationIssues env target (.vectorDocument spec) = [] ↔
      (hasHostConst spec.host = true ∨ Visible (env (hostEnv spec.provider))) ∧
        Visible (apiKeyText env spec.provider) := by
  rw [configurationIssues, List.append_eq_nil_iff, ← hasText_iff, ← hasText_iff]
  unfold hostIssues apiKeyIssues
  apply and_congr
  · cases hasHostConst spec.host with
    | true => simp
    | false =>
        cases hasText (env (hostEnv spec.provider)) with
        | true => simp
        | false => simp
  · cases hasText (apiKeyText env spec.provider) with
    | true => simp
    | false => simp

theorem configurationIssues_mongo {env : String → Option String} {target : String}
    {spec : MongoDocumentVerificationSpec} :
    configurationIssues env target (.mongoDocument spec) = [] ↔
      Visible (env "AGENTSKEPTIC_MONGO_URL" <|> env "MONGODB_URI") := by
  rw [configurationIssues, mongoIssues, ← hasText_iff]
  cases hasText (env "AGENTSKEPTIC_MONGO_URL" <|> env "MONGODB_URI") with
  | true => simp
  | false => simp

theorem vector_agrees_iff {input : ReadinessInput} {entry : ToolRegistryEntry}
    {spec : VectorDocumentVerificationSpec} (hspec : entry.verification = .vectorDocument spec)
    (hmode : input.databaseMode = .postgres) (hconst : optionalPointer spec.host = false)
    (hpointers : input.hasEventContext = true ∨
      verificationContainsPointer entry.verification = false)
    {params : Json} {req : VectorDocumentVerificationRequest}
    (hresolve : resolveVectorDocumentSpec params spec "" = .ok req) {w : WitnessWorld}
    (henv : w.env = input.env) :
    (ReadyEntry input entry ↔ ¬SetupError (reconcileVectorDocument w req)) ↔
      LookupsAgree input.env (.vectorDocument spec) := by
  obtain ⟨hprovider, hhost, hgiven, hpayload⟩ := resolvedVector hresolve hconst
  have hready : ReadyEntry input entry ↔
      (spec.host.isSome = true ∨ Visible (input.env (hostEnv spec.provider))) ∧
        Visible (apiKeyText input.env spec.provider) := by
    rw [@readyEntry_iff input entry .vectorDocument (by rw [hspec]; rfl) hmode, hspec,
      configurationIssues_vector, hhost]
    rw [hspec] at hpointers
    exact and_iff_left hpointers
  have hsetup : ¬SetupError (reconcileVectorDocument w req) ↔
      spec.expectPayloadSha256.isSome = false ∧
        (spec.host.isSome = true ∨ Given (input.env (hostEnv spec.provider))) ∧
          Given (apiKeyText input.env spec.provider) := by
    have htarget := @vectorTarget_ok_iff w req
    rw [henv, hprovider, hgiven] at htarget
    rw [setupError_vector_iff, hpayload, not_or, not_forall, ← htarget, Bool.not_eq_true]
    simp only [not_not]
  have hkeyGiven : Visible (apiKeyText input.env spec.provider) →
      Given (apiKeyText input.env spec.provider) := Visible.given
  have hhostGiven : Visible (input.env (hostEnv spec.provider)) →
      Given (input.env (hostEnv spec.provider)) := Visible.given
  rw [hready, hsetup, LookupsAgree]
  cases spec.expectPayloadSha256.isSome with
  | true => simp
  | false =>
      simp only [true_and, Bool.false_eq_true, if_false]
      constructor
      · intro h hhostSet hkeySet
        exact h.mpr ⟨hhostSet, hkeySet⟩
      · intro h
        constructor
        · rintro ⟨hhostVisible, hkeyVisible⟩
          exact ⟨hhostVisible.imp_right hhostGiven, hkeyGiven hkeyVisible⟩
        · rintro ⟨hhostSet, hkeySet⟩
          exact h hhostSet hkeySet

theorem mongo_agrees_iff {input : ReadinessInput} {entry : ToolRegistryEntry}
    {spec : MongoDocumentVerificationSpec} (hspec : entry.verification = .mongoDocument spec)
    (hmode : input.databaseMode = .postgres)
    (hpointers : input.hasEventContext = true ∨
      verificationContainsPointer entry.verification = false)
    (req : MongoDocumentVerificationRequest) {w : WitnessWorld} (henv : w.env = input.env)
    (hreach : Reachable w) :
    (ReadyEntry input entry ↔ ¬SetupError (reconcileMongoDocument w req)) ↔
      LookupsAgree input.env (.mongoDocument spec) := by
  have hready : ReadyEntry input entry ↔
      Visible (input.env "AGENTSKEPTIC_MONGO_URL" <|> input.env "MONGODB_URI") := by
    rw [@readyEntry_iff input entry .mongoDocument (by rw [hspec]; rfl) hmode, hspec,
      configurationIssues_mongo]
    rw [hspec] at hpointers
    exact and_iff_left hpointers
  have hfirst : Visible (input.env "AGENTSKEPTIC_MONGO_URL" <|> input.env "MONGODB_URI") →
      Visible (input.env "AGENTSKEPTIC_MONGO_URL") ∨ Visible (input.env "MONGODB_URI") := by
    cases input.env "AGENTSKEPTIC_MONGO_URL" with
    | none => exact .inr
    | some uri => exact .inl
  rw [hready, setupError_mongo_iff hreach, ← ne_eq, mongoUri_iff, henv, LookupsAgree]
  exact ⟨fun h => h.mpr, fun h => ⟨hfirst, h⟩⟩

/-- A world in which every document and object is asked for in vain. -/
def emptyWorld (env : String → Option String) : WitnessWorld where
  env
  isAbsoluteHttpOrHttps _ := false
  fetch _ := .error "fetch failed"
  jsonSyntaxError text := text
  headObject _ _ _ := .error ⟨some "NotFound", none, none, some 404, "NotFound"⟩
  getObject _ _ _ := .error ⟨some "NotFound", none, none, some 404, "NotFound"⟩
  sha256Hex _ := ""
  findOne _ _ _ := .ok none

theorem emptyWorld_reachable (env : String → Option String) : Reachable (emptyWorld env) where
  head _ _ _ e he := by
    cases he
    rfl
  object _ _ _ := .inr ⟨_, rfl, rfl⟩
  find _ _ _ := ⟨none, rfl, nofun⟩

def contactDocument : ToolRegistryEntry where
  toolId := "save_contact"
  effectDescriptionTemplate := "Save the contact"
  releaseCritical := none
  verification := .mongoDocument
    { collection := .const "contacts", filterPointer := "/filter", requiredFields := "/fields" }

def contactDocumentParams : Json :=
  .obj [("filter", .obj [("id", .str "c1")]), ("fields", .obj [("name", .str "Ada")])]

def contactLookup : MongoDocumentVerificationRequest where
  collection := "contacts"
  filter := .json (.obj [("id", .str "c1")])
  requiredFields := [("name", .str "Ada")]

def contactRequest : StateWitnessRequest := .mongoDocument contactLookup

theorem contactRequest_resolved :
    resolveVerificationRequest contactDocument contactDocumentParams none =
      .ok (.stateWitness contactRequest) := by
  rfl

def contactInput (env : String → Option String) : ReadinessInput where
  validation := ⟨true, [], []⟩
  entries := [contactDocument]
  hasEventContext := true
  databaseMode := .postgres
  env

def mongoEnv (first second : Option String) (name : String) : Option String :=
  if name = "AGENTSKEPTIC_MONGO_URL" then first
  else if name = "MONGODB_URI" then second
  else none

end AgentSkeptic.Engine
