import AgentSkeptic.Bundle.AgentRunRecord
import AgentSkeptic.Events.LoadEvents

/-!
# Loading a run

`loadCorpusRun` of `debugCorpus.ts`.  The manifest is read first and says what the
other files must be; the result and the events are compared and read by their
LF-canonical text.  So a directory answers by the LF-canonical texts of the files that
its manifest vouches for (`loadFiles_eq_of_canonical`), and by no other file
(`loadCorpusRun_congr`).
-/

namespace AgentSkeptic.Bundle

open AgentSkeptic.Support AgentSkeptic.Events

/-- The schemas of a workflow result, its recomputation, and `Date.parse` where it is
not `NaN`. -/
structure LoaderRuntime extends BundleRuntime where
  validateWorkflowResult : Json → Bool
  validateWorkflowResultV9 : Json → Bool
  /-- The emitted result, or the message of the error that is thrown. -/
  normalizeToEmittedWorkflowResult : Json → Except String Json
  dateParse : String → Option ℤ

/-- The code of the error and its message, up to what the runtime appends to it. -/
structure CorpusLoadError where
  code : String
  message : String
  deriving DecidableEq, Repr

/-- Why no run is loaded: an error outcome, or a `TypeError`. -/
inductive LoadStop where
  | error (e : CorpusLoadError)
  | thrown
  deriving DecidableEq, Repr

/-- The `ok` outcome.  Without a date, `capturedAtEffectiveMs` is the modification time
of the result file. -/
structure CorpusRun where
  runId : String
  workflowResult : Json
  customerId : Option String
  capturedAt : Option String
  agentRunRecord : Json
  capturedAtEffectiveMs : Option ℤ
  malformedEventLineCount : ℕ

/-- What `realpathSync` makes of the run folder. -/
inductive RunFolder where
  | unreachable
  | escapes
  | folder (dir : Directory)

def loadError {α : Type} (code message : String) : Except LoadStop α :=
  .error (.error ⟨code, message⟩)

/-! ## The manifest -/

section

variable (rt : BundleRuntime)

/-- The version that the manifest declares chooses the schema. -/
def manifestFits (parsed : Json) : Bool :=
  if numberAt parsed "schemaVersion" = 2 then (agentRunRecordV2Schema rt).valid parsed
  else if numberAt parsed "schemaVersion" = 1 then (agentRunRecordV1Schema rt).valid parsed
  else false

def validateAgentRunManifest (parsed : Json) : Except LoadStop Json :=
  match parsed with
  | .null => .error .thrown
  | _ =>
      if manifestFits rt parsed then .ok parsed
      -- `String` of a version that is neither 1 nor 2
      else if (parsed.member "schemaVersion").toText = none then .error .thrown
      else
        loadError "AGENT_RUN_INVALID" "agent-run.json failed agent-run-record schema validation."

/-- A number has a text. -/
theorem toText_of_numberAt {v : Json} {key : String} (h : numberAt v key ≠ 0) :
    (v.member key).toText ≠ none := by
  unfold numberAt at h
  split at h
  · next n hn =>
      rw [hn]
      exact Option.some_ne_none _
  · exact absurd rfl h

def readManifest (dir : Directory) : Except LoadStop Json :=
  match dir agentRunFilename with
  | .absent =>
      loadError "MISSING_AGENT_RUN_MANIFEST" "Missing agent-run.json under run folder."
  | .unreadable => loadError "AGENT_RUN_JSON_SYNTAX" "Cannot read agent-run.json: "
  | .file bytes =>
      match parseBytes bytes with
      | none => loadError "AGENT_RUN_JSON_SYNTAX" "agent-run.json is not valid JSON: "
      | some parsed => validateAgentRunManifest rt parsed

/-! ## The files it declares -/

/-- The LF-canonical text of the events and of the result; other bytes as they are. -/
def corpusTextArtifactBytesForIntegrity (name : String) (bytes : Bytes) : Bytes :=
  if name = workflowResultFilename ∨ name = eventsFilename then lfCanonicalUtf8Payload bytes
  else bytes

/-- A file and what its digest is taken of, once both are what the manifest declares. -/
structure CheckedArtifact where
  bytes : Bytes
  payload : Bytes

def checkArtifact (dir : Directory) (spec : Json) (missingCode name : String) :
    Except LoadStop CheckedArtifact :=
  match dir (textAt spec "relativePath") with
  | .absent => loadError missingCode ("Missing " ++ name ++ " under run folder.")
  | .unreadable => loadError missingCode ""
  | .file bytes =>
      let payload := corpusTextArtifactBytesForIntegrity (textAt spec "relativePath") bytes
      if (payload.length : ℚ) ≠ numberAt spec "byteLength" then
        loadError "ARTIFACT_LENGTH_MISMATCH"
          (name ++ " byte length does not match agent-run.json.")
      else if rt.sha256Hex payload ≠ textAt spec "sha256" then
        loadError "ARTIFACT_INTEGRITY_MISMATCH"
          (name ++ " SHA-256 does not match agent-run.json.")
      else .ok ⟨bytes, payload⟩

def checkWorkflowResult (dir : Directory) (record : Json) :
    Except LoadStop CheckedArtifact :=
  checkArtifact rt dir (declaredArtifact record "workflowResult") "MISSING_WORKFLOW_RESULT"
    workflowResultFilename

def checkEvents (dir : Directory) (record : Json) : Except LoadStop CheckedArtifact :=
  checkArtifact rt dir (declaredArtifact record "events") "MISSING_EVENTS" eventsFilename

/-- Only a manifest of version 2 declares a signature. -/
def checkSidecar (dir : Directory) (record : Json) : Except LoadStop Unit :=
  if numberAt record "schemaVersion" = 2 then
    (checkArtifact rt dir (declaredArtifact record "workflowResultSignature")
      "MISSING_WORKFLOW_RESULT_SIGNATURE" workflowResultSigFilename).map fun _ => ()
  else .ok ()

/-- The result and the events that the manifest vouches for. -/
def checkArtifacts (dir : Directory) (record : Json) :
    Except LoadStop (CheckedArtifact × CheckedArtifact) := do
  let workflowResult ← checkWorkflowResult rt dir record
  let events ← checkEvents rt dir record
  checkSidecar rt dir record
  return (workflowResult, events)

end

/-! ## The result -/

/-- `typeof obj === "object"` and not `null`. -/
def isV9RunLevelCodesInconsistent (v : Json) : Bool :=
  if numberAt v "schemaVersion" = 9 then
    match v.member "runLevelCodes", v.member "runLevelReasons" with
    | .json (.arr codes), .json (.arr reasons) =>
        codes.length != reasons.length ||
          (codes.zip reasons).any fun p =>
            match p.1, p.2.member "code" with
            | .str code, .json (.str reasonCode) => code != reasonCode
            | _, _ => true
    | _, _ => true
  else false

section

variable (rt : LoaderRuntime)

/-- What a result file holds, once the schema and the recomputation accept it. -/
def acceptWorkflowResult (parsed : Json) : Except LoadStop Json :=
  match parsed with
  | .null => .error .thrown
  | _ =>
      if isV9RunLevelCodesInconsistent parsed then
        loadError "WORKFLOW_RESULT_RUN_LEVEL_CODES_MISMATCH"
          "Corpus workflow result: runLevelCodes and runLevelReasons are inconsistent."
      else if (if numberAt parsed "schemaVersion" = 9 then rt.validateWorkflowResultV9 parsed
          else rt.validateWorkflowResult parsed) = false then
        loadError "WORKFLOW_RESULT_INVALID"
          "workflow-result.json failed workflow-result schema validation."
      else
        match rt.normalizeToEmittedWorkflowResult parsed with
        | .error message => loadError "WORKFLOW_RESULT_INVALID" message
        | .ok emitted => .ok emitted

def readWorkflowResult (payload : Bytes) : Except LoadStop Json :=
  match parseBytes payload with
  | none => loadError "WORKFLOW_RESULT_JSON" ""
  | some parsed => acceptWorkflowResult rt parsed

/-- A text that is not empty. -/
def metaText (record : Json) (key : String) : Option String :=
  if textAt record key = "" then none else some (textAt record key)

def capturedAtEffectiveMs (record : Json) : Option ℤ :=
  ((metaText record "capturedAt").bind rt.dateParse).or
    (rt.dateParse (textAt record "verifiedAt"))

/-- The manifest and the result name the same workflow. -/
def checkWorkflowId (record workflowResult : Json) : Except LoadStop Unit :=
  if textAt record "workflowId" ≠ textAt workflowResult "workflowId" then
    loadError "AGENT_RUN_WORKFLOW_ID_MISMATCH"
      "agent-run.json workflowId does not match workflow-result.json."
  else .ok ()

/-- The run, from the files that the manifest vouches for. -/
def loadFiles (runId : String) (record : Json)
    (files : CheckedArtifact × CheckedArtifact) : Except LoadStop CorpusRun := do
  let workflowResult ← readWorkflowResult rt files.1.payload
  checkWorkflowId record workflowResult
  let load := loadText rt.dateParse (textAt workflowResult "workflowId")
    (utf8Decode files.2.bytes)
  return {
    runId
    workflowResult
    customerId := metaText record "customerId"
    capturedAt := metaText record "capturedAt"
    agentRunRecord := record
    capturedAtEffectiveMs := capturedAtEffectiveMs rt record
    malformedEventLineCount := load.malformedEventLineCount }

/-- What is loaded from the run folder with these files. -/
def loadDirectory (runId : String) (dir : Directory) : Except LoadStop CorpusRun := do
  let record ← readManifest rt.toBundleRuntime dir
  let files ← checkArtifacts rt.toBundleRuntime dir record
  loadFiles rt runId record files

def loadCorpusRun (runId : String) : RunFolder → Except LoadStop CorpusRun
  | .unreachable =>
      loadError "PATH_ESCAPE" ("Run directory does not exist or is unreachable: " ++ runId)
  | .escapes => loadError "PATH_ESCAPE" "Resolved run path escapes corpus root."
  | .folder dir => loadDirectory rt runId dir

end

/-! ## Lines of LF-canonical texts -/

theorem splitLines_cons {c : Char} {rest : List Char} (hlf : c ≠ '\n')
    (hcrlf : ∀ rest', c = '\r' → rest = '\n' :: rest' → False) :
    splitLines (c :: rest) = (splitLines rest).modifyHead (c :: ·) := by
  have hne : splitLines rest ≠ [] := by
    unfold splitLines
    split <;> simp
    split <;> simp
  rw [splitLines.eq_def]
  split
  · rename_i heq
    cases heq
  · rename_i rest' heq
    obtain ⟨hc, hrest⟩ := List.cons.inj heq
    exact absurd hrest (hcrlf _ hc)
  · rename_i heq
    exact absurd (List.cons.inj heq).1 hlf
  · rename_i heq
    obtain ⟨rfl, rfl⟩ := List.cons.inj heq
    cases hlines : splitLines rest with
    | nil => exact absurd hlines hne
    | cons line lines => rfl

/-- The lines of a text are those of its LF-canonical text. -/
theorem splitLines_eq_splitOn (text : List Char) :
    splitLines text = (lfCanonical text).splitOn '\n' := by
  induction text using lfCanonical.induct with
  | case1 => rfl
  | case2 rest ih =>
      rw [splitLines, lfCanonical, ih, List.splitOn_cons_eq_if_modifyHead]
      rfl
  | case3 c rest h ih =>
      rw [lfCanonical, List.splitOn_cons_eq_if_modifyHead, ← ih]
      · split_ifs with hc
        · obtain rfl := eq_of_beq hc
          rw [splitLines]
        · exact splitLines_cons (by simpa using hc) h
      · exact h

theorem utf8Encode_injective {text text' : List Char} (h : utf8Encode text = utf8Encode text') :
    text = text' := by
  rw [← utf8Decode_utf8Encode text, h, utf8Decode_utf8Encode]

theorem splitLines_of_canonical {bytes bytes' : Bytes}
    (h : lfCanonicalUtf8Payload bytes = lfCanonicalUtf8Payload bytes') :
    splitLines (utf8Decode bytes) = splitLines (utf8Decode bytes') := by
  rw [splitLines_eq_splitOn, splitLines_eq_splitOn, utf8Encode_injective h]

/-! ## What a manifest declares -/

/-- An error outcome. -/
def IsError {α : Type} (x : Except LoadStop α) : Prop := ∃ e, x = .error (.error e)

section

variable {rt : BundleRuntime} {dir : Directory} {record : Json}

theorem readManifest_ok (h : readManifest rt dir = .ok record) :
    ∃ bytes, dir agentRunFilename = .file bytes ∧ parseBytes bytes = some record ∧
      manifestFits rt record = true := by
  unfold readManifest at h
  split at h
  · cases h
  · cases h
  · rename_i bytes hfile
    split at h
    · cases h
    · rename_i parsed hparsed
      unfold validateAgentRunManifest at h
      split at h
      · cases h
      · split_ifs at h with hfits
        · obtain rfl := Except.ok.inj h
          exact ⟨bytes, hfile, hparsed, hfits⟩
        · cases h

/-- A declared artifact of a valid manifest has the name that its schema asks for. -/
theorem declared_relativePath {version : ℤ} {required : List String}
    {artifacts : List (String × Schema)}
    (h : (Schema.object recordRequired
      (recordProperties rt version (.object required artifacts))).valid record = true)
    {name path : String} (hname : name ∈ required)
    (hpath : (name, artifactSpecSchema path) ∈ artifacts) :
    textAt (declaredArtifact record name) "relativePath" = path := by
  obtain ⟨v, hv, hvalid⟩ := Schema.valid_required h (show "artifacts" ∈ recordRequired by
    simp [recordRequired]) (show ("artifacts", Schema.object required artifacts) ∈ _ by
      simp [recordProperties])
  obtain ⟨spec, hspec, hspecValid⟩ := Schema.valid_required hvalid hname hpath
  obtain ⟨text, htext, htextValid⟩ := Schema.valid_required hspecValid
    (List.mem_cons_self) (List.mem_cons_self)
  obtain ⟨s, rfl, hs⟩ := Schema.textWith_valid htextValid
  have hsame : s = path := by simpa using hs
  rw [declaredArtifact, valueAt, valueAt, hv]
  dsimp only
  rw [hspec]
  dsimp only
  rw [textAt, htext, hsame]

theorem manifestFits_paths (h : manifestFits rt record = true) :
    textAt (declaredArtifact record "workflowResult") "relativePath" =
        workflowResultFilename ∧
      textAt (declaredArtifact record "events") "relativePath" = eventsFilename ∧
      (numberAt record "schemaVersion" = 2 →
        textAt (declaredArtifact record "workflowResultSignature") "relativePath" =
          workflowResultSigFilename) := by
  unfold manifestFits at h
  split_ifs at h with htwo hone
  · exact ⟨declared_relativePath h (by simp) (by simp),
      declared_relativePath h (by simp) (by simp),
      fun _ => declared_relativePath h (by simp) (by simp)⟩
  · exact ⟨declared_relativePath h (by simp) (by simp),
      declared_relativePath h (by simp) (by simp), fun h2 => absurd h2 htwo⟩

/-! ## What the files answer -/

/-- The artifact is there, with the length and the digest that the manifest declares. -/
structure Vouched (rt : BundleRuntime) (dir : Directory) (spec : Json)
    (artifact : CheckedArtifact) : Prop where
  file : dir (textAt spec "relativePath") = .file artifact.bytes
  payload : artifact.payload =
    corpusTextArtifactBytesForIntegrity (textAt spec "relativePath") artifact.bytes
  length : (artifact.payload.length : ℚ) = numberAt spec "byteLength"
  digest : rt.sha256Hex artifact.payload = textAt spec "sha256"

theorem checkArtifact_ok_iff {spec : Json} {missingCode name : String}
    {artifact : CheckedArtifact} :
    checkArtifact rt dir spec missingCode name = .ok artifact ↔
      Vouched rt dir spec artifact := by
  constructor
  · intro h
    unfold checkArtifact at h
    split at h
    · cases h
    · cases h
    · rename_i bytes hfile
      dsimp only at h
      split_ifs at h with hlength hdigest
      · cases h
      · cases h
      · obtain rfl := Except.ok.inj h
        exact ⟨hfile, rfl, not_not.mp hlength, not_not.mp hdigest⟩
  · rintro ⟨hfile, hpayload, hlength, hdigest⟩
    rw [hpayload] at hlength hdigest
    rw [checkArtifact, hfile]
    dsimp only
    rw [if_neg (not_not.mpr hlength), if_neg (not_not.mpr hdigest), ← hpayload]

theorem checkArtifact_total (rt : BundleRuntime) (dir : Directory) (spec : Json)
    (missingCode name : String) :
    (∃ artifact, checkArtifact rt dir spec missingCode name = .ok artifact) ∨
      IsError (checkArtifact rt dir spec missingCode name) := by
  unfold checkArtifact
  split
  · exact .inr ⟨_, rfl⟩
  · exact .inr ⟨_, rfl⟩
  · dsimp only
    split_ifs
    · exact .inr ⟨_, rfl⟩
    · exact .inr ⟨_, rfl⟩
    · exact .inl ⟨_, rfl⟩

theorem IsError.bind {α β : Type} {x : Except LoadStop α} (h : IsError x)
    (f : α → Except LoadStop β) : IsError (x >>= f) := by
  obtain ⟨e, rfl⟩ := h
  exact ⟨e, rfl⟩

theorem checkSidecar_total (rt : BundleRuntime) (dir : Directory) (record : Json) :
    checkSidecar rt dir record = .ok () ∨ IsError (checkSidecar rt dir record) := by
  unfold checkSidecar
  split_ifs
  · rcases checkArtifact_total rt dir (declaredArtifact record "workflowResultSignature")
      "MISSING_WORKFLOW_RESULT_SIGNATURE" workflowResultSigFilename with
      ⟨artifact, h⟩ | ⟨e, h⟩
    · rw [h]
      exact .inl rfl
    · rw [h]
      exact .inr ⟨e, rfl⟩
  · exact .inl rfl

/-- The files are found to be what the manifest declares, or the outcome is an error. -/
theorem checkArtifacts_total (rt : BundleRuntime) (dir : Directory) (record : Json) :
    (∃ files, checkArtifacts rt dir record = .ok files) ∨
      IsError (checkArtifacts rt dir record) := by
  unfold checkArtifacts
  rcases checkArtifact_total rt dir (declaredArtifact record "workflowResult")
    "MISSING_WORKFLOW_RESULT" workflowResultFilename with ⟨workflowResult, hresult⟩ | herror
  · rcases checkArtifact_total rt dir (declaredArtifact record "events") "MISSING_EVENTS"
      eventsFilename with ⟨events, hevents⟩ | herror
    · rcases checkSidecar_total rt dir record with hsidecar | herror
      · rw [checkWorkflowResult, hresult, checkEvents, hevents]
        dsimp only [bind, Except.bind, pure, Except.pure]
        rw [hsidecar]
        exact .inl ⟨_, rfl⟩
      · rw [checkWorkflowResult, hresult, checkEvents, hevents]
        exact .inr (herror.bind _)
    · rw [checkWorkflowResult, hresult]
      exact .inr (herror.bind _)
  · exact .inr (herror.bind _)

theorem checkArtifacts_ok {files : CheckedArtifact × CheckedArtifact}
    (h : checkArtifacts rt dir record = .ok files) :
    Vouched rt dir (declaredArtifact record "workflowResult") files.1 ∧
      Vouched rt dir (declaredArtifact record "events") files.2 ∧
      checkSidecar rt dir record = .ok () := by
  unfold checkArtifacts at h
  obtain ⟨workflowResult, hresult, h⟩ := bind_eq_ok.mp h
  obtain ⟨events, hevents, h⟩ := bind_eq_ok.mp h
  obtain ⟨_, hsidecar, h⟩ := bind_eq_ok.mp h
  obtain rfl := Except.ok.inj h
  exact ⟨checkArtifact_ok_iff.mp hresult, checkArtifact_ok_iff.mp hevents, hsidecar⟩

end

/-- The four files of a bundle. -/
def bundleNames : List String :=
  [eventsFilename, workflowResultFilename, workflowResultSigFilename, agentRunFilename]

section

variable {rt : LoaderRuntime} {dir dir' : Directory} {runId : String}

theorem readManifest_congr (h : dir agentRunFilename = dir' agentRunFilename) :
    readManifest rt.toBundleRuntime dir = readManifest rt.toBundleRuntime dir' := by
  rw [readManifest, readManifest, h]

theorem checkArtifact_congr {rt : BundleRuntime} {spec : Json} {missingCode name : String}
    (h : dir (textAt spec "relativePath") = dir' (textAt spec "relativePath")) :
    checkArtifact rt dir spec missingCode name =
      checkArtifact rt dir' spec missingCode name := by
  rw [checkArtifact, checkArtifact, h]

/-- Nothing but the files of a bundle is read. -/
theorem loadDirectory_congr (h : ∀ name ∈ bundleNames, dir name = dir' name) :
    loadDirectory rt runId dir = loadDirectory rt runId dir' := by
  have hmanifest := @readManifest_congr rt dir dir' (h _ (by simp [bundleNames]))
  rw [loadDirectory, loadDirectory, hmanifest]
  cases hread : readManifest rt.toBundleRuntime dir' with
  | error stop => rfl
  | ok record =>
      obtain ⟨bytes, -, -, hfits⟩ := readManifest_ok hread
      obtain ⟨hresult, hevents, hsidecar⟩ := manifestFits_paths hfits
      have hchecks : checkArtifacts rt.toBundleRuntime dir record =
          checkArtifacts rt.toBundleRuntime dir' record := by
        have hresultSame : checkWorkflowResult rt.toBundleRuntime dir record =
            checkWorkflowResult rt.toBundleRuntime dir' record := by
          apply checkArtifact_congr
          rw [hresult]
          exact h _ (by simp [bundleNames])
        have heventsSame : checkEvents rt.toBundleRuntime dir record =
            checkEvents rt.toBundleRuntime dir' record := by
          apply checkArtifact_congr
          rw [hevents]
          exact h _ (by simp [bundleNames])
        have hsidecarSame : checkSidecar rt.toBundleRuntime dir record =
            checkSidecar rt.toBundleRuntime dir' record := by
          unfold checkSidecar
          split_ifs with htwo
          · apply congrArg
            apply checkArtifact_congr
            rw [hsidecar htwo]
            exact h _ (by simp [bundleNames])
          · rfl
        rw [checkArtifacts, checkArtifacts, hresultSame, heventsSame, hsidecarSame]
      dsimp only [bind, Except.bind]
      rw [hchecks]

/-- A run is made of the LF-canonical texts of its files. -/
theorem loadFiles_eq_of_canonical {record : Json}
    {files files' : CheckedArtifact × CheckedArtifact}
    (hresult : files.1.payload = files'.1.payload)
    (hevents : lfCanonicalUtf8Payload files.2.bytes = lfCanonicalUtf8Payload files'.2.bytes) :
    loadFiles rt runId record files = loadFiles rt runId record files' := by
  have hcount : ∀ workflowId,
      (loadText rt.dateParse workflowId (utf8Decode files.2.bytes)).malformedEventLineCount =
      (loadText rt.dateParse workflowId
        (utf8Decode files'.2.bytes)).malformedEventLineCount := by
    intro workflowId
    rw [loadText, loadText, splitLines_of_canonical hevents]
  unfold loadFiles
  simp only [hresult, hcount]

/-- The file has the digest of an earlier one only with its LF-canonical text. -/
def SameTextIfSameDigest (rt : BundleRuntime) (name : String) (dir dir' : Directory) :
    Prop :=
  ∀ bytes bytes', dir name = .file bytes → dir' name = .file bytes' →
    rt.sha256Hex (lfCanonicalUtf8Payload bytes) =
      rt.sha256Hex (lfCanonicalUtf8Payload bytes') →
    lfCanonicalUtf8Payload bytes = lfCanonicalUtf8Payload bytes'

/-- If there is a valid manifest, it vouches for the files next to it. -/
structure ManifestVouches (rt : BundleRuntime) (dir : Directory) : Prop where
  files : ∀ record, readManifest rt dir = .ok record →
    ∃ files, checkArtifacts rt dir record = .ok files
  readable : readManifest rt dir ≠ .error .thrown

theorem canonical_eq_of_vouched {rt : BundleRuntime} {spec : Json} {name : String}
    {artifact artifact' : CheckedArtifact}
    (hname : textAt spec "relativePath" = name)
    (htext : name = workflowResultFilename ∨ name = eventsFilename)
    (hdigest : SameTextIfSameDigest rt name dir dir') (h : Vouched rt dir spec artifact)
    (h' : Vouched rt dir' spec artifact') :
    lfCanonicalUtf8Payload artifact.bytes = lfCanonicalUtf8Payload artifact'.bytes ∧
      artifact.payload = artifact'.payload := by
  have hpayload := h.payload
  have hpayload' := h'.payload
  have hfile := h.file
  have hfile' := h'.file
  rw [hname] at hpayload hpayload' hfile hfile'
  rw [corpusTextArtifactBytesForIntegrity, if_pos htext] at hpayload hpayload'
  have hsame : lfCanonicalUtf8Payload artifact.bytes =
      lfCanonicalUtf8Payload artifact'.bytes := by
    apply hdigest _ _ hfile hfile'
    rw [← hpayload, ← hpayload', h.digest, h'.digest]
  exact ⟨hsame, by rw [hpayload, hpayload', hsame]⟩

/-- Under the manifest of a bundle, other files answer as its own or not at all. -/
theorem loadDirectory_same_manifest
    (hvouches : ManifestVouches rt.toBundleRuntime dir')
    (hmanifest : dir agentRunFilename = dir' agentRunFilename)
    (hresult : SameTextIfSameDigest rt.toBundleRuntime workflowResultFilename dir dir')
    (hevents : SameTextIfSameDigest rt.toBundleRuntime eventsFilename dir dir') :
    loadDirectory rt runId dir = loadDirectory rt runId dir' ∨
      IsError (loadDirectory rt runId dir) := by
  rw [loadDirectory, loadDirectory, readManifest_congr hmanifest]
  cases hread : readManifest rt.toBundleRuntime dir' with
  | error stop => exact .inl rfl
  | ok record =>
      obtain ⟨files', hfiles'⟩ := hvouches.files record hread
      obtain ⟨bytes, -, -, hfits⟩ := readManifest_ok hread
      obtain ⟨hresultPath, heventsPath, -⟩ := manifestFits_paths hfits
      obtain ⟨hresult', hevents', -⟩ := checkArtifacts_ok hfiles'
      rcases checkArtifacts_total rt.toBundleRuntime dir record with ⟨files, hfiles⟩ | herror
      · left
        obtain ⟨hresultFile, heventsFile, -⟩ := checkArtifacts_ok hfiles
        obtain ⟨-, hpayload⟩ :=
          canonical_eq_of_vouched hresultPath (.inl rfl) hresult hresultFile hresult'
        obtain ⟨hcanonical, -⟩ :=
          canonical_eq_of_vouched heventsPath (.inr rfl) hevents heventsFile hevents'
        dsimp only [bind, Except.bind]
        rw [hfiles, hfiles']
        exact loadFiles_eq_of_canonical hpayload hcanonical
      · exact .inr (herror.bind _)

end

end AgentSkeptic.Bundle
