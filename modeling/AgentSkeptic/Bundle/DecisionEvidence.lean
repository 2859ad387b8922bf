import AgentSkeptic.Support.JsonRoundTrip
import AgentSkeptic.Support.JsonSchema
import Mathlib.Data.Set.Basic

/-!
# Decision evidence bundles

`decisionEvidenceBundle/validateDecisionEvidenceBundle.ts` over an arbitrary
directory.  Hashing and the signature check of `node:crypto` and the
`date-time` format of `ajv-formats` are parameters.

A manifest that declares `schemaVersion` 1 is read without its fingerprints and
without the signature sidecar, so `status` alone does not authenticate a bundle;
`signed_bundle_authentic` says what a valid version 2 bundle with a sidecar
guarantees.
-/

namespace AgentSkeptic.Bundle

open AgentSkeptic.Support

/-! ## The directory and the runtime -/

inductive DirEntry where
  | absent
  /-- It exists, but reading it fails: a directory, or no permission. -/
  | unreadable
  | file (bytes : Bytes)

abbrev Directory := String → DirEntry

namespace Files

def manifest : String := "manifest.json"
def manifestSignature : String := "manifest.sig.json"
def outcomeCertificate : String := "outcome-certificate.json"
def materialTruth : String := "material-truth.json"
def attestation : String := "attestation.json"
def nextAction : String := "next-action.json"

end Files

def existsArtifact (dir : Directory) (name : String) : Bool :=
  match dir name with
  | .absent => false
  | _ => true

def readFileOptional (dir : Directory) (name : String) : Option Bytes :=
  match dir name with
  | .file bytes => some bytes
  | _ => none

structure BundleRuntime where
  /-- `createHash("sha256").update(bytes).digest("hex")`. -/
  sha256Hex : Bytes → String
  /-- `verify(null, message, key, Buffer.from(signature, "base64"))` for the key of a
  PEM text; `false` also when the PEM is not a key. -/
  verify : String → Bytes → String → Bool
  /-- `createPublicKey` takes a PEM text, and `verify` its key. -/
  isPublicKey : String → Bool
  /-- `format: date-time`. -/
  isDateTime : String → Bool

def parseBytes (bytes : Bytes) : Option Json := parseJson (utf8Decode bytes)

def lfCanonicalUtf8Payload (bytes : Bytes) : Bytes :=
  utf8Encode (lfCanonical (utf8Decode bytes))

def normalizeSpkiPemForSidecar (pem : String) : String :=
  let s := trimChars (lfCanonical pem.toList)
  String.ofList (if s.getLast? = some '\n' then s else s ++ ['\n'])

/-! ## Schemas -/

/-- `^[a-f0-9]{64}$`. -/
def isSha256Hex (s : String) : Bool :=
  s.toList.length = 64 &&
    s.toList.all fun c => c.isDigit || ('a' ≤ c && c ≤ 'f')

def completenessSchema : Schema :=
  .object ["status", "artifacts"]
    [("status", .oneOf ["complete", "partial", "invalid"]),
      ("artifacts", .object ["a4Present", "a5Present", "a5Required"]
        [("a4Present", .boolean), ("a5Present", .boolean),
          ("a5Required", .boolean)])]

def manifestSchemaV1 (rt : BundleRuntime) : Schema :=
  .object ["schemaVersion", "bundleKind", "createdAt", "workflowId",
      "completeness"]
    [("schemaVersion", .number 1),
      ("bundleKind", .oneOf ["decision_evidence"]),
      ("producer", .object ["name", "version"]
        [("name", .text 0 none), ("version", .text 0 none)]),
      ("createdAt", .textWith rt.isDateTime),
      ("workflowId", .text 0 none),
      ("runId", .text 0 none),
      ("completeness", completenessSchema)]

def certificateEntrySchema : Schema :=
  .object ["relativePath", "sha256"]
    [("relativePath", .oneOf ["outcome-certificate.json"]),
      ("sha256", .textWith isSha256Hex)]

def materialTruthEntrySchema : Schema :=
  .object ["relativePath", "schemaVersion", "sha256"]
    [("relativePath", .oneOf ["material-truth.json"]),
      ("schemaVersion", .number 2),
      ("sha256", .textWith isSha256Hex)]

def manifestSchemaV2 (rt : BundleRuntime) : Schema :=
  .object ["schemaVersion", "bundleKind", "producer", "createdAt", "workflowId",
      "certificate", "materialTruth", "completeness"]
    [("schemaVersion", .number 2),
      ("bundleKind", .oneOf ["decision_evidence"]),
      ("producer", .object ["name", "version"]
        [("name", .text 1 none), ("version", .text 1 none)]),
      ("createdAt", .textWith rt.isDateTime),
      ("workflowId", .text 1 none),
      ("runId", .text 1 none),
      ("certificate", certificateEntrySchema),
      ("materialTruth", materialTruthEntrySchema),
      ("completeness", completenessSchema)]

def workflowResultSignatureSchema : Schema :=
  .object ["algorithm", "schemaVersion", "signatureBase64",
      "signedContentSha256Hex", "signingPublicKeySpkiPem"]
    [("algorithm", .oneOf ["ed25519"]),
      ("schemaVersion", .number 1),
      ("signatureBase64", .text 1 none),
      ("signedContentSha256Hex", .textWith isSha256Hex),
      ("signingPublicKeySpkiPem", .text 32 none)]

def materialTruthSchemaV2 : Schema :=
  .object ["schemaVersion", "workflowId", "runKind", "stateRelation",
      "reasonCodes", "steps", "checkpointVerdicts", "evidenceGapPrimary"]
    [("schemaVersion", .number 2),
      ("workflowId", .text 1 (some 512)),
      ("runKind", .oneOf ["contract_sql",
        "contract_sql_langgraph_checkpoint_trust", "quick_preview"]),
      ("stateRelation", .oneOf ["matches_expectations", "does_not_match",
        "not_established"]),
      ("reasonCodes", .array (.text 1 (some 256))),
      ("evidenceGapPrimary", .oneOf ["none", "preview_lane", "ingest_empty",
        "ingest_unstructured", "registry_unknown_tool", "registry_resolution",
        "database_access", "timing_or_window", "witness_unavailable",
        "state_mismatch", "verification_incomplete", "event_sequence",
        "control_flow_context", "unclassified"]),
      ("steps", .array (.object ["seq", "toolId", "declaredAction",
          "expectedOutcome", "observedOutcome"]
        [("seq", .integer 0),
          ("toolId", .text 0 (some 512)),
          ("declaredAction", .text 1 (some 4096)),
          ("expectedOutcome", .text 1 (some 4096)),
          ("observedOutcome", .text 1 (some 8192))])),
      ("checkpointVerdicts", .array (.object ["checkpointKey", "verdict", "seqs"]
        [("checkpointKey", .text 1 (some 2048)),
          ("verdict", .oneOf ["verified", "inconsistent", "incomplete"]),
          ("seqs", .array (.integer 0))]))]

/-! ## The validation line -/

inductive FailureCode where
  | manifestSchema | certFingerprintMismatch | materialTruthFingerprintMismatch
  | materialTruthMissing | materialTruthSchema | signatureKeyRequired
  | signatureInvalid
  deriving DecidableEq

def FailureCode.message : FailureCode → String
  | .manifestSchema =>
      "manifest.json failed schema validation or is not a supported manifest version."
  | .certFingerprintMismatch =>
      "outcome-certificate.json sha256 does not match manifest.certificate.sha256"
  | .materialTruthFingerprintMismatch =>
      "material-truth.json sha256 does not match manifest.materialTruth.sha256"
  | .materialTruthMissing =>
      "material-truth.json is required for manifest schemaVersion 2 and was not found."
  | .materialTruthSchema =>
      "material-truth.json failed material-truth-v2 schema validation."
  | .signatureKeyRequired =>
      "manifest.sig.json is present; pass --public-key <path> with the signer's SPKI PEM."
  | .signatureInvalid =>
      "manifest.sig.json failed Ed25519 verification or does not match manifest.json bytes."

inductive ManifestVersion where
  | one | two
  deriving DecidableEq

inductive CompletenessStatus where
  | complete | partlyComplete | invalid
  deriving DecidableEq

structure ArtifactsFlags where
  a4Present : Bool
  a5Present : Bool
  a5Required : Bool

inductive IntegritySignature where
  | absent | valid | invalid
  deriving DecidableEq

inductive BundleStatus where
  | valid | invalid
  deriving DecidableEq

structure Integrity where
  manifestVersion : ManifestVersion
  certificateFingerprintOk : Option Bool
  materialTruthFingerprintOk : Option Bool
  materialTruthPresent : Bool
  selfVerifying : Bool
  signature : IntegritySignature
  signaturePublicKeySpkiPem : Option String

structure ValidationLine where
  status : BundleStatus
  completenessStatus : CompletenessStatus
  artifacts : ArtifactsFlags
  errors : List FailureCode
  integrity : Integrity

/-! ## Validation -/

/-- `parsed.schemaVersion === 1` on an object. -/
def detectManifestVersion (parsed : Json) : ManifestVersion :=
  match parsed with
  | .obj members =>
      match ownMember members "schemaVersion" with
      | some (.num n) => if n = .int 1 then .one else .two
      | _ => .two
  | _ => .two

def manifestSchemaFailureEnvelope (manifestVersion : ManifestVersion)
    (materialTruthPresent : Bool) (artifacts : ArtifactsFlags) :
    ValidationLine :=
  { status := .invalid
    completenessStatus := .invalid
    artifacts
    errors := [.manifestSchema]
    integrity :=
      { manifestVersion
        certificateFingerprintOk := none
        materialTruthFingerprintOk := none
        materialTruthPresent
        selfVerifying := false
        signature := .absent
        signaturePublicKeySpkiPem := none } }

/-- `entry?.sha256` when it is a string, else `""`. -/
def declaredSha (manifest : Json) (entry : String) : String :=
  match (manifest.member entry).optionalMember "sha256" with
  | .json (.str s) => s
  | _ => ""

def tryVerifySignature (rt : BundleRuntime) (manifestBytes sidecarBytes : Bytes)
    (publicKeyPemUtf8 : String) : Bool :=
  match parseBytes sidecarBytes with
  | none => false
  | some sidecar =>
      if workflowResultSignatureSchema.valid sidecar then
        match sidecar.member "signatureBase64",
          sidecar.member "signedContentSha256Hex" with
        | .json (.str sigB64), .json (.str signedContent) =>
            let lfManifest := lfCanonicalUtf8Payload manifestBytes
            if signedContent = rt.sha256Hex lfManifest then
              rt.verify (normalizeSpkiPemForSidecar publicKeyPemUtf8) lfManifest
                sigB64
            else false
        | _, _ => false
      else false

/-- The certificate check of a version 2 manifest. -/
def checkCertificate (rt : BundleRuntime) (dir : Directory) (manifest : Json) :
    Bool × List FailureCode :=
  let declared := declaredSha manifest "certificate"
  match readFileOptional dir Files.outcomeCertificate with
  | some bytes =>
      if declared ≠ "" then
        if rt.sha256Hex bytes = declared then (true, [])
        else (false, [.certFingerprintMismatch])
      else (false, [.certFingerprintMismatch])
  | none => (false, [.certFingerprintMismatch])

/-- The material truth check: the schema only once the digest matches. -/
def checkMaterialTruth (rt : BundleRuntime) (dir : Directory)
    (manifest : Json) : Option Bool × List FailureCode :=
  let declared := declaredSha manifest "materialTruth"
  if existsArtifact dir Files.materialTruth = false then
    (none, [.materialTruthMissing])
  else
    match readFileOptional dir Files.materialTruth with
    | none => (none, [.materialTruthMissing])
    | some bytes =>
        if rt.sha256Hex bytes = declared then
          if (parseBytes bytes).any materialTruthSchemaV2.valid then
            (some true, [])
          else (some true, [.materialTruthSchema])
        else (some false, [.materialTruthFingerprintMismatch])

def checkSignature (rt : BundleRuntime) (dir : Directory)
    (manifestBytes : Bytes) (publicKeyPemUtf8 : Option String) :
    IntegritySignature × Option String × List FailureCode :=
  match readFileOptional dir Files.manifestSignature with
  | none => (.absent, none, [])
  | some sidecarBytes =>
      match publicKeyPemUtf8 with
      | none => (.invalid, none, [.signatureKeyRequired])
      | some pem =>
          if tryVerifySignature rt manifestBytes sidecarBytes pem then
            (.valid, some (normalizeSpkiPemForSidecar pem), [])
          else (.invalid, none, [.signatureInvalid])

/-- `manifest.completeness.status`. -/
def manifestStatus (manifest : Json) : CompletenessStatus :=
  match (manifest.member "completeness").optionalMember "status" with
  | .json (.str "complete") => .complete
  | .json (.str "partial") => .partlyComplete
  | _ => .invalid

/-- A flag of `manifest.completeness.artifacts`, or its default. -/
def manifestFlag (manifest : Json) (name : String) (default : Bool) : Bool :=
  match ((manifest.member "completeness").optionalMember
      "artifacts").optionalMember name with
  | .json (.bool b) => b
  | _ => default

/-- What the two paths find out about the listed files. -/
structure IntegrityChecks where
  certificateFingerprintOk : Option Bool
  materialTruthFingerprintOk : Option Bool
  signature : IntegritySignature
  signaturePublicKeySpkiPem : Option String
  errors : List FailureCode

def integrityChecks (rt : BundleRuntime) (dir : Directory)
    (publicKeyPemUtf8 : Option String) (manifestBytes : Bytes)
    (manifest : Json) : IntegrityChecks :=
  match detectManifestVersion manifest with
  | .one => ⟨none, none, .absent, none, []⟩
  | .two =>
      let certificate := checkCertificate rt dir manifest
      let materialTruth := checkMaterialTruth rt dir manifest
      let signature := checkSignature rt dir manifestBytes publicKeyPemUtf8
      { certificateFingerprintOk := some certificate.1
        materialTruthFingerprintOk := materialTruth.1
        signature := signature.1
        signaturePublicKeySpkiPem := signature.2.1
        errors := certificate.2 ++ materialTruth.2 ++ signature.2.2 }

def validateParsedManifest (rt : BundleRuntime) (dir : Directory)
    (publicKeyPemUtf8 : Option String) (manifestBytes : Bytes)
    (manifest : Json) : ValidationLine :=
  let manifestVersion := detectManifestVersion manifest
  let checks := integrityChecks rt dir publicKeyPemUtf8 manifestBytes manifest
  let completenessStatus := manifestStatus manifest
  let status : BundleStatus :=
    if checks.errors.length > 0 ∨ completenessStatus = .invalid then .invalid
    else .valid
  { status
    completenessStatus
    artifacts :=
      { a4Present := manifestFlag manifest "a4Present"
          (existsArtifact dir Files.attestation)
        a5Present := manifestFlag manifest "a5Present"
          (existsArtifact dir Files.nextAction)
        a5Required := manifestFlag manifest "a5Required" false }
    errors := checks.errors
    integrity :=
      { manifestVersion
        certificateFingerprintOk := checks.certificateFingerprintOk
        materialTruthFingerprintOk := checks.materialTruthFingerprintOk
        materialTruthPresent := existsArtifact dir Files.materialTruth
        selfVerifying := manifestVersion = .two ∧ status = .valid ∧
          ¬checks.errors.length > 0 ∧
          (checks.signature = .absent ∨ checks.signature = .valid)
        signature := checks.signature
        signaturePublicKeySpkiPem := checks.signaturePublicKeySpkiPem } }

/-- `validateDecisionEvidenceBundle` on a directory that can be listed. -/
def validateDecisionEvidenceBundle (rt : BundleRuntime) (dir : Directory)
    (publicKeyPemUtf8 : Option String) : ValidationLine :=
  let materialTruthPresent := existsArtifact dir Files.materialTruth
  let baseArtifacts : ArtifactsFlags :=
    { a4Present := existsArtifact dir Files.attestation
      a5Present := existsArtifact dir Files.nextAction
      a5Required := false }
  match readFileOptional dir Files.manifest with
  | none => manifestSchemaFailureEnvelope .two materialTruthPresent baseArtifacts
  | some manifestBytes =>
      match parseBytes manifestBytes with
      | none =>
          manifestSchemaFailureEnvelope .two materialTruthPresent baseArtifacts
      | some manifest =>
          if (manifestSchemaV1 rt).valid manifest = false ∧
              (manifestSchemaV2 rt).valid manifest = false then
            manifestSchemaFailureEnvelope (detectManifestVersion manifest)
              materialTruthPresent baseArtifacts
          else
            validateParsedManifest rt dir publicKeyPemUtf8 manifestBytes manifest

/-! ## What a valid version 2 bundle guarantees -/

/-- The directory holds a manifest with these bytes that a sidecar signs under
the given key, and a certificate and a material truth with the digests that the
manifest declares. -/
structure Signs (rt : BundleRuntime) (dir : Directory) (pem : String)
    (manifestBytes certificate materialTruth : Bytes) : Prop where
  manifest_read : readFileOptional dir Files.manifest = some manifestBytes
  certificate_read :
    readFileOptional dir Files.outcomeCertificate = some certificate
  materialTruth_read :
    readFileOptional dir Files.materialTruth = some materialTruth
  signed : ∃ sidecarBytes sidecar sigB64,
    readFileOptional dir Files.manifestSignature = some sidecarBytes ∧
    parseBytes sidecarBytes = some sidecar ∧
    sidecar.member "signatureBase64" = .json (.str sigB64) ∧
    rt.verify (normalizeSpkiPemForSidecar pem)
      (lfCanonicalUtf8Payload manifestBytes) sigB64 = true
  digests : ∃ manifest, parseBytes manifestBytes = some manifest ∧
    (manifest.member "certificate").optionalMember "sha256" =
      .json (.str (rt.sha256Hex certificate)) ∧
    (manifest.member "materialTruth").optionalMember "sha256" =
      .json (.str (rt.sha256Hex materialTruth))

section Guarantees

variable {rt : BundleRuntime} {dir : Directory} {pem : String}

theorem tryVerifySignature_eq_true {manifestBytes sidecarBytes : Bytes}
    (h : tryVerifySignature rt manifestBytes sidecarBytes pem = true) :
    ∃ sidecar sigB64, parseBytes sidecarBytes = some sidecar ∧
      sidecar.member "signatureBase64" = .json (.str sigB64) ∧
      rt.verify (normalizeSpkiPemForSidecar pem)
        (lfCanonicalUtf8Payload manifestBytes) sigB64 = true := by
  unfold tryVerifySignature at h
  split at h
  · cases h
  · rename_i sidecar hparse
    split at h
    · split at h
      · rename_i sigB64 signedContent hsig hcontent
        dsimp only at h
        split at h
        · exact ⟨sidecar, sigB64, hparse, hsig, h⟩
        · cases h
      · cases h
    · cases h

theorem checkCertificate_ok {manifest : Json}
    (h : (checkCertificate rt dir manifest).2 = []) :
    ∃ bytes, readFileOptional dir Files.outcomeCertificate = some bytes ∧
      declaredSha manifest "certificate" = rt.sha256Hex bytes := by
  unfold checkCertificate at h
  dsimp only at h
  split at h
  · rename_i bytes hread
    split_ifs at h with hdeclared hsha
    exact ⟨bytes, hread, hsha.symm⟩
  · cases h

theorem checkMaterialTruth_ok {manifest : Json}
    (h : (checkMaterialTruth rt dir manifest).2 = []) :
    ∃ bytes, readFileOptional dir Files.materialTruth = some bytes ∧
      declaredSha manifest "materialTruth" = rt.sha256Hex bytes := by
  unfold checkMaterialTruth at h
  dsimp only at h
  split at h
  · cases h
  · split at h
    · cases h
    · rename_i bytes hread
      split_ifs at h with hsha
      exact ⟨bytes, hread, hsha.symm⟩

theorem checkSignature_ok {manifestBytes sidecarBytes : Bytes}
    (hread : readFileOptional dir Files.manifestSignature = some sidecarBytes)
    (h : (checkSignature rt dir manifestBytes (some pem)).2.2 = []) :
    tryVerifySignature rt manifestBytes sidecarBytes pem = true := by
  rw [checkSignature, hread] at h
  dsimp only at h
  split at h
  · assumption
  · cases h

/-- A valid line comes from a manifest that parses and fits one of the schemas,
without integrity errors. -/
theorem validate_valid {key : Option String}
    (h : (validateDecisionEvidenceBundle rt dir key).status = .valid) :
    ∃ manifestBytes manifest,
      readFileOptional dir Files.manifest = some manifestBytes ∧
      parseBytes manifestBytes = some manifest ∧
      ((manifestSchemaV1 rt).valid manifest = true ∨
        (manifestSchemaV2 rt).valid manifest = true) ∧
      (integrityChecks rt dir key manifestBytes manifest).errors = [] ∧
      (validateDecisionEvidenceBundle rt dir key).integrity.manifestVersion =
        detectManifestVersion manifest := by
  unfold validateDecisionEvidenceBundle at h ⊢
  dsimp only at h ⊢
  split at h
  · cases h
  · rename_i manifestBytes hread
    split at h
    · cases h
    · rename_i manifest hparse
      split at h
      · cases h
      · rename_i hschema
        refine ⟨manifestBytes, manifest, hread, hparse, ?_, ?_, ?_⟩
        · rcases not_and_or.mp hschema with hone | htwo
          · exact .inl (by simpa using hone)
          · exact .inr (by simpa using htwo)
        · have herrors : ¬((integrityChecks rt dir key manifestBytes
              manifest).errors.length > 0 ∨
                manifestStatus manifest = .invalid) := by
            intro hbad
            rw [validateParsedManifest] at h
            dsimp only at h
            rw [if_pos hbad] at h
            cases h
          simpa using (not_or.mp herrors).1
        · rw [if_neg hschema]
          rfl

/-- Only a manifest that declares version 1 fits the version 1 schema. -/
theorem manifestSchemaV1_version {manifest : Json}
    (h : (manifestSchemaV1 rt).valid manifest = true) :
    detectManifestVersion manifest = .one := by
  obtain ⟨v, hv, hone⟩ := Schema.valid_required h (by simp) (.head _)
  obtain rfl := Schema.number_valid hone
  cases manifest with
  | obj members =>
      cases hown : ownMember members "schemaVersion" with
      | none => simp [Json.member, hown, inherited, objectPrototypeNames] at hv
      | some w =>
          simp only [Json.member, hown, JsValue.json.injEq] at hv
          simp [detectManifestVersion, hown, hv]
  | null => cases h
  | bool value => cases h
  | num value => cases h
  | str value => cases h
  | arr items => cases h

/-- The digest that a valid version 2 manifest declares for an entry. -/
theorem declaredSha_eq {manifest entry : Json} {name : String}
    (hentry : manifest.member name = .json entry)
    {required : List String} {properties : List (String × Schema)}
    (hvalid : (Schema.object required properties).valid entry = true)
    (hrequired : "sha256" ∈ required)
    (hproperty : ("sha256", Schema.textWith isSha256Hex) ∈ properties) :
    (manifest.member name).optionalMember "sha256" =
      .json (.str (declaredSha manifest name)) := by
  obtain ⟨v, hv, htext⟩ := Schema.valid_required hvalid hrequired hproperty
  obtain ⟨s, rfl, -⟩ := Schema.textWith_valid htext
  have hmember : (manifest.member name).optionalMember "sha256" =
      .json (.str s) := by
    rw [hentry, JsValue.optionalMember]
    cases entry with
    | null => cases hvalid
    | bool value => cases hvalid
    | num value => cases hvalid
    | str value => cases hvalid
    | arr items => cases hvalid
    | obj members => exact hv
  rw [declaredSha, hmember]

theorem valid_signs {sidecarBytes : Bytes}
    (hsidecar :
      readFileOptional dir Files.manifestSignature = some sidecarBytes)
    (hvalid :
      (validateDecisionEvidenceBundle rt dir (some pem)).status = .valid)
    (hversion : (validateDecisionEvidenceBundle rt dir
      (some pem)).integrity.manifestVersion = .two) :
    ∃ manifestBytes certificate materialTruth,
      Signs rt dir pem manifestBytes certificate materialTruth := by
  obtain ⟨manifestBytes, manifest, hread, hparse, hschema, herrors, hdetect⟩ :=
    validate_valid hvalid
  rw [hdetect] at hversion
  have hv2 : (manifestSchemaV2 rt).valid manifest = true := by
    refine hschema.resolve_left fun hv1 => ?_
    rw [manifestSchemaV1_version hv1] at hversion
    cases hversion
  simp only [integrityChecks, hversion, List.append_eq_nil_iff] at herrors
  obtain ⟨⟨hcertificate, hmaterial⟩, hsignature⟩ := herrors
  obtain ⟨certificate, hcertRead, hcertSha⟩ := checkCertificate_ok hcertificate
  obtain ⟨materialTruth, hmtRead, hmtSha⟩ := checkMaterialTruth_ok hmaterial
  obtain ⟨sidecar, sigB64, hsidecarParse, hsig, hverify⟩ :=
    tryVerifySignature_eq_true (checkSignature_ok hsidecar hsignature)
  have hcertEntry : ∃ entry, manifest.member "certificate" = .json entry ∧
      certificateEntrySchema.valid entry = true :=
    Schema.valid_required hv2 (by simp) (by simp)
  have hmtEntry : ∃ entry, manifest.member "materialTruth" = .json entry ∧
      materialTruthEntrySchema.valid entry = true :=
    Schema.valid_required hv2 (by simp) (by simp)
  obtain ⟨certEntry, hcertMember, hcertValid⟩ := hcertEntry
  obtain ⟨mtEntry, hmtMember, hmtValid⟩ := hmtEntry
  have hcertDeclared := declaredSha_eq hcertMember hcertValid (by simp) (by simp)
  have hmtDeclared := declaredSha_eq hmtMember hmtValid (by simp) (by simp)
  rw [hcertSha] at hcertDeclared
  rw [hmtSha] at hmtDeclared
  exact ⟨manifestBytes, certificate, materialTruth,
    { manifest_read := hread
      certificate_read := hcertRead
      materialTruth_read := hmtRead
      signed := ⟨sidecarBytes, sidecar, sigB64, hsidecar, hsidecarParse, hsig,
        hverify⟩
      digests := ⟨manifest, hparse, hcertDeclared, hmtDeclared⟩ }⟩

/-- Manifests with the same LF-canonical bytes declare the same digests. -/
theorem parseBytes_eq_of_lfCanonical {bytes bytes' : Bytes} {v v' : Json}
    (hlf : lfCanonicalUtf8Payload bytes = lfCanonicalUtf8Payload bytes')
    (hv : parseBytes bytes = some v) (hv' : parseBytes bytes' = some v') :
    v = v' := by
  have htext : lfCanonical (utf8Decode bytes) = lfCanonical (utf8Decode bytes') :=
    utf8Encode_injective hlf
  have hparse := parseJson_lfCanonical hv
  rw [htext, parseJson_lfCanonical hv'] at hparse
  exact (Option.some.inj hparse).symm

/-- The contents of a signed bundle are fixed by its LF-canonical manifest. -/
theorem Signs.digests_eq {dir' : Directory} {m c t m' c' t' : Bytes}
    (h : Signs rt dir pem m c t) (h' : Signs rt dir' pem m' c' t')
    (hlf : lfCanonicalUtf8Payload m = lfCanonicalUtf8Payload m') :
    rt.sha256Hex c = rt.sha256Hex c' ∧ rt.sha256Hex t = rt.sha256Hex t' := by
  obtain ⟨v, hv, hcert, hmt⟩ := h.digests
  obtain ⟨v', hv', hcert', hmt'⟩ := h'.digests
  obtain rfl := parseBytes_eq_of_lfCanonical hlf hv hv'
  constructor
  · have hboth := hcert.symm.trans hcert'
    simpa using hboth
  · have hboth := hmt.symm.trans hmt'
    simpa using hboth

/-- A valid version 2 bundle with a readable sidecar is authentic: the sidecar
signs its manifest under the given key and the manifest's digests are those of
its files.  So under an ideal signature the manifest is one that the key holder
signed, and without a digest collision the files are the ones of every signed
bundle with that manifest. -/
theorem signed_bundle_authentic {sidecarBytes : Bytes}
    (hsidecar :
      readFileOptional dir Files.manifestSignature = some sidecarBytes)
    (hvalid :
      (validateDecisionEvidenceBundle rt dir (some pem)).status = .valid)
    (hversion : (validateDecisionEvidenceBundle rt dir
      (some pem)).integrity.manifestVersion = .two) :
    ∃ manifestBytes certificate materialTruth,
      Signs rt dir pem manifestBytes certificate materialTruth ∧
      (∀ signed : Set Bytes,
        (∀ message sigB64, rt.verify (normalizeSpkiPemForSidecar pem) message
          sigB64 = true → message ∈ signed) →
        lfCanonicalUtf8Payload manifestBytes ∈ signed) ∧
      ∀ original manifestBytes₀ certificate₀ materialTruth₀,
        Signs rt original pem manifestBytes₀ certificate₀ materialTruth₀ →
        lfCanonicalUtf8Payload manifestBytes =
          lfCanonicalUtf8Payload manifestBytes₀ →
        (rt.sha256Hex certificate = rt.sha256Hex certificate₀ →
          certificate = certificate₀) →
        (rt.sha256Hex materialTruth = rt.sha256Hex materialTruth₀ →
          materialTruth = materialTruth₀) →
        certificate = certificate₀ ∧ materialTruth = materialTruth₀ := by
  obtain ⟨manifestBytes, certificate, materialTruth, hsigns⟩ :=
    valid_signs hsidecar hvalid hversion
  refine ⟨manifestBytes, certificate, materialTruth, hsigns, ?_, ?_⟩
  · intro signed hideal
    obtain ⟨_, _, sigB64, _, _, _, hverify⟩ := hsigns.signed
    exact hideal _ sigB64 hverify
  · intro original m₀ c₀ t₀ horiginal hlf hcollision hcollision'
    obtain ⟨hcert, hmt⟩ := hsigns.digests_eq horiginal hlf
    exact ⟨hcollision hcert, hcollision' hmt⟩

end Guarantees

/-! ## A signed bundle -/

/-- The bytes of a text, given in pieces. -/
def bytesOf (pieces : List String) : Bytes :=
  utf8Encode (pieces.flatMap String.toList)

def signerPem : String :=
  "-----BEGIN PUBLIC KEY-----\nMCowBQYDK2VwAyEA6kpsY+KcUgq+9VB7Ey7F+" ++
    "ZVHdq6+vnuSQh7qaRRG0iw=\n-----END PUBLIC KEY-----\n"

def signedCertificate : Bytes := bytesOf ["\x7b\x7d"]

def signedMaterialTruth : Bytes :=
  bytesOf ["\x7b\"schemaVersion\":2,\"workflowId\":\"wf\",",
    "\"runKind\":\"contract_sql\",", "\"stateRelation\":\"matches_expectations\",",
    "\"reasonCodes\":[],\"steps\":[],", "\"checkpointVerdicts\":[],",
    "\"evidenceGapPrimary\":\"none\"\x7d"]

def signedManifest : Bytes :=
  bytesOf ["\x7b\"schemaVersion\":2,", "\"bundleKind\":\"decision_evidence\",",
    "\"producer\":\x7b\"name\":\"agentskeptic\",", "\"version\":\"1\"\x7d,",
    "\"createdAt\":\"2026-01-05T00:00:00Z\",", "\"workflowId\":\"wf\",",
    "\"certificate\":\x7b\"relativePath\":", "\"outcome-certificate.json\",",
    "\"sha256\":\"44136fa355b3678a1146ad16f7e8649e",
    "94fb4fc21fe77e8310c060f61caaff8a\"\x7d,",
    "\"materialTruth\":\x7b\"relativePath\":", "\"material-truth.json\",",
    "\"schemaVersion\":2,", "\"sha256\":\"556b6164f3fd63aad8ccec6c1807ec49",
    "c593e75d7a309ccdb8110631ea968bfc\"\x7d,",
    "\"completeness\":\x7b\"status\":\"complete\",",
    "\"artifacts\":\x7b\"a4Present\":false,",
    "\"a5Present\":false,\"a5Required\":false\x7d\x7d\x7d"]

def manifestSidecar : Bytes :=
  bytesOf ["\x7b\"algorithm\":\"ed25519\",", "\"schemaVersion\":1,",
    "\"signatureBase64\":\"U62BzXLCZhneTnXfbj6GOoWQ",
    "e6sAV7s2Y644JL/v0wl/KFWC47IbcSYQBr601sx1",
    "AeifcWJD0GkPMW07FPckDw==\",",
    "\"signedContentSha256Hex\":", "\"fa371ab023b6c0ca025c964999c351fa",
    "9aba50185848fa349b4c5979162095c0\",", "\"signingPublicKeySpkiPem\":",
    "\"-----BEGIN PUBLIC KEY-----\\nMCowBQYDK2Vw",
    "AyEA6kpsY+KcUgq+9VB7Ey7F+ZVHdq6+vnuSQh7q",
    "aRRG0iw=\\n-----END PUBLIC KEY-----\\n\"\x7d"]

/-- SHA-256 and Ed25519 as they are on the bytes of the signed bundle. -/
def signerRuntime : BundleRuntime where
  sha256Hex bytes :=
    if bytes = signedManifest then
      "fa371ab023b6c0ca025c964999c351fa9aba50185848fa349b4c5979162095c0"
    else if bytes = signedCertificate then
      "44136fa355b3678a1146ad16f7e8649e94fb4fc21fe77e8310c060f61caaff8a"
    else if bytes = signedMaterialTruth then
      "556b6164f3fd63aad8ccec6c1807ec49c593e75d7a309ccdb8110631ea968bfc"
    else ""
  verify key message sigB64 :=
    key == signerPem && message == signedManifest &&
      sigB64 == "U62BzXLCZhneTnXfbj6GOoWQe6sAV7s2Y644JL/v0wl/" ++
        "KFWC47IbcSYQBr601sx1AeifcWJD0GkPMW07FPckDw=="
  isPublicKey key := key == signerPem
  isDateTime text := text == "2026-01-05T00:00:00Z"

def signedBundle : Directory := fun name =>
  if name = Files.manifest then .file signedManifest
  else if name = Files.manifestSignature then .file manifestSidecar
  else if name = Files.outcomeCertificate then .file signedCertificate
  else if name = Files.materialTruth then .file signedMaterialTruth
  else .absent

/-- The characters of a text that is given in pieces are read off one piece after the
other. -/
theorem bytesOf_ofList_cons {piece text : List Char} {pieces : List String}
    (h : bytesOf pieces = utf8Encode text) :
    bytesOf (String.ofList piece :: pieces) = utf8Encode (piece ++ text) := by
  have hpieces : pieces.flatMap String.toList = text := by
    have hdecoded := congrArg utf8Decode h
    rwa [bytesOf, utf8Decode_utf8Encode, utf8Decode_utf8Encode] at hdecoded
  rw [bytesOf, List.flatMap_cons, String.toList_ofList, hpieces]

/-- What the files of the signed bundle say: the manifest fits its schema and declares the
digests of the others, and the sidecar fits its own and has the signature. -/
theorem signedBundle_says :
    (∃ text, signedManifest = utf8Encode text ∧ lfCanonical text = text ∧
      (parseJson text).any (fun manifest =>
        (manifestSchemaV2 signerRuntime).valid manifest &&
          (decide (detectManifestVersion manifest = .two) &&
            (decide (manifestStatus manifest = .complete) &&
              (decide (declaredSha manifest "certificate" =
                  "44136fa355b3678a1146ad16f7e8649e94fb4fc21fe77e8310c060f61caaff8a") &&
                decide (declaredSha manifest "materialTruth" =
                  "556b6164f3fd63aad8ccec6c1807ec49c593e75d7a309ccdb8110631ea968bfc"))))) =
        true) ∧
    (∃ text, manifestSidecar = utf8Encode text ∧
      (parseJson text).any (fun sidecar => workflowResultSignatureSchema.valid sidecar &&
        match sidecar.member "signatureBase64",
          sidecar.member "signedContentSha256Hex" with
        | .json (.str sigB64), .json (.str signedContent) =>
            decide (sigB64 = "U62BzXLCZhneTnXfbj6GOoWQe6sAV7s2Y644JL/v0wl/" ++
              "KFWC47IbcSYQBr601sx1AeifcWJD0GkPMW07FPckDw==") &&
            decide (signedContent =
              "fa371ab023b6c0ca025c964999c351fa9aba50185848fa349b4c5979162095c0")
        | _, _ => false) = true) ∧
    (parseBytes signedMaterialTruth).any materialTruthSchemaV2.valid = true ∧
    normalizeSpkiPemForSidecar signerPem = signerPem ∧
    signedCertificate ≠ signedManifest ∧ signedMaterialTruth ≠ signedManifest ∧
    signedMaterialTruth ≠ signedCertificate := by
  refine ⟨?_, ?_, ?_⟩
  · constructor
    constructor
    · rw [signedManifest]
      repeat apply bytesOf_ofList_cons
      rfl
    · decide +kernel
  · constructor
    constructor
    · rw [manifestSidecar]
      repeat apply bytesOf_ofList_cons
      rfl
    · decide +kernel
  · decide +kernel

theorem signedManifest_parsed :
    ∃ manifest, parseBytes signedManifest = some manifest ∧
      (manifestSchemaV2 signerRuntime).valid manifest = true ∧
      detectManifestVersion manifest = .two ∧ manifestStatus manifest = .complete ∧
      declaredSha manifest "certificate" =
        "44136fa355b3678a1146ad16f7e8649e94fb4fc21fe77e8310c060f61caaff8a" ∧
      declaredSha manifest "materialTruth" =
        "556b6164f3fd63aad8ccec6c1807ec49c593e75d7a309ccdb8110631ea968bfc" := by
  obtain ⟨text, htext, -, hsays⟩ := signedBundle_says.1
  obtain ⟨manifest, hparse, hmanifest⟩ := (Option.any_eq_true _ _).mp hsays
  refine ⟨manifest, ?_, ?_⟩
  · rw [parseBytes, htext, utf8Decode_utf8Encode, hparse]
  · simpa only [Bool.and_eq_true, decide_eq_true_eq] using hmanifest

theorem lfCanonicalUtf8Payload_signedManifest :
    lfCanonicalUtf8Payload signedManifest = signedManifest := by
  obtain ⟨text, htext, hlf, -⟩ := signedBundle_says.1
  rw [lfCanonicalUtf8Payload, htext, utf8Decode_utf8Encode, hlf]

theorem manifestSidecar_parsed :
    ∃ sidecar, parseBytes manifestSidecar = some sidecar ∧
      workflowResultSignatureSchema.valid sidecar = true ∧
      ∃ sigB64, sidecar.member "signatureBase64" = .json (.str sigB64) ∧
        sigB64 = "U62BzXLCZhneTnXfbj6GOoWQe6sAV7s2Y644JL/v0wl/" ++
          "KFWC47IbcSYQBr601sx1AeifcWJD0GkPMW07FPckDw==" ∧
        sidecar.member "signedContentSha256Hex" = .json (.str
          "fa371ab023b6c0ca025c964999c351fa9aba50185848fa349b4c5979162095c0") := by
  obtain ⟨text, htext, hsays⟩ := signedBundle_says.2.1
  obtain ⟨sidecar, hparse, hsidecar⟩ := (Option.any_eq_true _ _).mp hsays
  obtain ⟨hvalid, hsigned⟩ := (Bool.and_eq_true _ _).mp hsidecar
  refine ⟨sidecar, by rw [parseBytes, htext, utf8Decode_utf8Encode, hparse], hvalid, ?_⟩
  split at hsigned
  · rename_i sigB64 signedContent hsig hcontent
    obtain ⟨hsigB64, hsigned⟩ := (Bool.and_eq_true _ _).mp hsigned
    rw [hcontent, of_decide_eq_true hsigned]
    exact ⟨sigB64, hsig, of_decide_eq_true hsigB64, rfl⟩
  · exact absurd hsigned Bool.false_ne_true

theorem signerRuntime_sha256Hex (bytes : Bytes) :
    signerRuntime.sha256Hex bytes =
      if bytes = signedManifest then
        "fa371ab023b6c0ca025c964999c351fa9aba50185848fa349b4c5979162095c0"
      else if bytes = signedCertificate then
        "44136fa355b3678a1146ad16f7e8649e94fb4fc21fe77e8310c060f61caaff8a"
      else if bytes = signedMaterialTruth then
        "556b6164f3fd63aad8ccec6c1807ec49c593e75d7a309ccdb8110631ea968bfc"
      else "" := rfl

theorem signerRuntime_verify (key : String) (message : Bytes) (sigB64 : String) :
    signerRuntime.verify key message sigB64 =
      (key == signerPem && message == signedManifest &&
        sigB64 == "U62BzXLCZhneTnXfbj6GOoWQe6sAV7s2Y644JL/v0wl/" ++
          "KFWC47IbcSYQBr601sx1AeifcWJD0GkPMW07FPckDw==") := rfl

theorem tryVerifySignature_manifestSidecar :
    tryVerifySignature signerRuntime signedManifest manifestSidecar signerPem = true := by
  obtain ⟨sidecar, hparse, hvalid, sigB64, hsig, rfl, hcontent⟩ := manifestSidecar_parsed
  obtain ⟨-, -, -, hpem, -⟩ := signedBundle_says
  rw [tryVerifySignature, hparse]
  simp only [hvalid, if_true, hsig, hcontent]
  rw [lfCanonicalUtf8Payload_signedManifest, hpem, signerRuntime_sha256Hex, if_pos rfl,
    if_pos rfl, signerRuntime_verify, beq_self_eq_true, beq_self_eq_true, beq_self_eq_true]
  rfl

theorem checkCertificate_signedBundle {manifest : Json}
    (h : declaredSha manifest "certificate" =
      "44136fa355b3678a1146ad16f7e8649e94fb4fc21fe77e8310c060f61caaff8a") :
    checkCertificate signerRuntime signedBundle manifest = (true, []) := by
  have hread : readFileOptional signedBundle Files.outcomeCertificate =
      some signedCertificate := rfl
  obtain ⟨-, -, -, -, hne, -⟩ := signedBundle_says
  rw [checkCertificate, hread, h]
  dsimp only
  rw [if_pos (by decide), signerRuntime_sha256Hex, if_neg hne, if_pos rfl, if_pos rfl]

theorem checkMaterialTruth_signedBundle {manifest : Json}
    (h : declaredSha manifest "materialTruth" =
      "556b6164f3fd63aad8ccec6c1807ec49c593e75d7a309ccdb8110631ea968bfc") :
    checkMaterialTruth signerRuntime signedBundle manifest = (some true, []) := by
  have hexists : existsArtifact signedBundle Files.materialTruth = true := rfl
  have hread : readFileOptional signedBundle Files.materialTruth =
      some signedMaterialTruth := rfl
  obtain ⟨-, -, hschema, -, -, hne, hne'⟩ := signedBundle_says
  rw [checkMaterialTruth, hexists, hread, h]
  dsimp only
  rw [signerRuntime_sha256Hex, if_neg hne, if_neg hne', if_pos rfl, if_pos rfl, if_pos hschema]
  rfl

theorem checkSignature_signedBundle :
    (checkSignature signerRuntime signedBundle signedManifest (some signerPem)).2.2 = [] := by
  have hread : readFileOptional signedBundle Files.manifestSignature =
      some manifestSidecar := rfl
  rw [checkSignature, hread]
  dsimp only
  rw [if_pos tryVerifySignature_manifestSidecar]

theorem signedBundle_validated :
    (validateDecisionEvidenceBundle signerRuntime signedBundle
      (some signerPem)).status = .valid ∧
    (validateDecisionEvidenceBundle signerRuntime signedBundle
      (some signerPem)).integrity.manifestVersion = .two := by
  obtain ⟨manifest, hparse, hschema, hversion, hstatus, hcertificate, hmaterial⟩ :=
    signedManifest_parsed
  have hread : readFileOptional signedBundle Files.manifest = some signedManifest := rfl
  have herrors : (integrityChecks signerRuntime signedBundle (some signerPem) signedManifest
      manifest).errors = [] := by
    rw [integrityChecks, hversion]
    dsimp only
    rw [checkCertificate_signedBundle hcertificate, checkMaterialTruth_signedBundle hmaterial,
      checkSignature_signedBundle]
    rfl
  have hvalid : ¬((manifestSchemaV1 signerRuntime).valid manifest = false ∧
      (manifestSchemaV2 signerRuntime).valid manifest = false) := by
    rw [hschema]
    exact fun h => Bool.noConfusion h.2
  have hline : validateDecisionEvidenceBundle signerRuntime signedBundle (some signerPem) =
      validateParsedManifest signerRuntime signedBundle (some signerPem) signedManifest
        manifest := by
    rw [validateDecisionEvidenceBundle, hread]
    dsimp only
    rw [hparse]
    dsimp only
    rw [if_neg hvalid]
  rw [hline, validateParsedManifest]
  dsimp only
  rw [herrors, hstatus, hversion]
  exact ⟨rfl, rfl⟩

theorem signedBundle_authentic :
    ∃ manifestBytes certificate materialTruth,
      Signs signerRuntime signedBundle signerPem manifestBytes certificate
        materialTruth := by
  obtain ⟨hvalid, hversion⟩ := signedBundle_validated
  obtain ⟨manifestBytes, certificate, materialTruth, hsigns, -, -⟩ :=
    signed_bundle_authentic (rfl :
      readFileOptional signedBundle Files.manifestSignature =
        some manifestSidecar) hvalid hversion
  exact ⟨manifestBytes, certificate, materialTruth, hsigns⟩

/-! ## A version 1 manifest next to a sidecar -/

/-- A runtime on which nothing is signed. -/
def unsignedRuntime : BundleRuntime where
  sha256Hex _ := ""
  verify _ _ _ := false
  isPublicKey _ := false
  isDateTime text := text == "2026-01-05T00:00:00Z"

/-- A manifest of the legacy version, a sidecar that signs nothing, and no
certificate. -/
def downgradedBundle : Directory := fun name =>
  if name = Files.manifest then
    .file (bytesOf ["\x7b\"schemaVersion\":1,", "\"bundleKind\":",
      "\"decision_evidence\",", "\"createdAt\":", "\"2026-01-05T00:00:00Z\",",
      "\"workflowId\":\"wf\",", "\"completeness\":", "\x7b\"status\":\"complete\",",
      "\"artifacts\":", "\x7b\"a4Present\":false,", "\"a5Present\":false,",
      "\"a5Required\":false\x7d", "\x7d\x7d"])
  else if name = Files.manifestSignature then .file (bytesOf ["unsigned"])
  else .absent

/-- The downgraded bundle is valid although its sidecar signs nothing. -/
theorem downgraded_bundle_valid :
    (validateDecisionEvidenceBundle unsignedRuntime downgradedBundle
      (some "key")).status = .valid ∧
    readFileOptional downgradedBundle Files.manifestSignature =
      some (bytesOf ["unsigned"]) ∧
    ¬ ∃ manifestBytes certificate materialTruth,
      Signs unsignedRuntime downgradedBundle "key" manifestBytes certificate
        materialTruth := by
  refine ⟨by decide +kernel, rfl, ?_⟩
  rintro ⟨manifestBytes, certificate, materialTruth, hsigns⟩
  obtain ⟨_, _, sigB64, _, _, _, hverify⟩ := hsigns.signed
  cases hverify

end AgentSkeptic.Bundle
