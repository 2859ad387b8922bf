import AgentSkeptic.Bundle.RunBundleLoads

/-!
# Verifying a signed run bundle

`verifyRunBundleSignature.ts`: the manifest, the digests of the three files, the sidecar,
and then the signature of the LF-canonical result under the given key.
-/

namespace AgentSkeptic.Bundle

open AgentSkeptic.Support

/-- The code of the failure and its message, up to what the runtime appends to it. -/
structure SignatureFailure where
  code : String
  message : String
  deriving DecidableEq, Repr

/-- Why a signature does not verify: a failure, or a `TypeError`. -/
inductive SignatureStop where
  | fail (failure : SignatureFailure)
  | thrown
  deriving DecidableEq, Repr

def signatureFail {α : Type} (code message : String) : Except SignatureStop α :=
  .error (.fail ⟨code, message⟩)

section

variable (rt : BundleRuntime)

def readSignedManifest (dir : Directory) : Except SignatureStop Json :=
  match dir agentRunFilename with
  | .absent => signatureFail "BUNDLE_SIGNATURE_MISSING_ARTIFACT" "Missing agent-run.json"
  | .unreadable => signatureFail "BUNDLE_SIGNATURE_MANIFEST_INVALID" ""
  | .file bytes =>
      match parseBytes bytes with
      | none => signatureFail "BUNDLE_SIGNATURE_MANIFEST_INVALID" ""
      | some .null => .error .thrown
      | some parsed =>
          if numberAt parsed "schemaVersion" = 1 then
            signatureFail "BUNDLE_SIGNATURE_UNSIGNED_MANIFEST"
              "Bundle manifest is unsigned (schemaVersion 1)"
          else if (parsed.member "schemaVersion").toText = none then .error .thrown
          else if numberAt parsed "schemaVersion" ≠ 2 then
            signatureFail "BUNDLE_SIGNATURE_MANIFEST_UNSUPPORTED_VERSION"
              "schemaVersion must be 1 or 2, got "
          else if (agentRunRecordV2Schema rt).valid parsed then .ok parsed
          else
            signatureFail "BUNDLE_SIGNATURE_MANIFEST_INVALID"
              "agent-run.json failed agent-run-record-v2 schema validation."

/-- The file of an artifact in its canonical form, once it matches the manifest. -/
def readSignedArtifact (dir : Directory) (spec : Json) (canonical : Bytes → Bytes)
    (name : String) : Except SignatureStop Bytes :=
  match dir (textAt spec "relativePath") with
  | .absent => signatureFail "BUNDLE_SIGNATURE_MISSING_ARTIFACT" ("Missing " ++ name)
  | .unreadable => signatureFail "BUNDLE_SIGNATURE_MISSING_ARTIFACT" ""
  | .file bytes =>
      if ((canonical bytes).length : ℚ) ≠ numberAt spec "byteLength" ∨
          rt.sha256Hex (canonical bytes) ≠ textAt spec "sha256" then
        signatureFail "BUNDLE_SIGNATURE_ARTIFACT_INTEGRITY"
          (name ++ " does not match manifest")
      else .ok (canonical bytes)

def readSidecar (sigFile : Bytes) : Except SignatureStop Json :=
  match parseBytes sigFile with
  | none => signatureFail "BUNDLE_SIGNATURE_SIDECAR_INVALID" ""
  | some sidecar =>
      if workflowResultSignatureSchema.valid sidecar then .ok sidecar
      else
        signatureFail "BUNDLE_SIGNATURE_SIDECAR_INVALID"
          "workflow-result.sig.json failed schema validation"

/-- The sidecar is about the result, under the trusted key. -/
def checkSignedContent (wrSpec : Json) (wrCanon : Bytes) (sidecar : Json)
    (publicKeyFile : Except String String) : Except SignatureStop Unit :=
  if textAt sidecar "signedContentSha256Hex" ≠ textAt wrSpec "sha256" then
    signatureFail "BUNDLE_SIGNATURE_SIGNED_HASH_MISMATCH"
      "signedContentSha256Hex does not match manifest"
  else
    match publicKeyFile with
    | .error message =>
        signatureFail "BUNDLE_SIGNATURE_MISSING_ARTIFACT"
          ("Cannot read public key: " ++ message)
    | .ok trustedPem =>
        if normalizeSpkiPemForSidecar (textAt sidecar "signingPublicKeySpkiPem") ≠
            normalizeSpkiPemForSidecar trustedPem then
          signatureFail "BUNDLE_SIGNATURE_PUBLIC_KEY_MISMATCH"
            "Public key file does not match sidecar PEM"
        else if rt.isPublicKey trustedPem = false then .error .thrown
        else if rt.verify trustedPem wrCanon (textAt sidecar "signatureBase64") then .ok ()
        else signatureFail "BUNDLE_SIGNATURE_CRYPTO_INVALID" "Ed25519 verify failed"

def verifyRunBundleSignature (dir : Directory) (publicKeyFile : Except String String) :
    Except SignatureStop Unit := do
  let record ← readSignedManifest rt dir
  let _ ← readSignedArtifact rt dir (declaredArtifact record "events")
    lfCanonicalUtf8Payload eventsFilename
  let wrCanon ← readSignedArtifact rt dir (declaredArtifact record "workflowResult")
    lfCanonicalUtf8Payload workflowResultFilename
  let sigFile ← readSignedArtifact rt dir
    (declaredArtifact record "workflowResultSignature") id workflowResultSigFilename
  let sidecar ← readSidecar sigFile
  checkSignedContent rt (declaredArtifact record "workflowResult") wrCanon sidecar
    publicKeyFile

end

/-! ## A signed run -/

/-- What the writer relies on of a key pair: what the private key signs verifies under
the public one, whose text is a key and the exported one, and neither is too short. -/
def MatchingKey (rt : WriterRuntime) (privateKey publicKey : String) : Prop :=
  ∀ message signature spkiPem,
    rt.sign privateKey message = some (signature, spkiPem) →
    rt.isPublicKey publicKey = true ∧
      rt.verify publicKey message signature = true ∧ 1 ≤ signature.length ∧
      32 ≤ (normalizeSpkiPemForSidecar spkiPem).length ∧
      normalizeSpkiPemForSidecar (normalizeSpkiPemForSidecar spkiPem) =
        normalizeSpkiPemForSidecar publicKey

section

variable {rt : WriterRuntime} {o : WriteAgentRunBundleOptions} {dir : Directory}

theorem readSignedArtifact_written {record : Json} {name relativePath label : String}
    {canonical : Bytes → Bytes} {bytes : Bytes} (hfile : dir relativePath = .file bytes)
    (hspec : declaredArtifact record name =
      (artifactSpec rt.toBundleRuntime relativePath (canonical bytes)).json) :
    readSignedArtifact rt.toBundleRuntime dir (declaredArtifact record name) canonical label =
      .ok (canonical bytes) := by
  obtain ⟨hpath, hsha, hlength⟩ :=
    artifactSpec_declared rt.toBundleRuntime relativePath (canonical bytes)
  rw [readSignedArtifact, hspec, hpath, hfile]
  dsimp only
  rw [hlength, hsha, if_neg (by simp)]

theorem signResult_signed {pem : String} (hkey : o.ed25519PrivateKeyPem = some (.ok pem))
    {sidecar : Option Bytes} (hsign : signResult rt o = .ok sidecar) :
    ∃ signature spkiPem,
      rt.sign pem (lfCanonicalUtf8Payload (workflowResultBytes o)) =
        some (signature, spkiPem) ∧
      sidecar =
        some (jsonLineBytes (sidecarPayload rt (workflowResultBytes o) signature spkiPem)) := by
  rw [signResult, hkey] at hsign
  dsimp only at hsign
  unfold signCanonicalBytesEd25519 at hsign
  cases hsigned : rt.sign pem (lfCanonicalUtf8Payload (workflowResultBytes o)) with
  | none =>
      rw [hsigned] at hsign
      cases hsign
  | some signed =>
      obtain ⟨signature, spkiPem⟩ := signed
      rw [hsigned] at hsign
      exact ⟨signature, spkiPem, rfl, (Except.ok.inj hsign).symm⟩

/-- The manifest of a signed run. -/
theorem readSignedManifest_written {bytes : Bytes}
    (hsizes : SizesFit rt.toBundleRuntime (recordInput rt o (some bytes)))
    (hdir : HoldsBundle rt o (some bytes) dir) :
    readSignedManifest rt.toBundleRuntime dir =
      if manifestFits rt.toBundleRuntime (buildAgentRunRecordForBundle rt.toBundleRuntime
          (recordInput rt o (some bytes))) = true then
        .ok (buildAgentRunRecordForBundle rt.toBundleRuntime (recordInput rt o (some bytes)))
      else
        signatureFail "BUNDLE_SIGNATURE_MANIFEST_INVALID"
          "agent-run.json failed agent-run-record-v2 schema validation." := by
  have hversion : numberAt (buildAgentRunRecordForBundle rt.toBundleRuntime
      (recordInput rt o (some bytes))) "schemaVersion" = 2 := by
    rw [record_schemaVersion]
    rfl
  rw [readSignedManifest, hdir.manifest]
  dsimp only
  have htext := toText_of_numberAt (hversion.trans_ne two_ne_zero)
  rw [parseBytes_agentRunBytes hsizes, manifestFits, if_pos hversion]
  dsimp only [buildAgentRunRecordForBundle] at hversion htext ⊢
  rw [if_neg htext, hversion, if_neg (by norm_num), if_neg (by norm_num)]
  rfl

theorem readSidecar_written {payload : Bytes} {signature spkiPem : String}
    (hvalid : workflowResultSignatureSchema.valid
      (sidecarPayload rt payload signature spkiPem) = true) :
    readSidecar (jsonLineBytes (sidecarPayload rt payload signature spkiPem)) =
      .ok (sidecarPayload rt payload signature spkiPem) := by
  rw [readSidecar, parseBytes_jsonLine (sidecarPayload_wellFormed rt payload signature spkiPem)]
  exact if_pos hvalid

/-- The sidecar of the run is about the result of the run. -/
theorem checkSignedContent_written {payload : Bytes} {signature spkiPem publicKey : String}
    {wrSpec : Json} (hdigest : textAt wrSpec "sha256" =
      rt.sha256Hex (lfCanonicalUtf8Payload payload))
    (hpublic : rt.isPublicKey publicKey = true)
    (hverify : rt.verify publicKey (lfCanonicalUtf8Payload payload) signature = true)
    (hsame : normalizeSpkiPemForSidecar (normalizeSpkiPemForSidecar spkiPem) =
      normalizeSpkiPemForSidecar publicKey) :
    checkSignedContent rt.toBundleRuntime wrSpec (lfCanonicalUtf8Payload payload)
      (sidecarPayload rt payload signature spkiPem) (.ok publicKey) = .ok () := by
  have hsigned : textAt (sidecarPayload rt payload signature spkiPem)
      "signedContentSha256Hex" = rt.sha256Hex (lfCanonicalUtf8Payload payload) := rfl
  have hpem : textAt (sidecarPayload rt payload signature spkiPem)
      "signingPublicKeySpkiPem" = normalizeSpkiPemForSidecar spkiPem := rfl
  have hbase64 : textAt (sidecarPayload rt payload signature spkiPem)
      "signatureBase64" = signature := rfl
  rw [checkSignedContent, hdigest, hsigned, if_neg (not_not.mpr rfl), hpem,
    if_neg (not_not.mpr hsame), hpublic, if_neg nofun, hbase64,
    if_pos hverify]

/-- The files of a signed run, as the verifier reads them behind the manifest. -/
theorem signedArtifacts_written {bytes : Bytes}
    (hdir : HoldsBundle rt o (some bytes) dir) {record : Json}
    (hrecord : record = buildAgentRunRecordForBundle rt.toBundleRuntime
      (recordInput rt o (some bytes))) :
    readSignedArtifact rt.toBundleRuntime dir (declaredArtifact record "events")
        lfCanonicalUtf8Payload eventsFilename = .ok (lfCanonicalUtf8Payload o.eventsNdjson) ∧
      readSignedArtifact rt.toBundleRuntime dir (declaredArtifact record "workflowResult")
        lfCanonicalUtf8Payload workflowResultFilename =
          .ok (lfCanonicalUtf8Payload (workflowResultBytes o)) ∧
      readSignedArtifact rt.toBundleRuntime dir
        (declaredArtifact record "workflowResultSignature") id workflowResultSigFilename =
          .ok bytes := by
  subst hrecord
  refine ⟨?_, ?_, ?_⟩
  · apply readSignedArtifact_written hdir.events
    exact record_declaredArtifact (by simp [recordArtifacts, recordInput])
  · apply readSignedArtifact_written hdir.workflowResult
    exact record_declaredArtifact (by simp [recordArtifacts, recordInput])
  · apply @readSignedArtifact_written _ _ _ _ _ _ id _ (hdir.signature _ rfl)
    exact record_declaredArtifact (by simp [recordArtifacts, recordInput])

theorem workflowResult_digest {sidecar : Option Bytes} :
    textAt (declaredArtifact (buildAgentRunRecordForBundle rt.toBundleRuntime
      (recordInput rt o sidecar)) "workflowResult") "sha256" =
      rt.sha256Hex (lfCanonicalUtf8Payload (workflowResultBytes o)) := by
  obtain ⟨-, hsha, -⟩ := artifactSpec_declared rt.toBundleRuntime workflowResultFilename
    (lfCanonicalUtf8Payload (workflowResultBytes o))
  have hspec : declaredArtifact (buildAgentRunRecordForBundle rt.toBundleRuntime
      (recordInput rt o sidecar)) "workflowResult" =
      (artifactSpec rt.toBundleRuntime workflowResultFilename
        (lfCanonicalUtf8Payload (workflowResultBytes o))).json :=
    record_declaredArtifact (by simp [recordArtifacts, recordInput])
  rw [hspec, hsha]

/-- A signed run that is complete verifies exactly when its manifest is valid. -/
theorem verifyRunBundleSignature_written_iff
    (hhex : ∀ bytes, isSha256Hex (rt.sha256Hex bytes) = true) {pem publicKey : String}
    (hkey : o.ed25519PrivateKeyPem = some (.ok pem)) (hpair : MatchingKey rt pem publicKey)
    {sidecar : Option Bytes} (hsign : signResult rt o = .ok sidecar)
    (hsizes : SizesFit rt.toBundleRuntime (recordInput rt o sidecar))
    (hdir : HoldsBundle rt o sidecar dir) :
    verifyRunBundleSignature rt.toBundleRuntime dir (.ok publicKey) = .ok () ↔
      RecordTextsValid rt.toBundleRuntime (recordInput rt o sidecar) := by
  obtain ⟨signature, spkiPem, hsigned, rfl⟩ := signResult_signed hkey hsign
  obtain ⟨hpublic, hverify, hsignature, hspki, hsame⟩ := hpair _ _ _ hsigned
  have hvalid := sidecarPayload_valid hhex (workflowResultBytes o) hsignature hspki
  have hmanifest := readSignedManifest_written hsizes hdir
  have hdigest := @workflowResult_digest rt o
    (some (jsonLineBytes (sidecarPayload rt (workflowResultBytes o) signature spkiPem)))
  obtain ⟨hevents, hresult, hsidecar⟩ := signedArtifacts_written hdir rfl
  have hcontent := checkSignedContent_written hdigest hpublic hverify hsame
  rw [← manifestFits_built_iff hhex]
  generalize buildAgentRunRecordForBundle rt.toBundleRuntime (recordInput rt o
    (some (jsonLineBytes (sidecarPayload rt (workflowResultBytes o) signature spkiPem)))) =
    record at *
  unfold verifyRunBundleSignature
  rw [hmanifest]
  split_ifs with hfits
  · simp only [hfits, iff_true]
    dsimp only [bind, Except.bind]
    rw [hevents, hresult, hsidecar]
    dsimp only
    rw [readSidecar_written hvalid]
    exact hcontent
  · constructor
    · intro h
      cases h
    · intro h
      exact absurd h hfits

end

end AgentSkeptic.Bundle
