import AgentSkeptic.Bundle.DecisionBundleWriter
import Mathlib.Data.Char
import Mathlib.Data.List.Lex

/-!
# Writing over an earlier bundle

A run of `writeDecisionEvidenceBundle` over whatever the directory holds, and its
crashes between two replacements, as `validateDecisionEvidenceBundle` sees them.

A sidecar that an earlier run left next to the manifest is neither removed by an
unsigned run nor replaced before the manifest by a signed one, and a manifest of
version 1 vouches for no file; `written_bundle_sound_iff` says exactly when the
validator answers as the writer intends nevertheless.
-/

namespace AgentSkeptic.Bundle

open AgentSkeptic.Support

/-! ## Earlier bundles -/

/-- A valid line comes from a manifest of version 1, or from a version 2 manifest
without integrity errors. -/
theorem holdsManifest_of_valid {rt : BundleRuntime} {dir : Directory}
    {key : Option String}
    (h : (validateDecisionEvidenceBundle rt dir key).status = .valid)
    {manifestBytes : Bytes} {manifest : Json}
    (hread : readFileOptional dir Files.manifest = some manifestBytes)
    (hparse : parseBytes manifestBytes = some manifest)
    (htwo : detectManifestVersion manifest = .two) :
    HoldsManifest rt dir manifestBytes manifest := by
  have hline := h
  unfold validateDecisionEvidenceBundle at hline
  rw [hread] at hline
  dsimp only at hline
  rw [hparse] at hline
  dsimp only at hline
  split_ifs at hline with hschema
  · cases hline
  · refine ⟨hread, hparse, ?_, ?_⟩
    · rcases not_and_or.mp hschema with hone | htwo'
      · have hversion := manifestSchemaV1_version (by simpa using hone)
        rw [htwo] at hversion
        cases hversion
      · simpa using htwo'
    · intro hinvalid
      rw [validateParsedManifest] at hline
      dsimp only at hline
      rw [if_pos (.inr hinvalid)] at hline
      cases hline

/-- The line of a version 1 manifest depends on nothing but the manifest. -/
theorem valid_of_versionOne {rt : BundleRuntime} {dir dir' : Directory}
    {key key' : Option String}
    (h : (validateDecisionEvidenceBundle rt dir key).status = .valid)
    {manifestBytes : Bytes} {manifest : Json}
    (hread : readFileOptional dir Files.manifest = some manifestBytes)
    (hparse : parseBytes manifestBytes = some manifest)
    (hone : detectManifestVersion manifest = .one)
    (hread' : readFileOptional dir' Files.manifest = some manifestBytes) :
    (validateDecisionEvidenceBundle rt dir' key').status = .valid := by
  unfold validateDecisionEvidenceBundle at h ⊢
  rw [hread] at h
  rw [hread']
  dsimp only at h ⊢
  rw [hparse] at h ⊢
  dsimp only at h ⊢
  split_ifs at h ⊢ with hschema
  · cases h
  · simp only [validateParsedManifest, integrityChecks, hone] at h ⊢
    exact h


/-- A readable sidecar without an error verifies under the given key. -/
theorem checkSignature_verifies {rt : BundleRuntime} {dir : Directory}
    {manifestBytes sidecarBytes : Bytes} {key : Option String}
    (hread : readFileOptional dir Files.manifestSignature = some sidecarBytes)
    (h : (checkSignature rt dir manifestBytes key).2.2 = []) :
    ∃ pem, tryVerifySignature rt manifestBytes sidecarBytes pem = true := by
  cases key with
  | some pem => exact ⟨pem, checkSignature_ok hread h⟩
  | none =>
      rw [checkSignature, hread] at h
      cases h

/-- The directory is a valid bundle under some key, of another certificate. -/
structure EarlierBundle (rt : BundleRuntime) (dir : Directory) (certificate : Bytes) :
    Prop where
  valid : ∃ key, (validateDecisionEvidenceBundle rt dir key).status = .valid
  other : ∃ earlier, readFileOptional dir Files.outcomeCertificate = some earlier ∧
    earlier ≠ certificate

/-- After a crash before the last replacement the validator accepts nothing but the
directory as it was. -/
def CrashSafe (rt : BundleRuntime) (dir : Directory) (rs : List Replacement) : Prop :=
  ∀ n < rs.length, ∀ key,
    (validateDecisionEvidenceBundle rt (replaceFiles dir (rs.take n)) key).status =
      .valid →
    replaceFiles dir (rs.take n) = dir

/-- The validator accepts the directory, with both fingerprints, and finds a valid
signature exactly when there should be one. -/
structure ValidatesAs (rt : BundleRuntime) (dir : Directory) (key : Option String)
    (signed : Bool) : Prop where
  status : (validateDecisionEvidenceBundle rt dir key).status = .valid
  certificate :
    (validateDecisionEvidenceBundle rt dir key).integrity.certificateFingerprintOk =
      some true
  materialTruth :
    (validateDecisionEvidenceBundle rt dir key).integrity.materialTruthFingerprintOk =
      some true
  signature : (validateDecisionEvidenceBundle rt dir key).integrity.signature = .valid ↔
    signed = true

/-- No replacement has the digest of other bytes that the directory holds under its
name, as they are or LF-canonical. -/
def NoCollision (rt : BundleRuntime) (dir : Directory) (rs : List Replacement) : Prop :=
  ∀ r ∈ rs, ∀ earlier, readFileOptional dir r.1 = some earlier →
    (rt.sha256Hex earlier = rt.sha256Hex r.2 → earlier = r.2) ∧
    (rt.sha256Hex (lfCanonicalUtf8Payload earlier) =
        rt.sha256Hex (lfCanonicalUtf8Payload r.2) →
      lfCanonicalUtf8Payload earlier = lfCanonicalUtf8Payload r.2)

/-- The manifest declares version 2. -/
def DeclaresVersionTwo (dir : Directory) : Prop :=
  ∃ manifestBytes manifest, readFileOptional dir Files.manifest = some manifestBytes ∧
    parseBytes manifestBytes = some manifest ∧ detectManifestVersion manifest = .two

/-- Before the run, a bundle of another certificate has version 2; it has a sidecar
when the run signs, and nothing has one when it does not. -/
def PriorAllows (rt : WriterRuntime) (o : WriteOptions) (dir : Directory) : Prop :=
  let earlier := EarlierBundle rt.toBundleRuntime dir
    (fingerprintUtf8JsonFileBytes rt o.certificate)
  (earlier → DeclaresVersionTwo dir) ∧
    if o.signingPrivateKeyPemUtf8.isSome then
      earlier → ∃ sidecar, readFileOptional dir Files.manifestSignature = some sidecar
    else readFileOptional dir Files.manifestSignature = none

/-! ## The replacements that a crash leaves -/

section Run

variable {rt : WriterRuntime} {o : WriteOptions} {materialTruth : Json}
  {sidecar : List Replacement} {dir : Directory}

theorem artifactFiles_certificate (rt : WriterRuntime) (o : WriteOptions)
    (materialTruth : Json) : ∃ rest, artifactFiles rt o materialTruth =
      (Files.outcomeCertificate, fingerprintUtf8JsonFileBytes rt o.certificate) ::
        rest := ⟨_, rfl⟩

/-- A crash comes before every replacement, among the artifacts, or between the
manifest and its sidecar. -/
theorem Returned.take_cases (h : Returned rt o materialTruth sidecar) {n : ℕ}
    (hn : n < (writeDecisionEvidenceBundle rt o).replacements.length) :
    let rs := (writeDecisionEvidenceBundle rt o).replacements.take n
    rs = [] ∨
    ((Files.outcomeCertificate, fingerprintUtf8JsonFileBytes rt o.certificate) ∈ rs ∧
      Files.manifest ∉ rs.map Prod.fst) ∨
    (rs = artifactFiles rt o materialTruth ++ [(Files.manifest,
        lineUtf8JsonFileBytes rt (manifestPayload rt o materialTruth))] ∧
      o.signingPrivateKeyPemUtf8.isSome = true) := by
  dsimp only
  rw [h.replacements] at hn ⊢
  rcases Nat.lt_or_ge (artifactFiles rt o materialTruth).length n with hlong | hshort
  · -- the manifest is written, so what is missing is a sidecar
    right; right
    have hsigned := h.signed
    cases hkey : o.signingPrivateKeyPemUtf8 with
    | none =>
        rw [hkey] at hsigned
        cases hsigned
        simp only [List.append_nil, List.length_append, List.length_singleton] at hn
        omega
    | some key =>
        rw [hkey] at hsigned
        cases hsigned
        simp only [List.length_append, List.length_singleton] at hn
        have hlength : n = (artifactFiles rt o materialTruth ++ [(Files.manifest,
            lineUtf8JsonFileBytes rt (manifestPayload rt o materialTruth))]).length := by
          rw [List.length_append, List.length_singleton]
          omega
        refine ⟨?_, rfl⟩
        rw [hlength]
        exact List.take_left
  · rw [List.append_assoc, List.take_append_of_le_length hshort]
    cases n with
    | zero =>
        left
        rfl
    | succ n =>
        right; left
        obtain ⟨rest, hrest⟩ := artifactFiles_certificate rt o materialTruth
        refine ⟨?_, ?_⟩
        · rw [hrest, List.take_succ_cons]
          exact .head _
        · have hnames := (artifactFiles_names rt o materialTruth)
          intro hmanifest
          obtain ⟨r, hr, hname⟩ := List.mem_map.mp hmanifest
          have hmem := hnames.subset (List.mem_map_of_mem (List.mem_of_mem_take hr))
          rw [hname] at hmem
          revert hmem
          decide

/-- The names that a run without a key replaces do not include the sidecar's. -/
theorem manifestSignature_not_mem (rt : WriterRuntime) (o : WriteOptions)
    (materialTruth : Json) : Files.manifestSignature ∉
      (artifactFiles rt o materialTruth ++ [(Files.manifest,
        lineUtf8JsonFileBytes rt (manifestPayload rt o materialTruth))]).map
        Prod.fst := by
  have hnames := (artifactFiles_names rt o materialTruth).append
    (List.Sublist.refl [Files.manifest])
  rw [List.map_append]
  intro hmem
  have hname := hnames.subset hmem
  revert hname
  decide

theorem sidecar_after_manifest (rt : WriterRuntime) (o : WriteOptions)
    (materialTruth : Json) (dir : Directory) :
    readFileOptional (replaceFiles dir (artifactFiles rt o materialTruth ++
      [(Files.manifest,
        lineUtf8JsonFileBytes rt (manifestPayload rt o materialTruth))]))
      Files.manifestSignature = readFileOptional dir Files.manifestSignature := by
  rw [readFileOptional, replaceFiles_other (manifestSignature_not_mem rt o materialTruth),
    readFileOptional]

/-- After a replaced certificate the directory is not the earlier bundle. -/
theorem EarlierBundle.replaced {certificate : Bytes} {rs : List Replacement}
    (h : EarlierBundle rt.toBundleRuntime dir certificate)
    (hnodup : (rs.map Prod.fst).Nodup)
    (hmem : (Files.outcomeCertificate, certificate) ∈ rs) :
    replaceFiles dir rs ≠ dir := by
  intro hsame
  obtain ⟨earlier, hread, hother⟩ := h.other
  have hnew := replaceFiles_named hnodup hmem dir
  rw [hsame] at hnew
  rw [readFileOptional, hnew] at hread
  exact hother (Option.some.inj hread).symm

theorem Returned.mem_certificate (h : Returned rt o materialTruth sidecar) :
    (Files.outcomeCertificate, fingerprintUtf8JsonFileBytes rt o.certificate) ∈
      (writeDecisionEvidenceBundle rt o).replacements := by
  rw [h.replacements]
  exact List.mem_append_left _ (List.mem_append_left _
    (List.mem_append_left _ (List.mem_append_left _ (.head _))))

theorem Returned.mem_manifest (h : Returned rt o materialTruth sidecar) :
    (Files.manifest, lineUtf8JsonFileBytes rt (manifestPayload rt o materialTruth)) ∈
      (writeDecisionEvidenceBundle rt o).replacements := by
  rw [h.replacements]
  exact List.mem_append_left _ (List.mem_append_right _ (.head _))

/-- What the whole run leaves. -/
theorem Returned.holdsRun_all (h : Returned rt o materialTruth sidecar)
    (dir : Directory) : HoldsRun rt o materialTruth
      (replaceFiles dir (writeDecisionEvidenceBundle rt o).replacements) := by
  apply h.holdsRun (List.Sublist.refl _)
  rw [h.replacements]
  exact List.subset_append_left _ _

/-- What a crash between the manifest and its sidecar leaves. -/
theorem Returned.holdsRun_manifest (h : Returned rt o materialTruth sidecar)
    (dir : Directory) : HoldsRun rt o materialTruth
      (replaceFiles dir (artifactFiles rt o materialTruth ++ [(Files.manifest,
        lineUtf8JsonFileBytes rt (manifestPayload rt o materialTruth))])) := by
  apply h.holdsRun
  · rw [h.replacements]
    exact List.sublist_append_left _ _
  · exact List.Subset.refl _

/-! ## The whole run -/

theorem Returned.validatesAs_iff_unsigned (h : Returned rt o materialTruth sidecar)
    (hwell : o.certificate.WellFormed) (hkey : o.signingPrivateKeyPemUtf8 = none)
    (dir : Directory) :
    ValidatesAs rt.toBundleRuntime
        (replaceFiles dir (writeDecisionEvidenceBundle rt o).replacements) none false ↔
      readFileOptional dir Files.manifestSignature = none := by
  have hrs : (writeDecisionEvidenceBundle rt o).replacements =
      artifactFiles rt o materialTruth ++ [(Files.manifest,
        lineUtf8JsonFileBytes rt (manifestPayload rt o materialTruth))] := by
    have hsigned := h.signed
    rw [hkey] at hsigned
    cases hsigned
    rw [h.replacements, List.append_nil]
  obtain ⟨hstatus, hcertificate, hmaterialTruth, hsignature⟩ :=
    (h.holdsRun_all dir).validate h hwell none
  have hsidecar := sidecar_after_manifest rt o materialTruth dir
  rw [← hrs] at hsidecar
  rw [checkSignature, hsidecar] at hstatus hsignature
  cases hread : readFileOptional dir Files.manifestSignature with
  | none =>
      rw [hread] at hstatus hsignature
      refine iff_of_true ⟨hstatus.mpr rfl, hcertificate, hmaterialTruth, ?_⟩ rfl
      rw [hsignature]
      simp
  | some bytes =>
      rw [hread] at hstatus
      refine iff_of_false (fun hvalid => ?_) (by simp)
      have hnil := hstatus.mp hvalid.status
      cases hnil

theorem Returned.validatesAs_signed (h : Returned rt o materialTruth sidecar)
    (hwell : o.certificate.WellFormed) {privateKey publicKey : String}
    (hkey : o.signingPrivateKeyPemUtf8 = some privateKey)
    (hpair : KeyPair rt privateKey publicKey)
    (hhex : ∀ bytes, isSha256Hex (rt.sha256Hex bytes) = true) (dir : Directory) :
    ValidatesAs rt.toBundleRuntime
      (replaceFiles dir (writeDecisionEvidenceBundle rt o).replacements)
      (some publicKey) true := by
  obtain ⟨hstatus, hcertificate, hmaterialTruth, hsignature⟩ :=
    (h.holdsRun_all dir).validate h hwell (some publicKey)
  have hsigned := h.signed
  rw [hkey] at hsigned
  cases hsigned with
  | signed _ signature spkiPem hsign =>
      have hmem : (Files.manifestSignature, jsonLineBytes (sidecarPayload rt
          (lineUtf8JsonFileBytes rt (manifestPayload rt o materialTruth)) signature
          spkiPem)) ∈ (writeDecisionEvidenceBundle rt o).replacements := by
        rw [h.replacements]
        exact List.mem_append_right _ (.head _)
      have hread := replaceFiles_named h.nodup hmem dir
      have hverify := tryVerifySignature_sidecar hpair hhex hsign
      rw [checkSignature, readFileOptional, hread] at hstatus hsignature
      dsimp only at hstatus hsignature
      rw [if_pos hverify] at hstatus hsignature
      refine ⟨hstatus.mpr rfl, hcertificate, hmaterialTruth, ?_⟩
      rw [hsignature]
      exact iff_of_true rfl rfl

/-! ## Crashes over an earlier bundle -/

/-- The digest of a certificate that a manifest declares is the certificate's. -/
theorem NoCollision.certificate_eq {rs : List Replacement} {certificate : Bytes}
    {earlier : Bytes} (h : NoCollision rt.toBundleRuntime dir rs)
    (hmem : (Files.outcomeCertificate, certificate) ∈ rs)
    (hread : readFileOptional dir Files.outcomeCertificate = some earlier)
    (hdigest : rt.sha256Hex earlier = rt.sha256Hex certificate) :
    earlier = certificate :=
  (h _ hmem earlier hread).1 hdigest

/-- Among the artifacts: the certificate is not the one that the earlier manifest
declares. -/
theorem EarlierBundle.artifacts_invalid {certificate : Bytes} {rs all : List Replacement}
    (h : EarlierBundle rt.toBundleRuntime dir certificate)
    (htwo : DeclaresVersionTwo dir) (hcollision : NoCollision rt.toBundleRuntime dir all)
    (hall : (Files.outcomeCertificate, certificate) ∈ all)
    (hnodup : (rs.map Prod.fst).Nodup)
    (hmem : (Files.outcomeCertificate, certificate) ∈ rs)
    (hmanifest : Files.manifest ∉ rs.map Prod.fst) (key : Option String) :
    (validateDecisionEvidenceBundle rt.toBundleRuntime (replaceFiles dir rs)
      key).status ≠ .valid := by
  intro hvalid
  obtain ⟨earlier, hread, hother⟩ := h.other
  obtain ⟨manifestBytes, manifest, hreadManifest, hparse, hversion⟩ := htwo
  obtain ⟨key₀, hvalid₀⟩ := h.valid
  have hsame : readFileOptional (replaceFiles dir rs) Files.manifest =
      some manifestBytes := by
    rw [readFileOptional, replaceFiles_other hmanifest]
    exact hreadManifest
  have hbefore := holdsManifest_of_valid hvalid₀ hreadManifest hparse hversion
  have hafter := holdsManifest_of_valid hvalid hsame hparse hversion
  obtain ⟨bytes₀, hbytes₀, hdeclared₀⟩ :=
    checkCertificate_ok ((hbefore.validate key₀).1.mp hvalid₀).1
  obtain ⟨bytes, hbytes, hdeclared⟩ :=
    checkCertificate_ok ((hafter.validate key).1.mp hvalid).1
  rw [hread] at hbytes₀
  obtain rfl := Option.some.inj hbytes₀
  rw [readFileOptional, replaceFiles_named hnodup hmem] at hbytes
  obtain rfl := Option.some.inj hbytes
  apply hother
  apply hcollision.certificate_eq hall hread
  rw [← hdeclared₀, hdeclared]

/-- Between the manifest and its sidecar: the earlier sidecar signs another manifest. -/
theorem EarlierBundle.manifest_invalid (h : Returned rt o materialTruth sidecar)
    (hwell : o.certificate.WellFormed)
    (hearlier : EarlierBundle rt.toBundleRuntime dir
      (fingerprintUtf8JsonFileBytes rt o.certificate))
    (htwo : DeclaresVersionTwo dir)
    (hcollision : NoCollision rt.toBundleRuntime dir
      (writeDecisionEvidenceBundle rt o).replacements)
    {sidecarBytes : Bytes}
    (hsidecar : readFileOptional dir Files.manifestSignature = some sidecarBytes)
    (key : Option String) :
    (validateDecisionEvidenceBundle rt.toBundleRuntime
      (replaceFiles dir (artifactFiles rt o materialTruth ++ [(Files.manifest,
        lineUtf8JsonFileBytes rt (manifestPayload rt o materialTruth))]))
      key).status ≠ .valid := by
  intro hvalid
  obtain ⟨earlier, hread, hother⟩ := hearlier.other
  obtain ⟨manifestBytes, manifest, hreadManifest, hparse, hversion⟩ := htwo
  obtain ⟨key₀, hvalid₀⟩ := hearlier.valid
  have hbefore := holdsManifest_of_valid hvalid₀ hreadManifest hparse hversion
  obtain ⟨hcertificate₀, -, hsignature₀⟩ := (hbefore.validate key₀).1.mp hvalid₀
  have hsignature := ((h.holdsRun_manifest dir).validate h hwell key).1.mp hvalid
  have hkept := sidecar_after_manifest rt o materialTruth dir
  rw [hsidecar] at hkept
  obtain ⟨pem₀, hverify₀⟩ := checkSignature_verifies hsidecar hsignature₀
  obtain ⟨pem, hverify⟩ := checkSignature_verifies hkept hsignature
  have hdigest := tryVerifySignature_digest_eq hverify₀ hverify
  have hlf := (hcollision _ h.mem_manifest _ hreadManifest).2 hdigest
  have hmanifest := parseBytes_eq_of_lfCanonical hlf hparse
    (parseBytes_line rt (manifestPayload_wellFormed rt o materialTruth))
  obtain ⟨bytes₀, hbytes₀, hdeclared₀⟩ := checkCertificate_ok hcertificate₀
  rw [hread] at hbytes₀
  obtain rfl := Option.some.inj hbytes₀
  rw [hmanifest, (manifestPayload_declared rt o materialTruth).1] at hdeclared₀
  exact hother (hcollision.certificate_eq h.mem_certificate hread hdeclared₀.symm)

theorem Returned.crashSafe (h : Returned rt o materialTruth sidecar)
    (hwell : o.certificate.WellFormed)
    (hcollision : NoCollision rt.toBundleRuntime dir
      (writeDecisionEvidenceBundle rt o).replacements)
    (hearlier : EarlierBundle rt.toBundleRuntime dir
      (fingerprintUtf8JsonFileBytes rt o.certificate))
    (htwo : DeclaresVersionTwo dir)
    (hsidecar : o.signingPrivateKeyPemUtf8.isSome = true →
      ∃ bytes, readFileOptional dir Files.manifestSignature = some bytes) :
    CrashSafe rt.toBundleRuntime dir (writeDecisionEvidenceBundle rt o).replacements := by
  intro n hn key hvalid
  rcases h.take_cases hn with hnil | ⟨hmem, hmanifest⟩ | ⟨hrs, hsigned⟩
  · rw [hnil]
    rfl
  · have hnodup := ((List.take_sublist n
      (writeDecisionEvidenceBundle rt o).replacements).map Prod.fst).nodup h.nodup
    exact absurd hvalid (hearlier.artifacts_invalid htwo hcollision h.mem_certificate
      hnodup hmem hmanifest key)
  · obtain ⟨bytes, hbytes⟩ := hsidecar hsigned
    rw [hrs] at hvalid
    exact absurd hvalid (hearlier.manifest_invalid h hwell htwo hcollision hbytes key)

/-- A manifest of version 1 vouches for no file, so the validator accepts a bundle
whose certificate is replaced. -/
theorem Returned.declaresVersionTwo (h : Returned rt o materialTruth sidecar)
    (hearlier : EarlierBundle rt.toBundleRuntime dir
      (fingerprintUtf8JsonFileBytes rt o.certificate))
    (hsafe : CrashSafe rt.toBundleRuntime dir
      (writeDecisionEvidenceBundle rt o).replacements) :
    DeclaresVersionTwo dir := by
  obtain ⟨key, hvalid⟩ := hearlier.valid
  obtain ⟨manifestBytes, manifest, hread, hparse, -⟩ := validate_valid hvalid
  refine ⟨manifestBytes, manifest, hread, hparse, ?_⟩
  cases hversion : detectManifestVersion manifest with
  | two => rfl
  | one =>
      obtain ⟨rest, hrest⟩ := artifactFiles_certificate rt o materialTruth
      have hfirst : (writeDecisionEvidenceBundle rt o).replacements.take 1 =
          [(Files.outcomeCertificate,
            fingerprintUtf8JsonFileBytes rt o.certificate)] := by
        rw [h.replacements, hrest]
        rfl
      have hlength : 1 < (writeDecisionEvidenceBundle rt o).replacements.length := by
        rw [h.replacements, hrest]
        simp only [List.cons_append, List.length_cons, List.length_append,
          List.length_nil]
        omega
      have hsame := hsafe 1 hlength key
      rw [hfirst] at hsame
      refine absurd (hsame ?_) (hearlier.replaced (by simp) (.head _))
      apply valid_of_versionOne hvalid hread hparse hversion
      exact hread

/-- Without an earlier sidecar, a crash before the new one leaves the new bundle
unsigned, and the validator accepts it. -/
theorem Returned.earlier_sidecar (h : Returned rt o materialTruth sidecar)
    (hwell : o.certificate.WellFormed)
    (hsigned : o.signingPrivateKeyPemUtf8.isSome = true)
    (hearlier : EarlierBundle rt.toBundleRuntime dir
      (fingerprintUtf8JsonFileBytes rt o.certificate))
    (hsafe : CrashSafe rt.toBundleRuntime dir
      (writeDecisionEvidenceBundle rt o).replacements) :
    ∃ bytes, readFileOptional dir Files.manifestSignature = some bytes := by
  cases hread : readFileOptional dir Files.manifestSignature with
  | some bytes => exact ⟨bytes, rfl⟩
  | none =>
      obtain ⟨s, hs⟩ : ∃ s, sidecar = [s] := by
        obtain ⟨privateKey, hkey⟩ := Option.isSome_iff_exists.mp hsigned
        have hfiles := h.signed
        rw [hkey] at hfiles
        cases hfiles with
        | signed => exact ⟨_, rfl⟩
      subst hs
      have htaken : (writeDecisionEvidenceBundle rt o).replacements.take
          (artifactFiles rt o materialTruth ++ [(Files.manifest,
            lineUtf8JsonFileBytes rt (manifestPayload rt o materialTruth))]).length =
          artifactFiles rt o materialTruth ++ [(Files.manifest,
            lineUtf8JsonFileBytes rt (manifestPayload rt o materialTruth))] := by
        rw [h.replacements]
        exact List.take_left
      have hlength : (artifactFiles rt o materialTruth ++ [(Files.manifest,
          lineUtf8JsonFileBytes rt (manifestPayload rt o materialTruth))]).length <
          (writeDecisionEvidenceBundle rt o).replacements.length := by
        rw [h.replacements]
        simp only [List.length_append, List.length_singleton]
        omega
      have hvalid := ((h.holdsRun_manifest dir).validate h hwell none).1
      rw [checkSignature, sidecar_after_manifest, hread] at hvalid
      have hsame := hsafe _ hlength none
      rw [htaken] at hsame
      refine absurd (hsame (hvalid.mpr rfl)) (hearlier.replaced ?_ ?_)
      · have hsublist : (artifactFiles rt o materialTruth ++ [(Files.manifest,
            lineUtf8JsonFileBytes rt (manifestPayload rt o materialTruth))]).Sublist
            (writeDecisionEvidenceBundle rt o).replacements := by
          rw [h.replacements]
          exact List.sublist_append_left _ _
        exact (hsublist.map Prod.fst).nodup h.nodup
      · obtain ⟨rest, hrest⟩ := artifactFiles_certificate rt o materialTruth
        rw [hrest]
        exact .head _

end Run

/-! ## Exactly when a run is sound -/

/-- A run that returns over any directory leaves a bundle that the validator accepts
under the matching key, and every crash of it over a bundle of another certificate
leaves that bundle or an invalid directory, exactly when `PriorAllows`. -/
theorem written_bundle_sound_iff {rt : WriterRuntime} {o : WriteOptions}
    {dir : Directory} {publicKey : String} {c : Completeness}
    (hwell : o.certificate.WellFormed)
    (hrun : (writeDecisionEvidenceBundle rt o).result = .ok c)
    (hpair : ∀ privateKey, o.signingPrivateKeyPemUtf8 = some privateKey →
      KeyPair rt privateKey publicKey)
    (hhex : ∀ bytes, isSha256Hex (rt.sha256Hex bytes) = true)
    (hcollision : NoCollision rt.toBundleRuntime dir
      (writeDecisionEvidenceBundle rt o).replacements) :
    (ValidatesAs rt.toBundleRuntime
        (replaceFiles dir (writeDecisionEvidenceBundle rt o).replacements)
        (o.signingPrivateKeyPemUtf8.map fun _ => publicKey)
        o.signingPrivateKeyPemUtf8.isSome ∧
      (EarlierBundle rt.toBundleRuntime dir
          (fingerprintUtf8JsonFileBytes rt o.certificate) →
        CrashSafe rt.toBundleRuntime dir
          (writeDecisionEvidenceBundle rt o).replacements)) ↔
      PriorAllows rt o dir := by
  obtain ⟨materialTruth, sidecar, h⟩ := writeDecisionEvidenceBundle_ok hrun
  unfold PriorAllows
  cases hkey : o.signingPrivateKeyPemUtf8 with
  | none =>
      have hwhole := h.validatesAs_iff_unsigned hwell hkey dir
      constructor
      · rintro ⟨hvalid, hsafe⟩
        exact ⟨fun hearlier => h.declaresVersionTwo hearlier (hsafe hearlier),
          hwhole.mp hvalid⟩
      · rintro ⟨htwo, hread⟩
        refine ⟨hwhole.mpr hread, fun hearlier => ?_⟩
        apply h.crashSafe hwell hcollision hearlier (htwo hearlier)
        rw [hkey]
        rintro ⟨⟩
  | some privateKey =>
      have hwhole := h.validatesAs_signed hwell hkey (hpair privateKey hkey) hhex dir
      have hsigned : o.signingPrivateKeyPemUtf8.isSome = true := by rw [hkey]; rfl
      constructor
      · rintro ⟨-, hsafe⟩
        exact ⟨fun hearlier => h.declaresVersionTwo hearlier (hsafe hearlier),
          fun hearlier => h.earlier_sidecar hwell hsigned hearlier (hsafe hearlier)⟩
      · rintro ⟨htwo, hread⟩
        exact ⟨hwhole, fun hearlier => h.crashSafe hwell hcollision hearlier
          (htwo hearlier) fun _ => hread hearlier⟩

/-! ## An unsigned run -/

def matchedCertificate : Json :=
  .obj [("schemaVersion", numberJson 3), ("workflowId", .str "wf_fixture_diff"),
    ("runKind", .str "contract_sql"), ("stateRelation", .str "matches_expectations"),
    ("highStakesReliance", .str "permitted"), ("releaseCriticalVerdict", .str "trusted"),
    ("relianceRationale", .str "Fixture B after match."),
    ("intentSummary", .str "Fixture B after TRUSTED."),
    ("explanation", .obj [("headline", .str "Matched."),
      ("details", .arr [.obj [("code", .str "FIXTURE"), ("message", .str "OK.")]])]),
    ("steps", .arr []), ("humanReport", .str "fixture B after human."),
    ("evidenceCompleteness", .obj [("schemaVersion", numberJson 1),
      ("blockerCategory", .str "none"), ("quickSignal", .str "na"),
      ("verifiedClaims", .arr [.str "fixture"]), ("unverifiedClaims", .arr []),
      ("missingInputs", .arr []),
      ("nextActions",
        .arr [.obj [("id", .str "fixture_next"), ("text", .str "Next.")]])]),
    ("failureSpine", .obj [("schemaVersion", numberJson 1),
      ("trustDecision", .str "safe"), ("summary", .str "Safe."),
      ("actionableFailure", .obj [("category", .str "unclassified"),
        ("severity", .str "low"), ("recommendedAction", .str "none"),
        ("automationSafe", .bool true)]),
      ("primaryCodes", .arr [.str "FIXTURE"]), ("rerunGuidance", .str "None."),
      ("source", .str "workflow")])]

def unsignedOptions : WriteOptions where
  certificate := matchedCertificate
  noHumanReport := false
  runId := none
  producer := none
  attestation := none
  nextAction := none
  createdAt := some "2026-01-05T00:00:00Z"
  signingPrivateKeyPemUtf8 := none

/-- The order of `localeCompare` on ASCII letters of which no two differ in case. -/
def letterLe (a b : String) : Bool :=
  decide (a.toList.map Char.toLower ≤ b.toList.map Char.toLower)

def sortedBytes (v : Json) : Bytes :=
  utf8Encode (stringifyWithSortedKeys letterLe v).toList

/-- SHA-256 on the files of the signed bundle and of the unsigned one. -/
def letterSha256Hex (bytes : Bytes) : String :=
  if isSha256Hex (signerRuntime.sha256Hex bytes) then signerRuntime.sha256Hex bytes
  else if bytes = sortedBytes matchedCertificate then
    "e881dd23b5997e60d5244f66fa2e92dced92f287adfafc5b11d6fefab04d83e7"
  else if bytes = bytesOf ["\x7b\"checkpointVerdicts\":[],",
      "\"evidenceGapPrimary\":\"none\",\"reasonCodes\":[\"FIXTURE\"],",
      "\"runKind\":\"contract_sql\",\"schemaVersion\":2,",
      "\"stateRelation\":\"matches_expectations\",\"steps\":[],",
      "\"workflowId\":\"wf_fixture_diff\"\x7d"] then
    "7d76279aacf24151d0829db484104f13fe03d46deca2efd44747153535fe06db"
  else "e3b0c44298fc1c149afbf4c8996fb92427ae41e4649b934ca495991b7852b855"

def letterRuntime : WriterRuntime where
  sha256Hex := letterSha256Hex
  verify := signerRuntime.verify
  isPublicKey := signerRuntime.isPublicKey
  isDateTime := signerRuntime.isDateTime
  localeLe := letterLe
  localeLeEn := letterLe
  certificateSchema certificate := numberAt certificate "schemaVersion" = 3
  sign _ _ := none
  packageIdentity := ("agentskeptic", "8.8.3")
  now := "2026-01-05T00:00:00Z"

theorem letterRuntime_hex (bytes : Bytes) :
    isSha256Hex (letterRuntime.sha256Hex bytes) = true := by
  show isSha256Hex (letterSha256Hex bytes) = true
  unfold letterSha256Hex
  split_ifs with hknown
  · exact hknown
  · decide +kernel
  · decide +kernel
  · decide +kernel

theorem unsignedOptions_written :
    (writeDecisionEvidenceBundle letterRuntime unsignedOptions).result =
      .ok (bundleCompleteness unsignedOptions) := by
  apply writeDecisionEvidenceBundle_unsigned
  · decide +kernel
  · intro v hv
    cases hv
  · intro v hv
    cases hv
  · decide +kernel
  · apply manifestPayload_valid letterRuntime_hex
    · decide +kernel
    · decide +kernel
    · decide +kernel
    · intro runId hrun
      cases hrun
  · rfl

theorem matchedCertificate_wellFormed : matchedCertificate.WellFormed := by
  have hthree : (numberJson 3).WellFormed := by
    show JsNumber.Readable (.int 3)
    unfold JsNumber.Readable
    decide +kernel
  have hone := numberJson_wellFormed_one
  have hdetail : (Json.obj [("code", .str "FIXTURE"),
      ("message", .str "OK.")]).WellFormed :=
    wellFormed_obj ["code", "message"] rfl (by decide) (by simp [Json.WellFormed])
  have hexplanation : (Json.obj [("headline", .str "Matched."),
      ("details", .arr [.obj [("code", .str "FIXTURE"),
        ("message", .str "OK.")]])]).WellFormed :=
    wellFormed_obj ["headline", "details"] rfl (by decide)
      (by simpa [Json.WellFormed, Json.WellFormedItems] using hdetail)
  have haction : (Json.obj [("id", .str "fixture_next"),
      ("text", .str "Next.")]).WellFormed :=
    wellFormed_obj ["id", "text"] rfl (by decide) (by simp [Json.WellFormed])
  have hevidence : (Json.obj [("schemaVersion", numberJson 1),
      ("blockerCategory", .str "none"), ("quickSignal", .str "na"),
      ("verifiedClaims", .arr [.str "fixture"]), ("unverifiedClaims", .arr []),
      ("missingInputs", .arr []),
      ("nextActions", .arr [.obj [("id", .str "fixture_next"),
        ("text", .str "Next.")]])]).WellFormed :=
    wellFormed_obj ["schemaVersion", "blockerCategory", "quickSignal", "verifiedClaims",
      "unverifiedClaims", "missingInputs", "nextActions"] rfl (by decide)
      (by simpa [hone, Json.WellFormed, Json.WellFormedItems] using haction)
  have hfailure : (Json.obj [("category", .str "unclassified"),
      ("severity", .str "low"), ("recommendedAction", .str "none"),
      ("automationSafe", .bool true)]).WellFormed :=
    wellFormed_obj ["category", "severity", "recommendedAction", "automationSafe"] rfl
      (by decide) (by simp [Json.WellFormed])
  have hspine : (Json.obj [("schemaVersion", numberJson 1),
      ("trustDecision", .str "safe"), ("summary", .str "Safe."),
      ("actionableFailure", .obj [("category", .str "unclassified"),
        ("severity", .str "low"), ("recommendedAction", .str "none"),
        ("automationSafe", .bool true)]),
      ("primaryCodes", .arr [.str "FIXTURE"]), ("rerunGuidance", .str "None."),
      ("source", .str "workflow")]).WellFormed :=
    wellFormed_obj ["schemaVersion", "trustDecision", "summary", "actionableFailure",
      "primaryCodes", "rerunGuidance", "source"] rfl (by decide) (by
        intro m hm
        simp only [List.mem_cons, List.not_mem_nil, or_false] at hm
        rcases hm with rfl | rfl | rfl | rfl | rfl | rfl | rfl
        · exact hone
        · trivial
        · trivial
        · exact hfailure
        · exact ⟨trivial, trivial⟩
        · trivial
        · trivial)
  unfold matchedCertificate
  apply wellFormed_obj ["schemaVersion", "workflowId", "runKind", "stateRelation",
    "highStakesReliance", "releaseCriticalVerdict", "relianceRationale",
    "intentSummary", "explanation", "steps", "humanReport", "evidenceCompleteness",
    "failureSpine"] rfl (by decide)
  intro m hm
  simp only [List.mem_cons, List.not_mem_nil, or_false] at hm
  rcases hm with rfl | rfl | rfl | rfl | rfl | rfl | rfl | rfl | rfl | rfl | rfl | rfl | rfl
  · exact hthree
  · trivial
  · trivial
  · trivial
  · trivial
  · trivial
  · trivial
  · trivial
  · exact hexplanation
  · trivial
  · trivial
  · exact hevidence
  · exact hspine

/-- An unsigned run into an empty directory leaves a bundle that is valid without a
key. -/
theorem unsignedOptions_validates :
    ValidatesAs letterRuntime.toBundleRuntime
      (replaceFiles (fun _ => .absent)
        (writeDecisionEvidenceBundle letterRuntime unsignedOptions).replacements)
      none false := by
  have hprior : PriorAllows letterRuntime unsignedOptions fun _ => .absent := by
    refine ⟨?_, rfl⟩
    intro hearlier
    obtain ⟨earlier, hread, -⟩ := hearlier.other
    cases hread
  refine ((@written_bundle_sound_iff letterRuntime unsignedOptions _ signerPem _
    matchedCertificate_wellFormed unsignedOptions_written ?_ letterRuntime_hex
    ?_).mpr hprior).1
  · intro privateKey hkey
    cases hkey
  · intro r hr earlier hread
    cases hread

/-- An unsigned run over a signed bundle leaves its sidecar, and the validator asks
for a key that no one used. -/
theorem unsigned_run_over_signed_bundle :
    (validateDecisionEvidenceBundle signerRuntime signedBundle
      (some signerPem)).status = .valid ∧
    (writeDecisionEvidenceBundle letterRuntime unsignedOptions).result =
      .ok (bundleCompleteness unsignedOptions) ∧
    unsignedOptions.signingPrivateKeyPemUtf8 = none ∧
    ¬ValidatesAs letterRuntime.toBundleRuntime
      (replaceFiles signedBundle
        (writeDecisionEvidenceBundle letterRuntime unsignedOptions).replacements)
      none false := by
  refine ⟨signedBundle_validated.1, unsignedOptions_written, rfl, ?_⟩
  obtain ⟨materialTruth, sidecar, h⟩ :=
    writeDecisionEvidenceBundle_ok unsignedOptions_written
  rw [h.validatesAs_iff_unsigned matchedCertificate_wellFormed rfl signedBundle]
  intro hread
  cases hread

end AgentSkeptic.Bundle
