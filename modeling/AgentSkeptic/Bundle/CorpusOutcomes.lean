import AgentSkeptic.Bundle.RunBundleSignature

/-!
# Every run of a corpus

`loadAllCorpusRuns` of `debugCorpus.ts` loads one run after the other, so that a run whose
loading throws takes the others with it.  It throws for a manifest or a result that is the
text `null`, for a version that `String` cannot convert, and nowhere else:
`corpusRuns_total_iff`.
-/

namespace AgentSkeptic.Bundle

open AgentSkeptic.Support AgentSkeptic.Events

/-! ## The runs of a corpus -/

def isSafeRunId (runId : String) : Bool :=
  runId ≠ "." && runId ≠ ".." && '/' ∉ runId.toList && '\\' ∉ runId.toList &&
    '\x00' ∉ runId.toList && runId ≠ ""

/-- An entry of the corpus directory. -/
structure CorpusEntry where
  name : String
  isDirectory : Bool

/-- The directories with a safe name, by `localeCompare`. -/
def listCorpusRunIds (localeLe : String → String → Bool) (entries : List CorpusEntry) :
    List String :=
  (((entries.filter (·.isDirectory)).map (·.name)).filter isSafeRunId).insertionSort
    fun a b => localeLe a b = true

inductive CorpusRunOutcome where
  | ok (run : CorpusRun)
  | error (runId : String) (e : CorpusLoadError)

/-- The outcome of a run, unless loading it throws. -/
def corpusRunOutcome (rt : LoaderRuntime) (runId : String) (folder : RunFolder) :
    Except Unit CorpusRunOutcome :=
  match loadCorpusRun rt runId folder with
  | .ok run => .ok (.ok run)
  | .error (.error e) => .ok (.error runId e)
  | .error .thrown => .error ()

def loadAllCorpusRuns (rt : LoaderRuntime) (localeLe : String → String → Bool)
    (entries : List CorpusEntry) (folder : String → RunFolder) :
    Except Unit (List CorpusRunOutcome) :=
  (listCorpusRunIds localeLe entries).mapM fun runId =>
    corpusRunOutcome rt runId (folder runId)

/-! ## What makes loading throw -/

/-- The manifest is `null`, or has a version that `String` cannot convert. -/
def UnreadableManifest (dir : Directory) : Prop :=
  ∃ bytes v, dir agentRunFilename = .file bytes ∧ parseBytes bytes = some v ∧
    (v = .null ∨ (v.member "schemaVersion").toText = none)

/-- A manifest of either version that its schema accepts. -/
def HasManifest (rt : BundleRuntime) (dir : Directory) (record : Json) : Prop :=
  ∃ bytes, dir agentRunFilename = .file bytes ∧ parseBytes bytes = some record ∧
    record ≠ .null ∧ manifestFits rt record = true

/-- The result is `null`, in a run whose files are what the manifest declares. -/
def NullResult (rt : BundleRuntime) (dir : Directory) : Prop :=
  ∃ record result events, HasManifest rt dir record ∧
    Vouched rt dir (declaredArtifact record "workflowResult") result ∧
    Vouched rt dir (declaredArtifact record "events") events ∧
    (numberAt record "schemaVersion" = 2 → ∃ sidecar,
      Vouched rt dir (declaredArtifact record "workflowResultSignature") sidecar) ∧
    parseBytes result.payload = some .null

def CorruptRun (rt : BundleRuntime) : RunFolder → Prop
  | .folder dir => UnreadableManifest dir ∨ NullResult rt dir
  | _ => False

section

variable {rt : BundleRuntime} {dir : Directory} {record : Json}

theorem numberAt_null (key : String) : numberAt .null key = 0 := rfl

theorem manifestFits_ne_null (h : manifestFits rt record = true) : record ≠ .null := by
  rintro rfl
  unfold manifestFits at h
  rw [numberAt_null, if_neg (by norm_num), if_neg (by norm_num)] at h
  cases h

theorem readManifest_ok_iff : readManifest rt dir = .ok record ↔ HasManifest rt dir record := by
  constructor
  · intro h
    obtain ⟨bytes, hfile, hparse, hfits⟩ := readManifest_ok h
    exact ⟨bytes, hfile, hparse, manifestFits_ne_null hfits, hfits⟩
  · rintro ⟨bytes, hfile, hparse, hnull, hfits⟩
    rw [readManifest, hfile]
    dsimp only
    rw [hparse]
    show validateAgentRunManifest rt record = _
    unfold validateAgentRunManifest
    split
    · exact absurd rfl hnull
    · rw [if_pos hfits]

theorem manifestFits_version (h : manifestFits rt record = true) :
    (record.member "schemaVersion").toText ≠ none := by
  apply toText_of_numberAt
  unfold manifestFits at h
  split_ifs at h with htwo hone
  · rw [htwo]
    norm_num
  · rw [hone]
    norm_num

theorem readManifest_thrown_iff :
    readManifest rt dir = .error .thrown ↔ UnreadableManifest dir := by
  unfold readManifest UnreadableManifest
  cases hfile : dir agentRunFilename with
  | absent => exact iff_of_false nofun (by rintro ⟨bytes, v, h, -⟩; cases h)
  | unreadable => exact iff_of_false nofun (by rintro ⟨bytes, v, h, -⟩; cases h)
  | file bytes =>
      dsimp only
      cases hparse : parseBytes bytes with
      | none =>
          refine iff_of_false nofun ?_
          rintro ⟨bytes', v, hsame, hv, -⟩
          cases hsame
          rw [hparse] at hv
          cases hv
      | some v =>
          have hvalidate : validateAgentRunManifest rt v = .error .thrown ↔
              v = .null ∨ (v.member "schemaVersion").toText = none := by
            unfold validateAgentRunManifest
            split
            · exact iff_of_true rfl (.inl rfl)
            · next hnull =>
                have hne : v ≠ .null := fun h => hnull h
                split_ifs with hfits htext
                · exact iff_of_false nofun (not_or.mpr ⟨hne, manifestFits_version hfits⟩)
                · exact iff_of_true rfl (.inr htext)
                · exact iff_of_false nofun (not_or.mpr ⟨hne, htext⟩)
          rw [hvalidate]
          constructor
          · intro h
            exact ⟨bytes, v, rfl, hparse, h⟩
          · rintro ⟨bytes', v', hsame, hv', h⟩
            cases hsame
            rw [hparse] at hv'
            cases hv'
            exact h

theorem checkSidecar_ok_iff : checkSidecar rt dir record = .ok () ↔
    (numberAt record "schemaVersion" = 2 → ∃ sidecar,
      Vouched rt dir (declaredArtifact record "workflowResultSignature") sidecar) := by
  unfold checkSidecar
  split_ifs with htwo
  · have hchecked : ∀ sidecar, Vouched rt dir
        (declaredArtifact record "workflowResultSignature") sidecar ↔
          checkArtifact rt dir (declaredArtifact record "workflowResultSignature")
            "MISSING_WORKFLOW_RESULT_SIGNATURE" workflowResultSigFilename = .ok sidecar :=
      fun _ => checkArtifact_ok_iff.symm
    simp only [hchecked, htwo, forall_const]
    cases checkArtifact rt dir (declaredArtifact record "workflowResultSignature")
      "MISSING_WORKFLOW_RESULT_SIGNATURE" workflowResultSigFilename with
    | error stop => exact iff_of_false nofun (by rintro ⟨sidecar, h⟩; cases h)
    | ok sidecar => exact iff_of_true rfl ⟨sidecar, rfl⟩
  · exact iff_of_true rfl fun h => absurd h htwo

theorem checkArtifacts_ok_iff {files : CheckedArtifact × CheckedArtifact} :
    checkArtifacts rt dir record = .ok files ↔
      Vouched rt dir (declaredArtifact record "workflowResult") files.1 ∧
        Vouched rt dir (declaredArtifact record "events") files.2 ∧
        (numberAt record "schemaVersion" = 2 → ∃ sidecar,
          Vouched rt dir (declaredArtifact record "workflowResultSignature") sidecar) := by
  constructor
  · intro h
    obtain ⟨hresult, hevents, hsidecar⟩ := checkArtifacts_ok h
    exact ⟨hresult, hevents, checkSidecar_ok_iff.mp hsidecar⟩
  · rintro ⟨hresult, hevents, hsidecar⟩
    unfold checkArtifacts
    refine bind_eq_ok.mpr ⟨files.1, checkArtifact_ok_iff.mpr hresult, ?_⟩
    refine bind_eq_ok.mpr ⟨files.2, checkArtifact_ok_iff.mpr hevents, ?_⟩
    exact bind_eq_ok.mpr ⟨(), checkSidecar_ok_iff.mpr hsidecar, rfl⟩

theorem checkArtifacts_not_thrown : checkArtifacts rt dir record ≠ .error .thrown := by
  intro h
  rcases checkArtifacts_total rt dir record with ⟨files, hfiles⟩ | ⟨e, he⟩
  · rw [hfiles] at h
    cases h
  · rw [he] at h
    cases h

end

section

variable {rt : LoaderRuntime} {dir : Directory} {runId : String}

theorem readWorkflowResult_thrown_iff {payload : Bytes} :
    readWorkflowResult rt payload = .error .thrown ↔ parseBytes payload = some .null := by
  unfold readWorkflowResult
  cases parseBytes payload with
  | none => exact iff_of_false nofun nofun
  | some v =>
      dsimp only
      unfold acceptWorkflowResult
      split
      · exact iff_of_true rfl rfl
      · next hnull =>
          have hne : some v ≠ some Json.null := fun h => hnull (Option.some.inj h)
          refine iff_of_false ?_ hne
          by_cases hcodes : isV9RunLevelCodesInconsistent v = true
          · rw [if_pos hcodes]
            exact nofun
          · rw [if_neg hcodes]
            generalize (if numberAt v "schemaVersion" = 9 then _ else _) = valid
            by_cases hinvalid : valid = false
            · rw [if_pos hinvalid]
              exact nofun
            · rw [if_neg hinvalid]
              cases rt.normalizeToEmittedWorkflowResult v with
              | error message => exact nofun
              | ok emitted => exact nofun

theorem loadFiles_thrown_iff {record : Json} {files : CheckedArtifact × CheckedArtifact} :
    loadFiles rt runId record files = .error .thrown ↔
      parseBytes files.1.payload = some .null := by
  unfold loadFiles
  rw [bind_eq_error, readWorkflowResult_thrown_iff]
  constructor
  · rintro (hnull | ⟨workflowResult, -, hrest⟩)
    · exact hnull
    · rcases bind_eq_error.mp hrest with hid | ⟨-, -, hload⟩
      · unfold checkWorkflowId at hid
        split_ifs at hid
        cases hid
      · cases hload
  · exact .inl

/-- Loading throws for a manifest that is no object with a version, and for a result that
is `null`. -/
theorem loadCorpusRun_thrown_iff {folder : RunFolder} :
    loadCorpusRun rt runId folder = .error .thrown ↔ CorruptRun rt.toBundleRuntime folder := by
  cases folder with
  | unreachable => exact iff_of_false nofun id
  | escapes => exact iff_of_false nofun id
  | folder dir =>
      show loadDirectory rt runId dir = _ ↔ UnreadableManifest dir ∨ NullResult rt.toBundleRuntime dir
      unfold loadDirectory
      rw [bind_eq_error, readManifest_thrown_iff]
      apply or_congr_right
      constructor
      · rintro ⟨record, hrecord, hrest⟩
        rcases bind_eq_error.mp hrest with hfiles | ⟨files, hfiles, hload⟩
        · exact absurd hfiles checkArtifacts_not_thrown
        · obtain ⟨hresult, hevents, hsidecar⟩ := checkArtifacts_ok_iff.mp hfiles
          exact ⟨record, files.1, files.2, readManifest_ok_iff.mp hrecord, hresult, hevents,
            hsidecar, loadFiles_thrown_iff.mp hload⟩
      · rintro ⟨record, result, events, hrecord, hresult, hevents, hsidecar, hnull⟩
        refine ⟨record, readManifest_ok_iff.mpr hrecord, ?_⟩
        refine bind_eq_error.mpr (.inr ⟨(result, events), ?_, ?_⟩)
        · exact checkArtifacts_ok_iff.mpr ⟨hresult, hevents, hsidecar⟩
        · exact loadFiles_thrown_iff.mpr hnull

theorem corpusRunOutcome_ok_iff {folder : RunFolder} :
    (∃ outcome, corpusRunOutcome rt runId folder = .ok outcome) ↔
      ¬CorruptRun rt.toBundleRuntime folder := by
  rw [← @loadCorpusRun_thrown_iff rt runId folder]
  unfold corpusRunOutcome
  cases loadCorpusRun rt runId folder with
  | ok run => exact iff_of_true ⟨_, rfl⟩ nofun
  | error stop =>
      cases stop with
      | error e => exact iff_of_true ⟨_, rfl⟩ nofun
      | thrown => exact iff_of_false (by rintro ⟨outcome, h⟩; cases h) (not_not.mpr rfl)

/-- One outcome for each run, if and only if none of them is corrupt in this way. -/
theorem loadAllCorpusRuns_ok_iff {localeLe : String → String → Bool}
    {entries : List CorpusEntry} {folder : String → RunFolder} :
    (∃ outcomes, loadAllCorpusRuns rt localeLe entries folder = .ok outcomes ∧
      outcomes.length = (listCorpusRunIds localeLe entries).length) ↔
      ∀ runId ∈ listCorpusRunIds localeLe entries,
        ¬CorruptRun rt.toBundleRuntime (folder runId) := by
  constructor
  · rintro ⟨outcomes, houtcomes, -⟩ runId hrunId
    obtain ⟨outcome, -, hrun⟩ := mem_of_mapM_eq_ok houtcomes hrunId
    exact corpusRunOutcome_ok_iff.mp ⟨outcome, hrun⟩
  · intro h
    have hsteps : ∀ runId ∈ listCorpusRunIds localeLe entries,
        ∃ outcome, corpusRunOutcome rt runId (folder runId) = .ok outcome ∧ True := by
      intro runId hrunId
      obtain ⟨outcome, hrun⟩ := corpusRunOutcome_ok_iff.mpr (h runId hrunId)
      exact ⟨outcome, hrun, trivial⟩
    obtain ⟨outcomes, houtcomes, -⟩ := exists_mapM_eq_ok hsteps
    exact ⟨outcomes, houtcomes, (mapM_eq_ok.mp houtcomes).length_eq.symm⟩

end

/-! ## What an `ok` outcome says -/

/-- The file of a declared artifact has the length and digest of the manifest, in its
LF-canonical text. -/
def CanonicalMatch (rt : BundleRuntime) (dir : Directory) (spec : Json) (name : String) : Prop :=
  ∃ bytes, dir name = .file bytes ∧
    ((lfCanonicalUtf8Payload bytes).length : ℚ) = numberAt spec "byteLength" ∧
    rt.sha256Hex (lfCanonicalUtf8Payload bytes) = textAt spec "sha256"

/-- A loaded run is what its manifest says of the result and the events. -/
def AsDeclared (rt : BundleRuntime) : RunFolder → Except LoadStop CorpusRun → Prop
  | .folder dir, .ok run =>
      HasManifest rt dir run.agentRunRecord ∧
        CanonicalMatch rt dir (declaredArtifact run.agentRunRecord "workflowResult")
          workflowResultFilename ∧
        CanonicalMatch rt dir (declaredArtifact run.agentRunRecord "events") eventsFilename ∧
        textAt run.agentRunRecord "workflowId" = textAt run.workflowResult "workflowId"
  | _, .ok _ => False
  | _, .error _ => True

theorem canonicalMatch_of_vouched {rt : BundleRuntime} {dir : Directory} {spec : Json}
    {artifact : CheckedArtifact} {name : String} (h : Vouched rt dir spec artifact)
    (hname : textAt spec "relativePath" = name)
    (htext : name = workflowResultFilename ∨ name = eventsFilename) :
    CanonicalMatch rt dir spec name := by
  have hpayload := h.payload
  have hfile := h.file
  have hlength := h.length
  have hdigest := h.digest
  rw [hname] at hpayload hfile
  rw [corpusTextArtifactBytesForIntegrity, if_pos htext] at hpayload
  rw [hpayload] at hlength hdigest
  exact ⟨artifact.bytes, hfile, hlength, hdigest⟩

theorem loadFiles_ok {rt : LoaderRuntime} {runId : String} {record : Json}
    {files : CheckedArtifact × CheckedArtifact} {run : CorpusRun}
    (h : loadFiles rt runId record files = .ok run) :
    run.agentRunRecord = record ∧
      textAt record "workflowId" = textAt run.workflowResult "workflowId" := by
  obtain ⟨workflowResult, -, h⟩ := bind_eq_ok.mp h
  obtain ⟨_, hid, h⟩ := bind_eq_ok.mp h
  cases h
  unfold checkWorkflowId at hid
  split_ifs at hid with hother
  · cases hid
  · exact ⟨rfl, not_not.mp hother⟩

theorem loadCorpusRun_asDeclared (rt : LoaderRuntime) (runId : String) (folder : RunFolder) :
    AsDeclared rt.toBundleRuntime folder (loadCorpusRun rt runId folder) := by
  cases folder with
  | unreachable => trivial
  | escapes => trivial
  | folder dir =>
      cases hload : loadCorpusRun rt runId (.folder dir) with
      | error stop => trivial
      | ok run =>
          obtain ⟨record, hrecord, hrest⟩ := bind_eq_ok.mp hload
          obtain ⟨files, hfiles, hrun⟩ := bind_eq_ok.mp hrest
          obtain ⟨hsame, hid⟩ := loadFiles_ok hrun
          obtain ⟨hresult, hevents, -⟩ := checkArtifacts_ok hfiles
          have hmanifest := readManifest_ok_iff.mp hrecord
          obtain ⟨_, _, _, _, hfits⟩ := readManifest_ok_iff.mp hrecord
          obtain ⟨hresultPath, heventsPath, -⟩ := manifestFits_paths hfits
          rw [← hsame] at hid hmanifest hresult hevents hresultPath heventsPath
          exact ⟨hmanifest, canonicalMatch_of_vouched hresult hresultPath (.inl rfl),
            canonicalMatch_of_vouched hevents heventsPath (.inr rfl), hid⟩

/-! ## Verifying a signature -/

/-- The file of an artifact, in its canonical form, is what the manifest declares. -/
def SignedFile (rt : BundleRuntime) (dir : Directory) (spec : Json)
    (canonical : Bytes → Bytes) (payload : Bytes) : Prop :=
  ∃ bytes, dir (textAt spec "relativePath") = .file bytes ∧ payload = canonical bytes ∧
    (payload.length : ℚ) = numberAt spec "byteLength" ∧
    rt.sha256Hex payload = textAt spec "sha256"

/-- All checks hold up to the key, and the trusted text, the sidecar's own, is no key. -/
def UnusableKey (rt : BundleRuntime) (dir : Directory) (publicKeyFile : Except String String) :
    Prop :=
  ∃ record trustedPem events wrCanon sigFile sidecar,
    HasManifest rt dir record ∧ numberAt record "schemaVersion" = 2 ∧
    SignedFile rt dir (declaredArtifact record "events") lfCanonicalUtf8Payload events ∧
    SignedFile rt dir (declaredArtifact record "workflowResult") lfCanonicalUtf8Payload
      wrCanon ∧
    SignedFile rt dir (declaredArtifact record "workflowResultSignature") id sigFile ∧
    parseBytes sigFile = some sidecar ∧ workflowResultSignatureSchema.valid sidecar = true ∧
    textAt sidecar "signedContentSha256Hex" =
      textAt (declaredArtifact record "workflowResult") "sha256" ∧
    publicKeyFile = .ok trustedPem ∧
    normalizeSpkiPemForSidecar (textAt sidecar "signingPublicKeySpkiPem") =
      normalizeSpkiPemForSidecar trustedPem ∧
    rt.isPublicKey trustedPem = false

section

variable {rt : BundleRuntime} {dir : Directory}

theorem readSignedManifest_ok_iff {record : Json} :
    readSignedManifest rt dir = .ok record ↔
      HasManifest rt dir record ∧ numberAt record "schemaVersion" = 2 := by
  unfold readSignedManifest HasManifest
  cases hfile : dir agentRunFilename with
  | absent => exact iff_of_false nofun (by rintro ⟨⟨bytes, h, -⟩, -⟩; cases h)
  | unreadable => exact iff_of_false nofun (by rintro ⟨⟨bytes, h, -⟩, -⟩; cases h)
  | file bytes =>
      constructor
      · intro h
        dsimp only at h
        split at h
        · cases h
        · cases h
        · next parsed hnull hparse =>
            split_ifs at h with hone htext htwo hvalid
            · cases h
            · cases h
            · obtain rfl := Except.ok.inj h
              have hversion := not_not.mp htwo
              refine ⟨⟨bytes, rfl, hparse, fun hsame => hnull hsame, ?_⟩, hversion⟩
              rw [manifestFits, if_pos hversion]
              exact hvalid
            · cases h
      · rintro ⟨⟨bytes', hsame, hparse, hnull, hfits⟩, hversion⟩
        cases hsame
        have htext := manifestFits_version hfits
        rw [manifestFits, if_pos hversion] at hfits
        dsimp only
        rw [hparse]
        split
        · next h => cases h
        · next h => exact absurd (Option.some.inj h) hnull
        · next parsed _ hsame =>
            obtain rfl := Option.some.inj hsame
            rw [hversion, if_neg (by norm_num), if_neg htext, if_neg (not_not.mpr rfl),
              if_pos hfits]

theorem readSignedManifest_thrown_iff :
    readSignedManifest rt dir = .error .thrown ↔ UnreadableManifest dir := by
  unfold readSignedManifest UnreadableManifest
  cases hfile : dir agentRunFilename with
  | absent => exact iff_of_false nofun (by rintro ⟨bytes, v, h, -⟩; cases h)
  | unreadable => exact iff_of_false nofun (by rintro ⟨bytes, v, h, -⟩; cases h)
  | file bytes =>
      dsimp only
      split
      · next hparse =>
          refine iff_of_false nofun ?_
          rintro ⟨bytes', v, hsame, hv, -⟩
          cases hsame
          rw [hparse] at hv
          cases hv
      · next hparse => exact iff_of_true rfl ⟨bytes, .null, rfl, hparse, .inl rfl⟩
      · next parsed hnull hparse =>
          have hne : parsed ≠ .null := fun h => hnull h
          have hiff : (∃ bytes' v, DirEntry.file bytes = .file bytes' ∧
              parseBytes bytes' = some v ∧
                (v = .null ∨ (v.member "schemaVersion").toText = none)) ↔
              (parsed.member "schemaVersion").toText = none := by
            constructor
            · rintro ⟨bytes', v, hsame, hv, h⟩
              cases hsame
              rw [hparse] at hv
              cases hv
              exact h.resolve_left hne
            · intro h
              exact ⟨bytes, parsed, rfl, hparse, .inr h⟩
          rw [hiff]
          split_ifs with hone htext htwo hvalid
          · refine iff_of_false nofun (toText_of_numberAt ?_)
            rw [hone]
            norm_num
          · exact iff_of_true rfl htext
          · exact iff_of_false nofun htext
          · exact iff_of_false nofun htext
          · exact iff_of_false nofun htext

theorem readSignedArtifact_ok_iff {spec : Json} {canonical : Bytes → Bytes} {name : String}
    {payload : Bytes} :
    readSignedArtifact rt dir spec canonical name = .ok payload ↔
      SignedFile rt dir spec canonical payload := by
  unfold readSignedArtifact SignedFile
  cases hfile : dir (textAt spec "relativePath") with
  | absent => exact iff_of_false nofun (by rintro ⟨bytes, h, -⟩; cases h)
  | unreadable => exact iff_of_false nofun (by rintro ⟨bytes, h, -⟩; cases h)
  | file bytes =>
      dsimp only
      split_ifs with hmismatch
      · refine iff_of_false nofun ?_
        rintro ⟨bytes', hsame, rfl, hlength, hdigest⟩
        cases hsame
        exact hmismatch.elim (fun h => h hlength) fun h => h hdigest
      · obtain ⟨hlength, hdigest⟩ := not_or.mp hmismatch
        constructor
        · intro h
          obtain rfl := Except.ok.inj h
          exact ⟨bytes, rfl, rfl, not_not.mp hlength, not_not.mp hdigest⟩
        · rintro ⟨bytes', hsame, rfl, -, -⟩
          cases hsame
          rfl

theorem readSignedArtifact_not_thrown {spec : Json} {canonical : Bytes → Bytes}
    {name : String} : readSignedArtifact rt dir spec canonical name ≠ .error .thrown := by
  unfold readSignedArtifact
  split
  · exact nofun
  · exact nofun
  · split_ifs
    · exact nofun
    · exact nofun

theorem readSidecar_ok_iff {sigFile : Bytes} {sidecar : Json} :
    readSidecar sigFile = .ok sidecar ↔
      parseBytes sigFile = some sidecar ∧ workflowResultSignatureSchema.valid sidecar = true := by
  unfold readSidecar
  cases parseBytes sigFile with
  | none => exact iff_of_false nofun (by rintro ⟨h, -⟩; cases h)
  | some v =>
      dsimp only
      split_ifs with hvalid
      · constructor
        · intro h
          obtain rfl := Except.ok.inj h
          exact ⟨rfl, hvalid⟩
        · rintro ⟨h, -⟩
          obtain rfl := Option.some.inj h
          rfl
      · refine iff_of_false nofun ?_
        rintro ⟨h, hvalid'⟩
        obtain rfl := Option.some.inj h
        exact hvalid hvalid'

theorem readSidecar_not_thrown {sigFile : Bytes} : readSidecar sigFile ≠ .error .thrown := by
  unfold readSidecar
  cases parseBytes sigFile with
  | none => exact nofun
  | some v =>
      dsimp only
      split_ifs
      · exact nofun
      · exact nofun

theorem checkSignedContent_thrown_iff {wrSpec sidecar : Json} {wrCanon : Bytes}
    {publicKeyFile : Except String String} :
    checkSignedContent rt wrSpec wrCanon sidecar publicKeyFile = .error .thrown ↔
      textAt sidecar "signedContentSha256Hex" = textAt wrSpec "sha256" ∧
        ∃ trustedPem, publicKeyFile = .ok trustedPem ∧
          normalizeSpkiPemForSidecar (textAt sidecar "signingPublicKeySpkiPem") =
            normalizeSpkiPemForSidecar trustedPem ∧ rt.isPublicKey trustedPem = false := by
  unfold checkSignedContent
  split_ifs with hdigest
  · exact iff_of_false nofun fun h => hdigest h.1
  · rw [and_iff_right (not_not.mp hdigest)]
    cases publicKeyFile with
    | error message => exact iff_of_false nofun (by rintro ⟨pem, h, -⟩; cases h)
    | ok trustedPem =>
        dsimp only
        split_ifs with hpem hkey hverify
        · refine iff_of_false nofun ?_
          rintro ⟨pem, hsame, hequal, -⟩
          cases hsame
          exact hpem hequal
        · exact iff_of_true rfl ⟨trustedPem, rfl, not_not.mp hpem, hkey⟩
        · refine iff_of_false nofun ?_
          rintro ⟨pem, hsame, -, hunusable⟩
          cases hsame
          exact hkey hunusable
        · refine iff_of_false nofun ?_
          rintro ⟨pem, hsame, -, hunusable⟩
          cases hsame
          exact hkey hunusable

/-- Verifying throws for a manifest that is no object with a version, and for a trusted key
that is none. -/
theorem verifyRunBundleSignature_thrown_iff {publicKeyFile : Except String String} :
    verifyRunBundleSignature rt dir publicKeyFile = .error .thrown ↔
      UnreadableManifest dir ∨ UnusableKey rt dir publicKeyFile := by
  unfold verifyRunBundleSignature
  rw [bind_eq_error, readSignedManifest_thrown_iff]
  apply or_congr_right
  constructor
  · rintro ⟨record, hrecord, h⟩
    obtain ⟨hmanifest, hversion⟩ := readSignedManifest_ok_iff.mp hrecord
    obtain ⟨events, hevents, h⟩ :=
      (bind_eq_error.mp h).resolve_left readSignedArtifact_not_thrown
    obtain ⟨wrCanon, hresult, h⟩ :=
      (bind_eq_error.mp h).resolve_left readSignedArtifact_not_thrown
    obtain ⟨sigFile, hsig, h⟩ :=
      (bind_eq_error.mp h).resolve_left readSignedArtifact_not_thrown
    obtain ⟨sidecar, hsidecar, h⟩ := (bind_eq_error.mp h).resolve_left readSidecar_not_thrown
    obtain ⟨hparse, hvalid⟩ := readSidecar_ok_iff.mp hsidecar
    obtain ⟨hdigest, trustedPem, hkeyFile, hpem, hunusable⟩ :=
      checkSignedContent_thrown_iff.mp h
    exact ⟨record, trustedPem, events, wrCanon, sigFile, sidecar, hmanifest, hversion,
      readSignedArtifact_ok_iff.mp hevents, readSignedArtifact_ok_iff.mp hresult,
      readSignedArtifact_ok_iff.mp hsig, hparse, hvalid, hdigest, hkeyFile, hpem, hunusable⟩
  · rintro ⟨record, trustedPem, events, wrCanon, sigFile, sidecar, hmanifest, hversion, hevents,
      hresult, hsig, hparse, hvalid, hdigest, hkeyFile, hpem, hunusable⟩
    refine ⟨record, readSignedManifest_ok_iff.mpr ⟨hmanifest, hversion⟩, ?_⟩
    refine bind_eq_error.mpr (.inr ⟨events, readSignedArtifact_ok_iff.mpr hevents, ?_⟩)
    refine bind_eq_error.mpr (.inr ⟨wrCanon, readSignedArtifact_ok_iff.mpr hresult, ?_⟩)
    refine bind_eq_error.mpr (.inr ⟨sigFile, readSignedArtifact_ok_iff.mpr hsig, ?_⟩)
    refine bind_eq_error.mpr (.inr ⟨sidecar, readSidecar_ok_iff.mpr ⟨hparse, hvalid⟩, ?_⟩)
    exact checkSignedContent_thrown_iff.mpr ⟨hdigest, trustedPem, hkeyFile, hpem, hunusable⟩

end

/-- A result of the verification: it holds, or fails with a code. -/
def signatureResult (rt : BundleRuntime) (dir : Directory)
    (publicKeyFile : Except String String) : Except Unit (Option SignatureFailure) :=
  match verifyRunBundleSignature rt dir publicKeyFile with
  | .ok () => .ok none
  | .error (.fail failure) => .ok (some failure)
  | .error .thrown => .error ()

theorem signatureResult_ok_iff {rt : BundleRuntime} {dir : Directory}
    {publicKeyFile : Except String String} :
    (∃ result, signatureResult rt dir publicKeyFile = .ok result) ↔
      ¬(UnreadableManifest dir ∨ UnusableKey rt dir publicKeyFile) := by
  rw [← verifyRunBundleSignature_thrown_iff]
  unfold signatureResult
  cases verifyRunBundleSignature rt dir publicKeyFile with
  | ok _ => exact iff_of_true ⟨_, rfl⟩ nofun
  | error stop =>
      cases stop with
      | fail failure => exact iff_of_true ⟨_, rfl⟩ nofun
      | thrown => exact iff_of_false (by rintro ⟨result, h⟩; cases h) (not_not.mpr rfl)

/-- Every run of a corpus has its outcome, if and only if no run is `null` where an object
is read; what is loaded is what its manifest declares; and a signature is verified or
refused, if and only if the manifest is no such text and a key that is reached is one. -/
theorem corpusRuns_total_iff (rt : LoaderRuntime) (localeLe : String → String → Bool)
    (entries : List CorpusEntry) (folder : String → RunFolder) (dir : Directory)
    (publicKeyFile : Except String String) :
    ((∃ outcomes, loadAllCorpusRuns rt localeLe entries folder = .ok outcomes ∧
        outcomes.length = (listCorpusRunIds localeLe entries).length) ↔
      ∀ runId ∈ listCorpusRunIds localeLe entries,
        ¬CorruptRun rt.toBundleRuntime (folder runId)) ∧
    (∀ runId, AsDeclared rt.toBundleRuntime (folder runId)
      (loadCorpusRun rt runId (folder runId))) ∧
    ((∃ result, signatureResult rt.toBundleRuntime dir publicKeyFile = .ok result) ↔
      ¬(UnreadableManifest dir ∨ UnusableKey rt.toBundleRuntime dir publicKeyFile)) :=
  ⟨loadAllCorpusRuns_ok_iff, fun runId => loadCorpusRun_asDeclared rt runId (folder runId),
    signatureResult_ok_iff⟩

/-! ## A manifest that is `null` -/

/-- A runtime that takes every result. -/
def anyLoader : LoaderRuntime :=
  { unsignedRuntime with
    validateWorkflowResult _ := true
    validateWorkflowResultV9 _ := true
    normalizeToEmittedWorkflowResult result := .ok result
    dateParse _ := none }

/-- One folder with a manifest and nothing else. -/
def manifestOnly (bytes : Bytes) : RunFolder :=
  .folder fun name => if name = agentRunFilename then .file bytes else .absent

/-- The text `null` in one run hides the run beside it. -/
theorem nullManifest_hides_run :
    ¬∀ (rt : LoaderRuntime) (localeLe : String → String → Bool) (entries : List CorpusEntry)
      (folder : String → RunFolder), ∃ outcomes,
        loadAllCorpusRuns rt localeLe entries folder = .ok outcomes ∧
          outcomes.length = (listCorpusRunIds localeLe entries).length := by
  intro h
  have htotal := h anyLoader (fun _ _ => true) [⟨"run_1", true⟩, ⟨"run_2", true⟩]
    fun runId => manifestOnly (if runId = "run_1" then utf8Encode "null".toList else [])
  have hlisted : "run_1" ∈ listCorpusRunIds (fun _ _ => true)
      [⟨"run_1", true⟩, ⟨"run_2", true⟩] := by
    decide +kernel
  apply loadAllCorpusRuns_ok_iff.mp htotal "run_1" hlisted
  refine .inl ⟨utf8Encode "null".toList, .null, rfl, ?_, .inl rfl⟩
  rw [parseBytes, utf8Decode_utf8Encode]
  rfl

end AgentSkeptic.Bundle
