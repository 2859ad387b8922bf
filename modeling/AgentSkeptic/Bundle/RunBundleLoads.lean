import AgentSkeptic.Bundle.AgentRunBundle

/-!
# Loading what was written

A folder with all files of a run loads as this run exactly when the texts of its
manifest are valid and the loader accepts its result, and the signature verifies exactly
when the texts are valid: the writer checks neither (`loadDirectory_written_iff`,
`verifyRunBundleSignature_written_iff`).
-/

namespace AgentSkeptic.Bundle

open AgentSkeptic.Support AgentSkeptic.Events

/-- The writer's runtime and the loader's share their hashes and formats. -/
structure RunBundleRuntime extends WriterRuntime, LoaderRuntime

/-! ## The files of a run -/

/-- The folder holds the files of a run. -/
structure HoldsBundle (rt : WriterRuntime) (o : WriteAgentRunBundleOptions)
    (sidecar : Option Bytes) (dir : Directory) : Prop where
  events : dir eventsFilename = .file o.eventsNdjson
  workflowResult : dir workflowResultFilename = .file (workflowResultBytes o)
  signature : ∀ bytes, sidecar = some bytes → dir workflowResultSigFilename = .file bytes
  manifest : dir agentRunFilename = .file (agentRunBytes rt o sidecar)

theorem holdsBundle_replaceFiles (rt : WriterRuntime) (o : WriteAgentRunBundleOptions)
    (sidecar : Option Bytes) (prior : Directory) :
    HoldsBundle rt o sidecar (replaceFiles prior (bundleFiles rt o sidecar)) := by
  obtain ⟨artifacts, hfiles⟩ := bundleFiles_spec rt o sidecar
  have hnamed : ∀ name data, (name, data) ∈ bundleFiles rt o sidecar →
      replaceFiles prior (bundleFiles rt o sidecar) name = .file data :=
    fun name data hmem => replaceFiles_named hfiles.nodup hmem prior
  refine ⟨hnamed _ _ ?_, hnamed _ _ ?_, fun bytes hbytes => hnamed _ _ ?_, hnamed _ _ ?_⟩
  · simp [bundleFiles]
  · simp [bundleFiles]
  · simp [bundleFiles, hbytes]
  · simp [bundleFiles]

section

variable {rt : WriterRuntime} {o : WriteAgentRunBundleOptions} {sidecar : Option Bytes}
  {dir : Directory}

/-- The manifest of a run, as it is read back. -/
theorem parseBytes_agentRunBytes
    (hsizes : SizesFit rt.toBundleRuntime (recordInput rt o sidecar)) :
    parseBytes (agentRunBytes rt o sidecar) =
      some (buildAgentRunRecordForBundle rt.toBundleRuntime (recordInput rt o sidecar)) := by
  rw [parseBytes, agentRunBytes, utf8Decode_utf8Encode]
  exact parseJson_render (forall_mem_of_all (by decide)) (forall_mem_of_all (by decide))
    (buildAgentRunRecord_wellFormed hsizes)

theorem manifestFits_built_iff (hhex : ∀ bytes, isSha256Hex (rt.sha256Hex bytes) = true) :
    manifestFits rt.toBundleRuntime
        (buildAgentRunRecordForBundle rt.toBundleRuntime (recordInput rt o sidecar)) = true ↔
      RecordTextsValid rt.toBundleRuntime (recordInput rt o sidecar) := by
  rw [← agentRunRecord_valid_iff hhex, builtSchema_eq, manifestFits, record_schemaVersion,
    recordVersion]
  cases sidecar with
  | none => simp [recordInput]
  | some bytes => simp [recordInput]

/-- The manifest of the folder is that of the run, or not valid. -/
theorem HoldsBundle.readManifest (h : HoldsBundle rt o sidecar dir)
    (hsizes : SizesFit rt.toBundleRuntime (recordInput rt o sidecar)) :
    Bundle.readManifest rt.toBundleRuntime dir =
      if manifestFits rt.toBundleRuntime (buildAgentRunRecordForBundle rt.toBundleRuntime
          (recordInput rt o sidecar)) = true then
        .ok (buildAgentRunRecordForBundle rt.toBundleRuntime (recordInput rt o sidecar))
      else
        loadError "AGENT_RUN_INVALID" "agent-run.json failed agent-run-record schema validation." := by
  rw [Bundle.readManifest, h.manifest]
  dsimp only
  rw [parseBytes_agentRunBytes hsizes]
  rfl

theorem vouched_artifactSpec {name relativePath : String} {bytes digestBytes : Bytes}
    {record : Json} (hfile : dir relativePath = .file bytes)
    (hspec : declaredArtifact record name =
      (artifactSpec rt.toBundleRuntime relativePath digestBytes).json)
    (hdigest : digestBytes = corpusTextArtifactBytesForIntegrity relativePath bytes) :
    Vouched rt.toBundleRuntime dir (declaredArtifact record name) ⟨bytes, digestBytes⟩ := by
  obtain ⟨hpath, hsha, hlength⟩ :=
    artifactSpec_declared rt.toBundleRuntime relativePath digestBytes
  rw [hspec]
  refine ⟨?_, ?_, ?_, ?_⟩
  · rw [hpath, hfile]
  · rw [hpath, hdigest]
  · rw [hlength]
  · rw [hsha]

/-- The manifest vouches for the files of the run. -/
theorem HoldsBundle.checkArtifacts (h : HoldsBundle rt o sidecar dir) :
    Bundle.checkArtifacts rt.toBundleRuntime dir
        (buildAgentRunRecordForBundle rt.toBundleRuntime (recordInput rt o sidecar)) =
      .ok (⟨workflowResultBytes o, lfCanonicalUtf8Payload (workflowResultBytes o)⟩,
        ⟨o.eventsNdjson, lfCanonicalUtf8Payload o.eventsNdjson⟩) := by
  have hresult : checkWorkflowResult rt.toBundleRuntime dir
      (buildAgentRunRecordForBundle rt.toBundleRuntime (recordInput rt o sidecar)) =
      .ok ⟨workflowResultBytes o, lfCanonicalUtf8Payload (workflowResultBytes o)⟩ := by
    apply checkArtifact_ok_iff.mpr
    apply vouched_artifactSpec h.workflowResult
      (record_declaredArtifact (by simp [recordArtifacts]; rfl))
    rw [corpusTextArtifactBytesForIntegrity, if_pos (.inl rfl)]
  have hevents : checkEvents rt.toBundleRuntime dir
      (buildAgentRunRecordForBundle rt.toBundleRuntime (recordInput rt o sidecar)) =
      .ok ⟨o.eventsNdjson, lfCanonicalUtf8Payload o.eventsNdjson⟩ := by
    apply checkArtifact_ok_iff.mpr
    apply vouched_artifactSpec h.events
      (record_declaredArtifact (by simp [recordArtifacts]; rfl))
    rw [corpusTextArtifactBytesForIntegrity, if_pos (.inr rfl)]
  have hsidecar : checkSidecar rt.toBundleRuntime dir
      (buildAgentRunRecordForBundle rt.toBundleRuntime (recordInput rt o sidecar)) =
      .ok () := by
    rw [checkSidecar, record_schemaVersion, recordVersion]
    cases sidecar with
    | none => simp [recordInput]
    | some bytes =>
        have hchecked : checkArtifact rt.toBundleRuntime dir
            (declaredArtifact (buildAgentRunRecordForBundle rt.toBundleRuntime
              (recordInput rt o (some bytes))) "workflowResultSignature")
            "MISSING_WORKFLOW_RESULT_SIGNATURE" workflowResultSigFilename =
            .ok ⟨bytes, bytes⟩ := by
          apply checkArtifact_ok_iff.mpr
          apply vouched_artifactSpec (h.signature bytes rfl)
            (record_declaredArtifact (by simp [recordArtifacts, recordInput]))
          rw [corpusTextArtifactBytesForIntegrity, if_neg (by decide)]
        rw [hchecked]
        rfl
  unfold Bundle.checkArtifacts
  rw [hresult, hevents]
  dsimp only [bind, Except.bind]
  rw [hsidecar]
  rfl

end

/-! ## Loading the run -/

/-- The run that the files of a bundle make, from the result that the loader emits. -/
def writtenRun (rt : RunBundleRuntime) (runId : String) (o : WriteAgentRunBundleOptions)
    (sidecar : Option Bytes) (emitted : Json) : CorpusRun :=
  let record := buildAgentRunRecordForBundle rt.toBundleRuntime
    (recordInput rt.toWriterRuntime o sidecar)
  { runId
    workflowResult := emitted
    customerId := metaText record "customerId"
    capturedAt := metaText record "capturedAt"
    agentRunRecord := record
    capturedAtEffectiveMs := capturedAtEffectiveMs rt.toLoaderRuntime record
    malformedEventLineCount := (loadText rt.dateParse (textAt emitted "workflowId")
      (utf8Decode o.eventsNdjson)).malformedEventLineCount }

/-- The loader accepts the saved result, and finds its workflow in it. -/
def Accepts (rt : LoaderRuntime) (o : WriteAgentRunBundleOptions) (emitted : Json) : Prop :=
  acceptWorkflowResult rt (Json.obj o.workflowResult).reread = .ok emitted ∧
    textAt emitted "workflowId" = textAt (.obj o.workflowResult) "workflowId"

theorem readWorkflowResult_written {rt : LoaderRuntime} {o : WriteAgentRunBundleOptions}
    (hresult : (Json.obj o.workflowResult).Decoded) :
    readWorkflowResult rt (lfCanonicalUtf8Payload (workflowResultBytes o)) =
      acceptWorkflowResult rt (Json.obj o.workflowResult).reread := by
  have hparse := parseJson_lfCanonical (parseJson_stringify_decoded hresult)
  rw [readWorkflowResult, parseBytes, lfCanonicalUtf8Payload, utf8Decode_utf8Encode,
    workflowResultBytes, utf8Decode_utf8Encode, hparse]

theorem loadFiles_written {rt : RunBundleRuntime} {runId : String}
    {o : WriteAgentRunBundleOptions} {sidecar : Option Bytes}
    (hresult : (Json.obj o.workflowResult).Decoded) (run : CorpusRun) :
    loadFiles rt.toLoaderRuntime runId
        (buildAgentRunRecordForBundle rt.toBundleRuntime
          (recordInput rt.toWriterRuntime o sidecar))
        (⟨workflowResultBytes o, lfCanonicalUtf8Payload (workflowResultBytes o)⟩,
          ⟨o.eventsNdjson, lfCanonicalUtf8Payload o.eventsNdjson⟩) = .ok run ↔
      ∃ emitted, Accepts rt.toLoaderRuntime o emitted ∧
        run = writtenRun rt runId o sidecar emitted := by
  unfold loadFiles
  rw [readWorkflowResult_written hresult]
  constructor
  · intro h
    obtain ⟨emitted, hemitted, h⟩ := bind_eq_ok.mp h
    obtain ⟨_, hworkflow, h⟩ := bind_eq_ok.mp h
    unfold checkWorkflowId at hworkflow
    split_ifs at hworkflow with hne
    · cases hworkflow
    · rw [record_workflowId] at hne
      obtain rfl := Except.ok.inj h
      exact ⟨emitted, ⟨hemitted, (not_not.mp hne).symm⟩, rfl⟩
  · rintro ⟨emitted, ⟨hemitted, hworkflow⟩, rfl⟩
    have hsame : checkWorkflowId (buildAgentRunRecordForBundle rt.toBundleRuntime
        (recordInput rt.toWriterRuntime o sidecar)) emitted = .ok () := by
      rw [checkWorkflowId, record_workflowId, hworkflow]
      exact if_neg (not_not.mpr rfl)
    rw [hemitted]
    dsimp only [bind, Except.bind]
    rw [hsame]
    rfl

/-- When a folder with the files of a run loads, and as what. -/
theorem loadDirectory_written_iff {rt : RunBundleRuntime}
    (hhex : ∀ bytes, isSha256Hex (rt.sha256Hex bytes) = true) {runId : String}
    {o : WriteAgentRunBundleOptions} {sidecar : Option Bytes} {dir : Directory}
    (hsizes : SizesFit rt.toBundleRuntime (recordInput rt.toWriterRuntime o sidecar))
    (hresult : (Json.obj o.workflowResult).Decoded)
    (hdir : HoldsBundle rt.toWriterRuntime o sidecar dir) (run : CorpusRun) :
    loadDirectory rt.toLoaderRuntime runId dir = .ok run ↔
      RecordTextsValid rt.toBundleRuntime (recordInput rt.toWriterRuntime o sidecar) ∧
        ∃ emitted, Accepts rt.toLoaderRuntime o emitted ∧
          run = writtenRun rt runId o sidecar emitted := by
  rw [← manifestFits_built_iff hhex, loadDirectory]
  by_cases hfits : manifestFits rt.toBundleRuntime (buildAgentRunRecordForBundle
      rt.toBundleRuntime (recordInput rt.toWriterRuntime o sidecar)) = true
  · have hread := hdir.readManifest hsizes
    rw [if_pos hfits] at hread
    rw [hread]
    dsimp only [bind, Except.bind]
    rw [hdir.checkArtifacts]
    rw [← @loadFiles_written rt runId o sidecar hresult run]
    simp [hfits]
  · have hread := hdir.readManifest hsizes
    rw [if_neg hfits] at hread
    rw [hread]
    constructor
    · intro h
      cases h
    · rintro ⟨h, -⟩
      exact absurd h hfits

/-! ## Bundles vouch for their files -/

theorem manifestVouches_of_absent {rt : BundleRuntime} {dir : Directory}
    (h : dir agentRunFilename = .absent) : ManifestVouches rt dir := by
  have hread : readManifest rt dir =
      loadError "MISSING_AGENT_RUN_MANIFEST" "Missing agent-run.json under run folder." := by
    rw [readManifest, h]
  constructor
  · intro record hrecord
    rw [hread] at hrecord
    cases hrecord
  · rw [hread]
    simp [loadError]

theorem manifestVouches_of_loaded {rt : LoaderRuntime} {runId : String} {dir : Directory}
    {run : CorpusRun} (h : loadDirectory rt runId dir = .ok run) :
    ManifestVouches rt.toBundleRuntime dir := by
  obtain ⟨record, hrecord, h⟩ := bind_eq_ok.mp h
  obtain ⟨files, hfiles, -⟩ := bind_eq_ok.mp h
  constructor
  · intro record' hrecord'
    obtain rfl := Except.ok.inj (hrecord.symm.trans hrecord')
    exact ⟨files, hfiles⟩
  · rw [hrecord]
    simp

/-- What an earlier run wrote. -/
theorem HoldsBundle.manifestVouches {rt : WriterRuntime} {o : WriteAgentRunBundleOptions}
    {sidecar : Option Bytes} {dir : Directory} (h : HoldsBundle rt o sidecar dir)
    (hsizes : SizesFit rt.toBundleRuntime (recordInput rt o sidecar)) :
    ManifestVouches rt.toBundleRuntime dir := by
  have hread := h.readManifest hsizes
  constructor
  · intro record hrecord
    rw [hread] at hrecord
    split_ifs at hrecord
    · obtain rfl := Except.ok.inj hrecord
      exact ⟨_, h.checkArtifacts⟩
    · cases hrecord
  · rw [hread]
    split_ifs
    · simp
    · simp [loadError]

end AgentSkeptic.Bundle
