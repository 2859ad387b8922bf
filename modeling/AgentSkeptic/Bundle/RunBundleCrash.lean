import AgentSkeptic.Bundle.DecisionBundleCrash
import AgentSkeptic.Bundle.RunBundleSignature
import AgentSkeptic.Support.JsSafeInteger

/-!
# Failures and crashes of a run-bundle writer

Whatever a run of `writeAgentRunBundle` left behind, the loader finds the earlier run,
the new one, or an error outcome.  The manifest is replaced last, so a run that stopped
left the earlier manifest or none, and the digests of the earlier one reject the files of
the new run.
-/

namespace AgentSkeptic.Bundle

open AgentSkeptic.Support AgentSkeptic.Events

/-! ## Folders and files -/

/-- No bundle, one that loads, or one that an earlier run wrote. -/
def EarlierRunFolder (rt : RunBundleRuntime) (dir : Directory) : Prop :=
  dir agentRunFilename = .absent ∨
    (∃ runId run, loadDirectory rt.toLoaderRuntime runId dir = .ok run) ∨
    ∃ o sidecar, SizesFit rt.toBundleRuntime (recordInput rt.toWriterRuntime o sidecar) ∧
      HoldsBundle rt.toWriterRuntime o sidecar dir

theorem EarlierRunFolder.manifestVouches {rt : RunBundleRuntime} {dir : Directory}
    (h : EarlierRunFolder rt dir) : ManifestVouches rt.toBundleRuntime dir := by
  rcases h with habsent | ⟨runId, run, hrun⟩ | ⟨o, sidecar, hsizes, hdir⟩
  · exact manifestVouches_of_absent habsent
  · exact manifestVouches_of_loaded hrun
  · exact hdir.manifestVouches hsizes

/-- The files that a run replaces when it returns. -/
def newFiles (rt : WriterRuntime) (o : WriteAgentRunBundleOptions) : List Replacement :=
  match signResult rt o with
  | .error _ => []
  | .ok sidecar => bundleFiles rt o sidecar

theorem newFiles_signed {rt : WriterRuntime} {o : WriteAgentRunBundleOptions}
    {sidecar : Option Bytes} (hsign : signResult rt o = .ok sidecar) :
    newFiles rt o = bundleFiles rt o sidecar := by
  rw [newFiles, hsign]

section

variable {rt : LoaderRuntime} {runId : String} {prior dir : Directory}
  {files : List Replacement}

/-- The text of a file that is earlier, gone or new. -/
theorem Unfinished.sameText (h : Unfinished prior files dir)
    (hcollision : NoCollision rt.toBundleRuntime prior files) {name : String}
    (hname : name ∈ bundleNames) (hmanifest : name ≠ agentRunFilename) :
    SameTextIfSameDigest rt.toBundleRuntime name dir prior := by
  intro bytes earlier hbytes hearlier hdigest
  rcases h.artifact name hname hmanifest with hold | hgone | ⟨data, hmem, hnew⟩
  · rw [hold, hearlier] at hbytes
    obtain rfl := DirEntry.file.inj hbytes
    rfl
  · rw [hgone] at hbytes
    cases hbytes
  · rw [hnew] at hbytes
    obtain rfl := DirEntry.file.inj hbytes
    have hread : readFileOptional prior name = some earlier := by
      rw [readFileOptional, hearlier]
    exact ((hcollision _ hmem earlier hread).2 hdigest.symm).symm

/-- A run that stopped: the earlier manifest rejects what is not the earlier run. -/
theorem Unfinished.load (h : Unfinished prior files dir)
    (hvouches : ManifestVouches rt.toBundleRuntime prior)
    (hcollision : NoCollision rt.toBundleRuntime prior files) :
    loadDirectory rt runId dir = loadDirectory rt runId prior ∨
      IsError (loadDirectory rt runId dir) := by
  rcases h.manifest with hold | hgone
  · apply loadDirectory_same_manifest hvouches hold
    · exact h.sameText hcollision (by simp [bundleNames]) (by decide)
    · exact h.sameText hcollision (by simp [bundleNames]) (by decide)
  · right
    have hread : readManifest rt.toBundleRuntime dir =
        loadError "MISSING_AGENT_RUN_MANIFEST" "Missing agent-run.json under run folder." := by
      rw [readManifest, hgone]
    rw [loadDirectory, hread]
    exact ⟨_, rfl⟩

end

/-! ## Runs -/

section

variable {rt : WriterRuntime} {o : WriteAgentRunBundleOptions} {prior : Directory}

/-- Where a run ends: it has returned, or it is unfinished. -/
theorem run_ends (stamp : String → String) (fates : List Fate) :
    let ended := (writeAgentRunBundle rt stamp o).run ⟨prior, []⟩ fates
    (ended.1 = .ok () ∧ ∃ sidecar, signResult rt o = .ok sidecar ∧
        ∀ x ∈ bundleNames,
          ended.2.1.dir x = replaceFiles prior (bundleFiles rt o sidecar) x) ∨
      (ended.1 ≠ .ok () ∧ Unfinished prior (newFiles rt o) ended.2.1.dir) := by
  intro ended
  cases hsign : signResult rt o with
  | error message =>
      right
      have hthrows : writeAgentRunBundle rt stamp o = Faulty.throw := by
        rw [writeAgentRunBundle, hsign]
      have hended : ended = (.error .threw, ⟨prior, []⟩, fates) := by
        show (writeAgentRunBundle rt stamp o).run ⟨prior, []⟩ fates = _
        rw [hthrows]
        rfl
      rw [hended]
      exact ⟨by simp, fun x _ _ => .inl rfl, .inl rfl⟩
  | ok sidecar =>
      have hends := meets_writeAgentRunBundle stamp prior hsign ⟨prior, []⟩ fates rfl
      rw [newFiles_signed hsign]
      rcases hrun : ended with ⟨result, st, fates'⟩
      have hended : (writeAgentRunBundle rt stamp o).run ⟨prior, []⟩ fates =
          (result, st, fates') := hrun
      rw [hended] at hends
      cases result with
      | ok _ => exact .inl ⟨rfl, sidecar, rfl, hends⟩
      | error stop => exact .inr ⟨by simp, hends⟩

theorem run_atomicWriteFileSync_done (stamp finalName : String) (data : Bytes)
    (st : WriterState) (fates : List Fate) :
    ∃ st', (atomicWriteFileSync stamp finalName data).run st
      (.done :: .done :: fates) = (.ok (), st', fates) :=
  ⟨_, rfl⟩

theorem run_writeFiles_done (stamp : String → String) (files : List Replacement)
    (fates : List Fate) (st : WriterState) :
    ∃ st', (writeFiles stamp files).run st
      (List.replicate (2 * files.length) .done ++ fates) = (.ok (), st', fates) := by
  induction files generalizing st with
  | nil => exact ⟨st, rfl⟩
  | cons file files ih =>
      obtain ⟨name, data⟩ := file
      have hfates : List.replicate (2 * (files.length + 1)) Fate.done ++ fates =
          .done :: .done :: (List.replicate (2 * files.length) Fate.done ++ fates) := by
        rw [Nat.mul_succ, List.replicate_succ, List.replicate_succ]
        rfl
      obtain ⟨st₁, hwrite⟩ := run_atomicWriteFileSync_done (stamp name) name data st
        (List.replicate (2 * files.length) Fate.done ++ fates)
      obtain ⟨st₂, hrest⟩ := ih { st₁ with written := st₁.written ++ [name] }
      refine ⟨st₂, ?_⟩
      rw [List.length_cons, hfates]
      have hbind : (writeFiles stamp ((name, data) :: files)).run st =
          Faulty.bind (atomicWriteFileSync (stamp name) name data) (fun _ =>
            Faulty.bind (Faulty.note fun st => { st with written := st.written ++ [name] })
              fun _ => writeFiles stamp files) st := rfl
      rw [Faulty.run] at hwrite
      rw [hbind, Faulty.bind, hwrite]
      exact hrest

/-- A run in which nothing fails returns. -/
theorem run_returns (stamp : String → String) {sidecar : Option Bytes}
    (hsign : signResult rt o = .ok sidecar) (fates : List Fate) :
    ((writeAgentRunBundle rt stamp o).run ⟨prior, []⟩
      (.done :: (List.replicate (2 * (bundleFiles rt o sidecar).length) .done ++
        fates))).1 = .ok () := by
  obtain ⟨st, hfiles⟩ := run_writeFiles_done stamp (bundleFiles rt o sidecar) fates
    ⟨prior, []⟩
  rw [Faulty.run] at hfiles
  rw [writeAgentRunBundle, hsign]
  show (Faulty.attempt (writeFiles stamp (bundleFiles rt o sidecar)) _ ⟨prior, []⟩ _).1 = _
  unfold Faulty.attempt
  rw [hfiles]

end

/-- Whatever a run leaves loads as the earlier run, as the new one, or not.  Once the run
has returned, the folder loads as the new run exactly when the texts of the manifest are
valid and the loader accepts the result, and its signature verifies exactly when the
texts are valid. -/
theorem run_bundle_old_new_or_rejected (rt : RunBundleRuntime)
    (hhex : ∀ bytes, isSha256Hex (rt.sha256Hex bytes) = true) (stamp : String → String)
    (o : WriteAgentRunBundleOptions) (hresult : (Json.obj o.workflowResult).Decoded)
    (runId : String) (prior : Directory) (hprior : EarlierRunFolder rt prior)
    (hcollision : NoCollision rt.toBundleRuntime prior (newFiles rt.toWriterRuntime o))
    (fates : List Fate) :
    let ended := (writeAgentRunBundle rt.toWriterRuntime stamp o).run ⟨prior, []⟩ fates
    let left := loadDirectory rt.toLoaderRuntime runId ended.2.1.dir
    (left = loadDirectory rt.toLoaderRuntime runId prior ∨
        left = loadDirectory rt.toLoaderRuntime runId
          (replaceFiles prior (newFiles rt.toWriterRuntime o)) ∨
        IsError left) ∧
      (ended.1 = .ok () → ∃ sidecar, signResult rt.toWriterRuntime o = .ok sidecar ∧
        left = loadDirectory rt.toLoaderRuntime runId
          (replaceFiles prior (newFiles rt.toWriterRuntime o)) ∧
        (SizesFit rt.toBundleRuntime (recordInput rt.toWriterRuntime o sidecar) →
          (∀ run, left = .ok run ↔
            RecordTextsValid rt.toBundleRuntime
                (recordInput rt.toWriterRuntime o sidecar) ∧
              ∃ emitted, Accepts rt.toLoaderRuntime o emitted ∧
                run = writtenRun rt runId o sidecar emitted) ∧
          ∀ pem publicKey, o.ed25519PrivateKeyPem = some (.ok pem) →
            MatchingKey rt.toWriterRuntime pem publicKey →
            (verifyRunBundleSignature rt.toBundleRuntime ended.2.1.dir (.ok publicKey) =
                .ok () ↔
              RecordTextsValid rt.toBundleRuntime
                (recordInput rt.toWriterRuntime o sidecar)))) := by
  intro ended left
  rcases @run_ends rt.toWriterRuntime o prior stamp fates with
    ⟨hreturned, sidecar, hsign, hfiles⟩ | ⟨hstopped, hunfinished⟩
  · have hcomplete : left = loadDirectory rt.toLoaderRuntime runId
        (replaceFiles prior (newFiles rt.toWriterRuntime o)) := by
      rw [newFiles_signed hsign]
      exact loadDirectory_congr hfiles
    refine ⟨.inr (.inl hcomplete), fun _ => ⟨sidecar, hsign, hcomplete, ?_⟩⟩
    intro hsizes
    have hnew := holdsBundle_replaceFiles rt.toWriterRuntime o sidecar prior
    have hdir : HoldsBundle rt.toWriterRuntime o sidecar ended.2.1.dir := by
      constructor
      · rw [hfiles _ (by simp [bundleNames]), hnew.events]
      · rw [hfiles _ (by simp [bundleNames]), hnew.workflowResult]
      · intro bytes hbytes
        rw [hfiles _ (by simp [bundleNames]), hnew.signature bytes hbytes]
      · rw [hfiles _ (by simp [bundleNames]), hnew.manifest]
    constructor
    · exact loadDirectory_written_iff hhex hsizes hresult hdir
    · intro pem publicKey hkey hpair
      exact verifyRunBundleSignature_written_iff hhex hkey hpair hsign hsizes hdir
  · constructor
    · rcases @Unfinished.load rt.toLoaderRuntime runId _ _ _ hunfinished
        hprior.manifestVouches hcollision with hold | herror
      · exact .inl hold
      · exact .inr (.inr herror)
    · intro hreturned
      exact absurd hreturned hstopped

/-! ## Sizes -/

theorem length_utf8Encode_le (text : List Char) :
    (utf8Encode text).length ≤ 4 * text.length := by
  induction text with
  | nil => simp [utf8Encode]
  | cons c text ih =>
      have hc : (String.utf8EncodeChar c).length ≤ 4 := by
        rw [String.length_utf8EncodeChar]
        exact c.utf8Size_le_four
      rw [utf8Encode] at ih ⊢
      rw [List.flatMap_cons, List.length_append, List.length_cons]
      omega

theorem length_lfCanonical_le (text : List Char) :
    (lfCanonical text).length ≤ text.length := by
  induction text using lfCanonical.induct with
  | case1 => exact le_refl _
  | case2 rest ih =>
      simp only [lfCanonical, List.length_cons]
      omega
  | case3 c rest hbreak ih =>
      simp only [lfCanonical, List.length_cons]
      omega

/-- The bytes of a result are at most four for each character. -/
theorem workflowResult_size {o : WriteAgentRunBundleOptions}
    (hlength : (Json.obj o.workflowResult).stringify.toList.length < 2 ^ 51) :
    (lfCanonicalUtf8Payload (workflowResultBytes o)).length < 2 ^ 53 := by
  rw [lfCanonicalUtf8Payload, workflowResultBytes, utf8Decode_utf8Encode]
  have hencoded := length_utf8Encode_le
    (lfCanonical (Json.obj o.workflowResult).stringify.toList)
  have hcanonical := length_lfCanonical_le (Json.obj o.workflowResult).stringify.toList
  omega

theorem sizesFit_unsigned {rt : RunBundleRuntime} {o : WriteAgentRunBundleOptions}
    (hresult : (lfCanonicalUtf8Payload (workflowResultBytes o)).length < 2 ^ 53)
    (hevents : (lfCanonicalUtf8Payload o.eventsNdjson).length < 2 ^ 53) :
    SizesFit rt.toBundleRuntime (recordInput rt.toWriterRuntime o none) := by
  intro a ha
  simp only [recordArtifacts, recordInput, Option.toList, List.map_nil, List.append_nil,
    List.mem_cons, List.not_mem_nil, or_false] at ha
  rcases ha with rfl | rfl
  · exact hresult
  · exact hevents

/-! ## A result without steps -/

/-- The emitted result of a run without any step. -/
def noStepsResult (workflowId : String) : List (String × Json) :=
  [("workflowId", .str workflowId), ("status", .str "complete"), ("runLevelReasons", .arr []),
    ("verificationPolicy", .obj [("consistencyMode", .str "strong"),
      ("verificationWindowMs", numberJson 0), ("pollIntervalMs", numberJson 0)]),
    ("eventSequenceIntegrity", .obj [("kind", .str "normal")]), ("steps", .arr []),
    ("schemaVersion", numberJson 15),
    ("verificationRunContext", .obj [("maxWireSchemaVersion", numberJson 2),
      ("retrievalEvents", .arr []), ("controlEvents", .arr []),
      ("modelTurnEvents", .arr []), ("toolSkippedEvents", .arr []),
      ("toolObservedIngestIndexBySeq", .obj []), ("firstToolObservedIngestIndex", .null),
      ("hasRunCompletedControl", .bool false), ("lastRunEvent", .null)]),
    ("workflowTruthReport", .obj [("schemaVersion", numberJson 9),
      ("workflowId", .str workflowId), ("workflowStatus", .str "complete"),
      ("trustSummary", .str "TRUSTED"), ("runLevelIssues", .arr []),
      ("eventSequence", .obj [("kind", .str "normal")]), ("steps", .arr []),
      ("failureAnalysis", .null), ("executionPathFindings", .arr []),
      ("executionPathSummary", .str ""), ("failureExplanation", .null),
      ("correctnessDefinition", .null)])]

theorem noStepsResult_decoded (workflowId : String) :
    (Json.obj (noStepsResult workflowId)).Decoded := by
  have hnumber : ∀ n ∈ [0, 2, 9, 15], (numberJson n).Decoded := by
    intro n hn _
    simp only [List.mem_cons, List.not_mem_nil, or_false] at hn
    rcases hn with rfl | rfl | rfl | rfl
    all_goals exact JsNumber.readable_safeInteger (by norm_num)
  have h0 := hnumber 0 (by simp)
  have h2 := hnumber 2 (by simp)
  have h9 := hnumber 9 (by simp)
  have h15 := hnumber 15 (by simp)
  simp [noStepsResult, h0, h2, h9, h15, Json.Decoded, Json.DecodedMembers,
    Json.DecodedItems]

/-- SHA-256 on the files of the run without steps. -/
def noStepsRuntime : RunBundleRuntime :=
  { letterRuntime with
    validateWorkflowResult result := numberAt result "schemaVersion" = 15
    validateWorkflowResultV9 _ := false
    normalizeToEmittedWorkflowResult result := .ok result
    dateParse text := if text = "2026-01-05T00:00:00Z" then some 1767571200000 else none }

def noStepsOptions (workflowId : String) : WriteAgentRunBundleOptions where
  runId := "run_1"
  eventsNdjson := []
  workflowResult := noStepsResult workflowId
  producer := none
  verifiedAt := none
  ed25519PrivateKeyPem := none

theorem noSteps_length {workflowId : String} (hid : workflowId = "" ∨ workflowId = "wf_1") :
    (Json.obj (noStepsResult workflowId)).stringify.toList.length < 2 ^ 51 := by
  rw [← render_nil_gap 0]
  rcases hid with rfl | rfl
  · decide +kernel
  · decide +kernel

theorem noSteps_sizesFit {workflowId : String} (hid : workflowId = "" ∨ workflowId = "wf_1") :
    SizesFit noStepsRuntime.toBundleRuntime
      (recordInput noStepsRuntime.toWriterRuntime (noStepsOptions workflowId) none) := by
  have hevents : (lfCanonicalUtf8Payload []).length < 2 ^ 53 := by decide +kernel
  exact sizesFit_unsigned (workflowResult_size (noSteps_length hid)) hevents

theorem noSteps_accepted :
    Accepts noStepsRuntime.toLoaderRuntime (noStepsOptions "wf_1")
      (Json.obj (noStepsResult "wf_1")).reread := by
  have hcodes : isV9RunLevelCodesInconsistent (Json.obj (noStepsResult "wf_1")).reread =
      false := by decide +kernel
  have hversion : numberAt (Json.obj (noStepsResult "wf_1")).reread "schemaVersion" = 15 := by
    decide +kernel
  constructor
  · show acceptWorkflowResult noStepsRuntime.toLoaderRuntime
      (Json.obj (noStepsResult "wf_1")).reread = _
    rw [Json.reread] at hcodes hversion ⊢
    simp [acceptWorkflowResult, hcodes, hversion, noStepsRuntime]
  · show textAt (Json.obj (noStepsResult "wf_1")).reread "workflowId" =
      textAt (.obj (noStepsResult "wf_1")) "workflowId"
    decide +kernel

theorem noSteps_returns (workflowId : String) :
    ((writeAgentRunBundle noStepsRuntime.toWriterRuntime (fun _ => "42.0")
      (noStepsOptions workflowId)).run ⟨fun _ => .absent, []⟩
      (List.replicate 7 .done)).1 = .ok () := by
  have hsign : signResult noStepsRuntime.toWriterRuntime (noStepsOptions workflowId) =
      .ok none := rfl
  exact run_returns (fun _ => "42.0") hsign []

theorem run_bundle_old_new_or_rejected_noSteps :
    ∃ run, loadDirectory noStepsRuntime.toLoaderRuntime "run_1"
      ((writeAgentRunBundle noStepsRuntime.toWriterRuntime (fun _ => "42.0")
        (noStepsOptions "wf_1")).run ⟨fun _ => .absent, []⟩
        (List.replicate 7 .done)).2.1.dir = .ok run := by
  have hcollision : NoCollision noStepsRuntime.toBundleRuntime (fun _ => .absent)
      (newFiles noStepsRuntime.toWriterRuntime (noStepsOptions "wf_1")) := by
    intro r _ earlier hread
    cases hread
  obtain ⟨-, hreturned⟩ := run_bundle_old_new_or_rejected noStepsRuntime letterRuntime_hex
    (fun _ => "42.0") (noStepsOptions "wf_1") (noStepsResult_decoded "wf_1") "run_1"
    (fun _ => .absent) (.inl rfl) hcollision (List.replicate 7 .done)
  obtain ⟨sidecar, hsign, -, hloads⟩ := hreturned (noSteps_returns "wf_1")
  obtain rfl := Except.ok.inj hsign
  obtain ⟨hload, -⟩ := hloads (noSteps_sizesFit (.inr rfl))
  refine ⟨_, (hload _).mpr ⟨?_, _, noSteps_accepted, rfl⟩⟩
  exact ⟨by decide, by decide, by decide, by decide, by decide, by simp [recordInput]⟩

/-- A result may have the empty text as its workflow, and a manifest may not. -/
theorem run_without_workflow_not_loaded :
    ((writeAgentRunBundle noStepsRuntime.toWriterRuntime (fun _ => "42.0")
        (noStepsOptions "")).run ⟨fun _ => .absent, []⟩
        (List.replicate 7 .done)).1 = .ok () ∧
      ∀ run, loadDirectory noStepsRuntime.toLoaderRuntime "run_1"
        ((writeAgentRunBundle noStepsRuntime.toWriterRuntime (fun _ => "42.0")
          (noStepsOptions "")).run ⟨fun _ => .absent, []⟩
          (List.replicate 7 .done)).2.1.dir ≠ .ok run := by
  refine ⟨noSteps_returns "", ?_⟩
  intro run hrun
  rcases @run_ends noStepsRuntime.toWriterRuntime (noStepsOptions "") (fun _ => .absent)
    (fun _ => "42.0") (List.replicate 7 .done) with ⟨-, sidecar, hsign, hfiles⟩ | ⟨hstopped, -⟩
  · obtain rfl := Except.ok.inj hsign
    have hnew := holdsBundle_replaceFiles noStepsRuntime.toWriterRuntime (noStepsOptions "")
      none (fun _ => .absent)
    rw [loadDirectory_congr hfiles] at hrun
    have hiff := @loadDirectory_written_iff noStepsRuntime letterRuntime_hex "run_1"
      (noStepsOptions "") none _ (noSteps_sizesFit (.inl rfl))
      (noStepsResult_decoded "") hnew run
    exact (hiff.mp hrun).1.workflowId rfl
  · exact hstopped (noSteps_returns "")

end AgentSkeptic.Bundle
