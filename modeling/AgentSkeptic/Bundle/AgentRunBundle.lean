import AgentSkeptic.Bundle.CorpusRun
import AgentSkeptic.Support.FaultyOps

/-!
# Writing a run bundle

`agentRunBundle.ts`: the files are replaced one after the other, the manifest last.
Every file operation may fail, or be the last one before the process dies.  A signed run
that fails removes what it has replaced.

Whatever happens, each file is the earlier one, the new one or gone, and the manifest is
new only next to the other new files (`Mixed`).  So the folder loads as before, as the
new run, or not at all (`run_bundle_old_new_or_rejected`).
-/

namespace AgentSkeptic.Bundle

open AgentSkeptic.Support AgentSkeptic.Events

structure WriteAgentRunBundleOptions where
  /-- `path.basename(resolved)`. -/
  runId : String
  eventsNdjson : Bytes
  /-- The members of the result. -/
  workflowResult : List (String × Json)
  producer : Option (String × String)
  verifiedAt : Option String
  /-- What reading the key file yields, where a path is given. -/
  ed25519PrivateKeyPem : Option (Except String String)

/-- The folder, and the names that the run has noted as replaced. -/
structure WriterState where
  dir : Directory
  written : List String

abbrev Writer := Faulty WriterState

/-! ## File operations -/

namespace Writer

def setFile (name : String) (entry : DirEntry) (st : WriterState) : WriterState :=
  { st with dir := fun other => if other = name then entry else st.dir other }

/-- A write that fails may leave a part of the bytes. -/
def writeFileSync (name : String) (data : Bytes) : Writer Unit :=
  Faulty.op (setFile name (.file data)) fun n => setFile name (.file (data.take n))

def renameSync (source target : String) : Writer Unit :=
  Faulty.op (fun st => setFile source .absent (setFile target (st.dir source) st))
    fun _ st => st

def unlinkSync (name : String) : Writer Unit :=
  Faulty.op (setFile name .absent) fun _ st => st

def existsSync (name : String) : Writer Bool :=
  Faulty.look fun st => existsArtifact st.dir name

end Writer

open Writer

/-- `${finalName}.${process.pid}.${Date.now()}.tmp`. -/
def tmpName (stamp finalName : String) : String := finalName ++ "." ++ stamp ++ ".tmp"

/-- Where a rename over an existing file fails, the file is removed first. -/
def renameOver (source target : String) : Writer Unit :=
  Faulty.attempt (renameSync source target) do
    if ← existsSync target then
      unlinkSync target
      renameSync source target
    else Faulty.throw

/-- `if (existsSync(p)) try { unlinkSync(p) } catch { /* ignore */ }`. -/
def unlinkIgnored (name : String) : Writer Unit := do
  if ← existsSync name then
    Faulty.attempt (unlinkSync name) (pure ())

def atomicWriteFileSync (stamp finalName : String) (data : Bytes) : Writer Unit := do
  writeFileSync (tmpName stamp finalName) data
  Faulty.attempt (renameOver (tmpName stamp finalName) finalName) do
    unlinkIgnored (tmpName stamp finalName)
    Faulty.throw

def rollbackSignedFinals : List String → Writer Unit
  | [] => pure ()
  | name :: names => do
      unlinkIgnored name
      rollbackSignedFinals names

/-! ## The run -/

section

variable (rt : WriterRuntime)

def workflowResultBytes (o : WriteAgentRunBundleOptions) : Bytes :=
  utf8Encode (Json.obj o.workflowResult).stringify.toList

def recordInput (o : WriteAgentRunBundleOptions) (sidecar : Option Bytes) :
    BuildAgentRunRecordInput where
  runId := o.runId
  workflowId := textAt (.obj o.workflowResult) "workflowId"
  producer := o.producer.getD rt.packageIdentity
  verifiedAt := o.verifiedAt.getD rt.now
  workflowResultBytes := workflowResultBytes o
  eventsBytes := o.eventsNdjson
  workflowResultSignatureBytes := sidecar
  customerId := none
  capturedAt := none

/-- `JSON.stringify(record, null, 2)` and a line break. -/
def agentRunBytes (o : WriteAgentRunBundleOptions) (sidecar : Option Bytes) : Bytes :=
  utf8Encode ((buildAgentRunRecordForBundle rt.toBundleRuntime
    (recordInput rt o sidecar)).render [' ', ' '] 0 ++ ['\n'])

/-- The sidecar, if the run is to be signed. -/
def signResult (o : WriteAgentRunBundleOptions) : Except String (Option Bytes) :=
  match o.ed25519PrivateKeyPem with
  | none => .ok none
  | some (.error message) => .error message
  | some (.ok pem) =>
      match signCanonicalBytesEd25519 rt (workflowResultBytes o) pem with
      | .error failure => .error failure.code
      | .ok sidecar => .ok (some sidecar)

/-- The files in the order in which they are replaced. -/
def bundleFiles (o : WriteAgentRunBundleOptions) (sidecar : Option Bytes) :
    List Replacement :=
  [(eventsFilename, o.eventsNdjson), (workflowResultFilename, workflowResultBytes o)] ++
    (sidecar.toList.map fun bytes => (workflowResultSigFilename, bytes)) ++
    [(agentRunFilename, agentRunBytes rt o sidecar)]

/-- `stamp` holds the process id and the time of each write. -/
def writeFiles (stamp : String → String) : List Replacement → Writer Unit
  | [] => pure ()
  | (name, data) :: files => do
      atomicWriteFileSync (stamp name) name data
      Faulty.note fun st => { st with written := st.written ++ [name] }
      writeFiles stamp files

/-- Only a signed run removes what it has replaced, the last file first. -/
def rollback (signed : Bool) : Writer Unit :=
  if signed then do
    let written ← Faulty.look fun st => st.written
    rollbackSignedFinals written.reverse
  else pure ()

def writeAgentRunBundle (stamp : String → String) (o : WriteAgentRunBundleOptions) :
    Writer Unit :=
  match signResult rt o with
  | .error _ => Faulty.throw
  | .ok sidecar => do
      -- the folder is made; that leaves its files as they are
      Faulty.op id fun _ st => st
      Faulty.attempt (writeFiles stamp (bundleFiles rt o sidecar)) do
        rollback sidecar.isSome
        Faulty.throw

end

/-! ## What one replacement leaves -/

theorem tmpName_ne {stamp finalName name : String} (hname : name ∈ bundleNames) :
    tmpName stamp finalName ≠ name := by
  intro h
  have hlast : (tmpName stamp finalName).toList.getLast? = some 'p' := by
    rw [tmpName, String.toList_append, List.getLast?_append]
    rfl
  rw [h] at hlast
  simp only [bundleNames, List.mem_cons, List.not_mem_nil, or_false] at hname
  rcases hname with rfl | rfl | rfl | rfl
  all_goals exact absurd hlast (by decide)

/-- The file stands as before or is gone; another one may have changed under `tmp`. -/
structure KeptOrGone (st₀ : WriterState) (name tmp : String) (st : WriterState) : Prop where
  written : st.written = st₀.written
  file : st.dir name = st₀.dir name ∨ st.dir name = .absent
  other : ∀ x, x ≠ name → x ≠ tmp → st.dir x = st₀.dir x

/-- The new bytes stand under `tmp`. -/
structure TmpWritten (st₀ : WriterState) (name tmp : String) (data : Bytes)
    (st : WriterState) : Prop extends KeptOrGone st₀ name tmp st where
  tmpFile : st.dir tmp = .file data

structure Replaced (st₀ : WriterState) (name tmp : String) (data : Bytes)
    (st : WriterState) : Prop where
  written : st.written = st₀.written
  file : st.dir name = .file data
  other : ∀ x, x ≠ name → x ≠ tmp → st.dir x = st₀.dir x

section

variable {st₀ : WriterState} {name tmp : String} {data : Bytes}

theorem setFile_tmp {st : WriterState} {entry : DirEntry} (hne : tmp ≠ name)
    (h : KeptOrGone st₀ name tmp st) : KeptOrGone st₀ name tmp (setFile tmp entry st) where
  written := h.written
  file := by
    have hsame : (setFile tmp entry st).dir name = st.dir name := if_neg hne.symm
    rw [hsame]
    exact h.file
  other x hx hxtmp := by
    have hsame : (setFile tmp entry st).dir x = st.dir x := if_neg hxtmp
    rw [hsame]
    exact h.other x hx hxtmp

theorem meets_writeFileSync (hne : tmp ≠ name) :
    Faulty.Meets (KeptOrGone st₀ name tmp) (writeFileSync tmp data)
      (fun _ => TmpWritten st₀ name tmp data) (fun _ => KeptOrGone st₀ name tmp) := by
  apply Faulty.Meets.op
  · intro st hst
    exact ⟨setFile_tmp hne hst, if_pos rfl⟩
  · intro st n stop hst
    exact setFile_tmp hne hst
  · intro st hst
    exact hst

/-- Once the rename succeeds, the file is replaced. -/
theorem meets_renameSync (hne : tmp ≠ name) :
    Faulty.Meets (TmpWritten st₀ name tmp data) (renameSync tmp name)
      (fun _ => Replaced st₀ name tmp data) (fun _ => TmpWritten st₀ name tmp data) := by
  apply Faulty.Meets.op
  · intro st hst
    refine ⟨hst.written, ?_, ?_⟩
    · have hfile : (setFile tmp .absent (setFile name (st.dir tmp) st)).dir name =
          st.dir tmp := by
        simp [setFile, hne.symm]
      rw [hfile, hst.tmpFile]
    · intro x hx hxtmp
      have hsame : (setFile tmp .absent (setFile name (st.dir tmp) st)).dir x =
          st.dir x := by
        simp [setFile, hx, hxtmp]
      rw [hsame, hst.other x hx hxtmp]
  · intro st n stop hst
    exact hst
  · intro st hst
    exact hst

theorem meets_unlinkSync_final (hne : tmp ≠ name) :
    Faulty.Meets (TmpWritten st₀ name tmp data) (unlinkSync name)
      (fun _ => TmpWritten st₀ name tmp data) (fun _ => TmpWritten st₀ name tmp data) := by
  apply Faulty.Meets.op
  · intro st hst
    refine ⟨⟨hst.written, .inr (if_pos rfl), ?_⟩, ?_⟩
    · intro x hx hxtmp
      have hsame : (setFile name .absent st).dir x = st.dir x := if_neg hx
      rw [hsame, hst.other x hx hxtmp]
    · have hsame : (setFile name .absent st).dir tmp = st.dir tmp := if_neg hne
      rw [hsame, hst.tmpFile]
  · intro st n stop hst
    exact hst
  · intro st hst
    exact hst

end

theorem meets_renameOver {st₀ : WriterState} {name tmp : String} {data : Bytes}
    (hne : tmp ≠ name) :
    Faulty.Meets (TmpWritten st₀ name tmp data) (renameOver tmp name)
      (fun _ => Replaced st₀ name tmp data) (fun _ => KeptOrGone st₀ name tmp) := by
  have hkept : ∀ (stop : Stop) (st : WriterState), TmpWritten st₀ name tmp data st →
      KeptOrGone st₀ name tmp st := fun _ _ h => h.toKeptOrGone
  have hrename : Faulty.Meets (TmpWritten st₀ name tmp data) (renameSync tmp name)
      (fun _ => Replaced st₀ name tmp data) (fun _ => KeptOrGone st₀ name tmp) :=
    (meets_renameSync hne).mono (fun _ h => h) (fun _ _ h => h) hkept
  apply Faulty.Meets.attempt (meets_renameSync hne) (hkept .died)
  apply @Faulty.Meets.bind _ _ _ _ (fun _ => TmpWritten st₀ name tmp data)
  · exact Faulty.Meets.look fun _ h => h
  · intro found
    apply Faulty.Meets.ite
    · intro _
      apply Faulty.Meets.bind
        ((meets_unlinkSync_final hne).mono (fun _ h => h) (fun _ _ h => h) hkept)
      exact fun _ => hrename
    · intro _
      exact Faulty.Meets.throw (hkept .threw)

theorem meets_unlinkIgnored {P : WriterState → Prop} {name : String}
    (h : ∀ st, P st → P (setFile name .absent st)) :
    Faulty.Meets P (unlinkIgnored name) (fun _ => P) (fun _ => P) := by
  have hunlink : Faulty.Meets P (unlinkSync name) (fun _ => P) (fun _ => P) :=
    Faulty.Meets.op h (fun _ _ _ hst => hst) fun _ hst => hst
  apply @Faulty.Meets.bind _ _ _ _ (fun _ => P)
  · exact Faulty.Meets.look fun _ hst => hst
  · intro found
    apply Faulty.Meets.ite
    · intro _
      exact Faulty.Meets.attempt hunlink (fun _ hst => hst)
        (Faulty.Meets.pure fun _ hst => hst)
    · intro _
      exact Faulty.Meets.pure fun _ hst => hst

/-- A replacement that returns has replaced the file; one that stops has kept it, or
removed it. -/
theorem meets_atomicWriteFileSync {stamp finalName : String} (data : Bytes)
    (hname : finalName ∈ bundleNames) (st₀ : WriterState) :
    Faulty.Meets (· = st₀) (atomicWriteFileSync stamp finalName data)
      (fun _ => Replaced st₀ finalName (tmpName stamp finalName) data)
      (fun _ => KeptOrGone st₀ finalName (tmpName stamp finalName)) := by
  have hne : tmpName stamp finalName ≠ finalName := tmpName_ne hname
  have hstart : ∀ st, st = st₀ → KeptOrGone st₀ finalName (tmpName stamp finalName) st := by
    rintro st rfl
    exact ⟨rfl, .inl rfl, fun _ _ _ => rfl⟩
  apply Faulty.Meets.bind
    ((meets_writeFileSync hne).mono hstart (fun _ _ h => h) fun _ _ h => h)
  intro _
  apply Faulty.Meets.attempt (meets_renameOver hne) (fun _ h => h)
  apply Faulty.Meets.bind (meets_unlinkIgnored fun st hst => setFile_tmp hne hst)
  exact fun _ => Faulty.Meets.throw fun _ h => h

/-! ## What a run leaves -/

/-- The first files of the bundle are replaced. -/
structure Stage (prior : Directory) (done : List Replacement) (st : WriterState) : Prop where
  written : st.written = done.map Prod.fst
  files : ∀ x ∈ bundleNames, st.dir x = replaceFiles prior done x

/-- The run stopped at a file: it is the earlier one, or gone. -/
def StoppedAt (prior : Directory) (files : List Replacement) (st : WriterState) : Prop :=
  ∃ done file rest, files = done ++ file :: rest ∧ st.written = done.map Prod.fst ∧
    (∀ x ∈ bundleNames, x ≠ file.1 → st.dir x = replaceFiles prior done x) ∧
    (st.dir file.1 = replaceFiles prior done file.1 ∨ st.dir file.1 = .absent)

theorem meets_writeFiles {prior : Directory} {stamp : String → String}
    {rest done : List Replacement} (hnames : ∀ r ∈ rest, r.1 ∈ bundleNames) :
    Faulty.Meets (Stage prior done) (writeFiles stamp rest)
      (fun _ => Stage prior (done ++ rest)) (fun _ => StoppedAt prior (done ++ rest)) := by
  induction rest generalizing done with
  | nil =>
      apply Faulty.Meets.pure
      intro st hst
      rwa [List.append_nil]
  | cons file rest ih =>
      obtain ⟨name, data⟩ := file
      obtain ⟨hname, hrest⟩ := List.forall_mem_cons.mp hnames
      have hnext := @ih (done ++ [(name, data)]) hrest
      rw [List.append_assoc, List.singleton_append] at hnext
      intro st fates hst
      have hwrite := @meets_atomicWriteFileSync (stamp name) name data hname st
      refine Faulty.Meets.bind (hwrite.mono (fun _ h => h) (fun _ _ h => h) ?_) (fun _ => ?_)
        st fates rfl
      · -- stopped at this file
        intro stop st' hst'
        refine ⟨done, (name, data), rest, rfl, by rw [hst'.written, hst.written], ?_, ?_⟩
        · intro x hx hne
          rw [hst'.other x hne (tmpName_ne hx).symm, hst.files x hx]
        · rw [← hst.files name hname]
          exact hst'.file
      · apply Faulty.Meets.bind _ fun _ => hnext
        apply Faulty.Meets.note
        intro st' hst'
        constructor
        · rw [hst'.written, hst.written, List.map_append]
          rfl
        · intro x hx
          rw [replaceFiles_append]
          show st'.dir x = if x = name then .file data else replaceFiles prior done x
          split_ifs with hxname
          · rw [hxname, hst'.file]
          · rw [hst'.other x hxname (tmpName_ne hx).symm, hst.files x hx]

/-- Each file is the earlier one, the new one or gone; the manifest is not new. -/
structure Unfinished (prior : Directory) (files : List Replacement) (dir : Directory) :
    Prop where
  artifact : ∀ x ∈ bundleNames, x ≠ agentRunFilename → dir x = prior x ∨ dir x = .absent ∨
    ∃ data, (x, data) ∈ files ∧ dir x = .file data
  manifest : dir agentRunFilename = prior agentRunFilename ∨ dir agentRunFilename = .absent

theorem replaceFiles_cases {files : List Replacement} (hnodup : (files.map Prod.fst).Nodup)
    (dir : Directory) (x : String) :
    replaceFiles dir files x = dir x ∨
      ∃ data, (x, data) ∈ files ∧ replaceFiles dir files x = .file data := by
  by_cases hx : x ∈ files.map Prod.fst
  · obtain ⟨⟨name, data⟩, hmem, rfl⟩ := List.mem_map.mp hx
    exact .inr ⟨data, hmem, replaceFiles_named hnodup hmem dir⟩
  · exact .inl (replaceFiles_other hx dir)

/-- The manifest is the last file. -/
structure BundleFiles (files artifacts : List Replacement) (manifest : Bytes) : Prop where
  last : files = artifacts ++ [(agentRunFilename, manifest)]
  names : ∀ r ∈ files, r.1 ∈ bundleNames
  nodup : (files.map Prod.fst).Nodup

theorem BundleFiles.not_mem {files artifacts : List Replacement} {manifest : Bytes}
    (h : BundleFiles files artifacts manifest) :
    agentRunFilename ∉ artifacts.map Prod.fst := by
  have hnodup := h.nodup
  rw [h.last, List.map_append] at hnodup
  intro hmem
  exact (List.nodup_append.mp hnodup).2.2 _ hmem agentRunFilename (by simp) rfl

theorem StoppedAt.unfinished {prior : Directory} {files artifacts : List Replacement}
    {manifest : Bytes} {st : WriterState} (hfiles : BundleFiles files artifacts manifest)
    (h : StoppedAt prior files st) :
    Unfinished prior files st.dir ∧ agentRunFilename ∉ st.written := by
  obtain ⟨done, file, rest, hsplit, hwritten, hother, hfile⟩ := h
  have hdone : agentRunFilename ∉ done.map Prod.fst := by
    have hsub : done.map Prod.fst ⊆ artifacts.map Prod.fst := by
      have heq := hfiles.last.symm.trans hsplit
      rcases List.eq_nil_or_concat rest with rfl | ⟨rest', last, rfl⟩
      · obtain ⟨rfl, -⟩ := List.append_inj' heq rfl
        exact List.Subset.refl _
      · have hsame : artifacts = done ++ file :: rest' := by
          rw [List.concat_eq_append, ← List.cons_append, ← List.append_assoc] at heq
          exact (List.append_inj' heq rfl).1
        rw [hsame, List.map_append]
        exact List.subset_append_left _ _
    exact fun hmem => hfiles.not_mem (hsub hmem)
  have hnodup : (done.map Prod.fst).Nodup := by
    have hall := hfiles.nodup
    rw [hsplit, List.map_append] at hall
    exact (List.nodup_append.mp hall).1
  have hcases : ∀ x, replaceFiles prior done x = prior x ∨
      ∃ data, (x, data) ∈ files ∧ replaceFiles prior done x = .file data := by
    intro x
    rcases replaceFiles_cases hnodup prior x with hold | ⟨data, hmem, hnew⟩
    · exact .inl hold
    · refine .inr ⟨data, ?_, hnew⟩
      rw [hsplit]
      exact List.mem_append_left _ hmem
  refine ⟨⟨?_, ?_⟩, by rwa [hwritten]⟩
  · intro x hx _
    by_cases hname : x = file.1
    · rw [hname]
      rcases hfile with hsame | hgone
      · rw [hsame]
        rcases hcases file.1 with hold | hnew
        · exact .inl hold
        · exact .inr (.inr hnew)
      · exact .inr (.inl hgone)
    · rw [hother x hx hname]
      rcases hcases x with hold | hnew
      · exact .inl hold
      · exact .inr (.inr hnew)
  · by_cases hname : agentRunFilename = file.1
    · rw [← hname, replaceFiles_other hdone] at hfile
      exact hfile
    · left
      rw [hother _ (by simp [bundleNames]) hname, replaceFiles_other hdone]

/-- Removing files other than the manifest finishes nothing. -/
theorem Unfinished.remove {prior : Directory} {files : List Replacement} {name : String}
    {st : WriterState} (hname : name ≠ agentRunFilename)
    (h : Unfinished prior files st.dir) :
    Unfinished prior files (setFile name .absent st).dir := by
  constructor
  · intro x hx hmanifest
    by_cases hxname : x = name
    · exact .inr (.inl (if_pos hxname))
    · have hsame : (setFile name .absent st).dir x = st.dir x := if_neg hxname
      rw [hsame]
      exact h.artifact x hx hmanifest
  · have hsame : (setFile name .absent st).dir agentRunFilename = st.dir agentRunFilename :=
      if_neg hname.symm
    rw [hsame]
    exact h.manifest

theorem meets_rollbackSignedFinals {prior : Directory} {files : List Replacement}
    {names : List String} (hnames : agentRunFilename ∉ names) :
    Faulty.Meets (fun st => Unfinished prior files st.dir) (rollbackSignedFinals names)
      (fun _ st => Unfinished prior files st.dir)
      (fun _ st => Unfinished prior files st.dir) := by
  induction names with
  | nil => exact Faulty.Meets.pure fun _ h => h
  | cons name names ih =>
      obtain ⟨hne, hrest⟩ := not_or.mp (mt List.mem_cons.mpr hnames)
      apply Faulty.Meets.bind (meets_unlinkIgnored fun st hst => hst.remove (Ne.symm hne))
      exact fun _ => ih hrest

theorem meets_rollback {prior : Directory} {files : List Replacement} (signed : Bool) :
    Faulty.Meets
      (fun st => Unfinished prior files st.dir ∧ agentRunFilename ∉ st.written)
      (rollback signed) (fun _ st => Unfinished prior files st.dir)
      (fun _ st => Unfinished prior files st.dir) := by
  apply Faulty.Meets.ite
  · intro _
    apply @Faulty.Meets.bind _ _ _ _ (fun written st =>
      Unfinished prior files st.dir ∧ agentRunFilename ∉ written)
    · exact Faulty.Meets.look fun _ h => h
    · rintro written st fates ⟨hst, hwritten⟩
      have hnames : agentRunFilename ∉ written.reverse := by simpa using hwritten
      exact meets_rollbackSignedFinals hnames st fates hst
  · intro _
    exact Faulty.Meets.pure fun _ h => h.1

section

variable {rt : WriterRuntime} {o : WriteAgentRunBundleOptions} {sidecar : Option Bytes}

theorem bundleFiles_spec (rt : WriterRuntime) (o : WriteAgentRunBundleOptions)
    (sidecar : Option Bytes) :
    ∃ artifacts, BundleFiles (bundleFiles rt o sidecar) artifacts
      (agentRunBytes rt o sidecar) := by
  refine ⟨_, rfl, ?_, ?_⟩
  · cases sidecar with
    | none => simp [bundleFiles, bundleNames]
    | some bytes => simp [bundleFiles, bundleNames]
  · cases sidecar with
    | none =>
        show [eventsFilename, workflowResultFilename, agentRunFilename].Nodup
        decide
    | some bytes =>
        show [eventsFilename, workflowResultFilename, workflowResultSigFilename,
          agentRunFilename].Nodup
        decide

/-- A run that returns has replaced all its files; one that stops is unfinished. -/
theorem meets_writeAgentRunBundle (stamp : String → String) (prior : Directory)
    (hsign : signResult rt o = .ok sidecar) :
    Faulty.Meets (· = ⟨prior, []⟩) (writeAgentRunBundle rt stamp o)
      (fun _ st => ∀ x ∈ bundleNames,
        st.dir x = replaceFiles prior (bundleFiles rt o sidecar) x)
      (fun _ st => Unfinished prior (bundleFiles rt o sidecar) st.dir) := by
  obtain ⟨artifacts, hfiles⟩ := bundleFiles_spec rt o sidecar
  have hstart : ∀ st, st = ⟨prior, []⟩ → Stage prior [] st := by
    rintro st rfl
    exact ⟨rfl, fun _ _ => rfl⟩
  have hunfinished : ∀ st : WriterState, Stage prior [] st →
      Unfinished prior (bundleFiles rt o sidecar) st.dir := fun st hst =>
    ⟨fun x hx _ => .inl (hst.files x hx), .inl (hst.files _ (by simp [bundleNames]))⟩
  have hwrite := @meets_writeFiles prior stamp (bundleFiles rt o sidecar) [] hfiles.names
  rw [List.nil_append] at hwrite
  unfold writeAgentRunBundle
  rw [hsign]
  apply @Faulty.Meets.bind _ _ _ _ (fun _ => Stage prior [])
  · apply Faulty.Meets.op
    · exact hstart
    · exact fun st _ _ hst => hunfinished st (hstart st hst)
    · exact fun st hst => hunfinished st (hstart st hst)
  · intro _
    apply Faulty.Meets.attempt (hwrite.mono (fun _ h => h) (fun _ _ h => h.files)
      fun _ _ h => h.unfinished hfiles) (fun _ h => h.1)
    apply Faulty.Meets.bind (meets_rollback _)
    exact fun _ => Faulty.Meets.throw fun _ h => h

end

end AgentSkeptic.Bundle
