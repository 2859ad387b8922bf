import AgentSkeptic.Loop.StoreInvariant

/-!
# What the local run history survives

In a run in which every step is careful, the run that is returned for a workflow has all
its files and is the last one stored of those that have them, and no run that is to be
kept is lost (`history_survives`).  A crash while a directory is being removed and two
calls that overlap break the one and the other (`history_lost`).
-/

namespace AgentSkeptic.Loop

open AgentSkeptic.Support

variable {root : String} {isDateTime : String → Bool} {s : State} {call : Call}

/-! ## What is claimed of a state -/

/-- The files of the run hold what its call was given. -/
def Call.Complete (disk : Disk) (call : Call) : Prop :=
  disk.files call.entry.eventsPath = some (call.input.text .events) ∧
    disk.files call.entry.workflowResultPath = some (call.input.text .workflowResult) ∧
    disk.files call.entry.outcomeCertificatePath =
      some (call.input.text .outcomeCertificate)

/-- All files of the run are there. -/
def State.Keeps (s : State) (run : LocalRunHistoryEntry) : Prop :=
  ∃ c ∈ s.calls, c.entry = run ∧ c.Complete s.disk

/-- Between the calls, the run that is returned for a workflow is the one stored last of
those of the workflow that still have their files.  A run whose call returned is listed
as long as it is within the limits of its own call and of those that stored a run since. -/
structure HistorySurvives (isDateTime : String → Bool) (s : State) : Prop where
  latest : (∀ c ∈ s.calls, c.running = false) → ∀ workflowId run,
    latestCompatiblePriorRun isDateTime s.disk workflowId = some run →
      run.workflowId = workflowId ∧ s.Keeps run ∧
        ∃ before limit after, s.stored = before ++ (run, limit) :: after ∧
          ∀ x ∈ after, x.1.workflowId = workflowId → ¬s.Keeps x.1
  listed : ∀ c ∈ s.calls, c.phase = .returned → ∀ before limit after,
    s.stored = before ++ (c.entry, limit) :: after →
      (∀ x ∈ (c.entry, limit) :: after, ∀ n, x.2 = some n → after.length < n) →
        c.entry ∈ readIndexOrEmpty isDateTime s.disk.index

/-! ## What the invariant says -/

/-- The run is complete where each of its files is. -/
theorem CallInv.complete_iff (h : CallInv root isDateTime s call) {disk : Disk} :
    call.Complete disk ↔ ∀ file, disk.files (call.path file) = some (call.input.text file) := by
  obtain ⟨hevents, hresult, hcertificate⟩ := h.files_of_listed
  rw [Call.Complete, hevents, hresult, hcertificate]
  constructor
  · rintro ⟨h₁, h₂, h₃⟩ file
    cases file with
    | events => exact h₁
    | workflowResult => exact h₂
    | outcomeCertificate => exact h₃
  · exact fun hall => ⟨hall _, hall _, hall _⟩

theorem CallInv.keeps (h : CallInv root isDateTime s call)
    (hreplaced : call.phase.replaced = true)
    (hresult : s.disk.existsSync call.entry.workflowResultPath = true)
    (hevents : s.disk.existsSync call.entry.eventsPath = true)
    (hmisleading : ¬Misleading s.disk call.entry) : call.Complete s.disk := by
  have hcertificate : s.disk.existsSync call.entry.outcomeCertificatePath = true := by
    cases hgone : s.disk.existsSync call.entry.outcomeCertificatePath with
    | true => rfl
    | false => exact absurd ⟨hresult, hevents, hgone⟩ hmisleading
  obtain ⟨hpath, hpath', hpath''⟩ := h.files_of_listed
  rw [hpath] at hevents
  rw [hpath'] at hresult
  rw [hpath''] at hcertificate
  apply h.complete_iff.mpr
  intro file
  rcases h.kept hreplaced file with hwhole | hgone
  · exact hwhole
  · have hthere : s.disk.existsSync (call.path file) = true := by
      cases file with
      | events => exact hevents
      | workflowResult => exact hresult
      | outcomeCertificate => exact hcertificate
    rw [Disk.existsSync, hgone] at hthere
    cases hthere

/-- What is found from the end is followed by nothing that would have been found. -/
theorem eq_append_of_find?_reverse {α : Type*} {p : α → Bool} {l : List α} {a : α}
    (h : l.reverse.find? p = some a) : p a = true ∧
      ∃ front behind, l = front ++ a :: behind ∧ ∀ b ∈ behind, p b = false := by
  obtain ⟨hp, front, behind, hl, hnone⟩ := List.find?_eq_some_iff_append.mp h
  refine ⟨hp, behind.reverse, front.reverse, ?_, ?_⟩
  · rw [← List.reverse_reverse l, hl]
    simp
  · intro b hb
    simpa using hnone b (List.mem_reverse.mp hb)

theorem StoreInv.survives (h : StoreInv root isDateTime s) :
    HistorySurvives isDateTime s where
  latest := by
    intro hended workflowId run hlatest
    have hnone : ∀ run ∈ retained s.stored, ¬Misleading s.disk run := by
      intro run hrun hmisleading
      obtain ⟨i, c, hi, -⟩ := h.misleading run hrun hmisleading
      obtain ⟨hget, hrunning⟩ := runningCall_eq_some hi
      rw [hended c (List.mem_of_getElem? hget)] at hrunning
      cases hrunning
    rw [latestCompatiblePriorRun, h.index] at hlatest
    obtain ⟨hfound, front, behind, hlist, hbehind⟩ := eq_append_of_find?_reverse hlatest
    simp only [Bool.and_eq_true, decide_eq_true_eq] at hfound
    obtain ⟨⟨hworkflow, hresult⟩, hevents⟩ := hfound
    have hrun : run ∈ retained s.stored := by
      rw [hlist]
      simp
    obtain ⟨c, hc, rfl, hreplaced⟩ := h.call_of_retained hrun
    refine ⟨hworkflow, ⟨c, hc, rfl, ?_⟩, ?_⟩
    · exact (h.call c hc).keeps hreplaced hresult hevents (hnone _ hrun)
    · obtain ⟨gone, hgone⟩ := retained_suffix s.stored
      rw [hlist, ← List.append_assoc] at hgone
      obtain ⟨before, rest, hstored, -, hrest⟩ := List.map_eq_append_iff.mp hgone.symm
      obtain ⟨x, after, rfl, hx, hafter⟩ := List.map_eq_cons_iff.mp hrest
      refine ⟨before, x.2, after, ?_, ?_⟩
      · rw [hstored, ← hx]
      · rintro y hy hsame ⟨d, hd, hentry, hcomplete⟩
        have hfalse := hbehind y.1 (by rw [← hafter]; exact List.mem_map_of_mem hy)
        rw [← hentry] at hfalse hsame
        obtain ⟨heventsd, hresultd, -⟩ := hcomplete
        simp [Disk.existsSync, hsame, heventsd, hresultd] at hfalse
  listed := by
    intro c hc hreturned before limit after hstored hlimits
    rw [h.index, hstored]
    exact mem_retained hlimits

/-- **Local run history.**  In every run in which each step is careful, it survives in
every state that is reached. -/
theorem history_survives (events : List Event)
    (hprovided : ∀ t ∈ turns (serve root isDateTime) emptyStore events,
      Provided root isDateTime t.before t.request)
    (hcareful : ∀ t ∈ turns (serve root isDateTime) emptyStore events,
      Careful isDateTime t.before t.request) :
    HistorySurvives isDateTime (finish (serve root isDateTime) emptyStore events) := by
  apply @StoreInv.survives root
  apply finish_of_turns (StoreInv root isDateTime)
    (fun t => Provided root isDateTime t.before t.request ∧ Careful isDateTime t.before t.request)
  · intro s event h hok
    exact h.step hok.1 hok.2
  · exact StoreInv.empty
  · exact fun t ht => ⟨hprovided t ht, hcareful t ht⟩
/-! ## Sample runs -/

def sampleRoot : String := "/home/dev/.agentskeptic/runs"

/-- The dates of the samples. -/
def isSampleDate (s : String) : Bool :=
  s = "2026-03-01T09:00:00.000Z" || s = "2026-03-02T09:00:00.000Z"

def sampleInput (workflowId : String) (maxRuns : ℤ) : StoreLoopRunInput where
  workflowId := workflowId
  events := "\n"
  workflowResult := .obj [("workflowId", .str workflowId)]
  certificate := .obj [("workflowId", .str workflowId)]
  maxRuns := some (.int maxRuns)

def checkoutEntry : LocalRunHistoryEntry :=
  newEntry sampleRoot "checkout" "2026-03-01T09:00:00.000Z" "7d3a"

def refundEntry : LocalRunHistoryEntry :=
  newEntry sampleRoot "refund" "2026-03-02T09:00:00.000Z" "b91c"

def checkoutCall (maxRuns : ℤ) : Event :=
  .call (sampleInput "checkout" maxRuns) "2026-03-01T09:00:00.000Z" "7d3a"

def refundCall (maxRuns : ℤ) : Event :=
  .call (sampleInput "refund" maxRuns) "2026-03-02T09:00:00.000Z" "b91c"

/-- A call that nothing interrupts. -/
def storeCheckout : List Event := checkoutCall 1 :: List.replicate 7 (.next 0)

/-- The second call stops while it copies the events. -/
def stoppedCopy : List Event := storeCheckout ++ [refundCall 1, .next 1, .stop 1 (some "")]

/-- The second call dies while it removes the directory of the first run. -/
def crashInEviction : List Event :=
  storeCheckout ++ refundCall 1 :: List.replicate 5 (.next 1) ++
    [.removeFile 1 .outcomeCertificate, .stop 1 none]

/-- Both calls read the index before one of them replaces it. -/
def overlappingCalls : List Event :=
  checkoutCall 100 :: refundCall 100 :: List.replicate 5 (.next 0) ++
    List.replicate 5 (.next 1) ++ [.next 0, .next 0, .next 1, .next 1]

theorem newCall_checkout (maxRuns : ℤ) :
    newCall sampleRoot (sampleInput "checkout" maxRuns) "2026-03-01T09:00:00.000Z" "7d3a" =
      ⟨sampleInput "checkout" maxRuns, checkoutEntry, .makeDirectory, false⟩ := rfl

theorem newCall_refund (maxRuns : ℤ) :
    newCall sampleRoot (sampleInput "refund" maxRuns) "2026-03-02T09:00:00.000Z" "b91c" =
      ⟨sampleInput "refund" maxRuns, refundEntry, .makeDirectory, false⟩ := rfl

theorem sampleInput_limit (workflowId : String) :
    (sampleInput workflowId 1).limit = some 1 ∧
      (sampleInput workflowId 100).limit = some 100 := ⟨rfl, rfl⟩

theorem checkoutEntry_paths :
    checkoutEntry.eventsPath = pathIn checkoutEntry.runDir .events ∧
      checkoutEntry.workflowResultPath = pathIn checkoutEntry.runDir .workflowResult ∧
      checkoutEntry.outcomeCertificatePath =
        pathIn checkoutEntry.runDir .outcomeCertificate := ⟨rfl, rfl, rfl⟩

theorem sample_runDirs : checkoutEntry.runDir ≠ refundEntry.runDir := by decide +kernel

theorem checkoutEntry_ne_refundEntry : checkoutEntry ≠ refundEntry :=
  fun h => sample_runDirs (congrArg (·.runDir) h)

theorem readIndexOrEmpty_sample : readIndexOrEmpty isSampleDate none = [] ∧
    ∀ run, run = checkoutEntry ∨ run = refundEntry →
      readIndexOrEmpty isSampleDate (some (fileText (indexJson [run]))) = [run] := by
  refine ⟨rfl, fun run hrun => ?_⟩
  apply readIndexOrEmpty_indexJson
  intro run' hrun'
  rw [List.mem_singleton.mp hrun']
  rcases hrun with rfl | rfl
  · constructor <;> decide +kernel
  · constructor <;> decide +kernel

theorem history_survives_stoppedCopy :
    HistorySurvives isSampleDate
      (finish (serve sampleRoot isSampleDate) emptyStore stoppedCopy) := by
  apply history_survives
  · simp [stoppedCopy, storeCheckout, checkoutCall, refundCall, Provided, List.replicate,
      serve, State.step, emptyStore, State.runningCall, Option.filter, Call.running,
      State.next, advance, State.withCall, evictNext, Disk.write, newCall_checkout,
      sampleInput_limit, readIndexOrEmpty_sample]
    exact ⟨by decide +kernel, by decide +kernel, sample_runDirs⟩
  · simp [stoppedCopy, storeCheckout, checkoutCall, refundCall, Careful, List.replicate,
      serve, State.step, emptyStore, State.runningCall, Option.filter, Call.running,
      State.next, advance, State.withCall, evictNext, Disk.write, newCall_checkout,
      newCall_refund, sampleInput_limit, readIndexOrEmpty_sample, CarefulNext, CarefulStop,
      Phase.removed]
    exact ⟨by decide, by decide⟩

theorem crashInEviction_leaves (s : State)
    (hs : s = finish (serve sampleRoot isSampleDate) emptyStore crashInEviction) :
    (∀ c ∈ s.calls, c.running = false) ∧
      latestCompatiblePriorRun isSampleDate s.disk "checkout" = some checkoutEntry ∧
      s.disk.files checkoutEntry.outcomeCertificatePath = none := by
  have hname : checkoutEntry.workflowId = "checkout" := rfl
  simp [hs, crashInEviction, storeCheckout, checkoutCall, refundCall, List.replicate, serve,
    State.step, emptyStore, State.runningCall, Option.filter, Call.running, State.next, advance,
    State.withCall, evictNext, State.removeFile, State.stop, leftBehind, Phase.target?,
    Disk.write, Disk.remove, Disk.existsSync, latestCompatiblePriorRun, newCall_checkout,
    newCall_refund, sampleInput_limit, readIndexOrEmpty_sample, checkoutEntry_paths,
    Call.path, pathIn_eq_iff, sample_runDirs, hname, Function.update_apply]

theorem overlappingCalls_leave (s : State)
    (hs : s = finish (serve sampleRoot isSampleDate) emptyStore overlappingCalls) :
    (∃ c ∈ s.calls, c.entry = checkoutEntry ∧ c.phase = .returned) ∧
      s.stored = [(checkoutEntry, some 100), (refundEntry, some 100)] ∧
      readIndexOrEmpty isSampleDate s.disk.index = [refundEntry] := by
  simp [hs, overlappingCalls, checkoutCall, refundCall, List.replicate, serve, State.step,
    emptyStore, State.runningCall, Option.filter, Call.running, State.next, advance, State.withCall,
    evictNext, Disk.write, newCall_checkout, newCall_refund, sampleInput_limit,
    readIndexOrEmpty_sample]

/-- A crash leaves a run without its certificate, and an overlap loses a run. -/
theorem history_lost :
    ¬HistorySurvives isSampleDate
        (finish (serve sampleRoot isSampleDate) emptyStore crashInEviction) ∧
      ¬HistorySurvives isSampleDate
        (finish (serve sampleRoot isSampleDate) emptyStore overlappingCalls) := by
  constructor
  · intro h
    obtain ⟨hended, hlatest, hgone⟩ := crashInEviction_leaves _ rfl
    obtain ⟨-, ⟨c, -, hentry, -, -, hthere⟩, -⟩ := h.latest hended _ _ hlatest
    rw [hentry, hgone] at hthere
    cases hthere
  · intro h
    obtain ⟨⟨c, hc, hentry, hreturned⟩, hstored, hindex⟩ := overlappingCalls_leave _ rfl
    have hlisted := h.listed c hc hreturned [] (some 100) [(refundEntry, some 100)]
      (by rw [hstored, hentry]; rfl) (by simp)
    rw [hindex, hentry, List.mem_singleton] at hlisted
    exact checkoutEntry_ne_refundEntry hlisted

end AgentSkeptic.Loop
