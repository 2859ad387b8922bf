import AgentSkeptic.Loop.LocalRunStore

/-!
# The store between the steps of its calls

The index lists what is retained of the stored runs (`StoreInv.index`), and a listed run
without its certificate that `latestCompatiblePriorRun` would take is one that a call is
still removing (`StoreInv.misleading`): as long as no call stops at such a moment, and
none replaces an index that it did not read.  `StoreInv.step` keeps all of this.
-/

namespace AgentSkeptic.Loop

open AgentSkeptic.Support

variable {root : String} {isDateTime : String → Bool} {s s' : State} {call : Call}

/-! ## Careful steps -/

/-- `latestCompatiblePriorRun` does not see that the certificate is gone. -/
def Misleading (disk : Disk) (run : LocalRunHistoryEntry) : Prop :=
  disk.existsSync run.workflowResultPath = true ∧ disk.existsSync run.eventsPath = true ∧
    disk.existsSync run.outcomeCertificatePath = false

instance (disk : Disk) (run : LocalRunHistoryEntry) : Decidable (Misleading disk run) :=
  inferInstanceAs (Decidable (_ ∧ _))

/-- What the environment provides: `randomUUID` names a directory that no call has, and
`toISOString` writes a date and time. -/
def Provided (root : String) (isDateTime : String → Bool) (s : State) : Event → Prop
  | .call input capturedAt uuid =>
      isDateTime capturedAt = true ∧ ∀ c ∈ s.calls,
        c.entry.runDir ≠ (newEntry root input.workflowId capturedAt uuid).runDir
  | _ => True

/-- An index is replaced only while it is the one that the call read, and it is read back
before it is replaced again. -/
def CarefulNext (isDateTime : String → Bool) (s : State) (call : Call) : Prop :=
  match call.phase with
  | .replaceIndex removed runs =>
      removed ++ runs = readIndexOrEmpty isDateTime s.disk.index ++ [call.entry]
  | .readBack runs => s.disk.index = some (fileText (indexJson runs))
  | _ => True

/-- No listed run that the call was removing is misleading. -/
def CarefulStop (isDateTime : String → Bool) (s : State) (call : Call) : Prop :=
  ∀ run ∈ call.phase.removed,
    run ∈ readIndexOrEmpty isDateTime s.disk.index → ¬Misleading s.disk run

/-- The workflow has a name, and the running call that does something is careful. -/
def Careful (isDateTime : String → Bool) (s : State) : Event → Prop
  | .call input _ _ => input.workflowId ≠ ""
  | .next i => ∀ call ∈ s.runningCall i, CarefulNext isDateTime s call
  | .removeFile _ _ => True
  | .stop i _ => ∀ call ∈ s.runningCall i, CarefulStop isDateTime s call

/-! ## The invariant -/

/-- The files that the call has written. -/
def Phase.written : Phase → List RunFile
  | makeDirectory => []
  | copyEvents => []
  | writeResult => [.events]
  | writeCertificate => [.events, .workflowResult]
  | _ => [.events, .workflowResult, .outcomeCertificate]

/-- The index was replaced. -/
def Phase.replaced : Phase → Bool
  | readBack _ => true
  | unlinkIndex => true
  | returned => true
  | threw => true
  | _ => false

/-- What a call holds in its memory while it shifts runs. -/
structure Holds (stored : List LocalRunHistoryEntry) (entry : LocalRunHistoryEntry)
    (limit : Option ℕ) (removed runs : List LocalRunHistoryEntry) : Prop where
  read : ∃ kept, runs = kept ++ [entry] ∧ ∀ run ∈ removed ++ kept, run ∈ stored
  bounded : removed = [] ∨ ∃ n, limit = some n ∧ n ≤ runs.length

/-- What a call holds in its memory; it neither unlinks the index nor throws by itself. -/
def Remembers (stored : List LocalRunHistoryEntry) (call : Call) : Prop :=
  match call.phase with
  | .evict removed runs => Holds stored call.entry call.input.limit removed runs
  | .replaceIndex removed runs => Holds stored call.entry call.input.limit removed runs ∧
      ∀ n, call.input.limit = some n → runs.length ≤ n
  | .unlinkIndex => False
  | .threw => False
  | _ => True

/-- What holds of a call: before the index is replaced, the files that it has written are
whole; from then on, each is whole or gone. -/
structure CallInv (root : String) (isDateTime : String → Bool) (s : State) (call : Call) :
    Prop where
  built : ∃ capturedAt uuid, call.entry = newEntry root call.input.workflowId capturedAt uuid
  listable : Listable isDateTime call.entry
  unlisted : call.phase.replaced = false →
    (∀ x ∈ s.stored, x.1.runDir ≠ call.entry.runDir) ∧
      ∀ file ∈ call.phase.written, s.disk.files (call.path file) = some (call.input.text file)
  kept : call.phase.replaced = true → ∀ file,
    s.disk.files (call.path file) = some (call.input.text file) ∨
      s.disk.files (call.path file) = none
  memory : Remembers (s.stored.map Prod.fst) call

structure StoreInv (root : String) (isDateTime : String → Bool) (s : State) : Prop where
  distinct : (s.calls.map fun c => c.entry.runDir).Nodup
  call : ∀ c ∈ s.calls, CallInv root isDateTime s c
  stored : ∀ x ∈ s.stored, ∃ c ∈ s.calls, c.entry = x.1 ∧ c.phase.replaced = true
  nodup : (s.stored.map fun x => x.1.runDir).Nodup
  index : readIndexOrEmpty isDateTime s.disk.index = retained s.stored
  misleading : ∀ run ∈ retained s.stored, Misleading s.disk run →
    ∃ i c, s.runningCall i = some c ∧ run ∈ c.phase.removed

theorem StoreInv.empty : StoreInv root isDateTime emptyStore where
  distinct := List.nodup_nil
  call := fun _ h => absurd h List.not_mem_nil
  stored := fun _ h => absurd h List.not_mem_nil
  nodup := List.nodup_nil
  index := rfl
  misleading := fun _ h => absurd h List.not_mem_nil

/-! ## Runs and their paths -/

theorem runningCall_eq_some {i : ℕ} (h : s.runningCall i = some call) :
    s.calls[i]? = some call ∧ call.running = true :=
  Option.filter_eq_some_iff.mp h

theorem CallInv.files_of_listed (h : CallInv root isDateTime s call) :
    call.entry.eventsPath = call.path .events ∧
      call.entry.workflowResultPath = call.path .workflowResult ∧
      call.entry.outcomeCertificatePath = call.path .outcomeCertificate := by
  obtain ⟨capturedAt, uuid, hentry⟩ := h.built
  rw [Call.path, Call.path, Call.path, hentry]
  exact ⟨rfl, rfl, rfl⟩

theorem CallInv.misleading_iff (h : CallInv root isDateTime s call) {disk : Disk} :
    Misleading disk call.entry ↔ disk.existsSync (call.path .workflowResult) = true ∧
      disk.existsSync (call.path .events) = true ∧
      disk.existsSync (call.path .outcomeCertificate) = false := by
  obtain ⟨hevents, hresult, hcertificate⟩ := h.files_of_listed
  rw [Misleading, hevents, hresult, hcertificate]

/-- Whether a run is misleading depends on its own files. -/
theorem CallInv.misleading_congr (h : CallInv root isDateTime s call) {disk disk' : Disk}
    (hfiles : ∀ file, disk'.files (call.path file) = disk.files (call.path file)) :
    Misleading disk' call.entry ↔ Misleading disk call.entry := by
  rw [h.misleading_iff, h.misleading_iff, Disk.existsSync, Disk.existsSync, Disk.existsSync,
    Disk.existsSync, Disk.existsSync, Disk.existsSync, hfiles, hfiles, hfiles]

/-- A run that was stored is that of a call. -/
theorem StoreInv.call_of_retained (h : StoreInv root isDateTime s)
    {run : LocalRunHistoryEntry} (hrun : run ∈ retained s.stored) :
    ∃ c ∈ s.calls, c.entry = run ∧ c.phase.replaced = true := by
  obtain ⟨x, hx, rfl⟩ := List.mem_map.mp ((retained_suffix s.stored).subset hrun)
  exact h.stored x hx

/-- Calls for one directory are one call. -/
theorem StoreInv.call_unique (h : StoreInv root isDateTime s) {c c' : Call}
    (hc : c ∈ s.calls) (hc' : c' ∈ s.calls) (hsame : c.entry.runDir = c'.entry.runDir) :
    c = c' :=
  List.inj_on_of_nodup_map h.distinct hc hc' hsame

/-- A call whose run was not stored has a directory of its own. -/
theorem StoreInv.runDir_ne (h : StoreInv root isDateTime s) {c : Call} (hc : c ∈ s.calls)
    (hcall : call ∈ s.calls) (hreplaced : c.phase.replaced = true)
    (hnot : call.phase.replaced = false) : c.entry.runDir ≠ call.entry.runDir := by
  intro hsame
  obtain rfl := h.call_unique hc hcall hsame
  rw [hreplaced] at hnot
  cases hnot

/-! ## A step of one call -/

/-- What holds of a call is kept where its files stay, and runs that are stored are not
its own. -/
theorem CallInv.frame (h : CallInv root isDateTime s call)
    (hfiles : ∀ file, s'.disk.files (call.path file) = s.disk.files (call.path file))
    (hstored : ∀ x ∈ s.stored, x ∈ s'.stored)
    (hnew : ∀ x ∈ s'.stored, x ∉ s.stored → x.1.runDir ≠ call.entry.runDir) :
    CallInv root isDateTime s' call where
  built := h.built
  listable := h.listable
  unlisted := by
    intro hnot
    obtain ⟨hother, hwritten⟩ := h.unlisted hnot
    refine ⟨?_, fun file hfile => by rw [hfiles, hwritten file hfile]⟩
    intro x hx
    by_cases hold : x ∈ s.stored
    · exact hother x hold
    · exact hnew x hx hold
  kept := by
    intro hreplaced file
    rw [hfiles]
    exact h.kept hreplaced file
  memory := by
    have hsub : ∀ run ∈ s.stored.map Prod.fst, run ∈ s'.stored.map Prod.fst := by
      intro run hrun
      obtain ⟨x, hx, rfl⟩ := List.mem_map.mp hrun
      exact List.mem_map_of_mem (hstored x hx)
    have hholds : ∀ {removed runs},
        Holds (s.stored.map Prod.fst) call.entry call.input.limit removed runs →
          Holds (s'.stored.map Prod.fst) call.entry call.input.limit removed runs := by
      rintro removed runs ⟨⟨kept, hkept, hmem⟩, hbounded⟩
      exact ⟨⟨kept, hkept, fun run hrun => hsub run (hmem run hrun)⟩, hbounded⟩
    have hmemory := h.memory
    rw [Remembers] at hmemory ⊢
    split
    · rename_i removed runs hphase
      rw [hphase] at hmemory
      exact hholds hmemory
    · rename_i removed runs hphase
      rw [hphase] at hmemory
      exact ⟨hholds hmemory.1, hmemory.2⟩
    · rename_i hphase
      rw [hphase] at hmemory
      exact hmemory
    · rename_i hphase
      rw [hphase] at hmemory
      exact hmemory
    · trivial

theorem mem_set_cases {calls : List Call} {i : ℕ} {call call' c : Call}
    (h : calls[i]? = some call) (hdistinct : (calls.map fun c => c.entry.runDir).Nodup)
    (hc : c ∈ calls.set i call') :
    c = call' ∨ c ∈ calls ∧ c.entry.runDir ≠ call.entry.runDir := by
  obtain ⟨j, hj⟩ := List.mem_iff_getElem?.mp hc
  by_cases hij : i = j
  · subst hij
    rw [List.getElem?_set_self (List.getElem?_eq_some_iff.mp h).1] at hj
    exact .inl (Option.some.inj hj).symm
  · rw [List.getElem?_set_ne hij] at hj
    refine .inr ⟨List.mem_of_getElem? hj, ?_⟩
    intro hsame
    have hi : (calls.map fun c => c.entry.runDir)[i]? =
        (calls.map fun c => c.entry.runDir)[j]? := by
      rw [List.getElem?_map, List.getElem?_map, h, hj, Option.map_some, Option.map_some, hsame]
    have hlt : i < (calls.map fun c => c.entry.runDir).length := by
      rw [List.length_map]
      exact (List.getElem?_eq_some_iff.mp h).1
    exact hij ((List.getElem?_inj hlt hdistinct).mp hi)
theorem mem_set_of_mem {calls : List Call} {i : ℕ} {call c : Call} (call' : Call)
    (h : calls[i]? = some call) (hc : c ∈ calls) : c = call ∨ c ∈ calls.set i call' := by
  obtain ⟨j, hj⟩ := List.mem_iff_getElem?.mp hc
  by_cases hij : i = j
  · subst hij
    exact .inl (Option.some.inj (hj.symm.trans h))
  · have hj' : (calls.set i call')[j]? = some c := by rw [List.getElem?_set_ne hij, hj]
    exact .inr (List.mem_of_getElem? hj')

theorem map_set_of_eq {β : Type} {f : Call → β} {calls : List Call} {i : ℕ}
    {call call' : Call} (h : calls[i]? = some call) (hf : f call' = f call) :
    (calls.set i call').map f = calls.map f := by
  apply List.ext_getElem?
  intro j
  rw [List.getElem?_map, List.getElem?_map]
  by_cases hij : i = j
  · subst hij
    rw [List.getElem?_set_self (List.getElem?_eq_some_iff.mp h).1, h, Option.map_some,
      Option.map_some, hf]
  · rw [List.getElem?_set_ne hij]

theorem runningCall_withCall_self {i : ℕ} {call' : Call} {disk : Disk}
    (h : s.calls[i]? = some call) (hrunning : call'.running = true) :
    (s.withCall i call' disk).runningCall i = some call' := by
  rw [State.runningCall, State.withCall,
    List.getElem?_set_self (List.getElem?_eq_some_iff.mp h).1]
  exact Option.filter_eq_some_iff.mpr ⟨rfl, hrunning⟩

theorem runningCall_withCall_ne {i j : ℕ} {call' : Call} {disk : Disk} (h : i ≠ j) :
    (s.withCall i call' disk).runningCall j = s.runningCall j := by
  rw [State.runningCall, State.withCall, List.getElem?_set_ne h, State.runningCall]

/-- A call that stores no run goes on: it has written its own files, and still removes
what it set out to remove, or leaves nothing of it misleading. -/
theorem StoreInv.withCall (h : StoreInv root isDateTime s) {i : ℕ}
    (hi : s.runningCall i = some call) {call' : Call} {disk : Disk}
    (hentry : call'.entry = call.entry)
    (hreplaced : call.phase.replaced = true → call'.phase.replaced = true)
    (hindex : disk.index = s.disk.index)
    (hfiles : ∀ path, disk.files path = s.disk.files path ∨
      call.phase.replaced = false ∧ ∃ file, path = call.path file)
    (hcall' : CallInv root isDateTime (s.withCall i call' disk) call')
    (hremoved : call'.running = true ∧
        (∀ run ∈ call.phase.removed, run ∈ call'.phase.removed) ∨
      ∀ run ∈ call.phase.removed, run ∈ retained s.stored → ¬Misleading s.disk run) :
    StoreInv root isDateTime (s.withCall i call' disk) := by
  obtain ⟨hget, -⟩ := runningCall_eq_some hi
  have hmem : call ∈ s.calls := List.mem_of_getElem? hget
  have hother : ∀ c : Call, (c.entry.runDir ≠ call.entry.runDir ∨
      call.phase.replaced = true) → ∀ file,
        disk.files (c.path file) = s.disk.files (c.path file) := by
    intro c hc file
    rcases hfiles (c.path file) with hsame | ⟨hnot, file', hpath⟩
    · exact hsame
    · rcases hc with hne | hyes
      · exact absurd hpath (pathIn_ne hne file file')
      · rw [hyes] at hnot
        cases hnot
  refine ⟨?_, ?_, ?_, h.nodup, ?_, ?_⟩
  · show ((s.calls.set i call').map fun c => c.entry.runDir).Nodup
    rw [map_set_of_eq hget (by rw [hentry])]
    exact h.distinct
  · intro c hc
    rcases mem_set_cases hget h.distinct hc with rfl | ⟨hold, hne⟩
    · exact hcall'
    · exact (h.call c hold).frame (hother c (.inl hne)) (fun _ hx => hx)
        fun _ hx hnot => absurd hx hnot
  · intro x hx
    obtain ⟨c, hc, hcx, hcr⟩ := h.stored x hx
    rcases mem_set_of_mem call' hget hc with rfl | hkept
    · exact ⟨call', List.mem_set (List.getElem?_eq_some_iff.mp hget).1 call',
        hentry.trans hcx, hreplaced hcr⟩
    · exact ⟨c, hkept, hcx, hcr⟩
  · show readIndexOrEmpty isDateTime disk.index = retained s.stored
    rw [hindex, h.index]
  · intro run hrun hmisleading
    obtain ⟨c, hc, rfl, hcr⟩ := h.call_of_retained hrun
    have hsame : ∀ file, disk.files (c.path file) = s.disk.files (c.path file) := by
      apply hother c
      cases hr : call.phase.replaced with
      | true => exact .inr rfl
      | false => exact .inl (h.runDir_ne hc hmem hcr hr)
    have hbefore := ((h.call c hc).misleading_congr hsame).mp hmisleading
    obtain ⟨j, d, hj, hd⟩ := h.misleading c.entry hrun hbefore
    by_cases hij : i = j
    · subst hij
      obtain rfl : call = d := Option.some.inj (hi.symm.trans hj)
      rcases hremoved with ⟨hrunning, hsub⟩ | hnone
      · exact ⟨i, call', runningCall_withCall_self hget hrunning, hsub _ hd⟩
      · exact absurd hbefore (hnone _ hd hrun)
    · exact ⟨j, d, by rw [runningCall_withCall_ne hij, hj], hd⟩
/-! ## The operations -/

theorem limit_pos {input : StoreLoopRunInput} {n : ℕ} (h : input.limit = some n) : 1 ≤ n := by
  rw [StoreLoopRunInput.limit] at h
  split at h
  · cases h
  · cases h
  · obtain rfl := Option.some.inj h
    omega

theorem running_of_not_replaced (h : call.stopped = false)
    (hnot : call.phase.replaced = false) : call.running = true := by
  rw [Call.running, h]
  cases hphase : call.phase with
  | returned => rw [hphase] at hnot; cases hnot
  | threw => rw [hphase] at hnot; cases hnot
  | _ => rfl

theorem not_stopped_of_running (h : call.running = true) : call.stopped = false := by
  rw [Call.running, Bool.and_eq_true] at h
  simpa using h.1

/-- A shift, or the end of the loop. -/
theorem evictNext_cases (limit : Option ℕ) (removed runs : List LocalRunHistoryEntry) :
    (∃ run rest n, runs = run :: rest ∧ limit = some n ∧ n < runs.length ∧
      evictNext limit removed runs = .evict (removed ++ [run]) rest) ∨
    (∀ n, limit = some n → runs.length ≤ n) ∧
      evictNext limit removed runs = .replaceIndex removed runs := by
  rw [evictNext.eq_def]
  cases limit with
  | none => exact .inr ⟨fun n hn => absurd hn (by simp), rfl⟩
  | some n =>
      by_cases hmore : n < runs.length
      · obtain ⟨run, rest, rfl⟩ : ∃ run rest, runs = run :: rest :=
          List.exists_cons_of_ne_nil fun hnil => by simp [hnil] at hmore
        exact .inl ⟨run, rest, n, rfl, rfl, hmore, by simp only [Option.any_some, hmore,
          decide_true, if_true]⟩
      · refine .inr ⟨fun m hm => ?_, by simp only [Option.any_some, hmore, decide_false,
          Bool.false_eq_true, if_false]⟩
        obtain rfl := Option.some.inj hm
        omega

theorem Holds.evictNext {stored removed runs : List LocalRunHistoryEntry}
    (h : Holds stored call.entry call.input.limit removed runs) {phase : Phase}
    (hphase : phase = evictNext call.input.limit removed runs) :
    Remembers stored { call with phase := phase } ∧ phase.replaced = false ∧
      ∀ run ∈ removed, run ∈ phase.removed := by
  obtain ⟨kept, hkept, hmem⟩ := h.read
  rcases evictNext_cases call.input.limit removed runs with
    ⟨run, rest, n, hruns, hlimit, hmore, hnext⟩ | ⟨hdone, hnext⟩
  · rw [hphase, hnext]
    refine ⟨?_, rfl, fun run' hrun' => List.mem_append_left _ hrun'⟩
    have hpos := limit_pos hlimit
    cases kept with
    | nil =>
        rw [hkept] at hmore
        simp only [List.nil_append, List.length_singleton] at hmore
        omega
    | cons run' kept =>
        rw [hkept, List.cons_append, List.cons.injEq] at hruns
        obtain ⟨rfl, rfl⟩ := hruns
        refine ⟨⟨kept, rfl, fun r hr => hmem r ?_⟩, .inr ⟨n, hlimit, ?_⟩⟩
        · simpa using hr
        · rw [hkept, List.cons_append, List.length_cons] at hmore
          omega
  · rw [hphase, hnext]
    exact ⟨⟨h, hdone⟩, rfl, fun run' hrun' => hrun'⟩

section Operations

variable {i : ℕ} {phase : Phase}

/-- An operation that writes a file of the run. -/
theorem StoreInv.wrote (h : StoreInv root isDateTime s) (hi : s.runningCall i = some call)
    {file : RunFile} (hcall : call.phase.replaced = false) (hnot : phase.replaced = false)
    (hwritten : ∀ f ∈ phase.written, f = file ∨ f ∈ call.phase.written)
    (hremoved : call.phase.removed = [])
    (hmemory : ∀ stored, Remembers stored { call with phase := phase }) :
    StoreInv root isDateTime (s.withCall i { call with phase := phase }
      (s.disk.write (call.path file) (call.input.text file))) := by
  obtain ⟨hget, hrunning⟩ := runningCall_eq_some hi
  have hinv := h.call call (List.mem_of_getElem? hget)
  have hstopped := not_stopped_of_running hrunning
  refine h.withCall hi ?_ ?_ ?_ ?_ ?_ ?_
  · rfl
  · intro hyes
    rw [hyes] at hcall
    cases hcall
  · rfl
  · intro path
    by_cases hpath : path = call.path file
    · exact .inr ⟨hcall, file, hpath⟩
    · exact .inl (Function.update_of_ne hpath _ _)
  · refine ⟨hinv.built, hinv.listable, fun _ => ⟨(hinv.unlisted hcall).1, ?_⟩, ?_, hmemory _⟩
    · intro f hf
      show Function.update s.disk.files (call.path file) _ (call.path f) = _
      by_cases hsame : f = file
      · rw [hsame, Function.update_self]
      · have hne : call.path f ≠ call.path file := fun heq => hsame (pathIn_inj heq).2
        rw [Function.update_of_ne hne]
        exact (hinv.unlisted hcall).2 f ((hwritten f hf).resolve_left hsame)
    · intro hyes
      rw [hnot] at hyes
      cases hyes
  · refine .inl ⟨running_of_not_replaced hstopped hnot, ?_⟩
    rw [hremoved]
    exact fun run hrun => absurd hrun List.not_mem_nil

/-- An operation that leaves the disk as it is. -/
theorem StoreInv.moved (h : StoreInv root isDateTime s) (hi : s.runningCall i = some call)
    (hcall : call.phase.replaced = false) (hnot : phase.replaced = false)
    (hwritten : ∀ f ∈ phase.written, f ∈ call.phase.written)
    (hremoved : ∀ run ∈ call.phase.removed, run ∈ phase.removed)
    (hmemory : Remembers (s.stored.map Prod.fst) { call with phase := phase }) :
    StoreInv root isDateTime (s.withCall i { call with phase := phase } s.disk) := by
  obtain ⟨hget, hrunning⟩ := runningCall_eq_some hi
  have hinv := h.call call (List.mem_of_getElem? hget)
  have hstopped := not_stopped_of_running hrunning
  refine h.withCall hi ?_ ?_ ?_ ?_ ?_ ?_
  · rfl
  · intro hyes
    rw [hyes] at hcall
    cases hcall
  · rfl
  · exact fun path => .inl rfl
  · refine ⟨hinv.built, hinv.listable, fun _ => ⟨(hinv.unlisted hcall).1, ?_⟩, ?_, hmemory⟩
    · exact fun f hf => (hinv.unlisted hcall).2 f (hwritten f hf)
    · intro hyes
      rw [hnot] at hyes
      cases hyes
  · exact .inl ⟨running_of_not_replaced hstopped hnot, hremoved⟩

end Operations
/-- The index reads back as it was written. -/
theorem StoreInv.readBack (h : StoreInv root isDateTime s) {i : ℕ}
    (hi : s.runningCall i = some call) {runs : List LocalRunHistoryEntry}
    (hphase : call.phase = .readBack runs) :
    StoreInv root isDateTime (s.withCall i { call with phase := .returned } s.disk) := by
  obtain ⟨hget, -⟩ := runningCall_eq_some hi
  have hinv := h.call call (List.mem_of_getElem? hget)
  have hreplaced : call.phase.replaced = true := by rw [hphase]; rfl
  refine h.withCall hi ?_ ?_ ?_ ?_ ?_ ?_
  · rfl
  · exact fun _ => rfl
  · rfl
  · exact fun path => .inl rfl
  · refine ⟨hinv.built, hinv.listable, ?_, fun _ => hinv.kept hreplaced, trivial⟩
    intro hnot
    cases hnot
  · refine .inr ?_
    rw [hphase]
    exact fun run hrun => absurd hrun List.not_mem_nil

/-- The index that was read is replaced. -/
theorem StoreInv.replaceIndex (h : StoreInv root isDateTime s) {i : ℕ}
    (hi : s.runningCall i = some call) {removed runs : List LocalRunHistoryEntry}
    (hphase : call.phase = .replaceIndex removed runs)
    (hread : removed ++ runs = readIndexOrEmpty isDateTime s.disk.index ++ [call.entry])
    {disk : Disk} (hindex : disk.index = some (fileText (indexJson runs)))
    (hfiles : disk.files = s.disk.files)
    (hs' : s' = ⟨disk, s.calls.set i { call with phase := .readBack runs },
      s.stored ++ [(call.entry, call.input.limit)]⟩) :
    StoreInv root isDateTime s' := by
  obtain ⟨hget, -⟩ := runningCall_eq_some hi
  have hmem : call ∈ s.calls := List.mem_of_getElem? hget
  have hinv := h.call call hmem
  have hnot : call.phase.replaced = false := by rw [hphase]; rfl
  obtain ⟨hown, hwritten⟩ := hinv.unlisted hnot
  have hcomplete : ∀ file, s.disk.files (call.path file) = some (call.input.text file) := by
    intro file
    apply hwritten
    rw [hphase]
    cases file <;> simp [Phase.written]
  have hmemory := hinv.memory
  rw [Remembers, hphase] at hmemory
  obtain ⟨hholds, hlimit⟩ := hmemory
  rw [h.index] at hread
  have hretained : retained s'.stored = runs := by
    rw [hs', retained_concat, ← hread]
    exact keepLast_eq hlimit hholds.bounded
  have hcases : ∀ run ∈ runs, run ∈ retained s.stored ∨ run = call.entry := by
    intro run hrun
    have hall : run ∈ retained s.stored ++ [call.entry] := by
      rw [← hread]
      exact List.mem_append_right _ hrun
    simpa using hall
  have hlistable : ∀ run ∈ runs, Listable isDateTime run := by
    intro run hrun
    rcases hcases run hrun with hold | rfl
    · obtain ⟨c, hc, rfl, -⟩ := h.call_of_retained hold
      exact (h.call c hc).listable
    · exact hinv.listable
  have hnodup : (s'.stored.map fun x => x.1.runDir).Nodup := by
    rw [hs', List.map_append]
    refine List.nodup_append.mpr ⟨h.nodup, List.nodup_singleton _, ?_⟩
    intro d hd d' hd'
    obtain ⟨x, hx, rfl⟩ := List.mem_map.mp hd
    rw [List.mem_singleton.mp hd']
    exact hown x hx
  have hapart : ∀ run ∈ runs, run ∉ removed := by
    have hsuffix : removed ++ runs <:+ s'.stored.map Prod.fst := by
      obtain ⟨front, hfront⟩ := retained_suffix s.stored
      exact ⟨front, by rw [hread, ← List.append_assoc, hfront, hs', List.map_append]; rfl⟩
    have hdirs : ((s'.stored.map Prod.fst).map (·.runDir)).Nodup := by
      rw [List.map_map]
      exact hnodup
    have hall : (removed ++ runs).Nodup :=
      List.Nodup.of_map _ ((hsuffix.sublist.map _).nodup hdirs)
    exact fun run hrun hremoved => (List.nodup_append.mp hall).2.2 run hremoved run hrun rfl
  subst hs'
  refine ⟨?_, ?_, ?_, hnodup, ?_, ?_⟩
  · show ((s.calls.set i _).map fun c => c.entry.runDir).Nodup
    rw [map_set_of_eq hget]
    · exact h.distinct
    · rfl
  · intro c hc
    rcases mem_set_cases hget h.distinct hc with rfl | ⟨hold, hne⟩
    · refine ⟨hinv.built, hinv.listable, ?_, fun _ file => .inl ?_, trivial⟩
      · intro hnone
        cases hnone
      show disk.files (call.path file) = _
      rw [hfiles]
      exact hcomplete file
    · apply (h.call c hold).frame
      · intro file
        exact congrFun hfiles _
      · exact fun x hx => List.mem_append_left _ hx
      · intro x hx hnew
        rcases List.mem_append.mp hx with hx | hx
        · exact absurd hx hnew
        · rw [List.mem_singleton.mp hx]
          exact hne.symm
  · intro x hx
    have hset : ({ call with phase := .readBack runs } : Call) ∈
        s.calls.set i { call with phase := .readBack runs } :=
      List.mem_set (List.getElem?_eq_some_iff.mp hget).1 _
    rcases List.mem_append.mp hx with hx | hx
    · obtain ⟨c, hc, hcx, hcr⟩ := h.stored x hx
      rcases mem_set_of_mem _ hget hc with rfl | hkept
      · exact ⟨_, hset, hcx, rfl⟩
      · exact ⟨c, hkept, hcx, hcr⟩
    · rw [List.mem_singleton.mp hx]
      exact ⟨_, hset, rfl, rfl⟩
  · show readIndexOrEmpty isDateTime disk.index = _
    rw [hindex, readIndexOrEmpty_indexJson hlistable, hretained]
  · intro run hrun hmisleading
    rw [hretained] at hrun
    have hbefore : Misleading s.disk run := by
      rw [Misleading, Disk.existsSync, Disk.existsSync, Disk.existsSync, hfiles] at hmisleading
      exact hmisleading
    rcases hcases run hrun with hold | rfl
    · obtain ⟨j, c, hj, hc⟩ := h.misleading run hold hbefore
      have hij : i ≠ j := by
        rintro rfl
        obtain rfl : call = c := Option.some.inj (hi.symm.trans hj)
        rw [hphase] at hc
        exact hapart run hrun hc
      refine ⟨j, c, ?_, hc⟩
      rw [← hj, State.runningCall, State.runningCall]
      dsimp only
      rw [List.getElem?_set_ne hij]
    · have hgone := (hinv.misleading_iff.mp hbefore).2.2
      rw [Disk.existsSync, hcomplete] at hgone
      cases hgone
/-- A file of a run that is being removed goes. -/
theorem StoreInv.removeFile (h : StoreInv root isDateTime s) {i : ℕ}
    (hi : s.runningCall i = some call) (file : RunFile) :
    StoreInv root isDateTime (s.removeFile call file) := by
  obtain ⟨hget, -⟩ := runningCall_eq_some hi
  have hinv := h.call call (List.mem_of_getElem? hget)
  rw [State.removeFile]
  split
  case h_2 => exact h
  rename_i removed runs hphase
  split
  case h_2 => exact h
  rename_i run hlast
  have hrun : run ∈ removed := List.mem_of_getLast? hlast
  have hmemory := hinv.memory
  rw [Remembers, hphase] at hmemory
  obtain ⟨kept, -, hstored⟩ := hmemory.read
  obtain ⟨x, hx, rfl⟩ := List.mem_map.mp (hstored run (List.mem_append_left _ hrun))
  obtain ⟨owner, howner, hentry, hreplaced⟩ := h.stored x hx
  have hother : ∀ c ∈ s.calls, c ≠ owner → ∀ f,
      (s.disk.remove (pathIn x.1.runDir file)).files (c.path f) = s.disk.files (c.path f) := by
    intro c hc hne f
    apply Function.update_of_ne
    rw [← hentry]
    exact pathIn_ne (fun hsame => hne (h.call_unique hc howner hsame)) f file
  refine ⟨h.distinct, ?_, h.stored, h.nodup, h.index, ?_⟩
  · intro c hc
    by_cases hc' : c = owner
    · subst hc'
      have hbefore := h.call c hc
      refine ⟨hbefore.built, hbefore.listable, ?_, ?_, hbefore.memory⟩
      · intro hnot
        rw [hreplaced] at hnot
        cases hnot
      · intro _ f
        by_cases hpath : c.path f = pathIn x.1.runDir file
        · right
          show Function.update _ _ _ _ = _
          rw [hpath, Function.update_self]
        · show Function.update _ _ _ _ = _ ∨ Function.update _ _ _ _ = _
          rw [Function.update_of_ne hpath]
          exact hbefore.kept hreplaced f
    · exact (h.call c hc).frame (hother c hc hc') (fun _ hx' => hx')
        fun _ hx' hnot => absurd hx' hnot
  · intro run hretained hmisleading
    obtain ⟨c, hc, rfl, -⟩ := h.call_of_retained hretained
    by_cases hc' : c = owner
    · subst hc'
      refine ⟨i, call, hi, ?_⟩
      rw [hphase, hentry]
      exact hrun
    · have hsame := (h.call c hc).misleading_congr (hother c hc hc')
      exact h.misleading c.entry hretained (hsame.mp hmisleading)

/-- At most a part of the file that was being written. -/
theorem leftBehind_cases (disk : Disk) (call : Call) (part : Option String) :
    leftBehind disk call part = disk ∨ ∃ file text, call.phase.target? = some file ∧
      leftBehind disk call part = disk.write (call.path file) text := by
  rw [leftBehind.eq_def]
  split
  · rename_i file text htarget
    exact .inr ⟨file, text, htarget, rfl⟩
  · exact .inl rfl

/-- The file that is being written is not yet among those that were. -/
theorem Phase.target_not_written {phase : Phase} {file : RunFile}
    (h : phase.target? = some file) : phase.replaced = false ∧ file ∉ phase.written := by
  cases phase with
  | copyEvents =>
      obtain rfl := Option.some.inj h
      decide
  | writeResult =>
      obtain rfl := Option.some.inj h
      decide
  | writeCertificate =>
      obtain rfl := Option.some.inj h
      decide
  | _ => cases h

/-- The call stops and leaves nothing misleading. -/
theorem StoreInv.stop (h : StoreInv root isDateTime s) {i : ℕ}
    (hi : s.runningCall i = some call) (part : Option String)
    (hcareful : ∀ run ∈ call.phase.removed,
      run ∈ readIndexOrEmpty isDateTime s.disk.index → ¬Misleading s.disk run) :
    StoreInv root isDateTime (s.stop i call part) := by
  obtain ⟨hget, -⟩ := runningCall_eq_some hi
  have hinv := h.call call (List.mem_of_getElem? hget)
  rw [h.index] at hcareful
  rw [State.stop]
  rcases leftBehind_cases s.disk call part with hsame | ⟨target, text, htarget, hdisk⟩
  · rw [hsame]
    refine h.withCall hi ?_ ?_ ?_ ?_ ?_ (.inr hcareful)
    · rfl
    · exact id
    · rfl
    · exact fun path => .inl rfl
    · exact ⟨hinv.built, hinv.listable, hinv.unlisted, hinv.kept, hinv.memory⟩
  · rw [hdisk]
    have hnot := Phase.target_not_written htarget
    refine h.withCall hi ?_ ?_ ?_ ?_ ?_ (.inr hcareful)
    · rfl
    · exact id
    · rfl
    · intro path
      by_cases hpath : path = call.path target
      · exact .inr ⟨hnot.1, target, hpath⟩
      · exact .inl (Function.update_of_ne hpath _ _)
    · refine ⟨hinv.built, hinv.listable, fun hcall => ⟨(hinv.unlisted hcall).1, ?_⟩, ?_,
        hinv.memory⟩
      · intro f hf
        show Function.update s.disk.files (call.path target) _ (call.path f) = _
        have hne : call.path f ≠ call.path target := by
          intro heq
          rw [(pathIn_inj heq).2] at hf
          exact hnot.2 hf
        rw [Function.update_of_ne hne]
        exact (hinv.unlisted hcall).2 f hf
      · intro hyes
        rw [hnot.1] at hyes
        cases hyes

/-- A call begins. -/
theorem StoreInv.newCall (h : StoreInv root isDateTime s) {input : StoreLoopRunInput}
    {capturedAt uuid : String} (hprovided : Provided root isDateTime s
      (.call input capturedAt uuid)) (hname : input.workflowId ≠ "") :
    StoreInv root isDateTime { s with calls := s.calls ++ [newCall root input capturedAt uuid] } := by
  obtain ⟨hdate, hfresh⟩ := hprovided
  refine ⟨?_, ?_, ?_, h.nodup, h.index, ?_⟩
  · rw [List.map_append]
    refine List.nodup_append.mpr ⟨h.distinct, List.nodup_singleton _, ?_⟩
    intro d hd d' hd'
    obtain ⟨c, hc, rfl⟩ := List.mem_map.mp hd
    rw [List.mem_singleton.mp hd']
    exact hfresh c hc
  · intro c hc
    rcases List.mem_append.mp hc with hc | hc
    · exact (h.call c hc).frame (fun _ => rfl) (fun _ hx => hx) fun _ hx hnot => absurd hx hnot
    · rw [List.mem_singleton.mp hc]
      refine ⟨⟨capturedAt, uuid, rfl⟩, ⟨hname, hdate, ?_, ?_, ?_, ?_⟩, ?_, ?_, trivial⟩
      · simp [Loop.newCall, newEntry]
      · simp [Loop.newCall, newEntry, pathIn]
      · simp [Loop.newCall, newEntry, pathIn]
      · simp [Loop.newCall, newEntry, pathIn]
      · refine fun _ => ⟨?_, fun file hfile => absurd hfile List.not_mem_nil⟩
        intro x hx
        obtain ⟨c', hc', hentry, -⟩ := h.stored x hx
        rw [← hentry]
        exact hfresh c' hc'
      · intro hyes
        cases hyes
  · intro x hx
    obtain ⟨c, hc, hentry, hreplaced⟩ := h.stored x hx
    exact ⟨c, List.mem_append_left _ hc, hentry, hreplaced⟩
  · intro run hrun hmisleading
    obtain ⟨j, c, hj, hc⟩ := h.misleading run hrun hmisleading
    refine ⟨j, c, ?_, hc⟩
    obtain ⟨hget, hrunning⟩ := runningCall_eq_some hj
    apply Option.filter_eq_some_iff.mpr
    rw [List.getElem?_append_left (List.getElem?_eq_some_iff.mp hget).1]
    exact ⟨hget, hrunning⟩
/-! ## The steps and the runs -/

/-- The next operation of a call. -/
theorem StoreInv.next (h : StoreInv root isDateTime s) {i : ℕ}
    (hi : s.runningCall i = some call) (hcareful : Careful isDateTime s (.next i)) :
    StoreInv root isDateTime (s.next isDateTime i call) := by
  obtain ⟨hget, hrunning⟩ := runningCall_eq_some hi
  have hmemory := (h.call call (List.mem_of_getElem? hget)).memory
  have hnext : CarefulNext isDateTime s call := hcareful call hi
  rw [Remembers] at hmemory
  rw [CarefulNext] at hnext
  cases hphase : call.phase with
  | makeDirectory =>
      simp only [State.next, advance, hphase]
      apply h.moved hi <;> simp [hphase, Phase.replaced, Phase.written, Phase.removed, Remembers]
  | copyEvents =>
      simp only [State.next, advance, hphase]
      apply h.wrote hi <;> simp [hphase, Phase.replaced, Phase.written, Phase.removed, Remembers]
  | writeResult =>
      simp only [State.next, advance, hphase]
      apply h.wrote hi <;> simp [hphase, Phase.replaced, Phase.written, Phase.removed, Remembers]
  | writeCertificate =>
      simp only [State.next, advance, hphase]
      apply h.wrote hi <;> simp [hphase, Phase.replaced, Phase.written, Phase.removed, Remembers]
  | readIndex =>
      simp only [State.next, advance, hphase]
      have hholds : Holds (s.stored.map Prod.fst) call.entry call.input.limit []
          (readIndexOrEmpty isDateTime s.disk.index ++ [call.entry]) := by
        refine ⟨⟨_, rfl, ?_⟩, .inl rfl⟩
        intro run hrun
        rw [List.nil_append, h.index] at hrun
        exact (retained_suffix s.stored).subset hrun
      obtain ⟨hshifted, hnot, -⟩ := hholds.evictNext rfl
      exact h.moved hi (by rw [hphase]; rfl) hnot
        (by intro f _; rw [hphase]; cases f <;> simp [Phase.written])
        (by rw [hphase]; exact fun run hrun => absurd hrun List.not_mem_nil) hshifted
  | evict removed runs =>
      simp only [State.next, advance, hphase]
      rw [hphase] at hmemory
      obtain ⟨hshifted, hnot, hremoved⟩ := hmemory.evictNext rfl
      exact h.moved hi (by rw [hphase]; rfl) hnot
        (by intro f _; rw [hphase]; cases f <;> simp [Phase.written])
        (by rw [hphase]; exact hremoved) hshifted
  | replaceIndex removed runs =>
      simp only [State.next, advance, hphase]
      rw [hphase] at hnext
      exact h.replaceIndex hi hphase hnext (by rfl) (by rfl) rfl
  | readBack runs =>
      rw [hphase] at hnext
      simp only [State.next, advance, hphase, hnext, if_true]
      exact h.readBack hi hphase
  | unlinkIndex =>
      rw [hphase] at hmemory
      exact hmemory.elim
  | returned =>
      rw [Call.running, hphase, Bool.and_false] at hrunning
      cases hrunning
  | threw =>
      rw [hphase] at hmemory
      exact hmemory.elim

/-- What one step preserves. -/
theorem StoreInv.step (h : StoreInv root isDateTime s) {event : Event}
    (hprovided : Provided root isDateTime s event) (hcareful : Careful isDateTime s event) :
    StoreInv root isDateTime (s.step root isDateTime event) := by
  cases event with
  | call input capturedAt uuid => exact h.newCall hprovided hcareful
  | next i =>
      cases hi : s.runningCall i with
      | some call =>
          simp only [State.step, hi]
          exact h.next hi hcareful
      | none =>
          simp only [State.step, hi]
          exact h
  | removeFile i file =>
      cases hi : s.runningCall i with
      | some call =>
          simp only [State.step, hi]
          exact h.removeFile hi file
      | none =>
          simp only [State.step, hi]
          exact h
  | stop i part =>
      cases hi : s.runningCall i with
      | some call =>
          simp only [State.step, hi]
          exact h.stop hi part (hcareful call hi)
      | none =>
          simp only [State.step, hi]
          exact h

end AgentSkeptic.Loop
