import AgentSkeptic.Support.BoundedLog
import AgentSkeptic.Support.JsonLayout
import AgentSkeptic.Support.JsonMembers
import AgentSkeptic.Support.JsSafeInteger
import AgentSkeptic.Support.Machine
import AgentSkeptic.Support.Separated

/-!
# The local run store

`loop/localRunStore.ts`: a run has a directory with three files, and `index.json` lists
the runs.  `storeLoopRun` writes the files, reads the index, adds the run, removes the
directories of the runs that are too many, and replaces the index.

The calls are processes over one disk, taken apart into their file operations, so that a
call may stop between two of them and several calls may overlap.
-/

namespace AgentSkeptic.Loop

open AgentSkeptic.Support

/-! ## The index -/

structure LocalRunHistoryEntry where
  workflowId : String
  capturedAt : String
  runDir : String
  workflowResultPath : String
  eventsPath : String
  outcomeCertificatePath : String
  deriving DecidableEq

def LocalRunHistoryEntry.json (e : LocalRunHistoryEntry) : Json :=
  .obj [("workflowId", .str e.workflowId), ("capturedAt", .str e.capturedAt),
    ("runDir", .str e.runDir), ("workflowResultPath", .str e.workflowResultPath),
    ("eventsPath", .str e.eventsPath),
    ("outcomeCertificatePath", .str e.outcomeCertificatePath)]

def indexJson (runs : List LocalRunHistoryEntry) : Json :=
  .obj [("schemaVersion", .num (.int 1)), ("runs", .arr (runs.map (·.json)))]

/-- `JSON.stringify(v, null, 2)` and a line break. -/
def fileText (v : Json) : String := String.ofList (v.render [' ', ' '] 0 ++ ['\n'])

def entryKeys : List String :=
  ["workflowId", "capturedAt", "runDir", "workflowResultPath", "eventsPath",
    "outcomeCertificatePath"]

/-- `isDateTime` is the format of that name. -/
def entrySchema (isDateTime : String → Bool) : Schema :=
  .object entryKeys
    [("workflowId", .text 1 none), ("capturedAt", .textWith isDateTime),
      ("runDir", .text 1 none), ("workflowResultPath", .text 1 none),
      ("eventsPath", .text 1 none), ("outcomeCertificatePath", .text 1 none)]

/-- `local-run-history-index-v1`. -/
def indexSchema (isDateTime : String → Bool) : Schema :=
  .object ["schemaVersion", "runs"]
    [("schemaVersion", .number 1), ("runs", .array (entrySchema isDateTime))]

def textOf (v : Json) (key : String) : String :=
  match v.member key with
  | .json (.str s) => s
  | _ => ""

def entryOf (v : Json) : LocalRunHistoryEntry where
  workflowId := textOf v "workflowId"
  capturedAt := textOf v "capturedAt"
  runDir := textOf v "runDir"
  workflowResultPath := textOf v "workflowResultPath"
  eventsPath := textOf v "eventsPath"
  outcomeCertificatePath := textOf v "outcomeCertificatePath"

/-- `parsed as LocalRunHistoryIndexV1`. -/
def runsOf (v : Json) : List LocalRunHistoryEntry :=
  match v.member "runs" with
  | .json (.arr items) => items.map entryOf
  | _ => []

/-- The runs that `index.json` lists, by what the file holds. -/
def readIndexOrEmpty (isDateTime : String → Bool) (index : Option String) :
    List LocalRunHistoryEntry :=
  match index with
  | none => []
  | some raw =>
      if jsTrim raw = "" then []
      else
        match parseJson raw.toList with
        | none => []
        | some parsed =>
            if (indexSchema isDateTime).valid parsed then runsOf parsed else []

/-! ## The disk -/

inductive RunFile where
  | events | workflowResult | outcomeCertificate
  deriving DecidableEq, Repr

def RunFile.name : RunFile → String
  | events => "events.ndjson"
  | workflowResult => "workflow-result.json"
  | outcomeCertificate => "outcome-certificate.json"

/-- `path.join(runDir, name)`. -/
def pathIn (runDir : String) (file : RunFile) : String := runDir ++ "/" ++ file.name

structure Disk where
  /-- What `index.json` holds. -/
  index : Option String
  /-- The contents of the files, by their paths. -/
  files : String → Option String

def Disk.existsSync (disk : Disk) (path : String) : Bool := (disk.files path).isSome

def Disk.write (disk : Disk) (path text : String) : Disk :=
  { disk with files := Function.update disk.files path (some text) }

def Disk.remove (disk : Disk) (path : String) : Disk :=
  { disk with files := Function.update disk.files path none }

/-- The last run of the workflow whose result and events are there. -/
def latestCompatiblePriorRun (isDateTime : String → Bool) (disk : Disk)
    (workflowId : String) : Option LocalRunHistoryEntry :=
  (readIndexOrEmpty isDateTime disk.index).reverse.find? fun run =>
    run.workflowId = workflowId && disk.existsSync run.workflowResultPath &&
      disk.existsSync run.eventsPath

/-! ## A call -/

structure StoreLoopRunInput where
  workflowId : String
  /-- What the file at `eventsPath` holds. -/
  events : String
  workflowResult : Json
  certificate : Json
  /-- `none` is `NaN`. -/
  maxRuns : Option JsNumber

/-- How many runs `Math.max(1, Math.floor(maxRuns))` leaves in the index; `NaN` and
`Infinity` set no limit. -/
def StoreLoopRunInput.limit (input : StoreLoopRunInput) : Option ℕ :=
  match input.maxRuns with
  | none => none
  | some (.infinity false) => none
  | some n => some (max 1 n.toRat.floor).toNat

/-- What is written to each file of the run. -/
def StoreLoopRunInput.text (input : StoreLoopRunInput) : RunFile → String
  | .events => input.events
  | .workflowResult => fileText input.workflowResult
  | .outcomeCertificate => fileText input.certificate

/-- `randomUUID()` is `uuid`. -/
def createRunDirName (capturedAt uuid : String) : String :=
  capturedAt.map (fun c => if c = ':' ∨ c = '.' then '-' else c) ++ "-" ++ uuid

/-- The entry of a run that is stored under `root`. -/
def newEntry (root workflowId capturedAt uuid : String) : LocalRunHistoryEntry :=
  let runDir := root ++ "/" ++ createRunDirName capturedAt uuid
  { workflowId := workflowId
    capturedAt := capturedAt
    runDir := runDir
    workflowResultPath := pathIn runDir .workflowResult
    eventsPath := pathIn runDir .events
    outcomeCertificatePath := pathIn runDir .outcomeCertificate }

/-- The operation that a call comes to next, with what the call has in its memory:
`removed` are the runs that were shifted from the index so far, the last of which is
being removed, and `runs` are the others. -/
inductive Phase where
  | makeDirectory
  | copyEvents
  | writeResult
  | writeCertificate
  | readIndex
  | evict (removed runs : List LocalRunHistoryEntry)
  | replaceIndex (removed runs : List LocalRunHistoryEntry)
  | readBack (runs : List LocalRunHistoryEntry)
  | unlinkIndex
  | returned
  | threw

/-- The runs whose directories the call has set out to remove, until the index is
replaced. -/
def Phase.removed : Phase → List LocalRunHistoryEntry
  | evict removed _ => removed
  | replaceIndex removed _ => removed
  | _ => []

/-- The file that the next operation writes. -/
def Phase.target? : Phase → Option RunFile
  | copyEvents => some .events
  | writeResult => some .workflowResult
  | writeCertificate => some .outcomeCertificate
  | _ => none

structure Call where
  input : StoreLoopRunInput
  entry : LocalRunHistoryEntry
  phase : Phase
  /-- The process died, or an operation threw. -/
  stopped : Bool

def Call.running (call : Call) : Bool :=
  !call.stopped &&
    match call.phase with
    | .returned => false
    | .threw => false
    | _ => true

def Call.path (call : Call) (file : RunFile) : String := pathIn call.entry.runDir file

/-- `while (index.runs.length > maxRuns)`. -/
def evictNext (limit : Option ℕ) (removed runs : List LocalRunHistoryEntry) : Phase :=
  if limit.any (· < runs.length) then
    match runs with
    | [] => .replaceIndex removed []
    | run :: rest => .evict (removed ++ [run]) rest
  else .replaceIndex removed runs

/-- The next operation of a call; after an eviction, `rmSync` has returned or its
exception is caught. -/
def advance (isDateTime : String → Bool) (disk : Disk) (call : Call) : Disk × Phase :=
  match call.phase with
  | .makeDirectory => (disk, .copyEvents)
  | .copyEvents => (disk.write (call.path .events) (call.input.text .events), .writeResult)
  | .writeResult =>
      (disk.write (call.path .workflowResult) (call.input.text .workflowResult),
        .writeCertificate)
  | .writeCertificate =>
      (disk.write (call.path .outcomeCertificate) (call.input.text .outcomeCertificate),
        .readIndex)
  | .readIndex =>
      (disk, evictNext call.input.limit []
        (readIndexOrEmpty isDateTime disk.index ++ [call.entry]))
  | .evict removed runs => (disk, evictNext call.input.limit removed runs)
  | .replaceIndex _ runs =>
      ({ disk with index := some (fileText (indexJson runs)) }, .readBack runs)
  | .readBack runs =>
      (disk,
        match disk.index with
        | some readBack =>
            if readBack = fileText (indexJson runs) then .returned else .unlinkIndex
        | none => .threw)
  | .unlinkIndex => ({ disk with index := none }, .threw)
  | .returned => (disk, .returned)
  | .threw => (disk, .threw)

/-! ## Calls over one disk -/

structure State where
  disk : Disk
  calls : List Call
  /-- The runs in the order in which the index was replaced for them, with the limits of
  their calls. -/
  stored : List (LocalRunHistoryEntry × Option ℕ)

def emptyStore : State := ⟨⟨none, fun _ => none⟩, [], []⟩

/-- What happens next.  A call that stops while it writes a file may leave a part of it;
`rmSync` removes the files of a directory in any order. -/
inductive Event where
  | call (input : StoreLoopRunInput) (capturedAt uuid : String)
  | next (i : ℕ)
  | removeFile (i : ℕ) (file : RunFile)
  | stop (i : ℕ) (part : Option String)

def newCall (root : String) (input : StoreLoopRunInput) (capturedAt uuid : String) : Call :=
  ⟨input, newEntry root input.workflowId capturedAt uuid, .makeDirectory, false⟩

def State.withCall (s : State) (i : ℕ) (call : Call) (disk : Disk) : State :=
  { s with disk := disk, calls := s.calls.set i call }

/-- The call does its next operation. -/
def State.next (isDateTime : String → Bool) (s : State) (i : ℕ) (call : Call) : State :=
  let (disk, phase) := advance isDateTime s.disk call
  let s' := s.withCall i { call with phase := phase } disk
  match call.phase with
  | .replaceIndex _ _ => { s' with stored := s.stored ++ [(call.entry, call.input.limit)] }
  | _ => s'

/-- `rmSync` of the run that was shifted last removes one of its files. -/
def State.removeFile (s : State) (call : Call) (file : RunFile) : State :=
  match call.phase with
  | .evict removed _ =>
      match removed.getLast? with
      | some run => { s with disk := s.disk.remove (pathIn run.runDir file) }
      | none => s
  | _ => s

/-- What is on the disk when a call stops. -/
def leftBehind (disk : Disk) (call : Call) (part : Option String) : Disk :=
  match call.phase.target?, part with
  | some file, some text => disk.write (call.path file) text
  | _, _ => disk

def State.stop (s : State) (i : ℕ) (call : Call) (part : Option String) : State :=
  s.withCall i { call with stopped := true } (leftBehind s.disk call part)

/-- The call that is meant, while it is running. -/
def State.runningCall (s : State) (i : ℕ) : Option Call :=
  (s.calls[i]?).filter (·.running)

def State.step (root : String) (isDateTime : String → Bool) (s : State) : Event → State
  | .call input capturedAt uuid =>
      { s with calls := s.calls ++ [newCall root input capturedAt uuid] }
  | .next i =>
      match s.runningCall i with
      | some call => s.next isDateTime i call
      | none => s
  | .removeFile i file =>
      match s.runningCall i with
      | some call => s.removeFile call file
      | none => s
  | .stop i part =>
      match s.runningCall i with
      | some call => s.stop i call part
      | none => s

/-- The calls as a machine that answers nothing. -/
def serve (root : String) (isDateTime : String → Bool) (s : State) (event : Event) :
    State × Unit :=
  (s.step root isDateTime event, ())

/-! ## The index is read as it was written -/

/-- What the schema of the index asks of a run. -/
structure Listable (isDateTime : String → Bool) (e : LocalRunHistoryEntry) : Prop where
  workflowId : e.workflowId ≠ ""
  capturedAt : isDateTime e.capturedAt = true
  runDir : e.runDir ≠ ""
  workflowResultPath : e.workflowResultPath ≠ ""
  eventsPath : e.eventsPath ≠ ""
  outcomeCertificatePath : e.outcomeCertificatePath ≠ ""

variable {isDateTime : String → Bool}

theorem Listable.valid {e : LocalRunHistoryEntry} (h : Listable isDateTime e) :
    (entrySchema isDateTime).valid e.json = true := by
  apply @Schema.valid_of_forall₂ entryKeys _ _ rfl (by decide)
  exact .cons ⟨rfl, text_valid h.workflowId⟩ (.cons ⟨rfl, h.capturedAt⟩
    (.cons ⟨rfl, text_valid h.runDir⟩ (.cons ⟨rfl, text_valid h.workflowResultPath⟩
      (.cons ⟨rfl, text_valid h.eventsPath⟩
        (.cons ⟨rfl, text_valid h.outcomeCertificatePath⟩ .nil)))))

theorem indexJson_valid {runs : List LocalRunHistoryEntry}
    (h : ∀ e ∈ runs, Listable isDateTime e) :
    (indexSchema isDateTime).valid (indexJson runs) = true := by
  have hruns : (Schema.array (entrySchema isDateTime)).valid
      (.arr (runs.map (·.json))) = true := by
    rw [Schema.valid, List.all_map, List.all_eq_true]
    exact fun e he => (h e he).valid
  apply @Schema.valid_of_forall₂ ["schemaVersion", "runs"] _ _ rfl (by decide)
  exact .cons ⟨rfl, rfl⟩ (.cons ⟨rfl, hruns⟩ .nil)

theorem runsOf_indexJson (runs : List LocalRunHistoryEntry) :
    runsOf (indexJson runs) = runs := by
  have hruns : runsOf (indexJson runs) = (runs.map (·.json)).map entryOf := rfl
  rw [hruns, List.map_map]
  exact List.map_id runs

theorem LocalRunHistoryEntry.wellFormed (e : LocalRunHistoryEntry) : e.json.WellFormed := by
  apply @wellFormed_of_plainKeys _ entryKeys (List.Sublist.refl _) (by decide)
  intro m hm
  simp only [List.mem_cons, List.not_mem_nil, or_false] at hm
  rcases hm with rfl | rfl | rfl | rfl | rfl | rfl <;> trivial

theorem indexJson_wellFormed (runs : List LocalRunHistoryEntry) :
    (indexJson runs).WellFormed := by
  apply @wellFormed_of_plainKeys _ ["schemaVersion", "runs"] (List.Sublist.refl _) (by decide)
  intro m hm
  simp only [List.mem_cons, List.not_mem_nil, or_false] at hm
  rcases hm with rfl | rfl
  · exact JsNumber.readable_safeInteger (by norm_num)
  · apply wellFormed_arr
    intro v hv
    obtain ⟨e, -, rfl⟩ := List.mem_map.mp hv
    exact e.wellFormed

/-- An index of listable runs reads back as it was written. -/
theorem readIndexOrEmpty_indexJson {runs : List LocalRunHistoryEntry}
    (h : ∀ e ∈ runs, Listable isDateTime e) :
    readIndexOrEmpty isDateTime (some (fileText (indexJson runs))) = runs := by
  have hparse : parseJson (fileText (indexJson runs)).toList = some (indexJson runs) := by
    rw [fileText, String.toList_ofList]
    exact parseJson_render (forall_mem_of_all (by decide)) (forall_mem_of_all (by decide))
      (indexJson_wellFormed runs)
  have hvisible : jsTrim (fileText (indexJson runs)) ≠ "" := by
    apply @jsTrim_ne_empty _ '\x7b' _ (by decide)
    rw [fileText, String.toList_ofList, indexJson, Json.render, renderParts]
    split_ifs <;> simp
  rw [readIndexOrEmpty, if_neg hvisible, hparse]
  dsimp only
  rw [if_pos (indexJson_valid h), runsOf_indexJson]

/-! ## Paths -/

/-- The files of two directories have different paths. -/
theorem pathIn_inj {runDir runDir' : String} {file file' : RunFile}
    (h : pathIn runDir file = pathIn runDir' file') : runDir = runDir' ∧ file = file' := by
  have hplain : ∀ f : RunFile, '/' ∉ f.name.toList := by
    intro f
    cases f <;> decide
  have hname : ∀ f f' : RunFile, f.name.toList = f'.name.toList → f = f' := by
    intro f f'
    cases f <;> cases f' <;> decide
  have hchars := congrArg String.toList h
  simp only [pathIn, String.toList_append] at hchars
  have hsep : "/".toList = ['/'] := rfl
  rw [hsep, List.append_assoc, List.append_assoc, List.singleton_append,
    List.singleton_append] at hchars
  obtain ⟨hdir, hfile⟩ := cut_last_unique (hplain file) (hplain file') hchars
  exact ⟨String.toList_injective hdir, hname _ _ hfile⟩

theorem pathIn_eq_iff {runDir runDir' : String} {file file' : RunFile} :
    pathIn runDir file = pathIn runDir' file' ↔ runDir = runDir' ∧ file = file' := by
  refine ⟨pathIn_inj, ?_⟩
  rintro ⟨rfl, rfl⟩
  rfl

theorem pathIn_ne {runDir runDir' : String} (h : runDir ≠ runDir') (file file' : RunFile) :
    pathIn runDir file ≠ pathIn runDir' file' :=
  fun hsame => h (pathIn_inj hsame).1

end AgentSkeptic.Loop
