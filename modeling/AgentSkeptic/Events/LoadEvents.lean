import AgentSkeptic.Events.RunEvents
import AgentSkeptic.Support.JsonLayout

/-!
# Loading an events file

`loadEvents.ts`: the file is read line by line.  A line that is not blank and not a
valid event is counted and leaves a run-level reason; an event of another workflow is
counted and left out.
-/

namespace AgentSkeptic.Events

open AgentSkeptic.Support AgentSkeptic.Engine

/-- `text.split(/\r?\n/)`. -/
def splitLines : List Char → List (List Char)
  | [] => [[]]
  | '\r' :: '\n' :: rest => [] :: splitLines rest
  | '\n' :: rest => [] :: splitLines rest
  | c :: rest =>
      match splitLines rest with
      | line :: lines => (c :: line) :: lines
      | [] => [[c]]

def malformedEventLine : Reason :=
  { code := "MALFORMED_EVENT_LINE"
    message :=
      "Event line was missing, invalid JSON, or failed schema validation for a " ++
        "tool observation." }

structure EventFileAggregateCounts where
  eventFileNonEmptyLines : ℕ
  schemaValidEvents : ℕ
  toolObservedForRequestedWorkflowId : ℕ
  toolObservedForOtherWorkflowIds : ℕ
  deriving DecidableEq, Repr

structure LoadEventsResult where
  events : List RunEvent
  runEvents : List RunEvent
  runLevelReasons : List Reason
  eventSequenceIntegrity : EventSequenceIntegrity
  malformedEventLineCount : ℕ
  eventFileAggregateCounts : EventFileAggregateCounts

/-- What a line that is not blank holds: `JSON.parse` and `validateEvent`. -/
def readLine (line : List Char) : Option RunEvent :=
  match parseJson line with
  | none => none
  | some v => if h : validateEvent v = true then some ⟨v, h⟩ else none

/-- `line.trim().length === 0`. -/
def isBlank (line : List Char) : Bool := trimChars line == []

/-- The accumulators of the loop. -/
structure LoadState where
  toolCandidates : List RunEvent
  runEvents : List RunEvent
  runLevelReasons : List Reason
  malformedEventLineCount : ℕ
  schemaValidEvents : ℕ
  toolObservedForRequestedWorkflowId : ℕ
  toolObservedForOtherWorkflowIds : ℕ

def LoadState.start : LoadState := ⟨[], [], [], 0, 0, 0, 0⟩

/-- A valid event. -/
def acceptEvent (workflowId : String) (st : LoadState) (ev : RunEvent) : LoadState :=
  let ofWorkflow := ev.workflowId == some workflowId
  { st with
    schemaValidEvents := st.schemaValidEvents + 1
    toolObservedForRequestedWorkflowId := st.toolObservedForRequestedWorkflowId +
      (if ev.isToolObserved && ofWorkflow then 1 else 0)
    toolObservedForOtherWorkflowIds := st.toolObservedForOtherWorkflowIds +
      (if ev.isToolObserved && !ofWorkflow then 1 else 0)
    runEvents := if ofWorkflow then st.runEvents ++ [ev] else st.runEvents
    toolCandidates :=
      if ofWorkflow && ev.isToolObserved then st.toolCandidates ++ [ev]
      else st.toolCandidates }

/-- One line of the file. -/
def loadLine (workflowId : String) (st : LoadState) (line : List Char) : LoadState :=
  if isBlank line then st
  else
    match readLine line with
    | none =>
        { st with
          malformedEventLineCount := st.malformedEventLineCount + 1
          runLevelReasons := st.runLevelReasons ++ [malformedEventLine] }
    | some ev => acceptEvent workflowId st ev

section

-- `Date.parse`, where it is not `NaN`.
variable (dateParse : String → Option ℤ)

/-- The events of a text. -/
def loadText (workflowId : String) (raw : List Char) : LoadEventsResult :=
  let allLines := splitLines raw
  let st := allLines.foldl (loadLine workflowId) LoadState.start
  let prepared := prepareWorkflowEvents dateParse st.toolCandidates
  { events := prepared.eventsSorted
    runEvents := st.runEvents
    runLevelReasons := st.runLevelReasons
    eventSequenceIntegrity := prepared.eventSequenceIntegrity
    malformedEventLineCount := st.malformedEventLineCount
    eventFileAggregateCounts :=
      { eventFileNonEmptyLines := allLines.countP fun line => !isBlank line
        schemaValidEvents := st.schemaValidEvents
        toolObservedForRequestedWorkflowId := st.toolObservedForRequestedWorkflowId
        toolObservedForOtherWorkflowIds := st.toolObservedForOtherWorkflowIds } }

/-- The file is its bytes, or the message of the error that reading it throws. -/
def loadEventsForWorkflow (file : Except String Bytes) (workflowId : String) :
    Except TruthLayerError LoadEventsResult :=
  match file with
  | .error message => .error ⟨"EVENTS_READ_FAILED", message⟩
  | .ok bytes => .ok (loadText dateParse workflowId (utf8Decode bytes))

end

/-! ## What the loop collects -/

/-- The valid events of the lines that are not blank, in their order. -/
def validEvents (lines : List (List Char)) : List RunEvent :=
  (lines.filter (!isBlank ·)).filterMap readLine

/-- The lines that are neither blank nor a valid event. -/
def malformedLines (lines : List (List Char)) : ℕ :=
  (lines.filter (!isBlank ·)).countP fun line => (readLine line).isNone

/-- The events of a workflow. -/
def ofWorkflow (workflowId : String) (events : List RunEvent) : List RunEvent :=
  events.filter fun ev => ev.workflowId == some workflowId

/-- What the loop has collected after the lines that it has seen. -/
structure Collected (workflowId : String) (lines : List (List Char)) (st : LoadState) :
    Prop where
  runEvents : st.runEvents = ofWorkflow workflowId (validEvents lines)
  toolCandidates : st.toolCandidates =
    (ofWorkflow workflowId (validEvents lines)).filter (·.isToolObserved)
  reasons : st.runLevelReasons = List.replicate (malformedLines lines) malformedEventLine
  malformed : st.malformedEventLineCount = malformedLines lines
  valid : st.schemaValidEvents = (validEvents lines).length

theorem Collected.start (workflowId : String) : Collected workflowId [] LoadState.start :=
  ⟨rfl, rfl, rfl, rfl, rfl⟩

theorem Collected.loadLine {workflowId : String} {lines : List (List Char)}
    {st : LoadState} (h : Collected workflowId lines st) (line : List Char) :
    Collected workflowId (lines ++ [line]) (loadLine workflowId st line) := by
  cases hblank : isBlank line with
  | true =>
      have hvalid : validEvents (lines ++ [line]) = validEvents lines := by
        simp [validEvents, hblank]
      have hmalformed : malformedLines (lines ++ [line]) = malformedLines lines := by
        simp [malformedLines, hblank]
      rw [Events.loadLine, if_pos hblank]
      refine ⟨?_, ?_, ?_, ?_, ?_⟩
      · rw [hvalid, h.runEvents]
      · rw [hvalid, h.toolCandidates]
      · rw [hmalformed, h.reasons]
      · rw [hmalformed, h.malformed]
      · rw [hvalid, h.valid]
  | false =>
      rw [Events.loadLine, if_neg (by simp [hblank])]
      cases hread : readLine line with
      | none =>
          have hvalid : validEvents (lines ++ [line]) = validEvents lines := by
            simp [validEvents, hblank, hread]
          have hmalformed : malformedLines (lines ++ [line]) = malformedLines lines + 1 := by
            simp [malformedLines, hblank, hread]
          refine ⟨?_, ?_, ?_, ?_, ?_⟩
          · rw [hvalid, ← h.runEvents]
          · rw [hvalid, ← h.toolCandidates]
          · rw [hmalformed, List.replicate_succ', ← h.reasons]
          · rw [hmalformed, ← h.malformed]
          · rw [hvalid, ← h.valid]
      | some ev =>
          have hvalid : validEvents (lines ++ [line]) = validEvents lines ++ [ev] := by
            simp [validEvents, hblank, hread]
          have hmalformed : malformedLines (lines ++ [line]) = malformedLines lines := by
            simp [malformedLines, hblank, hread]
          dsimp only
          refine ⟨?_, ?_, ?_, ?_, ?_⟩
          · rw [hvalid, ofWorkflow, List.filter_append, acceptEvent]
            dsimp only
            rw [h.runEvents]
            split_ifs with hof
            · simp [ofWorkflow, hof]
            · simp [ofWorkflow, hof]
          · rw [hvalid, ofWorkflow, List.filter_append, List.filter_append, acceptEvent]
            dsimp only
            rw [h.toolCandidates]
            split_ifs with hof
            · obtain ⟨hworkflow, htool⟩ := Bool.and_eq_true_iff.mp hof
              simp [ofWorkflow, hworkflow, htool]
            · cases hworkflow : ev.workflowId == some workflowId with
              | false => simp [ofWorkflow, hworkflow]
              | true =>
                  have htool : ev.isToolObserved = false := by simpa [hworkflow] using hof
                  simp [ofWorkflow, hworkflow, htool]
          · rw [hmalformed, ← h.reasons, acceptEvent]
          · rw [hmalformed, ← h.malformed, acceptEvent]
          · rw [hvalid, List.length_append, ← h.valid, acceptEvent, List.length_singleton]

theorem Collected.foldl {workflowId : String} {seen : List (List Char)} {st : LoadState}
    (h : Collected workflowId seen st) (lines : List (List Char)) :
    Collected workflowId (seen ++ lines) (lines.foldl (Events.loadLine workflowId) st) := by
  induction lines generalizing seen st with
  | nil => simpa using h
  | cons line lines ih =>
      have hrest := ih (h.loadLine line)
      rwa [List.append_assoc, List.singleton_append] at hrest

/-- What is loaded from a text, by its lines. -/
theorem loadText_eq (dateParse : String → Option ℤ) (workflowId : String)
    (raw : List Char) :
    (loadText dateParse workflowId raw).runEvents =
        ofWorkflow workflowId (validEvents (splitLines raw)) ∧
      (loadText dateParse workflowId raw).events = stableSortEventsBySeq
        ((ofWorkflow workflowId (validEvents (splitLines raw))).filter (·.isToolObserved)) ∧
      (loadText dateParse workflowId raw).runLevelReasons =
        List.replicate (malformedLines (splitLines raw)) malformedEventLine ∧
      (loadText dateParse workflowId raw).eventSequenceIntegrity =
        analyzeEventSequenceIntegrity dateParse
          ((ofWorkflow workflowId (validEvents (splitLines raw))).filter
            (·.isToolObserved)) := by
  have hall := (Collected.start workflowId).foldl (splitLines raw)
  rw [List.nil_append] at hall
  refine ⟨hall.runEvents, ?_, hall.reasons, ?_⟩
  · rw [← hall.toolCandidates]
    rfl
  · rw [← hall.toolCandidates]
    rfl

/-! ## Lines that are written one event at a time -/

/-- A text without line breaks, and what follows its line break. -/
theorem splitLines_line {line : List Char} (hline : '\n' ∉ line)
    (hend : line.getLast? ≠ some '\r') (rest : List Char) :
    splitLines (line ++ '\n' :: rest) = line :: splitLines rest := by
  induction line with
  | nil => rfl
  | cons c line ih =>
      obtain ⟨hc, hline'⟩ : c ≠ '\n' ∧ '\n' ∉ line := by
        simpa [eq_comm] using hline
      have hrest : splitLines (line ++ '\n' :: rest) = line :: splitLines rest := by
        apply ih hline'
        cases line with
        | nil => simp
        | cons d line => simpa using hend
      cases line with
      | nil =>
          have hcr : c ≠ '\r' := by
            rintro rfl
            exact hend rfl
          rw [List.nil_append] at hrest
          rw [List.cons_append, List.nil_append, splitLines.eq_def]
          split
          · rename_i heq
            cases heq
          · rename_i heq
            exact absurd (List.cons.inj heq).1 hcr
          · rename_i heq
            exact absurd (List.cons.inj heq).1 hc
          · rename_i heq
            obtain ⟨rfl, rfl⟩ := List.cons.inj heq
            rw [hrest]
      | cons d line =>
          have hd : d ≠ '\n' := by
            intro heq
            exact hline' (by simp [heq])
          rw [List.cons_append, splitLines.eq_def]
          split
          · rename_i heq
            cases heq
          · rename_i heq
            exact absurd (List.cons.inj (List.cons.inj heq).2).1 hd
          · rename_i heq
            exact absurd (List.cons.inj heq).1 hc
          · rename_i heq
            obtain ⟨rfl, rfl⟩ := List.cons.inj heq
            rw [hrest]

end AgentSkeptic.Events
