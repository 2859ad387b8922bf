import AgentSkeptic.Support.JsonSchema
import AgentSkeptic.Engine.Types
import Mathlib.Data.List.Perm.Subperm

/-!
# Run events

`schemas/event.schema.json` with `eventSequenceIntegrity.ts`, `prepareWorkflowEvents.ts`
and the graph check of `executionTrace.ts`.  A run event is a JSON value that the
schema accepts; it keeps all its members, and is read through them.
-/

namespace AgentSkeptic.Events

open AgentSkeptic.Support AgentSkeptic.Engine

/-! ## The schema -/

/-- `{ "type": "object" }`. -/
def anyObject : Schema :=
  .scalar fun
    | .obj _ => true
    | _ => false

/-- The members that all branches of versions 2 and 3 have. -/
def wireProperties (schemaVersion : ℤ) (type : String) : List (String × Schema) :=
  [("schemaVersion", .number schemaVersion), ("workflowId", .text 1 none),
    ("runEventId", .text 1 none), ("parentRunEventId", .text 1 none),
    ("type", .oneOf [type]), ("timestamp", .text 0 none)]

def wireRequired : List String := ["schemaVersion", "workflowId", "runEventId", "type"]

/-- The members of an observation that all versions have. -/
def observationProperties : List (String × Schema) :=
  [("seq", .integer 0), ("toolId", .text 1 none), ("params", anyObject)]

def langgraphCheckpointSchema : Schema :=
  .object ["threadId", "checkpointNs", "checkpointId"]
    [("threadId", .text 1 none), ("checkpointNs", .text 0 none),
      ("checkpointId", .text 1 none)]

def toolObservedV1Schema : Schema :=
  .object ["schemaVersion", "workflowId", "seq", "type", "toolId", "params"]
    ([("schemaVersion", .number 1), ("workflowId", .text 1 none),
      ("type", .oneOf ["tool_observed"]), ("timestamp", .text 0 none)] ++
      observationProperties)

def toolObservedV2Schema : Schema :=
  .object (wireRequired ++ ["seq", "toolId", "params"])
    (wireProperties 2 "tool_observed" ++ observationProperties)

def toolObservedV3Schema : Schema :=
  .object (wireRequired ++ ["seq", "toolId", "params", "langgraphCheckpoint"])
    (wireProperties 3 "tool_observed" ++ observationProperties ++
      [("langgraphCheckpoint", langgraphCheckpointSchema)])

def modelTurnSchema : Schema :=
  .object (wireRequired ++ ["status"])
    (wireProperties 2 "model_turn" ++
      [("status", .oneOf ["completed", "error", "aborted", "incomplete"]),
        ("summary", .text 0 none)])

def retrievalSchema : Schema :=
  .object (wireRequired ++ ["source", "status"])
    (wireProperties 2 "retrieval" ++
      [("source", .text 1 none), ("status", .oneOf ["ok", "empty", "error"]),
        ("querySummary", .text 0 none), ("hitCount", .integer 0)])

def controlSchema : Schema :=
  .object (wireRequired ++ ["controlKind"])
    (wireProperties 2 "control" ++
      [("controlKind", .oneOf ["branch", "loop", "interrupt", "gate", "run_completed"]),
        ("label", .text 0 none), ("decision", .oneOf ["taken", "skipped"])])

def toolSkippedSchema : Schema :=
  .object (wireRequired ++ ["toolId", "reason"])
    (wireProperties 2 "tool_skipped" ++
      [("toolId", .text 1 none), ("reason", .text 0 none)])

/-- The branches of `oneOf`. -/
def eventSchemas : List Schema :=
  [toolObservedV1Schema, toolObservedV2Schema, toolObservedV3Schema, modelTurnSchema,
    retrievalSchema, controlSchema, toolSkippedSchema]

/-- Exactly one branch accepts the value. -/
def validateEvent (v : Json) : Bool := (eventSchemas.filter (·.valid v)).length == 1

/-! ## Events -/

structure RunEvent where
  json : Json
  valid : validateEvent json = true

/-- A text member. -/
def textOf (v : Json) (key : String) : Option String :=
  match v.member key with
  | .json (.str s) => some s
  | _ => none

/-- A numeric member. -/
def numberOf (v : Json) (key : String) : Option JsNumber :=
  match v.member key with
  | .json (.num n) => some n
  | _ => none

/-- `isToolObserved`. -/
def isToolObserved (v : Json) : Bool := textOf v "type" == some "tool_observed"

/-- `ev.seq`, which the schema makes an integer that is not negative. -/
def seqOf (v : Json) : ℕ := (((numberOf v "seq").bind JsNumber.toInt?).getD 0).toNat

/-- `ev.schemaVersion` is 2 or 3. -/
def hasRunEventId (v : Json) : Bool :=
  numberOf v "schemaVersion" == some (.int 2) || numberOf v "schemaVersion" == some (.int 3)

/-! ## The branches exclude each other -/

/-- The version and the type that each branch asks for. -/
def eventKinds : List ((ℤ × String) × Schema) :=
  [((1, "tool_observed"), toolObservedV1Schema), ((2, "tool_observed"), toolObservedV2Schema),
    ((3, "tool_observed"), toolObservedV3Schema), ((2, "model_turn"), modelTurnSchema),
    ((2, "retrieval"), retrievalSchema), ((2, "control"), controlSchema),
    ((2, "tool_skipped"), toolSkippedSchema)]

theorem kind_of_valid {version : ℤ} {type : String} {required : List String}
    {properties : List (String × Schema)}
    (hrequired : "schemaVersion" ∈ required ∧ "type" ∈ required)
    (hversion : ("schemaVersion", Schema.number version) ∈ properties)
    (htype : ("type", Schema.oneOf [type]) ∈ properties) {v : Json}
    (h : (Schema.object required properties).valid v = true) :
    numberOf v "schemaVersion" = some (.int version) ∧ textOf v "type" = some type := by
  obtain ⟨w, hw, hwvalid⟩ := Schema.valid_required h hrequired.1 hversion
  obtain ⟨u, hu, huvalid⟩ := Schema.valid_required h hrequired.2 htype
  obtain ⟨s, rfl, hs⟩ := Schema.textWith_valid huvalid
  constructor
  · rw [numberOf, hw, Schema.number_valid hwvalid]
  · have hsame : s = type := by simpa using hs
    rw [textOf, hu, hsame]

theorem kind_of_branch {kind : ℤ × String} {schema : Schema}
    (hmem : (kind, schema) ∈ eventKinds) {v : Json} (h : schema.valid v = true) :
    numberOf v "schemaVersion" = some (.int kind.1) ∧ textOf v "type" = some kind.2 := by
  simp only [eventKinds, List.mem_cons, Prod.mk.injEq, List.not_mem_nil, or_false] at hmem
  rcases hmem with ⟨rfl, rfl⟩ | ⟨rfl, rfl⟩ | ⟨rfl, rfl⟩ | ⟨rfl, rfl⟩ | ⟨rfl, rfl⟩ |
    ⟨rfl, rfl⟩ | ⟨rfl, rfl⟩
  all_goals
    refine kind_of_valid ?_ ?_ ?_ h
    · simp [wireRequired]
    · simp [wireProperties]
    · simp [wireProperties]

/-- A value that a branch accepts is accepted by no other. -/
theorem validateEvent_of_valid {schema : Schema} (hmem : schema ∈ eventSchemas) {v : Json}
    (h : schema.valid v = true) : validateEvent v = true := by
  have hkinds : eventSchemas = eventKinds.map Prod.snd := rfl
  have hnodup : (eventKinds.map Prod.fst).Nodup := by decide
  rw [hkinds] at hmem
  obtain ⟨⟨kind, schema⟩, hpair, rfl⟩ := List.mem_map.mp hmem
  have hkind := kind_of_branch hpair h
  let accepting := eventKinds.filter fun p => p.2.valid v
  have honly : accepting.map Prod.fst ⊆ [kind] := by
    intro other hother
    obtain ⟨p, hp, rfl⟩ := List.mem_map.mp hother
    obtain ⟨hpmem, hpvalid⟩ := List.mem_filter.mp hp
    have hpkind := kind_of_branch hpmem hpvalid
    have hversion : p.1.1 = kind.1 := by
      have heq := hpkind.1.symm.trans hkind.1
      simpa using heq
    have htype : p.1.2 = kind.2 := Option.some.inj (hpkind.2.symm.trans hkind.2)
    exact List.mem_singleton.mpr (Prod.ext hversion htype)
  have hdistinct : (accepting.map Prod.fst).Nodup :=
    hnodup.sublist (List.filter_sublist.map _)
  have hle : accepting.length ≤ 1 := by
    have hcount := (List.subperm_of_subset hdistinct honly).length_le
    simpa using hcount
  have hpos : 0 < accepting.length :=
    List.length_pos_of_mem (List.mem_filter.mpr ⟨hpair, h⟩)
  have hlength : (eventSchemas.filter (·.valid v)).length = accepting.length := by
    rw [hkinds, List.filter_map, List.length_map]
    rfl
  rw [validateEvent, hlength, beq_iff_eq]
  omega

namespace RunEvent

def workflowId (ev : RunEvent) : Option String := textOf ev.json "workflowId"

def isToolObserved (ev : RunEvent) : Bool := Events.isToolObserved ev.json

def seq (ev : RunEvent) : ℕ := seqOf ev.json

def timestamp (ev : RunEvent) : Option String := textOf ev.json "timestamp"

end RunEvent

/-- The branch that accepts an event. -/
theorem RunEvent.exists_branch (ev : RunEvent) :
    ∃ kind schema, (kind, schema) ∈ eventKinds ∧ schema.valid ev.json = true := by
  have hone := ev.valid
  rw [validateEvent, beq_iff_eq] at hone
  obtain ⟨schema, hschema⟩ := List.exists_mem_of_length_pos (hone ▸ Nat.one_pos)
  obtain ⟨hmem, hvalid⟩ := List.mem_filter.mp hschema
  have hkinds : eventSchemas = eventKinds.map Prod.snd := rfl
  rw [hkinds] at hmem
  obtain ⟨⟨kind, schema⟩, hpair, rfl⟩ := List.mem_map.mp hmem
  exact ⟨kind, schema, hpair, hvalid⟩

/-! ## The order of a run -/

inductive EventSequenceIntegrity where
  | normal
  | irregular (reasons : List Reason)
  deriving DecidableEq

def captureOrderNotMonotonicInSeq : Reason :=
  { code := "CAPTURE_ORDER_NOT_MONOTONIC_IN_SEQ"
    message :=
      "Capture order was not non-decreasing in seq; planning and verification used " ++
        "seq-sorted order, not arrival order." }

def eventSequenceTimestampNotMonotonicReason (seqBefore seqAfter : ℕ) : Reason :=
  { code := "TIMESTAMP_NOT_MONOTONIC_WITH_SEQ_SORT_ORDER"
    message := "In seq-sorted order, timestamp decreased between seq " ++
      toString seqBefore ++ " and seq " ++ toString seqAfter ++ "." }

/-- Stable: events of one `seq` keep their order. -/
def stableSortEventsBySeq (events : List RunEvent) : List RunEvent :=
  events.insertionSort fun a b => a.seq ≤ b.seq

/-- Some event is older than one captured before it; `maxSeqSeen` is the newest so far. -/
def captureIrregular : (maxSeqSeen : Option ℕ) → List RunEvent → Bool
  | _, [] => false
  | maxSeqSeen, ev :: events =>
      maxSeqSeen.any (ev.seq < ·) ||
        captureIrregular (some (max (maxSeqSeen.getD 0) ev.seq)) events

section

-- `Date.parse`, where it is not `NaN`.
variable (dateParse : String → Option ℤ)

/-- `parseTimestampMs`. -/
def timestampMs (ev : RunEvent) : Option ℤ := ev.timestamp.bind dateParse

/-- The first adjacent pair whose timestamps decrease. -/
def timestampDrop : List RunEvent → Option (ℕ × ℕ)
  | a :: b :: rest =>
      match timestampMs dateParse a, timestampMs dateParse b with
      | some ta, some tb =>
          if tb < ta then some (a.seq, b.seq) else timestampDrop (b :: rest)
      | _, _ => timestampDrop (b :: rest)
  | _ => none

def sequenceReasons (captureOrder : List RunEvent) : List Reason :=
  (if captureIrregular none captureOrder then [captureOrderNotMonotonicInSeq] else []) ++
    match timestampDrop dateParse (stableSortEventsBySeq captureOrder) with
    | some (seqBefore, seqAfter) =>
        [eventSequenceTimestampNotMonotonicReason seqBefore seqAfter]
    | none => []

def analyzeEventSequenceIntegrity (captureOrder : List RunEvent) :
    EventSequenceIntegrity :=
  match sequenceReasons dateParse captureOrder with
  | [] => .normal
  | reasons => .irregular reasons

structure PreparedEvents where
  eventsSorted : List RunEvent
  eventSequenceIntegrity : EventSequenceIntegrity

def prepareWorkflowEvents (captureOrder : List RunEvent) : PreparedEvents where
  eventsSorted := stableSortEventsBySeq captureOrder
  eventSequenceIntegrity := analyzeEventSequenceIntegrity dateParse captureOrder

end

def EventSequenceIntegrity.reasons : EventSequenceIntegrity → List Reason
  | normal => []
  | irregular reasons => reasons

theorem reasons_analyze (dateParse : String → Option ℤ) (captureOrder : List RunEvent) :
    (analyzeEventSequenceIntegrity dateParse captureOrder).reasons =
      sequenceReasons dateParse captureOrder := by
  unfold analyzeEventSequenceIntegrity
  cases sequenceReasons dateParse captureOrder <;> rfl

/-- Events in the order of their `seq` are captured regularly. -/
theorem captureIrregular_of_pairwise {events : List RunEvent} {maxSeqSeen : Option ℕ}
    (hsorted : events.Pairwise fun a b => a.seq ≤ b.seq)
    (hmax : ∀ m, maxSeqSeen = some m → ∀ ev ∈ events, m ≤ ev.seq) :
    captureIrregular maxSeqSeen events = false := by
  induction events generalizing maxSeqSeen with
  | nil => rfl
  | cons ev events ih =>
      obtain ⟨hfirst, hrest⟩ := List.pairwise_cons.mp hsorted
      have hnot : maxSeqSeen.any (ev.seq < ·) = false := by
        cases maxSeqSeen with
        | none => rfl
        | some m =>
            have hle := hmax m rfl ev List.mem_cons_self
            simpa using hle
      have hseen : max (maxSeqSeen.getD 0) ev.seq = ev.seq := by
        cases maxSeqSeen with
        | none => simp
        | some m => simpa using hmax m rfl ev List.mem_cons_self
      rw [captureIrregular, hnot, hseen, Bool.false_or]
      apply ih hrest
      intro m hm later hlater
      obtain rfl := Option.some.inj hm
      exact hfirst later hlater

theorem stableSort_of_pairwise {events : List RunEvent}
    (hsorted : events.Pairwise fun a b => a.seq ≤ b.seq) :
    stableSortEventsBySeq events = events :=
  hsorted.insertionSort_eq

/-- No reason is about the capture order. -/
theorem captureOrder_not_mem {dateParse : String → Option ℤ} {captureOrder : List RunEvent}
    (h : captureIrregular none captureOrder = false) :
    captureOrderNotMonotonicInSeq ∉
      (analyzeEventSequenceIntegrity dateParse captureOrder).reasons := by
  rw [reasons_analyze, sequenceReasons, h]
  cases timestampDrop dateParse (stableSortEventsBySeq captureOrder) with
  | none => simp
  | some drop =>
      obtain ⟨seqBefore, seqAfter⟩ := drop
      simp [captureOrderNotMonotonicInSeq, eventSequenceTimestampNotMonotonicReason]

/-! ## The parent graph -/

/-- A `TruthLayerError`. -/
structure TruthLayerError where
  code : String
  message : String
  deriving DecidableEq, Repr

/-- `ev.runEventId`. -/
def runEventIdOf (v : Json) : String := (textOf v "runEventId").getD ""

/-- `ev.parentRunEventId` of an event that has an id. -/
def parentOf (v : Json) : Option String :=
  if hasRunEventId v then textOf v "parentRunEventId" else none

/-- The first loop: the index of each id, or the id that is seen twice. -/
def idToIndex : (i : ℕ) → (seen : List (String × ℕ)) → List Json →
    Except TruthLayerError (List (String × ℕ))
  | _, seen, [] => .ok seen
  | i, seen, ev :: events =>
      if hasRunEventId ev then
        if seen.any (·.1 == runEventIdOf ev) then
          .error ⟨"TRACE_DUPLICATE_RUN_EVENT_ID",
            "Duplicate runEventId: " ++ runEventIdOf ev⟩
        else idToIndex (i + 1) (seen ++ [(runEventIdOf ev, i)]) events
      else idToIndex (i + 1) seen events

/-- The second loop: every parent stands before its child. -/
def checkParents (indices : List (String × ℕ)) :
    (i : ℕ) → List Json → Except TruthLayerError Unit
  | _, [] => .ok ()
  | i, ev :: events =>
      match parentOf ev with
      | none => checkParents indices (i + 1) events
      | some p =>
          match (indices.find? (·.1 == p)).map Prod.snd with
          | none =>
              .error ⟨"TRACE_UNKNOWN_PARENT_RUN_EVENT_ID", "Unknown parentRunEventId: " ++ p⟩
          | some pi =>
              if i ≤ pi then
                .error ⟨"TRACE_PARENT_FORWARD_REFERENCE",
                  "parentRunEventId must reference a strictly earlier event; offending " ++
                    "child index " ++ toString i ++ ", parent index " ++ toString pi ++ "."⟩
              else checkParents indices (i + 1) events

def assertValidRunEventParentGraph (runEvents : List Json) : Except TruthLayerError Unit :=
  match idToIndex 0 [] runEvents with
  | .error e => .error e
  | .ok indices => checkParents indices 0 runEvents

/-- The ids of the events that have one. -/
def runIds (events : List Json) : List String :=
  (events.filter hasRunEventId).map runEventIdOf

/-- Every parent is the id of an event that stands before its child. -/
def ParentsEarlier (events : List Json) : Prop :=
  ∀ pre ev post, events = pre ++ ev :: post → ∀ p, parentOf ev = some p → p ∈ runIds pre

/-- The ids with their indices, counted from `i`. -/
def indexed (i : ℕ) : List Json → List (String × ℕ)
  | [] => []
  | ev :: events =>
      if hasRunEventId ev then (runEventIdOf ev, i) :: indexed (i + 1) events
      else indexed (i + 1) events

theorem runIds_append (events events' : List Json) :
    runIds (events ++ events') = runIds events ++ runIds events' := by
  simp [runIds]

theorem indexed_append (i : ℕ) (events events' : List Json) :
    indexed i (events ++ events') =
      indexed i events ++ indexed (i + events.length) events' := by
  induction events generalizing i with
  | nil => rfl
  | cons ev events ih =>
      rw [List.cons_append, indexed, indexed, ih, List.length_cons,
        show i + 1 + events.length = i + (events.length + 1) by omega]
      split_ifs <;> rfl

theorem indexed_map_fst (i : ℕ) (events : List Json) :
    (indexed i events).map Prod.fst = runIds events := by
  induction events generalizing i with
  | nil => rfl
  | cons ev events ih =>
      rw [indexed]
      split_ifs with hid
      · simp [runIds, hid, ih]
      · simp [runIds, hid, ih]

theorem indexed_lt {i : ℕ} {events : List Json} {p : String × ℕ}
    (h : p ∈ indexed i events) : p.2 < i + events.length := by
  induction events generalizing i with
  | nil => cases h
  | cons ev events ih =>
      rw [List.length_cons]
      rw [indexed] at h
      split_ifs at h with hid
      · rcases List.mem_cons.mp h with rfl | hrest
        · dsimp only
          omega
        · have hlt := ih hrest
          omega
      · have hlt := ih h
        omega

/-- Distinct ids are indexed. -/
theorem idToIndex_of_nodup {i : ℕ} {seen : List (String × ℕ)} {events : List Json}
    (h : (seen.map Prod.fst ++ runIds events).Nodup) :
    idToIndex i seen events = .ok (seen ++ indexed i events) := by
  induction events generalizing i seen with
  | nil => simp [idToIndex, indexed]
  | cons ev events ih =>
      rw [idToIndex, indexed]
      split_ifs with hid hseen
      · obtain ⟨p, hp, heq⟩ := List.any_eq_true.mp hseen
        have hdisjoint := (List.nodup_append.mp h).2.2
        have hev : runEventIdOf ev ∈ runIds (ev :: events) := by
          simp [runIds, hid]
        exact absurd (by simpa using heq)
          (hdisjoint p.1 (List.mem_map_of_mem hp) (runEventIdOf ev) hev)
      · have hids : runIds (ev :: events) = runEventIdOf ev :: runIds events := by
          simp [runIds, hid]
        rw [ih, List.append_assoc, List.singleton_append]
        rwa [List.map_append, List.append_assoc, List.map_singleton,
          List.singleton_append, ← hids]
      · apply ih
        have hids : runIds (ev :: events) = runIds events := by
          simp [runIds, hid]
        rwa [← hids]

theorem checkParents_of_parentsEarlier {pre rest : List Json}
    (h : ParentsEarlier (pre ++ rest)) :
    checkParents (indexed 0 (pre ++ rest)) pre.length rest = .ok () := by
  induction rest generalizing pre with
  | nil => rfl
  | cons ev rest ih =>
      have hrest : checkParents (indexed 0 (pre ++ ev :: rest)) (pre.length + 1) rest =
          .ok () := by
        have hnext := @ih (pre ++ [ev]) (by simpa using h)
        simpa using hnext
      rw [checkParents]
      cases hparent : parentOf ev with
      | none => exact hrest
      | some p =>
          have hp : p ∈ (indexed 0 pre).map Prod.fst := by
            rw [indexed_map_fst]
            exact h pre ev rest rfl p hparent
          obtain ⟨⟨q, j⟩, hmem, hq⟩ := List.mem_map.mp hp
          have hsome : ((indexed 0 pre).find? (·.1 == p)).isSome = true :=
            List.find?_isSome.mpr ⟨(q, j), hmem, by simpa using hq⟩
          obtain ⟨found, hfound⟩ := Option.isSome_iff_exists.mp hsome
          have hlt := indexed_lt (List.mem_of_find?_eq_some hfound)
          rw [Nat.zero_add] at hlt
          have hall : (indexed 0 (pre ++ ev :: rest)).find? (·.1 == p) = some found := by
            rw [indexed_append, List.find?_append, hfound]
            rfl
          simp only [hall, Option.map_some]
          rw [if_neg (by omega)]
          exact hrest

/-- A run with distinct ids whose parents stand before their children is valid. -/
theorem assertValidRunEventParentGraph_of_parentsEarlier {events : List Json}
    (hids : (runIds events).Nodup) (hparents : ParentsEarlier events) :
    assertValidRunEventParentGraph events = .ok () := by
  have hindices : idToIndex 0 [] events = .ok (indexed 0 events) := by
    have hindexed := @idToIndex_of_nodup 0 [] events (by simpa using hids)
    rwa [List.nil_append] at hindexed
  rw [assertValidRunEventParentGraph, hindices]
  exact @checkParents_of_parentsEarlier [] events hparents

theorem mem_indexed {i k : ℕ} {events : List Json} {id : String} :
    (id, k) ∈ indexed i events ↔
      ∃ j ev, k = i + j ∧ events[j]? = some ev ∧ hasRunEventId ev = true ∧
        runEventIdOf ev = id := by
  induction events generalizing i with
  | nil => simp [indexed]
  | cons ev events ih =>
      have hrest : (id, k) ∈ indexed (i + 1) events ↔
          ∃ j later, k = i + (j + 1) ∧ (ev :: events)[j + 1]? = some later ∧
            hasRunEventId later = true ∧ runEventIdOf later = id := by
        rw [ih]
        simp only [List.getElem?_cons_succ, show ∀ j, i + 1 + j = i + (j + 1) by omega]
      have hcons : (id, k) ∈ indexed i (ev :: events) ↔
          (k = i ∧ hasRunEventId ev = true ∧ runEventIdOf ev = id) ∨
            (id, k) ∈ indexed (i + 1) events := by
        rw [indexed]
        split_ifs with hid
        · rw [List.mem_cons, Prod.mk.injEq]
          tauto
        · tauto
      rw [hcons, hrest]
      constructor
      · rintro (⟨rfl, hid, hsame⟩ | ⟨j, later, hk, hlater, hspec⟩)
        · exact ⟨0, ev, rfl, rfl, hid, hsame⟩
        · exact ⟨j + 1, later, hk, hlater, hspec⟩
      · rintro ⟨j, later, hk, hlater, hid, hsame⟩
        rcases j with - | j
        · rw [List.getElem?_cons_zero, Option.some.injEq] at hlater
          subst hlater
          exact .inl ⟨hk, hid, hsame⟩
        · exact .inr ⟨j, later, hk, hlater, hid, hsame⟩

theorem idToIndex_eq_ok {i : ℕ} {seen indices : List (String × ℕ)} {events : List Json}
    (hseen : (seen.map Prod.fst).Nodup) (h : idToIndex i seen events = .ok indices) :
    (seen.map Prod.fst ++ runIds events).Nodup ∧ indices = seen ++ indexed i events := by
  induction events generalizing i seen with
  | nil =>
      rw [idToIndex, Except.ok.injEq] at h
      exact ⟨by simpa [runIds] using hseen, by simpa [indexed] using h.symm⟩
  | cons ev events ih =>
      rw [idToIndex] at h
      rw [indexed]
      split_ifs at h ⊢ with hid hdup
      · have hfresh : runEventIdOf ev ∉ seen.map Prod.fst := by
          intro hmem
          obtain ⟨p, hp, hsame⟩ := List.mem_map.mp hmem
          exact hdup (List.any_eq_true.mpr ⟨p, hp, beq_iff_eq.mpr hsame⟩)
        have hnext : ((seen ++ [(runEventIdOf ev, i)]).map Prod.fst).Nodup := by
          rw [List.map_append, List.map_singleton]
          exact List.Nodup.append hseen (List.nodup_singleton _) (by simpa using hfresh)
        obtain ⟨hnodup, hindices⟩ := ih hnext h
        have hids : runIds (ev :: events) = runEventIdOf ev :: runIds events := by
          simp [runIds, hid]
        rw [hids]
        constructor
        · simpa using hnodup
        · simpa using hindices
      · have hids : runIds (ev :: events) = runIds events := by
          simp [runIds, hid]
        rw [hids]
        exact ih hseen h

theorem checkParents_eq_ok {all rest : List Json} {i : ℕ}
    (h : checkParents (indexed 0 all) i rest = .ok ()) :
    ∀ j ev, rest[j]? = some ev → ∀ p, parentOf ev = some p →
      ∃ k earlier, k < i + j ∧ all[k]? = some earlier ∧ hasRunEventId earlier = true ∧
        runEventIdOf earlier = p := by
  induction rest generalizing i with
  | nil => simp
  | cons first rest ih =>
      have hstep : checkParents (indexed 0 all) (i + 1) rest = .ok () ∧
          ∀ p, parentOf first = some p →
            ∃ k earlier, k < i ∧ all[k]? = some earlier ∧ hasRunEventId earlier = true ∧
              runEventIdOf earlier = p := by
        rw [checkParents] at h
        cases hparent : parentOf first with
        | none =>
            rw [hparent] at h
            exact ⟨h, nofun⟩
        | some p =>
            simp only [hparent] at h
            cases hfind : (indexed 0 all).find? (·.1 == p) with
            | none =>
                rw [hfind] at h
                cases h
            | some found =>
                simp only [hfind, Option.map_some] at h
                split_ifs at h with hlate
                refine ⟨h, ?_⟩
                rintro _ ⟨⟩
                have hmem := List.mem_of_find?_eq_some hfind
                have hsame : found.1 = p := by simpa using List.find?_some hfind
                obtain ⟨k, earlier, hk, hearlier, hid, hspec⟩ := mem_indexed.mp hmem
                exact ⟨k, earlier, by omega, hearlier, hid, hspec.trans hsame⟩
      intro j ev hev p hp
      rcases j with - | j
      · rw [List.getElem?_cons_zero, Option.some.injEq] at hev
        subst hev
        exact hstep.2 p hp
      · obtain ⟨k, earlier, hk, hspec⟩ := ih hstep.1 j ev hev p hp
        exact ⟨k, earlier, by omega, hspec⟩

/-- What a valid graph is. -/
theorem assertValidRunEventParentGraph_iff {events : List Json} :
    assertValidRunEventParentGraph events = .ok () ↔
      (runIds events).Nodup ∧ ParentsEarlier events := by
  constructor
  · intro h
    rw [assertValidRunEventParentGraph] at h
    cases hindices : idToIndex 0 [] events with
    | error e =>
        rw [hindices] at h
        cases h
    | ok indices =>
        rw [hindices] at h
        obtain ⟨hnodup, rfl⟩ := idToIndex_eq_ok (by simp) hindices
        refine ⟨by simpa using hnodup, ?_⟩
        intro pre ev post hsplit p hp
        have hev : events[pre.length]? = some ev := by simp [hsplit]
        obtain ⟨k, earlier, hk, hearlier, hid, hsame⟩ :=
          checkParents_eq_ok h pre.length ev hev p hp
        rw [Nat.zero_add] at hk
        rw [hsplit, List.getElem?_append_left hk] at hearlier
        have hmem := List.mem_of_getElem? hearlier
        exact List.mem_map.mpr ⟨earlier, List.mem_filter.mpr ⟨hmem, hid⟩, hsame⟩
  · rintro ⟨hids, hparents⟩
    exact assertValidRunEventParentGraph_of_parentsEarlier hids hparents

end AgentSkeptic.Events
