import AgentSkeptic.Engine.PlanLogicalSteps
import AgentSkeptic.Events.LoadEvents
import AgentSkeptic.Support.JsSafeInteger
import AgentSkeptic.Support.Machine
import AgentSkeptic.Support.JsonMembers

/-!
# The event emitter

`sdk/events/CanonicalEventEmitter.ts` with the sinks of `sdk/events/sinks.ts`.  A call
builds its event and hands it to the sink before it is suspended for the first time;
the parent of later events is set when it is resumed.  So calls that are not awaited
overlap: each of them may take its `seq` and its parent before an earlier one is resumed.

The sinks write at once, in the order of the calls.  What each method builds fits the
schema, and takes its `seq`, its id and its parent from the emitter's state
(`buildEvent_spec`).
-/

namespace AgentSkeptic.Events

open AgentSkeptic.Support AgentSkeptic.Engine

/-! ## Calls -/

inductive ObservedVersion where
  | v1 | v2
  deriving DecidableEq, Repr

inductive ModelTurnStatus where
  | completed | error | aborted | incomplete
  deriving DecidableEq, Repr

def ModelTurnStatus.text : ModelTurnStatus → String
  | completed => "completed"
  | error => "error"
  | aborted => "aborted"
  | incomplete => "incomplete"

inductive RetrievalStatus where
  | ok | empty | error
  deriving DecidableEq, Repr

def RetrievalStatus.text : RetrievalStatus → String
  | ok => "ok"
  | empty => "empty"
  | error => "error"

inductive ControlKind where
  | branch | loop | interrupt | gate | runCompleted
  deriving DecidableEq, Repr

def ControlKind.text : ControlKind → String
  | branch => "branch"
  | loop => "loop"
  | interrupt => "interrupt"
  | gate => "gate"
  | runCompleted => "run_completed"

inductive ControlDecision where
  | taken | skipped
  deriving DecidableEq, Repr

def ControlDecision.text : ControlDecision → String
  | taken => "taken"
  | skipped => "skipped"

/-- The public methods with their input; `finalizeRun` is the last. -/
inductive EmitCall where
  | emitToolObserved (toolId : String) (params : Json) (timestamp : Option String)
      (schemaVersion : Option ObservedVersion)
  | emitToolObservedLangGraphCheckpoint (toolId : String) (params : Json)
      (checkpoint : LanggraphCheckpointRef) (timestamp : Option String)
  | emitModelTurn (status : ModelTurnStatus) (summary timestamp : Option String)
  | emitRetrieval (source : String) (status : RetrievalStatus)
      (querySummary : Option String) (hitCount : Option JsNumber) (timestamp : Option String)
  | emitControl (controlKind : ControlKind) (decision : Option ControlDecision)
      (label timestamp : Option String)
  | emitToolSkipped (toolId reason : String) (timestamp : Option String)
  | finalizeRun (timestamp : Option String)

/-! ## Sinks -/

/-- A sink whose `write` has its effect before it returns. -/
structure EventSink (σ : Type) where
  write : σ → Json → σ

/-- The events of its `snapshot`. -/
def BufferSink : EventSink (List Json) where
  write events event := events ++ [event]

/-- The bytes of the file, which the first write creates. -/
def NdjsonFileSink : EventSink (Option Bytes) where
  write file event :=
    some (file.getD [] ++ utf8Encode (event.stringify.toList ++ ['\n']))

/-! ## The emitter -/

/-- What the constructor accepts, and `randomUUID`, by the number of ids drawn. -/
structure CanonicalEventEmitter where
  workflowId : String
  nonBlank : jsTrim workflowId ≠ ""
  defaultToolObservedSchemaVersion : ObservedVersion
  randomUUID : ℕ → String

structure EmitterState (σ : Type) where
  seq : ℕ
  parentRunEventId : Option String
  /-- How many ids have been drawn. -/
  drawn : ℕ
  /-- The events whose call waits to be resumed. -/
  suspended : List Json
  sink : σ
  /-- The events that the sink has taken, in order. -/
  written : List Json

def EmitterState.start {σ : Type} (sink : σ) : EmitterState σ where
  seq := 0
  parentRunEventId := none
  drawn := 0
  suspended := []
  sink
  written := []

/-- `seq++`: a JS number counts no further than this. -/
def nextSeq (seq : ℕ) : ℕ := min (seq + 1) (2 ^ 53)

/-- An event, and the counters after it was built. -/
structure Built where
  event : Json
  seq : ℕ
  drawn : ℕ

section

variable (em : CanonicalEventEmitter) {σ : Type} (sink : EventSink σ)

/-- The members that the events of versions 2 and 3 start with. -/
def wireMembers (st : EmitterState σ) (schemaVersion : ℤ) (type : String) :
    List (String × Json) :=
  [("schemaVersion", .num (.int schemaVersion)), ("workflowId", .str em.workflowId),
      ("runEventId", .str (em.randomUUID st.drawn))] ++
    optionalText "parentRunEventId" st.parentRunEventId ++ [("type", .str type)]

/-- An event of version 2 that is no observation. -/
def wireEvent (st : EmitterState σ) (type : String) (members : List (String × Json)) :
    Built where
  event := .obj (wireMembers em st 2 type ++ members)
  seq := st.seq
  drawn := st.drawn + 1

def observationMembers (st : EmitterState σ) (toolId : String) (params : Json)
    (timestamp : Option String) : List (String × Json) :=
  [("seq", .num (.int st.seq)), ("toolId", .str toolId), ("params", params)] ++
    optionalText "timestamp" timestamp

def toolObservedV1 (st : EmitterState σ) (toolId : String) (params : Json)
    (timestamp : Option String) : Built where
  event := .obj
    ([("schemaVersion", .num (.int 1)), ("workflowId", .str em.workflowId),
      ("seq", .num (.int st.seq)), ("type", .str "tool_observed"), ("toolId", .str toolId),
      ("params", params)] ++ optionalText "timestamp" timestamp)
  seq := nextSeq st.seq
  drawn := st.drawn

def toolObservedV2 (st : EmitterState σ) (toolId : String) (params : Json)
    (timestamp : Option String) : Built where
  event := .obj (wireMembers em st 2 "tool_observed" ++
    observationMembers st toolId params timestamp)
  seq := nextSeq st.seq
  drawn := st.drawn + 1

def checkpointMember (checkpoint : LanggraphCheckpointRef) : String × Json :=
  ("langgraphCheckpoint", .obj
    [("threadId", .str checkpoint.threadId), ("checkpointNs", .str checkpoint.checkpointNs),
      ("checkpointId", .str checkpoint.checkpointId)])

def toolObservedV3 (st : EmitterState σ) (toolId : String) (params : Json)
    (checkpoint : LanggraphCheckpointRef) (timestamp : Option String) : Built where
  event := .obj (wireMembers em st 3 "tool_observed" ++
    observationMembers st toolId params timestamp ++ [checkpointMember checkpoint])
  seq := nextSeq st.seq
  drawn := st.drawn + 1

def controlEvent (st : EmitterState σ) (controlKind : ControlKind)
    (decision : Option ControlDecision) (label timestamp : Option String) : Built :=
  wireEvent em st "control"
    ([("controlKind", .str controlKind.text)] ++
      optionalText "decision" (decision.map ControlDecision.text) ++
      optionalText "label" label ++ optionalText "timestamp" timestamp)

def toolIdInvalid : TruthLayerError := ⟨"EMIT_TOOL_ID_INVALID", "toolId must be non-empty."⟩

/-- What a method does before it hands its event to `emit`. -/
def buildEvent (st : EmitterState σ) : EmitCall → Except TruthLayerError Built
  | .emitToolObserved toolId params timestamp schemaVersion =>
      if jsTrim toolId = "" then .error toolIdInvalid
      else
        match schemaVersion.getD em.defaultToolObservedSchemaVersion with
        | .v1 => .ok (toolObservedV1 em st toolId params timestamp)
        | .v2 => .ok (toolObservedV2 em st toolId params timestamp)
  | .emitToolObservedLangGraphCheckpoint toolId params checkpoint timestamp =>
      if jsTrim toolId = "" then .error toolIdInvalid
      else if jsTrim checkpoint.threadId = "" ∨ jsTrim checkpoint.checkpointId = "" then
        .error ⟨"EMIT_LANGGRAPH_CHECKPOINT_INVALID",
          "langgraph checkpoint threadId/checkpointId must be non-empty."⟩
      else .ok (toolObservedV3 em st toolId params checkpoint timestamp)
  | .emitModelTurn status summary timestamp =>
      .ok (wireEvent em st "model_turn"
        ([("status", .str status.text)] ++ optionalText "summary" summary ++
          optionalText "timestamp" timestamp))
  | .emitRetrieval source status querySummary hitCount timestamp =>
      if jsTrim source = "" then
        .error ⟨"EMIT_RETRIEVAL_SOURCE_INVALID", "retrieval source must be non-empty."⟩
      else
        .ok (wireEvent em st "retrieval"
          ([("source", .str source), ("status", .str status.text)] ++
            optionalText "querySummary" querySummary ++ optionalNumber "hitCount" hitCount ++
            optionalText "timestamp" timestamp))
  | .emitControl controlKind decision label timestamp =>
      .ok (controlEvent em st controlKind decision label timestamp)
  | .emitToolSkipped toolId reason timestamp =>
      if jsTrim toolId = "" then .error toolIdInvalid
      else
        .ok (wireEvent em st "tool_skipped"
          ([("toolId", .str toolId), ("reason", .str reason)] ++
            optionalText "timestamp" timestamp))
  | .finalizeRun timestamp => .ok (controlEvent em st .runCompleted none none timestamp)

/-- One step of the process: a call up to its first suspension, its write failing or
not, or the resumption of the `n`-th suspended call. -/
inductive EmitStep where
  | call (input : EmitCall) (writeFails : Bool)
  | resume (n : ℕ)

/-- What the caller sees of a step. -/
inductive EmitAnswer where
  | invalid (error : TruthLayerError)
  | writeFailed
  | suspended (event : Json)
  | resumed

def emitStep (st : EmitterState σ) : EmitStep → EmitterState σ × EmitAnswer
  | .call input writeFails =>
      match buildEvent em st input with
      | .error error => (st, .invalid error)
      | .ok built =>
          let st := { st with seq := built.seq, drawn := built.drawn }
          if writeFails then (st, .writeFailed)
          else
            ({ st with
                sink := sink.write st.sink built.event
                suspended := st.suspended ++ [built.event]
                written := st.written ++ [built.event] }, .suspended built.event)
  | .resume n =>
      match st.suspended[n]? with
      | none => (st, .resumed)
      | some event =>
          ({ st with
              suspended := st.suspended.eraseIdx n
              parentRunEventId :=
                if hasRunEventId event then some (runEventIdOf event)
                else st.parentRunEventId }, .resumed)

end

/-- The call emits an observation. -/
def EmitCall.observes : EmitCall → Bool
  | emitToolObserved .. | emitToolObservedLangGraphCheckpoint .. => true
  | _ => false

def EmitStep.observes : EmitStep → Bool
  | call input _ => input.observes
  | resume _ => false

/-- The input satisfies the constraints of the schema that its type does not: the
parameters are a JSON object, and a hit count is an integer that is not negative. -/
def EmitCall.Admissible : EmitCall → Prop
  | emitToolObserved _ params _ _ | emitToolObservedLangGraphCheckpoint _ params _ _ =>
      params.WellFormed ∧ anyObject.valid params = true
  | emitRetrieval _ _ _ hitCount _ =>
      ∀ n, hitCount = some n → n.Readable ∧ (Schema.integer 0).valid (.num n) = true
  | _ => True

def EmitStep.Admissible : EmitStep → Prop
  | call input _ => input.Admissible
  | resume _ => True

/-! ## Members -/

section Members

variable {members : List (String × Json)} {key : String}

theorem textOf_of_mem (hnodup : (members.map Prod.fst).Nodup) {s : String}
    (hmem : (key, Json.str s) ∈ members) : textOf (.obj members) key = some s := by
  rw [textOf, Json.member, (ownMember_iff hnodup).mpr hmem]

theorem numberOf_of_mem (hnodup : (members.map Prod.fst).Nodup) {n : JsNumber}
    (hmem : (key, Json.num n) ∈ members) : numberOf (.obj members) key = some n := by
  rw [numberOf, Json.member, (ownMember_iff hnodup).mpr hmem]

theorem mem_of_textOf {s : String} (h : textOf (.obj members) key = some s) :
    (key, Json.str s) ∈ members := by
  rw [textOf, Json.member] at h
  cases hown : ownMember members key with
  | none =>
      rw [hown] at h
      dsimp only at h
      unfold inherited at h
      split_ifs at h
  | some v =>
      rw [hown] at h
      cases v with
      | str s' =>
          obtain rfl := Option.some.inj h
          exact ownMember_eq_some hown
      | _ => cases h

end Members

/-! ## Events of versions 2 and 3 -/

def wireKeys : List String :=
  ["schemaVersion", "workflowId", "runEventId", "parentRunEventId", "type"]

section

variable {em : CanonicalEventEmitter} {σ : Type} {st : EmitterState σ}

theorem keys_wireMembers (version : ℤ) (type : String) :
    ((wireMembers em st version type).map Prod.fst).Sublist wireKeys := by
  have hparent := keys_optionalText "parentRunEventId" st.parentRunEventId
  rw [wireMembers, List.map_append, List.map_append]
  exact ((List.Sublist.refl ["schemaVersion", "workflowId", "runEventId"]).append
    hparent).append (.refl ["type"])

theorem keys_wire_append {version : ℤ} {type : String} {rest : List (String × Json)}
    {restKeys : List String} (hsub : (rest.map Prod.fst).Sublist restKeys) :
    ((wireMembers em st version type ++ rest).map Prod.fst).Sublist
      (wireKeys ++ restKeys) := by
  rw [List.map_append]
  exact (keys_wireMembers version type).append hsub

theorem parent_of_mem_wireMembers {version : ℤ} {type p : String}
    (h : ("parentRunEventId", Json.str p) ∈ wireMembers em st version type) :
    st.parentRunEventId = some p := by
  have hoptional : ("parentRunEventId", Json.str p) ∈
      optionalText "parentRunEventId" st.parentRunEventId := by
    simpa [wireMembers] using h
  obtain ⟨s, hs, heq⟩ := mem_optionalText hoptional
  have hps : p = s := by simpa using heq
  rw [hs, hps]

/-- What an event says about itself. -/
structure Emittable (em : CanonicalEventEmitter) (event : Json) : Prop where
  valid : validateEvent event = true
  wellFormed : event.WellFormed
  workflow : textOf event "workflowId" = some em.workflowId

/-- And what it takes from the emitter's state. -/
structure EventSpec (em : CanonicalEventEmitter) (st : EmitterState σ) (event : Json) : Prop
    extends Emittable em event where
  parent : ∀ p, parentOf event = some p → st.parentRunEventId = some p

/-- An event of the wire members and others that fit a branch. -/
theorem wire_spec {version : ℤ} {type : String} {rest : List (String × Json)}
    {own : List String} {properties : List (String × Schema)} (restKeys : List String)
    (hversion : version = 2 ∨ version = 3)
    (hschema : Schema.object (wireRequired ++ own) properties ∈ eventSchemas)
    (hproperties : wireProperties version type ⊆ properties)
    (hown : own ⊆ rest.map Prod.fst)
    (hsub : (rest.map Prod.fst).Sublist restKeys)
    (hplain : plainKeys (wireKeys ++ restKeys) = true)
    (hnodup : (properties.map Prod.fst).Nodup)
    (hreadable : (JsNumber.int version).Readable) (hid : em.randomUUID st.drawn ≠ "")
    (hrest : ∀ m ∈ rest, m.2.WellFormed ∧ Fits properties m) :
    EventSpec em st (.obj (wireMembers em st version type ++ rest)) ∧
      hasRunEventId (.obj (wireMembers em st version type ++ rest)) = true ∧
      runEventIdOf (.obj (wireMembers em st version type ++ rest)) =
        em.randomUUID st.drawn ∧
      textOf (.obj (wireMembers em st version type ++ rest)) "type" = some type := by
  have hkeys := @keys_wire_append em _ st version type _ _ hsub
  have hdistinct := nodup_of_plainKeys hkeys hplain
  have hwire : ∀ m ∈ wireMembers em st version type,
      m.2.WellFormed ∧ Fits properties m := by
    simp only [wireMembers, List.forall_mem_append, List.forall_mem_cons]
    refine ⟨⟨⟨⟨hreadable, .number version, hproperties (by simp [wireProperties]),
        by simp [Schema.number, Schema.valid]⟩,
      ⟨trivial, .text 1 none, hproperties (by simp [wireProperties]),
        text_valid (ne_empty_of_jsTrim em.nonBlank)⟩,
      ⟨trivial, .text 1 none, hproperties (by simp [wireProperties]), text_valid hid⟩,
      by simp⟩, forall_mem_optionalText fun s _ hs => ?_⟩,
      ⟨trivial, .oneOf [type], hproperties (by simp [wireProperties]),
        by simp [Schema.oneOf, Schema.textWith, Schema.valid]⟩, by simp⟩
    exact ⟨trivial, .text 1 none, hproperties (by simp [wireProperties]), text_valid hs⟩
  have hall := List.forall_mem_append.mpr ⟨hwire, hrest⟩
  have hhas : hasRunEventId (.obj (wireMembers em st version type ++ rest)) = true := by
    have hnumber := @numberOf_of_mem _ "schemaVersion" hdistinct (.int version)
      (by simp [wireMembers])
    rw [hasRunEventId, hnumber]
    rcases hversion with rfl | rfl
    · rfl
    · rfl
  refine ⟨⟨⟨?_, ?_, ?_⟩, ?_⟩, hhas, ?_, ?_⟩
  · apply validateEvent_of_valid hschema
    apply Schema.valid_of_members _ hnodup fun m hm => (hall m hm).2
    intro key hkey
    rw [List.map_append, List.mem_append]
    rcases List.mem_append.mp hkey with hwirekey | hownkey
    · left
      simp only [wireRequired, List.mem_cons, List.not_mem_nil, or_false] at hwirekey
      rcases hwirekey with rfl | rfl | rfl | rfl
      all_goals simp [wireMembers]
    · exact .inr (hown hownkey)
  · exact wellFormed_of_plainKeys hkeys hplain fun m hm => (hall m hm).1
  · exact textOf_of_mem hdistinct (by simp [wireMembers])
  · intro p hp
    rw [parentOf, if_pos hhas] at hp
    rcases List.mem_append.mp (mem_of_textOf hp) with hmem | hmem
    · exact parent_of_mem_wireMembers hmem
    · have hkey : "parentRunEventId" ∈ restKeys :=
        hsub.subset (List.mem_map_of_mem hmem)
      have hdisjoint := (List.nodup_append.mp
        (of_decide_eq_true (Bool.and_eq_true_iff.mp hplain).1)).2.2
      exact absurd rfl (hdisjoint "parentRunEventId" (by simp [wireKeys]) _ hkey)
  · rw [runEventIdOf, textOf_of_mem hdistinct
      (show ("runEventId", Json.str (em.randomUUID st.drawn)) ∈ _ by simp [wireMembers])]
    rfl
  · exact textOf_of_mem hdistinct (by simp [wireMembers])

/-- What a method builds, by the counters that it leaves. -/
structure BuiltSpec (em : CanonicalEventEmitter) (st : EmitterState σ) (observes : Bool)
    (built : Built) : Prop where
  event : EventSpec em st built.event
  kind : isToolObserved built.event = observes
  observed : observes = true → seqOf built.event = st.seq ∧ built.seq = nextSeq st.seq
  other : observes = false → built.seq = st.seq
  withId : hasRunEventId built.event = true →
    runEventIdOf built.event = em.randomUUID st.drawn ∧ built.drawn = st.drawn + 1
  withoutId : hasRunEventId built.event = false → built.drawn = st.drawn

theorem readable_one : (JsNumber.int 1).Readable :=
  JsNumber.readable_safeInteger (by norm_num)

theorem readable_two : (JsNumber.int 2).Readable :=
  JsNumber.readable_safeInteger (by norm_num)

theorem readable_three : (JsNumber.int 3).Readable :=
  JsNumber.readable_safeInteger (by norm_num)

theorem readable_limit : (JsNumber.int (2 ^ 53)).Readable := by
  unfold JsNumber.Readable
  decide +kernel

theorem readable_seq_of_le {seq : ℕ} (h : seq ≤ 2 ^ 53) : (JsNumber.int seq).Readable := by
  rcases Nat.lt_or_eq_of_le h with hlt | rfl
  · exact JsNumber.readable_safeInteger hlt
  · exact readable_limit

theorem isToolObserved_of_type {v : Json} {type : String} (h : textOf v "type" = some type) :
    isToolObserved v = (type == "tool_observed") := by
  rw [isToolObserved, h]
  rfl

theorem seqOf_of_mem {members : List (String × Json)}
    (hnodup : (members.map Prod.fst).Nodup) {seq : ℕ}
    (hmem : ("seq", Json.num (.int seq)) ∈ members) : seqOf (.obj members) = seq := by
  rw [seqOf, numberOf_of_mem hnodup hmem]
  simp [JsNumber.toInt?]

/-- An event of version 2 that is no observation. -/
theorem wireEvent_spec {type : String} {rest : List (String × Json)}
    {own : List String} {properties : List (String × Schema)} (restKeys : List String)
    (htype : (type == "tool_observed") = false)
    (hschema : Schema.object (wireRequired ++ own) properties ∈ eventSchemas)
    (hproperties : wireProperties 2 type ⊆ properties)
    (hown : own ⊆ rest.map Prod.fst)
    (hsub : (rest.map Prod.fst).Sublist restKeys)
    (hplain : plainKeys (wireKeys ++ restKeys) = true)
    (hnodup : (properties.map Prod.fst).Nodup) (hid : em.randomUUID st.drawn ≠ "")
    (hrest : ∀ m ∈ rest, m.2.WellFormed ∧ Fits properties m) :
    BuiltSpec em st false (wireEvent em st type rest) := by
  obtain ⟨hevent, hhas, hrunEventId, htypeOf⟩ := wire_spec restKeys (.inl rfl) hschema
    hproperties hown hsub hplain hnodup readable_two hid hrest
  refine ⟨hevent, ?_, fun h => absurd h Bool.false_ne_true, fun _ => rfl, fun _ => ⟨hrunEventId, rfl⟩, ?_⟩
  · rw [← htype]
    exact isToolObserved_of_type htypeOf
  · intro hfalse
    exact absurd (hfalse.symm.trans hhas) Bool.false_ne_true

/-- The members that all observations have fit the properties of an observation. -/
theorem observationMembers_fit {properties : List (String × Schema)} {toolId : String}
    {params : Json} {timestamp : Option String} (hseq : st.seq ≤ 2 ^ 53)
    (htool : jsTrim toolId ≠ "") (hparams : params.WellFormed)
    (hobject : anyObject.valid params = true)
    (hproperties : observationProperties ⊆ properties)
    (htimestamp : ("timestamp", Schema.text 0 none) ∈ properties) :
    ∀ m ∈ observationMembers st toolId params timestamp,
      m.2.WellFormed ∧ Fits properties m := by
  have hinteger : (Schema.integer 0).valid (.num (.int st.seq)) = true := by
    simp [Schema.integer, Schema.valid, JsNumber.toInt?]
  simp only [observationMembers, List.forall_mem_append, List.forall_mem_cons]
  refine ⟨⟨⟨readable_seq_of_le hseq, .integer 0,
      hproperties (by simp [observationProperties]), hinteger⟩,
    ⟨trivial, .text 1 none, hproperties (by simp [observationProperties]),
      text_valid (ne_empty_of_jsTrim htool)⟩,
    ⟨hparams, anyObject, hproperties (by simp [observationProperties]), hobject⟩, by simp⟩,
    forall_mem_optionalText fun s _ _ => ?_⟩
  exact ⟨trivial, .text 0 none, htimestamp, anyText_valid s⟩

theorem keys_observationMembers (st : EmitterState σ) (toolId : String) (params : Json)
    (timestamp : Option String) :
    ((observationMembers st toolId params timestamp).map Prod.fst).Sublist
      ["seq", "toolId", "params", "timestamp"] := by
  rw [observationMembers, List.map_append]
  exact (List.Sublist.refl ["seq", "toolId", "params"]).append (keys_optionalText _ _)

/-- An observation of version 2 or 3. -/
theorem wireObservation_spec {version : ℤ} {toolId : String} {params : Json}
    {timestamp : Option String} {extra : List (String × Json)} {own : List String}
    {properties : List (String × Schema)} (extraKeys : List String)
    (hversion : version = 2 ∨ version = 3)
    (hschema : Schema.object (wireRequired ++ (["seq", "toolId", "params"] ++ own))
      properties ∈ eventSchemas)
    (hproperties : wireProperties version "tool_observed" ++ observationProperties ⊆
      properties)
    (hown : own ⊆ extra.map Prod.fst)
    (hsub : (extra.map Prod.fst).Sublist extraKeys)
    (hplain : plainKeys
      (wireKeys ++ (["seq", "toolId", "params", "timestamp"] ++ extraKeys)) = true)
    (hnodup : (properties.map Prod.fst).Nodup) (hid : em.randomUUID st.drawn ≠ "")
    (hseq : st.seq ≤ 2 ^ 53) (htool : jsTrim toolId ≠ "") (hparams : params.WellFormed)
    (hobject : anyObject.valid params = true)
    (hextra : ∀ m ∈ extra, m.2.WellFormed ∧ Fits properties m) :
    BuiltSpec em st true
      ⟨.obj (wireMembers em st version "tool_observed" ++
          (observationMembers st toolId params timestamp ++ extra)),
        nextSeq st.seq, st.drawn + 1⟩ := by
  obtain ⟨hwireSub, hobservationSub⟩ := List.append_subset.mp hproperties
  have hreadable : (JsNumber.int version).Readable := by
    rcases hversion with rfl | rfl
    · exact readable_two
    · exact readable_three
  have hkeys : ((observationMembers st toolId params timestamp ++ extra).map
      Prod.fst).Sublist (["seq", "toolId", "params", "timestamp"] ++ extraKeys) := by
    rw [List.map_append]
    exact (keys_observationMembers st toolId params timestamp).append hsub
  have hrest : ∀ m ∈ observationMembers st toolId params timestamp ++ extra,
      m.2.WellFormed ∧ Fits properties m := by
    refine List.forall_mem_append.mpr ⟨?_, hextra⟩
    apply observationMembers_fit hseq htool hparams hobject hobservationSub
    exact hwireSub (by simp [wireProperties])
  have hownAll : ["seq", "toolId", "params"] ++ own ⊆
      (observationMembers st toolId params timestamp ++ extra).map Prod.fst := by
    rw [List.map_append, observationMembers, List.map_append]
    apply List.append_subset.mpr
    constructor
    · apply List.subset_append_of_subset_left
      exact List.subset_append_left _ _
    · exact List.subset_append_of_subset_right _ hown
  obtain ⟨hevent, hhas, hrunEventId, htypeOf⟩ := wire_spec _ hversion hschema hwireSub hownAll
    hkeys hplain hnodup hreadable hid hrest
  have hdistinct := nodup_of_plainKeys
    (@keys_wire_append em _ st version "tool_observed" _ _ hkeys) hplain
  refine ⟨hevent, isToolObserved_of_type htypeOf, fun _ => ⟨?_, rfl⟩,
    fun h => absurd h.symm Bool.false_ne_true, fun _ => ⟨hrunEventId, rfl⟩, ?_⟩
  · exact seqOf_of_mem hdistinct (by simp [observationMembers])
  · intro hfalse
    exact absurd (hfalse.symm.trans hhas) Bool.false_ne_true

theorem toolObservedV1_spec {toolId : String} {params : Json} {timestamp : Option String}
    (hseq : st.seq ≤ 2 ^ 53) (htool : jsTrim toolId ≠ "") (hparams : params.WellFormed)
    (hobject : anyObject.valid params = true) :
    BuiltSpec em st true (toolObservedV1 em st toolId params timestamp) := by
  let members := [("schemaVersion", Json.num (.int 1)), ("workflowId", .str em.workflowId),
    ("seq", .num (.int st.seq)), ("type", .str "tool_observed"), ("toolId", .str toolId),
    ("params", params)] ++ optionalText "timestamp" timestamp
  have hkeys : (members.map Prod.fst).Sublist
      ["schemaVersion", "workflowId", "seq", "type", "toolId", "params", "timestamp"] := by
    rw [List.map_append]
    exact (List.Sublist.refl
      ["schemaVersion", "workflowId", "seq", "type", "toolId", "params"]).append
      (keys_optionalText _ _)
  have hplain : plainKeys ["schemaVersion", "workflowId", "seq", "type", "toolId", "params",
      "timestamp"] = true := by
    decide +kernel
  have hdistinct := nodup_of_plainKeys hkeys hplain
  have hfit := @observationMembers_fit _ st
    ([("schemaVersion", .number 1), ("workflowId", .text 1 none),
      ("type", .oneOf ["tool_observed"]), ("timestamp", .text 0 none)] ++
      observationProperties) _ _ timestamp hseq htool hparams hobject
    (List.subset_append_right _ _) (by simp)
  have hall : ∀ m ∈ members, m.2.WellFormed ∧ Fits
      ([("schemaVersion", .number 1), ("workflowId", .text 1 none),
        ("type", .oneOf ["tool_observed"]), ("timestamp", .text 0 none)] ++
        observationProperties) m := by
    have hversion : (Schema.number 1).valid (.num (.int 1)) = true := by
      simp [Schema.number, Schema.valid]
    have htype : (Schema.oneOf ["tool_observed"]).valid (.str "tool_observed") = true := by
      simp [Schema.oneOf, Schema.textWith, Schema.valid]
    have hworkflow := text_valid (ne_empty_of_jsTrim em.nonBlank)
    simp only [observationMembers, List.forall_mem_append, List.forall_mem_cons] at hfit
    obtain ⟨⟨hseqFit, htoolFit, hparamsFit, _⟩, htimestampFit⟩ := hfit
    simp only [members, List.forall_mem_append, List.forall_mem_cons]
    refine ⟨⟨⟨readable_one, .number 1, by simp, hversion⟩,
      ⟨trivial, .text 1 none, by simp, hworkflow⟩, hseqFit,
      ⟨trivial, .oneOf ["tool_observed"], by simp, htype⟩, htoolFit, hparamsFit, by simp⟩,
      htimestampFit⟩
  have hno : hasRunEventId (.obj members) = false := by
    have hnumber := @numberOf_of_mem _ "schemaVersion" hdistinct (.int 1)
      (by simp [members])
    rw [hasRunEventId, hnumber]
    decide
  have hobserved : isToolObserved (.obj members) = true := by
    have htype := @textOf_of_mem _ "type" hdistinct "tool_observed" (by simp [members])
    rw [isToolObserved, htype]
    rfl
  refine ⟨⟨⟨?_, ?_, ?_⟩, ?_⟩, hobserved, fun _ => ⟨?_, rfl⟩,
    fun h => absurd h.symm Bool.false_ne_true, ?_, fun _ => rfl⟩
  · apply validateEvent_of_valid (List.mem_cons_self : toolObservedV1Schema ∈ eventSchemas)
    apply Schema.valid_of_members _ (by decide) fun m hm => (hall m hm).2
    intro key hkey
    simp only [List.mem_cons, List.not_mem_nil, or_false] at hkey
    rcases hkey with rfl | rfl | rfl | rfl | rfl | rfl
    all_goals simp [members]
  · exact wellFormed_of_plainKeys hkeys hplain fun m hm => (hall m hm).1
  · exact textOf_of_mem hdistinct (by simp [members])
  · intro p hp
    rw [parentOf, toolObservedV1, hno] at hp
    cases hp
  · exact seqOf_of_mem hdistinct (by simp [members])
  · intro htrue
    exact absurd (htrue.symm.trans hno) (by decide)

theorem modelTurn_spec (hid : em.randomUUID st.drawn ≠ "") (status : ModelTurnStatus)
    (summary timestamp : Option String) :
    BuiltSpec em st false (wireEvent em st "model_turn"
      ([("status", .str status.text)] ++ optionalText "summary" summary ++
        optionalText "timestamp" timestamp)) := by
  apply @wireEvent_spec em _ st _ _ _ _ ["status", "summary", "timestamp"] (by decide)
    (by simp [eventSchemas, modelTurnSchema] : modelTurnSchema ∈ eventSchemas)
    (List.subset_append_left _ _) (by simp) _ (by decide +kernel) (by decide) hid
  · simp only [List.forall_mem_append, List.forall_mem_singleton]
    refine ⟨⟨oneOf_fits (List.mem_append_right _ List.mem_cons_self) ?_,
      optionalText_fits ?_⟩, optionalText_fits ?_⟩
    · cases status <;> decide
    · simp
    · simp [wireProperties]
  · rw [List.map_append, List.map_append]
    exact ((List.Sublist.refl ["status"]).append (keys_optionalText _ _)).append
      (keys_optionalText _ _)

theorem retrieval_spec (hid : em.randomUUID st.drawn ≠ "") {source : String}
    (hsource : jsTrim source ≠ "") (status : RetrievalStatus)
    (querySummary timestamp : Option String) {hitCount : Option JsNumber}
    (hhitCount : ∀ n, hitCount = some n →
      n.Readable ∧ (Schema.integer 0).valid (.num n) = true) :
    BuiltSpec em st false (wireEvent em st "retrieval"
      ([("source", .str source), ("status", .str status.text)] ++
        optionalText "querySummary" querySummary ++ optionalNumber "hitCount" hitCount ++
        optionalText "timestamp" timestamp)) := by
  apply @wireEvent_spec em _ st _ _ _ _
    ["source", "status", "querySummary", "hitCount", "timestamp"] (by decide)
    (by simp [eventSchemas, retrievalSchema] : retrievalSchema ∈ eventSchemas)
    (List.subset_append_left _ _) (by simp) _ (by decide +kernel) (by decide) hid
  · simp only [List.forall_mem_append, List.forall_mem_cons]
    refine ⟨⟨⟨⟨text_fits (List.mem_append_right _ List.mem_cons_self) hsource,
      oneOf_fits (List.mem_append_right _ (List.mem_cons_of_mem _ List.mem_cons_self)) ?_,
      by simp⟩, optionalText_fits ?_⟩, optionalNumber_fits ?_ hhitCount⟩,
      optionalText_fits ?_⟩
    · cases status <;> decide
    · simp
    · simp
    · simp [wireProperties]
  · rw [List.map_append, List.map_append, List.map_append]
    exact (((List.Sublist.refl ["source", "status"]).append (keys_optionalText _ _)).append
      (keys_optionalNumber _ _)).append (keys_optionalText _ _)

theorem controlEvent_spec (hid : em.randomUUID st.drawn ≠ "") (controlKind : ControlKind)
    (decision : Option ControlDecision) (label timestamp : Option String) :
    BuiltSpec em st false (controlEvent em st controlKind decision label timestamp) := by
  apply @wireEvent_spec em _ st _ _ _ _
    ["controlKind", "decision", "label", "timestamp"] (by decide)
    (by simp [eventSchemas, controlSchema] : controlSchema ∈ eventSchemas)
    (List.subset_append_left _ _) (by simp) _ (by decide +kernel) (by decide) hid
  · simp only [List.forall_mem_append, List.forall_mem_singleton]
    refine ⟨⟨⟨oneOf_fits (List.mem_append_right _ List.mem_cons_self) ?_,
      forall_mem_optionalText fun s hs _ => oneOf_fits
        (List.mem_append_right _ (List.mem_cons_of_mem _ (List.mem_cons_of_mem _
          List.mem_cons_self))) ?_⟩, optionalText_fits ?_⟩, optionalText_fits ?_⟩
    · cases controlKind <;> decide
    · obtain ⟨d, _, rfl⟩ := Option.map_eq_some_iff.mp hs
      cases d <;> decide
    · simp
    · simp [wireProperties]
  · rw [List.map_append, List.map_append, List.map_append]
    exact (((List.Sublist.refl ["controlKind"]).append (keys_optionalText _ _)).append
      (keys_optionalText _ _)).append (keys_optionalText _ _)

theorem toolSkipped_spec (hid : em.randomUUID st.drawn ≠ "") {toolId : String}
    (htool : jsTrim toolId ≠ "") (reason : String) (timestamp : Option String) :
    BuiltSpec em st false (wireEvent em st "tool_skipped"
      ([("toolId", .str toolId), ("reason", .str reason)] ++
        optionalText "timestamp" timestamp)) := by
  apply @wireEvent_spec em _ st _ _ _ _ ["toolId", "reason", "timestamp"] (by decide)
    (by simp [eventSchemas, toolSkippedSchema] : toolSkippedSchema ∈ eventSchemas)
    (List.subset_append_left _ _) (by simp) _ (by decide +kernel) (by decide) hid
  · simp only [List.forall_mem_append, List.forall_mem_cons]
    refine ⟨⟨text_fits (List.mem_append_right _ List.mem_cons_self) htool,
      ⟨trivial, .text 0 none, List.mem_append_right _ (List.mem_cons_of_mem _
        List.mem_cons_self), anyText_valid reason⟩, by simp⟩, optionalText_fits ?_⟩
    simp [wireProperties]
  · rw [List.map_append]
    exact (List.Sublist.refl ["toolId", "reason"]).append (keys_optionalText _ _)

theorem toolObservedV2_spec (hid : em.randomUUID st.drawn ≠ "") {toolId : String}
    {params : Json} {timestamp : Option String} (hseq : st.seq ≤ 2 ^ 53)
    (htool : jsTrim toolId ≠ "") (hparams : params.WellFormed)
    (hobject : anyObject.valid params = true) :
    BuiltSpec em st true (toolObservedV2 em st toolId params timestamp) := by
  have hspec := @wireObservation_spec em _ st 2 toolId params timestamp [] [] _ []
    (.inl rfl)
    (by simp [eventSchemas, toolObservedV2Schema] : toolObservedV2Schema ∈ eventSchemas)
    (List.Subset.refl _) (List.nil_subset _) (.refl _) (by decide +kernel) (by decide) hid
    hseq htool hparams hobject (by simp)
  rwa [List.append_nil] at hspec

theorem toolObservedV3_spec (hid : em.randomUUID st.drawn ≠ "") {toolId : String}
    {params : Json} {checkpoint : LanggraphCheckpointRef} {timestamp : Option String}
    (hseq : st.seq ≤ 2 ^ 53) (htool : jsTrim toolId ≠ "") (hparams : params.WellFormed)
    (hobject : anyObject.valid params = true) (hthread : jsTrim checkpoint.threadId ≠ "")
    (hcheckpoint : jsTrim checkpoint.checkpointId ≠ "") :
    BuiltSpec em st true (toolObservedV3 em st toolId params checkpoint timestamp) := by
  have hmember : (checkpointMember checkpoint).2.WellFormed ∧
      langgraphCheckpointSchema.valid (checkpointMember checkpoint).2 = true := by
    constructor
    · exact wellFormed_of_plainKeys (.refl _)
        (by decide +kernel :
          plainKeys ["threadId", "checkpointNs", "checkpointId"] = true)
        (by simp [Json.WellFormed])
    · apply Schema.valid_of_members (by simp) (by decide)
      simp only [List.forall_mem_cons]
      exact ⟨⟨.text 1 none, by simp, text_valid (ne_empty_of_jsTrim hthread)⟩,
        ⟨.text 0 none, by simp, anyText_valid _⟩,
        ⟨.text 1 none, by simp, text_valid (ne_empty_of_jsTrim hcheckpoint)⟩, by simp⟩
  have hspec := @wireObservation_spec em _ st 3 toolId params timestamp
    [checkpointMember checkpoint] ["langgraphCheckpoint"] _ ["langgraphCheckpoint"]
    (.inr rfl)
    (by simp [eventSchemas, toolObservedV3Schema] : toolObservedV3Schema ∈ eventSchemas)
    (List.subset_append_left _ _) (by simp [checkpointMember]) (.refl _)
    (by decide +kernel) (by decide) hid hseq htool hparams hobject
    (by
      rw [List.forall_mem_singleton]
      exact ⟨hmember.1, _, List.mem_append_right _ List.mem_cons_self, hmember.2⟩)
  rwa [← List.append_assoc] at hspec

/-- What a method builds from an admissible input. -/
theorem buildEvent_spec (hid : em.randomUUID st.drawn ≠ "") (hseq : st.seq ≤ 2 ^ 53)
    {input : EmitCall} (hinput : input.Admissible) {built : Built}
    (h : buildEvent em st input = .ok built) :
    BuiltSpec em st input.observes built := by
  cases input with
  | emitToolObserved toolId params timestamp schemaVersion =>
      obtain ⟨hparams, hobject⟩ := hinput
      rw [buildEvent] at h
      split_ifs at h with htool
      split at h
      · obtain rfl := Except.ok.inj h
        exact toolObservedV1_spec hseq htool hparams hobject
      · obtain rfl := Except.ok.inj h
        exact toolObservedV2_spec hid hseq htool hparams hobject
  | emitToolObservedLangGraphCheckpoint toolId params checkpoint timestamp =>
      obtain ⟨hparams, hobject⟩ := hinput
      rw [buildEvent] at h
      split_ifs at h with htool hcheckpoint
      obtain ⟨hthread, hcheckpointId⟩ := not_or.mp hcheckpoint
      obtain rfl := Except.ok.inj h
      exact toolObservedV3_spec hid hseq htool hparams hobject hthread hcheckpointId
  | emitModelTurn status summary timestamp =>
      obtain rfl := Except.ok.inj h
      exact modelTurn_spec hid status summary timestamp
  | emitRetrieval source status querySummary hitCount timestamp =>
      rw [buildEvent] at h
      split_ifs at h with hsource
      obtain rfl := Except.ok.inj h
      exact retrieval_spec hid hsource status querySummary timestamp hinput
  | emitControl controlKind decision label timestamp =>
      obtain rfl := Except.ok.inj h
      exact controlEvent_spec hid controlKind decision label timestamp
  | emitToolSkipped toolId reason timestamp =>
      rw [buildEvent] at h
      split_ifs at h with htool
      obtain rfl := Except.ok.inj h
      exact toolSkipped_spec hid htool reason timestamp
  | finalizeRun timestamp =>
      obtain rfl := Except.ok.inj h
      exact controlEvent_spec hid .runCompleted none none timestamp

end

end AgentSkeptic.Events
