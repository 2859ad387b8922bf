import AgentSkeptic.Events.RunEvents
import AgentSkeptic.Support.Grouping
import AgentSkeptic.Support.InsertionMap
import AgentSkeptic.Support.JsNumberText
import Mathlib.Order.Bounds.Basic

/-!
# The digest of a run

`verificationRunContext.ts`: one pass over the captured events fills the lists of rows
and the indices of the observations.  The rows copy members of the events as they are.
-/

namespace AgentSkeptic.Events

open AgentSkeptic.Support

/-! ## The digest -/

structure RetrievalRow where
  ingestIndex : ℕ
  runEventId : JsValue
  source : JsValue
  status : JsValue
  hitCount : Option JsValue

structure ControlRow where
  ingestIndex : ℕ
  runEventId : JsValue
  controlKind : JsValue
  decision : Option JsValue
  label : Option JsValue

structure ModelTurnRow where
  ingestIndex : ℕ
  runEventId : JsValue
  status : JsValue

structure ToolSkippedRow where
  ingestIndex : ℕ
  toolId : JsValue
  reason : JsValue

structure LastRunEvent where
  ingestIndex : ℕ
  type : JsValue
  modelTurnStatus : Option JsValue

structure VerificationRunContext where
  maxWireSchemaVersion : ℕ
  retrievalEvents : List RetrievalRow
  controlEvents : List ControlRow
  modelTurnEvents : List ModelTurnRow
  toolSkippedEvents : List ToolSkippedRow
  toolObservedIngestIndexBySeq : InsertionMap String ℕ
  firstToolObservedIngestIndex : Option ℕ
  hasRunCompletedControl : Bool
  lastRunEvent : Option LastRunEvent

def createEmptyVerificationRunContext : VerificationRunContext where
  maxWireSchemaVersion := 1
  retrievalEvents := []
  controlEvents := []
  modelTurnEvents := []
  toolSkippedEvents := []
  toolObservedIngestIndexBySeq := .empty
  firstToolObservedIngestIndex := none
  hasRunCompletedControl := false
  lastRunEvent := none

namespace RunEvent

/-- `ev.schemaVersion === version`. -/
def hasVersion (ev : RunEvent) (version : ℤ) : Bool :=
  numberOf ev.json "schemaVersion" == some (.int version)

/-- `ev.type === type`. -/
def hasType (ev : RunEvent) (type : String) : Bool := textOf ev.json "type" == some type

/-- A member that is written where it is not `undefined`. -/
def definedMember (ev : RunEvent) (key : String) : Option JsValue :=
  match ev.json.member key with
  | .undefined => none
  | value => some value

end RunEvent

/-- `String(seq)`. -/
def seqKey (seq : ℕ) : String := (JsNumber.int seq).toText

def retrievalRow (ev : RunEvent) (ingestIndex : ℕ) : RetrievalRow where
  ingestIndex := ingestIndex
  runEventId := ev.json.member "runEventId"
  source := ev.json.member "source"
  status := ev.json.member "status"
  hitCount := ev.definedMember "hitCount"

def controlRow (ev : RunEvent) (ingestIndex : ℕ) : ControlRow where
  ingestIndex := ingestIndex
  runEventId := ev.json.member "runEventId"
  controlKind := ev.json.member "controlKind"
  decision := ev.definedMember "decision"
  label := ev.definedMember "label"

def modelTurnRow (ev : RunEvent) (ingestIndex : ℕ) : ModelTurnRow where
  ingestIndex := ingestIndex
  runEventId := ev.json.member "runEventId"
  status := ev.json.member "status"

def toolSkippedRow (ev : RunEvent) (ingestIndex : ℕ) : ToolSkippedRow where
  ingestIndex := ingestIndex
  toolId := ev.json.member "toolId"
  reason := ev.json.member "reason"

/-- Both tests of the version, one after the other. -/
def wireAfter (maxWire : ℕ) (ev : RunEvent) : ℕ :=
  let maxWire := if ev.hasVersion 2 then 2 else maxWire
  if ev.hasVersion 3 then 3 else maxWire

/-- The body of the loop. -/
def addRunEvent (ctx : VerificationRunContext) (indexed : RunEvent × ℕ) :
    VerificationRunContext :=
  let (ev, ingestIndex) := indexed
  let ctx := { ctx with maxWireSchemaVersion := wireAfter ctx.maxWireSchemaVersion ev }
  if ev.hasType "retrieval" && ev.hasVersion 2 then
    { ctx with retrievalEvents := ctx.retrievalEvents ++ [retrievalRow ev ingestIndex] }
  else if ev.hasType "control" && ev.hasVersion 2 then
    { ctx with
      hasRunCompletedControl :=
        textOf ev.json "controlKind" == some "run_completed" || ctx.hasRunCompletedControl
      controlEvents := ctx.controlEvents ++ [controlRow ev ingestIndex] }
  else if ev.hasType "model_turn" && ev.hasVersion 2 then
    { ctx with modelTurnEvents := ctx.modelTurnEvents ++ [modelTurnRow ev ingestIndex] }
  else if ev.hasType "tool_skipped" && ev.hasVersion 2 then
    { ctx with
      toolSkippedEvents := ctx.toolSkippedEvents ++ [toolSkippedRow ev ingestIndex] }
  else if ev.isToolObserved then
    { ctx with
      toolObservedIngestIndexBySeq :=
        ctx.toolObservedIngestIndexBySeq.set (seqKey ev.seq) ingestIndex
      firstToolObservedIngestIndex :=
        match ctx.firstToolObservedIngestIndex with
        | none => some ingestIndex
        | some first => if ingestIndex < first then some ingestIndex else some first }
  else ctx

def lastEventSummary (runEvents : List RunEvent) : Option LastRunEvent :=
  runEvents.getLast?.map fun last =>
    { ingestIndex := runEvents.length - 1
      type := last.json.member "type"
      modelTurnStatus :=
        if last.hasType "model_turn" && last.hasVersion 2 then
          some (last.json.member "status")
        else none }

def buildVerificationRunContext (runEvents : List RunEvent) : VerificationRunContext :=
  { runEvents.zipIdx.foldl addRunEvent createEmptyVerificationRunContext with
    lastRunEvent := lastEventSummary runEvents }

/-! ## The kinds of events -/

theorem RunEvent.exists_kind (ev : RunEvent) :
    ∃ kind ∈ eventKinds.map Prod.fst,
      numberOf ev.json "schemaVersion" = some (.int kind.1) ∧
        textOf ev.json "type" = some kind.2 := by
  obtain ⟨kind, schema, hpair, hvalid⟩ := ev.exists_branch
  exact ⟨kind, List.mem_map_of_mem hpair, kind_of_branch hpair hvalid⟩

/-- The types of events. -/
def eventTypes : List String :=
  ["retrieval", "control", "model_turn", "tool_skipped", "tool_observed"]

namespace RunEvent

/-- `ev.type`. -/
def type (ev : RunEvent) : String := (textOf ev.json "type").getD ""

/-- `ev.schemaVersion`. -/
def schemaVersion (ev : RunEvent) : ℕ :=
  (((numberOf ev.json "schemaVersion").bind JsNumber.toInt?).getD 0).toNat

/-- What the tests of the loop see of an event. -/
structure Seen (ev : RunEvent) (version : ℕ) (type : String) : Prop where
  type_eq : ev.type = type
  version_eq : ev.schemaVersion = version
  hasType_eq : ∀ t, ev.hasType t = decide (t = type)
  hasVersion_eq : ∀ n : ℤ, ev.hasVersion n = decide (n = version)
  isToolObserved_eq : ev.isToolObserved = decide (type = "tool_observed")

theorem exists_seen (ev : RunEvent) :
    ∃ version type, ev.Seen version type ∧
      (type = "tool_observed" ∧ (version = 1 ∨ version = 2 ∨ version = 3) ∨
        (type = "retrieval" ∨ type = "control" ∨ type = "model_turn" ∨
          type = "tool_skipped") ∧ version = 2) := by
  obtain ⟨kind, hkind, hversion, htype⟩ := ev.exists_kind
  obtain ⟨version, hnat, hcases⟩ : ∃ version : ℕ, kind.1 = version ∧
      (kind.2 = "tool_observed" ∧ (version = 1 ∨ version = 2 ∨ version = 3) ∨
        (kind.2 = "retrieval" ∨ kind.2 = "control" ∨ kind.2 = "model_turn" ∨
          kind.2 = "tool_skipped") ∧ version = 2) := by
    simp only [eventKinds, List.map_cons, List.map_nil, List.mem_cons, List.not_mem_nil,
      or_false] at hkind
    rcases hkind with rfl | rfl | rfl | rfl | rfl | rfl | rfl
    · exact ⟨1, by simp⟩
    · exact ⟨2, by simp⟩
    · exact ⟨3, by simp⟩
    all_goals exact ⟨2, by simp⟩
  rw [hnat] at hversion
  refine ⟨version, kind.2, ⟨?_, ?_, ?_, ?_, ?_⟩, hcases⟩
  · rw [type, htype, Option.getD_some]
  · rw [schemaVersion, hversion, Option.bind_some, JsNumber.toInt?, Option.getD_some,
      Int.toNat_natCast]
  · intro t
    rw [hasType, htype, Bool.eq_iff_iff, beq_iff_eq, decide_eq_true_eq, Option.some.injEq]
    exact eq_comm
  · intro n
    rw [hasVersion, hversion, Bool.eq_iff_iff, beq_iff_eq, decide_eq_true_eq,
      Option.some.injEq, JsNumber.int.injEq]
    exact eq_comm
  · rw [isToolObserved, Events.isToolObserved, htype, Bool.eq_iff_iff]
    simp

theorem type_mem (ev : RunEvent) : ev.type ∈ eventTypes := by
  obtain ⟨version, type, hseen, hcases⟩ := ev.exists_seen
  rw [hseen.type_eq]
  rcases hcases with ⟨rfl, -⟩ | ⟨rfl | rfl | rfl | rfl, -⟩
  all_goals simp [eventTypes]

end RunEvent

/-! ## One event -/

/-- What the body of the loop adds for an event. -/
structure Added (ctx : VerificationRunContext) (ev : RunEvent) (ingestIndex : ℕ)
    (next : VerificationRunContext) : Prop where
  maxWire : next.maxWireSchemaVersion = wireAfter ctx.maxWireSchemaVersion ev
  retrieval : next.retrievalEvents = ctx.retrievalEvents ++
    if ev.type = "retrieval" then [retrievalRow ev ingestIndex] else []
  control : next.controlEvents = ctx.controlEvents ++
    if ev.type = "control" then [controlRow ev ingestIndex] else []
  modelTurn : next.modelTurnEvents = ctx.modelTurnEvents ++
    if ev.type = "model_turn" then [modelTurnRow ev ingestIndex] else []
  toolSkipped : next.toolSkippedEvents = ctx.toolSkippedEvents ++
    if ev.type = "tool_skipped" then [toolSkippedRow ev ingestIndex] else []
  bySeq : next.toolObservedIngestIndexBySeq =
    if ev.isToolObserved then ctx.toolObservedIngestIndexBySeq.set (seqKey ev.seq) ingestIndex
    else ctx.toolObservedIngestIndexBySeq
  first : next.firstToolObservedIngestIndex =
    if ev.isToolObserved then
      some (ctx.firstToolObservedIngestIndex.elim ingestIndex (min ingestIndex))
    else ctx.firstToolObservedIngestIndex

theorem addRunEvent_added (ctx : VerificationRunContext) (ev : RunEvent) (ingestIndex : ℕ) :
    Added ctx ev ingestIndex (addRunEvent ctx (ev, ingestIndex)) := by
  obtain ⟨version, type, hseen, hcases⟩ := ev.exists_seen
  have hfirst : ∀ first : Option ℕ,
      (match first with
        | none => some ingestIndex
        | some first => if ingestIndex < first then some ingestIndex else some first) =
        some (first.elim ingestIndex (min ingestIndex)) := by
    intro first
    cases first with
    | none => rfl
    | some first =>
        simp only [Option.elim_some]
        split_ifs with hlt
        · rw [min_eq_left hlt.le]
        · rw [min_eq_right (not_lt.mp hlt)]
  rcases hcases with ⟨rfl, -⟩ | ⟨rfl | rfl | rfl | rfl, rfl⟩
  all_goals
    constructor
    all_goals
      simp [addRunEvent, hseen.hasType_eq, hseen.hasVersion_eq, hseen.isToolObserved_eq,
        hseen.type_eq, hfirst]

/-! ## The whole run -/

/-- The loop over a captured run. -/
def digest (runEvents : List RunEvent) : VerificationRunContext :=
  runEvents.zipIdx.foldl addRunEvent createEmptyVerificationRunContext

theorem digest_snoc (runEvents : List RunEvent) (ev : RunEvent) :
    digest (runEvents ++ [ev]) = addRunEvent (digest runEvents) (ev, runEvents.length) := by
  rw [digest, digest, List.zipIdx_append, List.foldl_append, Nat.zero_add]
  rfl

/-- The events of a type in capture order, with their indices. -/
def eventsOfType (runEvents : List RunEvent) (type : String) : List (RunEvent × ℕ) :=
  runEvents.zipIdx.filter (·.1.type = type)

theorem eventsOfType_snoc (runEvents : List RunEvent) (ev : RunEvent) (type : String) :
    eventsOfType (runEvents ++ [ev]) type =
      eventsOfType runEvents type ++
        if ev.type = type then [(ev, runEvents.length)] else [] := by
  rw [eventsOfType, eventsOfType, List.zipIdx_append, List.filter_append, Nat.zero_add]
  by_cases htype : ev.type = type
  · simp [htype]
  · simp [htype]

/-- A list that gets a row for each event of a type. -/
theorem rows_digest {β : Type} (rows : VerificationRunContext → List β)
    (row : RunEvent → ℕ → β) (type : String)
    (hempty : rows createEmptyVerificationRunContext = [])
    (hstep : ∀ ctx ev i, rows (addRunEvent ctx (ev, i)) =
      rows ctx ++ if ev.type = type then [row ev i] else [])
    (runEvents : List RunEvent) :
    rows (digest runEvents) = (eventsOfType runEvents type).map fun p => row p.1 p.2 := by
  induction runEvents using List.reverseRecOn with
  | nil => exact hempty
  | append_singleton runEvents ev ih =>
      rw [digest_snoc, hstep, ih, eventsOfType_snoc, List.map_append]
      split_ifs <;> rfl

/-- The indices of the observations. -/
def observedIndices (runEvents : List RunEvent) : Set ℕ :=
  { i | ∃ ev, runEvents[i]? = some ev ∧ ev.isToolObserved = true }

/-- The indices of the observations of a `seq`. -/
def observedAt (runEvents : List RunEvent) (seq : ℕ) : Set ℕ :=
  { i | ∃ ev, runEvents[i]? = some ev ∧ ev.isToolObserved = true ∧ ev.seq = seq }

theorem mem_observedIndices_snoc {runEvents : List RunEvent} {ev : RunEvent} {i : ℕ} :
    i ∈ observedIndices (runEvents ++ [ev]) ↔
      i ∈ observedIndices runEvents ∨ i = runEvents.length ∧ ev.isToolObserved = true :=
  exists_getElem?_snoc

theorem mem_observedAt_snoc {runEvents : List RunEvent} {ev : RunEvent} {seq i : ℕ} :
    i ∈ observedAt (runEvents ++ [ev]) seq ↔
      i ∈ observedAt runEvents seq ∨
        i = runEvents.length ∧ ev.isToolObserved = true ∧ ev.seq = seq :=
  exists_getElem?_snoc

theorem lt_of_mem_observedIndices {runEvents : List RunEvent} {i : ℕ}
    (h : i ∈ observedIndices runEvents) : i < runEvents.length := by
  obtain ⟨ev, hev, -⟩ := h
  exact (List.getElem?_eq_some_iff.mp hev).1

theorem observedAt_subset (runEvents : List RunEvent) (seq : ℕ) :
    observedAt runEvents seq ⊆ observedIndices runEvents :=
  fun _ ⟨ev, hev, hobserved, _⟩ => ⟨ev, hev, hobserved⟩

theorem first_digest (runEvents : List RunEvent) :
    ((digest runEvents).firstToolObservedIngestIndex = none →
        observedIndices runEvents = ∅) ∧
      ∀ first, (digest runEvents).firstToolObservedIngestIndex = some first →
        IsLeast (observedIndices runEvents) first := by
  induction runEvents using List.reverseRecOn with
  | nil => exact ⟨fun _ => by simp [observedIndices], nofun⟩
  | append_singleton runEvents ev ih =>
      obtain ⟨hnone, hsome⟩ := ih
      rw [digest_snoc, (addRunEvent_added _ ev _).first]
      by_cases hobserved : ev.isToolObserved = true
      · rw [if_pos hobserved]
        refine ⟨nofun, fun first hfirst => ?_⟩
        cases hold : (digest runEvents).firstToolObservedIngestIndex with
        | none =>
            rw [hold] at hfirst
            obtain rfl : runEvents.length = first := Option.some.inj hfirst
            refine ⟨mem_observedIndices_snoc.mpr (.inr ⟨rfl, hobserved⟩), fun i hi => ?_⟩
            rcases mem_observedIndices_snoc.mp hi with hearlier | ⟨rfl, -⟩
            · rw [hnone hold] at hearlier
              exact absurd hearlier (Set.notMem_empty i)
            · exact le_refl _
        | some old =>
            have hleast := hsome old hold
            have hlt := lt_of_mem_observedIndices hleast.1
            rw [hold, Option.elim_some, min_eq_right hlt.le] at hfirst
            obtain rfl : old = first := Option.some.inj hfirst
            refine ⟨mem_observedIndices_snoc.mpr (.inl hleast.1), fun i hi => ?_⟩
            rcases mem_observedIndices_snoc.mp hi with hearlier | ⟨rfl, -⟩
            · exact hleast.2 hearlier
            · exact hlt.le
      · have hsame : observedIndices (runEvents ++ [ev]) = observedIndices runEvents := by
          ext i
          rw [mem_observedIndices_snoc]
          simp [hobserved]
        rw [if_neg hobserved, hsame]
        exact ⟨hnone, hsome⟩

theorem seqKey_injective : Function.Injective seqKey := JsNumber.toText_natCast_injective

theorem get?_bySeq_digest (runEvents : List RunEvent) (seq i : ℕ) :
    (digest runEvents).toolObservedIngestIndexBySeq.get? (seqKey seq) = some i ↔
      IsGreatest (observedAt runEvents seq) i := by
  induction runEvents using List.reverseRecOn generalizing i with
  | nil =>
      constructor
      · intro h
        cases h
      · rintro ⟨⟨ev, hev, -⟩, -⟩
        cases hev
  | append_singleton runEvents ev ih =>
      rw [digest_snoc, (addRunEvent_added _ ev _).bySeq]
      by_cases hnew : ev.isToolObserved = true ∧ ev.seq = seq
      · obtain ⟨hobserved, rfl⟩ := hnew
        rw [if_pos hobserved, InsertionMap.get?_set, if_pos rfl, Option.some.injEq]
        have hgreatest :
            IsGreatest (observedAt (runEvents ++ [ev]) ev.seq) runEvents.length := by
          refine ⟨mem_observedAt_snoc.mpr (.inr ⟨rfl, hobserved, rfl⟩), fun j hj => ?_⟩
          rcases mem_observedAt_snoc.mp hj with hearlier | ⟨rfl, -⟩
          · exact (lt_of_mem_observedIndices (observedAt_subset _ _ hearlier)).le
          · exact le_refl _
        constructor
        · rintro rfl
          exact hgreatest
        · exact hgreatest.unique
      · have hsame : observedAt (runEvents ++ [ev]) seq = observedAt runEvents seq := by
          ext j
          rw [mem_observedAt_snoc]
          exact or_iff_left fun h => hnew h.2
        rw [hsame, ← ih]
        by_cases hobserved : ev.isToolObserved = true
        · have hkey : seqKey ev.seq ≠ seqKey seq :=
            fun h => hnew ⟨hobserved, seqKey_injective h⟩
          rw [if_pos hobserved, InsertionMap.get?_set, if_neg hkey]
        · rw [if_neg hobserved]

theorem mem_keys_bySeq_digest {runEvents : List RunEvent} {key : String}
    (h : key ∈ (digest runEvents).toolObservedIngestIndexBySeq.keys) :
    ∃ ev ∈ runEvents, ev.isToolObserved = true ∧ key = seqKey ev.seq := by
  induction runEvents using List.reverseRecOn with
  | nil => cases h
  | append_singleton runEvents ev ih =>
      rw [digest_snoc, (addRunEvent_added _ ev _).bySeq] at h
      have hearlier : key ∈ (digest runEvents).toolObservedIngestIndexBySeq.keys →
          ∃ later ∈ runEvents ++ [ev], later.isToolObserved = true ∧
            key = seqKey later.seq := by
        intro hkey
        obtain ⟨earlier, hmem, hspec⟩ := ih hkey
        exact ⟨earlier, List.mem_append_left _ hmem, hspec⟩
      split_ifs at h with hobserved
      · rcases InsertionMap.mem_keys_set.mp h with hkey | rfl
        · exact hearlier hkey
        · exact ⟨ev, by simp, hobserved, rfl⟩
      · exact hearlier h

/-! ## The version of the wire -/

/-- The greatest version of a run, 1 for an empty one. -/
def greatestVersion (runEvents : List RunEvent) : ℕ :=
  (runEvents.map RunEvent.schemaVersion).foldr max 1

/-- An event of version 2 that stands behind one of version 3 stands before another. -/
def Version3Last (runEvents : List RunEvent) : Prop :=
  ∀ before ev after, runEvents = before ++ ev :: after → ev.schemaVersion = 2 →
    (∃ earlier ∈ before, earlier.schemaVersion = 3) →
      ∃ later ∈ after, later.schemaVersion = 3

theorem RunEvent.schemaVersion_bounds (ev : RunEvent) :
    1 ≤ ev.schemaVersion ∧ ev.schemaVersion ≤ 3 := by
  obtain ⟨version, type, hseen, hcases⟩ := ev.exists_seen
  rw [hseen.version_eq]
  omega

theorem wireAfter_eq (maxWire : ℕ) (ev : RunEvent) :
    wireAfter maxWire ev = if ev.schemaVersion = 1 then maxWire else ev.schemaVersion := by
  obtain ⟨version, type, hseen, hcases⟩ := ev.exists_seen
  rw [wireAfter, hseen.hasVersion_eq, hseen.hasVersion_eq, hseen.version_eq]
  have hversion : version = 1 ∨ version = 2 ∨ version = 3 := by omega
  rcases hversion with rfl | rfl | rfl
  all_goals rfl

theorem greatestVersion_snoc (runEvents : List RunEvent) (ev : RunEvent) :
    greatestVersion (runEvents ++ [ev]) = max (greatestVersion runEvents) ev.schemaVersion := by
  induction runEvents with
  | nil => simp [greatestVersion, max_comm]
  | cons first rest ih =>
      rw [greatestVersion, greatestVersion] at ih ⊢
      rw [List.cons_append, List.map_cons, List.map_cons, List.foldr_cons, List.foldr_cons, ih,
        max_assoc]

theorem greatestVersion_bounds (runEvents : List RunEvent) :
    1 ≤ greatestVersion runEvents ∧ greatestVersion runEvents ≤ 3 := by
  induction runEvents using List.reverseRecOn with
  | nil => exact ⟨le_refl 1, by decide⟩
  | append_singleton runEvents ev ih =>
      have hbounds := ev.schemaVersion_bounds
      rw [greatestVersion_snoc]
      omega

theorem greatestVersion_eq_three {runEvents : List RunEvent} :
    greatestVersion runEvents = 3 ↔ ∃ ev ∈ runEvents, ev.schemaVersion = 3 := by
  induction runEvents using List.reverseRecOn with
  | nil => simp [greatestVersion]
  | append_singleton runEvents ev ih =>
      have hbounds := ev.schemaVersion_bounds
      have hrun := greatestVersion_bounds runEvents
      have hmax : max (greatestVersion runEvents) ev.schemaVersion = 3 ↔
          greatestVersion runEvents = 3 ∨ ev.schemaVersion = 3 := by omega
      rw [greatestVersion_snoc, hmax, ih]
      simp [or_and_right, exists_or]

theorem version3Last_snoc (runEvents : List RunEvent) (ev : RunEvent) :
    Version3Last (runEvents ++ [ev]) ↔
      if ev.schemaVersion = 1 then Version3Last runEvents
      else ev.schemaVersion = 3 ∨ ∀ earlier ∈ runEvents, earlier.schemaVersion ≠ 3 := by
  have hbounds := ev.schemaVersion_bounds
  split_ifs with hone
  · constructor
    · rintro h before mid after rfl hmid hbefore
      obtain ⟨later, hmem, hlater⟩ := h before mid (after ++ [ev]) (by simp) hmid hbefore
      rcases List.mem_append.mp hmem with hafter | hlast
      · exact ⟨later, hafter, hlater⟩
      · obtain rfl := List.mem_singleton.mp hlast
        omega
    · intro h before mid after hsplit hmid hbefore
      rcases List.eq_nil_or_concat' after with rfl | ⟨after, last, rfl⟩
      · obtain ⟨-, hlast⟩ := List.append_inj' hsplit rfl
        obtain rfl := (List.cons.inj hlast).1
        omega
      · have hcut : runEvents ++ [ev] = (before ++ mid :: after) ++ [last] := by
          rw [hsplit]
          simp
        obtain ⟨hrun, -⟩ := List.append_inj' hcut rfl
        obtain ⟨later, hmem, hlater⟩ := h before mid after hrun hmid hbefore
        exact ⟨later, List.mem_append_left _ hmem, hlater⟩
  · constructor
    · intro h
      by_contra hno
      push Not at hno
      obtain ⟨hversion, hearlier⟩ := hno
      obtain ⟨later, hmem, -⟩ := h runEvents ev [] rfl (by omega) hearlier
      cases hmem
    · rintro h before mid after hsplit hmid ⟨earlier, hmem, hearlier⟩
      rcases List.eq_nil_or_concat' after with rfl | ⟨after, last, rfl⟩
      · obtain ⟨hrun, hlast⟩ := List.append_inj' hsplit rfl
        obtain rfl := (List.cons.inj hlast).1
        rcases h with h | h
        · omega
        · exact absurd hearlier (h earlier (hrun ▸ hmem))
      · have hcut : runEvents ++ [ev] = (before ++ mid :: after) ++ [last] := by
          rw [hsplit]
          simp
        obtain ⟨hrun, hlast⟩ := List.append_inj' hcut rfl
        obtain rfl := (List.cons.inj hlast).1
        rcases h with h | h
        · exact ⟨ev, by simp, h⟩
        · refine absurd hearlier (h earlier ?_)
          rw [hrun]
          exact List.mem_append_left _ hmem

theorem maxWire_digest (runEvents : List RunEvent) :
    (digest runEvents).maxWireSchemaVersion = greatestVersion runEvents ↔
      Version3Last runEvents := by
  induction runEvents using List.reverseRecOn with
  | nil =>
      refine ⟨fun _ before ev after hsplit => ?_, fun _ => rfl⟩
      simp at hsplit
  | append_singleton runEvents ev ih =>
      have hbounds := ev.schemaVersion_bounds
      have hrun := greatestVersion_bounds runEvents
      rw [digest_snoc, (addRunEvent_added _ ev _).maxWire, wireAfter_eq, version3Last_snoc,
        greatestVersion_snoc]
      split_ifs with hone
      · rw [← ih, hone, max_eq_left hrun.1]
      · have hnone : (∀ earlier ∈ runEvents, earlier.schemaVersion ≠ 3) ↔
            greatestVersion runEvents ≠ 3 := by
          rw [Ne, greatestVersion_eq_three, not_exists]
          exact forall_congr' fun earlier => (not_and).symm
        rw [hnone]
        omega

/-! ## The digest and the run -/

/-- Each part of a digest is what it is named for. -/
structure OrderFaithful (runEvents : List RunEvent) (ctx : VerificationRunContext) : Prop where
  maxWire : ctx.maxWireSchemaVersion = greatestVersion runEvents
  first : ∀ i, ctx.firstToolObservedIngestIndex = some i ↔
    IsLeast (observedIndices runEvents) i
  bySeq : ∀ seq i, ctx.toolObservedIngestIndexBySeq.get? (seqKey seq) = some i ↔
    IsGreatest (observedAt runEvents seq) i
  onlyObserved : ∀ key ∈ ctx.toolObservedIngestIndexBySeq.keys,
    ∃ ev ∈ runEvents, ev.isToolObserved = true ∧ key = seqKey ev.seq
  retrieval : ctx.retrievalEvents =
    (eventsOfType runEvents "retrieval").map fun p => retrievalRow p.1 p.2
  control : ctx.controlEvents =
    (eventsOfType runEvents "control").map fun p => controlRow p.1 p.2
  modelTurn : ctx.modelTurnEvents =
    (eventsOfType runEvents "model_turn").map fun p => modelTurnRow p.1 p.2
  toolSkipped : ctx.toolSkippedEvents =
    (eventsOfType runEvents "tool_skipped").map fun p => toolSkippedRow p.1 p.2
  /-- Every index stands in one list, or is that of an observation. -/
  once : (ctx.retrievalEvents.map RetrievalRow.ingestIndex ++
    (ctx.controlEvents.map ControlRow.ingestIndex ++
      (ctx.modelTurnEvents.map ModelTurnRow.ingestIndex ++
        (ctx.toolSkippedEvents.map ToolSkippedRow.ingestIndex ++
          (eventsOfType runEvents "tool_observed").map Prod.snd)))).Perm
            (List.range runEvents.length)

/-- The events of all types are the run. -/
theorem eventsOfType_perm (runEvents : List RunEvent) :
    (eventTypes.flatMap fun type => (eventsOfType runEvents type).map Prod.snd).Perm
      (List.range runEvents.length) := by
  have hall : ∀ p ∈ runEvents.zipIdx, p.1.type ∈ eventTypes := fun p _ => p.1.type_mem
  have hperm := (classes_perm (fun p : RunEvent × ℕ => p.1.type)
    (by decide : eventTypes.Nodup) hall).map Prod.snd
  rw [List.map_flatMap, List.zipIdx_map_snd, ← List.range_eq_range'] at hperm
  exact hperm

theorem first_digest_iff (runEvents : List RunEvent) (i : ℕ) :
    (digest runEvents).firstToolObservedIngestIndex = some i ↔
      IsLeast (observedIndices runEvents) i := by
  obtain ⟨hnone, hsome⟩ := first_digest runEvents
  refine ⟨hsome i, fun hleast => ?_⟩
  cases hfirst : (digest runEvents).firstToolObservedIngestIndex with
  | none =>
      have hmem := hleast.1
      rw [hnone hfirst] at hmem
      exact absurd hmem (Set.notMem_empty i)
  | some first => rw [(hsome first hfirst).unique hleast]

/-- The digest is faithful exactly when no version 2 event hides the version 3 ones. -/
theorem orderFaithful_iff (runEvents : List RunEvent) :
    OrderFaithful runEvents (buildVerificationRunContext runEvents) ↔
      Version3Last runEvents := by
  rw [← maxWire_digest]
  refine ⟨fun h => h.maxWire, fun hmax => ?_⟩
  have hretrieval := rows_digest (·.retrievalEvents) retrievalRow "retrieval" rfl
    (fun ctx ev i => (addRunEvent_added ctx ev i).retrieval) runEvents
  have hcontrol := rows_digest (·.controlEvents) controlRow "control" rfl
    (fun ctx ev i => (addRunEvent_added ctx ev i).control) runEvents
  have hmodelTurn := rows_digest (·.modelTurnEvents) modelTurnRow "model_turn" rfl
    (fun ctx ev i => (addRunEvent_added ctx ev i).modelTurn) runEvents
  have htoolSkipped := rows_digest (·.toolSkippedEvents) toolSkippedRow "tool_skipped" rfl
    (fun ctx ev i => (addRunEvent_added ctx ev i).toolSkipped) runEvents
  refine ⟨hmax, first_digest_iff runEvents, get?_bySeq_digest runEvents,
    fun key hkey => mem_keys_bySeq_digest hkey, hretrieval, hcontrol, hmodelTurn,
    htoolSkipped, ?_⟩
  have hperm := eventsOfType_perm runEvents
  simp only [eventTypes, List.flatMap_cons, List.flatMap_nil, List.append_nil] at hperm
  dsimp only [buildVerificationRunContext]
  rw [← digest, hretrieval, hcontrol, hmodelTurn, htoolSkipped]
  simp only [List.map_map]
  exact hperm

/-! ## A checkpointed run that completes -/

/-- A version 3 observation, and the event that closes the run. -/
def completedRun : List RunEvent :=
  [⟨.obj [("schemaVersion", .num (.int 3)), ("workflowId", .str "w"),
      ("runEventId", .str "a"), ("type", .str "tool_observed"), ("seq", .num (.int 0)),
      ("toolId", .str "t"), ("params", .obj []),
      ("langgraphCheckpoint", .obj [("threadId", .str "thread"), ("checkpointNs", .str ""),
        ("checkpointId", .str "checkpoint")])], by decide +kernel⟩,
    ⟨.obj [("schemaVersion", .num (.int 2)), ("workflowId", .str "w"),
      ("runEventId", .str "b"), ("type", .str "control"),
      ("controlKind", .str "run_completed")], by decide +kernel⟩]

/-- The digest says version 2 of a run with a version 3 event. -/
theorem completedRun_wire :
    (buildVerificationRunContext completedRun).maxWireSchemaVersion = 2 ∧
      ¬ OrderFaithful completedRun (buildVerificationRunContext completedRun) := by
  have hwire : (buildVerificationRunContext completedRun).maxWireSchemaVersion = 2 := by
    decide +kernel
  have hgreatest : greatestVersion completedRun = 3 := by decide +kernel
  refine ⟨hwire, fun hfaithful => ?_⟩
  have hmax := hfaithful.maxWire
  rw [hwire, hgreatest] at hmax
  exact absurd hmax (by decide)

end AgentSkeptic.Events
