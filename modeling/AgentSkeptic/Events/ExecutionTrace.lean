import AgentSkeptic.Engine.Pipeline
import AgentSkeptic.Events.ObservedEvents
import AgentSkeptic.Support.LinkedKeys
import Mathlib.Data.List.Range

/-!
# The trace of a run

`executionTrace.ts`: one node for each captured event, and from the last event and from
each verified step the path of ids back through the parents.
-/

namespace AgentSkeptic.Events

open AgentSkeptic.Support AgentSkeptic.Engine

/-! ## The view -/

inductive TraceStepKind where
  | skipped | branchTaken | branchSkipped | failed | success | neutral
  | divergentObservations | repeatedObservation
  deriving DecidableEq

structure ExecutionTraceVerificationLink where
  stepIndex : ℕ
  seq : ℕ
  engineStepStatus : StepStatus
  truthOutcomeLabel : String

structure ExecutionTraceNode where
  ingestIndex : ℕ
  runEventId : String
  wireSchemaVersion : ℕ
  wireType : String
  parentRunEventId : Option String
  traceStepKind : TraceStepKind
  toolSeq : Option ℕ
  toolId : Option String
  verificationLink : Option ExecutionTraceVerificationLink

inductive TracePathKind where
  | workflowTerminal
  | verificationStep (stepIndex seq : ℕ)

structure ExecutionTraceBackwardPath where
  pathKind : TracePathKind
  seedRunEventId : String
  ancestorRunEventIds : List String

inductive RunCompletion where
  | completed | unknownOrInterrupted
  deriving DecidableEq

structure ExecutionTraceView where
  workflowId : String
  runCompletion : RunCompletion
  malformedEventLineCount : ℕ
  nodes : List ExecutionTraceNode
  backwardPaths : List ExecutionTraceBackwardPath

/-- What the trace reads of a `WorkflowResult`; the labels are those of the steps of its
truth report. -/
structure TraceWorkflowResult where
  workflowId : String
  steps : List StepOutcome
  truthOutcomeLabels : List String

/-- What the trace keeps of a plan. -/
structure SeqPlan where
  divergent : Bool
  repeatObservationCount : ℕ

namespace RunEvent

/-- `ev.runEventId`. -/
def runEventId (ev : RunEvent) : String := runEventIdOf ev.json

/-- `ev.parentRunEventId`. -/
def parentRunEventId (ev : RunEvent) : Option String := textOf ev.json "parentRunEventId"

/-- `ev[key] === text`. -/
def hasText (ev : RunEvent) (key text : String) : Bool := textOf ev.json key == some text

end RunEvent

/-! ## The last observation of a `seq` -/

def addToolIngestIndex (m : InsertionMap ℕ (List ℕ)) (indexed : RunEvent × ℕ) :
    InsertionMap ℕ (List ℕ) :=
  let (ev, ingestIndex) := indexed
  if ev.isToolObserved then m.set ev.seq ((m.get? ev.seq).getD [] ++ [ingestIndex]) else m

def toolIngestIndicesBySeq (runEvents : List RunEvent) : InsertionMap ℕ (List ℕ) :=
  runEvents.zipIdx.foldl addToolIngestIndex .empty

def seqToLastToolIngest (runEvents : List RunEvent) : InsertionMap ℕ ℕ :=
  (toolIngestIndicesBySeq runEvents).entries.foldl
    (fun m e =>
      match e.2.getLast? with
      | some last => m.set e.1 last
      | none => m)
    .empty

def planBySeq (runEvents : List RunEvent) : InsertionMap ℕ SeqPlan :=
  .ofEntries ((planLogicalSteps
    ((runEvents.filter RunEvent.isToolObserved).map RunEvent.observation)).map fun plan =>
      (plan.seq, ⟨plan.divergent, plan.repeatObservationCount⟩))

/-! ## The kind of a step -/

def controlStepKind (ev : RunEvent) : TraceStepKind :=
  if (ev.hasText "controlKind" "branch" || ev.hasText "controlKind" "gate") &&
      ev.hasText "decision" "taken" then .branchTaken
  else if (ev.hasText "controlKind" "branch" || ev.hasText "controlKind" "gate") &&
      ev.hasText "decision" "skipped" then .branchSkipped
  else if ev.hasText "controlKind" "interrupt" then .failed
  else if ev.hasText "controlKind" "run_completed" then .success
  else .neutral

def modelTurnStepKind (ev : RunEvent) : TraceStepKind :=
  if ev.hasText "status" "error" then .failed
  else if ev.hasText "status" "completed" then .success
  else if ev.hasText "status" "aborted" || ev.hasText "status" "incomplete" then .failed
  else .neutral

def retrievalStepKind (ev : RunEvent) : TraceStepKind :=
  if ev.hasText "status" "error" then .failed
  else if ev.hasText "status" "ok" then .success
  else .neutral

def toolStepKind (isLastForSeq : Bool) (plan : Option SeqPlan)
    (verificationLink : Option ExecutionTraceVerificationLink) : TraceStepKind :=
  if plan.any SeqPlan.divergent && isLastForSeq then .divergentObservations
  else if plan.any (1 < ·.repeatObservationCount) && !isLastForSeq then .repeatedObservation
  else if isLastForSeq && verificationLink.any (·.engineStepStatus = .verified) then .success
  else if isLastForSeq && verificationLink.any (·.engineStepStatus ≠ .verified) then .failed
  -- Neutral with a workflow result and without one.
  else .neutral

def deriveTraceStepKind (ev : RunEvent) (ingestIndex : ℕ) (lastIngest : InsertionMap ℕ ℕ)
    (plans : InsertionMap ℕ SeqPlan)
    (verificationLink : Option ExecutionTraceVerificationLink) : TraceStepKind :=
  if ev.hasType "tool_skipped" then .skipped
  else if ev.hasType "control" then controlStepKind ev
  else if ev.hasType "model_turn" then modelTurnStepKind ev
  else if ev.hasType "retrieval" then retrievalStepKind ev
  else if ev.isToolObserved then
    toolStepKind (lastIngest.get? ev.seq == some ingestIndex) (plans.get? ev.seq)
      verificationLink
  else .neutral

/-! ## Nodes -/

def syntheticRunEventId (ingestIndex : ℕ) : String :=
  "syn:" ++ (JsNumber.int ingestIndex).toText

def nodeRunEventId (ev : RunEvent) (ingestIndex : ℕ) : String :=
  if ev.hasVersion 2 then ev.runEventId else syntheticRunEventId ingestIndex

def resolvedParentRunEventId (ev : RunEvent) : Option String :=
  if ev.hasVersion 2 then ev.parentRunEventId else none

def addVerificationLink (lastIngest : InsertionMap ℕ ℕ) (labels : List String)
    (links : InsertionMap ℕ ExecutionTraceVerificationLink) (indexed : StepOutcome × ℕ) :
    InsertionMap ℕ ExecutionTraceVerificationLink :=
  let (step, stepIndex) := indexed
  match lastIngest.get? step.seq with
  | none => links
  | some ingestIndex =>
      links.set ingestIndex
        { stepIndex := stepIndex
          seq := step.seq
          engineStepStatus := step.status
          truthOutcomeLabel := labels[stepIndex]?.getD "UNKNOWN" }

def verificationLinkByIngest (lastIngest : InsertionMap ℕ ℕ) :
    Option TraceWorkflowResult → InsertionMap ℕ ExecutionTraceVerificationLink
  | none => .empty
  | some wr =>
      wr.steps.zipIdx.foldl (addVerificationLink lastIngest wr.truthOutcomeLabels) .empty

def traceNode (lastIngest : InsertionMap ℕ ℕ) (plans : InsertionMap ℕ SeqPlan)
    (links : InsertionMap ℕ ExecutionTraceVerificationLink) (indexed : RunEvent × ℕ) :
    ExecutionTraceNode :=
  let (ev, ingestIndex) := indexed
  { ingestIndex := ingestIndex
    runEventId := nodeRunEventId ev ingestIndex
    wireSchemaVersion := ev.schemaVersion
    wireType := ev.type
    parentRunEventId := resolvedParentRunEventId ev
    traceStepKind :=
      deriveTraceStepKind ev ingestIndex lastIngest plans (links.get? ingestIndex)
    toolSeq := if ev.isToolObserved then some ev.seq else none
    toolId :=
      if ev.isToolObserved || ev.hasType "tool_skipped" then textOf ev.json "toolId"
      else none
    verificationLink :=
      if ev.isToolObserved && lastIngest.get? ev.seq == some ingestIndex then
        links.get? ingestIndex
      else none }

def traceRunCompletion (runEvents : List RunEvent) : RunCompletion :=
  match runEvents.getLast? with
  | some ev =>
      if ev.hasType "control" && ev.hasText "controlKind" "run_completed" then .completed
      else .unknownOrInterrupted
  | none => .unknownOrInterrupted

/-! ## Backward paths -/

/-- `new Map(nodes.map((n) => [n.runEventId, n]))`. -/
def idToNode (nodes : List ExecutionTraceNode) : InsertionMap String ExecutionTraceNode :=
  .ofEntries (nodes.map fun n => (n.runEventId, n))

/-- `idToNode.get(cur)?.parentRunEventId`. -/
def parentLinks (nodes : List ExecutionTraceNode) : LinkedKeys String where
  next id := ((idToNode nodes).get? id).bind ExecutionTraceNode.parentRunEventId
  keys := (idToNode nodes).keys
  mem_keys := by
    intro id parent h
    obtain ⟨n, hn, -⟩ := Option.bind_eq_some_iff.mp h
    exact InsertionMap.mem_keys_of_get? hn

def buildAncestorChain (seedId : String) (nodes : List ExecutionTraceNode) : List String :=
  (parentLinks nodes).walk [] seedId

def backwardPath (nodes : List ExecutionTraceNode) (pathKind : TracePathKind)
    (seed : ExecutionTraceNode) : ExecutionTraceBackwardPath where
  pathKind := pathKind
  seedRunEventId := seed.runEventId
  ancestorRunEventIds := buildAncestorChain seed.runEventId nodes

def verificationPath (nodes : List ExecutionTraceNode) (lastIngest : InsertionMap ℕ ℕ)
    (indexed : StepOutcome × ℕ) : Option ExecutionTraceBackwardPath :=
  let (step, stepIndex) := indexed
  (lastIngest.get? step.seq).bind fun ingestIndex =>
    nodes[ingestIndex]?.map (backwardPath nodes (.verificationStep stepIndex step.seq))

def verificationPaths (nodes : List ExecutionTraceNode) (lastIngest : InsertionMap ℕ ℕ) :
    Option TraceWorkflowResult → List ExecutionTraceBackwardPath
  | none => []
  | some wr => wr.steps.zipIdx.filterMap (verificationPath nodes lastIngest)

def backwardPaths (nodes : List ExecutionTraceNode) (lastIngest : InsertionMap ℕ ℕ)
    (workflowResult : Option TraceWorkflowResult) : List ExecutionTraceBackwardPath :=
  (nodes.getLast?.map (backwardPath nodes .workflowTerminal)).toList ++
    verificationPaths nodes lastIngest workflowResult

def workflowIdMismatch (wr : TraceWorkflowResult) (workflowId : String) : TruthLayerError where
  code := "WORKFLOW_RESULT_SCHEMA_INVALID"
  message := "WorkflowResult.workflowId (" ++ wr.workflowId ++
    ") does not match trace workflowId (" ++ workflowId ++ ")."

def traceNodes (runEvents : List RunEvent) (workflowResult : Option TraceWorkflowResult) :
    List ExecutionTraceNode :=
  let lastIngest := seqToLastToolIngest runEvents
  runEvents.zipIdx.map (traceNode lastIngest (planBySeq runEvents)
    (verificationLinkByIngest lastIngest workflowResult))

def executionTraceView (workflowId : String) (runEvents : List RunEvent)
    (malformedEventLineCount : ℕ) (workflowResult : Option TraceWorkflowResult) :
    ExecutionTraceView where
  workflowId := workflowId
  runCompletion := traceRunCompletion runEvents
  malformedEventLineCount := malformedEventLineCount
  nodes := traceNodes runEvents workflowResult
  backwardPaths := backwardPaths (traceNodes runEvents workflowResult)
    (seqToLastToolIngest runEvents) workflowResult

def buildExecutionTraceView (workflowId : String) (runEvents : List RunEvent)
    (malformedEventLineCount : ℕ) (workflowResult : Option TraceWorkflowResult) :
    Except TruthLayerError ExecutionTraceView := do
  assertValidRunEventParentGraph (runEvents.map RunEvent.json)
  match workflowResult with
  | some wr => if wr.workflowId ≠ workflowId then throw (workflowIdMismatch wr workflowId)
  | none => pure ()
  return executionTraceView workflowId runEvents malformedEventLineCount workflowResult

/-! ## Versions and parents -/

namespace RunEvent

theorem hasVersion_iff (ev : RunEvent) (n : ℕ) :
    ev.hasVersion n = true ↔ ev.schemaVersion = n := by
  obtain ⟨version, type, hseen, -⟩ := ev.exists_seen
  rw [hseen.hasVersion_eq, hseen.version_eq, decide_eq_true_eq, Nat.cast_inj]
  exact eq_comm

theorem hasRunEventId_iff (ev : RunEvent) :
    hasRunEventId ev.json = true ↔ ev.schemaVersion = 2 ∨ ev.schemaVersion = 3 := by
  have htwo := ev.hasVersion_iff 2
  have hthree := ev.hasVersion_iff 3
  rw [hasRunEventId, Bool.or_eq_true, ← htwo, ← hthree]
  rfl

/-- The first version has no such member. -/
theorem parentRunEventId_v1 {ev : RunEvent} (h : ev.schemaVersion = 1) :
    ev.parentRunEventId = none := by
  obtain ⟨kind, schema, hpair, hvalid⟩ := ev.exists_branch
  have hversion : kind.1 = 1 := by
    have hone := (ev.hasVersion_iff 1).mpr h
    rw [hasVersion, (kind_of_branch hpair hvalid).1, beq_iff_eq, Option.some.injEq,
      JsNumber.int.injEq] at hone
    exact hone
  have hschema : schema = toolObservedV1Schema := by
    simp only [eventKinds, List.mem_cons, Prod.mk.injEq, List.not_mem_nil, or_false] at hpair
    rcases hpair with ⟨-, rfl⟩ | ⟨rfl, -⟩ | ⟨rfl, -⟩ | ⟨rfl, -⟩ | ⟨rfl, -⟩ | ⟨rfl, -⟩ | ⟨rfl, -⟩
    · rfl
    all_goals exact absurd hversion (by decide)
  rw [hschema] at hvalid
  rw [parentRunEventId, textOf]
  split
  · rename_i s hs
    obtain ⟨property, hmem, -⟩ := Schema.valid_key_mem hvalid
      (by simp [inherited, objectPrototypeNames]) hs
    simp [observationProperties] at hmem
  · rfl

theorem parentOf_eq (ev : RunEvent) : parentOf ev.json = ev.parentRunEventId := by
  have hbounds := ev.schemaVersion_bounds
  rw [parentOf]
  split_ifs with hid
  · rfl
  · rw [hasRunEventId_iff] at hid
    exact (parentRunEventId_v1 (by omega)).symm

end RunEvent

theorem syntheticRunEventId_injective : Function.Injective syntheticRunEventId := by
  intro i j h
  rw [syntheticRunEventId, syntheticRunEventId, String.append_right_inj] at h
  exact JsNumber.toText_natCast_injective h

/-! ## The nodes -/

/-- The node of an event, of which the others are of no matter to the paths. -/
structure NodeOf (ev : RunEvent) (ingestIndex : ℕ) (n : ExecutionTraceNode) : Prop where
  index : n.ingestIndex = ingestIndex
  id : n.runEventId = nodeRunEventId ev ingestIndex
  parent : n.parentRunEventId = resolvedParentRunEventId ev

section

variable {runEvents : List RunEvent} {workflowResult : Option TraceWorkflowResult}

theorem exists_traceNode {i : ℕ} {ev : RunEvent} (h : runEvents[i]? = some ev) :
    ∃ n, (traceNodes runEvents workflowResult)[i]? = some n ∧ NodeOf ev i n := by
  have hnode : ∀ lastIngest plans links,
      NodeOf ev i (traceNode lastIngest plans links (ev, i)) :=
    fun _ _ _ => ⟨rfl, rfl, rfl⟩
  have hget : (traceNodes runEvents workflowResult)[i]? =
      some (traceNode (seqToLastToolIngest runEvents) (planBySeq runEvents)
        (verificationLinkByIngest (seqToLastToolIngest runEvents) workflowResult) (ev, i)) := by
    rw [traceNodes, List.getElem?_map, List.getElem?_zipIdx, h, Nat.zero_add]
    rfl
  exact ⟨_, hget, hnode _ _ _⟩

theorem nodeOf_of_getElem? {i : ℕ} {n : ExecutionTraceNode}
    (h : (traceNodes runEvents workflowResult)[i]? = some n) :
    ∃ ev, runEvents[i]? = some ev ∧ NodeOf ev i n := by
  cases hev : runEvents[i]? with
  | none =>
      rw [traceNodes, List.getElem?_map, List.getElem?_zipIdx, hev] at h
      cases h
  | some ev =>
      obtain ⟨m, hm, hnode⟩ := @exists_traceNode _ workflowResult _ _ hev
      obtain rfl : m = n := Option.some.inj (hm.symm.trans h)
      exact ⟨ev, rfl, hnode⟩

theorem nodeOf_of_mem {n : ExecutionTraceNode} (h : n ∈ traceNodes runEvents workflowResult) :
    ∃ ev, runEvents[n.ingestIndex]? = some ev ∧ NodeOf ev n.ingestIndex n := by
  obtain ⟨i, hi⟩ := List.mem_iff_getElem?.mp h
  obtain ⟨ev, hev, hnode⟩ := nodeOf_of_getElem? hi
  rw [hnode.index]
  exact ⟨ev, hev, hnode⟩

theorem nodeRunEventId_v2 {ev : RunEvent} (h : ev.schemaVersion = 2) (i : ℕ) :
    nodeRunEventId ev i = ev.runEventId :=
  if_pos ((ev.hasVersion_iff 2).mpr h)

theorem nodeRunEventId_of_ne {ev : RunEvent} (h : ev.schemaVersion ≠ 2) (i : ℕ) :
    nodeRunEventId ev i = syntheticRunEventId i :=
  if_neg fun htwo => h ((ev.hasVersion_iff 2).mp htwo)

theorem resolvedParent_v2 {ev : RunEvent} (h : ev.schemaVersion = 2) :
    resolvedParentRunEventId ev = ev.parentRunEventId :=
  if_pos ((ev.hasVersion_iff 2).mpr h)

theorem resolvedParent_of_ne {ev : RunEvent} (h : ev.schemaVersion ≠ 2) :
    resolvedParentRunEventId ev = none :=
  if_neg fun htwo => h ((ev.hasVersion_iff 2).mp htwo)

end

/-! ## Where the ids agree -/

/-- The ids of the nodes are those that the graph was checked with: events of version 3
neither have nor are parents, unless a parent's id reads as the one made up for an earlier
node, and no id of version 2 reads as a made up one. -/
structure TraceIdsAgree (runEvents : List RunEvent) : Prop where
  rootsV3 : ∀ ev ∈ runEvents, ev.schemaVersion = 3 → ev.parentRunEventId = none
  parentsV3 : ∀ (i : ℕ) (ev : RunEvent), runEvents[i]? = some ev → ev.schemaVersion = 2 →
    ∀ parent ∈ runEvents, parent.schemaVersion = 3 →
      ev.parentRunEventId = some parent.runEventId →
        ∃ j < i, ∃ earlier, runEvents[j]? = some earlier ∧ earlier.schemaVersion ≠ 2 ∧
          parent.runEventId = syntheticRunEventId j
  idsV2 : ∀ ev ∈ runEvents, ev.schemaVersion = 2 →
    ∀ (j : ℕ) (other : RunEvent), runEvents[j]? = some other → other.schemaVersion ≠ 2 →
      ev.runEventId ≠ syntheticRunEventId j

/-- A node, its parent, and so on to a root, each captured before its child. -/
inductive AncestorChain (nodes : List ExecutionTraceNode) :
    ExecutionTraceNode → List ExecutionTraceNode → Prop where
  | root {n} (hmem : n ∈ nodes) (hroot : n.parentRunEventId = none) :
      AncestorChain nodes n [n]
  | child {n parent ancestors} (hmem : n ∈ nodes)
      (hparent : n.parentRunEventId = some parent.runEventId)
      (hbefore : parent.ingestIndex < n.ingestIndex)
      (hancestors : AncestorChain nodes parent ancestors) :
      AncestorChain nodes n (n :: ancestors)

/-- Each parent of a node is the id of a node captured before it. -/
def ParentsAreNodes (nodes : List ExecutionTraceNode) : Prop :=
  ∀ n ∈ nodes, ∀ p, n.parentRunEventId = some p →
    ∃ parent ∈ nodes, parent.runEventId = p ∧ parent.ingestIndex < n.ingestIndex

/-- The graph of a view is closed, and has the roots of the run. -/
structure ClosedTrace (runEvents : List RunEvent) (view : ExecutionTraceView) : Prop where
  indices : view.nodes.map ExecutionTraceNode.ingestIndex = List.range runEvents.length
  ids : (view.nodes.map ExecutionTraceNode.runEventId).Nodup
  roots : ∀ n ∈ view.nodes, ∀ ev, runEvents[n.ingestIndex]? = some ev →
    (n.parentRunEventId = none ↔ ev.parentRunEventId = none)
  parents : ParentsAreNodes view.nodes
  paths : ∀ path ∈ view.backwardPaths, ∃ seed chain, AncestorChain view.nodes seed chain ∧
    path.seedRunEventId = seed.runEventId ∧
      path.ancestorRunEventIds = chain.map ExecutionTraceNode.runEventId

/-! ## Paths -/

section

variable {nodes : List ExecutionTraceNode}

theorem get?_idToNode (hids : (nodes.map ExecutionTraceNode.runEventId).Nodup)
    {n : ExecutionTraceNode} {id : String} :
    (idToNode nodes).get? id = some n ↔ n ∈ nodes ∧ n.runEventId = id := by
  have hkeys : ((nodes.map fun n => (n.runEventId, n)).map Prod.fst).Nodup := by
    rw [List.map_map]
    exact hids
  rw [idToNode, InsertionMap.get?_ofEntries hkeys, List.mem_map]
  constructor
  · rintro ⟨m, hm, hpair⟩
    obtain ⟨hid, rfl⟩ := Prod.mk.inj hpair
    exact ⟨hm, hid⟩
  · rintro ⟨hn, rfl⟩
    exact ⟨n, hn, rfl⟩

theorem next_parentLinks (hids : (nodes.map ExecutionTraceNode.runEventId).Nodup)
    {n : ExecutionTraceNode} (hn : n ∈ nodes) :
    (parentLinks nodes).next n.runEventId = n.parentRunEventId := by
  have hget : (idToNode nodes).get? n.runEventId = some n :=
    (get?_idToNode hids).mpr ⟨hn, rfl⟩
  have hlink : (parentLinks nodes).next n.runEventId =
      ((idToNode nodes).get? n.runEventId).bind ExecutionTraceNode.parentRunEventId := rfl
  rw [hlink, hget, Option.bind_some]

/-- The place of the node of an id. -/
def ingestIndexOf (nodes : List ExecutionTraceNode) (id : String) : ℕ :=
  ((idToNode nodes).get? id).elim 0 ExecutionTraceNode.ingestIndex

theorem ingestIndexOf_eq (hids : (nodes.map ExecutionTraceNode.runEventId).Nodup)
    {n : ExecutionTraceNode} (hn : n ∈ nodes) :
    ingestIndexOf nodes n.runEventId = n.ingestIndex := by
  rw [ingestIndexOf, (get?_idToNode hids).mpr ⟨hn, rfl⟩, Option.elim_some]

theorem descending_parentLinks (hids : (nodes.map ExecutionTraceNode.runEventId).Nodup)
    (hparents : ParentsAreNodes nodes) :
    (parentLinks nodes).Descending (ingestIndexOf nodes) := by
  intro id p hnext
  obtain ⟨n, hget, hp⟩ := Option.bind_eq_some_iff.mp hnext
  obtain ⟨hn, rfl⟩ := (get?_idToNode hids).mp hget
  obtain ⟨parent, hparent, rfl, hbefore⟩ := hparents n hn p hp
  rw [ingestIndexOf_eq hids hn, ingestIndexOf_eq hids hparent]
  exact hbefore

/-- A chain of ids is one of nodes. -/
theorem exists_ancestorChain (hids : (nodes.map ExecutionTraceNode.runEventId).Nodup)
    (hparents : ParentsAreNodes nodes) {id : String} {ids : List String}
    (hchain : (parentLinks nodes).Chain id ids) :
    ∀ n ∈ nodes, n.runEventId = id → ∃ chain, AncestorChain nodes n chain ∧
      ids = chain.map ExecutionTraceNode.runEventId := by
  induction hchain with
  | last hnext =>
      rintro n hn rfl
      rw [next_parentLinks hids hn] at hnext
      exact ⟨[n], .root hn hnext, rfl⟩
  | link hnext hchain ih =>
      rintro n hn rfl
      rw [next_parentLinks hids hn] at hnext
      obtain ⟨parent, hparent, rfl, hbefore⟩ := hparents n hn _ hnext
      obtain ⟨chain, hancestors, hmap⟩ := ih parent hparent rfl
      exact ⟨n :: chain, .child hn hnext hbefore hancestors, by rw [hmap, List.map_cons]⟩

theorem buildAncestorChain_spec (hids : (nodes.map ExecutionTraceNode.runEventId).Nodup)
    (hparents : ParentsAreNodes nodes) {seed : ExecutionTraceNode} (hseed : seed ∈ nodes) :
    ∃ chain, AncestorChain nodes seed chain ∧
      buildAncestorChain seed.runEventId nodes =
        chain.map ExecutionTraceNode.runEventId := by
  have hdescending := descending_parentLinks hids hparents
  have hwalk := LinkedKeys.chain_walk hdescending seed.runEventId
  exact exists_ancestorChain hids hparents hwalk seed hseed rfl

/-- The paths start at nodes. -/
theorem exists_seed {lastIngest : InsertionMap ℕ ℕ} {wr : Option TraceWorkflowResult}
    {path : ExecutionTraceBackwardPath} (h : path ∈ backwardPaths nodes lastIngest wr) :
    ∃ kind, ∃ seed ∈ nodes, path = backwardPath nodes kind seed := by
  rw [backwardPaths, List.mem_append, Option.mem_toList, Option.map_eq_some_iff] at h
  rcases h with ⟨seed, hlast, rfl⟩ | hstep
  · exact ⟨.workflowTerminal, seed, List.mem_of_getLast? hlast, rfl⟩
  · cases wr with
    | none => cases hstep
    | some wr =>
        obtain ⟨⟨step, stepIndex⟩, -, hpath⟩ := List.mem_filterMap.mp hstep
        obtain ⟨ingestIndex, -, hseed⟩ := Option.bind_eq_some_iff.mp hpath
        obtain ⟨seed, hget, rfl⟩ := Option.map_eq_some_iff.mp hseed
        exact ⟨_, seed, List.mem_of_getElem? hget, rfl⟩

end

/-! ## The closed graph -/

section

variable {runEvents : List RunEvent} {workflowResult : Option TraceWorkflowResult}

/-- The checked ids are distinct. -/
theorem eq_of_runEventId_eq (hids : (runIds (runEvents.map RunEvent.json)).Nodup) {i j : ℕ}
    {a b : RunEvent} (ha : runEvents[i]? = some a) (hb : runEvents[j]? = some b)
    (haid : hasRunEventId a.json = true) (hbid : hasRunEventId b.json = true)
    (hsame : a.runEventId = b.runEventId) : i = j := by
  have hlt : ∀ {i j : ℕ} {a b : RunEvent}, runEvents[i]? = some a → runEvents[j]? = some b →
      hasRunEventId a.json = true → hasRunEventId b.json = true →
        a.runEventId = b.runEventId → ¬ i < j := by
    intro i j a b ha hb haid hbid hsame hij
    have hearlier : a ∈ runEvents.take j :=
      List.mem_of_getElem? ((List.getElem?_take_of_lt hij).trans ha)
    obtain ⟨hj, rfl⟩ := List.getElem?_eq_some_iff.mp hb
    have hlater : runEvents[j] ∈ runEvents.drop j := by
      rw [List.drop_eq_getElem_cons hj]
      exact List.mem_cons_self
    have hsplit : runIds (runEvents.map RunEvent.json) =
        runIds ((runEvents.take j).map RunEvent.json) ++
          runIds ((runEvents.drop j).map RunEvent.json) := by
      rw [← runIds_append, ← List.map_append, List.take_append_drop]
    have hmem : ∀ {ev : RunEvent} {evs : List RunEvent}, ev ∈ evs →
        hasRunEventId ev.json = true → ev.runEventId ∈ runIds (evs.map RunEvent.json) := by
      intro ev evs hev hid
      apply List.mem_map_of_mem
      exact List.mem_filter.mpr ⟨List.mem_map_of_mem hev, hid⟩
    rw [hsplit] at hids
    exact (List.nodup_append.mp hids).2.2 _ (hmem hearlier haid) _ (hmem hlater hbid) hsame
  have hfst := hlt ha hb haid hbid hsame
  have hsnd := hlt hb ha hbid haid hsame.symm
  omega

/-- The ids of the nodes are distinct where no id reads as a made up one. -/
theorem nodup_traceNodes (hids : (runIds (runEvents.map RunEvent.json)).Nodup) :
    ((traceNodes runEvents workflowResult).map ExecutionTraceNode.runEventId).Nodup ↔
      ∀ ev ∈ runEvents, ev.schemaVersion = 2 →
        ∀ (j : ℕ) (other : RunEvent), runEvents[j]? = some other → other.schemaVersion ≠ 2 →
          ev.runEventId ≠ syntheticRunEventId j := by
  have hget : ∀ (i : ℕ) (ev : RunEvent), runEvents[i]? = some ev →
      ((traceNodes runEvents workflowResult).map ExecutionTraceNode.runEventId)[i]? =
        some (nodeRunEventId ev i) := by
    intro i ev hev
    obtain ⟨n, hn, hnode⟩ := @exists_traceNode _ workflowResult _ _ hev
    rw [List.getElem?_map, hn, Option.map_some, hnode.id]
  rw [List.nodup_iff_getElem?_ne_getElem?]
  constructor
  · intro hdistinct ev hev hversion j other hother hne hsame
    obtain ⟨i, hi⟩ := List.mem_iff_getElem?.mp hev
    have hboth : ((traceNodes runEvents workflowResult).map ExecutionTraceNode.runEventId)[i]? =
        ((traceNodes runEvents workflowResult).map ExecutionTraceNode.runEventId)[j]? := by
      rw [hget i ev hi, hget j other hother, nodeRunEventId_v2 hversion,
        nodeRunEventId_of_ne hne, hsame]
    have hlength : ∀ {k : ℕ} {ev : RunEvent}, runEvents[k]? = some ev →
        k < ((traceNodes runEvents workflowResult).map
          ExecutionTraceNode.runEventId).length := by
      intro k ev hk
      exact (List.getElem?_eq_some_iff.mp (hget k ev hk)).1
    rcases lt_trichotomy i j with hlt | rfl | hgt
    · exact hdistinct i j hlt (hlength hother) hboth
    · obtain rfl : ev = other := Option.some.inj (hi.symm.trans hother)
      exact hne hversion
    · exact hdistinct j i hgt (hlength hi) hboth.symm
  · intro hclash i j hij hj hsame
    have hlength : ((traceNodes runEvents workflowResult).map
        ExecutionTraceNode.runEventId).length = runEvents.length := by
      rw [List.length_map, traceNodes, List.length_map, List.length_zipIdx]
    rw [hlength] at hj
    have hi : i < runEvents.length := hij.trans hj
    obtain ⟨a, ha⟩ : ∃ a, runEvents[i]? = some a := ⟨_, List.getElem?_eq_getElem hi⟩
    obtain ⟨b, hb⟩ : ∃ b, runEvents[j]? = some b := ⟨_, List.getElem?_eq_getElem hj⟩
    rw [hget i a ha, hget j b hb, Option.some.injEq] at hsame
    by_cases hatwo : a.schemaVersion = 2
    · rw [nodeRunEventId_v2 hatwo] at hsame
      by_cases hbtwo : b.schemaVersion = 2
      · rw [nodeRunEventId_v2 hbtwo] at hsame
        have heq := eq_of_runEventId_eq hids ha hb (a.hasRunEventId_iff.mpr (.inl hatwo))
          (b.hasRunEventId_iff.mpr (.inl hbtwo)) hsame
        omega
      · rw [nodeRunEventId_of_ne hbtwo] at hsame
        exact hclash a (List.mem_of_getElem? ha) hatwo j b hb hbtwo hsame
    · rw [nodeRunEventId_of_ne hatwo] at hsame
      by_cases hbtwo : b.schemaVersion = 2
      · rw [nodeRunEventId_v2 hbtwo] at hsame
        exact hclash b (List.mem_of_getElem? hb) hbtwo i a ha hatwo hsame.symm
      · rw [nodeRunEventId_of_ne hbtwo] at hsame
        have heq := syntheticRunEventId_injective hsame
        omega

/-- A node has the roots of the run where no event of version 3 has a parent. -/
theorem roots_traceNodes :
    (∀ n ∈ traceNodes runEvents workflowResult, ∀ ev, runEvents[n.ingestIndex]? = some ev →
        (n.parentRunEventId = none ↔ ev.parentRunEventId = none)) ↔
      ∀ ev ∈ runEvents, ev.schemaVersion = 3 → ev.parentRunEventId = none := by
  constructor
  · intro hroots ev hev hversion
    obtain ⟨i, hi⟩ := List.mem_iff_getElem?.mp hev
    obtain ⟨n, hn, hnode⟩ := @exists_traceNode _ workflowResult _ _ hi
    apply (hroots n (List.mem_of_getElem? hn) ev (hnode.index ▸ hi)).mp
    rw [hnode.parent, resolvedParent_of_ne (by omega)]
  · intro hroots n hn ev hev
    obtain ⟨own, hown, hnode⟩ := nodeOf_of_mem hn
    obtain rfl : own = ev := Option.some.inj (hown.symm.trans hev)
    have hbounds := own.schemaVersion_bounds
    rw [hnode.parent]
    by_cases htwo : own.schemaVersion = 2
    · rw [resolvedParent_v2 htwo]
    · have hnone : own.parentRunEventId = none := by
        by_cases hthree : own.schemaVersion = 3
        · exact hroots own (List.mem_of_getElem? hown) hthree
        · exact RunEvent.parentRunEventId_v1 (by omega)
      rw [resolvedParent_of_ne htwo, hnone]

/-- A valid graph has the parent of an event before it. -/
theorem exists_parent (hparents : ParentsEarlier (runEvents.map RunEvent.json)) {i : ℕ}
    {ev : RunEvent} (hev : runEvents[i]? = some ev) {p : String}
    (hp : ev.parentRunEventId = some p) :
    ∃ j < i, ∃ parent, runEvents[j]? = some parent ∧
      hasRunEventId parent.json = true ∧ parent.runEventId = p := by
  obtain ⟨hi, rfl⟩ := List.getElem?_eq_some_iff.mp hev
  have hsplit : runEvents.map RunEvent.json =
      (runEvents.take i).map RunEvent.json ++
        runEvents[i].json :: (runEvents.drop (i + 1)).map RunEvent.json := by
    rw [← List.map_cons, ← List.map_append, ← List.drop_eq_getElem_cons hi,
      List.take_append_drop]
  have hmem := hparents _ _ _ hsplit p (by rw [RunEvent.parentOf_eq, hp])
  obtain ⟨json, hjson, hsame⟩ := List.mem_map.mp hmem
  obtain ⟨hin, hid⟩ := List.mem_filter.mp hjson
  obtain ⟨parent, hparent, rfl⟩ := List.mem_map.mp hin
  obtain ⟨j, hj⟩ := List.mem_iff_getElem?.mp hparent
  have hlt : j < i := by
    have hlength := (List.getElem?_eq_some_iff.mp hj).1
    rw [List.length_take] at hlength
    omega
  exact ⟨j, hlt, parent, (List.getElem?_take_of_lt hlt).symm.trans hj, hid, hsame⟩

/-- A node's parent is a node where it is of version 2, or reads as a made up id. -/
theorem parents_traceNodes (hids : (runIds (runEvents.map RunEvent.json)).Nodup)
    (hparents : ParentsEarlier (runEvents.map RunEvent.json)) :
    ParentsAreNodes (traceNodes runEvents workflowResult) ↔
      ∀ (i : ℕ) (ev : RunEvent), runEvents[i]? = some ev → ev.schemaVersion = 2 →
        ∀ parent ∈ runEvents, parent.schemaVersion = 3 →
          ev.parentRunEventId = some parent.runEventId →
            ∃ j < i, ∃ earlier, runEvents[j]? = some earlier ∧ earlier.schemaVersion ≠ 2 ∧
              parent.runEventId = syntheticRunEventId j := by
  constructor
  · intro hnodes i ev hi hversion parent hparent hthree hp
    obtain ⟨n, hn, hnode⟩ := @exists_traceNode _ workflowResult _ _ hi
    have hnodeParent : n.parentRunEventId = some parent.runEventId := by
      rw [hnode.parent, resolvedParent_v2 hversion, hp]
    obtain ⟨m, hm, hmid, hbefore⟩ := hnodes n (List.mem_of_getElem? hn) _ hnodeParent
    obtain ⟨earlier, hearlier, hmnode⟩ := nodeOf_of_mem hm
    rw [hnode.index] at hbefore
    have hne : earlier.schemaVersion ≠ 2 := by
      intro htwo
      obtain ⟨k, hk⟩ := List.mem_iff_getElem?.mp hparent
      rw [hmnode.id, nodeRunEventId_v2 htwo] at hmid
      have heq := eq_of_runEventId_eq hids hearlier hk
        (earlier.hasRunEventId_iff.mpr (.inl htwo))
        (parent.hasRunEventId_iff.mpr (.inr hthree)) hmid
      rw [heq, hk, Option.some.injEq] at hearlier
      rw [hearlier] at hthree
      omega
    refine ⟨m.ingestIndex, hbefore, earlier, hearlier, hne, ?_⟩
    rw [← hmid, hmnode.id, nodeRunEventId_of_ne hne]
  · intro hsynthetic n hn p hp
    obtain ⟨ev, hev, hnode⟩ := nodeOf_of_mem hn
    have htwo : ev.schemaVersion = 2 := by
      by_contra hne
      rw [hnode.parent, resolvedParent_of_ne hne] at hp
      cases hp
    rw [hnode.parent, resolvedParent_v2 htwo] at hp
    have hnodeAt : ∀ (j : ℕ) (earlier : RunEvent), j < n.ingestIndex →
        runEvents[j]? = some earlier → nodeRunEventId earlier j = p →
          ∃ parent ∈ traceNodes runEvents workflowResult, parent.runEventId = p ∧
            parent.ingestIndex < n.ingestIndex := by
      intro j earlier hlt hearlier hid
      obtain ⟨m, hm, hmnode⟩ := @exists_traceNode _ workflowResult _ _ hearlier
      exact ⟨m, List.mem_of_getElem? hm, hmnode.id.trans hid, hmnode.index.trans_lt hlt⟩
    obtain ⟨j, hlt, parent, hparent, hid, rfl⟩ := exists_parent hparents hev hp
    rcases parent.hasRunEventId_iff.mp hid with hptwo | hpthree
    · exact hnodeAt j parent hlt hparent (nodeRunEventId_v2 hptwo j)
    · obtain ⟨k, hk, earlier, hearlier, hne, hsame⟩ :=
        hsynthetic _ ev hev htwo parent (List.mem_of_getElem? hparent) hpthree hp
      exact hnodeAt k earlier hk hearlier ((nodeRunEventId_of_ne hne k).trans hsame.symm)

theorem map_ingestIndex_traceNodes :
    (traceNodes runEvents workflowResult).map ExecutionTraceNode.ingestIndex =
      List.range runEvents.length := by
  have hindex : ExecutionTraceNode.ingestIndex ∘ traceNode (seqToLastToolIngest runEvents)
      (planBySeq runEvents)
      (verificationLinkByIngest (seqToLastToolIngest runEvents) workflowResult) =
        Prod.snd := rfl
  rw [traceNodes, List.map_map, hindex, List.zipIdx_map_snd, List.range_eq_range']

end

theorem buildExecutionTraceView_eq_ok {workflowId : String} {runEvents : List RunEvent}
    {malformedEventLineCount : ℕ} {workflowResult : Option TraceWorkflowResult}
    (hgraph : assertValidRunEventParentGraph (runEvents.map RunEvent.json) = .ok ())
    (hworkflow : ∀ wr, workflowResult = some wr → wr.workflowId = workflowId) :
    buildExecutionTraceView workflowId runEvents malformedEventLineCount workflowResult =
      .ok (executionTraceView workflowId runEvents malformedEventLineCount
        workflowResult) := by
  rw [buildExecutionTraceView, hgraph]
  cases workflowResult with
  | none => rfl
  | some wr => simp [hworkflow wr rfl]

/-- The trace of a valid graph is closed and faithful exactly where the ids of its nodes
are those that the graph was checked with. -/
theorem executionTrace_closed_iff (workflowId : String) (runEvents : List RunEvent)
    (malformedEventLineCount : ℕ) (workflowResult : Option TraceWorkflowResult)
    (hgraph : assertValidRunEventParentGraph (runEvents.map RunEvent.json) = .ok ())
    (hworkflow : ∀ wr, workflowResult = some wr → wr.workflowId = workflowId) :
    ∃ view, buildExecutionTraceView workflowId runEvents malformedEventLineCount
        workflowResult = .ok view ∧
      (ClosedTrace runEvents view ↔ TraceIdsAgree runEvents) := by
  obtain ⟨hids, hparents⟩ := assertValidRunEventParentGraph_iff.mp hgraph
  refine ⟨_, buildExecutionTraceView_eq_ok hgraph hworkflow, ?_, ?_⟩
  · intro hclosed
    exact ⟨roots_traceNodes.mp hclosed.roots,
      (parents_traceNodes hids hparents).mp hclosed.parents,
      (nodup_traceNodes hids).mp hclosed.ids⟩
  · intro hagree
    have hdistinct := (@nodup_traceNodes _ workflowResult hids).mpr hagree.idsV2
    have hnodes :=
      (@parents_traceNodes _ workflowResult hids hparents).mpr hagree.parentsV3
    refine ⟨map_ingestIndex_traceNodes, hdistinct, roots_traceNodes.mpr hagree.rootsV3,
      hnodes, ?_⟩
    intro path hpath
    obtain ⟨kind, seed, hseed, rfl⟩ := exists_seed hpath
    obtain ⟨chain, hchain, hancestors⟩ := buildAncestorChain_spec hdistinct hnodes hseed
    exact ⟨seed, chain, hchain, rfl, hancestors⟩

/-! ## Two runs -/

/-- An observation of version 2, and the end of the run as its child. -/
def plainRun : List RunEvent :=
  [⟨.obj [("schemaVersion", .num (.int 2)), ("workflowId", .str "w"),
      ("runEventId", .str "a"), ("type", .str "tool_observed"), ("seq", .num (.int 0)),
      ("toolId", .str "t"), ("params", .obj [])], by decide +kernel⟩,
    ⟨.obj [("schemaVersion", .num (.int 2)), ("workflowId", .str "w"),
      ("runEventId", .str "b"), ("parentRunEventId", .str "a"), ("type", .str "control"),
      ("controlKind", .str "run_completed")], by decide +kernel⟩]

/-- The trace of a run of version 2. -/
theorem plainRun_trace :
    ∃ view, buildExecutionTraceView "w" plainRun 0 none = .ok view ∧
      (ClosedTrace plainRun view ↔ TraceIdsAgree plainRun) :=
  executionTrace_closed_iff "w" plainRun 0 none (by decide +kernel) nofun

theorem checkpointParent_valid :
    validateEvent (.obj [("schemaVersion", .num (.int 3)), ("workflowId", .str "w"),
      ("runEventId", .str "a"), ("type", .str "tool_observed"), ("seq", .num (.int 0)),
      ("toolId", .str "t"), ("params", .obj []),
      ("langgraphCheckpoint", .obj [("threadId", .str "thread"), ("checkpointNs", .str ""),
        ("checkpointId", .str "checkpoint")])]) = true := by
  decide +kernel

/-- Two observations of version 3, the second a child of the first. -/
def nestedCheckpointRun : List RunEvent :=
  [⟨.obj [("schemaVersion", .num (.int 3)), ("workflowId", .str "w"),
      ("runEventId", .str "a"), ("type", .str "tool_observed"), ("seq", .num (.int 0)),
      ("toolId", .str "t"), ("params", .obj []),
      ("langgraphCheckpoint", .obj [("threadId", .str "thread"), ("checkpointNs", .str ""),
        ("checkpointId", .str "checkpoint")])], checkpointParent_valid⟩,
    ⟨.obj [("schemaVersion", .num (.int 3)), ("workflowId", .str "w"),
      ("runEventId", .str "b"), ("parentRunEventId", .str "a"),
      ("type", .str "tool_observed"), ("seq", .num (.int 1)),
      ("toolId", .str "t"), ("params", .obj []),
      ("langgraphCheckpoint", .obj [("threadId", .str "thread"), ("checkpointNs", .str ""),
        ("checkpointId", .str "next")])], by decide +kernel⟩]

/-- The parent is checked, and then left out. -/
theorem nestedCheckpointRun_loses_parent :
    assertValidRunEventParentGraph (nestedCheckpointRun.map RunEvent.json) = .ok () ∧
      ¬ ∃ view, buildExecutionTraceView "w" nestedCheckpointRun 0 none = .ok view ∧
        ClosedTrace nestedCheckpointRun view := by
  have hgraph : assertValidRunEventParentGraph (nestedCheckpointRun.map RunEvent.json) =
      .ok () := by decide +kernel
  refine ⟨hgraph, ?_⟩
  rintro ⟨view, hview, hclosed⟩
  have hbuilt := @buildExecutionTraceView_eq_ok "w" _ 0 none hgraph nofun
  obtain rfl := Except.ok.inj (hbuilt.symm.trans hview)
  have hchild : (nestedCheckpointRun.get ⟨1, by decide⟩).schemaVersion = 3 ∧
      (nestedCheckpointRun.get ⟨1, by decide⟩).parentRunEventId = some "a" := by
    decide +kernel
  have hnone := roots_traceNodes.mp hclosed.roots _ (List.get_mem _ _) hchild.1
  rw [hchild.2] at hnone
  cases hnone

end AgentSkeptic.Events
