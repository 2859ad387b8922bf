import AgentSkeptic.Events.VerificationRunContext
import AgentSkeptic.Engine.PlanLogicalSteps

/-!
# Observations of a run

A `tool_observed` event of the run, as the planner and the pipeline read it.
-/

namespace AgentSkeptic.Events

open AgentSkeptic.Support AgentSkeptic.Engine

namespace RunEvent

/-- A text of `ev.langgraphCheckpoint`. -/
def checkpointText (ev : RunEvent) (key : String) : String :=
  match ev.json.member "langgraphCheckpoint" with
  | .json checkpoint => (textOf checkpoint key).getD ""
  | _ => ""

def langgraphCheckpoint (ev : RunEvent) : LanggraphCheckpointRef where
  threadId := ev.checkpointText "threadId"
  checkpointNs := ev.checkpointText "checkpointNs"
  checkpointId := ev.checkpointText "checkpointId"

def wire (ev : RunEvent) : WireVersion :=
  if ev.hasVersion 3 then .v3 ev.langgraphCheckpoint
  else if ev.hasVersion 2 then .v2
  else .v1

/-- The observation that a `tool_observed` event is. -/
def observation (ev : RunEvent) : ToolObservedEvent where
  wire := ev.wire
  workflowId := ev.workflowId.getD ""
  seq := ev.seq
  toolId := (textOf ev.json "toolId").getD ""
  params :=
    match ev.json.member "params" with
    | .json params => params
    | _ => .null

/-- What the schema says of a checkpoint: only its namespace may be empty. -/
theorem checkpoint_nonempty {ev : RunEvent} (h : ev.hasVersion 3 = true) :
    ev.langgraphCheckpoint.threadId ≠ "" ∧ ev.langgraphCheckpoint.checkpointId ≠ "" := by
  obtain ⟨kind, schema, hpair, hvalid⟩ := ev.exists_branch
  have hversion := (kind_of_branch hpair hvalid).1
  rw [hasVersion, hversion, beq_iff_eq, Option.some.injEq, JsNumber.int.injEq] at h
  have hschema : schema = toolObservedV3Schema := by
    simp only [eventKinds, List.mem_cons, Prod.mk.injEq, List.not_mem_nil, or_false] at hpair
    rcases hpair with ⟨rfl, -⟩ | ⟨rfl, -⟩ | ⟨-, rfl⟩ | ⟨rfl, -⟩ | ⟨rfl, -⟩ | ⟨rfl, -⟩ | ⟨rfl, -⟩
    · exact absurd h (by decide)
    · exact absurd h (by decide)
    · rfl
    all_goals exact absurd h (by decide)
  rw [hschema] at hvalid
  have hrequired : "langgraphCheckpoint" ∈
      wireRequired ++ ["seq", "toolId", "params", "langgraphCheckpoint"] := by simp
  obtain ⟨checkpoint, hmember, hcheckpoint⟩ := Schema.valid_required hvalid hrequired
    (List.mem_append_right _ (List.mem_singleton_self _))
  have htext : ∀ key ∈ ["threadId", "checkpointId"],
      (textOf checkpoint key).getD "" ≠ "" := by
    intro key hkey
    have hrequired : key ∈ ["threadId", "checkpointNs", "checkpointId"] := by
      simp only [List.mem_cons, List.not_mem_nil, or_false] at hkey ⊢
      tauto
    have hproperty : (key, Schema.text 1 none) ∈ [("threadId", Schema.text 1 none),
        ("checkpointNs", .text 0 none), ("checkpointId", .text 1 none)] := by
      simp only [List.mem_cons, List.not_mem_nil, or_false] at hkey
      rcases hkey with rfl | rfl
      all_goals simp
    obtain ⟨w, hw, htext⟩ := Schema.valid_required hcheckpoint hrequired hproperty
    cases w with
    | str s =>
        rw [textOf, hw]
        rintro rfl
        exact absurd htext (by decide)
    | null => cases htext
    | bool value => cases htext
    | num value => cases htext
    | arr items => cases htext
    | obj members => cases htext
  have hread : ∀ key, ev.checkpointText key = (textOf checkpoint key).getD "" := by
    intro key
    rw [checkpointText, hmember]
  constructor
  · exact (hread "threadId").trans_ne (htext "threadId" (by simp))
  · exact (hread "checkpointId").trans_ne (htext "checkpointId" (by simp))

end RunEvent

end AgentSkeptic.Events
