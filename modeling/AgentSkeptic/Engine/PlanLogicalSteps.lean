import AgentSkeptic.Engine.Params
import AgentSkeptic.Support.Grouping

/-!
# Logical steps

`planLogicalSteps.ts`: the observations of a workflow, sorted stably by `seq` and
grouped.  All observations of a `seq` are retries of one step, of which the last
captured one counts.
-/

namespace AgentSkeptic.Engine

open AgentSkeptic.Support

structure LanggraphCheckpointRef where
  threadId : String
  checkpointNs : String
  checkpointId : String
  deriving DecidableEq

/-- `schemaVersion` 1, 2 or 3; only the last carries a checkpoint. -/
inductive WireVersion where
  | v1 | v2
  | v3 (langgraphCheckpoint : LanggraphCheckpointRef)

structure ToolObservedEvent where
  wire : WireVersion
  workflowId : String
  seq : ℕ
  toolId : String
  params : Json

def observationsMatchForDivergence (a b : ToolObservedEvent) : Bool :=
  a.toolId = b.toolId &&
    canonicalJsonForParams a.params = canonicalJsonForParams b.params

def stableSortEventsBySeq (events : List ToolObservedEvent) :
    List ToolObservedEvent :=
  events.insertionSort fun a b => a.seq ≤ b.seq

structure LogicalStepPlan where
  seq : ℕ
  observations : List ToolObservedEvent
  last : ToolObservedEvent
  repeatObservationCount : ℕ
  divergent : Bool

def planOf (g : Group ℕ ToolObservedEvent) : LogicalStepPlan :=
  { seq := g.key
    observations := g.items
    last := g.last
    repeatObservationCount := g.items.length
    divergent := g.before.any fun o => !observationsMatchForDivergence o g.last }

/-- One row per distinct `seq`, ascending. -/
def planLogicalSteps (events : List ToolObservedEvent) : List LogicalStepPlan :=
  let bySeq := groupBy ToolObservedEvent.seq (stableSortEventsBySeq events)
  (bySeq.insertionSort fun g h => g.key ≤ h.key).map planOf

/-! ## What the plans are -/

/-- The observations of a step, in capture order. -/
def observationsAt (events : List ToolObservedEvent) (seq : ℕ) :
    List ToolObservedEvent :=
  events.filter (·.seq = seq)

/-- The last captured observation of a step. -/
def lastCaptured (events : List ToolObservedEvent) (seq : ℕ) :
    Option ToolObservedEvent :=
  (observationsAt events seq).getLast?

/-- All observations of a step have one tool and canonically equal parameters. -/
def ObservationsAgree (events : List ToolObservedEvent) (seq : ℕ) : Prop :=
  ∀ a ∈ observationsAt events seq, ∀ b ∈ observationsAt events seq,
    a.toolId = b.toolId ∧
      canonicalJsonForParams a.params = canonicalJsonForParams b.params

section

variable {events : List ToolObservedEvent}

theorem observationsMatch_iff {a b : ToolObservedEvent} :
    observationsMatchForDivergence a b = true ↔ a.toolId = b.toolId ∧
      canonicalJsonForParams a.params = canonicalJsonForParams b.params := by
  simp [observationsMatchForDivergence]

/-- The sort keeps the capture order of a step. -/
theorem observationsAt_sorted (seq : ℕ) :
    (stableSortEventsBySeq events).filter (·.seq = seq) =
      observationsAt events seq := by
  apply filter_insertionSort
  intro a b ha hb
  have hsame : a.seq = b.seq := by
    simp only [decide_eq_true_eq] at ha hb
    rw [ha, hb]
  exact hsame.le

theorem mem_planLogicalSteps {plan : LogicalStepPlan} :
    plan ∈ planLogicalSteps events ↔
      ∃ g : Group ℕ ToolObservedEvent,
        g.items = observationsAt events g.key ∧ planOf g = plan := by
  unfold planLogicalSteps
  simp only [List.mem_map, List.mem_insertionSort, mem_groupBy,
    observationsAt_sorted]

/-- The step of an observation has a plan. -/
theorem exists_plan {ev : ToolObservedEvent} (hev : ev ∈ events) :
    ∃ g : Group ℕ ToolObservedEvent, g.items = observationsAt events g.key ∧
      g.key = ev.seq ∧ planOf g ∈ planLogicalSteps events := by
  have hsorted : ev ∈ stableSortEventsBySeq events :=
    (List.mem_insertionSort _).mpr hev
  obtain ⟨g, hg, hkey, -⟩ : ∃ g ∈ groupBy ToolObservedEvent.seq
      (stableSortEventsBySeq events), g.key = ev.seq ∧ ev ∈ g.items :=
    exists_group hsorted
  have hitems : g.items = observationsAt events g.key := by
    rw [mem_groupBy.mp hg]
    exact observationsAt_sorted g.key
  exact ⟨g, hitems, hkey, mem_planLogicalSteps.mpr ⟨g, hitems, rfl⟩⟩

theorem lastCaptured_of_group {g : Group ℕ ToolObservedEvent}
    (h : g.items = observationsAt events g.key) :
    lastCaptured events g.key = some g.last := by
  rw [lastCaptured, ← h]
  simp [Group.items]

theorem last_mem_of_group {g : Group ℕ ToolObservedEvent}
    (h : g.items = observationsAt events g.key) :
    g.last ∈ events ∧ g.last.seq = g.key := by
  have hmem : g.last ∈ observationsAt events g.key := by
    rw [← h]
    simp [Group.items]
  simpa [observationsAt] using hmem

/-- The plans end in the last captured observations. -/
theorem exists_plan_last {last : ToolObservedEvent} :
    (∃ plan ∈ planLogicalSteps events, plan.last = last) ↔
      lastCaptured events last.seq = some last := by
  constructor
  · rintro ⟨plan, hplan, rfl⟩
    obtain ⟨g, hitems, rfl⟩ := mem_planLogicalSteps.mp hplan
    obtain ⟨-, hseq⟩ := last_mem_of_group hitems
    have hlast := lastCaptured_of_group hitems
    rw [← hseq] at hlast
    exact hlast
  · intro hlast
    have hmem : last ∈ observationsAt events last.seq :=
      List.mem_of_getLast? hlast
    obtain ⟨g, hitems, hkey, hplan⟩ := exists_plan (List.mem_filter.mp hmem).1
    have hgroup := lastCaptured_of_group hitems
    rw [hkey, hlast] at hgroup
    exact ⟨planOf g, hplan, (Option.some.inj hgroup).symm⟩

/-- A plan is not divergent when the observations agree pairwise. -/
theorem planOf_agrees {g : Group ℕ ToolObservedEvent}
    (h : g.items = observationsAt events g.key) :
    (planOf g).divergent = false ↔ ObservationsAgree events g.key := by
  have hequivalence : Equivalence fun a b : ToolObservedEvent => a.toolId = b.toolId ∧
      canonicalJsonForParams a.params = canonicalJsonForParams b.params :=
    ⟨fun _ => ⟨rfl, rfl⟩, fun hab => ⟨hab.1.symm, hab.2.symm⟩,
      fun hab hbc => ⟨hab.1.trans hbc.1, hab.2.trans hbc.2⟩⟩
  rw [ObservationsAgree, ← h]
  exact g.all_like_last hequivalence fun _ _ => observationsMatch_iff

theorem planLogicalSteps_eq_nil : planLogicalSteps events = [] ↔ events = [] := by
  constructor
  · intro hplans
    by_contra hne
    obtain ⟨ev, hev⟩ := List.exists_mem_of_ne_nil events hne
    obtain ⟨g, -, -, hmem⟩ := exists_plan hev
    rw [hplans] at hmem
    cases hmem
  · rintro rfl
    rfl

end

end AgentSkeptic.Engine
