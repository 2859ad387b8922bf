import AgentSkeptic.Engine.PlanLogicalSteps
import AgentSkeptic.Kernel.CanonicalParams
import AgentSkeptic.Support.JsShortest

/-!
# Logical steps in both languages

`plan_logical.py`, the port of `planLogicalSteps.ts`.  Both group the observations of a
workflow by `seq` and compare the parameters of a group by their canonical texts, but they
read the numbers of an event differently.  The plans are the same exactly when every `seq`
is a double and every group that JavaScript takes for retries of one step is one for Python
(`samePlans_iff`).
-/

namespace AgentSkeptic.Kernel

open AgentSkeptic.Support

/-! ## The planner of the port -/

structure ToolObservedEvent where
  wire : Engine.WireVersion
  workflowId : String
  seq : ℕ
  toolId : String
  params : PyValue

def observationsMatchForDivergence (a b : ToolObservedEvent) : Bool :=
  a.toolId = b.toolId &&
    canonicalJsonForParams a.params = canonicalJsonForParams b.params

def stableSortEventsBySeq (events : List ToolObservedEvent) : List ToolObservedEvent :=
  events.insertionSort fun a b => a.seq ≤ b.seq

structure LogicalStepPlan where
  seq : ℕ
  observations : List ToolObservedEvent
  last : ToolObservedEvent
  repeatObservationCount : ℕ
  divergent : Bool

def planOf (g : Group ℕ ToolObservedEvent) : LogicalStepPlan :=
  { seq := g.key
    observations := g.items
    last := g.last
    repeatObservationCount := g.items.length
    divergent := g.before.any fun o => !observationsMatchForDivergence o g.last }

def planLogicalSteps (events : List ToolObservedEvent) : List LogicalStepPlan :=
  let bySeq := groupBy ToolObservedEvent.seq (stableSortEventsBySeq events)
  let seqs := bySeq.insertionSort fun g h => g.key ≤ h.key
  seqs.map planOf

/-! ## Events -/

/-- A `tool_observed` event as it stands in the file. -/
structure EventDoc where
  wire : Engine.WireVersion
  workflowId : String
  seq : JsonLiteral
  toolId : String
  params : JsonDoc

namespace EventDoc

variable (ev : EventDoc)

/-- The double that JavaScript reads. -/
def jsSeq : ℚ := toDouble ev.seq.value

/-- An `int` is exact. -/
def pySeq : ℚ :=
  match ev.seq with
  | .integer .. => ev.seq.value
  | .decimal .. => toDouble ev.seq.value

def toJs : Engine.ToolObservedEvent :=
  { wire := ev.wire
    workflowId := ev.workflowId
    seq := ev.jsSeq.num.toNat
    toolId := ev.toolId
    params := ev.params.toJson }

def toPy : ToolObservedEvent :=
  { wire := ev.wire
    workflowId := ev.workflowId
    seq := ev.pySeq.num.toNat
    toolId := ev.toolId
    params := ev.params.toPy }

/-- `event.schema.json`, to a validator of either language. -/
structure SchemaValid : Prop where
  workflowId : ev.workflowId ≠ ""
  toolId : ev.toolId ≠ ""
  params : ∃ members, ev.params = .obj members
  checkpoint : ∀ checkpoint, ev.wire = .v3 checkpoint →
    checkpoint.threadId ≠ "" ∧ checkpoint.checkpointId ≠ ""
  finite : ev.seq.jsNumber.isFinite = true
  jsSeq : ∃ n : ℕ, ev.jsSeq = n
  pySeq : ∃ n : ℕ, ev.pySeq = n

end EventDoc

/-- Events of one workflow. -/
structure WorkflowEvents (events : List EventDoc) : Prop where
  valid : ∀ ev ∈ events, ev.SchemaValid
  oneWorkflow : ∀ a ∈ events, ∀ b ∈ events, a.workflowId = b.workflowId

/-! ## The same plans -/

/-- The observation at an index is the last one of its `seq`, for both languages. -/
def LastAt (events : List EventDoc) (i : ℕ) (ev : EventDoc) : Prop :=
  events[i]? = some ev ∧ ∀ j later, i < j → events[j]? = some later →
    later.toJs.seq ≠ ev.toJs.seq ∧ later.toPy.seq ≠ ev.toPy.seq

structure SameStep (events : List EventDoc) (ts : Engine.LogicalStepPlan)
    (py : LogicalStepPlan) : Prop where
  seq : ts.seq = py.seq
  divergent : ts.divergent = py.divergent
  last : ∃ i ev, LastAt events i ev ∧ ts.last = ev.toJs ∧ py.last = ev.toPy

def SamePlans (events : List EventDoc) : Prop :=
  List.Forall₂ (SameStep events) (Engine.planLogicalSteps (events.map EventDoc.toJs))
    (planLogicalSteps (events.map EventDoc.toPy))

/-- Observations that JavaScript takes for retries of one call are that for Python. -/
def RetriesAgree (events : List EventDoc) : Prop :=
  ∀ seq, (∀ a ∈ events, ∀ b ∈ events, a.pySeq = seq → b.pySeq = seq →
      a.toolId = b.toolId ∧ JsSame a.params b.params) →
    ∀ a ∈ events, ∀ b ∈ events, a.pySeq = seq → b.pySeq = seq → PySame a.params b.params

/-! ## Groups of observations -/

section Groups

variable {events : List EventDoc}

theorem items_of_mem {ε : Type} {seqOf : ε → ℕ} {read : EventDoc → ε} {g : Group ℕ ε}
    (hg : g ∈ orderedGroups seqOf (events.map read)) :
    g.items = (events.filter fun ev => seqOf (read ev) = g.key).map read := by
  rw [mem_orderedGroups.mp hg, List.filter_map]
  rfl

theorem forall_mem_items {ε : Type} {seqOf : ε → ℕ} {read : EventDoc → ε} {g : Group ℕ ε}
    (hg : g ∈ orderedGroups seqOf (events.map read)) {P : ε → Prop} :
    (∀ item ∈ g.items, P item) ↔ ∀ ev ∈ events, seqOf (read ev) = g.key → P (read ev) := by
  rw [items_of_mem hg]
  constructor
  · intro h ev hev hkey
    exact h _ (List.mem_map_of_mem (List.mem_filter.mpr ⟨hev, decide_eq_true hkey⟩))
  · intro h item hitem
    obtain ⟨ev, hev, rfl⟩ := List.mem_map.mp hitem
    obtain ⟨hmem, hkey⟩ := List.mem_filter.mp hev
    exact h ev hmem (of_decide_eq_true hkey)

theorem js_agree_iff {g : Group ℕ Engine.ToolObservedEvent}
    (hg : g ∈ orderedGroups Engine.ToolObservedEvent.seq (events.map EventDoc.toJs)) :
    (Engine.planOf g).divergent = false ↔
      ∀ a ∈ events, a.toJs.seq = g.key → ∀ b ∈ events, b.toJs.seq = g.key →
        a.toolId = b.toolId ∧ JsSame a.params b.params := by
  have hitems : Engine.observationsAt (events.map EventDoc.toJs) g.key = g.items :=
    (mem_orderedGroups.mp hg).symm
  rw [Engine.planOf_agrees hitems.symm, Engine.ObservationsAgree, hitems, forall_mem_items hg]
  simp only [forall_mem_items hg, EventDoc.toJs, jsCanonical_eq_iff]

theorem observationsMatch_iff {a b : ToolObservedEvent} :
    observationsMatchForDivergence a b = true ↔ a.toolId = b.toolId ∧
      canonicalJsonForParams a.params = canonicalJsonForParams b.params := by
  simp [observationsMatchForDivergence]

theorem py_agree_iff {g : Group ℕ ToolObservedEvent}
    (hg : g ∈ orderedGroups ToolObservedEvent.seq (events.map EventDoc.toPy)) :
    (planOf g).divergent = false ↔
      ∀ a ∈ events, a.toPy.seq = g.key → ∀ b ∈ events, b.toPy.seq = g.key →
        a.toolId = b.toolId ∧ PySame a.params b.params := by
  have hequivalence : Equivalence fun a b : ToolObservedEvent => a.toolId = b.toolId ∧
      canonicalJsonForParams a.params = canonicalJsonForParams b.params :=
    ⟨fun _ => ⟨rfl, rfl⟩, fun hab => ⟨hab.1.symm, hab.2.symm⟩,
      fun hab hbc => ⟨hab.1.trans hbc.1, hab.2.trans hbc.2⟩⟩
  have hlike := g.all_like_last hequivalence fun _ _ => observationsMatch_iff
  refine hlike.trans ?_
  rw [forall_mem_items hg]
  simp only [forall_mem_items hg, EventDoc.toPy, pyCanonical_eq_iff]

/-- The last element with a property, and where it stands. -/
theorem exists_last {α : Type} {p : α → Bool} {xs : List α} {x : α}
    (h : (xs.filter p).getLast? = some x) :
    ∃ i : ℕ, xs[i]? = some x ∧ ∀ (j : ℕ) (later : α), i < j → xs[j]? = some later →
      p later = false := by
  induction xs using List.reverseRecOn with
  | nil => cases h
  | append_singleton xs y ih =>
      rw [List.filter_append] at h
      cases hy : p y with
      | true =>
          have hx : y = x := by
            rw [List.filter_cons_of_pos hy, List.filter_nil, List.getLast?_concat] at h
            exact Option.some.inj h
          refine ⟨xs.length, by simp [hx], ?_⟩
          intro j later hj hlater
          rw [List.getElem?_eq_none (by simpa using Nat.succ_le_of_lt hj)] at hlater
          cases hlater
      | false =>
          obtain ⟨i, hi, hafter⟩ := ih (by simpa [hy] using h)
          obtain ⟨hlt, -⟩ := List.getElem?_eq_some_iff.mp hi
          refine ⟨i, by rw [List.getElem?_append_left hlt, hi], ?_⟩
          intro j later hj hlater
          rcases Nat.lt_or_ge j xs.length with hold | hnew
          · rw [List.getElem?_append_left hold] at hlater
            exact hafter j later hj hlater
          · rw [List.getElem?_append_right hnew] at hlater
            have hmem : later ∈ [y] := List.mem_of_getElem? hlater
            rw [List.mem_singleton.mp hmem]
            exact hy

theorem last_of_mem {ε : Type} {seqOf : ε → ℕ} {read : EventDoc → ε} {g : Group ℕ ε}
    (hg : g ∈ orderedGroups seqOf (events.map read)) :
    ((events.filter fun ev => seqOf (read ev) = g.key).map read).getLast? = some g.last := by
  rw [← items_of_mem hg]
  simp [Group.items]

end Groups

/-! ## The `seq` of an event -/

section Seqs

variable {ev : EventDoc}

theorem EventDoc.SchemaValid.jsSeq_eq (h : ev.SchemaValid) : ev.jsSeq = ev.toJs.seq := by
  obtain ⟨n, hn⟩ := h.jsSeq
  rw [EventDoc.toJs, hn]
  simp

theorem EventDoc.SchemaValid.pySeq_eq (h : ev.SchemaValid) : ev.pySeq = ev.toPy.seq := by
  obtain ⟨n, hn⟩ := h.pySeq
  rw [EventDoc.toPy, hn]
  simp

/-- An event whose `seq` some double has is read as that by both. -/
theorem EventDoc.SchemaValid.seq_eq_of_double (h : ev.SchemaValid) {x : ℚ}
    (hx : toDouble x = ev.pySeq) : ev.jsSeq = ev.pySeq := by
  obtain ⟨n, hn⟩ := h.pySeq
  cases hseq : ev.seq with
  | decimal negative digits exponent => rw [EventDoc.jsSeq, EventDoc.pySeq, hseq]
  | integer negative digits =>
      have hvalue : ev.seq.value = n := by
        rw [← hn, EventDoc.pySeq, hseq]
      rw [hn] at hx ⊢
      have hself := JsNumber.toDouble_of_eq hx
      rw [EventDoc.jsSeq, hvalue]
      exact_mod_cast hself

end Seqs

/-! ## When the plans are the same -/

section Plans

variable {events : List EventDoc}

theorem exists_related {α β : Type} {R : α → β → Prop} {xs : List α} {ys : List β}
    (h : List.Forall₂ R xs ys) {x : α} (hx : x ∈ xs) : ∃ y ∈ ys, R x y := by
  induction h with
  | nil => cases hx
  | cons hhead _ ih =>
      rcases List.mem_cons.mp hx with rfl | hx
      · exact ⟨_, List.mem_cons_self, hhead⟩
      · obtain ⟨y, hy, hxy⟩ := ih hx
        exact ⟨y, List.mem_cons_of_mem _ hy, hxy⟩

theorem related_mem {α β : Type} {R : α → β → Prop} {xs : List α} {ys : List β}
    (h : List.Forall₂ R xs ys) :
    List.Forall₂ (fun x y => x ∈ xs ∧ y ∈ ys ∧ R x y) xs ys := by
  have hright : List.Forall₂ (fun y x => y ∈ ys ∧ R x y) ys xs :=
    (List.forall₂_and_left ys xs).mpr ⟨fun _ hy => hy, h.flip⟩
  exact (List.forall₂_and_left xs ys).mpr ⟨fun _ hx => hx, hright.flip⟩

theorem mem_seqs {ε : Type} {seqOf : ε → ℕ} {read : EventDoc → ε} {seq : ℕ} :
    seq ∈ (orderedGroups seqOf (events.map read)).map Group.key ↔
      ∃ ev ∈ events, seqOf (read ev) = seq := by
  rw [mem_keys_orderedGroups]
  simp

/-- The same plans have the same sequence numbers. -/
theorem SamePlans.seqs_eq (h : SamePlans events) :
    (orderedGroups Engine.ToolObservedEvent.seq (events.map EventDoc.toJs)).map Group.key =
      (orderedGroups ToolObservedEvent.seq (events.map EventDoc.toPy)).map Group.key := by
  have hseqs := h.imp fun _ _ hsame => hsame.seq
  have hmap : (Engine.planLogicalSteps (events.map EventDoc.toJs)).map (·.seq) =
      (planLogicalSteps (events.map EventDoc.toPy)).map (·.seq) := by
    rw [← List.forall₂_eq_eq_eq, List.forall₂_map_left_iff, List.forall₂_map_right_iff]
    exact hseqs
  have hjs : (Engine.planLogicalSteps (events.map EventDoc.toJs)).map (·.seq) =
      (orderedGroups Engine.ToolObservedEvent.seq (events.map EventDoc.toJs)).map
        Group.key := List.map_map
  have hpy : (planLogicalSteps (events.map EventDoc.toPy)).map (·.seq) =
      (orderedGroups ToolObservedEvent.seq (events.map EventDoc.toPy)).map
        Group.key := List.map_map
  rw [← hjs, hmap, hpy]

theorem SamePlans.seq_eq (h : SamePlans events) (hevents : WorkflowEvents events)
    {ev : EventDoc} (hev : ev ∈ events) : ev.jsSeq = ev.pySeq := by
  have hvalid := hevents.valid ev hev
  have hmem : ev.toPy.seq ∈
      (orderedGroups ToolObservedEvent.seq (events.map EventDoc.toPy)).map Group.key :=
    mem_seqs.mpr ⟨ev, hev, rfl⟩
  rw [← h.seqs_eq, mem_seqs] at hmem
  obtain ⟨other, hother, hseq⟩ := hmem
  apply hvalid.seq_eq_of_double
  rw [hvalid.pySeq_eq, ← hseq, ← (hevents.valid other hother).jsSeq_eq]
  rfl

theorem SamePlans.retriesAgree (h : SamePlans events) (hevents : WorkflowEvents events) :
    RetriesAgree events := by
  intro seq hjs a ha b hb hseqa hseqb
  have hkey : ∀ ev ∈ events, ev.toJs.seq = a.toJs.seq → ev.pySeq = seq := by
    intro ev hev hsame
    have hvalid := hevents.valid ev hev
    rw [← h.seq_eq hevents hev, hvalid.jsSeq_eq, hsame, ← (hevents.valid a ha).jsSeq_eq,
      h.seq_eq hevents ha, hseqa]
  have hmem : a.toJs.seq ∈ (orderedGroups Engine.ToolObservedEvent.seq
      (events.map EventDoc.toJs)).map Group.key := mem_seqs.mpr ⟨a, ha, rfl⟩
  obtain ⟨g, hg, hgkey⟩ := List.mem_map.mp hmem
  obtain ⟨py, hpy, hsame⟩ := exists_related h (List.mem_map_of_mem hg)
  obtain ⟨g', hg', rfl⟩ := List.mem_map.mp hpy
  have hagree : (Engine.planOf g).divergent = false := by
    rw [js_agree_iff hg]
    intro a' ha' hka b' hb' hkb
    rw [hgkey] at hka hkb
    exact hjs a' ha' b' hb' (hkey a' ha' hka) (hkey b' hb' hkb)
  have hdivergent : (planOf g').divergent = false := hsame.divergent ▸ hagree
  have hgkey' : g'.key = a.toJs.seq := by
    have hseq : g.key = g'.key := hsame.seq
    rw [← hseq, hgkey]
  have hpykey : ∀ ev ∈ events, ev.pySeq = seq → ev.toPy.seq = g'.key := by
    intro ev hev hseq
    have hcast : (ev.toPy.seq : ℚ) = a.toJs.seq := by
      rw [← (hevents.valid ev hev).pySeq_eq, hseq, ← hseqa, ← h.seq_eq hevents ha,
        (hevents.valid a ha).jsSeq_eq]
    rw [hgkey']
    exact_mod_cast hcast
  exact ((py_agree_iff hg').mp hdivergent a ha (hpykey a ha hseqa) b hb
    (hpykey b hb hseqb)).2

/-- Groups of one `seq` make the same step. -/
theorem sameStep_of_groups (hread : ∀ ev ∈ events, ev.toJs.seq = ev.toPy.seq)
    {g : Group ℕ Engine.ToolObservedEvent} {g' : Group ℕ ToolObservedEvent}
    (hg : g ∈ orderedGroups Engine.ToolObservedEvent.seq (events.map EventDoc.toJs))
    (hg' : g' ∈ orderedGroups ToolObservedEvent.seq (events.map EventDoc.toPy))
    (hkey : g.key = g'.key)
    (hretries : (∀ a ∈ events, a.toJs.seq = g.key → ∀ b ∈ events, b.toJs.seq = g.key →
        a.toolId = b.toolId ∧ JsSame a.params b.params) →
      ∀ a ∈ events, a.toJs.seq = g.key → ∀ b ∈ events, b.toJs.seq = g.key →
        PySame a.params b.params) :
    SameStep events (Engine.planOf g) (planOf g') := by
  have hpykey : ∀ ev ∈ events, ev.toPy.seq = g'.key ↔ ev.toJs.seq = g.key := by
    intro ev hev
    rw [hread ev hev, hkey]
  refine ⟨hkey, ?_, ?_⟩
  · rw [Bool.eq_iff_iff, ← not_iff_not, Bool.not_eq_true, Bool.not_eq_true, js_agree_iff hg,
      py_agree_iff hg']
    constructor
    · intro hjs a ha hka b hb hkb
      rw [hpykey a ha] at hka
      rw [hpykey b hb] at hkb
      exact ⟨(hjs a ha hka b hb hkb).1, hretries hjs a ha hka b hb hkb⟩
    · intro hpy a ha hka b hb hkb
      rw [← hpykey a ha] at hka
      rw [← hpykey b hb] at hkb
      have hsame := hpy a ha hka b hb hkb
      exact ⟨hsame.1, JsSame.of_pySame hsame.2⟩
  · have hfilter : events.filter (fun ev => ev.toJs.seq = g.key) =
        events.filter fun ev => ev.toPy.seq = g'.key := by
      apply List.filter_congr
      intro ev hev
      rw [decide_eq_decide]
      exact (hpykey ev hev).symm
    have hlast := last_of_mem hg
    have hlast' := last_of_mem hg'
    rw [List.getLast?_map, Option.map_eq_some_iff] at hlast hlast'
    obtain ⟨ev, hev, hjs⟩ := hlast
    obtain ⟨ev', hev', hpy⟩ := hlast'
    rw [← hfilter, hev, Option.some.injEq] at hev'
    subst hev'
    obtain ⟨i, hi, hafter⟩ := exists_last hev
    have hmem : ev ∈ events := List.mem_of_getElem? hi
    have hevkey : ev.toJs.seq = g.key := by
      have hfound := List.mem_of_getLast? hev
      exact of_decide_eq_true (List.mem_filter.mp hfound).2
    refine ⟨i, ev, ⟨hi, ?_⟩, hjs.symm, hpy.symm⟩
    intro j later hj hlater
    have hother : later.toJs.seq ≠ g.key := of_decide_eq_false (hafter j later hj hlater)
    have hlatermem : later ∈ events := List.mem_of_getElem? hlater
    rw [← hread ev hmem, ← hread later hlatermem, hevkey]
    exact ⟨hother, hother⟩

/-- The two planners agree on the events of a workflow exactly when every `seq` is a double
and no retries are the same for JavaScript only. -/
theorem samePlans_iff (events : List EventDoc) (hevents : WorkflowEvents events) :
    SamePlans events ↔ (∀ ev ∈ events, ev.jsSeq = ev.pySeq) ∧ RetriesAgree events := by
  constructor
  · intro h
    exact ⟨fun ev hev => h.seq_eq hevents hev, h.retriesAgree hevents⟩
  · rintro ⟨hexact, hretries⟩
    have hread : ∀ ev ∈ events, ev.toJs.seq = ev.toPy.seq := by
      intro ev hev
      have hcast : (ev.toJs.seq : ℚ) = ev.toPy.seq := by
        rw [← (hevents.valid ev hev).jsSeq_eq, hexact ev hev, (hevents.valid ev hev).pySeq_eq]
      exact_mod_cast hcast
    have hkeys : (orderedGroups Engine.ToolObservedEvent.seq
        (events.map EventDoc.toJs)).map Group.key =
        (orderedGroups ToolObservedEvent.seq (events.map EventDoc.toPy)).map Group.key := by
      apply orderedGroups_keys_eq
      intro k
      simp only [List.mem_map, exists_exists_and_eq_and]
      exact exists_congr fun ev => and_congr_right fun hev => by rw [hread ev hev]
    rw [← List.forall₂_eq_eq_eq, List.forall₂_map_left_iff, List.forall₂_map_right_iff] at hkeys
    have hsteps : List.Forall₂ (fun g g' => SameStep events (Engine.planOf g) (planOf g'))
        (orderedGroups Engine.ToolObservedEvent.seq (events.map EventDoc.toJs))
        (orderedGroups ToolObservedEvent.seq (events.map EventDoc.toPy)) := by
      refine (related_mem hkeys).imp fun g g' ⟨hg, hg', hkey⟩ => ?_
      refine sameStep_of_groups hread hg hg' hkey fun hjs a ha hka b hb hkb => ?_
      have hseq : ∀ ev ∈ events, ev.pySeq = g.key ↔ ev.toJs.seq = g.key := by
        intro ev hev
        rw [(hevents.valid ev hev).pySeq_eq, ← hread ev hev, Nat.cast_inj]
      refine hretries g.key ?_ a ha b hb ((hseq a ha).mpr hka) ((hseq b hb).mpr hkb)
      intro a ha b hb hka hkb
      exact hjs a ha ((hseq a ha).mp hka) b hb ((hseq b hb).mp hkb)
    exact List.forall₂_map_left_iff.mpr (List.forall₂_map_right_iff.mpr hsteps)

end Plans

/-! ### A retry with another literal -/

def retryEvent (literal : JsonLiteral) : EventDoc :=
  { wire := .v1
    workflowId := "w"
    seq := .integer false 0
    toolId := "crm.upsert"
    params := .obj [("amount", .scalar (.num literal))] }

theorem retryEvent_valid (literal : JsonLiteral) : (retryEvent literal).SchemaValid where
  workflowId := by simp [retryEvent]
  toolId := by simp [retryEvent]
  params := ⟨_, rfl⟩
  checkpoint := by
    intro checkpoint h
    cases h
  finite := by
    have hzero : (JsonLiteral.integer false 0).jsNumber.isFinite = true := by decide +kernel
    exact hzero
  jsSeq := by
    have hzero : toDouble (JsonLiteral.integer false 0).value = (0 : ℕ) := by decide +kernel
    exact ⟨0, hzero⟩
  pySeq := by
    have hzero : (JsonLiteral.integer false 0).value = (0 : ℕ) := by decide +kernel
    exact ⟨0, hzero⟩

theorem retryEvents_workflow (first second : JsonLiteral) :
    WorkflowEvents [retryEvent first, retryEvent second] where
  valid := by
    intro ev hev
    rcases List.mem_pair.mp hev with rfl | rfl
    · exact retryEvent_valid first
    · exact retryEvent_valid second
  oneWorkflow := by
    have hid : ∀ ev ∈ [retryEvent first, retryEvent second], ev.workflowId = "w" := by
      simp [retryEvent]
    intro a ha b hb
    rw [hid a ha, hid b hb]

/-- `1` and `1.0` are one number to JavaScript and two to Python. -/
theorem not_samePlans_retry : ¬∀ events, WorkflowEvents events → SamePlans events := by
  intro h
  have hworkflow := retryEvents_workflow (.integer false 1) (.decimal false 10 (-1))
  have hagree := (h _ hworkflow).retriesAgree hworkflow
  have hjs : JsSame (retryEvent (.integer false 1)).params
      (retryEvent (.decimal false 10 (-1))).params := by
    rw [← jsCanonical_eq_iff]
    decide +kernel
  have hpy : ¬PySame (retryEvent (.integer false 1)).params
      (retryEvent (.decimal false 10 (-1))).params := by
    rw [← pyCanonical_eq_iff]
    decide +kernel
  apply hpy
  refine hagree 0 ?_ _ List.mem_cons_self _ (List.mem_cons_of_mem _ List.mem_cons_self) rfl rfl
  intro a ha b hb _ _
  rcases List.mem_pair.mp ha with rfl | rfl
  · rcases List.mem_pair.mp hb with rfl | rfl
    · exact ⟨rfl, rfl⟩
    · exact ⟨rfl, hjs⟩
  · rcases List.mem_pair.mp hb with rfl | rfl
    · exact ⟨rfl, hjs.symm⟩
    · exact ⟨rfl, rfl⟩

/-- A retry with the same literal is planned alike. -/
theorem samePlans_retry :
    SamePlans [retryEvent (.decimal false 10 (-1)), retryEvent (.decimal false 10 (-1))] := by
  rw [samePlans_iff _ (retryEvents_workflow _ _)]
  have hsame : ∀ ev ∈ [retryEvent (.decimal false 10 (-1)),
      retryEvent (.decimal false 10 (-1))], ev = retryEvent (.decimal false 10 (-1)) := by
    simp
  constructor
  · intro ev hev
    rw [hsame ev hev]
    decide +kernel
  · intro seq _ a ha b hb _ _
    rw [hsame a ha, hsame b hb]
    rfl

end AgentSkeptic.Kernel
