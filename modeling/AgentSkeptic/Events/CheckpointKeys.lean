import AgentSkeptic.Events.ObservedEvents
import AgentSkeptic.Engine.LangGraphGate
import AgentSkeptic.Support.Separated
import AgentSkeptic.Support.StableSort

/-!
# Checkpoint keys

The key of a checkpoint joins its three texts with U+001F, which the event schema
allows inside them.  `checkpointKeys_exact` says which keys belong to one checkpoint
only, and what the verdicts are that are rolled up by key.
-/

namespace AgentSkeptic.Events

open AgentSkeptic.Support AgentSkeptic.Engine

/-! ## The texts of a key -/

/-- U+001F. -/
def separator : Char := Char.ofNat 0x1F

theorem key_toList (c : LanggraphCheckpointRef) :
    c.key.toList = c.threadId.toList ++ separator ::
      (c.checkpointNs.toList ++ separator :: c.checkpointId.toList) := by
  simp [LanggraphCheckpointRef.key, unitSeparator, separator]

/-- U+001F stands nowhere but at the start of the thread or at the end of the id. -/
def SeparatorOutside (c : LanggraphCheckpointRef) : Prop :=
  separator ∉ c.threadId.toList.tail ∧ separator ∉ c.checkpointNs.toList ∧
    separator ∉ c.checkpointId.toList.dropLast

theorem toList_ne_nil {s : String} (h : s ≠ "") : s.toList ≠ [] := by
  simpa using h

theorem eq_of_key_eq {c d : LanggraphCheckpointRef} (hc : SeparatorOutside c)
    (hthread : d.threadId ≠ "") (hid : d.checkpointId ≠ "") (h : c.key = d.key) : c = d := by
  have hlists := congrArg String.toList h
  rw [key_toList, key_toList] at hlists
  obtain ⟨hthreads, hns, hids⟩ := three_parts_unique hc.1 hc.2.1 hc.2.2
    (toList_ne_nil hthread) (toList_ne_nil hid) hlists
  rcases c with ⟨threadId, checkpointNs, checkpointId⟩
  rcases d with ⟨threadId', checkpointNs', checkpointId'⟩
  dsimp only at hthreads hns hids
  rw [String.toList_injective hthreads, String.toList_injective hns,
    String.toList_injective hids]

/-- Another checkpoint of the same key. -/
theorem exists_other_checkpoint {c : LanggraphCheckpointRef} (hthread : c.threadId ≠ "")
    (hid : c.checkpointId ≠ "") (h : ¬ SeparatorOutside c) :
    ∃ d : LanggraphCheckpointRef, d.threadId ≠ "" ∧ d.checkpointId ≠ "" ∧ c ≠ d ∧
      c.key = d.key := by
  obtain ⟨t, n, i, ht, hi, hother, hsame⟩ :=
    exists_other_cut (toList_ne_nil hthread) (toList_ne_nil hid) h
  refine ⟨⟨String.ofList t, String.ofList n, String.ofList i⟩, by simpa using ht,
    by simpa using hi, ?_, ?_⟩
  · rintro rfl
    exact hother (by simp)
  · apply String.toList_injective
    rw [key_toList, key_toList, hsame]
    simp

/-! ## An observation of any checkpoint -/

def checkpointedJson (c : LanggraphCheckpointRef) : Json :=
  .obj [("schemaVersion", .num (.int 3)), ("workflowId", .str "w"),
    ("runEventId", .str "a"), ("type", .str "tool_observed"), ("seq", .num (.int 0)),
    ("toolId", .str "t"), ("params", .obj []),
    ("langgraphCheckpoint", .obj [("threadId", .str c.threadId),
      ("checkpointNs", .str c.checkpointNs), ("checkpointId", .str c.checkpointId)])]

theorem text_valid_of_ne {s : String} (h : s ≠ "") :
    (Schema.text 1 none).valid (.str s) = true := by
  have hlength : 1 ≤ s.length := by
    rw [Nat.one_le_iff_ne_zero]
    exact fun hzero => h (by simpa using hzero)
  simpa [Schema.text, Schema.valid] using hlength

theorem checkpointedJson_valid {c : LanggraphCheckpointRef} (hthread : c.threadId ≠ "")
    (hid : c.checkpointId ≠ "") : validateEvent (checkpointedJson c) = true := by
  have hcheckpoint : langgraphCheckpointSchema.valid (.obj [("threadId", .str c.threadId),
      ("checkpointNs", .str c.checkpointNs), ("checkpointId", .str c.checkpointId)]) =
      true := by
    apply Schema.valid_of_members (by simp) (by simp)
    simp only [List.forall_mem_cons]
    refine ⟨⟨.text 1 none, by simp, text_valid_of_ne hthread⟩,
      ⟨.text 0 none, by simp, by simp [Schema.text, Schema.valid]⟩,
      ⟨.text 1 none, by simp, text_valid_of_ne hid⟩, nofun⟩
  apply validateEvent_of_valid (by simp [eventSchemas] : toolObservedV3Schema ∈ eventSchemas)
  apply Schema.valid_of_members
  · simp [wireRequired]
  · simp [wireProperties, observationProperties]
  · simp only [List.forall_mem_cons]
    refine ⟨⟨.number 3, by simp [wireProperties], by decide⟩,
      ⟨.text 1 none, by simp [wireProperties], by decide⟩,
      ⟨.text 1 none, by simp [wireProperties], by decide⟩,
      ⟨.oneOf ["tool_observed"], by simp [wireProperties], by decide⟩,
      ⟨.integer 0, by simp [observationProperties], by decide⟩,
      ⟨.text 1 none, by simp [observationProperties], by decide⟩,
      ⟨anyObject, by simp [observationProperties], by decide⟩,
      ⟨langgraphCheckpointSchema, by simp, hcheckpoint⟩, nofun⟩

/-- Every checkpoint that the schema accepts is that of an observation. -/
theorem exists_observation {c : LanggraphCheckpointRef} (hthread : c.threadId ≠ "")
    (hid : c.checkpointId ≠ "") :
    ∃ ev : RunEvent, ev.isToolObserved = true ∧ ev.hasVersion 3 = true ∧
      ev.langgraphCheckpoint = c :=
  ⟨⟨checkpointedJson c, checkpointedJson_valid hthread hid⟩, rfl, rfl, rfl⟩

/-! ## The verdicts -/

/-- Rows that are one for each key, with the steps of that key. -/
structure VerdictsExact (result : WorkflowEngineResult)
    (verdicts : List OutcomeCertificateCheckpointVerdict) : Prop where
  once : (verdicts.map (·.checkpointKey)).Nodup
  keys : ∀ key, (∃ v ∈ verdicts, v.checkpointKey = key) ↔
    ∃ s ∈ result.steps, s.langgraphCheckpointKey = some key
  seqs : ∀ v ∈ verdicts, ∀ seq, seq ∈ v.seqs ↔
    ∃ s ∈ result.steps, s.langgraphCheckpointKey = some v.checkpointKey ∧ s.seq = seq
  sorted : ∀ v ∈ verdicts, v.seqs.Pairwise (· < ·)
  verified : ∀ v ∈ verdicts, v.verdict = .verified ↔
    ∀ s ∈ result.steps, s.langgraphCheckpointKey = some v.checkpointKey →
      s.status = .verified
  ordered : verdicts.Pairwise fun a b =>
    ∀ m ∈ a.seqs.head?, ∀ n ∈ b.seqs.head?, m ≤ n

theorem rollup_verified {outcomes : List StepOutcome} :
    rollupCheckpointGroupVerdict outcomes = .verified ↔
      ∀ s ∈ outcomes, s.status = .verified := by
  rw [rollupCheckpointGroupVerdict]
  constructor
  · intro h
    split_ifs at h with hincomplete hbad hall
    simpa using hall
  · intro hall
    have hincomplete : (outcomes.any (·.status = .incompleteVerification)) = false := by
      rw [List.any_eq_false]
      intro s hs
      simp [hall s hs]
    have hbad : outcomes.any isBadRealWorld = false := by
      rw [List.any_eq_false]
      intro s hs
      simp [isBadRealWorld, hall s hs]
    have hverified : (outcomes.all (·.status = .verified)) = true := by
      simpa using hall
    rw [hincomplete, hbad, hverified]
    rfl

theorem minSeq_spec (g : Group String (String × StepOutcome)) :
    minSeq g ∈ (g.items.map Prod.snd).map StepOutcome.seq ∧
      ∀ seq ∈ (g.items.map Prod.snd).map StepOutcome.seq, minSeq g ≤ seq := by
  have hfold : ∀ before : List (String × StepOutcome), ∀ last : String × StepOutcome,
      before.foldr (fun s m => min s.2.seq m) last.2.seq ∈
          (before ++ [last]).map (·.2.seq) ∧
        ∀ seq ∈ (before ++ [last]).map (·.2.seq),
          before.foldr (fun s m => min s.2.seq m) last.2.seq ≤ seq := by
    intro before last
    induction before with
    | nil => simp
    | cons s before ih =>
        rw [List.foldr_cons, List.cons_append, List.map_cons]
        obtain ⟨hmem, hleast⟩ := ih
        constructor
        · rcases min_choice s.2.seq (before.foldr (fun s m => min s.2.seq m) last.2.seq)
            with hmin | hmin
          · rw [hmin]
            exact List.mem_cons_self
          · rw [hmin]
            exact List.mem_cons_of_mem _ hmem
        · intro seq hseq
          rcases List.mem_cons.mp hseq with rfl | hrest
          · exact min_le_left _ _
          · exact (min_le_right _ _).trans (hleast seq hrest)
  rw [List.map_map]
  exact hfold g.before g.last

/-- The row of a group. -/
theorem checkpointVerdictOf_seqs (g : Group String (String × StepOutcome)) :
    (∀ seq, seq ∈ (checkpointVerdictOf g).seqs ↔
        seq ∈ (g.items.map Prod.snd).map StepOutcome.seq) ∧
      (checkpointVerdictOf g).seqs.Pairwise (· < ·) ∧
      (checkpointVerdictOf g).seqs.head? = some (minSeq g) := by
  have hmem : ∀ seq, seq ∈ (checkpointVerdictOf g).seqs ↔
      seq ∈ (g.items.map Prod.snd).map StepOutcome.seq := by
    intro seq
    rw [checkpointVerdictOf, List.mem_insertionSort, List.mem_dedup]
  have hsorted : (checkpointVerdictOf g).seqs.Pairwise (· < ·) := by
    have hle : (checkpointVerdictOf g).seqs.Pairwise (· ≤ ·) :=
      List.pairwise_insertionSort _ _
    have hnodup : (checkpointVerdictOf g).seqs.Nodup :=
      (List.perm_insertionSort _ _).nodup_iff.mpr (List.nodup_dedup _)
    exact hle.imp₂ (fun _ _ hab hne => lt_of_le_of_ne hab hne) hnodup
  refine ⟨hmem, hsorted, ?_⟩
  obtain ⟨hmin, hleast⟩ := minSeq_spec g
  have hin := (hmem _).mpr hmin
  cases hseqs : (checkpointVerdictOf g).seqs with
  | nil =>
      rw [hseqs] at hin
      cases hin
  | cons first rest =>
      rw [hseqs] at hin hsorted
      have hfirst := hleast first ((hmem first).mp (by rw [hseqs]; exact List.mem_cons_self))
      rcases List.mem_cons.mp hin with heq | hrest
      · rw [List.head?_cons, heq]
      · have hlt := (List.pairwise_cons.mp hsorted).1 _ hrest
        omega

theorem verdicts_exact (localeLe : String → String → Bool) (result : WorkflowEngineResult) :
    VerdictsExact result (computeCheckpointVerdictsFromWorkflowResult localeLe result) := by
  -- what a row is, from its group
  have hrow : ∀ v ∈ computeCheckpointVerdictsFromWorkflowResult localeLe result,
      ∃ g : Group String (String × StepOutcome), checkpointVerdictOf g = v ∧
        ∀ s, s ∈ g.items.map Prod.snd ↔
          s ∈ result.steps ∧ s.langgraphCheckpointKey = some v.checkpointKey := by
    intro v hv
    obtain ⟨g, hg, rfl⟩ := List.mem_map.mp hv
    have hitems := mem_groupBy.mp ((List.mem_insertionSort _).mp hg)
    refine ⟨g, rfl, fun s => ?_⟩
    rw [hitems, List.mem_map]
    constructor
    · rintro ⟨⟨key, s⟩, hmem, rfl⟩
      obtain ⟨hkeyed, hkey⟩ := List.mem_filter.mp hmem
      obtain ⟨hs, hcheckpoint⟩ := mem_keyedSteps.mp hkeyed
      exact ⟨hs, hcheckpoint.trans (congrArg some (of_decide_eq_true hkey))⟩
    · rintro ⟨hs, hkey⟩
      exact ⟨(g.key, s), List.mem_filter.mpr ⟨mem_keyedSteps.mpr ⟨hs, hkey⟩, by simp⟩, rfl⟩
  refine ⟨?_, fun key => checkpointVerdict_iff, ?_, ?_, ?_, ?_⟩
  · have hgroups : ((groupBy Prod.fst (keyedSteps result.steps)).map Group.key).Nodup :=
      nodup_groupBy _
    rw [computeCheckpointVerdictsFromWorkflowResult, List.map_map]
    exact ((List.perm_insertionSort _ _).map Group.key).nodup_iff.mpr hgroups
  · intro v hv seq
    obtain ⟨g, rfl, hsteps⟩ := hrow v hv
    rw [(checkpointVerdictOf_seqs g).1, List.mem_map]
    simp only [hsteps, and_assoc]
  · intro v hv
    obtain ⟨g, rfl, -⟩ := hrow v hv
    exact (checkpointVerdictOf_seqs g).2.1
  · intro v hv
    obtain ⟨g, rfl, hsteps⟩ := hrow v hv
    have hverdict : (checkpointVerdictOf g).verdict =
        rollupCheckpointGroupVerdict (g.items.map Prod.snd) := rfl
    rw [hverdict, rollup_verified]
    simp only [hsteps, and_imp]
  · rw [computeCheckpointVerdictsFromWorkflowResult, List.pairwise_map]
    have hminima := @pairwise_insertionSort_key _ _ _ (fun a b => minSeq a < minSeq b ∨
        minSeq a = minSeq b ∧ localeLe a.key b.key = true) _ minSeq
      (fun a b h => h.elim le_of_lt fun h => h.1.le)
      (fun a b h => not_lt.mp fun hlt => h (.inl hlt))
      (groupBy Prod.fst (keyedSteps result.steps))
    apply hminima.imp
    intro a b hle m hm n hn
    rw [(checkpointVerdictOf_seqs a).2.2] at hm
    rw [(checkpointVerdictOf_seqs b).2.2] at hn
    obtain rfl := Option.some.inj hm
    obtain rfl := Option.some.inj hn
    exact hle

/-! ## Keys and checkpoints -/

theorem key_of_version3 {ev : RunEvent} (h : ev.hasVersion 3 = true) :
    langgraphCheckpointKeyFromToolObserved ev.observation =
      some ev.langgraphCheckpoint.key := by
  rw [langgraphCheckpointKeyFromToolObserved, RunEvent.observation, RunEvent.wire, if_pos h]

/-- No event of another checkpoint has the key of this one. -/
def KeyIdentifies (ev : RunEvent) : Prop :=
  ∀ other : RunEvent, other.hasVersion 3 = true →
    langgraphCheckpointKeyFromToolObserved ev.observation =
        langgraphCheckpointKeyFromToolObserved other.observation →
      ev.langgraphCheckpoint = other.langgraphCheckpoint

/-- No row is that of this checkpoint and of another. -/
def NeverMerged (localeLe : String → String → Bool) (ev : RunEvent) : Prop :=
  ∀ other : RunEvent, other.hasVersion 3 = true →
    ∀ result, ∀ v ∈ computeCheckpointVerdictsFromWorkflowResult localeLe result,
      langgraphCheckpointKeyFromToolObserved ev.observation = some v.checkpointKey →
        langgraphCheckpointKeyFromToolObserved other.observation = some v.checkpointKey →
          ev.langgraphCheckpoint = other.langgraphCheckpoint

/-- A key belongs to one checkpoint exactly when U+001F stands in its texts only at the
outer ends; the rows are exact for every result. -/
theorem checkpointKeys_exact (localeLe : String → String → Bool) (ev : RunEvent)
    (hversion : ev.hasVersion 3 = true) :
    (KeyIdentifies ev ∧ NeverMerged localeLe ev ↔
        SeparatorOutside ev.langgraphCheckpoint) ∧
      ∀ result, VerdictsExact result
        (computeCheckpointVerdictsFromWorkflowResult localeLe result) := by
  refine ⟨⟨?_, fun hplain => ?_⟩, verdicts_exact localeLe⟩
  · rintro ⟨hidentifies, -⟩
    by_contra hmixed
    obtain ⟨hthread, hid⟩ := RunEvent.checkpoint_nonempty hversion
    obtain ⟨d, hdthread, hdid, hne, hkey⟩ := exists_other_checkpoint hthread hid hmixed
    obtain ⟨other, -, hother, rfl⟩ := exists_observation hdthread hdid
    apply hne
    apply hidentifies other hother
    rw [key_of_version3 hversion, key_of_version3 hother, hkey]
  · have hidentifies : KeyIdentifies ev := by
      intro other hother hkey
      rw [key_of_version3 hversion, key_of_version3 hother, Option.some.injEq] at hkey
      obtain ⟨hthread, hid⟩ := RunEvent.checkpoint_nonempty hother
      exact eq_of_key_eq hplain hthread hid hkey
    exact ⟨hidentifies, fun other hother _ _ _ hkey hotherKey =>
      hidentifies other hother (hkey.trans hotherKey.symm)⟩

/-- An observation of one thread, and its key. -/
theorem checkpointKeys_plain :
    (KeyIdentifies ⟨checkpointedJson ⟨"thread", "", "checkpoint"⟩,
          checkpointedJson_valid (by decide) (by decide)⟩ ∧
        NeverMerged utf16Le ⟨checkpointedJson ⟨"thread", "", "checkpoint"⟩,
          checkpointedJson_valid (by decide) (by decide)⟩ ↔
        SeparatorOutside ⟨"thread", "", "checkpoint"⟩) ∧
      ∀ result, VerdictsExact result
        (computeCheckpointVerdictsFromWorkflowResult utf16Le result) :=
  checkpointKeys_exact utf16Le ⟨checkpointedJson ⟨"thread", "", "checkpoint"⟩,
    checkpointedJson_valid (by decide) (by decide)⟩ (by decide)

/-! ## Two checkpoints of one key -/

def firstNested : RunEvent :=
  ⟨checkpointedJson ⟨"a\x1fb", "c", "d"⟩, checkpointedJson_valid (by decide) (by decide)⟩

def secondNested : RunEvent :=
  ⟨checkpointedJson ⟨"a", "b\x1fc", "d"⟩, checkpointedJson_valid (by decide) (by decide)⟩

/-- The step of an event, with a status. -/
def nestedStep (ev : RunEvent) (seq : ℕ) (status : StepStatus) : StepOutcome where
  seq
  toolId := "t"
  releaseCritical := false
  intendedEffect := ""
  observedExecution := ""
  verificationRequest := none
  status
  reasons := []
  evidenceSummary := []
  repeatObservationCount := 1
  evaluatedObservationOrdinal := 1
  failureDiagnostic := if status = .verified then none else some .workflowExecution
  langgraphCheckpointKey := langgraphCheckpointKeyFromToolObserved ev.observation

def nestedResult : WorkflowEngineResult where
  workflowId := "w"
  status := .inconsistent
  runLevelReasons := []
  steps := [nestedStep firstNested 0 .verified, nestedStep secondNested 1 .missing]

/-- Two threads have one key, and one row for both of their steps. -/
theorem nested_checkpoints_merge :
    firstNested.hasVersion 3 = true ∧ secondNested.hasVersion 3 = true ∧
      langgraphCheckpointKeyFromToolObserved firstNested.observation =
        langgraphCheckpointKeyFromToolObserved secondNested.observation ∧
      firstNested.langgraphCheckpoint.threadId ≠
        secondNested.langgraphCheckpoint.threadId ∧
      (computeCheckpointVerdictsFromWorkflowResult utf16Le nestedResult).map
        (·.seqs) = [[0, 1]] := by
  decide +kernel

end AgentSkeptic.Events
