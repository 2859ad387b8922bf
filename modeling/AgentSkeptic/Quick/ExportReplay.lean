import AgentSkeptic.Quick.CanonicalKeys
import AgentSkeptic.Quick.ExportResolution
import Mathlib.Data.Option.Basic

/-!
# Replaying a quick run

Every exported tool of a run has one line of the event text, and the lines are read back
in the order of the tools (`readEvents_contracts`).  The line of an export by pointers
resolves to the request that was checked; the line of an export by constants does so
exactly when the names in the request are identifiers, which the run does not check
(`exportReplays_iff`).
-/

namespace AgentSkeptic.Quick

open AgentSkeptic.Support AgentSkeptic.Engine

/-! ## Fresh ids -/

theorem candidate_injective (base : String) {m n : ℕ}
    (h : base ++ ":" ++ toString (m + 1) = base ++ ":" ++ toString (n + 1)) : m = n := by
  have hlist := congrArg String.toList h
  simp only [String.toList_append] at hlist
  have hdigits := List.append_cancel_left hlist
  rw [Nat.toString_eq_ofList_toDigits, Nat.toString_eq_ofList_toDigits,
    String.toList_ofList, String.toList_ofList] at hdigits
  have hvalue := congrArg JsNumber.digitsValue hdigits
  have hsucc : m + 1 = n + 1 := by
    rw [← JsNumber.digitsValue_decimalDigits (m + 1),
      ← JsNumber.digitsValue_decimalDigits (n + 1)]
    exact hvalue
  omega

/-- There is always an id left. -/
theorem freshToolId_not_mem (base : String) (used : List String) :
    freshToolId base used ∉ used := by
  unfold freshToolId
  dsimp only
  generalize hcandidates : base :: ((List.range used.length).map fun n =>
    base ++ ":" ++ toString (n + 1)) = candidates
  have hnodup : candidates.Nodup := by
    rw [← hcandidates, List.nodup_cons]
    constructor
    · intro hmem
      obtain ⟨n, -, hn⟩ := List.mem_map.mp hmem
      have hlength := congrArg String.length hn
      rw [String.length_append, String.length_append] at hlength
      have hcolon : ":".length = 1 := rfl
      omega
    · apply List.Nodup.map_on _ List.nodup_range
      intro m _ n _ h
      exact candidate_injective base h
  have hlength : candidates.length = used.length + 1 := by
    rw [← hcandidates, List.length_cons, List.length_map, List.length_range]
  cases hfind : candidates.find? (· ∉ used) with
  | some id =>
      have hid := List.find?_some hfind
      rw [Option.getD_some]
      simpa using hid
  | none =>
      exfalso
      have hall : candidates ⊆ used := by
        intro id hid
        have hused := List.find?_eq_none.mp hfind id hid
        simpa using hused
      have hle := (hnodup.subperm hall).length_le
      omega

/-! ## The exports of a run -/

/-- A tool and its contract. -/
abbrev Export := ToolRegistryEntry × QuickContractExport

def Export.HasId (e : Export) (id : String) : Prop := e.1.toolId = id ∧ e.2.toolId = id

section Run

variable (tables : TextTables) (catalog : SchemaCatalog) (dialect : SqlRowDialect)
  (db : ℕ → SqlConnection)

/-- What a run may export of a check. -/
inductive ExportOf (p : PlannedCheck) (e : Export) : Prop where
  | row (bucket : ActionBucket) (req : VerificationRequest) (verdict : UnitVerdict)
      (tid : String) (subject : p.subject = .row bucket)
      (plan : (planRowUnit tables catalog bucket catalog.listTables).request = some req)
      (exported : rowExport catalog p.action bucket
        (planRowUnit tables catalog bucket catalog.listTables) req verdict tid = some e)
  | relational (check : RelatedExistsCheck) (verdict : UnitVerdict) (used : List String)
      (exported : relationalExport check verdict used = some e)

/-- The request that a constant export of a check stands for, if it has one. -/
def constRequest? (p : PlannedCheck) : Option VerificationRequest :=
  match p.subject with
  | .row bucket =>
      let plan := planRowUnit tables catalog bucket catalog.listTables
      if tExport ≤ plan.confidence then plan.request.map (exportRowRequest catalog bucket)
      else none
  | .relational _ => none

/-- The tool and the contract of a constant export. -/
def constExport (p : PlannedCheck) (req : VerificationRequest) (tid : String) : Export :=
  (exportSqlRowTool tid req, .sqlRow tid req (some (buildSyntheticRowParams p.action.params
    (sortedRecord req.requiredFields))))

/-- What a pass exports of its check. -/
structure PassExports (st : RunState) (p : PlannedCheck) (st' : RunState)
    (exported : Option Export) : Prop where
  tools : st'.exportTools = st.exportTools ++ (exported.map Prod.fst).toList
  contracts : st'.contractExports = st.contractExports ++ (exported.map Prod.snd).toList
  sound : ∀ e, exported = some e → ExportOf tables catalog p e ∧
    ∃ tid, e.HasId tid ∧ tid ∉ usedToolIds st
  complete : ∀ req, constRequest? tables catalog p = some req →
    ∃ tid, exported = some (constExport p req tid)

theorem rowExport_hasId {action : UniqueAction} {bucket : ActionBucket}
    {plan : RowUnitPlan} {req : VerificationRequest} {verdict : UnitVerdict} {tid : String}
    {e : Export} (h : rowExport catalog action bucket plan req verdict tid = some e) :
    e.HasId tid := by
  unfold rowExport at h
  dsimp only at h
  split_ifs at h
  · cases h
    exact ⟨rfl, rfl⟩
  · obtain ⟨found, -, rfl⟩ := Option.map_eq_some_iff.mp h
    exact ⟨rfl, rfl⟩

theorem relationalExport_hasId {check : RelatedExistsCheck} {verdict : UnitVerdict}
    {used : List String} {e : Export} (h : relationalExport check verdict used = some e) :
    ∃ tid, e.HasId tid ∧ tid ∉ used := by
  unfold relationalExport at h
  dsimp only at h
  split_ifs at h
  cases h
  exact ⟨_, ⟨rfl, rfl⟩, freshToolId_not_mem _ _⟩

/-- The exports of a pass end up in the state that its unit is pushed to. -/
theorem pushUnit_exports (exported : Option Export) (u : QuickUnit) (st : RunState) :
    (pushUnit u (exported.elim st fun e => pushExport e.1 e.2 st)).exportTools =
        st.exportTools ++ (exported.map Prod.fst).toList ∧
      (pushUnit u (exported.elim st fun e => pushExport e.1 e.2 st)).contractExports =
        st.contractExports ++ (exported.map Prod.snd).toList := by
  have hpush : ∀ st' : RunState, (pushUnit u st').exportTools = st'.exportTools ∧
      (pushUnit u st').contractExports = st'.contractExports := by
    intro st'
    unfold pushUnit
    split_ifs
    · exact ⟨rfl, rfl⟩
    · exact ⟨rfl, rfl⟩
    · exact ⟨rfl, rfl⟩
  obtain ⟨htools, hcontracts⟩ := hpush (exported.elim st fun e => pushExport e.1 e.2 st)
  rw [htools, hcontracts]
  cases exported with
  | none => simp
  | some e => exact ⟨rfl, rfl⟩

theorem bucketStep_exports (st : RunState) (action : UniqueAction)
    (sourceAction : SourceAction) (bucket : ActionBucket)
    (h : st.units.length < maxUnits) :
    ∃ exported, PassExports tables catalog st ⟨action, sourceAction, .row bucket⟩
      (bucketStep tables catalog dialect db action sourceAction st bucket) exported := by
  unfold bucketStep
  rw [if_neg (Nat.not_le.mpr h)]
  dsimp only
  split
  · rename_i hrequest
    refine ⟨none, ?_, ?_, ?_, ?_⟩
    · exact (pushUnit_exports none _ st).1
    · exact (pushUnit_exports none _ st).2
    · intro e he
      cases he
    · intro req hreq
      simp [constRequest?, hrequest] at hreq
  · rename_i req hrequest
    refine ⟨_, (pushUnit_exports _ _ st).1, (pushUnit_exports _ _ st).2, ?_, ?_⟩
    · intro e he
      exact ⟨.row bucket req _ _ rfl hrequest he, _, rowExport_hasId catalog he,
        freshToolId_not_mem _ _⟩
    · intro req' hreq'
      simp only [constRequest?, hrequest, Option.map_some] at hreq'
      split_ifs at hreq' with hconf
      cases hreq'
      exact ⟨_, if_pos hconf⟩

theorem relationalCheckStep_exports (st : RunState) (action : UniqueAction)
    (sourceAction : SourceAction) (check : RelatedExistsCheck)
    (h : st.units.length < maxUnits) (hnew : relationalKey check ∉ st.relationalSeen) :
    ∃ exported, PassExports tables catalog st ⟨action, sourceAction, .relational check⟩
      (relationalCheckStep tables dialect db sourceAction st check) exported := by
  unfold relationalCheckStep
  rw [if_neg (Nat.not_le.mpr h), if_neg hnew]
  dsimp only
  refine ⟨_, (pushUnit_exports _ _ _).1, (pushUnit_exports _ _ _).2, ?_, ?_⟩
  · intro e he
    exact ⟨.relational check _ _ he, relationalExport_hasId he⟩
  · intro req hreq
    cases hreq

theorem checkStep_exports (st : RunState) (p : PlannedCheck)
    (h : st.units.length < maxUnits) (hseen : p.key.any (· ∈ st.relationalSeen) = false) :
    ∃ exported, PassExports tables catalog st p
      (checkStep tables catalog dialect db st p) exported := by
  obtain ⟨action, sourceAction, subject⟩ := p
  cases subject with
  | row bucket => exact bucketStep_exports tables catalog dialect db st action _ bucket h
  | relational check =>
      have hnew : relationalKey check ∉ st.relationalSeen := of_decide_eq_false hseen
      exact relationalCheckStep_exports tables catalog dialect db st action _ check h hnew

/-- The exports of a run that has given the checks a unit. -/
structure ExportLog (given : List PlannedCheck) (st : RunState) (exports : List Export) :
    Prop where
  tools : st.exportTools = exports.map Prod.fst
  contracts : st.contractExports = exports.map Prod.snd
  ids : ∀ e ∈ exports, e.HasId e.1.toolId
  distinct : (exports.map fun e => e.1.toolId).Nodup
  length : exports.length ≤ given.length
  sound : ∀ e ∈ exports, ∃ p ∈ given, ExportOf tables catalog p e
  complete : ∀ p ∈ given, ∀ req, constRequest? tables catalog p = some req →
    ∃ tid, constExport p req tid ∈ exports

theorem ExportLog.step {given : List PlannedCheck} {st st' : RunState}
    {exports : List Export} (h : ExportLog tables catalog given st exports)
    {p : PlannedCheck} {exported : Option Export}
    (hpass : PassExports tables catalog st p st' exported) :
    ExportLog tables catalog (given ++ [p]) st' (exports ++ exported.toList) where
  tools := by
    rw [hpass.tools, h.tools, List.map_append, Option.toList_map]
  contracts := by
    rw [hpass.contracts, h.contracts, List.map_append, Option.toList_map]
  ids := by
    intro e he
    rcases List.mem_append.mp he with hold | hnew
    · exact h.ids e hold
    · obtain ⟨-, tid, hid, -⟩ := hpass.sound e (Option.mem_toList.mp hnew)
      rw [hid.1]
      exact hid
  distinct := by
    rw [List.map_append, List.nodup_append]
    refine ⟨h.distinct, ?_, ?_⟩
    · cases exported with
      | none => exact List.nodup_nil
      | some e => exact List.nodup_singleton _
    · intro id hid id' hid' heq
      obtain ⟨e, he, rfl⟩ := List.mem_map.mp hid'
      obtain ⟨-, tid, hhas, hfresh⟩ := hpass.sound e (Option.mem_toList.mp he)
      apply hfresh
      rw [usedToolIds, h.tools, List.map_map, ← hhas.1, ← heq]
      exact hid
  length := by
    have hle : exported.toList.length ≤ 1 := by cases exported <;> simp
    have hlength := h.length
    rw [List.length_append, List.length_append, List.length_singleton]
    omega
  sound := by
    intro e he
    rcases List.mem_append.mp he with hold | hnew
    · obtain ⟨q, hq, hof⟩ := h.sound e hold
      exact ⟨q, List.mem_append_left _ hq, hof⟩
    · exact ⟨p, by simp, (hpass.sound e (Option.mem_toList.mp hnew)).1⟩
  complete := by
    intro q hq req hreq
    rcases List.mem_append.mp hq with hold | hnew
    · obtain ⟨tid, hmem⟩ := h.complete q hold req hreq
      exact ⟨tid, List.mem_append_left _ hmem⟩
    · obtain rfl := List.mem_singleton.mp hnew
      obtain ⟨tid, hexported⟩ := hpass.complete req hreq
      exact ⟨tid, List.mem_append_right _ (Option.mem_toList.mpr hexported)⟩

theorem exportLog_run (unique : List UniqueAction) :
    ∃ exports, ExportLog tables catalog (givenChecks (plannedChecks tables catalog unique))
      (runActions tables catalog dialect db unique) exports := by
  rw [runActions_eq]
  apply @CappedLoop.run_invariant _ _ _ _ _ (unitLoop tables catalog dialect db)
    (fun given st => ∃ exports, ExportLog tables catalog given st exports)
  · rintro given st p ⟨exports, hlog⟩ hroom hseen
    have hroom' : st.units.length < maxUnits := by
      have hkept : ((unitLoop tables catalog dialect db).kept st).length =
          st.units.length := List.length_map _
      rw [← hkept]
      exact hroom
    obtain ⟨exported, hpass⟩ :=
      checkStep_exports tables catalog dialect db st p hroom' hseen
    exact ⟨_, hlog.step tables catalog hpass⟩
  · rfl
  · rfl
  · exact ⟨[], rfl, rfl, by simp, List.nodup_nil, Nat.le_refl _, by simp, by simp⟩

end Run

/-! ## Reading the lines -/

/-- What a replay reads of a line. -/
structure ReplayEvent where
  seq : JsNumber
  toolId : String
  params : Json

def replayEvent? (line : List Char) : Option ReplayEvent :=
  match parseJson line with
  | some (.obj members) =>
      match ownMember members "seq", ownMember members "toolId",
        ownMember members "params" with
      | some (.num seq), some (.str toolId), some params => some ⟨seq, toolId, params⟩
      | _, _, _ => none
  | _ => none

/-- The events of a text, when every line that is not empty is one. -/
def readEvents (text : String) : Option (List ReplayEvent) :=
  ((text.toList.splitOn '\n').filter (· ≠ [])).mapM replayEvent?

/-- The parameters of an export can be written. -/
def ExactContract : QuickContractExport → Prop
  | .relatedExists _ => True
  | .sqlRow _ _ (some params) => (Json.obj params).Exact
  | .sqlRow _ _ none => False

/-- The parameters that its line carries. -/
def lineParams : QuickContractExport → Json
  | .relatedExists _ => .obj []
  | .sqlRow _ _ (some params) => recoded (.obj params)
  | .sqlRow _ request none =>
      .obj [("__qvFields", (sortedRecord request.requiredFields).json)]

theorem eventParams_eq {c : QuickContractExport} (h : ExactContract c) :
    eventParams c = some (lineParams c) ∧ (lineParams c).WellFormed := by
  cases c with
  | relatedExists toolId =>
      refine ⟨rfl, List.nodup_nil, ?_, trivial⟩
      exact (propertyOrder_perm []).eq_nil
  | sqlRow toolId request synthetic =>
      cases synthetic with
      | none => exact absurd h id
      | some params =>
          have hdecoded := Json.Exact.decoded h
          refine ⟨?_, wellFormed_recoded hdecoded⟩
          rw [eventParams, stableStringify_eq, parseJson_canonicalJsonForParams hdecoded]
          rfl

def eventJson (workflowId : String) (item : QuickContractExport × ℕ) : Json :=
  .obj [("schemaVersion", .num (.int 1)), ("workflowId", .str workflowId),
    ("seq", .num (.int item.2)), ("type", .str "tool_observed"),
    ("toolId", .str item.1.toolId), ("params", lineParams item.1)]

theorem readable_seq {n : ℕ} (h : n < maxUnits) : (JsNumber.int n).Readable := by
  have hall : ∀ n : Fin maxUnits, JsNumber.parse? (JsNumber.int (n : ℕ)).stringify.toList =
      some (.int (n : ℕ)) := by
    decide +kernel
  exact hall ⟨n, h⟩

theorem eventJson_wellFormed (workflowId : String) {item : QuickContractExport × ℕ}
    (h : ExactContract item.1) (hseq : item.2 < maxUnits) :
    (eventJson workflowId item).WellFormed := by
  have hone : (JsNumber.int 1).Readable := readable_seq (n := 1) (by decide)
  apply wellFormed_obj
    ["schemaVersion", "workflowId", "seq", "type", "toolId", "params"] rfl (by decide)
  simp only [List.forall_mem_cons, List.not_mem_nil, false_implies, implies_true, and_true]
  exact ⟨hone, trivial, readable_seq hseq, trivial, trivial, (eventParams_eq h).2⟩

/-- A line is one line, and it is read back. -/
structure GoodLine (item : QuickContractExport × ℕ) (line : String) : Prop where
  oneLine : '\n' ∉ line.toList
  nonempty : line.toList ≠ []
  read : replayEvent? line.toList =
    some ⟨.int item.2, item.1.toolId, lineParams item.1⟩

theorem eventLine_good (workflowId : String) {item : QuickContractExport × ℕ}
    (h : ExactContract item.1) (hseq : item.2 < maxUnits) :
    ∃ line, eventLine workflowId item = some line ∧ GoodLine item line := by
  have hwell := eventJson_wellFormed workflowId h hseq
  refine ⟨(eventJson workflowId item).stringify, ?_, ?_, ?_, ?_⟩
  · rw [eventLine, (eventParams_eq h).1]
    rfl
  · rw [← render_nil_gap 0]
    exact lineBreak_not_mem_compact hwell 0
  · rw [eventJson, Json.stringify]
    simp
  · have hparse := @parseJson_stringify _ hwell [] (by simp)
    rw [List.append_nil] at hparse
    rw [replayEvent?, hparse]
    rfl

theorem eventLines_good (workflowId : String) {contracts : List QuickContractExport}
    (h : ∀ c ∈ contracts, ExactContract c) {n : ℕ}
    (hlength : n + contracts.length ≤ maxUnits) :
    ∃ lines, (contracts.zipIdx n).mapM (eventLine workflowId) = some lines ∧
      List.Forall₂ GoodLine (contracts.zipIdx n) lines := by
  induction contracts generalizing n with
  | nil => exact ⟨[], rfl, .nil⟩
  | cons c contracts ih =>
      obtain ⟨hc, hcontracts⟩ := List.forall_mem_cons.mp h
      rw [List.length_cons] at hlength
      obtain ⟨line, hline, hgood⟩ :=
        @eventLine_good workflowId (c, n) hc (by dsimp only; omega)
      obtain ⟨lines, hlines, hall⟩ := ih hcontracts (n := n + 1) (by omega)
      refine ⟨line :: lines, ?_, .cons hgood hall⟩
      rw [List.zipIdx_cons, List.mapM_cons, hline, hlines]
      rfl

theorem mapM_goodLines {items : List (QuickContractExport × ℕ)} {lines : List String}
    (h : List.Forall₂ GoodLine items lines) :
    (lines.map String.toList).mapM replayEvent? =
      some (items.map fun item => ⟨.int item.2, item.1.toolId, lineParams item.1⟩) := by
  induction h with
  | nil => rfl
  | @cons item line items lines hline hrest ih =>
      rw [List.map_cons, List.mapM_cons, hline.read, ih]
      rfl

theorem each_goodLine {items : List (QuickContractExport × ℕ)} {lines : List String}
    (h : List.Forall₂ GoodLine items lines) :
    ∀ line ∈ lines, '\n' ∉ line.toList ∧ line.toList ≠ [] := by
  induction h with
  | nil => simp
  | cons hline _ ih => exact List.forall_mem_cons.mpr ⟨⟨hline.oneLine, hline.nonempty⟩, ih⟩

/-- The lines of a text. -/
theorem splitOn_lines {lines : List String} (hne : lines ≠ [])
    (hlines : ∀ line ∈ lines, '\n' ∉ line.toList) :
    ("\n".intercalate lines ++ "\n").toList.splitOn '\n' =
      lines.map String.toList ++ [[]] := by
  have hbreak : "\n".toList = ['\n'] := rfl
  rw [String.toList_append, String.toList_intercalate, hbreak,
    List.splitOn_append_cons_self, List.splitOn_intercalate]
  · rfl
  · intro line hline
    obtain ⟨text, htext, rfl⟩ := List.mem_map.mp hline
    exact hlines text htext
  · simpa using hne

/-- The text of the exports is read back as one event for each of them, numbered from
0. -/
theorem readEvents_contracts (workflowId : String) {contracts : List QuickContractExport}
    (h : ∀ c ∈ contracts, ExactContract c) (hlength : contracts.length ≤ maxUnits)
    (hsorted : sortExports contracts = contracts) :
    ∃ text, buildQuickContractEventsNdjson workflowId contracts = some text ∧
      readEvents text = some (contracts.zipIdx.map fun item =>
        ⟨.int item.2, item.1.toolId, lineParams item.1⟩) := by
  by_cases hne : contracts = []
  · subst hne
    exact ⟨"", rfl, rfl⟩
  · obtain ⟨lines, hlines, hgood⟩ := @eventLines_good workflowId contracts h 0 (by omega)
    refine ⟨"\n".intercalate lines ++ "\n", ?_, ?_⟩
    · rw [buildQuickContractEventsNdjson, if_neg hne, hsorted, hlines]
      rfl
    · have hcount : lines.length = contracts.length := by
        rw [← hgood.length_eq, List.length_zipIdx]
      have hnonempty : lines ≠ [] := by
        intro hnil
        rw [hnil, List.length_nil] at hcount
        exact hne (List.length_eq_zero_iff.mp hcount.symm)
      have heach := each_goodLine hgood
      have hfilter : ((lines.map String.toList ++ [[]]).filter (· ≠ [])) =
          lines.map String.toList := by
        rw [List.filter_append, List.filter_eq_self.mpr]
        · simp
        · intro line hline
          obtain ⟨text, htext, rfl⟩ := List.mem_map.mp hline
          simpa using (heach text htext).2
      rw [readEvents, splitOn_lines hnonempty fun line hline => (heach line hline).1,
        hfilter, mapM_goodLines hgood]

/-! ## Replaying a run -/

/-- The events are one for each exported tool, in the order of the tools' ids and numbered
from 0, and each row tool resolves against its event to the request that is stored for
it. -/
structure Replays (result : RunQuickVerifyResult) (events : List ReplayEvent) : Prop where
  ids : events.map ReplayEvent.toolId =
    result.report.tools.map ToolRegistryEntry.toolId
  ordered : (result.report.tools.map ToolRegistryEntry.toolId).Pairwise fun a b =>
    utf16Le a b = true ∧ a ≠ b
  seqs : events.map ReplayEvent.seq =
    (List.range result.report.tools.length).map fun n => .int n
  rows : ∀ tool ∈ result.report.tools, ∀ spec, tool.verification = .sqlRow spec →
    ∃ event ∈ events, ∃ request synthetic, event.toolId = tool.toolId ∧
      .sqlRow tool.toolId request synthetic ∈ result.contractExports ∧
        ReplaysTo tool event.params request

/-- The text of a run's exports can be read, and it replays. -/
def ExportReplays (workflowId : String) (result : RunQuickVerifyResult) : Prop :=
  ∃ text events, buildQuickContractEventsNdjson workflowId result.contractExports =
    some text ∧ readEvents text = some events ∧ Replays result events

section Replay

variable (tables : TextTables) (catalog : SchemaCatalog) (dialect : SqlRowDialect)
  (db : ℕ → SqlConnection)

theorem plannedChecks_decoded {unique : List UniqueAction}
    (h : ∀ a ∈ unique, a.Decoded) {p : PlannedCheck}
    (hp : p ∈ plannedChecks tables catalog unique) :
    p.action.Decoded ∧ ∀ bucket, p.subject = .row bucket →
      bucket.flat.All DecodedScalar := by
  obtain ⟨⟨action, i⟩, hitem, hcheck⟩ := List.mem_flatMap.mp hp
  have haction : action.Decoded := h action (List.fst_mem_of_mem_zipIdx hitem)
  rcases List.mem_append.mp hcheck with hrow | hrelational
  · obtain ⟨bucket, hbucket, rfl⟩ := List.mem_map.mp hrow
    refine ⟨haction, ?_⟩
    intro bucket' hsubject
    cases hsubject
    rw [mem_bucketsForAction hbucket]
    exact haction.flat
  · obtain ⟨check, -, rfl⟩ := List.mem_map.mp hrelational
    refine ⟨haction, ?_⟩
    intro bucket hsubject
    cases hsubject

/-- What an export of a run is: its line can be written, and when it is a row export it
replays or is one by constants. -/
theorem ExportOf.spec {p : PlannedCheck} {e : Export} (h : ExportOf tables catalog p e)
    (haction : p.action.Decoded)
    (hflat : ∀ bucket, p.subject = .row bucket → bucket.flat.All DecodedScalar) :
    ExactContract e.2 ∧ ∀ spec, e.1.verification = .sqlRow spec →
      ∃ request synthetic, e.2 = .sqlRow e.1.toolId request synthetic ∧
        (ReplaysTo e.1 (lineParams e.2) request ∨
          ∃ tid, constRequest? tables catalog p = some request ∧
            e = constExport p request tid) := by
  cases h with
  | row bucket req verdict tid hsubject hplan hexported =>
      have hfields := planRowUnit_fields tables catalog (hflat bucket hsubject) hplan
      unfold rowExport at hexported
      dsimp only at hexported
      split_ifs at hexported with hconst
      · cases hexported
        have hexportFields :=
          exportRowRequest_fields catalog (hflat bucket hsubject) hfields
        refine ⟨buildSyntheticRowParams_exact haction.params hexportFields, ?_⟩
        intro spec _
        refine ⟨_, _, rfl, .inr ⟨tid, ?_, rfl⟩⟩
        simp only [constRequest?, hsubject, hplan, if_pos hconst, Option.map_some]
      · obtain ⟨⟨synthetic, specs⟩, hpointer, rfl⟩ := Option.map_eq_some_iff.mp hexported
        unfold pointerExport at hpointer
        simp only [Option.bind_eq_bind, Option.bind_eq_some_iff, Option.guard_eq_some',
          Option.pure_def, Option.some.injEq, Prod.mk.injEq] at hpointer
        obtain ⟨bindings, -, found, -, -, -, -, hresolves, rfl, rfl⟩ := hpointer
        have hexact := buildSyntheticRowParams_exact haction.params hfields
        refine ⟨hexact, ?_⟩
        intro spec hspec
        exact ⟨_, _, rfl, .inl (replaysTo_of_resolvesTo hspec hexact hresolves)⟩
  | relational check verdict used hexported =>
      unfold relationalExport at hexported
      dsimp only at hexported
      split_ifs at hexported
      cases hexported
      refine ⟨trivial, ?_⟩
      intro spec hspec
      cases hspec

/-- The exports of a run, in the order of their ids. -/
structure RunExports (inputUtf8 : List Char) (result : RunQuickVerifyResult)
    (exports : List Export) : Prop where
  tools : result.report.tools = exports.map Prod.fst
  contracts : result.contractExports = exports.map Prod.snd
  ids : ∀ e ∈ exports, e.HasId e.1.toolId
  ordered : (exports.map fun e => e.1.toolId).Pairwise fun a b =>
    utf16Le a b = true ∧ a ≠ b
  length : exports.length ≤ maxUnits
  sound : ∀ e ∈ exports, ∃ p ∈ givenChecks (runChecks tables catalog inputUtf8),
    ExportOf tables catalog p e
  complete : ∀ p ∈ givenChecks (runChecks tables catalog inputUtf8), ∀ req,
    constRequest? tables catalog p = some req → ∃ tid, constExport p req tid ∈ exports

theorem exists_runExports (inputUtf8 : List Char) :
    ∃ exports, RunExports tables catalog inputUtf8
      (runQuickVerify tables catalog dialect db inputUtf8) exports := by
  unfold runQuickVerify
  dsimp only
  split_ifs with hlarge
  · have hnone : runChecks tables catalog inputUtf8 = [] := by
      have hactions : (ingestActivityUtf8 inputUtf8).actions = [] := by
        unfold ingestActivityUtf8 at hlarge ⊢
        dsimp only at hlarge ⊢
        split_ifs at hlarge ⊢
        · rfl
        · rw [ingestLadder_inputTooLarge] at hlarge
          cases hlarge
      rw [runChecks, hactions]
      rfl
    refine ⟨[], rfl, rfl, by simp, List.Pairwise.nil, Nat.zero_le _, by simp, ?_⟩
    rw [hnone]
    intro p hp
    cases hp
  · obtain ⟨exports, hlog⟩ := exportLog_run tables catalog dialect db
      (dedupeActions (ingestActivityUtf8 inputUtf8).actions).unique
    have hperm := sortBy_perm (fun e : Export => e.1.toolId) exports
    have hcount : (givenChecks (runChecks tables catalog inputUtf8)).length ≤ maxUnits :=
      List.length_take_le _ _
    refine ⟨sortBy (fun e : Export => e.1.toolId) exports, ?_, ?_, ?_, ?_, ?_, ?_, ?_⟩
    · dsimp only
      rw [hlog.tools]
      exact (map_sortBy _ Prod.fst fun e _ => rfl).symm
    · dsimp only
      rw [hlog.contracts]
      exact (map_sortBy _ Prod.snd fun e he => (hlog.ids e he).2).symm
    · intro e he
      exact hlog.ids e (hperm.mem_iff.mp he)
    · exact List.pairwise_map.mpr (pairwise_lt_sortBy hlog.distinct)
    · rw [hperm.length_eq]
      exact hlog.length.trans hcount
    · intro e he
      exact hlog.sound e (hperm.mem_iff.mp he)
    · intro p hp req hreq
      obtain ⟨tid, hmem⟩ := hlog.complete p hp req hreq
      exact ⟨tid, hperm.mem_iff.mpr hmem⟩

theorem constRequest?_fields {p : PlannedCheck}
    (hflat : ∀ bucket, p.subject = .row bucket → bucket.flat.All DecodedScalar)
    {req : VerificationRequest} (h : constRequest? tables catalog p = some req) :
    ExactFields req.requiredFields := by
  unfold constRequest? at h
  split at h
  · rename_i bucket hsubject
    dsimp only at h
    split_ifs at h
    obtain ⟨planned, hplanned, rfl⟩ := Option.map_eq_some_iff.mp h
    exact exportRowRequest_fields catalog (hflat bucket hsubject)
      (planRowUnit_fields tables catalog (hflat bucket hsubject) hplanned)
  · cases h

theorem givenChecks_decoded {inputUtf8 : List Char} {p : PlannedCheck}
    (hp : p ∈ givenChecks (runChecks tables catalog inputUtf8)) :
    p.action.Decoded ∧ ∀ bucket, p.subject = .row bucket →
      bucket.flat.All DecodedScalar := by
  have hplanned : p ∈ runChecks tables catalog inputUtf8 :=
    ((List.take_sublist _ _).trans (firsts_sublist _ [] _)).mem hp
  exact plannedChecks_decoded tables catalog
    (dedupeActions_decoded fun a ha => ingestActivityUtf8_decoded ha) hplanned

/-- The event of an export that stands at a place. -/
def exportEvent (item : Export × ℕ) : ReplayEvent :=
  ⟨.int item.2, item.1.2.toolId, lineParams item.1.2⟩

variable {tables catalog}

theorem RunExports.exact {inputUtf8 : List Char} {result : RunQuickVerifyResult}
    {exports : List Export} (h : RunExports tables catalog inputUtf8 result exports) :
    ∀ c ∈ result.contractExports, ExactContract c := by
  rw [h.contracts]
  intro c hc
  obtain ⟨e, he, rfl⟩ := List.mem_map.mp hc
  obtain ⟨p, hp, hof⟩ := h.sound e he
  obtain ⟨haction, hflat⟩ := givenChecks_decoded tables catalog hp
  exact (hof.spec tables catalog haction hflat).1

theorem RunExports.distinct {inputUtf8 : List Char} {result : RunQuickVerifyResult}
    {exports : List Export} (h : RunExports tables catalog inputUtf8 result exports)
    {e e' : Export} (he : e ∈ exports) (he' : e' ∈ exports)
    (hid : e.1.toolId = e'.1.toolId) : e = e' := by
  have hnodup : (exports.map fun e => e.1.toolId).Nodup := h.ordered.imp fun hab => hab.2
  exact List.inj_on_of_nodup_map hnodup he he' hid

/-- The events of the run's text. -/
theorem RunExports.read {inputUtf8 : List Char} {result : RunQuickVerifyResult}
    {exports : List Export} (h : RunExports tables catalog inputUtf8 result exports)
    (workflowId : String) :
    ∃ text, buildQuickContractEventsNdjson workflowId result.contractExports = some text ∧
      readEvents text = some (exports.zipIdx.map exportEvent) := by
  have hids : ∀ e ∈ exports, e.2.toolId = e.1.toolId := fun e he => (h.ids e he).2
  have hsorted : sortExports result.contractExports = result.contractExports := by
    rw [h.contracts]
    apply sortBy_of_pairwise
    rw [List.pairwise_map]
    apply List.Pairwise.imp_of_mem _ (List.pairwise_map.mp h.ordered)
    intro a b ha hb hab
    rw [hids a ha, hids b hb]
    exact hab.1
  have hlength : result.contractExports.length ≤ maxUnits := by
    rw [h.contracts, List.length_map]
    exact h.length
  obtain ⟨text, htext, hread⟩ := readEvents_contracts workflowId h.exact hlength hsorted
  refine ⟨text, htext, ?_⟩
  rw [hread, h.contracts, List.zipIdx_map, List.map_map]
  rfl

theorem RunExports.events_ids {inputUtf8 : List Char} {result : RunQuickVerifyResult}
    {exports : List Export} (h : RunExports tables catalog inputUtf8 result exports) :
    (exports.zipIdx.map exportEvent).map ReplayEvent.toolId =
      result.report.tools.map ToolRegistryEntry.toolId := by
  have hids : exports.map (fun e => e.2.toolId) = exports.map fun e => e.1.toolId :=
    List.map_congr_left fun e he => (h.ids e he).2
  rw [h.tools, List.map_map, List.map_map]
  conv_rhs => rw [Function.comp_def, ← hids, ← List.zipIdx_map_fst 0 exports, List.map_map]
  rfl

theorem exportEvents_seqs (exports : List Export) :
    (exports.zipIdx.map exportEvent).map ReplayEvent.seq =
      (List.range exports.length).map fun n => .int n := by
  have hindices : exports.zipIdx.map Prod.snd = List.range exports.length := by
    rw [List.zipIdx_map_snd, List.range_eq_range']
  rw [List.map_map, ← hindices, List.map_map]
  rfl

variable (tables catalog)

/-- In a run that replays, the names of a request that is exported by constants are
identifiers. -/
theorem ExportReplays.replayable {workflowId : String} {inputUtf8 : List Char}
    (h : ExportReplays workflowId (runQuickVerify tables catalog dialect db inputUtf8))
    {p : PlannedCheck} (hp : p ∈ givenChecks (runChecks tables catalog inputUtf8))
    {req : VerificationRequest} (hreq : constRequest? tables catalog p = some req) :
    Replayable req := by
  obtain ⟨exports, hexports⟩ := exists_runExports tables catalog dialect db inputUtf8
  generalize runQuickVerify tables catalog dialect db inputUtf8 = result at h hexports
  obtain ⟨text, htext, hread⟩ := hexports.read workflowId
  obtain ⟨text', events, htext', hread', hreplays⟩ := h
  rw [htext] at htext'
  cases htext'
  rw [hread] at hread'
  cases hread'
  obtain ⟨tid, hconst⟩ := hexports.complete p hp req hreq
  have htool : (constExport p req tid).1 ∈ result.report.tools := by
    rw [hexports.tools]
    exact List.mem_map_of_mem hconst
  obtain ⟨event, hevent, request, synthetic, hid, hcontract, hreplay⟩ :=
    hreplays.rows _ htool _ rfl
  -- The ids are distinct, so the event and the contract are those of this export.
  obtain ⟨⟨e, k⟩, hek, rfl⟩ := List.mem_map.mp hevent
  have he := List.fst_mem_of_mem_zipIdx hek
  have heq : e = constExport p req tid := by
    apply hexports.distinct he hconst
    rw [← (hexports.ids e he).2]
    exact hid
  subst heq
  have hrequest : request = req := by
    rw [hexports.contracts] at hcontract
    obtain ⟨e', he', hsame⟩ := List.mem_map.mp hcontract
    have heq' : e' = constExport p req tid := by
      apply hexports.distinct he' hconst
      rw [← (hexports.ids e' he').2, hsame]
      rfl
    subst heq'
    cases hsame
    rfl
  subst hrequest
  obtain ⟨haction, hflat⟩ := givenChecks_decoded tables catalog hp
  exact (replaysTo_const_iff haction.params
    (constRequest?_fields tables catalog hflat hreq) tid).mp hreplay

theorem exportReplays_of_replayable (workflowId : String) {inputUtf8 : List Char}
    (h : ∀ p ∈ givenChecks (runChecks tables catalog inputUtf8), ∀ req,
      constRequest? tables catalog p = some req → Replayable req) :
    ExportReplays workflowId (runQuickVerify tables catalog dialect db inputUtf8) := by
  obtain ⟨exports, hexports⟩ := exists_runExports tables catalog dialect db inputUtf8
  generalize runQuickVerify tables catalog dialect db inputUtf8 = result at hexports ⊢
  obtain ⟨text, htext, hread⟩ := hexports.read workflowId
  refine ⟨text, _, htext, hread, hexports.events_ids, ?_, ?_, ?_⟩
  · rw [hexports.tools, List.map_map]
    exact hexports.ordered
  · rw [hexports.tools, List.length_map]
    exact exportEvents_seqs exports
  · intro tool htool spec hspec
    rw [hexports.tools] at htool
    obtain ⟨e, he, rfl⟩ := List.mem_map.mp htool
    obtain ⟨p, hp, hof⟩ := hexports.sound e he
    obtain ⟨haction, hflat⟩ := givenChecks_decoded tables catalog hp
    obtain ⟨request, synthetic, hcontract, hreplay⟩ :=
      (hof.spec tables catalog haction hflat).2 spec hspec
    obtain ⟨⟨e', k⟩, hk, rfl⟩ : ∃ item ∈ exports.zipIdx, item.1 = e := by
      apply List.mem_map.mp
      rw [List.zipIdx_map_fst]
      exact he
    refine ⟨_, List.mem_map_of_mem hk, request, synthetic, (hexports.ids e' he).2, ?_, ?_⟩
    · rw [hexports.contracts, ← hcontract]
      exact List.mem_map_of_mem he
    · rcases hreplay with hreplay | ⟨tid, hreq, rfl⟩
      · exact hreplay
      · exact (replaysTo_const_iff haction.params
          (constRequest?_fields tables catalog hflat hreq) tid).mpr (h p hp _ hreq)

/-- The exports of a run replay exactly when the names of every request that is exported
by constants are identifiers. -/
theorem exportReplays_iff (workflowId : String) (inputUtf8 : List Char) :
    ExportReplays workflowId (runQuickVerify tables catalog dialect db inputUtf8) ↔
      ∀ p ∈ givenChecks (runChecks tables catalog inputUtf8), ∀ req,
        constRequest? tables catalog p = some req → Replayable req :=
  ⟨fun h _ hp _ hreq => h.replayable tables catalog dialect db hp hreq,
    exportReplays_of_replayable tables catalog dialect db workflowId⟩

end Replay

/-! ## A table whose name is no identifier -/

def petListCatalog : SchemaCatalog :=
  { listTables := ["pet-list"]
    listColumns := fun _ => ["id"]
    primaryKeyColumns := fun _ => ["id"]
    listUniqueConstraints := fun _ => []
    listFkEdges := [] }

def petListCall : List Char :=
  "\x7b\"toolId\":\"pet-list\",\"params\":\x7b\"id\":\"1\"\x7d\x7d".toList

/-- The exported tool of this run does not resolve. -/
theorem pet_list_not_replayed : ¬ ExportReplays "wf" (runQuickVerify petTables petListCatalog
    .sqlite (fun _ => emptyDatabase) petListCall) := by
  have hconst : ((givenChecks (runChecks petTables petListCatalog petListCall)).filterMap
      (constRequest? petTables petListCatalog)).map (·.table) = ["pet-list"] := by
    decide +kernel
  obtain ⟨req, hreq, htable⟩ : ∃ req ∈ (givenChecks (runChecks petTables petListCatalog
      petListCall)).filterMap (constRequest? petTables petListCatalog),
        req.table = "pet-list" := by
    apply List.mem_map.mp
    rw [hconst]
    exact List.mem_singleton_self _
  obtain ⟨p, hp, hp_req⟩ := List.mem_filterMap.mp hreq
  intro hreplays
  have hident := (hreplays.replayable petTables petListCatalog .sqlite
    (fun _ => emptyDatabase) hp hp_req).table
  rw [htable] at hident
  exact absurd hident (by decide)

end AgentSkeptic.Quick
