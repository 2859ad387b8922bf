import AgentSkeptic.Report.TruthReport
import AgentSkeptic.Support.JsonLayout

/-!
# Texts that are one line

Which texts of a report cannot have a line break: what is formatted as a message, cut or
sanitized, numbers, JSON, the names of enumerations and of what objects inherit.  A report
that is built has such texts in all but a few places (`BuiltFrom`).
-/

namespace AgentSkeptic.Report

open AgentSkeptic.Support AgentSkeptic.Engine AgentSkeptic.Events

/-! ## One line -/

/-- No line break. -/
def IsOneLine (s : String) : Prop := '\n' ∉ s.toList

instance (s : String) : Decidable (IsOneLine s) := inferInstanceAs (Decidable (_ ∉ _))

theorem isOneLine_append {a b : String} : IsOneLine (a ++ b) ↔ IsOneLine a ∧ IsOneLine b := by
  rw [IsOneLine, String.toList_append, List.mem_append, not_or]
  rfl

theorem IsOneLine.append {a b : String} (ha : IsOneLine a) (hb : IsOneLine b) :
    IsOneLine (a ++ b) :=
  isOneLine_append.mpr ⟨ha, hb⟩

/-- A text is one line when its characters are. -/
theorem IsOneLine.of_chars {s : String} {chars : List Char} (h : s = String.ofList chars)
    (hchars : '\n' ∉ chars) : IsOneLine s := by
  rw [IsOneLine, h, String.toList_ofList]
  exact hchars

theorem IsOneLine.of_visible {s : String} (h : ∀ c ∈ s.toList, 32 ≤ c.toNat) :
    IsOneLine s := by
  intro hmem
  have hbreak := h _ hmem
  revert hbreak
  decide

theorem ofNat_eq_lineBreak {n : ℕ} (h : Char.ofNat n = '\n') : n = 10 := by
  by_cases hvalid : n.isValidChar
  · rw [Char.ofNat, dif_pos hvalid] at h
    have hn : n = 10 := congrArg Char.toNat h
    exact hn
  · rw [Char.ofNat, dif_neg hvalid] at h
    exact absurd h (by decide)

theorem lineBreak_mem_ofUtf16 (units : List ℕ) : '\n' ∈ ofUtf16 units → 10 ∈ units := by
  induction units using ofUtf16.induct with
  | case1 => exact fun h => absurd h List.not_mem_nil
  | case2 unit =>
      intro h
      rw [ofUtf16, List.mem_singleton] at h
      split at h
      · exact absurd h (by decide)
      · rw [ofNat_eq_lineBreak h.symm]
        exact List.mem_cons_self
  | case3 unit next rest hpair ih =>
      intro h
      rw [ofUtf16, if_pos hpair] at h
      rcases List.mem_cons.mp h with hhead | hrest
      · have hunit := ofNat_eq_lineBreak hhead.symm
        omega
      · exact List.mem_cons_of_mem _ (List.mem_cons_of_mem _ (ih hrest))
  | case4 unit next rest hpair ih =>
      intro h
      rw [ofUtf16, if_neg hpair] at h
      rcases List.mem_cons.mp h with hhead | hrest
      · split at hhead
        · exact absurd hhead (by decide)
        · rw [ofNat_eq_lineBreak hhead.symm]
          exact List.mem_cons_self
      · exact List.mem_cons_of_mem _ (ih hrest)

theorem lineBreak_mem_of_utf16 {s : String} (h : 10 ∈ utf16 s) : '\n' ∈ s.toList := by
  obtain ⟨c, hc, hunit⟩ := List.mem_flatMap.mp h
  rw [utf16Char] at hunit
  split at hunit
  · have hpoint : c = '\n' := Char.toNat_inj.mp (List.mem_singleton.mp hunit).symm
    rwa [← hpoint]
  · simp only [List.mem_cons, List.not_mem_nil, or_false] at hunit
    omega

theorem mem_of_mem_collapseSpaces {c : Char} (cs : List Char) :
    c ∈ collapseSpaces cs → c ∈ cs := by
  induction cs using collapseSpaces.induct with
  | case1 rest ih =>
      intro h
      rw [collapseSpaces] at h
      exact List.mem_cons_of_mem _ (ih h)
  | case2 d rest hspaces ih =>
      intro h
      rw [collapseSpaces] at h
      · rcases List.mem_cons.mp h with rfl | hrest
        · exact List.mem_cons_self
        · exact List.mem_cons_of_mem _ (ih hrest)
      · exact hspaces
  | case3 => exact fun h => h

theorem mem_of_mem_trimChars {c : Char} {cs : List Char} (h : c ∈ trimChars cs) : c ∈ cs := by
  rw [trimChars, List.mem_reverse] at h
  have hback := (List.dropWhile_sublist _).mem h
  exact (List.dropWhile_sublist _).mem (List.mem_reverse.mp hback)

theorem spacedText_isOneLine (s : String) : IsOneLine (spacedText s) := by
  intro hmem
  rw [spacedText, String.toList_ofList] at hmem
  have hspaced := mem_of_mem_collapseSpaces _ (mem_of_mem_trimChars hmem)
  obtain ⟨c, -, hc⟩ := List.mem_map.mp hspaced
  split at hc
  · exact absurd hc (by decide)
  · rename_i hplain
    exact hplain (.inr (.inr hc))

theorem cutTo_isOneLine {s : String} (max : ℕ) (h : IsOneLine s) :
    IsOneLine (cutTo max s) := by
  rw [cutTo]
  split
  · exact h
  · refine IsOneLine.append ?_ (by decide)
    intro hmem
    rw [String.toList_ofList] at hmem
    exact h (lineBreak_mem_of_utf16 (List.mem_of_mem_take (lineBreak_mem_ofUtf16 _ hmem)))

theorem formatOperationalMessage_eq (raw : String) :
    formatOperationalMessage raw = cutTo operationalMessageMaxChars (spacedText raw) := by
  rw [cutTo, formatOperationalMessage]
  by_cases h : operationalMessageMaxChars < (utf16 (spacedText raw)).length
  · rw [if_neg (Nat.not_le.mpr h)]
    exact if_pos h
  · rw [if_pos (Nat.le_of_not_lt h)]
    exact if_neg h

theorem formatOperationalMessage_isOneLine (raw : String) :
    IsOneLine (formatOperationalMessage raw) := by
  rw [formatOperationalMessage_eq]
  exact cutTo_isOneLine _ (spacedText_isOneLine raw)

theorem numberStringify_isOneLine (n : JsNumber) : IsOneLine n.stringify := by
  by_cases h : n.isFinite = true
  · apply IsOneLine.of_visible
    intro c hc
    exact (isNumberChar_visible (isNumberChar_stringify h c hc)).1
  · rw [JsNumber.stringify, if_neg h]
    decide

theorem seqText_isOneLine (n : ℕ) : IsOneLine (seqText n) :=
  numberStringify_isOneLine (.int n)

theorem intercalate_isOneLine {separator : String} (hseparator : IsOneLine separator)
    {parts : List String} (h : ∀ part ∈ parts, IsOneLine part) :
    IsOneLine (separator.intercalate parts) := by
  induction parts with
  | nil => exact List.not_mem_nil
  | cons part parts ih =>
      obtain ⟨hpart, hparts⟩ := List.forall_mem_cons.mp h
      cases parts with
      | nil => rwa [String.intercalate_singleton]
      | cons next parts =>
          rw [String.intercalate_cons_cons]
          exact .append (.append hpart hseparator) (ih hparts)

mutual

/-- A JSON text is one line. -/
theorem stringify_isOneLine : ∀ v : Json, IsOneLine v.stringify
  | .null => by
      rw [Json.stringify]
      decide
  | .bool true => by
      rw [Json.stringify]
      decide
  | .bool false => by
      rw [Json.stringify]
      decide
  | .num value => by
      rw [Json.stringify]
      exact numberStringify_isOneLine value
  | .str value => by
      rw [Json.stringify]
      exact .of_visible (quote_chars value)
  | .arr items => by
      rw [Json.stringify]
      exact .append (.append (by decide)
        (intercalate_isOneLine (by decide) (stringifyItems_isOneLine items))) (by decide)
  | .obj members => by
      rw [Json.stringify]
      exact .append (.append (by decide)
        (intercalate_isOneLine (by decide) (stringifyMembers_isOneLine members))) (by decide)

theorem stringifyItems_isOneLine : ∀ items : List Json,
    ∀ part ∈ Json.stringifyItems items, IsOneLine part
  | [] => by
      intro part h
      rw [Json.stringifyItems] at h
      exact absurd h List.not_mem_nil
  | item :: items => by
      intro part h
      rw [Json.stringifyItems] at h
      rcases List.mem_cons.mp h with rfl | hrest
      · exact stringify_isOneLine item
      · exact stringifyItems_isOneLine items part hrest

theorem stringifyMembers_isOneLine : ∀ members : List (String × Json),
    ∀ part ∈ Json.stringifyMembers members, IsOneLine part
  | [] => by
      intro part h
      rw [Json.stringifyMembers] at h
      exact absurd h List.not_mem_nil
  | (key, value) :: members => by
      intro part h
      rw [Json.stringifyMembers] at h
      rcases List.mem_cons.mp h with rfl | hrest
      · exact .append (.append (.of_visible (quote_chars key)) (by decide))
          (stringify_isOneLine value)
      · exact stringifyMembers_isOneLine members part hrest

end

/-! ## Parts of the report -/

theorem mem_replaceLineBreaks {c d : Char} (cs : List Char) :
    d ∈ replaceLineBreaks c cs → d = c ∨ (d ∈ cs ∧ d ≠ '\n') := by
  induction cs using replaceLineBreaks.induct with
  | case1 rest ih =>
      intro h
      rw [replaceLineBreaks] at h
      grind
  | case2 rest hother ih =>
      intro h
      rw [replaceLineBreaks] at h
      · grind
      · exact hother
  | case3 rest ih =>
      intro h
      rw [replaceLineBreaks] at h
      grind
  | case4 x rest hpair hreturn hbreak ih =>
      intro h
      rw [replaceLineBreaks] at h
      · grind
      · exact hpair
      · exact hreturn
      · exact hbreak
  | case5 => exact fun h => absurd h List.not_mem_nil

theorem replaceLineBreaks_isOneLine {c : Char} (hc : c ≠ '\n') (cs : List Char) :
    IsOneLine (String.ofList (replaceLineBreaks c cs)) := by
  intro hmem
  rw [String.toList_ofList] at hmem
  rcases mem_replaceLineBreaks cs hmem with h | ⟨-, h⟩
  · exact hc h.symm
  · exact h rfl

theorem sanitizeOneLineId_isOneLine (value : String) : IsOneLine (sanitizeOneLineId value) :=
  replaceLineBreaks_isOneLine (by decide) _

theorem jsTrim_isOneLine {s : String} (h : IsOneLine s) : IsOneLine (jsTrim s) := by
  intro hmem
  rw [jsTrim, String.toList_ofList] at hmem
  exact h (mem_of_mem_trimChars hmem)

theorem FailureOrigin.text_isOneLine (o : FailureOrigin) : IsOneLine o.text := by
  cases o <;> exact .of_chars rfl (by decide)

theorem FailureConfidence.text_isOneLine (c : FailureConfidence) : IsOneLine c.text := by
  cases c <;> exact .of_chars rfl (by decide)

theorem WorkflowStatus.text_isOneLine (s : WorkflowStatus) :
    IsOneLine (WorkflowStatus.text s) := by
  cases s <;> exact .of_chars rfl (by decide)

theorem ActionableFailureCategory.text_isOneLine (c : ActionableFailureCategory) :
    IsOneLine c.text := by
  cases c <;> exact .of_chars rfl (by decide)

theorem ActionableFailureSeverity.text_isOneLine (s : ActionableFailureSeverity) :
    IsOneLine s.text := by
  cases s <;> exact .of_chars rfl (by decide)

theorem CorrectnessEnforcementKind.text_isOneLine (k : CorrectnessEnforcementKind) :
    IsOneLine k.text := by
  cases k <;> exact .of_chars rfl (by decide)

theorem FailureDiagnostic.text_isOneLine (d : FailureDiagnostic) :
    IsOneLine (FailureDiagnostic.text d) := by
  cases d <;> exact .of_chars rfl (by decide)

theorem FailureExplanationFactId.text_isOneLine (id : FailureExplanationFactId) :
    IsOneLine id.text := by
  cases id <;> exact .of_chars rfl (by decide)

theorem FailureExplanationUnknownId.text_isOneLine (id : FailureExplanationUnknownId) :
    IsOneLine id.text := by
  cases id <;> exact .of_chars rfl (by decide)

theorem humanReportResultPhrase_isOneLine (label : OutcomeLabel) :
    IsOneLine (humanReportResultPhrase label) := by
  cases label with
  | failedRowMissing =>
      exact .append (.of_chars rfl (by decide)) (.of_chars rfl (by decide))
  | _ => exact .of_chars rfl (by decide)

theorem recommendedActionText_isOneLine (row : Found RemediationRow) :
    IsOneLine (recommendedActionText row) := by
  cases row with
  | inherited v => exact .of_chars rfl (by decide)
  | own row => cases hrow : row.recommendedAction <;>
      simp only [recommendedActionText, hrow] <;> exact .of_chars rfl (by decide)

theorem automationSafeText_isOneLine (row : Found RemediationRow) :
    IsOneLine (automationSafeText row) := by
  rcases row with ⟨-, safe⟩ | v
  · cases safe <;> exact .of_chars rfl (by decide)
  · exact .of_chars rfl (by decide)

/-! ## What is inherited -/

/-- What is found in a table has a text that is one line. -/
def Found.IsPlain {α : Type} : Found α → Prop
  | .own _ => True
  | .inherited value => IsOneLine (value.toText.getD "")

theorem Found.text_isOneLine {α : Type} {own : α → String} (hown : ∀ a, IsOneLine (own a))
    {found : Found α} (h : found.IsPlain) : IsOneLine (found.text own) := by
  cases found with
  | own value => exact hown value
  | inherited value => exact h

theorem inherited_isOneLine (code : String) :
    IsOneLine ((inherited [] code).toText.getD "") := by
  rw [inherited]
  split
  · exact .of_chars rfl (by decide)
  · split
    · rename_i hname
      have hnames : ∀ name ∈ "Object" :: objectPrototypeNames, IsOneLine name := by
        decide +kernel
      have hcode : code ∈ objectPrototypeNames := hname.resolve_left List.not_mem_nil
      refine .append (.append (.of_chars rfl (by decide)) (hnames _ ?_))
        (.of_chars rfl (by decide))
      split
      · exact List.mem_cons_self
      · exact List.mem_cons_of_mem _ hcode
    · exact .of_chars rfl (by decide)

theorem lookUp_isPlain {α : Type} {table : List (String × α)} {code : String}
    {found : Found α} (h : lookUp table code = some found) : found.IsPlain := by
  rw [lookUp] at h
  split at h
  · obtain rfl := Option.some.inj h
    trivial
  · split at h
    · exact absurd h nofun
    · obtain rfl := Option.some.inj h
      exact inherited_isOneLine code

theorem getD_isPlain {α : Type} {found : Option (Found α)} {default : α}
    (h : ∀ f ∈ found, f.IsPlain) : (found.getD (.own default)).IsPlain := by
  cases found with
  | none => trivial
  | some f => exact h f rfl

theorem findSome_isPlain {α : Type} {table : List (String × α)} {codes : List String} :
    ∀ f ∈ codes.findSome? (lookUp table), f.IsPlain := by
  intro f hf
  obtain ⟨code, -, hcode⟩ := List.exists_of_findSome?_eq_some hf
  exact lookUp_isPlain hcode

/-! ## Analyses -/

/-- The origin and the rationales of an analysis are one line. -/
structure PlainAnalysis (fa : FailureAnalysisBase) : Prop where
  origin : fa.primaryOrigin.IsPlain
  rationales : ∀ alt ∈ fa.alternativeHypotheses.getD [], IsOneLine alt.rationale

section Analyses

variable {tables : TextTables} {fa : FailureAnalysisBase}

theorem originOfCodes_isPlain (table : List (String × FailureOrigin)) (unique : List String) :
    (originOfCodes tables table unique).2.1.IsPlain := by
  rw [originOfCodes]
  split
  · apply getD_isPlain
    intro f hf
    obtain ⟨code, -, hcode⟩ := Option.bind_eq_some_iff.mp hf
    exact lookUp_isPlain hcode
  · trivial

/-- An analysis without alternatives. -/
theorem PlainAnalysis.of_origin (horigin : fa.primaryOrigin.IsPlain)
    (hnone : fa.alternativeHypotheses = none) : PlainAnalysis fa := by
  refine ⟨horigin, ?_⟩
  rw [hnone]
  exact fun _ h => absurd h List.not_mem_nil

theorem runLevelAnalysis_plain (reasons : List Reason) :
    PlainAnalysis (runLevelAnalysis tables reasons) :=
  .of_origin (originOfCodes_isPlain _ _) rfl

theorem eventSequenceAnalysis_plain (reasons : List Reason) :
    PlainAnalysis (eventSequenceAnalysis tables reasons) :=
  .of_origin (originOfCodes_isPlain _ _) rfl

theorem runContextAnalysis_plain {ctx : VerificationRunContext} {iFail : ℕ}
    (h : runContextAnalysis ctx iFail = some fa) : PlainAnalysis fa := by
  rw [runContextAnalysis] at h
  split at h
  · obtain rfl := Option.some.inj h
    exact .of_origin trivial rfl
  · split at h
    · obtain rfl := Option.some.inj h
      exact .of_origin trivial rfl
    · split at h
      · obtain rfl := Option.some.inj h
        exact .of_origin trivial rfl
      · split at h
        · obtain rfl := Option.some.inj h
          refine ⟨trivial, List.forall_mem_singleton.mpr ?_⟩
          exact .append (.of_chars rfl (by decide)) (.of_chars rfl (by decide))
        · split at h
          · obtain rfl := Option.some.inj h
            exact .of_origin trivial rfl
          · exact absurd h nofun

theorem alternativesForCode_isOneLine (primaryCode : String) :
    ∀ alt ∈ (alternativesForCode primaryCode).getD [], IsOneLine alt.rationale := by
  rw [alternativesForCode]
  split
  · exact List.forall_mem_cons.mpr
      ⟨.append (.of_chars rfl (by decide)) (.of_chars rfl (by decide)),
        List.forall_mem_singleton.mpr
          (.append (.of_chars rfl (by decide)) (.of_chars rfl (by decide)))⟩
  · split
    · exact List.forall_mem_cons.mpr
        ⟨.append (.of_chars rfl (by decide)) (.of_chars rfl (by decide)),
          List.forall_mem_singleton.mpr
            (.append (.of_chars rfl (by decide)) (.of_chars rfl (by decide)))⟩
    · exact fun _ h => absurd h List.not_mem_nil

theorem stepAnalysis_plain (driverStep : StepOutcome) (primaryCode : String) :
    PlainAnalysis (stepAnalysis tables driverStep primaryCode) :=
  ⟨getD_isPlain fun _ hf => lookUp_isPlain hf, alternativesForCode_isOneLine primaryCode⟩

theorem lateAnalysis_plain {engine : WorkflowEngineResult}
    (h : lateAnalysis tables engine = .ok fa) : PlainAnalysis fa := by
  rw [lateAnalysis] at h
  split at h
  · obtain rfl := Except.ok.inj h
    exact eventSequenceAnalysis_plain _
  · split at h
    · obtain rfl := Except.ok.inj h
      exact .of_origin trivial rfl
    · split at h
      · exact absurd h nofun
      · obtain ⟨primaryCode, -, hfa⟩ := bind_eq_ok.mp h
        obtain rfl := Except.ok.inj hfa
        exact stepAnalysis_plain _ primaryCode

theorem buildFailureAnalysis_plain {engine : WorkflowEngineResult}
    (h : buildFailureAnalysis tables engine = .ok (some fa)) : PlainAnalysis fa := by
  rw [buildFailureAnalysis] at h
  split at h
  · exact absurd (Except.ok.inj h) nofun
  · split at h
    · obtain rfl := Option.some.inj (Except.ok.inj h)
      exact runLevelAnalysis_plain _
    · dsimp only at h
      split at h
      · rename_i hcontext
        obtain rfl := Option.some.inj (Except.ok.inj h)
        obtain ⟨iFail, -, hanalysis⟩ := Option.bind_eq_some_iff.mp hcontext
        exact runContextAnalysis_plain hanalysis
      · cases hlate : lateAnalysis tables engine with
        | error e =>
            rw [hlate] at h
            exact absurd h nofun
        | ok late =>
            rw [hlate] at h
            obtain rfl := Option.some.inj (Except.ok.inj h)
            exact lateAnalysis_plain hlate

theorem classifyStepOrEffectItem_isPlain (codes : List String) :
    (classifyStepOrEffectItem codes).IsPlain := by
  rw [classifyStepOrEffectItem]
  split
  · trivial
  · split
    · trivial
    · exact getD_isPlain fun _ hf => lookUp_isPlain hf

theorem deriveActionableCategory_isPlain (fa : FailureAnalysisBase) :
    (deriveActionableCategory fa).IsPlain := by
  rw [deriveActionableCategory]
  split_ifs
  · trivial
  · trivial
  · trivial
  · split
    · trivial
    · dsimp only
      split
      · trivial
      · exact getD_isPlain findSome_isPlain
      · trivial
      · exact classifyStepOrEffectItem_isPlain _
      · exact classifyStepOrEffectItem_isPlain _

theorem deriveActionableFailureWorkflow_isPlain (engine : WorkflowEngineResult)
    (fa : FailureAnalysisBase) :
    (deriveActionableFailureWorkflow engine fa).category.IsPlain := by
  have hcategory := deriveActionableCategory_isPlain fa
  rw [deriveActionableFailureWorkflow]
  split
  · trivial
  · trivial
  · exact hcategory

end Analyses

/-! ## Reports that are built -/

theorem executionPathSummary_isOneLine (tables : TextTables) {engine : WorkflowEngineResult}
    {findings : List ExecutionPathFinding}
    (h : buildExecutionPathFindings tables engine = .ok findings) (version : ℕ) :
    IsOneLine (buildExecutionPathSummary tables findings version) := by
  have hcodes : ∀ code ∈ executionPathFindingCodes, IsOneLine code := by
    decide +kernel
  rw [buildExecutionPathSummary]
  split
  · split
    · exact .append (.of_chars rfl (by decide)) (.of_chars rfl (by decide))
    · exact .of_chars rfl (by decide)
  · refine .append (.append (.append (.of_chars rfl (by decide)) (seqText_isOneLine _))
      (.of_chars rfl (by decide))) (intercalate_isOneLine (by decide) ?_)
    intro code hcode
    rw [sortUniqueCodes, List.mem_insertionSort, InsertionMap.mem_keys_ofKeys] at hcode
    obtain ⟨f, hf, rfl⟩ := List.mem_map.mp hcode
    rw [buildExecutionPathFindings_eq] at h
    obtain rfl := Except.ok.inj h
    exact hcodes _ (collectedFindings_coded tables engine f (mem_of_mem_dedupeFindings hf))

theorem trustLineByStatus_isOneLine (status : WorkflowStatus) :
    IsOneLine (trustLineByStatus status) := by
  cases status with
  | incomplete => exact .of_chars rfl (by decide)
  | _ => exact .append (.of_chars rfl (by decide)) (.of_chars rfl (by decide))

theorem trustLineByStatusPlanTransition_isOneLine (status : WorkflowStatus) :
    IsOneLine (trustLineByStatusPlanTransition status) := by
  cases status with
  | inconsistent => exact .append (.of_chars rfl (by decide)) (.of_chars rfl (by decide))
  | _ => exact .of_chars rfl (by decide)

theorem trustSummaryForEngine_isOneLine (engine : WorkflowEngineResult) :
    IsOneLine (trustSummaryForEngine engine) := by
  have hbase : IsOneLine (trustLineBaseForEngine engine) := by
    rw [trustLineBaseForEngine]
    split_ifs
    · exact .append (.of_chars rfl (by decide)) (.of_chars rfl (by decide))
    · exact trustLineByStatusPlanTransition_isOneLine _
    · exact trustLineByStatus_isOneLine _
  rw [trustSummaryForEngine]
  split
  · exact .append (.append hbase (by decide))
      (.append (.of_chars rfl (by decide)) (.of_chars rfl (by decide)))
  · exact hbase

theorem formatBatchObservedStateSummary_isOneLine {s : StepOutcome} {text : String}
    (h : formatBatchObservedStateSummary s = .ok text) : IsOneLine text := by
  obtain ⟨raw, -, hraw⟩ := bind_eq_ok.mp h
  rw [← Except.ok.inj hraw]
  exact formatOperationalMessage_isOneLine raw

theorem buildTruthStep_seq {tables : TextTables} {s : StepOutcome} {t : WorkflowTruthStep}
    (h : buildTruthStep tables s = .ok t) :
    t.seq = s.seq ∧ t.toolId = s.toolId ∧ t.reasons = s.reasons.map copyReason ∧
      IsOneLine t.observedStateSummary := by
  obtain ⟨observed, hobserved, h⟩ := bind_eq_ok.mp h
  obtain ⟨category, -, h⟩ := bind_eq_ok.mp h
  obtain ⟨effects, -, h⟩ := bind_eq_ok.mp h
  obtain rfl := Except.ok.inj h
  exact ⟨rfl, rfl, rfl, formatBatchObservedStateSummary_isOneLine hobserved⟩

theorem explanationOf_isOneLine (tables : TextTables) (truth : TruthOutline) (P : String)
    (primary : PrimaryEvidence) (branch : Branch) :
    IsOneLine (explanationOf tables truth P primary branch).expected ∧
      IsOneLine (explanationOf tables truth P primary branch).observed ∧
      IsOneLine (explanationOf tables truth P primary branch).divergence := by
  simp only [explanationOf]
  exact ⟨formatOperationalMessage_isOneLine _, formatOperationalMessage_isOneLine _,
    formatOperationalMessage_isOneLine _⟩

/-- The sentences of a definition are one line. -/
def PlainDefinition (cd : CorrectnessDefinitionV1) : Prop :=
  IsOneLine cd.mustAlwaysHold ∧ ∀ line ∈ cd.enforceAs, IsOneLine line

theorem Filled.plain {cd : CorrectnessDefinitionV1} (h : Filled cd) : PlainDefinition cd := by
  obtain ⟨kind, mustHold, enforceAs, projection, alignment, rfl⟩ := h
  simp only [PlainDefinition, correctnessOf]
  refine ⟨formatOperationalMessage_isOneLine mustHold, fun line hline => ?_⟩
  obtain ⟨raw, -, rfl⟩ := List.mem_map.mp hline
  exact formatOperationalMessage_isOneLine raw

theorem mapM_buildTruthStep {tables : TextTables} {outcomes : List StepOutcome}
    {steps : List WorkflowTruthStep} (h : outcomes.mapM (buildTruthStep tables) = .ok steps) :
    steps.map (fun t => (t.seq, t.toolId)) = outcomes.map fun s => (s.seq, s.toolId) := by
  have hall := mapM_eq_ok.mp h
  clear h
  induction hall with
  | nil => rfl
  | cons hstep _ ih =>
      obtain ⟨hseq, htool, -, -⟩ := buildTruthStep_seq hstep
      rw [List.map_cons, List.map_cons, ih, hseq, htool]

/-- What is known of a report that was built. -/
structure BuiltFrom (engine : WorkflowEngineResult) (truth : WorkflowTruthReport) : Prop where
  trustSummary : truth.trustSummary = trustSummaryForEngine engine
  workflowStatus : truth.workflowStatus = engine.status
  steps : truth.steps.map (fun t => (t.seq, t.toolId)) =
    engine.steps.map fun s => (s.seq, s.toolId)
  observed : ∀ t ∈ truth.steps, IsOneLine t.observedStateSummary
  summary : IsOneLine truth.executionPathSummary
  analysis : ∀ d ∈ truth.failureAnalysis, PlainAnalysis d.toFailureAnalysisBase ∧
    d.actionableFailure.category.IsPlain
  explanation : ∀ fe ∈ truth.failureExplanation,
    IsOneLine fe.expected ∧ IsOneLine fe.observed ∧ IsOneLine fe.divergence
  correctness : ∀ cd ∈ truth.correctnessDefinition, PlainDefinition cd

theorem buildWorkflowTruthReport_builtFrom {tables : TextTables}
    {engine : WorkflowEngineResult} {truth : WorkflowTruthReport}
    (h : buildWorkflowTruthReport tables engine = .ok truth) : BuiltFrom engine truth := by
  obtain ⟨eventSequence, -, h⟩ := bind_eq_ok.mp h
  obtain ⟨base, hbase, h⟩ := bind_eq_ok.mp h
  obtain ⟨findings, hfindings, h⟩ := bind_eq_ok.mp h
  obtain ⟨steps, hsteps, h⟩ := bind_eq_ok.mp h
  obtain ⟨explanation, hexplanation, h⟩ := bind_eq_ok.mp h
  obtain ⟨correctness, hcorrectness, h⟩ := bind_eq_ok.mp h
  obtain rfl := Except.ok.inj h
  constructor
  · rfl
  · rfl
  · exact mapM_buildTruthStep hsteps
  · intro t ht
    obtain ⟨s, -, hs⟩ := exists_of_mem_mapM hsteps ht
    exact (buildTruthStep_seq hs).2.2.2
  · exact executionPathSummary_isOneLine tables hfindings _
  · intro d hd
    obtain ⟨fa, rfl, rfl⟩ := Option.map_eq_some_iff.mp hd
    exact ⟨buildFailureAnalysis_plain hbase, deriveActionableFailureWorkflow_isPlain _ _⟩
  · rintro fe rfl
    obtain ⟨-, P, primary, branch, -, rfl⟩ := buildFailureExplanation_eq_some.mp hexplanation
    exact explanationOf_isOneLine _ _ _ _ _
  · rintro cd rfl
    exact (truthCorrectness_filled hcorrectness).plain

/-- The reasons of a step stand in the report. -/
theorem exists_reason_of_builtFrom {tables : TextTables} {engine : WorkflowEngineResult}
    {truth : WorkflowTruthReport} (h : buildWorkflowTruthReport tables engine = .ok truth)
    {s : StepOutcome} (hs : s ∈ engine.steps) {r : Reason} (hr : r ∈ s.reasons) :
    ∃ t ∈ truth.steps, copyReason r ∈ t.reasons := by
  obtain ⟨_, -, h⟩ := bind_eq_ok.mp h
  obtain ⟨_, -, h⟩ := bind_eq_ok.mp h
  obtain ⟨_, -, h⟩ := bind_eq_ok.mp h
  obtain ⟨steps, hsteps, h⟩ := bind_eq_ok.mp h
  obtain ⟨_, -, h⟩ := bind_eq_ok.mp h
  obtain ⟨_, -, h⟩ := bind_eq_ok.mp h
  obtain rfl := Except.ok.inj h
  obtain ⟨t, ht, hst⟩ := mem_of_mapM_eq_ok hsteps hs
  refine ⟨t, ht, ?_⟩
  rw [(buildTruthStep_seq hst).2.2.1]
  exact List.mem_map_of_mem hr

end AgentSkeptic.Report
