import AgentSkeptic.Report.OneLineTexts
import AgentSkeptic.Support.Lines

/-!
# What the lines of a report tell

A reader finds the trust, the status and the steps of a report by how its lines begin.
Most of what is put into a line is made one line before.  A few texts are put in as they
are, and a line break in them may be followed by what such a line begins with.
-/

namespace AgentSkeptic.Report

open AgentSkeptic.Support AgentSkeptic.Engine

/-! ## Marked lines -/

def trustMark : List Char := ['t', 'r', 'u', 's', 't', ':', ' ']

def statusMark : List Char :=
  ['w', 'o', 'r', 'k', 'f', 'l', 'o', 'w', '_', 's', 't', 'a', 't', 'u', 's', ':', ' ']

def stepMark : List Char := [' ', ' ', '-', ' ', 's', 'e', 'q', '=']

def lineMarks : List (List Char) := [trustMark, statusMark, stepMark]

theorem lineBreak_not_mem_mark : ∀ mark ∈ lineMarks, '\n' ∉ mark := by
  decide

/-- No line break of the text is followed by a mark. -/
def Intact (s : String) : Prop := ∀ mark ∈ lineMarks, Unbroken '\n' mark s.toList

instance (s : String) : Decidable (Intact s) := inferInstanceAs (Decidable (∀ _ ∈ _, _))

def Unmarked (line : String) : Prop := ∀ mark ∈ lineMarks, ¬ mark <+: line.toList

theorem IsOneLine.intact {s : String} (h : IsOneLine s) : Intact s :=
  fun _ _ => unbroken_of_not_mem h

theorem intact_append_left {front s : String} (h : IsOneLine front) :
    Intact (front ++ s) ↔ Intact s := by
  apply forall₂_congr
  intro mark _
  rw [String.toList_append, unbroken_append_left h]

theorem not_prefix_append {mark label rest : List Char} (hmark : ¬ mark <+: label)
    (hlabel : ¬ label <+: mark) : ¬ mark <+: label ++ rest := by
  intro h
  rcases List.prefix_or_prefix_of_prefix h (List.prefix_append label rest) with h | h
  · exact hmark h
  · exact hlabel h

/-- A label that differs from every mark before either ends. -/
structure PlainLabel (label : String) : Prop where
  isOneLine : IsOneLine label
  apart : ∀ mark ∈ lineMarks, ¬ mark <+: label.toList ∧ ¬ label.toList <+: mark

theorem PlainLabel.of_chars {label : String} {chars : List Char}
    (h : label = String.ofList chars)
    (hchars : '\n' ∉ chars ∧ ∀ mark ∈ lineMarks, ¬ mark <+: chars ∧ ¬ chars <+: mark) :
    PlainLabel label := by
  refine ⟨.of_chars h hchars.1, ?_⟩
  rw [h, String.toList_ofList]
  exact hchars.2

theorem PlainLabel.unmarked {label : String} (h : PlainLabel label) (rest : String) :
    Unmarked (label ++ rest) := by
  intro mark hmark
  rw [String.toList_append]
  exact not_prefix_append (h.apart mark hmark).1 (h.apart mark hmark).2

/-! ## Blocks of lines -/

/-- Lines without marks, which a mark follows no line break of exactly when `cond` holds. -/
structure Block (lines : List String) (cond : Prop) : Prop where
  unmarked : ∀ line ∈ lines, Unmarked line
  intact_iff : (∀ line ∈ lines, Intact line) ↔ cond

namespace Block

theorem nil : Block [] True :=
  ⟨fun _ h => absurd h List.not_mem_nil, by simp⟩

theorem line {label rest : String} (h : PlainLabel label) :
    Block [label ++ rest] (Intact rest) := by
  refine ⟨fun line hline => ?_, ?_⟩
  · rw [List.mem_singleton.mp hline]
    exact h.unmarked rest
  · rw [List.forall_mem_singleton, intact_append_left h.isOneLine]

variable {lines lines' : List String} {cond cond' : Prop}

theorem congr (h : Block lines cond) (hcond : cond ↔ cond') : Block lines cond' :=
  ⟨h.unmarked, h.intact_iff.trans hcond⟩

/-- A line of a text that is one line. -/
theorem safe {label rest : String} (h : PlainLabel label) (hrest : IsOneLine rest) :
    Block [label ++ rest] True :=
  (line h).congr (iff_true_intro hrest.intact)

theorem bare {label : String} (h : PlainLabel label) : Block [label] True := by
  have hblock := @safe label "" h (by decide)
  rwa [String.append_empty] at hblock

theorem append (h : Block lines cond) (h' : Block lines' cond') :
    Block (lines ++ lines') (cond ∧ cond') := by
  refine ⟨?_, ?_⟩
  · rw [List.forall_mem_append]
    exact ⟨h.unmarked, h'.unmarked⟩
  · rw [List.forall_mem_append, h.intact_iff, h'.intact_iff]

theorem cons {line : String} (h : Block [line] cond) (h' : Block lines' cond') :
    Block (line :: lines') (cond ∧ cond') :=
  h.append h'

theorem flatMap {α : Type} {show' : α → List String} {cond : α → Prop} (xs : List α)
    (h : ∀ x ∈ xs, Block (show' x) (cond x)) :
    Block (xs.flatMap show') (∀ x ∈ xs, cond x) := by
  induction xs with
  | nil => exact nil.congr (by simp)
  | cons x xs ih =>
      obtain ⟨hx, hxs⟩ := List.forall_mem_cons.mp h
      rw [List.flatMap_cons]
      exact (hx.append (ih hxs)).congr List.forall_mem_cons.symm

theorem map {α : Type} {show' : α → String} {cond : α → Prop} (xs : List α)
    (h : ∀ x ∈ xs, Block [show' x] (cond x)) :
    Block (xs.map show') (∀ x ∈ xs, cond x) := by
  rw [List.map_eq_flatMap]
  exact flatMap xs h

theorem elim {α : Type} {show' : α → List String} {cond : α → Prop} (x : Option α)
    (h : ∀ y ∈ x, Block (show' y) (cond y)) :
    Block (x.elim [] show') (∀ y ∈ x, cond y) := by
  cases x with
  | none => exact nil.congr (by simp)
  | some y => exact (h y rfl).congr (by simp)

end Block

/-! ## The blocks of the body -/

section Blocks

theorem findingLines_block (pf : ExecutionPathFinding) :
    Block (findingLines pf) (Intact (" ".intercalate (findingParts pf))) := by
  have hpath : PlainLabel "  - path_finding: " := .of_chars rfl (by decide)
  have hdetail : PlainLabel "    detail: " := .of_chars rfl (by decide)
  have hmessage : IsOneLine (jsTrim (String.ofList (replaceLineBreaks ' ' pf.message.toList))) :=
    jsTrim_isOneLine (replaceLineBreaks_isOneLine (by decide) _)
  exact ((Block.line hpath).cons (.safe hdetail hmessage)).congr (and_iff_left trivial)

theorem alternativeLines_block {alt : FailureAnalysisAlternative}
    (h : IsOneLine alt.rationale) : Block (alternativeLines alt) True := by
  have horigin : PlainLabel "  alternative_origin: " := .of_chars rfl (by decide)
  have hrationale : PlainLabel "    rationale: " := .of_chars rfl (by decide)
  exact ((Block.safe horigin (FailureOrigin.text_isOneLine _)).cons
    (.safe hrationale h)).congr (and_iff_left trivial)

theorem actionableFailureLine_block {a : ActionableFailure} (h : a.category.IsPlain) :
    Block [actionableFailureLine a] True := by
  have hlabel : PlainLabel "  actionable_failure: " := .of_chars rfl (by decide)
  have hcategory := Found.text_isOneLine ActionableFailureCategory.text_isOneLine h
  have hseverity := ActionableFailureSeverity.text_isOneLine a.severity
  have haction := recommendedActionText_isOneLine a.remediation
  have hsafe := automationSafeText_isOneLine a.remediation
  refine .safe hlabel ?_
  exact .append (.append (.append (.append (.append (.append (.append
    (.of_chars rfl (by decide)) hcategory) (.of_chars rfl (by decide))) hseverity)
    (.of_chars rfl (by decide))) haction) (.of_chars rfl (by decide))) hsafe

/-- The summary and the evidence of an analysis are put in as they are. -/
def IntactDiagnosis (d : FailureAnalysis) : Prop :=
  Intact d.summary ∧ ∀ ev ∈ d.evidence, Intact (" ".intercalate (evidenceParts ev))

theorem diagnosisLines_block {d : FailureAnalysis}
    (hplain : PlainAnalysis d.toFailureAnalysisBase)
    (hcategory : d.actionableFailure.category.IsPlain) :
    Block (diagnosisLines d) (IntactDiagnosis d) := by
  have hhead : PlainLabel "diagnosis:" := .of_chars rfl (by decide)
  have hsummary : PlainLabel "  summary: " := .of_chars rfl (by decide)
  have horigin : PlainLabel "  primary_origin: " := .of_chars rfl (by decide)
  have hconfidence : PlainLabel "  confidence: " := .of_chars rfl (by decide)
  have hevidence : PlainLabel "  - evidence: " := .of_chars rfl (by decide)
  have hfound := Found.text_isOneLine FailureOrigin.text_isOneLine hplain.origin
  have hband := FailureConfidence.text_isOneLine d.confidence
  have hfirst : Block _ _ :=
    (Block.bare hhead).cons ((@Block.line _ d.summary hsummary).cons
      ((Block.safe horigin hfound).cons ((Block.safe hconfidence hband).cons
        (actionableFailureLine_block hcategory))))
  have hitems : Block (d.evidence.map evidenceLine) _ :=
    .map d.evidence fun ev _ => .line hevidence
  have halternatives : Block ((d.alternativeHypotheses.getD []).flatMap alternativeLines) _ :=
    .flatMap _ fun alt halt => alternativeLines_block (hplain.rationales alt halt)
  refine ((hfirst.append hitems).append halternatives).congr ?_
  rw [IntactDiagnosis]
  tauto

theorem factLine_block {id value : String} (hid : IsOneLine id) :
    Block [factLine id value] (Intact value) := by
  have hlabel : PlainLabel "  - id=" := .of_chars rfl (by decide)
  refine (Block.line hlabel).congr ?_
  exact intact_append_left (hid.append (.of_chars rfl (by decide)))

/-- The facts and the unknowns are put in as they are. -/
def IntactExplanation (fe : FailureExplanationV1) : Prop :=
  (∀ kf ∈ fe.knownFacts, Intact kf.2) ∧ ∀ u ∈ fe.unknowns, Intact u.2

theorem explanationLines_block {fe : FailureExplanationV1}
    (h : IsOneLine fe.expected ∧ IsOneLine fe.observed ∧ IsOneLine fe.divergence) :
    Block (explanationLines fe) (IntactExplanation fe) := by
  have hhead : PlainLabel "failure_explanation:" := .of_chars rfl (by decide)
  have hexpected : PlainLabel "expected: " := .of_chars rfl (by decide)
  have hobserved : PlainLabel "observed: " := .of_chars rfl (by decide)
  have hdivergence : PlainLabel "divergence: " := .of_chars rfl (by decide)
  have hfacts : PlainLabel "known_facts:" := .of_chars rfl (by decide)
  have hunknowns : PlainLabel "unknowns:" := .of_chars rfl (by decide)
  have hfirst : Block _ _ :=
    (Block.bare hhead).cons ((Block.safe hexpected h.1).cons
      ((Block.safe hobserved h.2.1).cons ((Block.safe hdivergence h.2.2).cons
        (Block.bare hfacts))))
  have hknown : Block (fe.knownFacts.map fun kf => factLine kf.1.text kf.2) _ :=
    .map _ fun kf _ => factLine_block (FailureExplanationFactId.text_isOneLine kf.1)
  have hunknown : Block (fe.unknowns.map fun u => factLine u.1.text u.2) _ :=
    .map _ fun u _ => factLine_block (FailureExplanationUnknownId.text_isOneLine u.1)
  refine (((hfirst.append hknown).append (.bare hunknowns)).append hunknown).congr ?_
  rw [IntactExplanation]
  tauto

theorem correctnessLines_block {cd : CorrectnessDefinitionV1} (h : PlainDefinition cd) :
    Block (correctnessLines cd) True := by
  have hhead : PlainLabel "correctness_definition:" := .of_chars rfl (by decide)
  have hkind : PlainLabel "  enforcement_kind: " := .of_chars rfl (by decide)
  have hhold : PlainLabel "  must_always_hold: " := .of_chars rfl (by decide)
  have henforce : PlainLabel "  enforce_as:" := .of_chars rfl (by decide)
  have hitem : PlainLabel "    - " := .of_chars rfl (by decide)
  have hprojection : PlainLabel "  enforceable_projection: " := .of_chars rfl (by decide)
  have halignment : PlainLabel "  remediation_alignment: " := .of_chars rfl (by decide)
  have hremediation : IsOneLine ("recommended_action=" ++
      recommendedActionText cd.remediationAlignment ++ " automation_safe=" ++
      automationSafeText cd.remediationAlignment) :=
    .append (.append (.append (.of_chars rfl (by decide)) (recommendedActionText_isOneLine _))
      (.of_chars rfl (by decide))) (automationSafeText_isOneLine _)
  have hname := CorrectnessEnforcementKind.text_isOneLine cd.enforcementKind
  have hfirst : Block _ _ :=
    (Block.bare hhead).cons ((Block.safe hkind hname).cons
      ((Block.safe hhold h.1).cons (Block.bare henforce)))
  have hitems : Block (cd.enforceAs.map fun line => "    - " ++ line) _ :=
    .map _ fun line hline => .safe hitem (h.2 line hline)
  have hlast : Block _ _ :=
    (Block.safe hprojection (stringify_isOneLine cd.enforceableProjection)).cons
      (Block.safe halignment hremediation)
  exact ((hfirst.append hitems).append hlast).congr (by simp)

variable (tables : TextTables)

/-- What an issue says is only trimmed, its code and the phrase are put in as they are. -/
def IntactIssue (r : TruthIssue) : Prop :=
  Intact (humanMessage r.message) ∧ Intact r.code ∧
    Intact (userPhraseForReasonCode tables r.code)

theorem issueLines_block (r : TruthIssue) :
    Block (issueLines tables r) (IntactIssue tables r) := by
  have hdetail : PlainLabel "  - detail: " := .of_chars rfl (by decide)
  have hcategory : PlainLabel "    category: " := .of_chars rfl (by decide)
  have hcode : PlainLabel "    reference_code: " := .of_chars rfl (by decide)
  have hmeaning : PlainLabel "    user_meaning: " := .of_chars rfl (by decide)
  refine ((Block.line hdetail).cons
    ((Block.safe hcategory (FailureDiagnostic.text_isOneLine _)).cons
      ((Block.line hcode).cons (Block.line hmeaning)))).congr ?_
  rw [IntactIssue, true_and]

theorem runLevelLines_block (issues : List TruthIssue) :
    Block (runLevelLines tables issues) (∀ r ∈ issues, IntactIssue tables r) := by
  have hnone : PlainLabel "run_level: (none)" := .of_chars rfl (by decide)
  have hhead : PlainLabel "run_level:" := .of_chars rfl (by decide)
  rw [runLevelLines]
  split
  · rename_i hempty
    obtain rfl := List.eq_nil_of_length_eq_zero hempty
    exact (Block.bare hnone).congr (by simp)
  · exact ((Block.bare hhead).cons
      (.flatMap issues fun r _ => issueLines_block tables r)).congr (and_iff_right trivial)

def TruthEventSequence.issues : TruthEventSequence → List TruthIssue
  | normal => []
  | irregular issues => issues

theorem eventSequenceLines_block (sequence : TruthEventSequence) :
    Block (eventSequenceLines tables sequence)
      (∀ r ∈ sequence.issues, IntactIssue tables r) := by
  have hnormal : PlainLabel "event_sequence: normal" := .of_chars rfl (by decide)
  have hhead : PlainLabel "event_sequence: irregular" := .of_chars rfl (by decide)
  cases sequence with
  | normal => exact (Block.bare hnormal).congr (by simp [TruthEventSequence.issues])
  | irregular issues =>
      exact ((Block.bare hhead).cons
        (.flatMap issues fun r _ => issueLines_block tables r)).congr (and_iff_right trivial)

/-! ## The blocks of the steps -/

/-- What a reason says, its code and the phrase are put in as they are. -/
def IntactReason (r : Reason) : Prop :=
  Intact (reasonDetail r) ∧ Intact r.code ∧ Intact (userPhraseForReasonCode tables r.code)

theorem humanReasonLines_block {indent : String} (h : PlainLabel indent) (r : Reason) :
    Block (humanReasonLines tables indent r) (IntactReason tables r) := by
  have hdetail : IsOneLine "detail: " := .of_chars rfl (by decide)
  have hcode : IsOneLine "reference_code: " := .of_chars rfl (by decide)
  have hmeaning : IsOneLine "user_meaning: " := .of_chars rfl (by decide)
  refine ((Block.line h).cons ((Block.line h).cons (Block.line h))).congr ?_
  rw [IntactReason, intact_append_left hdetail, intact_append_left hcode,
    intact_append_left hmeaning]

theorem effectLines_block (eff : WorkflowTruthEffect) :
    Block (effectLines tables eff) (∀ r ∈ eff.reasons, IntactReason tables r) := by
  have hindent : PlainLabel "    " := .of_chars rfl (by decide)
  have hdeeper : PlainLabel "      " := .of_chars rfl (by decide)
  have hline : IsOneLine ("effect: id=" ++ sanitizeOneLineId eff.id ++ " result=" ++
      humanReportResultPhrase eff.outcomeLabel) :=
    .append (.append (.append (.of_chars rfl (by decide)) (sanitizeOneLineId_isOneLine _))
      (.of_chars rfl (by decide))) (humanReportResultPhrase_isOneLine _)
  exact ((Block.safe hindent hline).cons
    (.flatMap _ fun r _ => humanReasonLines_block tables hdeeper r)).congr (and_iff_right trivial)

def IntactStep (s : WorkflowTruthStep) : Prop :=
  (∀ r ∈ s.reasons, IntactReason tables r) ∧
    ∀ eff ∈ s.effects.getD [], ∀ r ∈ eff.reasons, IntactReason tables r

theorem declaredValue_isOneLine (toolId narrative params : String) :
    IsOneLine (formatBatchDeclaredStderrValue toolId narrative params) := by
  rw [formatBatchDeclaredStderrValue]
  exact formatOperationalMessage_isOneLine _

theorem verdictValue_isOneLine (label phrase : String) (category : Option String) :
    IsOneLine (formatBatchVerificationVerdictStderrValue label phrase category) := by
  rw [formatBatchVerificationVerdictStderrValue.eq_def]
  exact formatOperationalMessage_isOneLine _

theorem expectedValue_isOneLine (verifyTarget : Option String) :
    IsOneLine (formatBatchExpectedStderrValue verifyTarget) := by
  rw [formatBatchExpectedStderrValue.eq_def]
  split
  · exact .of_chars rfl (by decide)
  · split
    · exact .of_chars rfl (by decide)
    · exact formatOperationalMessage_isOneLine _

theorem stepDetailLines_block (phrase : OutcomeLabel → String) {s : WorkflowTruthStep}
    (h : IsOneLine s.observedStateSummary) :
    Block (stepDetailLines tables phrase s) (IntactStep tables s) := by
  have hindent : PlainLabel "    " := .of_chars rfl (by decide)
  have hdeclared : IsOneLine ("declared: " ++ formatBatchDeclaredStderrValue
      (sanitizeOneLineId s.toolId) s.intendedEffect s.observedExecution) :=
    .append (.of_chars rfl (by decide)) (declaredValue_isOneLine _ _ _)
  have hexpected : IsOneLine ("expected: " ++
      formatBatchExpectedStderrValue s.verifyTarget) :=
    .append (.of_chars rfl (by decide)) (expectedValue_isOneLine _)
  have hobserved : IsOneLine ("observed_database: " ++ s.observedStateSummary) :=
    .append (.of_chars rfl (by decide)) h
  have hverdict : IsOneLine ("verification_verdict: " ++
      formatBatchVerificationVerdictStderrValue s.outcomeLabel.text (phrase s.outcomeLabel)
        (if s.outcomeLabel = .verified then none
          else s.failureCategory.map FailureDiagnostic.text)) :=
    .append (.of_chars rfl (by decide)) (verdictValue_isOneLine _ _ _)
  have hobservations : IsOneLine ("observations: evaluated=" ++ seqText s.evaluatedOrdinal ++
      " of " ++ seqText s.repeatCount ++ " in_capture_order") :=
    .append (.append (.append (.append (.of_chars rfl (by decide)) (seqText_isOneLine _))
      (.of_chars rfl (by decide))) (seqText_isOneLine _)) (.of_chars rfl (by decide))
  have hfirst : Block _ _ :=
    (Block.safe hindent hdeclared).cons ((Block.safe hindent hexpected).cons
      ((Block.safe hindent hobserved).cons ((Block.safe hindent hverdict).cons
        (Block.safe hindent hobservations))))
  have hreasons : Block (s.reasons.flatMap (humanReasonLines tables "    ")) _ :=
    .flatMap _ fun r _ => humanReasonLines_block tables hindent r
  have heffects : Block ((s.effects.getD []).flatMap (effectLines tables)) _ :=
    .flatMap _ fun eff _ => effectLines_block tables eff
  refine ((hfirst.append hreasons).append heffects).congr ?_
  rw [IntactStep]
  tauto

end Blocks

/-! ## The report -/

variable (tables : TextTables)

/-- No text that the report takes as it is has a line break that a mark follows. -/
structure NoForgedLine (truth : WorkflowTruthReport) : Prop where
  findings : ∀ pf ∈ truth.executionPathFindings, Intact (" ".intercalate (findingParts pf))
  diagnosis : ∀ d ∈ truth.failureAnalysis, IntactDiagnosis d
  explanation : ∀ fe ∈ truth.failureExplanation, IntactExplanation fe
  runLevel : ∀ r ∈ truth.runLevelIssues, IntactIssue tables r
  eventSequence : ∀ r ∈ truth.eventSequence.issues, IntactIssue tables r
  steps : ∀ s ∈ truth.steps, IntactStep tables s

/-- The lines before the steps, without those of the trust and of the status. -/
theorem bodyLines_block {engine : WorkflowEngineResult} {truth : WorkflowTruthReport}
    (h : BuiltFrom engine truth) :
    Block (bodyLines tables truth)
      ((∀ pf ∈ truth.executionPathFindings, Intact (" ".intercalate (findingParts pf))) ∧
        (∀ d ∈ truth.failureAnalysis, IntactDiagnosis d) ∧
        (∀ fe ∈ truth.failureExplanation, IntactExplanation fe) ∧
        (∀ r ∈ truth.runLevelIssues, IntactIssue tables r) ∧
        ∀ r ∈ truth.eventSequence.issues, IntactIssue tables r) := by
  have hsteps : PlainLabel "steps:" := .of_chars rfl (by decide)
  have hfindings : Block (truth.executionPathFindings.flatMap findingLines) _ :=
    .flatMap _ fun pf _ => findingLines_block pf
  have hdiagnosis : Block (truth.failureAnalysis.elim [] diagnosisLines) _ :=
    .elim _ fun d hd => diagnosisLines_block (h.analysis d hd).1 (h.analysis d hd).2
  have hexplanation : Block (truth.failureExplanation.elim [] explanationLines) _ :=
    .elim _ fun fe hfe => explanationLines_block (h.explanation fe hfe)
  have hcorrectness : Block (truth.correctnessDefinition.elim [] correctnessLines) _ :=
    .elim _ fun cd hcd => correctnessLines_block (h.correctness cd hcd)
  refine ((((((hfindings.append hdiagnosis).append hexplanation).append hcorrectness).append
    (runLevelLines_block tables _)).append (eventSequenceLines_block tables _)).append
    (.bare hsteps)).congr ?_
  tauto

/-! ## What a reader finds -/

/-- The lines of a text that begin with a mark. -/
def linesMarked (mark : List Char) (text : String) : List (List Char) :=
  (text.toList.splitOn '\n').filter (mark <+: ·)

/-- One line tells the trust, one the status, and one each step. -/
structure ShowsStructure (engine : WorkflowEngineResult) (text : String) : Prop where
  trust : (linesMarked trustMark text).length = 1
  status : (linesMarked statusMark text).length = 1
  steps : (linesMarked stepMark text).length = engine.steps.length

/-- The line of a step in the report. -/
def stepHead (seq : ℕ) (toolId : String) : String :=
  "  - seq=" ++ (seqText seq ++ " tool=" ++ sanitizeOneLineId toolId)

/-- The marked lines tell the trust, the status and the steps of the result. -/
structure Recovers (engine : WorkflowEngineResult) (text : String) : Prop where
  trust : linesMarked trustMark text = [(trustLine (trustSummaryForEngine engine)).toList]
  status : linesMarked statusMark text = [(statusLine engine.status).toList]
  steps : linesMarked stepMark text =
    engine.steps.map fun s => (stepHead s.seq s.toolId).toList

theorem Recovers.showsStructure {engine : WorkflowEngineResult} {text : String}
    (h : Recovers engine text) : ShowsStructure engine text := by
  refine ⟨?_, ?_, ?_⟩
  · rw [h.trust, List.length_singleton]
  · rw [h.status, List.length_singleton]
  · rw [h.steps, List.length_map]

/-- The lines of the report as characters. -/
def reportChars (truth : WorkflowTruthReport) : List (List Char) :=
  (reportLines tables truth).map String.toList

theorem linesMarked_format (mark : List Char) (truth : WorkflowTruthReport) :
    linesMarked mark (formatWorkflowTruthReportStruct tables truth) =
      ((['\n'].intercalate (reportChars tables truth)).splitOn '\n').filter (mark <+: ·) := by
  rw [linesMarked, formatWorkflowTruthReportStruct, String.toList_intercalate]
  rfl

theorem filter_unmarked {lines : List String} (h : ∀ line ∈ lines, Unmarked line)
    {mark : List Char} (hmark : mark ∈ lineMarks) :
    lines.filter (fun line => mark <+: line.toList) = [] := by
  rw [List.filter_eq_nil_iff]
  intro line hline
  rw [decide_eq_true_eq]
  exact h line hline mark hmark

section Marked

variable {engine : WorkflowEngineResult} {truth : WorkflowTruthReport}
  (h : BuiltFrom engine truth)
include h

theorem stepLines_marked {mark : List Char} (hmark : mark ∈ lineMarks) :
    (truth.steps.flatMap (stepLines tables (stepPhraseMap truth))).filter
        (fun line => mark <+: line.toList) =
      (truth.steps.map stepLine).filter fun line => mark <+: line.toList := by
  have hobserved := h.observed
  generalize truth.steps = steps at hobserved ⊢
  induction steps with
  | nil => rfl
  | cons s steps ih =>
      obtain ⟨hs, hsteps⟩ := List.forall_mem_cons.mp hobserved
      have hdetails := filter_unmarked
        (stepDetailLines_block tables (stepPhraseMap truth) hs).unmarked hmark
      rw [List.flatMap_cons, List.filter_append, ih hsteps, stepLines, List.filter_cons,
        hdetails, List.map_cons, List.filter_cons]
      split
      · rfl
      · rfl

/-- The lines with a mark are among the four of the head and those of the steps. -/
theorem reportLines_marked {mark : List Char} (hmark : mark ∈ lineMarks) :
    (reportLines tables truth).filter (fun line => mark <+: line.toList) =
      [statusLine truth.workflowStatus, trustLine truth.trustSummary].filter
          (fun line => mark <+: line.toList) ++
        (truth.steps.map stepLine).filter fun line => mark <+: line.toList := by
  have hid : PlainLabel "workflow_id: " := .of_chars rfl (by decide)
  have hpath : PlainLabel "execution_path: " := .of_chars rfl (by decide)
  have hfirst := hid.unmarked (sanitizeOneLineId truth.workflowId) mark hmark
  have hfourth := hpath.unmarked truth.executionPathSummary mark hmark
  have hbody := filter_unmarked (bodyLines_block tables h).unmarked hmark
  have hhead : ["workflow_id: " ++ sanitizeOneLineId truth.workflowId,
        statusLine truth.workflowStatus, trustLine truth.trustSummary,
        "execution_path: " ++ truth.executionPathSummary].filter
          (fun line => mark <+: line.toList) =
      [statusLine truth.workflowStatus, trustLine truth.trustSummary].filter
          fun line => mark <+: line.toList := by
    simp only [List.filter_cons, decide_eq_true_eq, if_neg hfirst, if_neg hfourth,
      List.filter_nil]
  rw [reportLines, List.filter_append, List.filter_append, hbody, List.append_nil, hhead,
    stepLines_marked tables h hmark]

end Marked

/-! ## The marked lines -/

theorem trustLine_toList (trustSummary : String) :
    (trustLine trustSummary).toList = trustMark ++ trustSummary.toList := by
  rw [trustLine, String.toList_append]
  rfl

theorem statusLine_toList (status : WorkflowStatus) :
    (statusLine status).toList = statusMark ++ (WorkflowStatus.text status).toList := by
  have happend : (statusLine status).toList =
      "workflow_status: ".toList ++ (WorkflowStatus.text status).toList :=
    String.toList_append
  exact happend

theorem stepHead_toList (seq : ℕ) (toolId : String) :
    (stepHead seq toolId).toList =
      stepMark ++ (seqText seq ++ " tool=" ++ sanitizeOneLineId toolId).toList := by
  rw [stepHead, String.toList_append]
  rfl

/-- A line that begins with a mark begins with no other. -/
theorem mark_isPrefix_iff {mark mark' : List Char} (hmark : mark ∈ lineMarks)
    (hmark' : mark' ∈ lineMarks) (rest : List Char) :
    mark <+: mark' ++ rest ↔ mark = mark' := by
  have hapart : ∀ a ∈ lineMarks, ∀ b ∈ lineMarks, a ≠ b → ¬ a <+: b := by
    decide
  constructor
  · intro h
    by_contra hne
    exact not_prefix_append (hapart mark hmark mark' hmark' hne)
      (hapart mark' hmark' mark hmark (Ne.symm hne)) h
  · rintro rfl
    exact List.prefix_append mark rest

theorem trustLine_isOneLine (engine : WorkflowEngineResult) :
    IsOneLine (trustLine (trustSummaryForEngine engine)) :=
  .append (.of_chars rfl (by decide)) (trustSummaryForEngine_isOneLine engine)

theorem statusLine_isOneLine (status : WorkflowStatus) : IsOneLine (statusLine status) :=
  .append (.of_chars rfl (by decide)) (WorkflowStatus.text_isOneLine status)

theorem stepHead_isOneLine (seq : ℕ) (toolId : String) : IsOneLine (stepHead seq toolId) :=
  .append (.of_chars rfl (by decide)) (.append (.append (seqText_isOneLine seq)
    (.of_chars rfl (by decide))) (sanitizeOneLineId_isOneLine toolId))

theorem reportChars_ne_nil (truth : WorkflowTruthReport) : reportChars tables truth ≠ [] :=
  List.cons_ne_nil _ _

theorem filter_reportChars (truth : WorkflowTruthReport) (mark : List Char) :
    (reportChars tables truth).filter (mark <+: ·) =
      ((reportLines tables truth).filter fun line => mark <+: line.toList).map
        String.toList := by
  rw [reportChars, List.filter_map]
  rfl

/-- As many lines as were written have a mark exactly when none is broken before it. -/
theorem linesMarked_length_iff (truth : WorkflowTruthReport) {mark : List Char}
    (hmark : mark ∈ lineMarks) :
    (linesMarked mark (formatWorkflowTruthReportStruct tables truth)).length =
        ((reportLines tables truth).filter fun line => mark <+: line.toList).length ↔
      ∀ line ∈ reportLines tables truth, Unbroken '\n' mark line.toList := by
  have hcount := countP_lines_eq_iff (lineBreak_not_mem_mark mark hmark)
    (reportChars_ne_nil tables truth)
  rw [List.countP_eq_length_filter, List.countP_eq_length_filter, filter_reportChars tables truth,
    List.length_map, ← linesMarked_format] at hcount
  rw [hcount, reportChars, List.forall_mem_map]

section Report

variable {engine : WorkflowEngineResult} {truth : WorkflowTruthReport}
  (h : BuiltFrom engine truth)
include h

theorem map_stepLine :
    truth.steps.map stepLine = engine.steps.map fun s => stepHead s.seq s.toolId := by
  have hpairs := congrArg (List.map fun p : ℕ × String => stepHead p.1 p.2) h.steps
  rwa [List.map_map, List.map_map] at hpairs

/-- The marked lines of the report, by their mark. -/
theorem marked_lines {mark : List Char} (hmark : mark ∈ lineMarks) :
    (reportLines tables truth).filter (fun line => mark <+: line.toList) =
      if mark = trustMark then [trustLine (trustSummaryForEngine engine)]
      else if mark = statusMark then [statusLine engine.status]
      else engine.steps.map fun s => stepHead s.seq s.toolId := by
  have htrust : trustMark ∈ lineMarks := by decide
  have hstatus : statusMark ∈ lineMarks := by decide
  have hstep : stepMark ∈ lineMarks := by decide
  rw [reportLines_marked tables h hmark, map_stepLine h, h.trustSummary, h.workflowStatus]
  simp only [List.filter_cons, List.filter_nil, decide_eq_true_eq, trustLine_toList,
    statusLine_toList, mark_isPrefix_iff hmark htrust, mark_isPrefix_iff hmark hstatus,
    List.filter_map, Function.comp_def, stepHead_toList, mark_isPrefix_iff hmark hstep]
  simp only [lineMarks, List.mem_cons, List.not_mem_nil, or_false] at hmark
  rcases hmark with rfl | rfl | rfl
  · simp [trustMark, statusMark, stepMark]
  · simp [trustMark, statusMark, stepMark]
  · simp [trustMark, statusMark, stepMark]

theorem marked_isOneLine {mark : List Char} (hmark : mark ∈ lineMarks) :
    ∀ line ∈ reportLines tables truth, mark <+: line.toList → IsOneLine line := by
  intro line hline hprefix
  have hmem : line ∈ (reportLines tables truth).filter fun line => mark <+: line.toList :=
    List.mem_filter.mpr ⟨hline, decide_eq_true hprefix⟩
  rw [marked_lines tables h hmark] at hmem
  split_ifs at hmem
  · rw [List.mem_singleton.mp hmem]
    exact trustLine_isOneLine engine
  · rw [List.mem_singleton.mp hmem]
    exact statusLine_isOneLine _
  · obtain ⟨s, -, rfl⟩ := List.mem_map.mp hmem
    exact stepHead_isOneLine s.seq s.toolId

/-- Nothing is forged exactly when no line is broken before a mark. -/
theorem intact_lines_iff :
    (∀ line ∈ reportLines tables truth, Intact line) ↔ NoForgedLine tables truth := by
  have hid : IsOneLine ("workflow_id: " ++ sanitizeOneLineId truth.workflowId) :=
    .append (.of_chars rfl (by decide)) (sanitizeOneLineId_isOneLine _)
  have hstatus := statusLine_isOneLine truth.workflowStatus
  have htrust : IsOneLine (trustLine truth.trustSummary) := by
    rw [h.trustSummary]
    exact trustLine_isOneLine engine
  have hpath : IsOneLine ("execution_path: " ++ truth.executionPathSummary) :=
    .append (.of_chars rfl (by decide)) h.summary
  have hsteps : (∀ line ∈ truth.steps.flatMap (stepLines tables (stepPhraseMap truth)),
      Intact line) ↔ ∀ s ∈ truth.steps, IntactStep tables s := by
    rw [List.forall_mem_flatMap]
    apply forall₂_congr
    intro s hs
    have hhead := (stepHead_isOneLine s.seq s.toolId).intact
    rw [stepLines, List.forall_mem_cons,
      (stepDetailLines_block tables (stepPhraseMap truth) (h.observed s hs)).intact_iff]
    exact and_iff_right hhead
  rw [reportLines, List.forall_mem_append, List.forall_mem_append,
    (bodyLines_block tables h).intact_iff, hsteps]
  simp only [List.forall_mem_cons, hid.intact, hstatus.intact, htrust.intact, hpath.intact,
    List.not_mem_nil, false_implies, implies_true, and_self, true_and]
  constructor
  · rintro ⟨⟨hfindings, hdiagnosis, hexplanation, hrun, hsequence⟩, hsteps⟩
    exact ⟨hfindings, hdiagnosis, hexplanation, hrun, hsequence, hsteps⟩
  · rintro ⟨hfindings, hdiagnosis, hexplanation, hrun, hsequence, hsteps⟩
    exact ⟨⟨hfindings, hdiagnosis, hexplanation, hrun, hsequence⟩, hsteps⟩

end Report

/-! ## The structure of a report -/

section Structure

variable {engine : WorkflowEngineResult} {truth : WorkflowTruthReport}
  (h : BuiltFrom engine truth)
include h

theorem recovers_of_noForgedLine (hforged : NoForgedLine tables truth) :
    Recovers engine (formatWorkflowTruthReportStruct tables truth) := by
  have hintact := (intact_lines_iff tables h).mpr hforged
  have hfound {mark : List Char} (hmark : mark ∈ lineMarks) :
      linesMarked mark (formatWorkflowTruthReportStruct tables truth) =
        ((reportLines tables truth).filter fun line => mark <+: line.toList).map
          String.toList := by
    rw [linesMarked_format, filter_lines_eq (lineBreak_not_mem_mark mark hmark)
      (reportChars_ne_nil tables truth), filter_reportChars]
    · exact List.forall_mem_map.mpr fun line hline => hintact line hline mark hmark
    · exact List.forall_mem_map.mpr (marked_isOneLine tables h hmark)
  refine ⟨?_, ?_, ?_⟩
  · rw [hfound (by decide), marked_lines tables h (by decide), if_pos rfl]
    rfl
  · rw [hfound (by decide), marked_lines tables h (by decide), if_neg (by decide),
      if_pos rfl]
    rfl
  · rw [hfound (by decide), marked_lines tables h (by decide), if_neg (by decide),
      if_neg (by decide), List.map_map]
    rfl

theorem noForgedLine_of_showsStructure
    (hshows : ShowsStructure engine (formatWorkflowTruthReportStruct tables truth)) :
    NoForgedLine tables truth := by
  have hmarked {mark : List Char} (hmark : mark ∈ lineMarks)
      (hlength : (linesMarked mark (formatWorkflowTruthReportStruct tables truth)).length =
        ((reportLines tables truth).filter fun line => mark <+: line.toList).length) :
      ∀ line ∈ reportLines tables truth, Unbroken '\n' mark line.toList :=
    (linesMarked_length_iff tables truth hmark).mp hlength
  have htrust := @hmarked trustMark (by decide) (by
    rw [hshows.trust, marked_lines tables h (by decide), if_pos rfl, List.length_singleton])
  have hstatus := @hmarked statusMark (by decide) (by
    rw [hshows.status, marked_lines tables h (by decide), if_neg (by decide), if_pos rfl,
      List.length_singleton])
  have hstep := @hmarked stepMark (by decide) (by
    rw [hshows.steps, marked_lines tables h (by decide), if_neg (by decide),
      if_neg (by decide), List.length_map])
  rw [← intact_lines_iff tables h]
  intro line hline mark hmark
  simp only [lineMarks, List.mem_cons, List.not_mem_nil, or_false] at hmark
  rcases hmark with rfl | rfl | rfl
  · exact htrust line hline
  · exact hstatus line hline
  · exact hstep line hline

end Structure

/-- The id of a tool with the line of a trusted run after it. -/
def forgedToolId : String := "crm\ntrust: TRUSTED"

/-- The reason of a step whose tool the registry does not have. -/
def unknownTool (toolId : String) : Reason :=
  { code := "UNKNOWN_TOOL", message := "Unknown toolId: " ++ toolId }

def unknownToolStep (toolId : String) : StepOutcome where
  seq := 0
  toolId
  releaseCritical := false
  intendedEffect := "Unknown tool: " ++ toolId
  observedExecution := "\x7b\x7d"
  verificationRequest := none
  status := .incompleteVerification
  reasons := [unknownTool toolId]
  evidenceSummary := []
  repeatObservationCount := 1
  evaluatedObservationOrdinal := 1
  failureDiagnostic := some .verificationSetup
  langgraphCheckpointKey := none

def unknownToolRun (toolId : String) : WorkflowEngineResult where
  workflowId := "wf_1"
  status := .incomplete
  runLevelReasons := []
  steps := [unknownToolStep toolId]
  verificationPolicy := defaultVerificationPolicy
  eventSequenceIntegrity := .normal
  verificationRunContext := emptyContext

theorem unknownTool_not_intact :
    ¬ Intact (reasonDetail (copyReason (unknownTool forgedToolId))) := by
  decide +kernel

end AgentSkeptic.Report
