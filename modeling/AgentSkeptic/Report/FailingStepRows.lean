import AgentSkeptic.Report.RemediationItems
import AgentSkeptic.Report.ReportLines

/-!
# The failing steps of a build

`extractFailingStepRowsFromCertificate` of the check action: from the words of a
certificate's remediation items it recovers the step or effect that each is about.

`failingStepRows_decode_iff` says when the rows are those of the items: a tool id must not
close the parentheses that it is written in, an effect id must be on one line, and the
number of a step must be written in digits.
-/

namespace AgentSkeptic.Report

open AgentSkeptic.Support AgentSkeptic.Engine AgentSkeptic.Events

/-! ## The certificate -/

/-- What the action reads of `evidenceCompleteness`. -/
structure EvidenceCompleteness where
  unverifiedClaims : List String
  remediationItems : Option (List RemediationItem)

def unverifiedClaim (step : WorkflowTruthStep) : String :=
  redactEvidenceString (step.toolId ++ ":seq=" ++ seqText step.seq ++ ": " ++
    (step.reasons.head?.map Reason.message).getD step.outcomeLabel.text) 160

def capList (lines : List String) (maxLines eachMax : ℕ) : List String :=
  (lines.take maxLines).map fun line => redactEvidenceString line eachMax

def buildEvidenceCompleteness (tables : TextTables) (status : WorkflowStatus)
    (truth : WorkflowTruthReport) : EvidenceCompleteness where
  unverifiedClaims := capList
    ((truth.steps.filter (·.outcomeLabel ≠ .verified)).map unverifiedClaim) 24 160
  remediationItems :=
    if status = .complete ∧ truth.failureAnalysis.isNone then none
    else some (buildWorkflowRemediationItems truth tables status)

/-! ## The action -/

def maxTableRows : ℕ := 32

structure FailingStepRow where
  scope : EvidenceScope
  seq : String
  toolId : String
  target : String
  reasonCodes : List String
  actionText : String

inductive RowSource where
  | remediationItems | unverifiedClaims | none
  deriving DecidableEq

namespace FailedCheck

open Regex

def literal (text : String) : Regex Char := word (fun a b => decide (a = b)) text.toList

/-- `\d+`. -/
def digits : Regex Char := plus (char Char.isDigit)

/-- The characters of `.`. -/
def isLineChar (c : Char) : Bool :=
  c != '\n' && c != '\r' && c != Char.ofNat 0x2028 && c != Char.ofNat 0x2029

def isInParens (c : Char) : Bool := c != ')'

/-- `/^Failed check: step (\d+)(?:\s*\(([^)]+)\))?/`. -/
def stepFailedCheckRe : Regex Char :=
  inOrder [atStart, literal "Failed check: step ", group 1 digits,
    opt (inOrder [many (char isJsWhitespace), literal "(", group 2 (plus (char isInParens)),
      literal ")"])]

/-- `/^Failed check: effect (.+) on step (\d+)/`. -/
def effectFailedCheckRe : Regex Char :=
  inOrder [atStart, literal "Failed check: effect ", group 1 (plus (char isLineChar)),
    literal " on step ", group 2 digits]

/-- `/^([^:]*):seq=(\d+):\s*(.*)$/`. -/
def unverifiedClaimRe : Regex Char :=
  inOrder [atStart, group 1 (many (char fun c => c != ':')), literal ":seq=",
    group 2 digits, literal ":", many (char isJsWhitespace),
    group 3 (many (char isLineChar)), atEnd]

end FailedCheck

open FailedCheck

/-- The text of a group, `""` where it has none. -/
def groupText (m : Regex.Match Char) (n : ℕ) : String := String.ofList ((m.group n).getD [])

def stepRow (item : RemediationItem) : FailingStepRow :=
  let row : FailingStepRow :=
    { scope := .step
      seq := "?"
      toolId := ""
      target := ""
      reasonCodes := item.reasonCodes.take 4
      actionText := item.actionText }
  match stepFailedCheckRe.exec item.failedCheck.toList with
  | some m => { row with seq := groupText m 1, toolId := groupText m 2 }
  | none => row

def effectRow (item : RemediationItem) : FailingStepRow :=
  let row : FailingStepRow :=
    { scope := .effect
      seq := "?"
      toolId := ""
      target := ""
      reasonCodes := item.reasonCodes.take 4
      actionText := item.actionText }
  match effectFailedCheckRe.exec item.failedCheck.toList with
  | some m => { row with seq := groupText m 2, target := groupText m 1 }
  | none => row

def itemRow (item : RemediationItem) : Option FailingStepRow :=
  match item.scope with
  | .step => some (stepRow item)
  | .effect => some (effectRow item)
  | _ => none

def claimRow (claim : String) : Option FailingStepRow :=
  (unverifiedClaimRe.exec claim.toList).map fun m =>
    { scope := .step
      seq := groupText m 2
      toolId := groupText m 1
      target := ""
      reasonCodes := []
      actionText := groupText m 3 }

def extractFailingStepRows (ec : EvidenceCompleteness) : List FailingStepRow × RowSource :=
  match (ec.remediationItems.getD []).filterMap itemRow with
  | row :: rows => ((row :: rows).take maxTableRows, .remediationItems)
  | [] =>
      match (ec.unverifiedClaims.filterMap claimRow).take maxTableRows with
      | row :: rows => (row :: rows, .unverifiedClaims)
      | [] => ([], .none)

/-! ## What the rows should be -/

/-- The subjects of the items of a certificate. -/
def reportedSubjects (truth : WorkflowTruthReport) : List Subject :=
  (workflowSubjects truth).take maxRemediationItems

def Subject.isScoped : Subject → Bool
  | .step _ | .effect _ _ => true
  | _ => false

/-- The row is that of the step or of the effect. -/
def Shows : Subject → FailingStepRow → Prop
  | .step s, row => row.scope = .step ∧ row.seq = seqText s.seq ∧ row.toolId = s.toolId
  | .effect s e, row => row.scope = .effect ∧ row.seq = seqText s.seq ∧ row.target = e.id
  | _, _ => False

/-- The steps and effects that have an item. -/
def scopedSubjects (truth : WorkflowTruthReport) : List Subject :=
  (reportedSubjects truth).filter Subject.isScoped

/-- The rows are those of the items with a step or an effect, in order, as far as the table
goes. -/
def RowsDecode (tables : TextTables) (status : WorkflowStatus) (truth : WorkflowTruthReport) :
    Prop :=
  scopedSubjects truth ≠ [] → List.Forall₂ Shows ((scopedSubjects truth).take maxTableRows)
    (extractFailingStepRows (buildEvidenceCompleteness tables status truth)).1

/-- What an expression can read back of a subject. -/
def Subject.Readable : Subject → Prop
  | .step s => s.seq < 10 ^ 21 ∧ ')' ∉ s.toolId.toList
  | .effect s e => s.seq < 10 ^ 21 ∧ e.id ≠ "" ∧ ∀ c ∈ e.id.toList, isLineChar c = true
  | _ => True

/-- Redaction leaves the check of each item as it is. -/
def RedactionLeaves (truth : WorkflowTruthReport) : Prop :=
  ∀ subject ∈ reportedSubjects truth,
    redactEvidenceString (itemOptions truth subject).failedCheck 256 =
      (itemOptions truth subject).failedCheck

/-! ## Numbers in digits -/

theorem toList_seqText (n : ℕ) : (seqText n).toList = JsNumber.intText n := by
  have hneg : ¬(n : ℤ) < 0 := by omega
  simp [seqText, JsNumber.toText, hneg]

/-- The number of a step is written in digits up to 21 places. -/
theorem seqText_digits_iff (n : ℕ) :
    (∀ c ∈ (seqText n).toList, c.isDigit = true) ↔ n < 10 ^ 21 := by
  have hlength : (JsNumber.decimalDigits n).length ≤ 21 ↔ n < 10 ^ 21 :=
    Nat.length_toDigits_le_iff (by norm_num) (by norm_num)
  rw [toList_seqText, JsNumber.intText, ← hlength]
  split_ifs with hshort
  · refine ⟨fun _ => hshort, fun _ c hc => ?_⟩
    exact Nat.isDigit_of_mem_toDigits (by decide) (by decide) hc
  · refine ⟨fun hall => ?_, fun hle => absurd hle hshort⟩
    have hletter := hall 'e' (by simp [JsNumber.scientific])
    exact absurd hletter (by decide)

theorem seqText_ne_nil (n : ℕ) : (seqText n).toList ≠ [] :=
  JsNumber.stringify_ne_nil (.int n)

theorem seqText_ne_unknown (n : ℕ) : "?" ≠ seqText n := by
  intro heq
  have hmem : '?' ∈ (seqText n).toList := by
    rw [← heq]
    decide
  rw [toList_seqText] at hmem
  exact absurd (isNumberChar_intText n '?' hmem) (by decide)

/-! ## Steps -/

/-- What stands after the number of a step. -/
def toolPart (toolId : String) : List Char :=
  if toolId = "" then [] else ' ' :: '(' :: (toolId.toList ++ [')'])

theorem toList_toolPart (toolId : String) :
    (if toolId = "" then "" else " (" ++ (toolId ++ ")")).toList = toolPart toolId := by
  rw [toolPart]
  split_ifs with hempty
  · rfl
  · simp only [String.toList_append]
    rfl

theorem toList_stepFailedCheck (s : WorkflowTruthStep) : (stepFailedCheck s).toList =
    "Failed check: step ".toList ++ ((seqText s.seq).toList ++ toolPart s.toolId) := by
  have htext : stepFailedCheck s = "Failed check: step " ++ (seqText s.seq ++
      if s.toolId = "" then "" else " (" ++ (s.toolId ++ ")")) := rfl
  rw [htext, String.toList_append, String.toList_append, toList_toolPart]

/-- The expression of the part in parentheses. -/
def toolRe : Regex Char :=
  Regex.inOrder [.many (.char isJsWhitespace), literal "(",
    .group 2 (.plus (.char isInParens)), literal ")"]

theorem toolRe_nil {s : Cursor Char} (hrest : s.rest = []) : toolRe.ends s = [] := by
  have hparen : (literal "(").ends s = [] := by
    simp [literal, Regex.word, Regex.ends_seq, Regex.ends_char_eq, hrest]
  change ((Regex.many (.char isJsWhitespace)).ends s).flatMap
    (fun t => ((literal "(").ends t).flatMap _) = []
  rw [Regex.ends_many_stop (by simp [hrest]), List.flatMap_singleton, hparen]
  rfl

theorem leaves_toolRe {tool : List Char} {s : Cursor Char} (hne : tool ≠ [])
    (htool : ∀ c ∈ tool, isInParens c = true)
    (hrest : s.rest = ' ' :: '(' :: (tool ++ [')'])) :
    Regex.Leaves toolRe s [] ((2, tool) :: s.groups) := by
  have hspace := @Regex.leaves_many _ isJsWhitespace [' '] ('(' :: (tool ++ [')'])) s hrest
    (List.forall_mem_singleton.mpr (by decide)) (by
      intro c hc
      rw [← Option.some.inj hc]
      decide)
  have hclosing : ∀ c ∈ [')'].head?, isInParens c = false := by
    intro c hc
    rw [← Option.some.inj hc]
    decide
  refine hspace.seq fun t ht hgroups => ?_
  refine (@Regex.leaves_word _ _ "(".toList _ t ht).seq fun u hu hgroups' => ?_
  refine (Regex.leaves_group_plus hu hne htool hclosing 2).seq fun v hv hgroups'' => ?_
  have hclose := @Regex.leaves_word _ _ ")".toList [] v hv
  rwa [hgroups'', hgroups', hgroups] at hclose

theorem toolPart_not_digit (toolId : String) : ∀ c ∈ (toolPart toolId).head?,
    c.isDigit = false := by
  intro c hc
  rw [toolPart] at hc
  split_ifs at hc
  · exact absurd hc nofun
  · rw [← Option.some.inj hc]
    rfl

/-- The match of the check of a step that can be read back. -/
theorem exec_stepFailedCheck {s : WorkflowTruthStep} (hseq : s.seq < 10 ^ 21)
    (htool : ')' ∉ s.toolId.toList) :
    ∃ m, stepFailedCheckRe.exec (stepFailedCheck s).toList = some m ∧
      groupText m 1 = seqText s.seq ∧ groupText m 2 = s.toolId := by
  have hdigits := (seqText_digits_iff s.seq).mpr hseq
  have hleaves : Regex.Leaves stepFailedCheckRe ⟨[], (stepFailedCheck s).toList, []⟩ []
      ((if s.toolId = "" then [] else [(2, s.toolId.toList)]) ++
        [(1, (seqText s.seq).toList)]) := by
    refine (Regex.leaves_atStart rfl).seq fun t ht hgroups => ?_
    rw [toList_stepFailedCheck] at ht
    refine (Regex.leaves_word ht).seq fun u hu hgroups' => ?_
    refine (Regex.leaves_group_plus hu (seqText_ne_nil s.seq) hdigits
      (toolPart_not_digit s.toolId) 1).seq fun v hv hgroups'' => ?_
    rw [hgroups', hgroups] at hgroups''
    rw [toolPart] at hv
    split_ifs at hv ⊢ with hempty
    · have hnone := (Regex.leaves_empty v).alt_right (toolRe_nil hv)
      rwa [hv, hgroups''] at hnone
    · have hne : s.toolId.toList ≠ [] := fun hnil => hempty (String.toList_eq_nil_iff.mp hnil)
      have hparens : ∀ c ∈ s.toolId.toList, isInParens c = true := by
        intro c hc
        exact bne_iff_ne.mpr fun heq => htool (heq ▸ hc)
      have hsome : Regex.Leaves (.opt toolRe) v [] ((2, s.toolId.toList) :: v.groups) :=
        (leaves_toolRe hne hparens hv).alt_left
      rwa [hgroups''] at hsome
  obtain ⟨m, hm, hgroups⟩ := Regex.exec_of_leaves hleaves
  refine ⟨m, hm, ?_, ?_⟩
  · rw [groupText, Regex.Match.group, Cursor.group, hgroups]
    split_ifs
    · exact String.ofList_toList
    · exact String.ofList_toList
  · rw [groupText, Regex.Match.group, Cursor.group, hgroups]
    split_ifs with hempty
    · exact hempty.symm
    · exact String.ofList_toList

/-- What an expression keeps of any text: in each group some characters of a kind. -/
def KeptOf (first second : Char → Bool) (n : ℕ) (v : List Char) : Prop :=
  v ≠ [] ∧ (n = 1 → ∀ c ∈ v, first c = true) ∧ (n = 2 → ∀ c ∈ v, second c = true)

theorem stepFailedCheckRe_groupsRead :
    stepFailedCheckRe.GroupsRead (KeptOf Char.isDigit isInParens) := by
  refine ⟨trivial, Regex.groupsRead_word _ _ _, Regex.groupsRead_plus fun v hne hv => ?_,
    ⟨trivial, Regex.groupsRead_word _ _ _, Regex.groupsRead_plus fun v hne hv => ?_,
      Regex.groupsRead_word _ _ _⟩, trivial⟩
  · exact ⟨hne, fun _ => hv, by simp⟩
  · exact ⟨hne, by simp, fun _ => hv⟩

/-- The text of a group that is not empty is what the group kept. -/
theorem groupText_kept {first second : Char → Bool} {re : Regex Char}
    (hre : re.GroupsRead (KeptOf first second)) {text : List Char} {m : Regex.Match Char}
    (hm : re.exec text = some m) {n : ℕ} (hne : groupText m n ≠ "") :
    KeptOf first second n (groupText m n).toList := by
  rw [groupText] at hne ⊢
  cases hgroup : m.group n with
  | none =>
      rw [hgroup] at hne
      exact absurd rfl hne
  | some v =>
      rw [Option.getD_some, String.toList_ofList]
      exact Regex.group_read hre hm hgroup

/-- The number of a step that was kept is written in digits. -/
theorem seq_lt_of_kept {first second : Char → Bool} {re : Regex Char}
    (hre : re.GroupsRead (KeptOf first second)) {text : List Char} {m : Regex.Match Char}
    (hm : re.exec text = some m) {n seq : ℕ} (hseq : groupText m n = seqText seq)
    (hdigits : KeptOf first second n (seqText seq).toList →
      ∀ c ∈ (seqText seq).toList, c.isDigit = true) : seq < 10 ^ 21 := by
  have hne : groupText m n ≠ "" := by
    rw [hseq]
    exact fun hempty => seqText_ne_nil seq (String.toList_eq_nil_iff.mpr hempty)
  have hkept := groupText_kept hre hm hne
  rw [hseq] at hkept
  exact (seqText_digits_iff seq).mp (hdigits hkept)

/-- A row is that of the step exactly where the step can be read back. -/
theorem stepRow_shows_iff {s : WorkflowTruthStep} {item : RemediationItem}
    (hcheck : item.failedCheck = stepFailedCheck s) :
    Shows (.step s) (stepRow item) ↔ (Subject.step s).Readable := by
  constructor
  · rintro ⟨-, hseq, htool⟩
    rw [stepRow, hcheck] at hseq htool
    cases hm : stepFailedCheckRe.exec (stepFailedCheck s).toList with
    | none =>
        simp only [hm] at hseq
        exact absurd hseq (seqText_ne_unknown s.seq)
    | some m =>
        simp only [hm] at hseq htool
        refine ⟨seq_lt_of_kept stepFailedCheckRe_groupsRead hm hseq fun h => h.2.1 rfl, ?_⟩
        intro hclose
        have hne : groupText m 2 ≠ "" := by
          rw [htool]
          rintro hempty
          rw [hempty] at hclose
          exact absurd hclose List.not_mem_nil
        have hkept := groupText_kept stepFailedCheckRe_groupsRead hm hne
        rw [htool] at hkept
        exact absurd (hkept.2.2 rfl _ hclose) (by decide)
  · rintro ⟨hseq, htool⟩
    obtain ⟨m, hm, hfirst, hsecond⟩ := exec_stepFailedCheck hseq htool
    rw [stepRow, hcheck]
    simp only [hm]
    exact ⟨rfl, hfirst, hsecond⟩

/-! ## Effects -/

theorem toList_effectFailedCheck (s : WorkflowTruthStep) (e : WorkflowTruthEffect) :
    (effectFailedCheck s e).toList = "Failed check: effect ".toList ++
      (e.id.toList ++ (" on step ".toList ++ (seqText s.seq).toList)) := by
  have htext : effectFailedCheck s e =
      "Failed check: effect " ++ (e.id ++ (" on step " ++ seqText s.seq)) := rfl
  rw [htext, String.toList_append, String.toList_append, String.toList_append]

/-- The words after the id stand nowhere further right: each has a blank, and digits have
none. -/
theorem onStep_not_later {digits v z : List Char} (hdigits : ∀ c ∈ digits, c.isDigit = true)
    (hv : v ≠ []) (hvz : " on step ".toList ++ digits = v ++ z) :
    ¬ " on step ".toList <+: z := by
  rintro ⟨y, rfl⟩
  obtain ⟨c, v, rfl⟩ := List.exists_cons_of_ne_nil hv
  have hc : c = ' ' := (List.cons.inj hvz).1.symm
  have hcount := congrArg (List.count ' ') hvz
  have hblank : " on step ".toList.count ' ' = 3 := by decide
  have hnone : digits.count ' ' = 0 := by
    apply List.count_eq_zero_of_not_mem
    intro hmem
    exact absurd (hdigits _ hmem) (by decide)
  rw [List.count_append, List.count_append, List.count_append, hblank, hnone, hc,
    List.count_cons_self] at hcount
  omega

theorem exec_effectFailedCheck {s : WorkflowTruthStep} {e : WorkflowTruthEffect}
    (hseq : s.seq < 10 ^ 21) (hid : e.id ≠ "")
    (hline : ∀ c ∈ e.id.toList, isLineChar c = true) :
    ∃ m, effectFailedCheckRe.exec (effectFailedCheck s e).toList = some m ∧
      groupText m 1 = e.id ∧ groupText m 2 = seqText s.seq := by
  have hdigits := (seqText_digits_iff s.seq).mpr hseq
  have hne : e.id.toList ≠ [] := fun hnil => hid (String.toList_eq_nil_iff.mp hnil)
  have hleaves : Regex.Leaves effectFailedCheckRe ⟨[], (effectFailedCheck s e).toList, []⟩ []
      [(2, (seqText s.seq).toList), (1, e.id.toList)] := by
    refine (Regex.leaves_atStart rfl).seq fun t ht hstart => ?_
    rw [toList_effectFailedCheck] at ht
    refine (Regex.leaves_word ht).seq fun u hu hmark => ?_
    refine Regex.leaves_group_plus_seq hu hne hline (fun v hv hkept => ?_)
      (fun v z hv hvz t ht => ?_)
    · refine (Regex.leaves_word hv).seq fun w hw honStep => ?_
      have hrest : w.rest = (seqText s.seq).toList ++ [] := by rw [hw, List.append_nil]
      have hnumber := Regex.leaves_group_plus hrest (seqText_ne_nil s.seq) hdigits
        (by simp) 2
      rwa [honStep, hkept, hmark, hstart] at hnumber
    · have hword : (literal " on step ").ends t = [] := by
        apply Regex.ends_word_eq_nil
        rw [ht]
        exact onStep_not_later hdigits hv hvz
      change ((literal " on step ").ends t).flatMap _ = []
      rw [hword]
      rfl
  obtain ⟨m, hm, hgroups⟩ := Regex.exec_of_leaves hleaves
  refine ⟨m, hm, ?_, ?_⟩
  · rw [groupText, Regex.Match.group, Cursor.group, hgroups]
    exact String.ofList_toList
  · rw [groupText, Regex.Match.group, Cursor.group, hgroups]
    exact String.ofList_toList

theorem effectFailedCheckRe_groupsRead :
    effectFailedCheckRe.GroupsRead (KeptOf isLineChar Char.isDigit) := by
  refine ⟨trivial, Regex.groupsRead_word _ _ _, Regex.groupsRead_plus fun v hne hv => ?_,
    Regex.groupsRead_word _ _ _, Regex.groupsRead_plus fun v hne hv => ?_⟩
  · exact ⟨hne, fun _ => hv, by simp⟩
  · exact ⟨hne, by simp, fun _ => hv⟩

/-- A row is that of the effect exactly where the effect can be read back. -/
theorem effectRow_shows_iff {s : WorkflowTruthStep} {e : WorkflowTruthEffect}
    {item : RemediationItem} (hcheck : item.failedCheck = effectFailedCheck s e) :
    Shows (.effect s e) (effectRow item) ↔ (Subject.effect s e).Readable := by
  constructor
  · rintro ⟨-, hseq, htarget⟩
    rw [effectRow, hcheck] at hseq htarget
    cases hm : effectFailedCheckRe.exec (effectFailedCheck s e).toList with
    | none =>
        simp only [hm] at hseq
        exact absurd hseq (seqText_ne_unknown s.seq)
    | some m =>
        simp only [hm] at hseq htarget
        have hsets : effectFailedCheckRe.Sets 1 := .inr (.inr (.inl rfl))
        obtain ⟨v, hv⟩ := Regex.exists_group hsets hm
        have hkept := Regex.group_read effectFailedCheckRe_groupsRead hm hv
        have hid : e.id.toList = v := by
          rw [← htarget, groupText, hv, Option.getD_some, String.toList_ofList]
        refine ⟨seq_lt_of_kept effectFailedCheckRe_groupsRead hm hseq fun h => h.2.2 rfl,
          ?_, ?_⟩
        · rintro hempty
          rw [hempty] at hid
          exact hkept.1 hid.symm
        · rw [hid]
          exact hkept.2.1 rfl
  · rintro ⟨hseq, hid, hline⟩
    obtain ⟨m, hm, hfirst, hsecond⟩ := exec_effectFailedCheck hseq hid hline
    rw [effectRow, hcheck]
    simp only [hm]
    exact ⟨rfl, hsecond, hfirst⟩

/-! ## The rows -/

/-- The row that an item of the subject gives. -/
def subjectRow (tables : TextTables) (truth : WorkflowTruthReport) (subject : Subject) :
    Option FailingStepRow :=
  itemRow (makeRemediationItem tables (itemOptions truth subject))

theorem subjectRow_isSome (tables : TextTables) (truth : WorkflowTruthReport)
    (subject : Subject) : (subjectRow tables truth subject).isSome = subject.isScoped := by
  cases subject with
  | runLevel => rfl
  | eventSequence issues => rfl
  | runContext ev => rfl
  | step s => rfl
  | effect s e => rfl

theorem failedCheck_make (tables : TextTables) (opts : ItemOptions) :
    (makeRemediationItem tables opts).failedCheck =
      redactEvidenceString opts.failedCheck 256 := by
  simp only [makeRemediationItem]

theorem subjectRow_step (tables : TextTables) (truth : WorkflowTruthReport)
    (s : WorkflowTruthStep) : subjectRow tables truth (.step s) =
      some (stepRow (makeRemediationItem tables (itemOptions truth (.step s)))) := by
  rfl

theorem subjectRow_effect (tables : TextTables) (truth : WorkflowTruthReport)
    (s : WorkflowTruthStep) (e : WorkflowTruthEffect) :
    subjectRow tables truth (.effect s e) =
      some (effectRow (makeRemediationItem tables (itemOptions truth (.effect s e)))) := by
  rfl

/-- The row of a subject shows it exactly where the subject can be read back. -/
theorem subjectRow_shows_iff {tables : TextTables} {truth : WorkflowTruthReport}
    {subject : Subject} {row : FailingStepRow}
    (hleaves : redactEvidenceString (itemOptions truth subject).failedCheck 256 =
      (itemOptions truth subject).failedCheck)
    (hrow : subjectRow tables truth subject = some row) :
    Shows subject row ↔ subject.Readable := by
  rw [← failedCheck_make tables] at hleaves
  cases subject with
  | runLevel => exact absurd hrow nofun
  | eventSequence issues => exact absurd hrow nofun
  | runContext ev => exact absurd hrow nofun
  | step s =>
      rw [subjectRow_step, Option.some.injEq] at hrow
      rw [← hrow]
      exact stepRow_shows_iff hleaves
  | effect s e =>
      rw [subjectRow_effect, Option.some.injEq] at hrow
      rw [← hrow]
      exact effectRow_shows_iff hleaves

/-- Each scoped subject has one row. -/
theorem rows_of_subjects (tables : TextTables) (truth : WorkflowTruthReport)
    (subjects : List Subject) :
    List.Forall₂ (fun subject row => subjectRow tables truth subject = some row)
      (subjects.filter Subject.isScoped) (subjects.filterMap (subjectRow tables truth)) := by
  induction subjects with
  | nil => exact .nil
  | cons subject subjects ih =>
      have hsome := subjectRow_isSome tables truth subject
      cases hrow : subjectRow tables truth subject with
      | none =>
          rw [hrow] at hsome
          rw [List.filter_cons_of_neg (by simp [← hsome]), List.filterMap_cons_none hrow]
          exact ih
      | some row =>
          rw [hrow] at hsome
          rw [List.filter_cons_of_pos (by simp [← hsome]), List.filterMap_cons_some hrow]
          exact .cons hrow ih

theorem rows_show_iff {tables : TextTables} {truth : WorkflowTruthReport}
    {subjects : List Subject} {rows : List FailingStepRow}
    (hrows : List.Forall₂ (fun subject row => subjectRow tables truth subject = some row)
      subjects rows)
    (hleaves : ∀ subject ∈ subjects,
      redactEvidenceString (itemOptions truth subject).failedCheck 256 =
        (itemOptions truth subject).failedCheck) :
    List.Forall₂ Shows subjects rows ↔ ∀ subject ∈ subjects, subject.Readable := by
  induction hrows with
  | nil => simp
  | cons hrow _ ih =>
      obtain ⟨hfirst, hrest⟩ := List.forall_mem_cons.mp hleaves
      rw [List.forall₂_cons, List.forall_mem_cons, subjectRow_shows_iff hfirst hrow, ih hrest]

/-- The rows of a certificate with a step or an effect among its items. -/
theorem extract_eq {tables : TextTables} {status : WorkflowStatus}
    {truth : WorkflowTruthReport} (hfailing : ¬(status = .complete ∧ truth.failureAnalysis.isNone))
    (hscoped : scopedSubjects truth ≠ []) :
    (extractFailingStepRows (buildEvidenceCompleteness tables status truth)).1 =
      ((reportedSubjects truth).filterMap (subjectRow tables truth)).take maxTableRows := by
  have hsubjects : workflowItemOptions truth =
      (workflowSubjects truth).map (itemOptions truth) := by
    rw [workflowItemOptions.eq_def]
    cases hsub : workflowSubjects truth with
    | nil =>
        rw [scopedSubjects, reportedSubjects, hsub] at hscoped
        exact absurd rfl hscoped
    | cons subject subjects => rfl
  have hitems : ((buildEvidenceCompleteness tables status truth).remediationItems.getD
      []).filterMap itemRow =
        (reportedSubjects truth).filterMap (subjectRow tables truth) := by
    rw [buildEvidenceCompleteness, if_neg hfailing, Option.getD_some,
      buildWorkflowRemediationItems, if_neg hfailing, hsubjects, List.map_map,
      ← List.map_take, List.filterMap_map]
    rfl
  have hlength := (rows_of_subjects tables truth (reportedSubjects truth)).length_eq
  rw [extractFailingStepRows, hitems]
  cases hrows : (reportedSubjects truth).filterMap (subjectRow tables truth) with
  | nil =>
      rw [hrows] at hlength
      exact absurd (List.length_eq_zero_iff.mp hlength) hscoped
  | cons row rows => rfl

/-- The rows of a failing result decode its items exactly where each step and effect that
has an item can be read back. -/
theorem failingStepRows_decode_iff (tables : TextTables) (status : WorkflowStatus)
    (truth : WorkflowTruthReport)
    (hfailing : ¬(status = .complete ∧ truth.failureAnalysis.isNone))
    (hleaves : RedactionLeaves truth) :
    RowsDecode tables status truth ↔
      ∀ subject ∈ reportedSubjects truth, subject.Readable := by
  have hrows := rows_of_subjects tables truth (reportedSubjects truth)
  have hshort : (scopedSubjects truth).take maxTableRows = scopedSubjects truth := by
    apply List.take_of_length_le
    have hfilter := List.length_filter_le Subject.isScoped (reportedSubjects truth)
    have htake := List.length_take_le maxRemediationItems (workflowSubjects truth)
    exact hfilter.trans htake
  have hscopedLeaves : ∀ subject ∈ scopedSubjects truth,
      redactEvidenceString (itemOptions truth subject).failedCheck 256 =
        (itemOptions truth subject).failedCheck :=
    fun subject hsubject => hleaves subject (List.mem_filter.mp hsubject).1
  have hreadable : (∀ subject ∈ scopedSubjects truth, subject.Readable) ↔
      ∀ subject ∈ reportedSubjects truth, subject.Readable := by
    refine ⟨fun h subject hsubject => ?_, fun h subject hsubject =>
      h subject (List.mem_filter.mp hsubject).1⟩
    cases hscoped : subject.isScoped with
    | true => exact h subject (List.mem_filter.mpr ⟨hsubject, hscoped⟩)
    | false =>
        cases subject with
        | runLevel => trivial
        | eventSequence issues => trivial
        | runContext ev => trivial
        | step s => exact absurd hscoped nofun
        | effect s e => exact absurd hscoped nofun
  rw [RowsDecode, hshort, ← hreadable]
  by_cases hscoped : scopedSubjects truth = []
  · simp [hscoped]
  · have hlength : ((reportedSubjects truth).filterMap (subjectRow tables truth)).take
        maxTableRows = (reportedSubjects truth).filterMap (subjectRow tables truth) := by
      apply List.take_of_length_le
      rw [← hrows.length_eq]
      exact List.take_eq_self_iff _ |>.mp hshort
    rw [extract_eq hfailing hscoped, hlength]
    exact ⟨fun h => (rows_show_iff hrows hscopedLeaves).mp (h hscoped),
      fun h _ => (rows_show_iff hrows hscopedLeaves).mpr h⟩

/-! ## A tool with a parenthesis -/

def leavesChecks (truth : WorkflowTruthReport) : Bool :=
  (reportedSubjects truth).all fun subject =>
    redactEvidenceString (itemOptions truth subject).failedCheck 256 ==
      (itemOptions truth subject).failedCheck

theorem redactionLeaves_of_checks {truth : WorkflowTruthReport}
    (h : leavesChecks truth = true) : RedactionLeaves truth := by
  intro subject hsubject
  exact beq_iff_eq.mp (List.all_eq_true.mp h subject hsubject)

/-- The report of a run that can be built, with a property that was computed. -/
theorem exists_report {tables : TextTables} {engine : WorkflowEngineResult}
    {p : WorkflowTruthReport → Bool}
    (h : (buildWorkflowTruthReport tables engine).toOption.any p = true) :
    ∃ truth, buildWorkflowTruthReport tables engine = .ok truth ∧ p truth = true := by
  obtain ⟨truth, htruth, hp⟩ := (Option.any_eq_true _ _).mp h
  refine ⟨truth, ?_, hp⟩
  cases hreport : buildWorkflowTruthReport tables engine with
  | error e =>
      rw [hreport] at htruth
      exact absurd htruth nofun
  | ok built =>
      rw [hreport] at htruth
      rw [Option.some.inj htruth]

/-- A run with the tool `crm.upsert_contact`. -/
theorem failingStepRows_decode_unknownTool :
    ∃ truth, buildWorkflowTruthReport asciiTexts (unknownToolRun "crm.upsert_contact") =
        .ok truth ∧
      (RowsDecode asciiTexts .incomplete truth ↔
        ∀ subject ∈ reportedSubjects truth, subject.Readable) := by
  have hcomputed : (buildWorkflowTruthReport asciiTexts
      (unknownToolRun "crm.upsert_contact")).toOption.any leavesChecks = true := by
    decide +kernel
  obtain ⟨truth, htruth, hleaves⟩ := exists_report hcomputed
  exact ⟨truth, htruth, failingStepRows_decode_iff asciiTexts .incomplete truth (by simp)
    (redactionLeaves_of_checks hleaves)⟩

/-- One step has one row, with another tool. -/
def misnamed : List Subject → List FailingStepRow → Bool
  | [.step s], [row] => decide (s.toolId ≠ row.toolId)
  | _, _ => false

/-- The tool `crm)` is read as `crm`. -/
theorem parenthesis_not_decoded :
    ∃ truth, buildWorkflowTruthReport asciiTexts (unknownToolRun "crm)") = .ok truth ∧
      RedactionLeaves truth ∧ ¬ RowsDecode asciiTexts .incomplete truth := by
  have hcomputed : (buildWorkflowTruthReport asciiTexts
      (unknownToolRun "crm)")).toOption.any (fun truth => leavesChecks truth &&
        misnamed (scopedSubjects truth) (extractFailingStepRows
          (buildEvidenceCompleteness asciiTexts .incomplete truth)).1) = true := by
    decide +kernel
  obtain ⟨truth, htruth, hp⟩ := exists_report hcomputed
  obtain ⟨hleaves, hnamed⟩ := Bool.and_eq_true_iff.mp hp
  refine ⟨truth, htruth, redactionLeaves_of_checks hleaves, fun hdecode => ?_⟩
  rw [RowsDecode] at hdecode
  rw [misnamed.eq_def] at hnamed
  split at hnamed
  · next s row hscoped hrows =>
      rw [hscoped, hrows] at hdecode
      have hshows := hdecode (by simp)
      rw [show List.take maxTableRows [Subject.step s] = [.step s] from rfl,
        List.forall₂_cons] at hshows
      exact of_decide_eq_true hnamed hshows.1.2.2.symm
  · exact absurd hnamed nofun

end AgentSkeptic.Report
