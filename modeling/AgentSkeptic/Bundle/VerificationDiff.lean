import AgentSkeptic.Bundle.CertificateDigest
import AgentSkeptic.Bundle.DecisionBundleCrash
import AgentSkeptic.Engine.Pipeline
import AgentSkeptic.Events.RunEvents
import AgentSkeptic.Support.JsonMembers

/-!
# The diff of two certificates

`certificateVerificationDiff.ts`: five fields of an Outcome Certificate v3 are compared,
and ordered guards name the movement between the two postures.
-/

namespace AgentSkeptic.Bundle

open AgentSkeptic.Support AgentSkeptic.Engine

/-! ## Certificates -/

inductive TruthCheckVerdictLabel where
  | trusted | notTrusted | unknown
  deriving DecidableEq

def TruthCheckVerdictLabel.text : TruthCheckVerdictLabel → String
  | trusted => "trusted"
  | notTrusted => "not_trusted"
  | unknown => "unknown"

def runKindText : OutcomeCertificateRunKind → String
  | .contractSql => "contract_sql"
  | .contractSqlLanggraphCheckpointTrust => "contract_sql_langgraph_checkpoint_trust"
  | .quickPreview => "quick_preview"

def stateRelationText : OutcomeCertificateStateRelation → String
  | .matchesExpectations => "matches_expectations"
  | .doesNotMatch => "does_not_match"
  | .notEstablished => "not_established"

def highStakesRelianceText : OutcomeCertificateHighStakesReliance → String
  | .permitted => "permitted"
  | .prohibited => "prohibited"

/-- A certificate with the values of its enumerated members. -/
structure OutcomeCertificateV3 where
  json : Json
  runKind : OutcomeCertificateRunKind
  stateRelation : OutcomeCertificateStateRelation
  highStakesReliance : OutcomeCertificateHighStakesReliance
  releaseCriticalVerdict : TruthCheckVerdictLabel
  reads : textAt json "runKind" = runKindText runKind ∧
    textAt json "stateRelation" = stateRelationText stateRelation ∧
    textAt json "highStakesReliance" = highStakesRelianceText highStakesReliance ∧
    textAt json "releaseCriticalVerdict" = releaseCriticalVerdict.text

def OutcomeCertificateV3.workflowId (c : OutcomeCertificateV3) : String :=
  textAt c.json "workflowId"

structure EvidenceProjection where
  blockerCategory : String
  supportLabel : Option String
  deriving DecidableEq

def evidenceProjection (c : OutcomeCertificateV3) : EvidenceProjection :=
  let ec := valueAt c.json "evidenceCompleteness"
  { blockerCategory := textAt ec "blockerCategory"
    supportLabel :=
      match (ec.member "witnessCoverage").optionalMember "supportLabel" with
      | .json (.str supportLabel) => some supportLabel
      | _ => none }

def EvidenceProjection.toJson (proj : EvidenceProjection) : Json :=
  .obj [("blockerCategory", .str proj.blockerCategory),
    ("supportLabel", (proj.supportLabel.map Json.str).getD .null)]

/-! ## Movements -/

inductive PostureMovement where
  | improved | weakened | unchanged | lessDeterminate | drifted
  deriving DecidableEq

inductive DeterminacyClass where
  | establishedPositive | establishedNegative | notEstablished
  deriving DecidableEq

def determinacyClass : OutcomeCertificateStateRelation → DeterminacyClass
  | .matchesExpectations => .establishedPositive
  | .doesNotMatch => .establishedNegative
  | .notEstablished => .notEstablished

def determinacyRank : DeterminacyClass → ℕ
  | .establishedPositive => 2
  | .establishedNegative => 1
  | .notEstablished => 0

def rcScore : TruthCheckVerdictLabel → ℕ
  | .notTrusted => 0
  | .unknown => 1
  | .trusted => 2

def headlineFor : PostureMovement → String
  | .unchanged =>
      "Verification posture unchanged between the two Outcome Certificates " ++
        "(projection-equal)."
  | .lessDeterminate =>
      "Verification became less determinate: trust dimensions lost a determinate " ++
        "established conclusion."
  | .improved =>
      "Verification posture improved between prior and current Outcome Certificates."
  | .weakened =>
      "Verification posture weakened between prior and current Outcome Certificates."
  | .drifted =>
      "Verification posture drifted: material certificate fields changed without a " ++
        "single clear improved/weakened trust story."

structure NextStep where
  command : String
  docAnchor : String

def verificationDiffNextStep : NextStep where
  command := "agentskeptic compare --manifest <compare-run-manifest.json>"
  docAnchor := "docs/agentskeptic.md#cross-run-comparison-normative"

def recommendedNextActionFor (movement : PostureMovement) : String :=
  let boundary := "This conclusion is certificate-only semantic diff; it does not " ++
    "inspect events, traces, or step-level workflow structure."
  -- U+0060 on both sides of the command.
  let quoteMark := String.singleton (Char.ofNat 0x60)
  let deeper := " For structural compare use " ++ quoteMark ++
    verificationDiffNextStep.command ++ quoteMark ++ " (" ++
      verificationDiffNextStep.docAnchor ++ ")."
  match movement with
  | .unchanged => boundary ++ deeper
  | .lessDeterminate =>
      "Treat the current artifact as withholding a determinate grounding that the " ++
        "prior certificate had; restore observability inputs or rerun verification." ++
          deeper
  | .improved =>
      "Promotion decision may proceed consistent with improved trust projections; " ++
        "archive both certificates." ++ deeper
  | .weakened =>
      "Hold promotion or widen review: trust projections regressed versus the prior " ++
        "certificate; remediate downstream state / inputs before relying on current." ++
          deeper
  | .drifted =>
      "Reviewer should reconcile why evidence or run posture labels moved while " ++
        "primary trust projections stayed aligned; optionally rerun live verification." ++
          deeper

structure PostureFace where
  certificateSha256 : String
  runKind : OutcomeCertificateRunKind
  stateRelation : OutcomeCertificateStateRelation
  releaseCriticalVerdict : TruthCheckVerdictLabel
  highStakesReliance : OutcomeCertificateHighStakesReliance

structure FieldChange (α : Type) where
  prior : α
  current : α
  changed : Bool

def fieldChange {α : Type} [DecidableEq α] (prior current : α) : FieldChange α :=
  { prior, current, changed := prior ≠ current }

structure Determinacy where
  priorClass : DeterminacyClass
  currentClass : DeterminacyClass
  priorRank : ℕ
  currentRank : ℕ

structure VerificationDiffCertificateV1 where
  workflowId : String
  prior : PostureFace
  current : PostureFace
  stateRelation : FieldChange OutcomeCertificateStateRelation
  releaseCriticalVerdict : FieldChange TruthCheckVerdictLabel
  highStakesReliance : FieldChange OutcomeCertificateHighStakesReliance
  runKind : FieldChange OutcomeCertificateRunKind
  priorProjection : EvidenceProjection
  currentProjection : EvidenceProjection
  completenessChanged : Bool
  determinacy : Determinacy
  lessDeterminate : Bool
  postureMovement : PostureMovement
  headline : String
  recommendedNextAction : String
  nextStepHint : NextStep

section

variable (sha256Hex : Bytes → String) (localeLe : String → String → Bool)

def canonicalEvidenceFingerprint (proj : EvidenceProjection) : String :=
  stringifyWithSortedKeys localeLe proj.toJson

def certificatesSemanticallyEqualForDiff (before after : OutcomeCertificateV3)
    (fpBefore fpAfter : String) : Bool :=
  before.workflowId = after.workflowId && before.stateRelation = after.stateRelation &&
    before.releaseCriticalVerdict = after.releaseCriticalVerdict &&
    before.highStakesReliance = after.highStakesReliance &&
    before.runKind = after.runKind && fpBefore = fpAfter

/-- The guards in their order; the numbers are those of the source. -/
def classifyPostureMovement (before after : OutcomeCertificateV3)
    (completenessChanged : Bool) : PostureMovement :=
  let sb := before.stateRelation
  let sa := after.stateRelation
  let steps2through6Matched :=
    sa = .notEstablished ∧ sb ≠ .notEstablished ∨
      sb = .doesNotMatch ∧ sa = .matchesExpectations ∨
      sb = .matchesExpectations ∧ sa = .doesNotMatch ∨
      sb = .notEstablished ∧ sa = .matchesExpectations ∨
      sb = .notEstablished ∧ sa = .doesNotMatch
  let fb := canonicalEvidenceFingerprint localeLe (evidenceProjection before)
  let fa := canonicalEvidenceFingerprint localeLe (evidenceProjection after)
  -- 1
  if certificatesSemanticallyEqualForDiff before after fb fa then .unchanged
  -- 2 to 6
  else if sa = .notEstablished ∧ sb ≠ .notEstablished then .lessDeterminate
  else if sb = .doesNotMatch ∧ sa = .matchesExpectations then .improved
  else if sb = .matchesExpectations ∧ sa = .doesNotMatch then .weakened
  else if sb = .notEstablished ∧ sa = .matchesExpectations then .improved
  else if sb = .notEstablished ∧ sa = .doesNotMatch then .weakened
  -- 7
  else if before.runKind ≠ after.runKind ∧ sb = sa ∧
      before.releaseCriticalVerdict = after.releaseCriticalVerdict ∧
      before.highStakesReliance = after.highStakesReliance ∧ ¬ completenessChanged then
    .drifted
  -- 8 and 9
  else if rcScore after.releaseCriticalVerdict > rcScore before.releaseCriticalVerdict ∧
      ¬ (sb = .matchesExpectations ∧ sa ≠ .matchesExpectations) then .improved
  else if rcScore after.releaseCriticalVerdict < rcScore before.releaseCriticalVerdict then
    .weakened
  -- 10 and 11
  else if before.highStakesReliance = .prohibited ∧ after.highStakesReliance = .permitted ∧
      ¬ steps2through6Matched then .improved
  else if before.highStakesReliance = .permitted ∧
      after.highStakesReliance = .prohibited then .weakened
  -- 12
  else if completenessChanged ∧ sb = sa ∧
      before.releaseCriticalVerdict = after.releaseCriticalVerdict ∧
      before.highStakesReliance = after.highStakesReliance ∧
      before.runKind = after.runKind then .drifted
  else .unchanged

def postureFace (c : OutcomeCertificateV3) : PostureFace where
  certificateSha256 := certificateCanonicalDigestHex sha256Hex localeLe c.json
  runKind := c.runKind
  stateRelation := c.stateRelation
  releaseCriticalVerdict := c.releaseCriticalVerdict
  highStakesReliance := c.highStakesReliance

def buildVerificationDiffFromOutcomeCertificates (before after : OutcomeCertificateV3) :
    Except Events.TruthLayerError VerificationDiffCertificateV1 :=
  if before.workflowId ≠ after.workflowId then
    .error ⟨"COMPARE_WORKFLOW_ID_MISMATCH",
      "Compare certificates: workflowId differs (before=" ++ before.workflowId ++
        ", after=" ++ after.workflowId ++ ")."⟩
  else
    let projBefore := evidenceProjection before
    let projAfter := evidenceProjection after
    let completenessChanged := canonicalEvidenceFingerprint localeLe projBefore ≠
      canonicalEvidenceFingerprint localeLe projAfter
    let priorClass := determinacyClass before.stateRelation
    let currentClass := determinacyClass after.stateRelation
    let postureMovement := classifyPostureMovement localeLe before after completenessChanged
    .ok
      { workflowId := before.workflowId
        prior := postureFace sha256Hex localeLe before
        current := postureFace sha256Hex localeLe after
        stateRelation := fieldChange before.stateRelation after.stateRelation
        releaseCriticalVerdict :=
          fieldChange before.releaseCriticalVerdict after.releaseCriticalVerdict
        highStakesReliance := fieldChange before.highStakesReliance after.highStakesReliance
        runKind := fieldChange before.runKind after.runKind
        priorProjection := projBefore
        currentProjection := projAfter
        completenessChanged
        determinacy := ⟨priorClass, currentClass, determinacyRank priorClass,
          determinacyRank currentClass⟩
        lessDeterminate := priorClass ≠ .notEstablished ∧ currentClass = .notEstablished
        postureMovement
        headline := headlineFor postureMovement
        recommendedNextAction := recommendedNextActionFor postureMovement
        nextStepHint := verificationDiffNextStep }

end

/-! ## The fingerprint -/

theorem EvidenceProjection.toJson_wellFormed (proj : EvidenceProjection) :
    proj.toJson.WellFormed := by
  have hplain : plainKeys ["blockerCategory", "supportLabel"] = true := by decide +kernel
  apply @wellFormed_of_plainKeys _ ["blockerCategory", "supportLabel"] (List.Sublist.refl _)
    hplain
  simp only [List.forall_mem_cons]
  refine ⟨trivial, ?_, nofun⟩
  cases proj.supportLabel with
  | none => trivial
  | some label => trivial

/-- The fingerprint tells projections apart. -/
theorem fingerprint_eq_iff (localeLe : String → String → Bool) {p q : EvidenceProjection} :
    canonicalEvidenceFingerprint localeLe p = canonicalEvidenceFingerprint localeLe q ↔
      p = q := by
  constructor
  · intro h
    have hread : ∀ proj : EvidenceProjection,
        parseJson ((canonicalEvidenceFingerprint localeLe proj).toList ++ []) =
          some (canonicalizeForJson localeLe proj.toJson) :=
      fun proj => parseJson_stringifyWithSortedKeys localeLe proj.toJson_wellFormed nofun
    have hsame := hread p
    rw [h, hread q, Option.some.injEq] at hsame
    rcases p with ⟨blockerCategory, supportLabel⟩
    rcases q with ⟨blockerCategory', supportLabel'⟩
    rw [EvidenceProjection.toJson, EvidenceProjection.toJson, canonicalizeForJson,
      canonicalizeForJson, Json.obj.injEq] at hsame
    have hblocker := mem_of_sortMembers_eq hsame (by simp) List.mem_cons_self
    have hlabel := mem_of_sortMembers_eq hsame (by simp)
      (List.mem_cons_of_mem _ List.mem_cons_self)
    simp only [canonicalizeMembers, canonicalizeForJson, List.mem_cons, Prod.mk.injEq,
      List.not_mem_nil, or_false] at hblocker hlabel
    cases supportLabel <;> cases supportLabel' <;>
      simp_all [canonicalizeForJson]
  · rintro rfl
    rfl

/-! ## The guards -/

section

variable {localeLe : String → String → Bool} {before after : OutcomeCertificateV3}

/-- All that is compared is equal. -/
structure SamePosture (before after : OutcomeCertificateV3) : Prop where
  stateRelation : before.stateRelation = after.stateRelation
  releaseCriticalVerdict : before.releaseCriticalVerdict = after.releaseCriticalVerdict
  highStakesReliance : before.highStakesReliance = after.highStakesReliance
  runKind : before.runKind = after.runKind
  evidence : evidenceProjection before = evidenceProjection after

theorem semanticallyEqual_iff (hid : before.workflowId = after.workflowId) :
    certificatesSemanticallyEqualForDiff before after
        (canonicalEvidenceFingerprint localeLe (evidenceProjection before))
        (canonicalEvidenceFingerprint localeLe (evidenceProjection after)) = true ↔
      SamePosture before after := by
  simp only [certificatesSemanticallyEqualForDiff, Bool.and_eq_true, decide_eq_true_eq,
    fingerprint_eq_iff]
  constructor
  · rintro ⟨⟨⟨⟨⟨-, hstate⟩, hverdict⟩, hreliance⟩, hkind⟩, hevidence⟩
    exact ⟨hstate, hverdict, hreliance, hkind, hevidence⟩
  · rintro ⟨hstate, hverdict, hreliance, hkind, hevidence⟩
    exact ⟨⟨⟨⟨⟨hid, hstate⟩, hverdict⟩, hreliance⟩, hkind⟩, hevidence⟩

/-- The movement between two different state relations. -/
def relationMovement : OutcomeCertificateStateRelation → OutcomeCertificateStateRelation →
    PostureMovement
  | _, .notEstablished => .lessDeterminate
  | _, .matchesExpectations => .improved
  | _, .doesNotMatch => .weakened

theorem classify_of_relation_ne (hne : before.stateRelation ≠ after.stateRelation)
    (completenessChanged : Bool) :
    classifyPostureMovement localeLe before after completenessChanged =
      relationMovement before.stateRelation after.stateRelation := by
  have hequal : ∀ fb fa, certificatesSemanticallyEqualForDiff before after fb fa = false := by
    intro fb fa
    simp [certificatesSemanticallyEqualForDiff, hne]
  simp only [classifyPostureMovement, hequal]
  cases hsb : before.stateRelation <;> cases hsa : after.stateRelation <;>
    first
      | exact absurd (hsb.trans hsa.symm) hne
      | simp [relationMovement]

/-- The movement between postures of one state relation: the verdict decides, then the
reliance, then whether one of kind and evidence has changed. -/
def sameRelationMovement (before after : OutcomeCertificateV3) (kindChanged : Bool)
    (completenessChanged : Bool) : PostureMovement :=
  if rcScore after.releaseCriticalVerdict > rcScore before.releaseCriticalVerdict then
    .improved
  else if rcScore after.releaseCriticalVerdict < rcScore before.releaseCriticalVerdict then
    .weakened
  else if before.highStakesReliance = .prohibited ∧
      after.highStakesReliance = .permitted then .improved
  else if before.highStakesReliance = .permitted ∧
      after.highStakesReliance = .prohibited then .weakened
  else if kindChanged ≠ completenessChanged then .drifted
  else .unchanged

theorem rcScore_injective : Function.Injective rcScore := by
  intro a b h
  cases a <;> cases b <;> first | rfl | cases h

theorem classify_of_relation_eq (hid : before.workflowId = after.workflowId)
    (hrelation : before.stateRelation = after.stateRelation) :
    classifyPostureMovement localeLe before after
        (evidenceProjection before ≠ evidenceProjection after) =
      sameRelationMovement before after (before.runKind ≠ after.runKind)
        (evidenceProjection before ≠ evidenceProjection after) := by
  have hguards : ∀ sr : OutcomeCertificateStateRelation,
      ¬ (sr = .notEstablished ∧ sr ≠ .notEstablished) ∧
        ¬ (sr = .doesNotMatch ∧ sr = .matchesExpectations) ∧
        ¬ (sr = .matchesExpectations ∧ sr = .doesNotMatch) ∧
        ¬ (sr = .notEstablished ∧ sr = .matchesExpectations) ∧
        ¬ (sr = .notEstablished ∧ sr = .doesNotMatch) ∧
        ¬ (sr = .matchesExpectations ∧ sr ≠ .matchesExpectations) := by
    intro sr
    cases sr <;> simp
  obtain ⟨h2, h3, h4, h5, h6, h8⟩ := hguards after.stateRelation
  have hdiffers : ¬ SamePosture before after →
      certificatesSemanticallyEqualForDiff before after
        (canonicalEvidenceFingerprint localeLe (evidenceProjection before))
        (canonicalEvidenceFingerprint localeLe (evidenceProjection after)) = false := by
    intro h
    rw [← Bool.not_eq_true, semanticallyEqual_iff hid]
    exact h
  simp only [classifyPostureMovement, hrelation, h2, h3, h4, h5, h6, h8, or_self,
    not_false_eq_true, and_true, true_and, decide_eq_true_eq, ↓reduceIte]
  rw [sameRelationMovement]
  by_cases hverdict : before.releaseCriticalVerdict = after.releaseCriticalVerdict
  · by_cases hreliance : before.highStakesReliance = after.highStakesReliance
    · -- only the kind and the evidence are left
      by_cases hkind : before.runKind = after.runKind
      · by_cases hevidence : evidenceProjection before = evidenceProjection after
        · have hequal := (@semanticallyEqual_iff localeLe _ _ hid).mpr
            ⟨hrelation, hverdict, hreliance, hkind, hevidence⟩
          rw [hequal, hverdict, hreliance]
          cases after.highStakesReliance <;> simp [hkind, hevidence]
        · rw [hdiffers fun h => hevidence h.evidence, hverdict, hreliance]
          cases after.highStakesReliance <;> simp [hkind, hevidence]
      · rw [hdiffers fun h => hkind h.runKind, hverdict, hreliance]
        by_cases hevidence : evidenceProjection before = evidenceProjection after
        · cases after.highStakesReliance <;> simp [hkind, hevidence]
        · cases after.highStakesReliance <;> simp [hkind, hevidence]
    · rw [hdiffers fun h => hreliance h.highStakesReliance, hverdict]
      cases hb : before.highStakesReliance <;> cases ha : after.highStakesReliance <;>
        first
          | exact absurd (hb.trans ha.symm) hreliance
          | simp
  · have hscore : rcScore before.releaseCriticalVerdict ≠
        rcScore after.releaseCriticalVerdict := fun h => hverdict (rcScore_injective h)
    rw [hdiffers fun h => hverdict h.releaseCriticalVerdict]
    rcases lt_or_gt_of_ne hscore with hlt | hgt
    · simp [hverdict, hlt]
    · simp [hverdict, hgt, hgt.le]

/-! ## What the movement says -/

/-- The movements of two diffs that compare the same certificates in both orders. -/
structure SwapConsistent (forward backward : PostureMovement) : Prop where
  improved : forward = .improved → backward = .weakened ∨ backward = .lessDeterminate
  lessDeterminate : forward = .lessDeterminate →
    backward = .improved ∨ backward = .weakened
  drifted : forward = .drifted → backward = .drifted
  unchanged : forward = .unchanged → backward = .unchanged

theorem relationMovement_swap {sb sa : OutcomeCertificateStateRelation} (hne : sb ≠ sa) :
    relationMovement sb sa ≠ .unchanged ∧
      SwapConsistent (relationMovement sb sa) (relationMovement sa sb) := by
  cases sb <;> cases sa <;>
    first
      | exact absurd rfl hne
      | exact ⟨nofun, by constructor <;> simp [relationMovement]⟩

theorem sameRelationMovement_unchanged {kindChanged completenessChanged : Bool} :
    sameRelationMovement before after kindChanged completenessChanged = .unchanged ↔
      before.releaseCriticalVerdict = after.releaseCriticalVerdict ∧
        before.highStakesReliance = after.highStakesReliance ∧
        kindChanged = completenessChanged := by
  rw [sameRelationMovement, ← rcScore_injective.eq_iff]
  rcases lt_trichotomy (rcScore before.releaseCriticalVerdict)
    (rcScore after.releaseCriticalVerdict) with hlt | heq | hgt
  · simp [hlt, hlt.ne]
  · rw [heq]
    cases before.highStakesReliance <;> cases after.highStakesReliance <;> simp
  · simp [hgt, lt_asymm hgt, hgt.ne']

theorem sameRelationMovement_swap (kindChanged completenessChanged : Bool) :
    SwapConsistent (sameRelationMovement before after kindChanged completenessChanged)
      (sameRelationMovement after before kindChanged completenessChanged) := by
  rw [sameRelationMovement, sameRelationMovement]
  rcases lt_trichotomy (rcScore before.releaseCriticalVerdict)
    (rcScore after.releaseCriticalVerdict) with hlt | heq | hgt
  · constructor <;> simp [hlt, hlt.le]
  · rw [heq]
    cases before.highStakesReliance <;> cases after.highStakesReliance <;>
      by_cases hchanged : kindChanged = completenessChanged <;>
        constructor <;> simp [hchanged]
  · constructor <;> simp [hgt, lt_asymm hgt]

/-- Both the kind of the run and the evidence have changed, and nothing else. -/
def KindAndEvidenceOnly (before after : OutcomeCertificateV3) : Prop :=
  before.stateRelation = after.stateRelation ∧
    before.releaseCriticalVerdict = after.releaseCriticalVerdict ∧
    before.highStakesReliance = after.highStakesReliance ∧
    before.runKind ≠ after.runKind ∧ evidenceProjection before ≠ evidenceProjection after

theorem build_posture (sha256Hex : Bytes → String)
    (hid : before.workflowId = after.workflowId) :
    ∃ diff, buildVerificationDiffFromOutcomeCertificates sha256Hex localeLe before after =
        .ok diff ∧
      diff.postureMovement = classifyPostureMovement localeLe before after
        (evidenceProjection before ≠ evidenceProjection after) := by
  rw [buildVerificationDiffFromOutcomeCertificates, if_neg (not_not.mpr hid)]
  refine ⟨_, rfl, ?_⟩
  simp only [ne_eq, fingerprint_eq_iff]

end

/-- `unchanged` is exact, and the two orders agree, unless kind and evidence are what has
changed. -/
theorem verificationDiff_exact (sha256Hex : Bytes → String)
    (localeLe : String → String → Bool) (before after : OutcomeCertificateV3)
    (hid : before.workflowId = after.workflowId) :
    ∃ forward backward,
      buildVerificationDiffFromOutcomeCertificates sha256Hex localeLe before after =
          .ok forward ∧
        buildVerificationDiffFromOutcomeCertificates sha256Hex localeLe after before =
          .ok backward ∧
        ((forward.postureMovement = .unchanged ↔ SamePosture before after) ∧
            SwapConsistent forward.postureMovement backward.postureMovement ↔
          ¬ KindAndEvidenceOnly before after) := by
  obtain ⟨forward, hforward, hmovement⟩ := @build_posture localeLe _ _ sha256Hex hid
  obtain ⟨backward, hbackward, hback⟩ := @build_posture localeLe _ _ sha256Hex hid.symm
  refine ⟨forward, backward, hforward, hbackward, ?_⟩
  rw [hmovement, hback]
  by_cases hrelation : before.stateRelation = after.stateRelation
  · have hkind : decide (after.runKind ≠ before.runKind) =
        decide (before.runKind ≠ after.runKind) := by simp only [ne_comm]
    have hevidence : decide (evidenceProjection after ≠ evidenceProjection before) =
        decide (evidenceProjection before ≠ evidenceProjection after) := by
      simp only [ne_comm]
    rw [classify_of_relation_eq hid hrelation,
      classify_of_relation_eq hid.symm hrelation.symm, hkind, hevidence,
      sameRelationMovement_unchanged, and_iff_left (sameRelationMovement_swap _ _),
      decide_eq_decide]
    constructor
    · rintro hunchanged ⟨-, hverdict, hreliance, hkindChanged, hevidenceChanged⟩
      have hsame := hunchanged.mp
        ⟨hverdict, hreliance, iff_of_true hkindChanged hevidenceChanged⟩
      exact hkindChanged hsame.runKind
    · intro hnot
      constructor
      · rintro ⟨hverdict, hreliance, hboth⟩
        have hunchanged : ¬ before.runKind ≠ after.runKind := fun h =>
          hnot ⟨hrelation, hverdict, hreliance, h, hboth.mp h⟩
        exact ⟨hrelation, hverdict, hreliance, not_not.mp hunchanged,
          not_not.mp fun h => hunchanged (hboth.mpr h)⟩
      · intro h
        refine ⟨h.releaseCriticalVerdict, h.highStakesReliance, ?_⟩
        exact iff_of_false (not_not.mpr h.runKind) (not_not.mpr h.evidence)
  · obtain ⟨hchanged, hswap⟩ := relationMovement_swap hrelation
    rw [classify_of_relation_ne hrelation, classify_of_relation_ne (Ne.symm hrelation)]
    constructor
    · intro _ honly
      exact hrelation honly.1
    · intro _
      exact ⟨iff_of_false hchanged fun h => hrelation h.stateRelation, hswap⟩

/-! ## Kind and evidence change together -/

/-- A matched run of a kind, with a category of its evidence. -/
def matchedRun (runKind : OutcomeCertificateRunKind) (blockerCategory : String) :
    OutcomeCertificateV3 where
  json := .obj [("schemaVersion", numberJson 3), ("workflowId", .str "wf_fixture_diff"),
    ("runKind", .str (runKindText runKind)), ("stateRelation", .str "matches_expectations"),
    ("highStakesReliance", .str "permitted"), ("releaseCriticalVerdict", .str "trusted"),
    ("relianceRationale", .str "Fixture G before."), ("intentSummary", .str "Fixture G."),
    ("explanation", .obj [("headline", .str "Ok."),
      ("details", .arr [.obj [("code", .str "FIXTURE"), ("message", .str "Ok.")]])]),
    ("steps", .arr []), ("humanReport", .str "fixture G before."),
    ("evidenceCompleteness", .obj [("schemaVersion", numberJson 1),
      ("blockerCategory", .str blockerCategory), ("quickSignal", .str "na"),
      ("verifiedClaims", .arr [.str "fixture"]), ("unverifiedClaims", .arr []),
      ("missingInputs", .arr []),
      ("nextActions",
        .arr [.obj [("id", .str "fixture_next"), ("text", .str "Next.")]])]),
    ("failureSpine", .obj [("schemaVersion", numberJson 1),
      ("trustDecision", .str "safe"), ("summary", .str "Safe."),
      ("actionableFailure", .obj [("category", .str "unclassified"),
        ("severity", .str "low"), ("recommendedAction", .str "none"),
        ("automationSafe", .bool true)]),
      ("primaryCodes", .arr [.str "FIXTURE"]), ("rerunGuidance", .str "None."),
      ("source", .str "workflow")])]
  runKind
  stateRelation := .matchesExpectations
  highStakesReliance := .permitted
  releaseCriticalVerdict := .trusted
  reads := ⟨rfl, rfl, rfl, rfl⟩

/-- SHA-256 on the sorted text of three certificates. -/
def matchedSha256Hex (bytes : Bytes) : String :=
  if bytes = sortedBytes (matchedRun .contractSql "none").json then
    "d73f9ff7cfa1f996ed2df6c6e3ed81e58bdba068e68bb198a7f92017f99e5dfd"
  else if bytes =
      sortedBytes (matchedRun .contractSqlLanggraphCheckpointTrust "none").json then
    "65755aaa38e57ebe890ec6962b47a0ecc07692b6ddd46c920de8e85311b85d72"
  else "1d5c97c7d1e69c1399fde26be8717feaa04b81609d32f7676713019da0ebea3f"

/-- A change of the kind alone. -/
theorem verificationDiff_runKind :
    ∃ forward backward,
      buildVerificationDiffFromOutcomeCertificates matchedSha256Hex letterLe
          (matchedRun .contractSql "none")
          (matchedRun .contractSqlLanggraphCheckpointTrust "none") = .ok forward ∧
        buildVerificationDiffFromOutcomeCertificates matchedSha256Hex letterLe
          (matchedRun .contractSqlLanggraphCheckpointTrust "none")
          (matchedRun .contractSql "none") = .ok backward ∧
        ((forward.postureMovement = .unchanged ↔
              SamePosture (matchedRun .contractSql "none")
                (matchedRun .contractSqlLanggraphCheckpointTrust "none")) ∧
            SwapConsistent forward.postureMovement backward.postureMovement ↔
          ¬ KindAndEvidenceOnly (matchedRun .contractSql "none")
            (matchedRun .contractSqlLanggraphCheckpointTrust "none")) :=
  verificationDiff_exact matchedSha256Hex letterLe (matchedRun .contractSql "none")
    (matchedRun .contractSqlLanggraphCheckpointTrust "none") rfl

theorem matchedRun_evidence_ne :
    evidenceProjection (matchedRun .contractSql "none") ≠ evidenceProjection
      (matchedRun .contractSqlLanggraphCheckpointTrust "witness_unavailable") := by
  decide +kernel

/-- With the evidence changed too, two certificates that differ are said to be equal. -/
theorem kindAndEvidence_unchanged :
    ∃ diff, buildVerificationDiffFromOutcomeCertificates matchedSha256Hex letterLe
        (matchedRun .contractSql "none")
        (matchedRun .contractSqlLanggraphCheckpointTrust "witness_unavailable") =
          .ok diff ∧
      diff.postureMovement = .unchanged ∧
      ¬ SamePosture (matchedRun .contractSql "none")
        (matchedRun .contractSqlLanggraphCheckpointTrust "witness_unavailable") := by
  have hid : (matchedRun .contractSql "none").workflowId =
      (matchedRun .contractSqlLanggraphCheckpointTrust "witness_unavailable").workflowId :=
    rfl
  have hrelation : (matchedRun .contractSql "none").stateRelation =
      (matchedRun .contractSqlLanggraphCheckpointTrust
        "witness_unavailable").stateRelation := rfl
  obtain ⟨diff, hdiff, hmovement⟩ := @build_posture letterLe _ _ matchedSha256Hex hid
  refine ⟨diff, hdiff, ?_, fun h => matchedRun_evidence_ne h.evidence⟩
  rw [hmovement, classify_of_relation_eq hid hrelation, sameRelationMovement_unchanged]
  refine ⟨rfl, rfl, decide_eq_decide.mpr (iff_of_true ?_ matchedRun_evidence_ne)⟩
  exact nofun

end AgentSkeptic.Bundle
