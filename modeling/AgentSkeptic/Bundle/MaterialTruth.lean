import AgentSkeptic.Bundle.CertificateDigest
import AgentSkeptic.Bundle.DecisionBundleCrash
import AgentSkeptic.Support.JsSafeInteger

/-!
# The material truth of a certificate

`governanceEvidence.ts`: the hash that drift decisions compare is that of a projection in
which reason codes, steps and checkpoint verdicts are sorted.  What ties in a sort keeps the
order that it has in the certificate.
-/

namespace AgentSkeptic.Bundle

open AgentSkeptic.Support AgentSkeptic.Quick

/-! ## Certificates -/

/-- The schemas that `outcome-certificate-v3.schema.json` refers to; of the completeness of
the evidence the properties that no projection reads. -/
structure ReferencedSchemas where
  evidenceProperties : List (String × Schema)
  failureSpine : Schema
  correctnessDefinition : Schema

def evidenceCompletenessSchemaV1 (refs : ReferencedSchemas) : Schema :=
  .object ["schemaVersion", "blockerCategory", "quickSignal", "verifiedClaims",
      "unverifiedClaims", "missingInputs", "nextActions"]
    (("schemaVersion", .number 1) ::
      ("blockerCategory", .oneOf ["none", "preview_lane", "ingest_empty",
        "ingest_unstructured", "registry_unknown_tool", "registry_resolution",
        "database_access", "timing_or_window", "witness_unavailable",
        "state_mismatch", "verification_incomplete", "event_sequence",
        "control_flow_context", "unclassified"]) ::
      refs.evidenceProperties)

def explanationDetailSchema : Schema :=
  .object ["code", "message"] [("code", .text 1 (some 256)), ("message", .text 1 (some 4096))]

def explanationSchema : Schema :=
  .object ["headline", "details"]
    [("headline", .text 1 (some 2048)), ("details", .array explanationDetailSchema)]

def certificateStepSchema : Schema :=
  .object ["seq", "releaseCritical", "declaredAction", "expectedOutcome", "observedOutcome"]
    [("seq", .integer 0), ("toolId", .text 0 (some 512)), ("releaseCritical", .boolean),
      ("declaredAction", .text 1 (some 4096)), ("expectedOutcome", .text 1 (some 4096)),
      ("observedOutcome", .text 1 (some 8192))]

def checkpointVerdictSchema : Schema :=
  .object ["checkpointKey", "verdict", "seqs", "productionMeaning"]
    [("checkpointKey", .text 1 (some 2048)),
      ("verdict", .oneOf ["verified", "inconsistent", "incomplete"]),
      ("seqs", .array (.integer 0)), ("productionMeaning", .text 1 (some 8192))]

def outcomeCertificateProperties (refs : ReferencedSchemas) : List (String × Schema) :=
  [("schemaVersion", .number 3),
    ("workflowId", .text 1 (some 512)),
    ("runKind", .oneOf ["contract_sql", "contract_sql_langgraph_checkpoint_trust",
      "quick_preview"]),
    ("stateRelation", .oneOf ["matches_expectations", "does_not_match", "not_established"]),
    ("highStakesReliance", .oneOf ["permitted", "prohibited"]),
    ("releaseCriticalVerdict", .oneOf ["trusted", "not_trusted", "unknown"]),
    ("relianceRationale", .text 1 (some 8192)),
    ("intentSummary", .text 1 (some 8192)),
    ("explanation", explanationSchema),
    ("steps", .array certificateStepSchema),
    ("humanReport", .text 1 (some 1048576)),
    ("checkpointVerdicts", .array checkpointVerdictSchema),
    ("evidenceCompleteness", evidenceCompletenessSchemaV1 refs),
    ("failureSpine", refs.failureSpine),
    ("correctnessDefinition", refs.correctnessDefinition)]

def outcomeCertificateSchemaV3 (refs : ReferencedSchemas) : Schema :=
  .object ["schemaVersion", "workflowId", "runKind", "stateRelation", "highStakesReliance",
    "releaseCriticalVerdict", "relianceRationale", "intentSummary", "explanation", "steps",
    "humanReport", "evidenceCompleteness", "failureSpine"]
    (outcomeCertificateProperties refs)

/-- A JSON value that fits the schema. -/
structure Certificate (refs : ReferencedSchemas) where
  json : Json
  valid : (outcomeCertificateSchemaV3 refs).valid json = true
  wellFormed : json.WellFormed

/-! ## The hash -/

def materialTruthSha256 (rt : WriterRuntime) (certificate : Json) :
    Except WriteFailure String :=
  (materialTruthProjectionFromCertificate rt certificate).map fun truth =>
    rt.sha256Hex (utf8Encode (stableStringify truth).toList)

def detailCodes (certificate : Json) : List String :=
  (itemsAt (valueAt certificate "explanation") "details").map (textAt · "code")

/-- `[...new Set(codes)]`. -/
def distinctCodes (certificate : Json) : List String :=
  (InsertionMap.ofKeys (detailCodes certificate)).keys

def projectedSteps (certificate : Json) : List Json :=
  (itemsAt certificate "steps").map materialTruthStep

def projectedVerdicts (certificate : Json) : List Json :=
  (itemsAt certificate "checkpointVerdicts").map materialTruthVerdict

def blockerCategory (certificate : Json) : String :=
  textAt (valueAt certificate "evidenceCompleteness") "blockerCategory"

def verdictLe (localeLe : String → String → Bool) (a b : Json) : Bool :=
  localeLe (textAt a "checkpointKey") (textAt b "checkpointKey")

/-! ## Certificates that are presented in another order -/

/-- A verdict with its seqs in another order. -/
structure SameVerdict (v w : Json) : Prop where
  checkpointKey : textAt v "checkpointKey" = textAt w "checkpointKey"
  verdict : textAt v "verdict" = textAt w "verdict"
  seqs : (itemsAt v "seqs").Perm (itemsAt w "seqs")

/-- What is projected is the same up to order; nothing is said of the rest. -/
structure Rearranged (c c' : Json) : Prop where
  workflowId : textAt c "workflowId" = textAt c' "workflowId"
  runKind : textAt c "runKind" = textAt c' "runKind"
  stateRelation : textAt c "stateRelation" = textAt c' "stateRelation"
  codes : (detailCodes c).Perm (detailCodes c')
  blockerCategory : blockerCategory c = blockerCategory c'
  steps : (projectedSteps c).Perm (projectedSteps c')
  verdicts : ∃ vs, List.Forall₂ SameVerdict (itemsAt c "checkpointVerdicts") vs ∧
    vs.Perm (itemsAt c' "checkpointVerdicts")

/-- What ties in a sort stands in one order: codes that the collation does not tell apart, as
they first occur, steps of one seq whose tools it does not tell apart, and verdicts whose
keys it does not tell apart. -/
structure TiesInOneOrder (localeLe : String → String → Bool) (c c' : Json) : Prop where
  codes : ∀ code, (distinctCodes c).filter (tied localeLe code) =
    (distinctCodes c').filter (tied localeLe code)
  steps : ∀ step, (projectedSteps c).filter (tied (stepLe localeLe) step) =
    (projectedSteps c').filter (tied (stepLe localeLe) step)
  verdicts : ∀ verdict, (projectedVerdicts c).filter (tied (verdictLe localeLe) verdict) =
    (projectedVerdicts c').filter (tied (verdictLe localeLe) verdict)

/-- What ties is the same. -/
structure Untied (localeLe : String → String → Bool) (c : Json) : Prop where
  codes : ∀ a ∈ detailCodes c, ∀ b ∈ detailCodes c, tied localeLe a b = true → a = b
  steps : ∀ s ∈ projectedSteps c, ∀ t ∈ projectedSteps c,
    tied (stepLe localeLe) s t = true → s = t
  verdicts : ∀ v ∈ projectedVerdicts c, ∀ w ∈ projectedVerdicts c,
    tied (verdictLe localeLe) v w = true → v = w

/-! ## The projection is valid -/

section

variable {required : List String} {properties : List (String × Schema)} {v : Json}
  (h : (Schema.object required properties).valid v = true)

include h

theorem textAt_valid {key : String} {schema : Schema} (hkey : key ∈ required)
    (hmem : (key, schema) ∈ properties)
    (htext : ∀ w, schema.valid w = true → ∃ s, w = .str s) :
    schema.valid (.str (textAt v key)) = true := by
  obtain ⟨w, hw, hvalid⟩ := Schema.valid_required h hkey hmem
  obtain ⟨s, rfl⟩ := htext w hvalid
  rw [textAt, hw]
  exact hvalid

theorem valueAt_valid {key : String} {schema : Schema} (hkey : key ∈ required)
    (hmem : (key, schema) ∈ properties) : schema.valid (valueAt v key) = true := by
  obtain ⟨w, hw, hvalid⟩ := Schema.valid_required h hkey hmem
  rw [valueAt, hw]
  exact hvalid

/-- A property that need not be there. -/
theorem optional_valid {key : String} {schema : Schema} {w : Json}
    (hinherited : inherited [] key = .undefined) (hkeys : (properties.map Prod.fst).Nodup)
    (hmem : (key, schema) ∈ properties) (hw : v.member key = .json w) :
    schema.valid w = true := by
  obtain ⟨schema', hmem', hvalid⟩ := Schema.valid_key_mem h hinherited hw
  obtain rfl : schema' = schema :=
    congrArg Prod.snd (List.inj_on_of_nodup_map hkeys hmem' hmem rfl)
  exact hvalid

theorem itemsAt_valid {key : String} {schema : Schema}
    (hinherited : inherited [] key = .undefined) (hkeys : (properties.map Prod.fst).Nodup)
    (hmem : (key, Schema.array schema) ∈ properties) :
    ∀ item ∈ itemsAt v key, schema.valid item = true := by
  unfold itemsAt
  split
  · rename_i items hitems
    have hvalid := optional_valid h hinherited hkeys hmem hitems
    rw [Schema.valid] at hvalid
    exact List.all_eq_true.mp hvalid
  · intro item hitem
    cases hitem

end

theorem text_valid_str {minLength : ℕ} {maxLength : Option ℕ} {w : Json}
    (h : (Schema.text minLength maxLength).valid w = true) : ∃ s, w = .str s := by
  cases w with
  | str s => exact ⟨s, rfl⟩
  | null => cases h
  | bool value => cases h
  | num value => cases h
  | arr items => cases h
  | obj members => cases h

theorem oneOf_valid_str {values : List String} {w : Json}
    (h : (Schema.oneOf values).valid w = true) : ∃ s, w = .str s := by
  obtain ⟨s, hs, -⟩ := Schema.textWith_valid h
  exact ⟨s, hs⟩

theorem integer_valid {minimum : ℤ} {w : Json} (h : (Schema.integer minimum).valid w = true) :
    ∃ n : ℤ, w = .num (.int n) := by
  cases w with
  | num value =>
      cases value with
      | int n => exact ⟨n, rfl⟩
      | frac value => cases h
      | infinity negative => cases h
  | null => cases h
  | bool value => cases h
  | str s => cases h
  | arr items => cases h
  | obj members => cases h

theorem toolId_valid {s : Json} (h : certificateStepSchema.valid s = true) :
    (Schema.text 0 (some 512)).valid (.str (textAt s "toolId")) = true := by
  unfold textAt
  split
  · rename_i toolId htool
    exact optional_valid h rfl (by decide) (.tail _ (.head _)) htool
  · rfl

theorem materialTruthStep_valid {s : Json} (h : certificateStepSchema.valid s = true) :
    (Schema.object ["seq", "toolId", "declaredAction", "expectedOutcome", "observedOutcome"]
      [("seq", .integer 0), ("toolId", .text 0 (some 512)),
        ("declaredAction", .text 1 (some 4096)), ("expectedOutcome", .text 1 (some 4096)),
        ("observedOutcome", .text 1 (some 8192))]).valid (materialTruthStep s) = true := by
  have hseq : (Schema.integer 0).valid (valueAt s "seq") = true :=
    valueAt_valid h (by decide) (.head _)
  have haction : (Schema.text 1 (some 4096)).valid (.str (textAt s "declaredAction")) = true :=
    textAt_valid h (by decide) (.tail _ (.tail _ (.tail _ (.head _)))) fun _ => text_valid_str
  have hexpected : (Schema.text 1 (some 4096)).valid (.str (textAt s "expectedOutcome")) = true :=
    textAt_valid h (by decide) (.tail _ (.tail _ (.tail _ (.tail _ (.head _)))))
      fun _ => text_valid_str
  have hobserved : (Schema.text 1 (some 8192)).valid (.str (textAt s "observedOutcome")) = true :=
    textAt_valid h (by decide) (.tail _ (.tail _ (.tail _ (.tail _ (.tail _ (.head _))))))
      fun _ => text_valid_str
  apply Schema.valid_of_members
  · simp
  · decide
  · simp only [List.forall_mem_cons]
    exact ⟨⟨_, .head _, hseq⟩, ⟨_, .tail _ (.head _), toolId_valid h⟩,
      ⟨_, .tail _ (.tail _ (.head _)), haction⟩,
      ⟨_, .tail _ (.tail _ (.tail _ (.head _))), hexpected⟩,
      ⟨_, .tail _ (.tail _ (.tail _ (.tail _ (.head _)))), hobserved⟩, nofun⟩

theorem mem_sortedSeqs {seqs : List Json} {w : Json} (h : w ∈ sortedSeqs seqs) : w ∈ seqs := by
  obtain ⟨n, hn, rfl⟩ := List.mem_map.mp h
  have hmem := InsertionMap.mem_keys_ofKeys.mp ((List.mem_insertionSort _).mp hn)
  obtain ⟨w, hw, hnumber⟩ := List.mem_filterMap.mp hmem
  cases w with
  | num m =>
      obtain rfl := Option.some.inj hnumber
      exact hw
  | null => cases hnumber
  | bool value => cases hnumber
  | str value => cases hnumber
  | arr items => cases hnumber
  | obj members => cases hnumber

theorem seqs_valid {v : Json} (h : checkpointVerdictSchema.valid v = true) :
    ∀ item ∈ itemsAt v "seqs", (Schema.integer 0).valid item = true :=
  itemsAt_valid h rfl (by decide) (.tail _ (.tail _ (.head _)))

theorem materialTruthVerdict_valid {v : Json} (h : checkpointVerdictSchema.valid v = true) :
    (Schema.object ["checkpointKey", "verdict", "seqs"]
      [("checkpointKey", .text 1 (some 2048)),
        ("verdict", .oneOf ["verified", "inconsistent", "incomplete"]),
        ("seqs", .array (.integer 0))]).valid (materialTruthVerdict v) = true := by
  have hkey : (Schema.text 1 (some 2048)).valid (.str (textAt v "checkpointKey")) = true :=
    textAt_valid h (by decide) (.head _) fun _ => text_valid_str
  have hverdict : (Schema.oneOf ["verified", "inconsistent", "incomplete"]).valid
      (.str (textAt v "verdict")) = true :=
    textAt_valid h (by decide) (.tail _ (.head _)) fun _ => oneOf_valid_str
  have hseqs : (Schema.array (.integer 0)).valid (.arr (sortedSeqs (itemsAt v "seqs"))) =
      true := by
    rw [Schema.valid]
    exact List.all_eq_true.mpr fun w hw => seqs_valid h w (mem_sortedSeqs hw)
  apply Schema.valid_of_members
  · simp
  · decide
  · simp only [List.forall_mem_cons]
    exact ⟨⟨_, .head _, hkey⟩, ⟨_, .tail _ (.head _), hverdict⟩,
      ⟨_, .tail _ (.tail _ (.head _)), hseqs⟩, nofun⟩

variable {refs : ReferencedSchemas}

theorem keys_outcomeCertificateProperties :
    ((outcomeCertificateProperties refs).map Prod.fst).Nodup := by
  show ["schemaVersion", "workflowId", "runKind", "stateRelation", "highStakesReliance",
    "releaseCriticalVerdict", "relianceRationale", "intentSummary", "explanation", "steps",
    "humanReport", "checkpointVerdicts", "evidenceCompleteness", "failureSpine",
    "correctnessDefinition"].Nodup
  decide

namespace Certificate

variable (c : Certificate refs)

theorem steps_valid : ∀ s ∈ itemsAt c.json "steps", certificateStepSchema.valid s = true :=
  itemsAt_valid c.valid rfl keys_outcomeCertificateProperties
    (by simp [outcomeCertificateProperties])

theorem verdicts_valid :
    ∀ v ∈ itemsAt c.json "checkpointVerdicts", checkpointVerdictSchema.valid v = true :=
  itemsAt_valid c.valid rfl keys_outcomeCertificateProperties
    (by simp [outcomeCertificateProperties])

theorem codes_valid :
    ∀ code ∈ detailCodes c.json, (Schema.text 1 (some 256)).valid (.str code) = true := by
  have hexplanation : explanationSchema.valid (valueAt c.json "explanation") = true :=
    valueAt_valid c.valid (by decide) (by simp [outcomeCertificateProperties])
  intro code hcode
  obtain ⟨detail, hdetail, rfl⟩ := List.mem_map.mp hcode
  have hvalid : explanationDetailSchema.valid detail = true :=
    itemsAt_valid hexplanation rfl (by decide) (.tail _ (.head _)) detail hdetail
  exact textAt_valid hvalid (by decide) (.head _) fun _ => text_valid_str

/-- Every certificate that fits its schema has a material truth. -/
theorem materialTruth_valid (rt : WriterRuntime) :
    materialTruthSchemaV2.valid (materialTruthPayload rt c.json) = true := by
  have hversion : (Schema.number 2).valid (numberJson 2) = true := by decide
  have hworkflow : (Schema.text 1 (some 512)).valid (.str (textAt c.json "workflowId")) = true :=
    textAt_valid c.valid (by decide) (.tail _ (.head _)) fun _ => text_valid_str
  have hrunKind := textAt_valid c.valid (by decide)
    (.tail _ (.tail _ (.head _))) fun _ => oneOf_valid_str
  have hrelation := textAt_valid c.valid (by decide)
    (.tail _ (.tail _ (.tail _ (.head _)))) fun _ => oneOf_valid_str
  have hevidence : (evidenceCompletenessSchemaV1 refs).valid
      (valueAt c.json "evidenceCompleteness") = true :=
    valueAt_valid c.valid (by decide) (by simp [outcomeCertificateProperties])
  have hblocker := textAt_valid hevidence (by decide) (.tail _ (.head _))
    fun _ => oneOf_valid_str
  have hcodes : (Schema.array (.text 1 (some 256))).valid
      (.arr ((sortedUniqueStrings rt.localeLe (detailCodes c.json)).map .str)) = true := by
    rw [Schema.valid, List.all_eq_true]
    intro w hw
    obtain ⟨code, hcode, rfl⟩ := List.mem_map.mp hw
    exact c.codes_valid code
      (InsertionMap.mem_keys_ofKeys.mp ((List.mem_insertionSort _).mp hcode))
  have hsteps : (Schema.array (.object ["seq", "toolId", "declaredAction", "expectedOutcome",
      "observedOutcome"] [("seq", .integer 0), ("toolId", .text 0 (some 512)),
        ("declaredAction", .text 1 (some 4096)), ("expectedOutcome", .text 1 (some 4096)),
        ("observedOutcome", .text 1 (some 8192))])).valid
      (.arr ((projectedSteps c.json).insertionSort
        fun a b => stepLe rt.localeLe a b = true)) = true := by
    rw [Schema.valid, List.all_eq_true]
    intro w hw
    obtain ⟨s, hs, rfl⟩ := List.mem_map.mp ((List.mem_insertionSort _).mp hw)
    exact materialTruthStep_valid (c.steps_valid s hs)
  have hverdicts : (Schema.array (.object ["checkpointKey", "verdict", "seqs"]
      [("checkpointKey", .text 1 (some 2048)),
        ("verdict", .oneOf ["verified", "inconsistent", "incomplete"]),
        ("seqs", .array (.integer 0))])).valid
      (.arr ((projectedVerdicts c.json).insertionSort
        fun a b => verdictLe rt.localeLe a b = true)) = true := by
    rw [Schema.valid, List.all_eq_true]
    intro w hw
    obtain ⟨v, hv, rfl⟩ := List.mem_map.mp ((List.mem_insertionSort _).mp hw)
    exact materialTruthVerdict_valid (c.verdicts_valid v hv)
  apply Schema.valid_of_members
  · simp
  · decide
  · simp only [List.forall_mem_cons]
    exact ⟨⟨_, .head _, hversion⟩, ⟨_, .tail _ (.head _), hworkflow⟩,
      ⟨_, .tail _ (.tail _ (.head _)), hrunKind⟩,
      ⟨_, .tail _ (.tail _ (.tail _ (.head _))), hrelation⟩,
      ⟨_, .tail _ (.tail _ (.tail _ (.tail _ (.head _)))), hcodes⟩,
      ⟨_, .tail _ (.tail _ (.tail _ (.tail _ (.tail _ (.head _))))), hblocker⟩,
      ⟨_, .tail _ (.tail _ (.tail _ (.tail _ (.tail _ (.tail _ (.head _)))))), hsteps⟩,
      ⟨_, .tail _ (.tail _ (.tail _ (.tail _ (.tail _ (.tail _ (.tail _ (.head _))))))),
        hverdicts⟩, nofun⟩

end Certificate

/-! ## Seqs in another order -/

theorem sortedSeqs_perm {xs ys : List Json} (hxs : ∀ x ∈ xs, (Schema.integer 0).valid x = true)
    (h : xs.Perm ys) : sortedSeqs xs = sortedSeqs ys := by
  have hkeys : (InsertionMap.ofKeys (xs.filterMap jsonNumber?)).keys.Perm
      (InsertionMap.ofKeys (ys.filterMap jsonNumber?)).keys := by
    apply (List.perm_ext_iff_of_nodup (InsertionMap.nodup _) (InsertionMap.nodup _)).mpr
    intro n
    exact (InsertionMap.mem_keys_ofKeys.trans (h.filterMap jsonNumber?).mem_iff).trans
      InsertionMap.mem_keys_ofKeys.symm
  have hinteger : ∀ n ∈ (InsertionMap.ofKeys (xs.filterMap jsonNumber?)).keys,
      ∃ i : ℤ, n = .int i := by
    intro n hn
    obtain ⟨x, hx, hnumber⟩ := List.mem_filterMap.mp (InsertionMap.mem_keys_ofKeys.mp hn)
    obtain ⟨i, rfl⟩ := integer_valid (hxs x hx)
    exact ⟨i, (Option.some.inj hnumber).symm⟩
  have : Std.Total fun a b : JsNumber => a.toRat ≤ b.toRat := ⟨fun a b => le_total _ _⟩
  have : IsTrans JsNumber fun a b => a.toRat ≤ b.toRat := ⟨fun _ _ _ => le_trans⟩
  have hperm := ((List.perm_insertionSort (fun a b : JsNumber => a.toRat ≤ b.toRat) _).trans
    hkeys).trans (List.perm_insertionSort (fun a b : JsNumber => a.toRat ≤ b.toRat) _).symm
  refine congrArg (List.map Json.num) (hperm.eq_of_pairwise ?_ (List.pairwise_insertionSort _ _)
    (List.pairwise_insertionSort _ _))
  intro a b ha hb hab hba
  obtain ⟨i, rfl⟩ := hinteger a ((List.mem_insertionSort _).mp ha)
  obtain ⟨j, rfl⟩ := hinteger b (hkeys.mem_iff.mpr ((List.mem_insertionSort _).mp hb))
  have hij : i = j := Int.cast_injective (le_antisymm hab hba)
  rw [hij]

theorem SameVerdict.projected_eq {v w : Json} (h : SameVerdict v w)
    (hv : checkpointVerdictSchema.valid v = true) :
    materialTruthVerdict v = materialTruthVerdict w := by
  rw [materialTruthVerdict, materialTruthVerdict, h.checkpointKey, h.verdict,
    sortedSeqs_perm (seqs_valid hv) h.seqs]

theorem Rearranged.projectedVerdicts_perm {c : Certificate refs} {c' : Json}
    (h : Rearranged c.json c') : (projectedVerdicts c.json).Perm (projectedVerdicts c') := by
  obtain ⟨vs, hsame, hperm⟩ := h.verdicts
  have hmap : projectedVerdicts c.json = vs.map materialTruthVerdict := by
    rw [projectedVerdicts, ← List.forall₂_eq_eq_eq, List.forall₂_map_left_iff,
      List.forall₂_map_right_iff]
    exact forall₂_congr_mem (fun v hv w _ hvw => hvw.projected_eq (c.verdicts_valid v hv)) hsame
  rw [hmap]
  exact hperm.map _

/-! ## The sorts -/

section

variable {localeLe : String → String → Bool}
  (htotal : ∀ a b, localeLe a b = true ∨ localeLe b a = true)
  (htrans : ∀ a b c, localeLe a b = true → localeLe b c = true → localeLe a c = true)

include htotal in
theorem stepLe_total : Std.Total fun a b => stepLe localeLe a b = true where
  total := by
    intro a b
    rcases lt_trichotomy (numberAt a "seq") (numberAt b "seq") with hlt | heq | hgt
    · left
      simp [stepLe, hlt]
    · rcases htotal (textAt a "toolId") (textAt b "toolId") with h | h
      · left
        simp [stepLe, heq, h]
      · right
        simp [stepLe, heq, h]
    · right
      simp [stepLe, hgt]

include htrans in
theorem stepLe_trans : IsTrans Json fun a b => stepLe localeLe a b = true where
  trans := by
    intro a b c hab hbc
    simp only [stepLe, Bool.or_eq_true, Bool.and_eq_true, decide_eq_true_eq] at hab hbc ⊢
    rcases hab with hab | ⟨hab, habText⟩
    · rcases hbc with hbc | ⟨hbc, -⟩
      · exact .inl (hab.trans hbc)
      · exact .inl (hbc ▸ hab)
    · rcases hbc with hbc | ⟨hbc, hbcText⟩
      · exact .inl (hab ▸ hbc)
      · exact .inr ⟨hab.trans hbc, htrans _ _ _ habText hbcText⟩

end

section

variable {rt : WriterRuntime}
  (htotal : ∀ a b, rt.localeLe a b = true ∨ rt.localeLe b a = true)
  (htrans : ∀ a b c, rt.localeLe a b = true → rt.localeLe b c = true → rt.localeLe a c = true)

include htotal htrans

/-- The two projections are one document exactly when what ties stands in one order. -/
theorem materialTruthPayload_eq_iff {c c' : Json} (h : Rearranged c c') :
    materialTruthPayload rt c = materialTruthPayload rt c' ↔
      TiesInOneOrder rt.localeLe c c' := by
  have : Std.Total fun a b => rt.localeLe a b = true := ⟨htotal⟩
  have : IsTrans String fun a b => rt.localeLe a b = true := ⟨htrans⟩
  have := stepLe_total htotal
  have := stepLe_trans htrans
  have : Std.Total fun a b => verdictLe rt.localeLe a b = true := ⟨fun a b => htotal _ _⟩
  have : IsTrans Json fun a b => verdictLe rt.localeLe a b = true := ⟨fun a b c => htrans _ _ _⟩
  have hcodes := @insertionSort_eq_iff _ rt.localeLe _ _ (distinctCodes c) (distinctCodes c')
  have hsteps := @insertionSort_eq_iff _ (stepLe rt.localeLe) _ _ (projectedSteps c)
    (projectedSteps c')
  have hverdicts := @insertionSort_eq_iff _ (verdictLe rt.localeLe) _ _ (projectedVerdicts c)
    (projectedVerdicts c')
  have hstr : Function.Injective Json.str := fun _ _ => Json.str.inj
  constructor
  · intro heq
    simp only [materialTruthPayload, Json.obj.injEq, List.cons.injEq, Prod.mk.injEq, true_and,
      and_true, Json.arr.injEq, Json.str.injEq] at heq
    obtain ⟨-, -, -, hcodes', -, hsteps', hverdicts'⟩ := heq
    exact ⟨hcodes.mp (List.map_injective_iff.mpr hstr hcodes'), hsteps.mp hsteps',
      hverdicts.mp hverdicts'⟩
  · intro hties
    have hcodes' := hcodes.mpr hties.codes
    have hsteps' := hsteps.mpr hties.steps
    have hverdicts' := hverdicts.mpr hties.verdicts
    have hblocker : textAt (valueAt c "evidenceCompleteness") "blockerCategory" =
        textAt (valueAt c' "evidenceCompleteness") "blockerCategory" := h.blockerCategory
    simp only [materialTruthPayload, Json.obj.injEq, List.cons.injEq, Prod.mk.injEq, true_and,
      and_true, Json.arr.injEq, Json.str.injEq]
    exact ⟨h.workflowId, h.runKind, h.stateRelation, congrArg (List.map Json.str) hcodes',
      hblocker, hsteps', hverdicts'⟩

omit htotal in
/-- Where what ties is the same, another order gives one document. -/
theorem Untied.tiesInOneOrder {c : Certificate refs} {c' : Json}
    (huntied : Untied rt.localeLe c.json) (h : Rearranged c.json c') :
    TiesInOneOrder rt.localeLe c.json c' := by
  have : IsTrans String fun a b => rt.localeLe a b = true := ⟨htrans⟩
  have := stepLe_trans htrans
  have : IsTrans Json fun a b => verdictLe rt.localeLe a b = true := ⟨fun a b c => htrans _ _ _⟩
  have hcodes : (distinctCodes c.json).Perm (distinctCodes c') := by
    apply (List.perm_ext_iff_of_nodup (InsertionMap.nodup _) (InsertionMap.nodup _)).mpr
    intro code
    exact (InsertionMap.mem_keys_ofKeys.trans h.codes.mem_iff).trans
      InsertionMap.mem_keys_ofKeys.symm
  refine ⟨filter_tied_eq_of_perm _ hcodes ?_, filter_tied_eq_of_perm _ h.steps huntied.steps,
    filter_tied_eq_of_perm _ h.projectedVerdicts_perm huntied.verdicts⟩
  intro a ha b hb
  exact huntied.codes a (InsertionMap.mem_keys_ofKeys.mp ha) b
    (InsertionMap.mem_keys_ofKeys.mp hb)

end

/-! ## The text of a projection -/

/-- Objects with one list of names are equal where their members are. -/
theorem obj_eq_of_sameAs {members members' : List (String × Json)}
    (hnodup : (members'.map Prod.fst).Nodup)
    (hmembers : List.Forall₂ (fun m n => m.1 = n.1 ∧ (m.2.SameAs n.2 → m.2 = n.2))
      members members')
    (h : (Json.obj members).SameAs (.obj members')) : members = members' := by
  obtain ⟨named, hperm, hsame⟩ := sameAs_obj.mp h
  rw [sameMembers_iff] at hsame
  have hnames : ∀ {xs ys : List (String × Json)} {P : String × Json → String × Json → Prop},
      List.Forall₂ (fun m n => m.1 = n.1 ∧ P m n) xs ys → xs.map Prod.fst = ys.map Prod.fst := by
    intro xs ys P hall
    rw [← List.forall₂_eq_eq_eq, List.forall₂_map_left_iff, List.forall₂_map_right_iff]
    exact hall.imp fun _ _ hmn => hmn.1
  obtain rfl : named = members' :=
    eq_of_keys_eq hnodup (fun m hm => hperm.mem_iff.mp hm) (fun m hm => hm)
      ((hnames hsame).symm.trans (hnames hmembers))
  clear hperm hnodup h
  induction hmembers with
  | nil => rfl
  | cons hmn _ ih =>
      obtain ⟨hmn', hrest⟩ := List.forall₂_cons.mp hsame
      rw [Prod.ext hmn.1 (hmn.2 hmn'.2), ih hrest]

theorem arr_eq_of_sameAs {items items' : List Json}
    (hitems : ∀ x ∈ items, ∀ y ∈ items', x.SameAs y → x = y)
    (h : (Json.arr items).SameAs (.arr items')) : items = items' := by
  have hsame := sameItems_iff.mp (sameAs_arr.mp h)
  rw [← List.forall₂_eq_eq_eq]
  exact forall₂_congr_mem hitems hsame

theorem str_eq_of_sameAs {s t : String} (h : (Json.str s).SameAs (.str t)) :
    Json.str s = .str t := by
  rw [Json.SameAs] at h
  exact h.symm

theorem num_eq_of_sameAs {n : JsNumber} {w : Json} (h : (Json.num n).SameAs w) :
    Json.num n = w := by
  rw [Json.SameAs] at h
  exact h.symm

theorem strs_eq_of_sameAs {xs ys : List String}
    (h : (Json.arr (xs.map .str)).SameAs (.arr (ys.map .str))) :
    Json.arr (xs.map .str) = .arr (ys.map .str) := by
  rw [arr_eq_of_sameAs ?_ h]
  intro x hx y hy hxy
  obtain ⟨s, -, rfl⟩ := List.mem_map.mp hx
  obtain ⟨t, -, rfl⟩ := List.mem_map.mp hy
  exact str_eq_of_sameAs hxy

theorem step_eq_of_sameAs {s t : Json} (hs : certificateStepSchema.valid s = true)
    (h : (materialTruthStep s).SameAs (materialTruthStep t)) :
    materialTruthStep s = materialTruthStep t := by
  obtain ⟨n, hn⟩ := integer_valid
    (show (Schema.integer 0).valid (valueAt s "seq") = true from
      valueAt_valid hs (by decide) (.head _))
  rw [materialTruthStep, materialTruthStep]
  refine congrArg Json.obj (obj_eq_of_sameAs (by simp) ?_ h)
  refine .cons ⟨rfl, fun hseq => ?_⟩ (.cons ⟨rfl, str_eq_of_sameAs⟩
    (.cons ⟨rfl, str_eq_of_sameAs⟩ (.cons ⟨rfl, str_eq_of_sameAs⟩
      (.cons ⟨rfl, str_eq_of_sameAs⟩ .nil))))
  rw [hn] at hseq ⊢
  exact num_eq_of_sameAs hseq

theorem verdict_eq_of_sameAs {v w : Json}
    (h : (materialTruthVerdict v).SameAs (materialTruthVerdict w)) :
    materialTruthVerdict v = materialTruthVerdict w := by
  rw [materialTruthVerdict, materialTruthVerdict]
  refine congrArg Json.obj (obj_eq_of_sameAs (by simp) ?_ h)
  refine .cons ⟨rfl, str_eq_of_sameAs⟩ (.cons ⟨rfl, str_eq_of_sameAs⟩
    (.cons ⟨rfl, fun hseqs => ?_⟩ .nil))
  rw [arr_eq_of_sameAs ?_ hseqs]
  intro x hx y _ hxy
  obtain ⟨n, -, rfl⟩ := List.mem_map.mp hx
  exact num_eq_of_sameAs hxy

/-- The text of a projection determines it. -/
theorem materialTruthText_injective {rt : WriterRuntime} {c c' : Certificate refs}
    (h : stableStringify (materialTruthPayload rt c.json) =
      stableStringify (materialTruthPayload rt c'.json)) :
    materialTruthPayload rt c.json = materialTruthPayload rt c'.json := by
  have hexact : ∀ d : Certificate refs, (materialTruthPayload rt d.json).Exact :=
    fun d => Json.WellFormed.exact (materialTruthPayload_wellFormed rt d.wellFormed)
  rw [stableStringify_eq, stableStringify_eq] at h
  have hsame := (Engine.canonicalJsonForParams_eq_iff (hexact c) (hexact c')).mp h
  rw [materialTruthPayload, materialTruthPayload] at hsame ⊢
  refine congrArg Json.obj (obj_eq_of_sameAs (by simp) ?_ hsame)
  refine .cons ⟨rfl, fun _ => rfl⟩ (.cons ⟨rfl, str_eq_of_sameAs⟩
    (.cons ⟨rfl, str_eq_of_sameAs⟩ (.cons ⟨rfl, str_eq_of_sameAs⟩
      (.cons ⟨rfl, strs_eq_of_sameAs⟩ (.cons ⟨rfl, str_eq_of_sameAs⟩
        (.cons ⟨rfl, fun hsteps => ?_⟩ (.cons ⟨rfl, fun hverdicts => ?_⟩ .nil)))))))
  · rw [arr_eq_of_sameAs ?_ hsteps]
    intro x hx y hy hxy
    obtain ⟨s, hs, rfl⟩ := List.mem_map.mp ((List.mem_insertionSort _).mp hx)
    obtain ⟨t, -, rfl⟩ := List.mem_map.mp ((List.mem_insertionSort _).mp hy)
    exact step_eq_of_sameAs (c.steps_valid s hs) hxy
  · rw [arr_eq_of_sameAs ?_ hverdicts]
    intro x hx y hy hxy
    obtain ⟨v, -, rfl⟩ := List.mem_map.mp ((List.mem_insertionSort _).mp hx)
    obtain ⟨w, -, rfl⟩ := List.mem_map.mp ((List.mem_insertionSort _).mp hy)
    exact verdict_eq_of_sameAs hxy

/-! ## Order and content -/

theorem Certificate.materialTruth_eq (c : Certificate refs) (rt : WriterRuntime) :
    materialTruthProjectionFromCertificate rt c.json = .ok (materialTruthPayload rt c.json) := by
  rw [materialTruthProjectionFromCertificate, if_pos (c.materialTruth_valid rt)]

theorem Certificate.materialTruthSha256_eq (c : Certificate refs) (rt : WriterRuntime) :
    materialTruthSha256 rt c.json = .ok (rt.sha256Hex
      (utf8Encode (stableStringify (materialTruthPayload rt c.json)).toList)) := by
  rw [materialTruthSha256, c.materialTruth_eq rt]
  rfl

/-- The hash has no collision on the projections of the two certificates. -/
def HashTellsApart (rt : WriterRuntime) (c c' : Json) : Prop :=
  rt.sha256Hex (utf8Encode (stableStringify (materialTruthPayload rt c)).toList) =
      rt.sha256Hex (utf8Encode (stableStringify (materialTruthPayload rt c')).toList) →
    stableStringify (materialTruthPayload rt c) = stableStringify (materialTruthPayload rt c')

/-- A step with another outcome. -/
def OutcomeChanged (s s' : Json) : Prop :=
  textAt s "expectedOutcome" ≠ textAt s' "expectedOutcome" ∨
    textAt s "observedOutcome" ≠ textAt s' "observedOutcome"

/-- Another outcome of one step is seen, whatever else changes but the other steps. -/
theorem materialTruthPayload_ne {rt : WriterRuntime} {c c' : Json} {before after : List Json}
    {s s' : Json} (hsteps : itemsAt c "steps" = before ++ s :: after)
    (hsteps' : itemsAt c' "steps" = before ++ s' :: after) (h : OutcomeChanged s s') :
    materialTruthPayload rt c ≠ materialTruthPayload rt c' := by
  intro heq
  simp only [materialTruthPayload, Json.obj.injEq, List.cons.injEq, Prod.mk.injEq, true_and,
    and_true, Json.arr.injEq, Json.str.injEq] at heq
  obtain ⟨-, -, -, -, -, hsorted, -⟩ := heq
  have hperm : (projectedSteps c).Perm (projectedSteps c') :=
    (List.perm_insertionSort _ _).symm.trans
      ((List.Perm.of_eq hsorted).trans (List.perm_insertionSort _ _))
  rw [projectedSteps, projectedSteps, hsteps, hsteps', List.map_append, List.map_append,
    List.map_cons, List.map_cons, List.perm_append_left_iff] at hperm
  have hstep : materialTruthStep s = materialTruthStep s' :=
    List.singleton_perm_singleton.mp ((List.perm_append_right_iff
      (after.map materialTruthStep)).mp hperm)
  simp only [materialTruthStep, Json.obj.injEq, List.cons.injEq, Prod.mk.injEq, true_and,
    and_true, Json.str.injEq] at hstep
  rcases h with hexpected | hobserved
  · exact hexpected hstep.2.2.2.1
  · exact hobserved hstep.2.2.2.2

/-- Presented in another order a certificate keeps its hash exactly when what ties in a sort
keeps its order, and with another outcome of a step it has another projection. -/
theorem materialTruth_order_exact {rt : WriterRuntime}
    (htotal : ∀ a b, rt.localeLe a b = true ∨ rt.localeLe b a = true)
    (htrans : ∀ a b c, rt.localeLe a b = true → rt.localeLe b c = true →
      rt.localeLe a c = true) :
    (∀ c c' : Certificate refs, Rearranged c.json c'.json →
      HashTellsApart rt c.json c'.json →
      (materialTruthSha256 rt c.json = materialTruthSha256 rt c'.json ↔
        TiesInOneOrder rt.localeLe c.json c'.json)) ∧
    (∀ c c' : Certificate refs, Rearranged c.json c'.json →
      TiesInOneOrder rt.localeLe c.json c'.json →
      materialTruthSha256 rt c.json = materialTruthSha256 rt c'.json) ∧
    ∀ (c c' : Certificate refs) (before after : List Json) (s s' : Json),
      itemsAt c.json "steps" = before ++ s :: after →
      itemsAt c'.json "steps" = before ++ s' :: after → OutcomeChanged s s' →
      materialTruthProjectionFromCertificate rt c.json ≠
        materialTruthProjectionFromCertificate rt c'.json := by
  have hkept : ∀ c c' : Certificate refs, Rearranged c.json c'.json →
      TiesInOneOrder rt.localeLe c.json c'.json →
      materialTruthSha256 rt c.json = materialTruthSha256 rt c'.json := by
    intro c c' h hties
    rw [c.materialTruthSha256_eq, c'.materialTruthSha256_eq,
      (materialTruthPayload_eq_iff htotal htrans h).mpr hties]
  refine ⟨?_, hkept, ?_⟩
  · intro c c' h hapart
    refine ⟨fun heq => ?_, hkept c c' h⟩
    rw [c.materialTruthSha256_eq, c'.materialTruthSha256_eq] at heq
    have htext := hapart (Except.ok.inj heq)
    exact (materialTruthPayload_eq_iff htotal htrans h).mp (materialTruthText_injective htext)
  · intro c c' before after s s' hsteps hsteps' hchanged heq
    rw [c.materialTruth_eq, c'.materialTruth_eq] at heq
    exact materialTruthPayload_ne hsteps hsteps' hchanged (Except.ok.inj heq)

/-! ## Two observations of one step -/

/-- The properties that the certificate below has. -/
def fixtureSchemas : ReferencedSchemas where
  evidenceProperties :=
    [("quickSignal", .oneOf ["na", "no_actions", "no_structured_activity",
        "no_sql_candidates", "sql_ran_uncertain", "sql_ran_failed", "sql_ran_passed"]),
      ("verifiedClaims", .array (.text 1 (some 160))),
      ("unverifiedClaims", .array (.text 1 (some 160))),
      ("missingInputs", .array (.object ["code", "hint"]
        [("code", .text 1 (some 72)), ("hint", .text 1 (some 400))])),
      ("nextActions", .array (.object ["id", "text"]
        [("id", .text 1 (some 64)), ("text", .text 1 (some 500))]))]
  failureSpine := .object ["schemaVersion", "trustDecision", "summary", "actionableFailure",
      "primaryCodes", "rerunGuidance", "source"]
    [("schemaVersion", .number 1), ("trustDecision", .oneOf ["safe", "unsafe", "unknown"]),
      ("summary", .text 1 (some 2048)),
      ("actionableFailure", .object ["category", "severity", "recommendedAction",
          "automationSafe"]
        [("category", .text 0 none), ("severity", .text 0 none),
          ("recommendedAction", .text 0 none), ("automationSafe", .boolean)]),
      ("primaryCodes", .array (.text 1 (some 256))), ("rerunGuidance", .text 1 (some 512)),
      ("source", .oneOf ["workflow", "quick", "ineligible_langgraph"])]
  correctnessDefinition := .scalar fun
    | .null => true
    | _ => false

def withSteps (certificate : Json) (steps : List Json) : Json :=
  match certificate with
  | .obj members =>
      .obj (members.map fun m => if m.1 = "steps" then ("steps", .arr steps) else m)
  | v => v

def observedStep (seq : ℕ) (observed : String) : Json :=
  .obj [("seq", numberJson seq), ("toolId", .str "crm.upsert"), ("releaseCritical", .bool false),
    ("declaredAction", .str "Upsert."), ("expectedOutcome", .str "One row."),
    ("observedOutcome", .str observed)]

theorem observedStep_wellFormed {seq : ℕ} (h : seq < 2 ^ 53) (observed : String) :
    (observedStep seq observed).WellFormed := by
  have hseq : (numberJson seq).WellFormed := JsNumber.readable_safeInteger h
  apply wellFormed_obj ["seq", "toolId", "releaseCritical", "declaredAction",
    "expectedOutcome", "observedOutcome"] rfl (by decide)
  simp [hseq, Json.WellFormed]

theorem withSteps_wellFormed {steps : List Json} (h : ∀ s ∈ steps, s.WellFormed) :
    (withSteps matchedCertificate steps).WellFormed := by
  rw [matchedCertificate, withSteps]
  apply wellFormed_obj ["schemaVersion", "workflowId", "runKind", "stateRelation",
    "highStakesReliance", "releaseCriticalVerdict", "relianceRationale",
    "intentSummary", "explanation", "steps", "humanReport", "evidenceCompleteness",
    "failureSpine"] rfl (by decide)
  intro m hm
  obtain ⟨n, hn, rfl⟩ := List.mem_map.mp hm
  split_ifs
  · exact Schema.wellFormedItems_iff.mpr h
  · exact wellFormedMembers_iff.mp matchedCertificate_wellFormed.2.2 n hn

/-- Two observations of one step, in the two orders. -/
def retriedCertificate : Certificate fixtureSchemas where
  json := withSteps matchedCertificate [observedStep 0 "No row.", observedStep 0 "One row."]
  valid := by decide +kernel
  wellFormed := withSteps_wellFormed (by simp [observedStep_wellFormed])

def retriedBackwards : Certificate fixtureSchemas where
  json := withSteps matchedCertificate [observedStep 0 "One row.", observedStep 0 "No row."]
  valid := by decide +kernel
  wellFormed := withSteps_wellFormed (by simp [observedStep_wellFormed])

/-- Two steps, in the two orders. -/
def orderedCertificate : Certificate fixtureSchemas where
  json := withSteps matchedCertificate [observedStep 0 "No row.", observedStep 1 "One row."]
  valid := by decide +kernel
  wellFormed := withSteps_wellFormed (by simp [observedStep_wellFormed])

def orderedBackwards : Certificate fixtureSchemas where
  json := withSteps matchedCertificate [observedStep 1 "One row.", observedStep 0 "No row."]
  valid := by decide +kernel
  wellFormed := withSteps_wellFormed (by simp [observedStep_wellFormed])

def changedCertificate : Certificate fixtureSchemas where
  json := withSteps matchedCertificate [observedStep 0 "No row.", observedStep 1 "Two rows."]
  valid := by decide +kernel
  wellFormed := withSteps_wellFormed (by simp [observedStep_wellFormed])

/-- The bytes that are hashed for a certificate. -/
def truthBytes (c : Certificate fixtureSchemas) : Bytes :=
  utf8Encode (stableStringify (materialTruthPayload letterRuntime c.json)).toList

/-- SHA-256 on the two projections of the retried step. -/
def retriedSha256Hex (bytes : Bytes) : String :=
  if bytes = truthBytes retriedCertificate then
    "3c53e649990d6a861c8574ae7d60585be35d89b16ef70b1be680e9e6dfc0f1b4"
  else if bytes = truthBytes retriedBackwards then
    "a1d3d80d551a57f149e17fc11b5a54d60903e440a4a62c314ba9f3f97b2c3ac5"
  else letterSha256Hex bytes

def retriedRuntime : WriterRuntime := { letterRuntime with sha256Hex := retriedSha256Hex }

theorem letterLe_total (a b : String) : letterLe a b = true ∨ letterLe b a = true := by
  simp only [letterLe, decide_eq_true_eq]
  exact le_total _ _

theorem letterLe_trans (a b c : String) (hab : letterLe a b = true) (hbc : letterLe b c = true) :
    letterLe a c = true := by
  simp only [letterLe, decide_eq_true_eq] at hab hbc ⊢
  exact le_trans hab hbc

theorem withSteps_rearranged {steps steps' : List Json} (h : steps.Perm steps') :
    Rearranged (withSteps matchedCertificate steps) (withSteps matchedCertificate steps') where
  workflowId := rfl
  runKind := rfl
  stateRelation := rfl
  codes := List.Perm.refl _
  blockerCategory := rfl
  steps := h.map materialTruthStep
  verdicts := ⟨[], .nil, List.Perm.refl _⟩

theorem orderedCertificate_untied : Untied letterLe orderedCertificate.json := by
  have hcodes : detailCodes orderedCertificate.json = ["FIXTURE"] := rfl
  have hsteps : projectedSteps orderedCertificate.json =
      [materialTruthStep (observedStep 0 "No row."),
        materialTruthStep (observedStep 1 "One row.")] := rfl
  refine ⟨?_, ?_, nofun⟩
  · rw [hcodes]
    simp
  · rw [hsteps]
    have hapart : tied (stepLe letterLe) (materialTruthStep (observedStep 0 "No row."))
        (materialTruthStep (observedStep 1 "One row.")) = false := by decide +kernel
    have hapart' : tied (stepLe letterLe) (materialTruthStep (observedStep 1 "One row."))
        (materialTruthStep (observedStep 0 "No row.")) = false := by decide +kernel
    simp [hapart, hapart']

/-- Two steps in the other order, and another outcome of the second. -/
theorem materialTruth_two_steps :
    (materialTruthSha256 retriedRuntime orderedCertificate.json =
        materialTruthSha256 retriedRuntime orderedBackwards.json ↔
      TiesInOneOrder letterLe orderedCertificate.json orderedBackwards.json) ∧
    materialTruthSha256 retriedRuntime orderedCertificate.json =
        materialTruthSha256 retriedRuntime orderedBackwards.json ∧
    materialTruthProjectionFromCertificate retriedRuntime orderedCertificate.json ≠
        materialTruthProjectionFromCertificate retriedRuntime changedCertificate.json := by
  obtain ⟨hiff, hkept, hchanged⟩ := @materialTruth_order_exact fixtureSchemas retriedRuntime
    letterLe_total letterLe_trans
  have horder : Rearranged orderedCertificate.json orderedBackwards.json :=
    withSteps_rearranged (List.Perm.swap _ _ _)
  have hties : TiesInOneOrder retriedRuntime.localeLe orderedCertificate.json
      orderedBackwards.json :=
    @Untied.tiesInOneOrder fixtureSchemas retriedRuntime letterLe_trans _ _
      orderedCertificate_untied horder
  have hdocument : materialTruthPayload retriedRuntime orderedCertificate.json =
      materialTruthPayload retriedRuntime orderedBackwards.json :=
    (materialTruthPayload_eq_iff letterLe_total letterLe_trans horder).mpr hties
  refine ⟨hiff _ _ horder fun _ => by rw [hdocument], hkept _ _ horder hties, ?_⟩
  apply hchanged _ _ [observedStep 0 "No row."] [] (observedStep 1 "One row.")
    (observedStep 1 "Two rows.") rfl rfl
  exact .inr (by decide +kernel)

theorem retried_truthBytes_ne : truthBytes retriedBackwards ≠ truthBytes retriedCertificate := by
  intro heq
  have htext := String.toList_injective (Support.utf8Encode_injective heq)
  have hpayload := materialTruthText_injective htext
  have hties := (materialTruthPayload_eq_iff letterLe_total letterLe_trans
    (withSteps_rearranged (List.Perm.swap _ _ _))).mp hpayload
  have hclass := congrArg (List.map (textAt · "observedOutcome"))
    (hties.steps (materialTruthStep (observedStep 0 "No row.")))
  exact absurd hclass (by decide +kernel)

theorem retriedRuntime_sha256 (c : Certificate fixtureSchemas) :
    materialTruthSha256 retriedRuntime c.json = .ok (retriedSha256Hex (truthBytes c)) := by
  have hsha : retriedRuntime.sha256Hex = retriedSha256Hex := rfl
  have hretried : retriedRuntime.localeLe = letterLe := rfl
  have hletter : letterRuntime.localeLe = letterLe := rfl
  rw [c.materialTruthSha256_eq, hsha, truthBytes, materialTruthPayload, materialTruthPayload,
    hretried, hletter]

/-- One step observed twice: the order of the two observations is in the hash. -/
theorem materialTruth_tied_steps :
    Rearranged retriedCertificate.json retriedBackwards.json ∧
      materialTruthSha256 retriedRuntime retriedCertificate.json ≠
        materialTruthSha256 retriedRuntime retriedBackwards.json := by
  refine ⟨withSteps_rearranged (List.Perm.swap _ _ _), ?_⟩
  have hfirst : retriedSha256Hex (truthBytes retriedCertificate) =
      "3c53e649990d6a861c8574ae7d60585be35d89b16ef70b1be680e9e6dfc0f1b4" := by
    rw [retriedSha256Hex, if_pos rfl]
  have hsecond : retriedSha256Hex (truthBytes retriedBackwards) =
      "a1d3d80d551a57f149e17fc11b5a54d60903e440a4a62c314ba9f3f97b2c3ac5" := by
    rw [retriedSha256Hex, if_neg retried_truthBytes_ne, if_pos rfl]
  intro heq
  rw [retriedRuntime_sha256, retriedRuntime_sha256, hfirst, hsecond] at heq
  exact absurd (Except.ok.inj heq) (by decide)

end AgentSkeptic.Bundle
