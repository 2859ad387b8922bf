import AgentSkeptic.Bundle.DecisionEvidence
import AgentSkeptic.Support.SortedJson
import AgentSkeptic.Support.InsertionMap
import AgentSkeptic.Support.Fallible

/-!
# Writing decision evidence bundles

`decisionEvidenceBundle/writeDecisionEvidenceBundle.ts`: the files of a bundle are
replaced one after the other, each atomically, and no file is ever removed.  A run
is the list of its replacements, so a crash is a prefix of the list.

`Returned` is what a run that returned has written, and `HoldsRun.validate` is the
validator's answer on every directory that holds it: what is left open is the sidecar,
which an unsigned run does not remove.
-/

namespace AgentSkeptic.Bundle

open AgentSkeptic.Support

namespace Files

def exit : String := "exit.json"
def humanLayer : String := "human-layer.json"

end Files

/-! ## The runtime and the options -/

/-- The collation of `localeCompare`, signing of `node:crypto`, the schema of the
certificate, the identity of the package and the clock. -/
structure WriterRuntime extends BundleRuntime where
  /-- `a.localeCompare(b) <= 0`. -/
  localeLe : String → String → Bool
  /-- `a.localeCompare(b, "en") <= 0`. -/
  localeLeEn : String → String → Bool
  /-- `outcome-certificate-v3.schema.json`. -/
  certificateSchema : Json → Bool
  /-- The signature, in base64, and the public key of a PKCS#8 PEM text; `none` when
  the text is not a key. -/
  sign : String → Bytes → Option (String × String)
  packageIdentity : String × String
  now : String

structure WriteOptions where
  certificate : Json
  noHumanReport : Bool
  runId : Option String
  producer : Option (String × String)
  attestation : Option Json
  nextAction : Option Json
  createdAt : Option String
  signingPrivateKeyPemUtf8 : Option String

/-- A `TruthLayerError`: its code and what its message starts with. -/
structure WriteFailure where
  code : String
  subject : String

/-! ## Reading the certificate -/

def textAt (v : Json) (key : String) : String :=
  match v.member key with
  | .json (.str s) => s
  | _ => ""

def itemsAt (v : Json) (key : String) : List Json :=
  match v.member key with
  | .json (.arr items) => items
  | _ => []

def valueAt (v : Json) (key : String) : Json :=
  match v.member key with
  | .json value => value
  | _ => .null

def numberAt (v : Json) (key : String) : ℚ :=
  match v.member key with
  | .json (.num n) => n.toRat
  | _ => 0

def numberJson (n : ℤ) : Json := .num (.int n)

/-! ## Material truth -/

def sortedUniqueStrings (localeLe : String → String → Bool) (values : List String) :
    List String :=
  (InsertionMap.ofKeys values).keys.insertionSort fun a b => localeLe a b = true

def materialTruthStep (s : Json) : Json :=
  .obj [("seq", valueAt s "seq"), ("toolId", .str (textAt s "toolId")),
    ("declaredAction", .str (textAt s "declaredAction")),
    ("expectedOutcome", .str (textAt s "expectedOutcome")),
    ("observedOutcome", .str (textAt s "observedOutcome"))]

/-- `a.seq - b.seq || a.toolId.localeCompare(b.toolId)` is not positive. -/
def stepLe (localeLe : String → String → Bool) (a b : Json) : Bool :=
  numberAt a "seq" < numberAt b "seq" ||
    (numberAt a "seq" = numberAt b "seq" &&
      localeLe (textAt a "toolId") (textAt b "toolId"))

def jsonNumber? : Json → Option JsNumber
  | .num n => some n
  | _ => none

/-- The distinct seqs of a verdict, ascending. -/
def sortedSeqs (seqs : List Json) : List Json :=
  ((InsertionMap.ofKeys (seqs.filterMap jsonNumber?)).keys.insertionSort fun a b =>
    a.toRat ≤ b.toRat).map .num

def materialTruthVerdict (v : Json) : Json :=
  .obj [("checkpointKey", .str (textAt v "checkpointKey")),
    ("verdict", .str (textAt v "verdict")),
    ("seqs", .arr (sortedSeqs (itemsAt v "seqs")))]

def materialTruthPayload (rt : WriterRuntime) (certificate : Json) : Json :=
  let reasonCodes := sortedUniqueStrings rt.localeLe
    ((itemsAt (valueAt certificate "explanation") "details").map (textAt · "code"))
  let steps := ((itemsAt certificate "steps").map materialTruthStep).insertionSort
    fun a b => stepLe rt.localeLe a b = true
  let checkpointVerdicts :=
    ((itemsAt certificate "checkpointVerdicts").map materialTruthVerdict).insertionSort
      fun a b =>
        rt.localeLe (textAt a "checkpointKey") (textAt b "checkpointKey") = true
  .obj [("schemaVersion", numberJson 2),
    ("workflowId", .str (textAt certificate "workflowId")),
    ("runKind", .str (textAt certificate "runKind")),
    ("stateRelation", .str (textAt certificate "stateRelation")),
    ("reasonCodes", .arr (reasonCodes.map .str)),
    ("evidenceGapPrimary",
      .str (textAt (valueAt certificate "evidenceCompleteness") "blockerCategory")),
    ("steps", .arr steps),
    ("checkpointVerdicts", .arr checkpointVerdicts)]

def materialTruthProjectionFromCertificate (rt : WriterRuntime) (certificate : Json) :
    Except WriteFailure Json :=
  let out := materialTruthPayload rt certificate
  if materialTruthSchemaV2.valid out then .ok out
  else .error ⟨"WORKFLOW_RESULT_SCHEMA_INVALID", "material_truth_invalid"⟩

/-! ## The other files -/

def attestationSchema : Schema :=
  .object ["schemaVersion", "statement"]
    [("schemaVersion", .number 1),
      ("scopeKind", .oneOf ["integrator_owned", "drill_or_reproduction",
        "unspecified"]),
      ("eventsPath", .text 0 none), ("registryPath", .text 0 none),
      ("statement", .text 1 none), ("author", .text 0 none)]

def nextActionSchema (rt : BundleRuntime) : Schema :=
  .object ["schemaVersion", "summary", "createdAt"]
    [("schemaVersion", .number 1), ("summary", .text 1 none),
      ("ticketUrl", .text 0 none), ("createdAt", .textWith rt.isDateTime)]

def exitSchema : Schema :=
  .object ["schemaVersion", "exitCode", "cliConvention"]
    [("schemaVersion", .number 1),
      ("exitCode", .scalar fun
        | .num n => n.toInt?.any fun code => 0 ≤ code ∧ code ≤ 3
        | _ => false),
      ("cliConvention", .oneOf ["outcome_certificate_v2"])]

/-- Exactly one of the two branches of `oneOf`: their `kind` differs. -/
def humanLayerValid (v : Json) : Bool :=
  (Schema.object ["schemaVersion", "kind", "text"]
    [("schemaVersion", .number 1), ("kind", .oneOf ["report"]),
      ("text", .text 0 none)]).valid v !=
  (Schema.object ["schemaVersion", "kind", "reason"]
    [("schemaVersion", .number 1), ("kind", .oneOf ["suppressed"]),
      ("reason", .oneOf ["no_human_report"])]).valid v

def exitCodeFromOutcomeCertificate (certificate : Json) : ℤ :=
  if textAt certificate "stateRelation" = "matches_expectations" then 0
  else if textAt certificate "stateRelation" = "does_not_match" then 1
  else 2

def exitPayload (certificate : Json) : Json :=
  .obj [("schemaVersion", numberJson 1),
    ("exitCode", numberJson (exitCodeFromOutcomeCertificate certificate)),
    ("cliConvention", .str "outcome_certificate_v2")]

def buildHumanLayerFileJson (certificate : Json) (noHumanReport : Bool) : Json :=
  if noHumanReport then
    .obj [("schemaVersion", numberJson 1), ("kind", .str "suppressed"),
      ("reason", .str "no_human_report")]
  else
    .obj [("schemaVersion", numberJson 1), ("kind", .str "report"),
      ("text", .str (textAt certificate "humanReport"))]

/-! ## Completeness -/

structure CompletenessError where
  code : String
  message : String

structure Completeness where
  status : CompletenessStatus
  artifacts : ArtifactsFlags
  errors : List CompletenessError

def a5RequiredFromCertificate (certificate : Json) : Bool :=
  textAt certificate "stateRelation" = "does_not_match" ||
    textAt certificate "stateRelation" = "not_established"

def computeCompletenessFromParts (certificateValid coreFilesPresent : Bool)
    (certificate : Option Json) (a4Present a5Present : Bool) : Completeness :=
  let a5Required := certificate.any a5RequiredFromCertificate
  let artifacts : ArtifactsFlags := { a4Present, a5Present, a5Required }
  if coreFilesPresent = false ∨ certificateValid = false ∨ certificate.isNone then
    { status := .invalid
      artifacts
      errors :=
        (if coreFilesPresent then []
          else [⟨"MISSING_CORE_FILES", "Missing required bundle files."⟩]) ++
        (if certificateValid then []
          else [⟨"CERTIFICATE_INVALID",
            "outcome-certificate.json invalid or not schema-valid."⟩]) }
  else if a5Required && !a5Present then
    { status := .partlyComplete
      artifacts
      errors := [⟨"A5_REQUIRED_MISSING",
        "next-action.json required for this stateRelation."⟩] }
  else { status := .complete, artifacts, errors := [] }

def CompletenessStatus.text : CompletenessStatus → String
  | complete => "complete"
  | partlyComplete => "partial"
  | invalid => "invalid"

def Completeness.json (c : Completeness) : Json :=
  .obj [("status", .str c.status.text),
    ("artifacts", .obj [("a4Present", .bool c.artifacts.a4Present),
      ("a5Present", .bool c.artifacts.a5Present),
      ("a5Required", .bool c.artifacts.a5Required)])]

/-! ## The replacements of a run -/

/-- One atomic replacement of a file. -/
abbrev Replacement := String × Bytes

structure BundleRun where
  replacements : List Replacement
  result : Except WriteFailure Completeness

def validateOptional (schema : Json → Bool) (label : String) (value : Json) :
    Except WriteFailure Unit :=
  if schema value then .ok () else .error ⟨"CLI_USAGE", label⟩

def validatePresent (schema : Json → Bool) (label : String) (value : Option Json) :
    Except WriteFailure Unit :=
  match value with
  | some value => validateOptional schema label value
  | none => .ok ()

/-- No line break behind the text, so that the file has the certificate's digest. -/
def fingerprintUtf8JsonFileBytes (rt : WriterRuntime) (value : Json) : Bytes :=
  utf8Encode (stringifyWithSortedKeys rt.localeLeEn value).toList

def lineUtf8JsonFileBytes (rt : WriterRuntime) (value : Json) : Bytes :=
  utf8Encode ((stringifyWithSortedKeys rt.localeLeEn value).toList ++ ['\n'])

/-- `JSON.stringify(value)` and a line break. -/
def jsonLineBytes (value : Json) : Bytes :=
  utf8Encode (value.stringify.toList ++ ['\n'])

def optionalFile (name : String) (value : Option Json) : List Replacement :=
  match value with
  | some value => [(name, jsonLineBytes value)]
  | none => []

/-- The files that are replaced before the manifest. -/
def artifactFiles (rt : WriterRuntime) (o : WriteOptions) (materialTruth : Json) :
    List Replacement :=
  [(Files.outcomeCertificate, fingerprintUtf8JsonFileBytes rt o.certificate),
    (Files.materialTruth, fingerprintUtf8JsonFileBytes rt materialTruth),
    (Files.exit, jsonLineBytes (exitPayload o.certificate)),
    (Files.humanLayer,
      jsonLineBytes (buildHumanLayerFileJson o.certificate o.noHumanReport))] ++
  optionalFile Files.attestation o.attestation ++
  optionalFile Files.nextAction o.nextAction

/-- What is checked and computed before the first replacement: the material truth. -/
def prepareBundle (rt : WriterRuntime) (o : WriteOptions) :
    Except WriteFailure Json := do
  if rt.certificateSchema o.certificate = false then
    throw ⟨"INTERNAL_ERROR", "writeDecisionEvidenceBundle: certificate invalid"⟩
  validatePresent attestationSchema.valid "decision attestation" o.attestation
  validatePresent (nextActionSchema rt.toBundleRuntime).valid "decision next-action"
    o.nextAction
  let materialTruth ← materialTruthProjectionFromCertificate rt o.certificate
  if materialTruthSchemaV2.valid materialTruth = false then
    throw ⟨"INTERNAL_ERROR", "writeDecisionEvidenceBundle: material-truth invalid"⟩
  validateOptional exitSchema.valid "exit" (exitPayload o.certificate)
  validateOptional humanLayerValid "human-layer"
    (buildHumanLayerFileJson o.certificate o.noHumanReport)
  return materialTruth

def bundleCompleteness (o : WriteOptions) : Completeness :=
  computeCompletenessFromParts true true (some o.certificate) o.attestation.isSome
    o.nextAction.isSome

def manifestPayload (rt : WriterRuntime) (o : WriteOptions) (materialTruth : Json) :
    Json :=
  let producer := o.producer.getD rt.packageIdentity
  .obj ([("schemaVersion", numberJson 2), ("bundleKind", .str "decision_evidence"),
      ("producer", .obj [("name", .str producer.1), ("version", .str producer.2)]),
      ("createdAt", .str (o.createdAt.getD rt.now)),
      ("workflowId", .str (textAt o.certificate "workflowId"))] ++
    (o.runId.toList.map fun runId => ("runId", .str runId)) ++
    [("certificate", .obj [("relativePath", .str Files.outcomeCertificate),
        ("sha256",
          .str (rt.sha256Hex (fingerprintUtf8JsonFileBytes rt o.certificate)))]),
      ("materialTruth", .obj [("relativePath", .str Files.materialTruth),
        ("schemaVersion", numberJson 2),
        ("sha256",
          .str (rt.sha256Hex (fingerprintUtf8JsonFileBytes rt materialTruth)))]),
      ("completeness", (bundleCompleteness o).json)])

def sidecarPayload (rt : WriterRuntime) (payload : Bytes) (signature : String)
    (spkiPem : String) : Json :=
  .obj [("algorithm", .str "ed25519"), ("schemaVersion", numberJson 1),
    ("signatureBase64", .str signature),
    ("signedContentSha256Hex", .str (rt.sha256Hex (lfCanonicalUtf8Payload payload))),
    ("signingPublicKeySpkiPem", .str (normalizeSpkiPemForSidecar spkiPem))]

def signCanonicalBytesEd25519 (rt : WriterRuntime) (payload : Bytes) (pem : String) :
    Except WriteFailure Bytes :=
  match rt.sign pem (lfCanonicalUtf8Payload payload) with
  | none => .error ⟨"BUNDLE_SIGNATURE_PRIVATE_KEY_INVALID", ""⟩
  | some (signature, spkiPem) =>
      .ok (jsonLineBytes (sidecarPayload rt payload signature spkiPem))

def writeDecisionEvidenceBundle (rt : WriterRuntime) (o : WriteOptions) : BundleRun :=
  match prepareBundle rt o with
  | .error failure => ⟨[], .error failure⟩
  | .ok materialTruth =>
      let artifacts := artifactFiles rt o materialTruth
      let manifest := manifestPayload rt o materialTruth
      if (manifestSchemaV2 rt.toBundleRuntime).valid manifest then
        let manifestBytes := lineUtf8JsonFileBytes rt manifest
        let written := artifacts ++ [(Files.manifest, manifestBytes)]
        match o.signingPrivateKeyPemUtf8 with
        | none => ⟨written, .ok (bundleCompleteness o)⟩
        | some pem =>
            match signCanonicalBytesEd25519 rt manifestBytes pem with
            | .error failure => ⟨written, .error failure⟩
            | .ok sidecar =>
                ⟨written ++ [(Files.manifestSignature, sidecar)],
                  .ok (bundleCompleteness o)⟩
      else ⟨artifacts, .error ⟨"CLI_USAGE", "manifest"⟩⟩

/-- The directory after a replacement. -/
def replaceFile (dir : Directory) (r : Replacement) : Directory := fun name =>
  if name = r.1 then .file r.2 else dir name

/-- The directory after some replacements. -/
def replaceFiles (dir : Directory) (rs : List Replacement) : Directory :=
  rs.foldl replaceFile dir

/-! ## Directories after replacements -/

theorem replaceFiles_append (dir : Directory) (rs rs' : List Replacement) :
    replaceFiles dir (rs ++ rs') = replaceFiles (replaceFiles dir rs) rs' :=
  List.foldl_append

/-- A file that no replacement names stays as it is. -/
theorem replaceFiles_other {rs : List Replacement} {name : String}
    (h : name ∉ rs.map Prod.fst) (dir : Directory) :
    replaceFiles dir rs name = dir name := by
  induction rs generalizing dir with
  | nil => rfl
  | cons r rs ih =>
      obtain ⟨hr, hrs⟩ := not_or.mp (mt List.mem_cons.mpr h)
      have htail := ih hrs (replaceFile dir r)
      rw [replaceFile, if_neg hr] at htail
      exact htail

/-- A file that the replacements name once holds its new content. -/
theorem replaceFiles_named {rs : List Replacement} (h : (rs.map Prod.fst).Nodup)
    {r : Replacement} (hr : r ∈ rs) (dir : Directory) :
    replaceFiles dir rs r.1 = .file r.2 := by
  induction rs generalizing dir with
  | nil => cases hr
  | cons r' rs ih =>
      obtain ⟨hr', hrs⟩ := List.nodup_cons.mp h
      rcases List.mem_cons.mp hr with rfl | hmem
      · have hother := replaceFiles_other hr' (replaceFile dir r)
        rw [replaceFile, if_pos rfl] at hother
        exact hother
      · exact ih hrs hmem (replaceFile dir r')

/-! ## The payloads are well formed -/

theorem numberJson_wellFormed_one : (numberJson 1).WellFormed := by
  show JsNumber.Readable (.int 1)
  unfold JsNumber.Readable
  decide +kernel

theorem numberJson_wellFormed_two : (numberJson 2).WellFormed := by
  show JsNumber.Readable (.int 2)
  unfold JsNumber.Readable
  decide +kernel

theorem inherited_ne_json (names : List String) (key : String) (w : Json) :
    inherited names key ≠ .json w := by
  unfold inherited
  split_ifs
  · simp
  · simp
  · simp
  · simp

/-- What a property of a well formed value holds is well formed. -/
theorem member_wellFormed {v w : Json} (h : v.WellFormed) {key : String}
    (hkey : key ≠ "length") (hw : v.member key = .json w) : w.WellFormed := by
  cases v with
  | null => cases hw
  | bool value => exact absurd hw (inherited_ne_json _ _ _)
  | num value => exact absurd hw (inherited_ne_json _ _ _)
  | str text =>
      rw [Json.member, if_neg hkey] at hw
      split at hw
      · cases hw
        trivial
      · exact absurd hw (inherited_ne_json _ _ _)
  | arr items =>
      rw [Json.member, if_neg hkey] at hw
      split at hw
      · rename_i item hitem
        obtain rfl := JsValue.json.inj hw
        obtain ⟨i, -, hget⟩ := Option.bind_eq_some_iff.mp hitem
        exact Schema.wellFormedItems_iff.mp h _ (List.mem_of_getElem? hget)
      · exact absurd hw (inherited_ne_json _ _ _)
  | obj members =>
      rw [Json.member] at hw
      split at hw
      · rename_i value hvalue
        obtain rfl := JsValue.json.inj hw
        exact wellFormedMembers_iff.mp h.2.2 _ (ownMember_eq_some hvalue)
      · exact absurd hw (inherited_ne_json _ _ _)

theorem valueAt_wellFormed {v : Json} (h : v.WellFormed) {key : String}
    (hkey : key ≠ "length") : (valueAt v key).WellFormed := by
  unfold valueAt
  split
  · rename_i w hw
    exact member_wellFormed h hkey hw
  · trivial

theorem itemsAt_wellFormed {v : Json} (h : v.WellFormed) {key : String}
    (hkey : key ≠ "length") : ∀ item ∈ itemsAt v key, item.WellFormed := by
  unfold itemsAt
  split
  · rename_i items hitems
    exact Schema.wellFormedItems_iff.mp (member_wellFormed h hkey hitems)
  · intro item hitem
    cases hitem

theorem materialTruthStep_wellFormed {s : Json} (h : s.WellFormed) :
    (materialTruthStep s).WellFormed := by
  have hseq : (valueAt s "seq").WellFormed := valueAt_wellFormed h (by decide)
  apply wellFormed_obj ["seq", "toolId", "declaredAction", "expectedOutcome",
    "observedOutcome"] rfl (by decide)
  simp [hseq, Json.WellFormed]

theorem sortedSeqs_wellFormed {seqs : List Json} (h : ∀ v ∈ seqs, v.WellFormed) :
    ∀ v ∈ sortedSeqs seqs, v.WellFormed := by
  intro v hv
  obtain ⟨n, hn, rfl⟩ := List.mem_map.mp hv
  have hkeys := (List.mem_insertionSort _).mp hn
  have hmem := InsertionMap.mem_keys_ofKeys.mp hkeys
  obtain ⟨w, hw, hnumber⟩ := List.mem_filterMap.mp hmem
  cases w with
  | num m =>
      obtain rfl := Option.some.inj hnumber
      exact h _ hw
  | null => cases hnumber
  | bool value => cases hnumber
  | str value => cases hnumber
  | arr items => cases hnumber
  | obj members => cases hnumber

theorem materialTruthVerdict_wellFormed {v : Json} (h : v.WellFormed) :
    (materialTruthVerdict v).WellFormed := by
  have hseqs : Json.WellFormedItems (sortedSeqs (itemsAt v "seqs")) :=
    Schema.wellFormedItems_iff.mpr
      (sortedSeqs_wellFormed (itemsAt_wellFormed h (by decide)))
  apply wellFormed_obj ["checkpointKey", "verdict", "seqs"] rfl (by decide)
  simp [hseqs, Json.WellFormed]

theorem materialTruthPayload_wellFormed (rt : WriterRuntime) {certificate : Json}
    (h : certificate.WellFormed) : (materialTruthPayload rt certificate).WellFormed := by
  have hreasons : ∀ (codes : List String), (Json.arr (codes.map .str)).WellFormed := by
    intro codes
    apply wellFormed_arr
    intro v hv
    obtain ⟨s, -, rfl⟩ := List.mem_map.mp hv
    trivial
  have hsteps : ∀ (le : Json → Json → Bool), (Json.arr
      (((itemsAt certificate "steps").map materialTruthStep).insertionSort
        fun a b => le a b = true)).WellFormed := by
    intro le
    apply wellFormed_arr
    intro v hv
    obtain ⟨s, hs, rfl⟩ := List.mem_map.mp ((List.mem_insertionSort _).mp hv)
    exact materialTruthStep_wellFormed (itemsAt_wellFormed h (by decide) s hs)
  have hverdicts : ∀ (le : Json → Json → Bool), (Json.arr
      (((itemsAt certificate "checkpointVerdicts").map
        materialTruthVerdict).insertionSort fun a b => le a b = true)).WellFormed := by
    intro le
    apply wellFormed_arr
    intro v hv
    obtain ⟨w, hw, rfl⟩ := List.mem_map.mp ((List.mem_insertionSort _).mp hv)
    exact materialTruthVerdict_wellFormed (itemsAt_wellFormed h (by decide) w hw)
  apply wellFormed_obj ["schemaVersion", "workflowId", "runKind", "stateRelation",
    "reasonCodes", "evidenceGapPrimary", "steps", "checkpointVerdicts"] rfl
    (by decide)
  intro m hm
  simp only [List.mem_cons, List.not_mem_nil, or_false] at hm
  rcases hm with rfl | rfl | rfl | rfl | rfl | rfl | rfl | rfl
  · exact numberJson_wellFormed_two
  · trivial
  · trivial
  · trivial
  · exact hreasons _
  · trivial
  · exact hsteps (stepLe rt.localeLe)
  · exact hverdicts fun a b =>
      rt.localeLe (textAt a "checkpointKey") (textAt b "checkpointKey")

theorem completeness_wellFormed (c : Completeness) : c.json.WellFormed := by
  have hflags : (Json.obj [("a4Present", .bool c.artifacts.a4Present),
      ("a5Present", .bool c.artifacts.a5Present),
      ("a5Required", .bool c.artifacts.a5Required)]).WellFormed := by
    apply wellFormed_obj ["a4Present", "a5Present", "a5Required"] rfl (by decide)
    simp [Json.WellFormed]
  apply wellFormed_obj ["status", "artifacts"] rfl (by decide)
  intro m hm
  simp only [List.mem_cons, List.not_mem_nil, or_false] at hm
  rcases hm with rfl | rfl
  · trivial
  · exact hflags

theorem manifestPayload_wellFormed (rt : WriterRuntime) (o : WriteOptions)
    (materialTruth : Json) : (manifestPayload rt o materialTruth).WellFormed := by
  have hproducer : ∀ name version : String,
      (Json.obj [("name", .str name), ("version", .str version)]).WellFormed := by
    intro name version
    apply wellFormed_obj ["name", "version"] rfl (by decide)
    simp [Json.WellFormed]
  have hcertificate : ∀ path sha : String,
      (Json.obj [("relativePath", .str path), ("sha256", .str sha)]).WellFormed := by
    intro path sha
    apply wellFormed_obj ["relativePath", "sha256"] rfl (by decide)
    simp [Json.WellFormed]
  have hmaterialTruth : ∀ path sha : String,
      (Json.obj [("relativePath", .str path), ("schemaVersion", numberJson 2),
        ("sha256", .str sha)]).WellFormed := by
    intro path sha
    apply wellFormed_obj ["relativePath", "schemaVersion", "sha256"] rfl (by decide)
    simp [Json.WellFormed, numberJson_wellFormed_two]
  have hvalues : ∀ members, manifestPayload rt o materialTruth = .obj members →
      ∀ m ∈ members, m.2.WellFormed := by
    intro members hmembers m hm
    rw [← Json.obj.inj hmembers] at hm
    simp only [List.mem_append, List.mem_cons, List.mem_map,
      List.not_mem_nil, or_false] at hm
    rcases hm with ((rfl | rfl | rfl | rfl | rfl) | ⟨runId, -, rfl⟩) |
      rfl | rfl | rfl
    · exact numberJson_wellFormed_two
    · trivial
    · exact hproducer _ _
    · trivial
    · trivial
    · trivial
    · exact hcertificate _ _
    · exact hmaterialTruth _ _
    · exact completeness_wellFormed _
  unfold manifestPayload at hvalues ⊢
  cases hrun : o.runId with
  | none =>
      rw [hrun] at hvalues
      exact wellFormed_obj ["schemaVersion", "bundleKind", "producer", "createdAt",
        "workflowId", "certificate", "materialTruth", "completeness"] rfl (by decide)
        (hvalues _ rfl)
  | some runId =>
      rw [hrun] at hvalues
      exact wellFormed_obj ["schemaVersion", "bundleKind", "producer", "createdAt",
        "workflowId", "runId", "certificate", "materialTruth", "completeness"] rfl
        (by decide) (hvalues _ rfl)

theorem sidecarPayload_wellFormed (rt : WriterRuntime) (payload : Bytes)
    (signature spkiPem : String) :
    (sidecarPayload rt payload signature spkiPem).WellFormed := by
  apply wellFormed_obj ["algorithm", "schemaVersion", "signatureBase64",
    "signedContentSha256Hex", "signingPublicKeySpkiPem"] rfl (by decide)
  simp [numberJson_wellFormed_one, Json.WellFormed]

/-! ## Reading the files of a run -/

theorem parseBytes_fingerprint (rt : WriterRuntime) {v : Json} (h : v.WellFormed) :
    parseBytes (fingerprintUtf8JsonFileBytes rt v) =
      some (canonicalizeForJson rt.localeLeEn v) := by
  have hparse := parseJson_stringifyWithSortedKeys rt.localeLeEn h
    (List.forall_mem_nil _)
  rw [List.append_nil] at hparse
  rw [parseBytes, fingerprintUtf8JsonFileBytes, utf8Decode_utf8Encode, hparse]

theorem parseBytes_line (rt : WriterRuntime) {v : Json} (h : v.WellFormed) :
    parseBytes (lineUtf8JsonFileBytes rt v) =
      some (canonicalizeForJson rt.localeLeEn v) := by
  rw [parseBytes, lineUtf8JsonFileBytes, utf8Decode_utf8Encode,
    parseJson_stringifyWithSortedKeys rt.localeLeEn h (forall_mem_of_all (by decide))]

theorem parseBytes_jsonLine {v : Json} (h : v.WellFormed) :
    parseBytes (jsonLineBytes v) = some v := by
  rw [parseBytes, jsonLineBytes, utf8Decode_utf8Encode,
    parseJson_stringify h (forall_mem_of_all (by decide))]

theorem manifestSchemaV2_ordinary (rt : BundleRuntime) :
    (manifestSchemaV2 rt).Ordinary := by
  simp [manifestSchemaV2, completenessSchema, certificateEntrySchema,
    materialTruthEntrySchema, Schema.Ordinary, Schema.OrdinaryMembers]

theorem materialTruthSchemaV2_ordinary : materialTruthSchemaV2.Ordinary := by
  simp [materialTruthSchemaV2, Schema.Ordinary, Schema.OrdinaryMembers]

/-- Only a manifest that declares version 2 fits the version 2 schema. -/
theorem manifestSchemaV2_version {rt : BundleRuntime} {manifest : Json}
    (h : (manifestSchemaV2 rt).valid manifest = true) :
    detectManifestVersion manifest = .two := by
  obtain ⟨v, hv, htwo⟩ := Schema.valid_required h (by simp) (.head _)
  obtain rfl := Schema.number_valid htwo
  cases manifest with
  | obj members =>
      cases hown : ownMember members "schemaVersion" with
      | none => simp [Json.member, hown, inherited, objectPrototypeNames] at hv
      | some w =>
          simp only [Json.member, hown, JsValue.json.injEq] at hv
          simp [detectManifestVersion, hown, hv]
  | null => cases h
  | bool value => cases h
  | num value => cases h
  | str value => cases h
  | arr items => cases h

/-- The directory holds a version 2 manifest that its schema admits, and the
manifest does not call the bundle incomplete. -/
structure HoldsManifest (rt : BundleRuntime) (dir : Directory) (manifestBytes : Bytes)
    (manifest : Json) : Prop where
  read : readFileOptional dir Files.manifest = some manifestBytes
  parsed : parseBytes manifestBytes = some manifest
  schema : (manifestSchemaV2 rt).valid manifest = true
  status : manifestStatus manifest ≠ .invalid

/-- What the validator answers for such a directory. -/
theorem HoldsManifest.validate {rt : BundleRuntime} {dir : Directory}
    {manifestBytes : Bytes} {manifest : Json}
    (h : HoldsManifest rt dir manifestBytes manifest) (key : Option String) :
    let line := validateDecisionEvidenceBundle rt dir key
    let certificate := checkCertificate rt dir manifest
    let materialTruth := checkMaterialTruth rt dir manifest
    let signature := checkSignature rt dir manifestBytes key
    (line.status = .valid ↔
      certificate.2 = [] ∧ materialTruth.2 = [] ∧ signature.2.2 = []) ∧
    line.integrity.manifestVersion = .two ∧
    line.integrity.certificateFingerprintOk = some certificate.1 ∧
    line.integrity.materialTruthFingerprintOk = materialTruth.1 ∧
    line.integrity.signature = signature.1 := by
  have hversion := manifestSchemaV2_version h.schema
  have hchecks : integrityChecks rt dir key manifestBytes manifest =
      { certificateFingerprintOk := some (checkCertificate rt dir manifest).1
        materialTruthFingerprintOk := (checkMaterialTruth rt dir manifest).1
        signature := (checkSignature rt dir manifestBytes key).1
        signaturePublicKeySpkiPem := (checkSignature rt dir manifestBytes key).2.1
        errors := (checkCertificate rt dir manifest).2 ++
          (checkMaterialTruth rt dir manifest).2 ++
          (checkSignature rt dir manifestBytes key).2.2 } := by
    rw [integrityChecks, hversion]
  have hline : validateDecisionEvidenceBundle rt dir key =
      validateParsedManifest rt dir key manifestBytes manifest := by
    unfold validateDecisionEvidenceBundle
    rw [h.read]
    dsimp only
    rw [h.parsed]
    dsimp only
    rw [if_neg]
    rintro ⟨-, hinvalid⟩
    rw [h.schema] at hinvalid
    cases hinvalid
  dsimp only
  rw [hline]
  refine ⟨?_, ?_, ?_, ?_, ?_⟩
  · rw [validateParsedManifest, hchecks]
    dsimp only
    constructor
    · intro hvalid
      split_ifs at hvalid with hbad
      obtain ⟨herrors, -⟩ := not_or.mp hbad
      have hnil : (checkCertificate rt dir manifest).2 ++
          (checkMaterialTruth rt dir manifest).2 ++
          (checkSignature rt dir manifestBytes key).2.2 = [] := by
        simpa using herrors
      obtain ⟨hfirst, hsignature⟩ := List.append_eq_nil_iff.mp hnil
      obtain ⟨hcertificate, hmaterialTruth⟩ := List.append_eq_nil_iff.mp hfirst
      exact ⟨hcertificate, hmaterialTruth, hsignature⟩
    · rintro ⟨hcertificate, hmaterialTruth, hsignature⟩
      rw [if_neg]
      rw [hcertificate, hmaterialTruth, hsignature]
      simpa using h.status
  · rw [validateParsedManifest]
    exact hversion
  · rw [validateParsedManifest, hchecks]
  · rw [validateParsedManifest, hchecks]
  · rw [validateParsedManifest, hchecks]

/-! ## What a run that returns has written -/

/-- The sidecar that a run writes behind the manifest. -/
inductive SidecarFiles (rt : WriterRuntime) (manifestBytes : Bytes) :
    Option String → List Replacement → Prop where
  | unsigned : SidecarFiles rt manifestBytes none []
  | signed (privateKey signature spkiPem : String)
      (sign : rt.sign privateKey (lfCanonicalUtf8Payload manifestBytes) =
        some (signature, spkiPem)) :
      SidecarFiles rt manifestBytes (some privateKey)
        [(Files.manifestSignature,
          jsonLineBytes (sidecarPayload rt manifestBytes signature spkiPem))]

/-- A run that returned: its material truth and manifest fit their schemas, and the
replacements are the artifacts, the manifest and the sidecar. -/
structure Returned (rt : WriterRuntime) (o : WriteOptions) (materialTruth : Json)
    (sidecar : List Replacement) : Prop where
  payload : materialTruth = materialTruthPayload rt o.certificate
  materialTruth_valid : materialTruthSchemaV2.valid materialTruth = true
  manifest_valid :
    (manifestSchemaV2 rt.toBundleRuntime).valid (manifestPayload rt o materialTruth) =
      true
  signed : SidecarFiles rt
    (lineUtf8JsonFileBytes rt (manifestPayload rt o materialTruth))
    o.signingPrivateKeyPemUtf8 sidecar
  replacements : (writeDecisionEvidenceBundle rt o).replacements =
    artifactFiles rt o materialTruth ++
      [(Files.manifest,
        lineUtf8JsonFileBytes rt (manifestPayload rt o materialTruth))] ++ sidecar

theorem prepareBundle_ok {rt : WriterRuntime} {o : WriteOptions} {materialTruth : Json}
    (h : prepareBundle rt o = .ok materialTruth) :
    materialTruth = materialTruthPayload rt o.certificate ∧
      materialTruthSchemaV2.valid materialTruth = true := by
  unfold prepareBundle at h
  split_ifs at h with hcertificate
  · cases h
  · obtain ⟨-, -, h⟩ := bind_eq_ok.mp h
    obtain ⟨-, -, h⟩ := bind_eq_ok.mp h
    obtain ⟨-, -, h⟩ := bind_eq_ok.mp h
    obtain ⟨truth, htruth, h⟩ := bind_eq_ok.mp h
    unfold materialTruthProjectionFromCertificate at htruth
    dsimp only at htruth
    split_ifs at htruth with hvalid
    obtain rfl := Except.ok.inj htruth
    split_ifs at h with hinvalid
    · cases h
    · obtain ⟨-, -, h⟩ := bind_eq_ok.mp h
      obtain ⟨-, -, h⟩ := bind_eq_ok.mp h
      obtain rfl := Except.ok.inj h
      exact ⟨rfl, hvalid⟩

theorem writeDecisionEvidenceBundle_ok {rt : WriterRuntime} {o : WriteOptions}
    {c : Completeness} (h : (writeDecisionEvidenceBundle rt o).result = .ok c) :
    ∃ materialTruth sidecar, Returned rt o materialTruth sidecar := by
  cases hprepare : prepareBundle rt o with
  | error failure =>
      rw [writeDecisionEvidenceBundle, hprepare] at h
      cases h
  | ok materialTruth =>
      obtain ⟨hpayload, hmaterialTruth⟩ := prepareBundle_ok hprepare
      have hrun : writeDecisionEvidenceBundle rt o =
          writeDecisionEvidenceBundle rt o := rfl
      conv_rhs at hrun => rw [writeDecisionEvidenceBundle, hprepare]
      dsimp only at hrun
      by_cases hmanifest : (manifestSchemaV2 rt.toBundleRuntime).valid
          (manifestPayload rt o materialTruth) = true
      · rw [if_pos hmanifest] at hrun
        cases hkey : o.signingPrivateKeyPemUtf8 with
        | none =>
            rw [hkey] at hrun
            refine ⟨materialTruth, [], hpayload, hmaterialTruth, hmanifest, ?_, ?_⟩
            · rw [hkey]
              exact .unsigned
            · rw [hrun, List.append_nil]
        | some pem =>
            rw [hkey] at hrun
            dsimp only at hrun
            unfold signCanonicalBytesEd25519 at hrun
            cases hsign : rt.sign pem (lfCanonicalUtf8Payload
                (lineUtf8JsonFileBytes rt (manifestPayload rt o materialTruth))) with
            | none =>
                rw [hsign] at hrun
                rw [hrun] at h
                cases h
            | some signed =>
                obtain ⟨signature, spkiPem⟩ := signed
                rw [hsign] at hrun
                refine ⟨materialTruth, [(Files.manifestSignature, jsonLineBytes
                  (sidecarPayload rt (lineUtf8JsonFileBytes rt
                    (manifestPayload rt o materialTruth)) signature spkiPem))],
                  hpayload, hmaterialTruth, hmanifest, ?_, ?_⟩
                · rw [hkey]
                  exact .signed pem signature spkiPem hsign
                · rw [hrun]
      · rw [if_neg hmanifest] at hrun
        rw [hrun] at h
        cases h

/-! ## When a run returns -/

/-- The exit code that a certificate yields fits its schema. -/
theorem exitPayload_valid (certificate : Json) :
    exitSchema.valid (exitPayload certificate) = true := by
  unfold exitPayload exitCodeFromOutcomeCertificate
  split_ifs
  · decide
  · decide
  · decide

/-- So does the human layer, with or without its report. -/
theorem buildHumanLayerFileJson_valid (certificate : Json) (noHumanReport : Bool) :
    humanLayerValid (buildHumanLayerFileJson certificate noHumanReport) = true := by
  cases noHumanReport with
  | true => rfl
  | false => rfl

theorem numberJson_valid (n : ℤ) : (Schema.number n).valid (numberJson n) = true := by
  simp [Schema.number, Schema.valid, numberJson]

/-- The manifest fits its schema when the texts do that come from outside. -/
theorem manifestPayload_valid {rt : WriterRuntime} {o : WriteOptions}
    {materialTruth : Json}
    (hhex : ∀ bytes, isSha256Hex (rt.sha256Hex bytes) = true)
    (hproducer : 1 ≤ (o.producer.getD rt.packageIdentity).1.length ∧
      1 ≤ (o.producer.getD rt.packageIdentity).2.length)
    (hcreated : rt.isDateTime (o.createdAt.getD rt.now) = true)
    (hworkflow : 1 ≤ (textAt o.certificate "workflowId").length)
    (hrun : ∀ runId, o.runId = some runId → 1 ≤ runId.length) :
    (manifestSchemaV2 rt.toBundleRuntime).valid (manifestPayload rt o materialTruth) =
      true := by
  have hcertificate := hhex (fingerprintUtf8JsonFileBytes rt o.certificate)
  have hmaterialTruth := hhex (fingerprintUtf8JsonFileBytes rt materialTruth)
  have hcompleteness : completenessSchema.valid (bundleCompleteness o).json = true := by
    unfold bundleCompleteness computeCompletenessFromParts
    simp only [Bool.true_eq_false, Option.isNone_some, or_self, if_false,
      Bool.false_eq_true]
    split_ifs
    · rfl
    · rfl
  have hcertificateEntry : certificateEntrySchema.valid
      (.obj [("relativePath", .str Files.outcomeCertificate), ("sha256",
        .str (rt.sha256Hex (fingerprintUtf8JsonFileBytes rt o.certificate)))]) =
        true := by
    simp [certificateEntrySchema, Schema.valid, Schema.validMembers, ownMember,
      Schema.oneOf, Schema.textWith, Files.outcomeCertificate, hcertificate]
  have hmaterialTruthEntry : materialTruthEntrySchema.valid
      (.obj [("relativePath", .str Files.materialTruth), ("schemaVersion", numberJson 2),
        ("sha256", .str (rt.sha256Hex (fingerprintUtf8JsonFileBytes rt
          materialTruth)))]) = true := by
    simp [materialTruthEntrySchema, Schema.valid, Schema.validMembers, ownMember,
      Schema.oneOf, Schema.textWith, numberJson_valid, Files.materialTruth,
      hmaterialTruth]
  cases hid : o.runId with
  | none =>
      simp [manifestSchemaV2, manifestPayload, hid, Schema.valid, Schema.validMembers,
        ownMember, Schema.oneOf, Schema.textWith, Schema.text, numberJson_valid,
        hproducer, hcreated, hworkflow, hcertificateEntry, hmaterialTruthEntry,
        hcompleteness]
  | some runId =>
      simp [manifestSchemaV2, manifestPayload, hid, Schema.valid, Schema.validMembers,
        ownMember, Schema.oneOf, Schema.textWith, Schema.text, numberJson_valid,
        hproducer, hcreated, hworkflow, hrun runId hid, hcertificateEntry,
        hmaterialTruthEntry, hcompleteness]

/-- A run that is not signed returns once its inputs fit their schemas. -/
theorem writeDecisionEvidenceBundle_unsigned {rt : WriterRuntime} {o : WriteOptions}
    (hcertificate : rt.certificateSchema o.certificate = true)
    (hattestation : ∀ v, o.attestation = some v → attestationSchema.valid v = true)
    (hnextAction : ∀ v, o.nextAction = some v →
      (nextActionSchema rt.toBundleRuntime).valid v = true)
    (hmaterialTruth : materialTruthSchemaV2.valid
      (materialTruthPayload rt o.certificate) = true)
    (hmanifest : (manifestSchemaV2 rt.toBundleRuntime).valid
      (manifestPayload rt o (materialTruthPayload rt o.certificate)) = true)
    (hkey : o.signingPrivateKeyPemUtf8 = none) :
    (writeDecisionEvidenceBundle rt o).result = .ok (bundleCompleteness o) := by
  have hpresent : ∀ (schema : Json → Bool) (label : String) (value : Option Json),
      (∀ v, value = some v → schema v = true) →
      validatePresent schema label value = .ok () := by
    intro schema label value hvalue
    cases value with
    | none => rfl
    | some v =>
        rw [validatePresent, validateOptional, if_pos (hvalue v rfl)]
  have hprepare : prepareBundle rt o = .ok (materialTruthPayload rt o.certificate) := by
    unfold prepareBundle
    rw [if_neg (by simp [hcertificate]), hpresent _ _ _ hattestation,
      hpresent _ _ _ hnextAction, materialTruthProjectionFromCertificate,
      validateOptional, validateOptional]
    dsimp only
    rw [if_pos hmaterialTruth, if_pos (exitPayload_valid _),
      if_pos (buildHumanLayerFileJson_valid _ _)]
    dsimp only [bind, Except.bind, pure, Except.pure]
    rw [if_neg (by simp [hmaterialTruth])]
  unfold writeDecisionEvidenceBundle
  rw [hprepare]
  dsimp only
  rw [if_pos hmanifest, hkey]

/-! ## The names of the files -/

def artifactNames : List String :=
  [Files.outcomeCertificate, Files.materialTruth, Files.exit, Files.humanLayer,
    Files.attestation, Files.nextAction]

theorem artifactFiles_names (rt : WriterRuntime) (o : WriteOptions)
    (materialTruth : Json) :
    ((artifactFiles rt o materialTruth).map Prod.fst).Sublist artifactNames := by
  have hoptional : ∀ (name : String) (value : Option Json),
      ((optionalFile name value).map Prod.fst).Sublist [name] := by
    intro name value
    cases value with
    | none => exact List.nil_sublist _
    | some value => exact List.Sublist.refl _
  rw [artifactFiles, List.map_append, List.map_append]
  exact ((List.Sublist.refl _).append (hoptional _ _)).append (hoptional _ _)

theorem Returned.names {rt : WriterRuntime} {o : WriteOptions} {materialTruth : Json}
    {sidecar : List Replacement} (h : Returned rt o materialTruth sidecar) :
    ((writeDecisionEvidenceBundle rt o).replacements.map Prod.fst).Sublist
      (artifactNames ++ [Files.manifest] ++ [Files.manifestSignature]) := by
  have hsidecar : (sidecar.map Prod.fst).Sublist [Files.manifestSignature] := by
    have hsigned := h.signed
    cases hkey : o.signingPrivateKeyPemUtf8 with
    | none =>
        rw [hkey] at hsigned
        cases hsigned
        exact List.nil_sublist _
    | some key =>
        rw [hkey] at hsigned
        cases hsigned
        exact List.Sublist.refl _
  rw [h.replacements, List.map_append, List.map_append]
  exact ((artifactFiles_names rt o materialTruth).append
    (List.Sublist.refl _)).append hsidecar

theorem Returned.nodup {rt : WriterRuntime} {o : WriteOptions} {materialTruth : Json}
    {sidecar : List Replacement} (h : Returned rt o materialTruth sidecar) :
    ((writeDecisionEvidenceBundle rt o).replacements.map Prod.fst).Nodup := by
  apply h.names.nodup
  decide

/-! ## The manifest that a run has written -/

theorem manifestPayload_members (rt : WriterRuntime) (o : WriteOptions)
    (materialTruth : Json) : ∃ members,
      manifestPayload rt o materialTruth = .obj members ∧
      ownMember members "certificate" =
        some (.obj [("relativePath", .str Files.outcomeCertificate),
          ("sha256",
            .str (rt.sha256Hex (fingerprintUtf8JsonFileBytes rt o.certificate)))]) ∧
      ownMember members "materialTruth" =
        some (.obj [("relativePath", .str Files.materialTruth),
          ("schemaVersion", numberJson 2),
          ("sha256",
            .str (rt.sha256Hex (fingerprintUtf8JsonFileBytes rt materialTruth)))]) ∧
      ownMember members "completeness" = some (bundleCompleteness o).json := by
  refine ⟨_, rfl, ?_, ?_, ?_⟩
  · cases o.runId with
    | none => rfl
    | some runId => rfl
  · cases o.runId with
    | none => rfl
    | some runId => rfl
  · cases o.runId with
    | none => rfl
    | some runId => rfl

/-- A text two levels down in the canonical form of an object. -/
theorem canonical_text (localeLe : String → String → Bool)
    {members entry : List (String × Json)} (h : (Json.obj members).WellFormed)
    {name key s : String} (hname : name ≠ "__proto__") (hkey : key ≠ "__proto__")
    (hentry : ownMember members name = some (.obj entry))
    (htext : ownMember entry key = some (.str s)) :
    ((canonicalizeForJson localeLe (.obj members)).member name).optionalMember key =
      .json (.str s) := by
  have hwell : (Json.obj entry).WellFormed :=
    wellFormedMembers_iff.mp h.2.2 _ (ownMember_eq_some hentry)
  have houter := ownMember_canonicalize localeLe h.1 hname
  have hinner := ownMember_canonicalize localeLe hwell.1 hkey
  rw [hentry] at houter
  rw [htext] at hinner
  simp only [canonicalizeForJson, Json.member, houter, Option.map_some,
    JsValue.optionalMember, JsValue.isNullish, JsValue.member, hinner]
  rfl

/-- What the manifest of a run declares. -/
theorem manifestPayload_declared (rt : WriterRuntime) (o : WriteOptions)
    (materialTruth : Json) :
    let manifest := canonicalizeForJson rt.localeLeEn
      (manifestPayload rt o materialTruth)
    declaredSha manifest "certificate" =
        rt.sha256Hex (fingerprintUtf8JsonFileBytes rt o.certificate) ∧
      declaredSha manifest "materialTruth" =
        rt.sha256Hex (fingerprintUtf8JsonFileBytes rt materialTruth) ∧
      manifestStatus manifest ≠ .invalid := by
  obtain ⟨members, hmembers, hcertificate, hmaterialTruth, hcompleteness⟩ :=
    manifestPayload_members rt o materialTruth
  have hwell := manifestPayload_wellFormed rt o materialTruth
  rw [hmembers] at hwell
  dsimp only
  rw [hmembers]
  refine ⟨?_, ?_, ?_⟩
  · rw [declaredSha, canonical_text rt.localeLeEn hwell (by decide) (by decide)
      hcertificate rfl]
  · rw [declaredSha, canonical_text rt.localeLeEn hwell (by decide) (by decide)
      hmaterialTruth rfl]
  · rw [manifestStatus, canonical_text rt.localeLeEn hwell (by decide) (by decide)
      hcompleteness rfl]
    unfold bundleCompleteness computeCompletenessFromParts
    simp only [Bool.true_eq_false, Option.isNone_some, or_self, if_false,
      Bool.false_eq_true]
    split_ifs
    · simp [CompletenessStatus.text]
    · simp [CompletenessStatus.text]

/-- A directory that holds the certificate, the material truth and the manifest of a
run. -/
structure HoldsRun (rt : WriterRuntime) (o : WriteOptions) (materialTruth : Json)
    (dir : Directory) : Prop where
  certificate : dir Files.outcomeCertificate =
    .file (fingerprintUtf8JsonFileBytes rt o.certificate)
  truth : dir Files.materialTruth =
    .file (fingerprintUtf8JsonFileBytes rt materialTruth)
  manifest : dir Files.manifest =
    .file (lineUtf8JsonFileBytes rt (manifestPayload rt o materialTruth))

section Holds

variable {rt : WriterRuntime} {o : WriteOptions} {materialTruth : Json}
  {sidecar : List Replacement} {dir : Directory}

theorem HoldsRun.holdsManifest (hdir : HoldsRun rt o materialTruth dir)
    (h : Returned rt o materialTruth sidecar) :
    HoldsManifest rt.toBundleRuntime dir
      (lineUtf8JsonFileBytes rt (manifestPayload rt o materialTruth))
      (canonicalizeForJson rt.localeLeEn (manifestPayload rt o materialTruth)) where
  read := by rw [readFileOptional, hdir.manifest]
  parsed := parseBytes_line rt (manifestPayload_wellFormed rt o materialTruth)
  schema := Schema.valid_canonicalize rt.localeLeEn _
    (manifestSchemaV2_ordinary rt.toBundleRuntime) _
    (manifestPayload_wellFormed rt o materialTruth) h.manifest_valid
  status := (manifestPayload_declared rt o materialTruth).2.2

/-- The digest that a manifest of the writer declares is one. -/
theorem Returned.certificate_digest (h : Returned rt o materialTruth sidecar) :
    rt.sha256Hex (fingerprintUtf8JsonFileBytes rt o.certificate) ≠ "" := by
  obtain ⟨members, hmembers, hcertificate, -, -⟩ :=
    manifestPayload_members rt o materialTruth
  have hvalid := h.manifest_valid
  rw [hmembers] at hvalid
  obtain ⟨-, -, hproperties⟩ := Schema.valid_object_iff.mp hvalid
  have hentry := Schema.validMembers_mem hproperties
    (.tail _ (.tail _ (.tail _ (.tail _ (.tail _ (.tail _ (.head _)))))))
    hcertificate
  obtain ⟨-, -, hfields⟩ := Schema.valid_object_iff.mp hentry
  have hsha := Schema.validMembers_mem hfields (.tail _ (.head _)) rfl
  intro hempty
  rw [hempty] at hsha
  cases hsha

theorem HoldsRun.checkCertificate (hdir : HoldsRun rt o materialTruth dir)
    (h : Returned rt o materialTruth sidecar) :
    Bundle.checkCertificate rt.toBundleRuntime dir
      (canonicalizeForJson rt.localeLeEn (manifestPayload rt o materialTruth)) =
        (true, []) := by
  unfold Bundle.checkCertificate
  rw [readFileOptional, hdir.certificate, (manifestPayload_declared rt o materialTruth).1]
  dsimp only
  rw [if_pos h.certificate_digest, if_pos rfl]

theorem HoldsRun.checkMaterialTruth (hdir : HoldsRun rt o materialTruth dir)
    (h : Returned rt o materialTruth sidecar) (hwell : o.certificate.WellFormed) :
    Bundle.checkMaterialTruth rt.toBundleRuntime dir
      (canonicalizeForJson rt.localeLeEn (manifestPayload rt o materialTruth)) =
        (some true, []) := by
  have htruth : materialTruth.WellFormed := by
    rw [h.payload]
    exact materialTruthPayload_wellFormed rt hwell
  have hschema := Schema.valid_canonicalize rt.localeLeEn _
    materialTruthSchemaV2_ordinary materialTruth htruth h.materialTruth_valid
  unfold Bundle.checkMaterialTruth
  rw [existsArtifact, readFileOptional, hdir.truth, (manifestPayload_declared rt o materialTruth).2.1]
  simp [parseBytes_fingerprint rt htruth, hschema]

/-- A directory with the files of a run is as valid as its sidecar. -/
theorem HoldsRun.validate (hdir : HoldsRun rt o materialTruth dir)
    (h : Returned rt o materialTruth sidecar) (hwell : o.certificate.WellFormed)
    (key : Option String) :
    let line := validateDecisionEvidenceBundle rt.toBundleRuntime dir key
    let signature := checkSignature rt.toBundleRuntime dir
      (lineUtf8JsonFileBytes rt (manifestPayload rt o materialTruth)) key
    (line.status = .valid ↔ signature.2.2 = []) ∧
      line.integrity.certificateFingerprintOk = some true ∧
      line.integrity.materialTruthFingerprintOk = some true ∧
      line.integrity.signature = signature.1 := by
  obtain ⟨hstatus, -, hcertificate, hmaterialTruth, hsignature⟩ :=
    (hdir.holdsManifest h).validate key
  rw [hdir.checkCertificate h, hdir.checkMaterialTruth h hwell] at hstatus
  rw [hdir.checkCertificate h] at hcertificate
  rw [hdir.checkMaterialTruth h hwell] at hmaterialTruth
  refine ⟨?_, hcertificate, hmaterialTruth, hsignature⟩
  simpa using hstatus

/-- After the manifest is replaced, the directory holds the run. -/
theorem Returned.holdsRun (h : Returned rt o materialTruth sidecar)
    {rs : List Replacement}
    (hrs : rs.Sublist (writeDecisionEvidenceBundle rt o).replacements)
    (hfiles : artifactFiles rt o materialTruth ++
      [(Files.manifest,
        lineUtf8JsonFileBytes rt (manifestPayload rt o materialTruth))] ⊆ rs)
    (dir : Directory) : HoldsRun rt o materialTruth (replaceFiles dir rs) := by
  have hnodup : (rs.map Prod.fst).Nodup := (hrs.map _).nodup h.nodup
  have hcertificate := hfiles (List.mem_append_left _ (List.mem_append_left _
    (List.mem_append_left _ (.head _))))
  have hmaterialTruth := hfiles (List.mem_append_left _ (List.mem_append_left _
    (List.mem_append_left _ (.tail _ (.head _)))))
  have hmanifest := hfiles (List.mem_append_right _ (.head _))
  exact ⟨replaceFiles_named hnodup hcertificate dir,
    replaceFiles_named hnodup hmaterialTruth dir,
    replaceFiles_named hnodup hmanifest dir⟩

end Holds

/-! ## The sidecar of a run -/

/-- What the writer relies on of a key pair: what the private key signs verifies
under the public one, and neither the signature nor the exported key is empty. -/
def KeyPair (rt : WriterRuntime) (privateKey publicKey : String) : Prop :=
  ∀ message signature spkiPem,
    rt.sign privateKey message = some (signature, spkiPem) →
    rt.verify (normalizeSpkiPemForSidecar publicKey) message signature = true ∧
      1 ≤ signature.length ∧ 32 ≤ (normalizeSpkiPemForSidecar spkiPem).length

theorem sidecarPayload_valid {rt : WriterRuntime}
    (hhex : ∀ bytes, isSha256Hex (rt.sha256Hex bytes) = true) (payload : Bytes)
    {signature spkiPem : String} (hsignature : 1 ≤ signature.length)
    (hspki : 32 ≤ (normalizeSpkiPemForSidecar spkiPem).length) :
    workflowResultSignatureSchema.valid (sidecarPayload rt payload signature spkiPem) =
      true := by
  have hdigest := hhex (lfCanonicalUtf8Payload payload)
  apply Schema.valid_object_iff.mpr
  refine ⟨?_, ?_, ?_⟩
  · simp [ownMember]
  · simp
  · simp [Schema.validMembers, ownMember, Schema.valid, Schema.oneOf, Schema.textWith,
      Schema.number, Schema.text, numberJson, hsignature, hspki, hdigest]

/-- The sidecar of a signed run verifies under the key of the pair. -/
theorem tryVerifySignature_sidecar {rt : WriterRuntime} {privateKey publicKey : String}
    (hpair : KeyPair rt privateKey publicKey)
    (hhex : ∀ bytes, isSha256Hex (rt.sha256Hex bytes) = true) {manifestBytes : Bytes}
    {signature spkiPem : String}
    (hsign : rt.sign privateKey (lfCanonicalUtf8Payload manifestBytes) =
      some (signature, spkiPem)) :
    tryVerifySignature rt.toBundleRuntime manifestBytes
      (jsonLineBytes (sidecarPayload rt manifestBytes signature spkiPem)) publicKey =
        true := by
  obtain ⟨hverify, hsignature, hspki⟩ := hpair _ _ _ hsign
  have hvalid := sidecarPayload_valid hhex manifestBytes hsignature hspki
  unfold tryVerifySignature
  rw [parseBytes_jsonLine (sidecarPayload_wellFormed rt manifestBytes signature spkiPem)]
  dsimp only
  rw [if_pos hvalid]
  show (if rt.sha256Hex (lfCanonicalUtf8Payload manifestBytes) =
    rt.sha256Hex (lfCanonicalUtf8Payload manifestBytes) then _ else _) = true
  rw [if_pos rfl]
  exact hverify

/-- The digest that a verified sidecar carries is the one of the manifest. -/
theorem tryVerifySignature_content {rt : BundleRuntime}
    {manifestBytes sidecarBytes : Bytes} {pem : String}
    (h : tryVerifySignature rt manifestBytes sidecarBytes pem = true) :
    ∃ sidecar, parseBytes sidecarBytes = some sidecar ∧
      sidecar.member "signedContentSha256Hex" =
        .json (.str (rt.sha256Hex (lfCanonicalUtf8Payload manifestBytes))) := by
  unfold tryVerifySignature at h
  split at h
  · cases h
  · rename_i sidecar hparse
    split at h
    · split at h
      · rename_i sigB64 signedContent hsig hcontent
        dsimp only at h
        split at h
        · rename_i hdigest
          refine ⟨sidecar, hparse, ?_⟩
          rw [hcontent, hdigest]
        · cases h
      · cases h
    · cases h

/-- One sidecar verifies only manifests of one digest. -/
theorem tryVerifySignature_digest_eq {rt : BundleRuntime}
    {manifestBytes manifestBytes' sidecarBytes : Bytes} {pem pem' : String}
    (h : tryVerifySignature rt manifestBytes sidecarBytes pem = true)
    (h' : tryVerifySignature rt manifestBytes' sidecarBytes pem' = true) :
    rt.sha256Hex (lfCanonicalUtf8Payload manifestBytes) =
      rt.sha256Hex (lfCanonicalUtf8Payload manifestBytes') := by
  obtain ⟨sidecar, hparse, hcontent⟩ := tryVerifySignature_content h
  obtain ⟨sidecar', hparse', hcontent'⟩ := tryVerifySignature_content h'
  have hsidecar : sidecar = sidecar' := by
    apply Option.some.inj
    rw [← hparse, ← hparse']
  rw [hsidecar, hcontent'] at hcontent
  simpa using hcontent.symm

end AgentSkeptic.Bundle
