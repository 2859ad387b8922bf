import AgentSkeptic.Bundle.DecisionBundleCrash
import AgentSkeptic.Support.JsonMembers
import AgentSkeptic.Support.JsSafeInteger

/-!
# Run manifests

`agentRunRecord.ts` with the schemas of `agent-run.json`.  A manifest declares the
digest and the length of each file of a run bundle; those of the events and of the
result are taken of their LF-canonical text.  `agentRunRecord_valid_iff` says when a
manifest that was built fits its schema.
-/

namespace AgentSkeptic.Bundle

open AgentSkeptic.Support

def agentRunFilename : String := "agent-run.json"
def eventsFilename : String := "events.ndjson"
def workflowResultFilename : String := "workflow-result.json"
def workflowResultSigFilename : String := "workflow-result.sig.json"

/-! ## Building a manifest -/

structure ArtifactSpec where
  relativePath : String
  sha256 : String
  byteLength : ℕ

def ArtifactSpec.json (spec : ArtifactSpec) : Json :=
  .obj [("relativePath", .str spec.relativePath), ("sha256", .str spec.sha256),
    ("byteLength", numberJson spec.byteLength)]

structure BuildAgentRunRecordInput where
  runId : String
  workflowId : String
  producer : String × String
  verifiedAt : String
  workflowResultBytes : Bytes
  eventsBytes : Bytes
  /-- With a signature the manifest has version 2. -/
  workflowResultSignatureBytes : Option Bytes
  customerId : Option String
  capturedAt : Option String

section

variable (rt : BundleRuntime)

/-- The digest of some bytes, as they are. -/
def artifactSpec (relativePath : String) (digestBytes : Bytes) : ArtifactSpec where
  relativePath
  sha256 := rt.sha256Hex digestBytes
  byteLength := digestBytes.length

def recordArtifacts (input : BuildAgentRunRecordInput) : List (String × ArtifactSpec) :=
  [("workflowResult", artifactSpec rt workflowResultFilename
      (lfCanonicalUtf8Payload input.workflowResultBytes)),
    ("events", artifactSpec rt eventsFilename
      (lfCanonicalUtf8Payload input.eventsBytes))] ++
    (input.workflowResultSignatureBytes.toList.map fun sigBytes =>
      ("workflowResultSignature", artifactSpec rt workflowResultSigFilename sigBytes))

def recordVersion (input : BuildAgentRunRecordInput) : ℤ :=
  if input.workflowResultSignatureBytes.isSome then 2 else 1

def recordMembers (input : BuildAgentRunRecordInput) : List (String × Json) :=
  [("runId", .str input.runId), ("workflowId", .str input.workflowId),
      ("producer", .obj [("name", .str input.producer.1),
        ("version", .str input.producer.2)]),
      ("verifiedAt", .str input.verifiedAt)] ++
    optionalText "customerId" input.customerId ++
    optionalText "capturedAt" input.capturedAt ++
    [("schemaVersion", numberJson (recordVersion input)),
      ("artifacts", .obj ((recordArtifacts rt input).map fun a => (a.1, a.2.json)))]

def buildAgentRunRecordForBundle (input : BuildAgentRunRecordInput) : Json :=
  .obj (recordMembers rt input)

/-! ## The schemas -/

def artifactSpecSchema (relativePath : String) : Schema :=
  .object ["relativePath", "sha256", "byteLength"]
    [("relativePath", .oneOf [relativePath]), ("sha256", .textWith isSha256Hex),
      ("byteLength", .integer 0)]

/-- The properties that both versions have. -/
def recordProperties (schemaVersion : ℤ) (artifacts : Schema) : List (String × Schema) :=
  [("schemaVersion", .number schemaVersion), ("runId", .text 1 none),
    ("workflowId", .text 1 none),
    ("producer", .object ["name", "version"]
      [("name", .text 1 none), ("version", .text 1 none)]),
    ("verifiedAt", .textWith rt.isDateTime), ("customerId", .text 0 none),
    ("capturedAt", .textWith rt.isDateTime), ("artifacts", artifacts)]

def recordRequired : List String :=
  ["schemaVersion", "runId", "workflowId", "producer", "verifiedAt", "artifacts"]

def artifactsV1Schema : Schema :=
  .object ["workflowResult", "events"]
    [("workflowResult", artifactSpecSchema workflowResultFilename),
      ("events", artifactSpecSchema eventsFilename)]

def artifactsV2Schema : Schema :=
  .object ["workflowResult", "events", "workflowResultSignature"]
    [("workflowResult", artifactSpecSchema workflowResultFilename),
      ("events", artifactSpecSchema eventsFilename),
      ("workflowResultSignature", artifactSpecSchema workflowResultSigFilename)]

def agentRunRecordV1Schema : Schema :=
  .object recordRequired (recordProperties rt 1 artifactsV1Schema)

def agentRunRecordV2Schema : Schema :=
  .object recordRequired (recordProperties rt 2 artifactsV2Schema)

/-! ## Reading a manifest -/

/-- `record.artifacts[name]`. -/
def declaredArtifact (record : Json) (name : String) : Json :=
  valueAt (valueAt record "artifacts") name

end

/-! ## When a manifest fits its schema -/

section

variable {rt : BundleRuntime} {input : BuildAgentRunRecordInput}

/-- The digests are texts of digests. -/
theorem artifactSpec_valid (hhex : ∀ bytes, isSha256Hex (rt.sha256Hex bytes) = true)
    (relativePath : String) (digestBytes : Bytes) :
    (artifactSpecSchema relativePath).valid
      (artifactSpec rt relativePath digestBytes).json = true := by
  have hsha := hhex digestBytes
  apply Schema.valid_of_members
  · simp
  · show (["relativePath", "sha256", "byteLength"] : List String).Nodup
    decide
  · simp only [List.forall_mem_cons]
    refine ⟨⟨_, List.mem_cons_self, ?_⟩, ⟨_, List.mem_cons_of_mem _ List.mem_cons_self, ?_⟩,
      ⟨_, List.mem_cons_of_mem _ (List.mem_cons_of_mem _ List.mem_cons_self), ?_⟩, by simp⟩
    · simp [Schema.oneOf, Schema.textWith, Schema.valid, artifactSpec]
    · exact hsha
    · simp [Schema.integer, Schema.valid, numberJson, JsNumber.toInt?]

theorem artifactSpec_wellFormed {relativePath : String} {digestBytes : Bytes}
    (h : digestBytes.length < 2 ^ 53) :
    (artifactSpec rt relativePath digestBytes).json.WellFormed := by
  apply wellFormed_obj ["relativePath", "sha256", "byteLength"] rfl (by decide)
  simp only [List.forall_mem_cons]
  exact ⟨trivial, trivial, JsNumber.readable_safeInteger h, by simp⟩

def recordKeys : List String :=
  ["runId", "workflowId", "producer", "verifiedAt", "customerId", "capturedAt",
    "schemaVersion", "artifacts"]

theorem keys_recordMembers (rt : BundleRuntime) (input : BuildAgentRunRecordInput) :
    ((recordMembers rt input).map Prod.fst).Sublist recordKeys := by
  rw [recordMembers, List.map_append, List.map_append, List.map_append]
  exact (((List.Sublist.refl ["runId", "workflowId", "producer", "verifiedAt"]).append
    (keys_optionalText _ _)).append (keys_optionalText _ _)).append
    (.refl ["schemaVersion", "artifacts"])

theorem recordKeys_plain : plainKeys recordKeys = true := by
  decide +kernel

theorem nodup_recordMembers (rt : BundleRuntime) (input : BuildAgentRunRecordInput) :
    ((recordMembers rt input).map Prod.fst).Nodup :=
  nodup_of_plainKeys (keys_recordMembers rt input) recordKeys_plain

/-- The payloads are no longer than a buffer can be. -/
def SizesFit (rt : BundleRuntime) (input : BuildAgentRunRecordInput) : Prop :=
  ∀ a ∈ recordArtifacts rt input, a.2.byteLength < 2 ^ 53

theorem producer_wellFormed (name version : String) :
    (Json.obj [("name", .str name), ("version", .str version)]).WellFormed := by
  apply wellFormed_obj ["name", "version"] rfl (by decide)
  simp [Json.WellFormed]

theorem recordArtifacts_wellFormed (hsizes : SizesFit rt input) :
    (Json.obj ((recordArtifacts rt input).map fun a => (a.1, a.2.json))).WellFormed := by
  have hkeys : (((recordArtifacts rt input).map fun a => (a.1, a.2.json)).map
      Prod.fst).Sublist ["workflowResult", "events", "workflowResultSignature"] := by
    rw [recordArtifacts]
    cases input.workflowResultSignatureBytes with
    | none => exact List.sublist_append_left ["workflowResult", "events"] _
    | some sigBytes => exact .refl _
  apply wellFormed_of_plainKeys hkeys (by decide +kernel)
  intro m hm
  obtain ⟨a, ha, rfl⟩ := List.mem_map.mp hm
  have hfits := hsizes a ha
  have hspec : ∃ path bytes, a.2 = artifactSpec rt path bytes := by
    simp only [recordArtifacts, List.mem_append, List.mem_cons, List.mem_map,
      List.not_mem_nil, or_false] at ha
    rcases ha with (rfl | rfl) | ⟨sigBytes, -, rfl⟩
    · exact ⟨_, _, rfl⟩
    · exact ⟨_, _, rfl⟩
    · exact ⟨_, _, rfl⟩
  obtain ⟨path, bytes, hspec⟩ := hspec
  rw [hspec] at hfits
  dsimp only
  rw [hspec]
  exact artifactSpec_wellFormed hfits

theorem buildAgentRunRecord_wellFormed (hsizes : SizesFit rt input) :
    (buildAgentRunRecordForBundle rt input).WellFormed := by
  apply wellFormed_of_plainKeys (keys_recordMembers rt input) recordKeys_plain
  simp only [recordMembers, List.forall_mem_append, List.forall_mem_cons]
  refine ⟨⟨⟨⟨trivial, trivial, producer_wellFormed _ _, trivial, by simp⟩,
    forall_mem_optionalText fun _ _ _ => trivial⟩,
    forall_mem_optionalText fun _ _ _ => trivial⟩, ?_, recordArtifacts_wellFormed hsizes,
    by simp⟩
  rw [recordVersion]
  split_ifs
  · exact numberJson_wellFormed_two
  · exact numberJson_wellFormed_one

def builtArtifactsSchema (input : BuildAgentRunRecordInput) : Schema :=
  if input.workflowResultSignatureBytes.isSome then artifactsV2Schema
  else artifactsV1Schema

/-- The schema of the version that was built. -/
def builtSchema (rt : BundleRuntime) (input : BuildAgentRunRecordInput) : Schema :=
  .object recordRequired
    (recordProperties rt (recordVersion input) (builtArtifactsSchema input))

theorem builtSchema_eq (rt : BundleRuntime) (input : BuildAgentRunRecordInput) :
    builtSchema rt input =
      if input.workflowResultSignatureBytes.isSome then agentRunRecordV2Schema rt
      else agentRunRecordV1Schema rt := by
  rw [builtSchema, recordVersion, builtArtifactsSchema]
  split_ifs <;> rfl

theorem recordArtifacts_valid (hhex : ∀ bytes, isSha256Hex (rt.sha256Hex bytes) = true) :
    (builtArtifactsSchema input).valid
      (.obj ((recordArtifacts rt input).map fun a => (a.1, a.2.json))) = true := by
  have hvalid := artifactSpec_valid hhex
  rw [builtArtifactsSchema, recordArtifacts]
  cases input.workflowResultSignatureBytes with
  | none =>
      apply Schema.valid_of_members (by simp) (by simp)
      simp only [Option.toList_none, List.map_nil, List.append_nil, List.map_cons,
        List.forall_mem_cons]
      exact ⟨⟨_, List.mem_cons_self, hvalid _ _⟩,
        ⟨_, List.mem_cons_of_mem _ List.mem_cons_self, hvalid _ _⟩, by simp⟩
  | some sigBytes =>
      apply Schema.valid_of_members (by simp) (by simp)
      simp only [Option.toList_some, List.map_cons, List.map_nil, List.map_append,
        List.forall_mem_append, List.forall_mem_cons]
      exact ⟨⟨⟨_, List.mem_cons_self, hvalid _ _⟩,
        ⟨_, List.mem_cons_of_mem _ List.mem_cons_self, hvalid _ _⟩, by simp⟩,
        ⟨_, List.mem_cons_of_mem _ (List.mem_cons_of_mem _ List.mem_cons_self), hvalid _ _⟩,
        by simp⟩

/-- The texts that come from outside are not empty where they must not be, and dates
where they must be. -/
structure RecordTextsValid (rt : BundleRuntime) (input : BuildAgentRunRecordInput) :
    Prop where
  runId : input.runId ≠ ""
  workflowId : input.workflowId ≠ ""
  producerName : input.producer.1 ≠ ""
  producerVersion : input.producer.2 ≠ ""
  verifiedAt : rt.isDateTime input.verifiedAt = true
  capturedAt : ∀ s, input.capturedAt = some s → s ≠ "" → rt.isDateTime s = true

theorem record_member {key : String} {v : Json} (h : (key, v) ∈ recordMembers rt input) :
    (buildAgentRunRecordForBundle rt input).member key = .json v := by
  rw [buildAgentRunRecordForBundle, Json.member,
    (ownMember_iff (nodup_recordMembers rt input)).mpr h]

theorem record_schemaVersion (rt : BundleRuntime) (input : BuildAgentRunRecordInput) :
    numberAt (buildAgentRunRecordForBundle rt input) "schemaVersion" =
      recordVersion input := by
  have hmember := @record_member rt input "schemaVersion" (numberJson (recordVersion input))
    (by simp [recordMembers])
  rw [numberAt, hmember]
  simp [numberJson, JsNumber.toRat]

theorem record_workflowId (rt : BundleRuntime) (input : BuildAgentRunRecordInput) :
    textAt (buildAgentRunRecordForBundle rt input) "workflowId" = input.workflowId := by
  have hmember := @record_member rt input "workflowId" (.str input.workflowId)
    (by simp [recordMembers])
  rw [textAt, hmember]

/-- What the manifest declares of an artifact. -/
theorem record_declaredArtifact {name : String} {spec : ArtifactSpec}
    (h : (name, spec) ∈ recordArtifacts rt input) :
    declaredArtifact (buildAgentRunRecordForBundle rt input) name = spec.json := by
  have hnodup : (((recordArtifacts rt input).map fun a => (a.1, a.2.json)).map
      Prod.fst).Nodup := by
    rw [recordArtifacts]
    cases input.workflowResultSignatureBytes with
    | none =>
        show ["workflowResult", "events"].Nodup
        decide
    | some sigBytes =>
        show ["workflowResult", "events", "workflowResultSignature"].Nodup
        decide
  have hmember := @record_member rt input "artifacts"
    (.obj ((recordArtifacts rt input).map fun a => (a.1, a.2.json)))
    (by simp [recordMembers])
  have hspec : (name, spec.json) ∈ (recordArtifacts rt input).map fun a => (a.1, a.2.json) :=
    List.mem_map.mpr ⟨_, h, rfl⟩
  rw [declaredArtifact, valueAt, valueAt, hmember]
  dsimp only
  rw [Json.member, (ownMember_iff hnodup).mpr hspec]

theorem artifactSpec_declared (rt : BundleRuntime) (relativePath : String)
    (digestBytes : Bytes) :
    textAt (artifactSpec rt relativePath digestBytes).json "relativePath" = relativePath ∧
      textAt (artifactSpec rt relativePath digestBytes).json "sha256" =
        rt.sha256Hex digestBytes ∧
      numberAt (artifactSpec rt relativePath digestBytes).json "byteLength" =
        digestBytes.length := by
  refine ⟨rfl, rfl, ?_⟩
  simp [numberAt, artifactSpec, ArtifactSpec.json, Json.member, ownMember, numberJson,
    JsNumber.toRat]

theorem valid_of_recordTexts (hhex : ∀ bytes, isSha256Hex (rt.sha256Hex bytes) = true)
    (h : RecordTextsValid rt input) :
    (builtSchema rt input).valid (buildAgentRunRecordForBundle rt input) = true := by
  have hproducer : (Schema.object ["name", "version"]
      [("name", .text 1 none), ("version", .text 1 none)]).valid
      (.obj [("name", .str input.producer.1), ("version", .str input.producer.2)]) =
        true := by
    apply Schema.valid_of_members (by simp) (by decide)
    simp only [List.forall_mem_cons]
    exact ⟨⟨_, List.mem_cons_self, text_valid h.producerName⟩,
      ⟨_, List.mem_cons_of_mem _ List.mem_cons_self, text_valid h.producerVersion⟩, by simp⟩
  apply Schema.valid_of_members
  · intro key hkey
    simp only [recordRequired, List.mem_cons, List.not_mem_nil, or_false] at hkey
    rcases hkey with rfl | rfl | rfl | rfl | rfl | rfl
    all_goals simp [recordMembers]
  · simp [recordProperties]
  · simp only [recordMembers, List.forall_mem_append, List.forall_mem_cons]
    refine ⟨⟨⟨⟨⟨.text 1 none, by simp [recordProperties], text_valid h.runId⟩,
      ⟨.text 1 none, by simp [recordProperties], text_valid h.workflowId⟩,
      ⟨_, by simp [recordProperties], hproducer⟩,
      ⟨.textWith rt.isDateTime, by simp [recordProperties], h.verifiedAt⟩, by simp⟩,
      forall_mem_optionalText fun s _ _ =>
        ⟨.text 0 none, by simp [recordProperties], anyText_valid s⟩⟩,
      forall_mem_optionalText fun s hs hne =>
        ⟨.textWith rt.isDateTime, by simp [recordProperties], h.capturedAt s hs hne⟩⟩,
      ⟨.number (recordVersion input), by simp [recordProperties], numberJson_valid _⟩,
      ⟨builtArtifactsSchema input, by simp [recordProperties],
        recordArtifacts_valid hhex⟩, by simp⟩

/-- A member of the manifest has a value that its property admits. -/
theorem member_valid (h : (builtSchema rt input).valid
      (buildAgentRunRecordForBundle rt input) = true) {key : String} {schema : Schema}
    (hproperty : (key, schema) ∈
      recordProperties rt (recordVersion input) (builtArtifactsSchema input)) {v : Json}
    (hmember : (key, v) ∈ recordMembers rt input) : schema.valid v = true := by
  obtain ⟨-, -, hvalid⟩ := Schema.valid_object_iff.mp h
  exact Schema.validMembers_mem hvalid hproperty
    ((ownMember_iff (nodup_recordMembers rt input)).mpr hmember)

theorem ne_empty_of_text_valid {s : String}
    (h : (Schema.text 1 none).valid (.str s) = true) : s ≠ "" := by
  rintro rfl
  cases h

/-- A manifest that was built fits the schema of its version exactly when the texts in it
that are neither digests nor names do. -/
theorem agentRunRecord_valid_iff
    (hhex : ∀ bytes, isSha256Hex (rt.sha256Hex bytes) = true) :
    (builtSchema rt input).valid (buildAgentRunRecordForBundle rt input) = true ↔
      RecordTextsValid rt input := by
  constructor
  · intro h
    have htext : ∀ key s, (key, Schema.text 1 none) ∈ recordProperties rt
        (recordVersion input) (builtArtifactsSchema input) →
        (key, Json.str s) ∈ recordMembers rt input → s ≠ "" :=
      fun key s hproperty hmember => ne_empty_of_text_valid (member_valid h hproperty hmember)
    have hdate : ∀ key s, (key, Schema.textWith rt.isDateTime) ∈ recordProperties rt
        (recordVersion input) (builtArtifactsSchema input) →
        (key, Json.str s) ∈ recordMembers rt input → rt.isDateTime s = true :=
      fun key s hproperty hmember => member_valid h hproperty hmember
    have hproducer := @member_valid _ _ h "producer"
      (.object ["name", "version"] [("name", .text 1 none), ("version", .text 1 none)])
      (by simp [recordProperties])
      (.obj [("name", .str input.producer.1), ("version", .str input.producer.2)])
      (by simp [recordMembers])
    obtain ⟨-, -, hnames⟩ := Schema.valid_object_iff.mp hproducer
    have hname := Schema.validMembers_mem hnames List.mem_cons_self rfl
    have hversion := Schema.validMembers_mem hnames
      (List.mem_cons_of_mem _ List.mem_cons_self) rfl
    refine ⟨htext "runId" _ ?_ ?_, htext "workflowId" _ ?_ ?_,
      ne_empty_of_text_valid hname, ne_empty_of_text_valid hversion,
      hdate "verifiedAt" _ ?_ ?_, fun s hs hne => hdate "capturedAt" s ?_ ?_⟩
    · simp [recordProperties]
    · simp [recordMembers]
    · simp [recordProperties]
    · simp [recordMembers]
    · simp [recordProperties]
    · simp [recordMembers]
    · simp [recordProperties]
    · simp [recordMembers, hs, optionalText_some hne]
  · exact valid_of_recordTexts hhex

end

end AgentSkeptic.Bundle
