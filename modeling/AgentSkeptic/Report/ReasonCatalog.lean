import AgentSkeptic.Engine.PolicyExecution

/-!
# Reason codes

What the reports say of a reason code: the phrases of `verificationUserPhrases.ts` and
`failureCatalog.ts`, and the origins of `failureOriginCatalog.ts`.  The tables are object
literals.  A phrase is looked up as an own member, an origin with `in` and `[..]`, which
also find what every object inherits.
-/

namespace AgentSkeptic.Report

open AgentSkeptic.Support AgentSkeptic.Engine

/-! ## Tables -/

/-- What `TABLE[code]` finds: a value of the table, or a member of `Object.prototype` that
has the name of the code. -/
inductive Found (α : Type) where
  | own (value : α)
  | inherited (value : JsValue)

/-- `TABLE[code]` of a table with own members, by `hasOwnProperty`. -/
def ownValue {α : Type} (table : List (String × α)) (code : String) : Option α :=
  (table.find? (·.1 == code)).map Prod.snd

/-- `TABLE[code]`, unless it is `undefined`. -/
def lookUp {α : Type} (table : List (String × α)) (code : String) : Option (Found α) :=
  match ownValue table code with
  | some value => some (.own value)
  | none =>
      match inherited [] code with
      | .undefined => none
      | value => some (.inherited value)

/-- `code in TABLE`. -/
def isIn {α : Type} (table : List (String × α)) (code : String) : Bool :=
  (lookUp table code).isSome

/-- `String(v)` of a value with texts of its own. -/
def Found.text {α : Type} (own : α → String) : Found α → String
  | .own value => own value
  | .inherited value => value.toText.getD ""

/-! ## Phrases -/

/-- `SQL_VERIFICATION_PHRASES`. -/
def sqlVerificationPhrases : List (String × String) :=
  [("ROW_ABSENT", "Success was implied, but no matching row was found in the database."),
    ("DUPLICATE_ROWS", "Duplicate or conflicting rows matched the same key."),
    ("ROW_SHAPE_MISMATCH",
      "The row’s shape or columns did not match what verification expected."),
    ("UNREADABLE_VALUE", "A stored value could not be read or compared reliably."),
    ("VALUE_MISMATCH", "Wrong value in the database for a required field."),
    ("CONNECTOR_ERROR", "Database query failed during verification."),
    ("MULTI_EFFECT_INCOMPLETE",
      "Not all intended effects for this step could be verified."),
    ("MULTI_EFFECT_ALL_FAILED", "All intended effects for this step failed verification."),
    ("MULTI_EFFECT_PARTIAL", "Some intended effects matched; others did not."),
    ("ROW_NOT_OBSERVED_WITHIN_WINDOW",
      "The expected row did not show up within the verification window."),
    ("MULTI_EFFECT_UNCERTAIN_WITHIN_WINDOW",
      "Effects could not be fully confirmed within the verification window."),
    ("UNKNOWN_TOOL",
      "The tool is not defined in the registry (or could not be resolved)."),
    ("RETRY_OBSERVATIONS_DIVERGE",
      "Multiple observations for this sequence do not agree."),
    ("RELATED_ROWS_ABSENT", "A related row required by the check is missing."),
    ("RELATIONAL_EXPECTATION_MISMATCH", "A relational check did not match the database."),
    ("RELATIONAL_SCALAR_UNUSABLE",
      "A relational scalar value could not be used for comparison."),
    ("ROW_PRESENT_WHEN_FORBIDDEN",
      "A row is still present when verification expected it to be gone."),
    ("ORPHAN_ROW_DETECTED", "An orphan or unexpected related row was detected."),
    ("FORBIDDEN_ROWS_STILL_PRESENT_WITHIN_WINDOW",
      "Rows that should have been removed were still present within the " ++
        "verification window."),
    ("RELATIONAL_UNSUPPORTED_DIALECT",
      "This relational verification shape is not supported for the selected " ++
        "database dialect."),
    ("STATE_WITNESS_UNAVAILABLE_IN_SQLITE_FILE_MODE",
      "Vector, object storage, HTTP witness, or Mongo verification requires a " ++
        "remote database URL, not SQLite file mode."),
    ("STATE_WITNESS_SETUP_ERROR",
      "State verification could not run (missing credentials, URL, or provider " ++
        "configuration)."),
    ("VECTOR_NOT_FOUND", "The vector or document id was not found in the index."),
    ("VECTOR_METADATA_MISMATCH", "Vector metadata did not match the expected subset."),
    ("VECTOR_PAYLOAD_MISMATCH", "Vector payload or content hash did not match."),
    ("VECTOR_PROVIDER_ERROR",
      "The vector provider returned an error or unusable response."),
    ("OBJECT_MISSING", "The object was not found in object storage."),
    ("OBJECT_DIGEST_MISMATCH", "Checksum or ETag did not match the stored object."),
    ("OBJECT_SIZE_MISMATCH", "Object size did not match the expected Content-Length."),
    ("OBJECT_METADATA_MISMATCH", "Object metadata did not match expectations."),
    ("OBJECT_TOO_LARGE_FOR_HASH",
      "The object is too large to hash within verification limits."),
    ("HTTP_WITNESS_STATUS_MISMATCH",
      "HTTP witness response status did not match the expected code."),
    ("HTTP_WITNESS_ASSERTION_MISMATCH",
      "HTTP witness JSON assertion did not match the live response."),
    ("HTTP_WITNESS_NETWORK_ERROR",
      "HTTP witness request failed (network, TLS, or timeout)."),
    ("MONGO_DOCUMENT_MISSING", "No MongoDB document matched the declared filter."),
    ("MONGO_VALUE_MISMATCH", "A required field on the MongoDB document did not match."),
    ("BOUNDED_WINDOW_EXPIRED_WITHOUT_OBSERVATION",
      "No sufficiently fresh observation was found before the bounded " ++
        "verification window expired."),
    ("BOUNDED_MODE_UNSUPPORTED_FOR_CONNECTOR",
      "Bounded consistency mode is not supported for this connector due to " ++
        "missing timestamp evidence."),
    ("CONNECTOR_UNSUPPORTED_IN_SCOPE",
      "This connector behavior is intentionally out of supported scope in the " ++
        "current release.")]

def registryResolverPhrases : List (String × String) :=
  [("CONST_STRING_EMPTY", "Registry constant string is empty."),
    ("STRING_SPEC_POINTER_MISSING",
      "Registry string spec is missing a JSON Pointer path."),
    ("STRING_SPEC_TYPE", "Registry string spec has an invalid type."),
    ("STRING_SPEC_EMPTY", "Registry string spec resolved to an empty value."),
    ("KEY_VALUE_POINTER_MISSING", "Registry key/value spec is missing a pointer."),
    ("KEY_VALUE_NOT_SCALAR", "Registry key/value pointer did not resolve to a scalar."),
    ("KEY_VALUE_SPEC_INVALID", "Registry key/value spec is invalid."),
    ("TABLE_POINTER_INVALID", "Registry table pointer is invalid."),
    ("TABLE_SPEC_INVALID", "Registry table spec is invalid."),
    ("INVALID_IDENTIFIER", "Registry contains an invalid SQL identifier."),
    ("REQUIRED_FIELDS_POINTER_MISSING", "Registry required-fields pointer is missing."),
    ("REQUIRED_FIELDS_NOT_OBJECT",
      "Registry required-fields did not resolve to an object."),
    ("REQUIRED_FIELDS_VALUE_UNDEFINED",
      "A required field value is undefined in the registry."),
    ("REQUIRED_FIELDS_VALUE_NOT_SCALAR", "A required field value is not a scalar."),
    ("UNSUPPORTED_VERIFICATION_KIND",
      "This verification kind is not supported for the tool."),
    ("DUPLICATE_EFFECT_ID", "Duplicate effect id in the registry."),
    ("RELATIONAL_EXPECT_VALUE_INVALID",
      "Relational expectation value in the registry is invalid."),
    ("RELATIONAL_SUM_COLUMN_REQUIRED",
      "Relational sum check requires a column in the registry."),
    ("EQUALITY_DUPLICATE_COLUMN", "Duplicate column in an equality spec."),
    ("FILTER_EQ_OVERLAPS_IDENTITY", "Filter equality overlaps identity columns."),
    ("RELATIONAL_UNSUPPORTED_DIALECT",
      "Relational checks are not supported for this database URL (e.g. BigQuery " ++
        "row-only mode).")]

def ingestAndQuickMiscPhrases : List (String × String) :=
  [("INGEST_NO_ACTIONS",
      "No tool calls detected in input. This tool only ingests structured tool " ++
        "activity (JSON with tool names and parameters)—not arbitrary logs."),
    ("INGEST_NO_STRUCTURED_TOOL_ACTIVITY",
      "No structured tool activity was found. Input must be JSON/NDJSON " ++
        "describing tool calls and parameters that match the ingest model (see " ++
        "docs)—not generic log lines."),
    ("INGEST_INPUT_TOO_LARGE", "Input exceeded the maximum allowed size."),
    ("INGEST_ACTION_CAP", "Action limit reached; extra tool calls were ignored."),
    ("MALFORMED_LINE", "One or more lines could not be parsed as JSON.")]

def runContextFailurePhrases : List (String × String) :=
  [("RETRIEVAL_ERROR", "A retrieval step failed before the failing tool observation."),
    ("MODEL_TURN_ERROR",
      "A model turn reported an error before the failing tool observation."),
    ("MODEL_TURN_ABORTED",
      "A model turn was aborted before the failing tool observation."),
    ("MODEL_TURN_INCOMPLETE",
      "A model turn was incomplete before the failing tool observation."),
    ("CONTROL_INTERRUPT",
      "An interrupt control event occurred before the failing tool observation."),
    ("CONTROL_BRANCH_SKIPPED",
      "A branch was skipped before the failing tool observation."),
    ("CONTROL_GATE_SKIPPED", "A gate was skipped before the failing tool observation."),
    ("TOOL_SKIPPED", "A tool was skipped before the failing tool observation.")]

/-- The keys are those of `RUN_LEVEL_MESSAGES` and `EVENT_SEQUENCE_MESSAGES`, the run
context, and the code of decreasing timestamps. -/
def runAndEventPhrases : List (String × String) :=
  [("MALFORMED_EVENT_LINE",
      "Event line was missing, invalid JSON, or failed schema validation for a tool " ++
        "observation."),
    ("NO_STEPS_FOR_WORKFLOW",
      "No tool_observed events for this workflow id after filtering."),
    ("LANGGRAPH_CHECKPOINT_TRUST_NON_V3_TOOL_OBSERVED",
      "LangGraph checkpoint trust requires every tool_observed line for this workflow " ++
        "to use schemaVersion 3 with langgraphCheckpoint."),
    ("CAPTURE_ORDER_NOT_MONOTONIC_IN_SEQ",
      "Capture order was not non-decreasing in seq; planning and verification used " ++
        "seq-sorted order, not arrival order.")] ++
  runContextFailurePhrases ++
  [("TIMESTAMP_NOT_MONOTONIC_WITH_SEQ_SORT_ORDER",
      "Timestamps decreased between steps in sequence order (ordering may be unreliable).")]

/-- The tables in the order in which they are asked. -/
def reasonPhrases : List (String × String) :=
  sqlVerificationPhrases ++ registryResolverPhrases ++ ingestAndQuickMiscPhrases ++
    runAndEventPhrases

/-- `code.slice(start.length)`, when the code starts with `start`. -/
def afterStart? (start code : String) : Option String :=
  if start.toList <+: code.toList then
    some (String.ofList (code.toList.drop start.toList.length))
  else none

def underscoresToSpaces (text : String) : String :=
  String.ofList (text.toList.map fun c => if c = '_' then ' ' else c)

def userPhraseForReasonCode (tables : TextTables) (code : String) : String :=
  match ownValue reasonPhrases code with
  | some phrase => phrase
  | none =>
      match afterStart? "MAPPING_" code with
      | some rest => "Mapping: " ++ underscoresToSpaces (tables.toLowerCase rest) ++ "."
      | none => "Verification issue (code " ++ code ++ ")."

/-! ## Origins -/

inductive FailureOrigin where
  | decisionMaking | inputs | retrieval | toolUse | workflowFlow | downstreamSystemState
  deriving DecidableEq

def FailureOrigin.text : FailureOrigin → String
  | decisionMaking => "decision_making"
  | inputs => "inputs"
  | retrieval => "retrieval"
  | toolUse => "tool_use"
  | workflowFlow => "workflow_flow"
  | downstreamSystemState => "downstream_system_state"

def stepNoReasonCode : String := "STEP_NO_REASON"

def testBlockingCode : String := "TEST_BLOCKING_CODE"

def workflowFlowCodes : List String :=
  [stepNoReasonCode, testBlockingCode, "STATE_WITNESS_UNAVAILABLE_IN_SQLITE_FILE_MODE",
    "CONNECTOR_UNSUPPORTED_IN_SCOPE", "PLAN_RULE_ROW_KIND_MISMATCH",
    "PLAN_RULE_FORBIDDEN_ROW", "PLAN_RULE_REQUIRED_ROW_MISSING",
    "PLAN_RULE_ALLOWLIST_VIOLATION", "PLAN_RULE_RENAME_MISMATCH"]

def downstreamCodes : List String :=
  ["ROW_ABSENT", "RELATED_ROWS_ABSENT", "RELATIONAL_EXPECTATION_MISMATCH",
    "RELATIONAL_SCALAR_UNUSABLE", "DUPLICATE_ROWS", "VALUE_MISMATCH",
    "ROW_NOT_OBSERVED_WITHIN_WINDOW", "MULTI_EFFECT_UNCERTAIN_WITHIN_WINDOW",
    "ROW_PRESENT_WHEN_FORBIDDEN", "ORPHAN_ROW_DETECTED",
    "FORBIDDEN_ROWS_STILL_PRESENT_WITHIN_WINDOW", "CONNECTOR_ERROR",
    "ROW_SHAPE_MISMATCH", "UNREADABLE_VALUE", "MULTI_EFFECT_PARTIAL",
    "MULTI_EFFECT_ALL_FAILED", "MULTI_EFFECT_INCOMPLETE", "VECTOR_NOT_FOUND",
    "VECTOR_METADATA_MISMATCH", "VECTOR_PAYLOAD_MISMATCH", "VECTOR_PROVIDER_ERROR",
    "OBJECT_MISSING", "OBJECT_DIGEST_MISMATCH", "OBJECT_SIZE_MISMATCH",
    "OBJECT_METADATA_MISMATCH", "OBJECT_TOO_LARGE_FOR_HASH",
    "HTTP_WITNESS_STATUS_MISMATCH", "HTTP_WITNESS_ASSERTION_MISMATCH",
    "HTTP_WITNESS_NETWORK_ERROR", "MONGO_DOCUMENT_MISSING", "MONGO_VALUE_MISMATCH",
    "BOUNDED_WINDOW_EXPIRED_WITHOUT_OBSERVATION"]

/-- `REASON_CODE_TO_ORIGIN`. -/
def reasonCodeToOrigin : List (String × FailureOrigin) :=
  workflowFlowCodes.map (·, .workflowFlow) ++
    downstreamCodes.map (·, .downstreamSystemState) ++
    ["UNKNOWN_TOOL", "RETRY_OBSERVATIONS_DIVERGE"].map (·, .toolUse) ++
    (["STATE_WITNESS_SETUP_ERROR", "BOUNDED_MODE_UNSUPPORTED_FOR_CONNECTOR"] ++
      resolveFailureCodes).map (·, .inputs)

def runLevelCodeToOrigin : List (String × FailureOrigin) :=
  [("MALFORMED_EVENT_LINE", .inputs), ("NO_STEPS_FOR_WORKFLOW", .workflowFlow),
    ("LANGGRAPH_CHECKPOINT_TRUST_NON_V3_TOOL_OBSERVED", .inputs),
    (testBlockingCode, .workflowFlow)]

def eventSequenceCodeToOrigin : List (String × FailureOrigin) :=
  [("CAPTURE_ORDER_NOT_MONOTONIC_IN_SEQ", .workflowFlow),
    ("TIMESTAMP_NOT_MONOTONIC_WITH_SEQ_SORT_ORDER", .workflowFlow)]

end AgentSkeptic.Report
