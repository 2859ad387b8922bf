import AgentSkeptic.Engine.ValueVerification

/-!
# Registry entries, requests and outcomes

The data types of `types.ts` that resolution, reconciliation and the pipeline
share, and the reason codes of `wireReasonCodes.ts`.
-/

namespace AgentSkeptic.Engine

open AgentSkeptic.Support

/-! ## Reasons -/

inductive RegistryResolverCode where
  | constStringEmpty | stringSpecPointerMissing | stringSpecType
  | stringSpecEmpty | keyValuePointerMissing | keyValueNotScalar
  | keyValueSpecInvalid | tablePointerInvalid | invalidIdentifier
  | requiredFieldsPointerMissing | requiredFieldsNotObject
  | requiredFieldsValueNotScalar | duplicateEffectId
  | relationalExpectValueInvalid | relationalSumColumnRequired
  | equalityDuplicateColumn | filterEqOverlapsIdentity
  | relationalUnsupportedDialect
  deriving DecidableEq

def RegistryResolverCode.code : RegistryResolverCode → String
  | constStringEmpty => "CONST_STRING_EMPTY"
  | stringSpecPointerMissing => "STRING_SPEC_POINTER_MISSING"
  | stringSpecType => "STRING_SPEC_TYPE"
  | stringSpecEmpty => "STRING_SPEC_EMPTY"
  | keyValuePointerMissing => "KEY_VALUE_POINTER_MISSING"
  | keyValueNotScalar => "KEY_VALUE_NOT_SCALAR"
  | keyValueSpecInvalid => "KEY_VALUE_SPEC_INVALID"
  | tablePointerInvalid => "TABLE_POINTER_INVALID"
  | invalidIdentifier => "INVALID_IDENTIFIER"
  | requiredFieldsPointerMissing => "REQUIRED_FIELDS_POINTER_MISSING"
  | requiredFieldsNotObject => "REQUIRED_FIELDS_NOT_OBJECT"
  | requiredFieldsValueNotScalar => "REQUIRED_FIELDS_VALUE_NOT_SCALAR"
  | duplicateEffectId => "DUPLICATE_EFFECT_ID"
  | relationalExpectValueInvalid => "RELATIONAL_EXPECT_VALUE_INVALID"
  | relationalSumColumnRequired => "RELATIONAL_SUM_COLUMN_REQUIRED"
  | equalityDuplicateColumn => "EQUALITY_DUPLICATE_COLUMN"
  | filterEqOverlapsIdentity => "FILTER_EQ_OVERLAPS_IDENTITY"
  | relationalUnsupportedDialect => "RELATIONAL_UNSUPPORTED_DIALECT"

inductive SqlVerificationOutcomeCode where
  | rowAbsent | duplicateRows | rowShapeMismatch | unreadableValue
  | valueMismatch | connectorError | multiEffectIncomplete
  | multiEffectAllFailed | multiEffectPartial | rowNotObservedWithinWindow
  | multiEffectUncertainWithinWindow | unknownTool | retryObservationsDiverge
  | relatedRowsAbsent | relationalExpectationMismatch
  | relationalScalarUnusable | rowPresentWhenForbidden | orphanRowDetected
  | forbiddenRowsStillPresentWithinWindow
  | stateWitnessUnavailableInSqliteFileMode | stateWitnessSetupError
  | vectorNotFound | vectorMetadataMismatch | vectorProviderError
  | objectMissing | objectDigestMismatch | objectSizeMismatch
  | objectMetadataMismatch | objectTooLargeForHash | httpWitnessStatusMismatch
  | httpWitnessAssertionMismatch | httpWitnessNetworkError
  | mongoDocumentMissing | mongoValueMismatch
  deriving DecidableEq

def SqlVerificationOutcomeCode.code : SqlVerificationOutcomeCode → String
  | rowAbsent => "ROW_ABSENT"
  | duplicateRows => "DUPLICATE_ROWS"
  | rowShapeMismatch => "ROW_SHAPE_MISMATCH"
  | unreadableValue => "UNREADABLE_VALUE"
  | valueMismatch => "VALUE_MISMATCH"
  | connectorError => "CONNECTOR_ERROR"
  | multiEffectIncomplete => "MULTI_EFFECT_INCOMPLETE"
  | multiEffectAllFailed => "MULTI_EFFECT_ALL_FAILED"
  | multiEffectPartial => "MULTI_EFFECT_PARTIAL"
  | rowNotObservedWithinWindow => "ROW_NOT_OBSERVED_WITHIN_WINDOW"
  | multiEffectUncertainWithinWindow => "MULTI_EFFECT_UNCERTAIN_WITHIN_WINDOW"
  | unknownTool => "UNKNOWN_TOOL"
  | retryObservationsDiverge => "RETRY_OBSERVATIONS_DIVERGE"
  | relatedRowsAbsent => "RELATED_ROWS_ABSENT"
  | relationalExpectationMismatch => "RELATIONAL_EXPECTATION_MISMATCH"
  | relationalScalarUnusable => "RELATIONAL_SCALAR_UNUSABLE"
  | rowPresentWhenForbidden => "ROW_PRESENT_WHEN_FORBIDDEN"
  | orphanRowDetected => "ORPHAN_ROW_DETECTED"
  | forbiddenRowsStillPresentWithinWindow =>
      "FORBIDDEN_ROWS_STILL_PRESENT_WITHIN_WINDOW"
  | stateWitnessUnavailableInSqliteFileMode =>
      "STATE_WITNESS_UNAVAILABLE_IN_SQLITE_FILE_MODE"
  | stateWitnessSetupError => "STATE_WITNESS_SETUP_ERROR"
  | vectorNotFound => "VECTOR_NOT_FOUND"
  | vectorMetadataMismatch => "VECTOR_METADATA_MISMATCH"
  | vectorProviderError => "VECTOR_PROVIDER_ERROR"
  | objectMissing => "OBJECT_MISSING"
  | objectDigestMismatch => "OBJECT_DIGEST_MISMATCH"
  | objectSizeMismatch => "OBJECT_SIZE_MISMATCH"
  | objectMetadataMismatch => "OBJECT_METADATA_MISMATCH"
  | objectTooLargeForHash => "OBJECT_TOO_LARGE_FOR_HASH"
  | httpWitnessStatusMismatch => "HTTP_WITNESS_STATUS_MISMATCH"
  | httpWitnessAssertionMismatch => "HTTP_WITNESS_ASSERTION_MISMATCH"
  | httpWitnessNetworkError => "HTTP_WITNESS_NETWORK_ERROR"
  | mongoDocumentMissing => "MONGO_DOCUMENT_MISSING"
  | mongoValueMismatch => "MONGO_VALUE_MISMATCH"

structure Reason where
  code : String
  message : String
  field : Option String := none
  deriving DecidableEq

inductive StepStatus where
  | verified | missing | inconsistent | incompleteVerification
  | partiallyVerified | uncertain
  deriving DecidableEq

structure ReconcileOutput where
  status : StepStatus
  reasons : List Reason
  evidenceSummary : List (String × Json)

/-! ## Registry specifications -/

/-- A constant of the registry, or a pointer into the parameters. -/
inductive OrPointer (α : Type) where
  | const (value : α)
  | pointer (pointer : String)

abbrev RegistryStringSpec := OrPointer String
abbrev RegistryScalarSpec := OrPointer VerificationScalar
abbrev RegistryNumberOrPointerSpec := OrPointer JsNumber

structure RegistryEqualityPair where
  column : RegistryStringSpec
  value : RegistryScalarSpec

structure SqlRowVerificationSpec where
  table : RegistryStringSpec
  identityEq : List RegistryEqualityPair
  requiredFields : String

structure SqlRowAbsentVerificationSpec where
  table : RegistryStringSpec
  identityEq : List RegistryEqualityPair
  filterEq : Option (List RegistryEqualityPair)

inductive ExpectOp where
  | eq | gte | lte
  deriving DecidableEq

structure RelationalExpectSpec where
  op : ExpectOp
  value : RegistryNumberOrPointerSpec

inductive AggregateFn where
  | countStar | sum
  deriving DecidableEq

inductive TableSide where
  | left | right
  deriving DecidableEq

structure JoinEqualityPair where
  tableSide : TableSide
  column : RegistryStringSpec
  value : RegistryScalarSpec

structure AggregateSpec where
  table : RegistryStringSpec
  fn : AggregateFn
  sumColumn : Option RegistryStringSpec
  whereEq : Option (List RegistryEqualityPair)
  expect : RelationalExpectSpec

structure JoinCountSpec where
  leftTable : RegistryStringSpec
  rightTable : RegistryStringSpec
  leftColumn : RegistryStringSpec
  rightColumn : RegistryStringSpec
  whereEq : Option (List JoinEqualityPair)
  expect : RelationalExpectSpec

structure RelatedExistsSpec where
  childTable : RegistryStringSpec
  matchEq : List RegistryEqualityPair

structure AntiJoinSpec where
  anchorTable : RegistryStringSpec
  lookupTable : RegistryStringSpec
  anchorColumn : RegistryStringSpec
  lookupColumn : RegistryStringSpec
  lookupPresenceColumn : RegistryStringSpec
  filterEqAnchor : Option (List RegistryEqualityPair)
  filterEqLookup : Option (List RegistryEqualityPair)

inductive RelationalCheckBody where
  | aggregate (spec : AggregateSpec)
  | joinCount (spec : JoinCountSpec)
  | relatedExists (spec : RelatedExistsSpec)
  | antiJoin (spec : AntiJoinSpec)

structure SqlRelationalCheckSpec where
  id : String
  body : RelationalCheckBody

inductive VectorProvider where
  | pinecone | weaviate | chroma
  deriving DecidableEq

structure VectorDocumentVerificationSpec where
  provider : VectorProvider
  documentId : RegistryStringSpec
  indexName : RegistryStringSpec
  namespace_ : Option RegistryStringSpec
  host : Option RegistryStringSpec
  metadataEq : Option String
  expectPayloadSha256 : Option RegistryStringSpec

structure ObjectStorageVerificationSpec where
  bucket : RegistryStringSpec
  key : RegistryStringSpec
  endpoint : Option RegistryStringSpec
  expectSizeBytes : Option RegistryNumberOrPointerSpec
  expectSha256 : Option RegistryStringSpec
  expectEtag : Option RegistryStringSpec

inductive HttpMethod where
  | get | post
  deriving DecidableEq

structure HttpWitnessAssertionSpec where
  jsonPointer : String
  value : RegistryScalarSpec

structure HttpWitnessVerificationSpec where
  method : Option HttpMethod
  url : RegistryStringSpec
  expectedStatus : Option RegistryNumberOrPointerSpec
  assertions : Option (List HttpWitnessAssertionSpec)

structure MongoDocumentVerificationSpec where
  collection : RegistryStringSpec
  filterPointer : String
  requiredFields : String

inductive ToolRegistryVerification where
  | sqlRow (spec : SqlRowVerificationSpec)
  | sqlRowAbsent (spec : SqlRowAbsentVerificationSpec)
  | sqlEffects (effects : List (String × SqlRowVerificationSpec))
  | sqlRelational (checks : List SqlRelationalCheckSpec)
  | vectorDocument (spec : VectorDocumentVerificationSpec)
  | objectStorageObject (spec : ObjectStorageVerificationSpec)
  | httpWitness (spec : HttpWitnessVerificationSpec)
  | mongoDocument (spec : MongoDocumentVerificationSpec)

structure ToolRegistryEntry where
  toolId : String
  effectDescriptionTemplate : String
  releaseCritical : Option Bool
  verification : ToolRegistryVerification

/-! ## Resolved requests -/

structure IdentityEqPair where
  column : String
  value : String
  deriving DecidableEq

/-- A record of scalars, in insertion order. -/
abbrev ScalarFields := List (String × VerificationScalar)

structure VerificationRequest where
  table : String
  identityEq : List IdentityEqPair
  requiredFields : ScalarFields

structure RowAbsentVerificationRequest where
  table : String
  identityEq : List IdentityEqPair
  filterEq : List IdentityEqPair

structure ResolvedEffect where
  id : String
  request : VerificationRequest

structure JoinEqPair where
  side : TableSide
  column : String
  value : String

inductive ResolvedRelationalBody where
  | relatedExists (childTable : String) (matchEq : List IdentityEqPair)
  | aggregate (table : String) (fn : AggregateFn) (sumColumn : Option String)
      (whereEq : List IdentityEqPair) (expectOp : ExpectOp)
      (expectValue : JsNumber)
  | joinCount (leftTable rightTable leftJoinColumn rightJoinColumn : String)
      (whereEq : List JoinEqPair) (expectOp : ExpectOp) (expectValue : JsNumber)
  | antiJoin (anchorTable lookupTable anchorColumn lookupColumn
      lookupPresenceColumn : String)
      (filterEqAnchor filterEqLookup : List IdentityEqPair)

structure ResolvedRelationalCheck where
  id : String
  body : ResolvedRelationalBody

structure VectorDocumentVerificationRequest where
  provider : VectorProvider
  documentId : String
  indexName : String
  namespace_ : Option String
  host : Option String
  metadataSubset : Option ScalarFields
  expectPayloadSha256 : Option String

structure ObjectStorageVerificationRequest where
  bucket : String
  key : String
  endpoint : Option String
  expectSizeBytes : Option JsNumber
  expectSha256 : Option String
  expectEtag : Option String

structure HttpWitnessResolvedAssertion where
  jsonPointer : String
  value : VerificationScalar

structure HttpWitnessVerificationRequest where
  method : HttpMethod
  url : String
  expectedStatus : JsNumber
  assertions : Option (List HttpWitnessResolvedAssertion)

structure MongoDocumentVerificationRequest where
  collection : String
  filter : JsValue
  requiredFields : ScalarFields

inductive StateWitnessRequest where
  | vectorDocument (req : VectorDocumentVerificationRequest)
  | objectStorageObject (req : ObjectStorageVerificationRequest)
  | httpWitness (req : HttpWitnessVerificationRequest)
  | mongoDocument (req : MongoDocumentVerificationRequest)

/-- What `resolveVerificationRequest` returns when it succeeds. -/
inductive ResolvedRequest where
  | sqlRow (request : VerificationRequest)
  | sqlRowAbsent (request : RowAbsentVerificationRequest)
  | sqlEffects (effects : List ResolvedEffect)
  | sqlRelational (checks : List ResolvedRelationalCheck)
  | stateWitness (request : StateWitnessRequest)

end AgentSkeptic.Engine
