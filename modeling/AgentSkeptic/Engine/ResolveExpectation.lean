import AgentSkeptic.Engine.Params
import AgentSkeptic.Engine.Types
import AgentSkeptic.Support.Fallible

/-!
# Resolving a registry entry against parameters

`resolveExpectation.ts`.  A resolution fails with a code and a message, or with
the error that `getPointer` throws.
-/

namespace AgentSkeptic.Engine

open AgentSkeptic.Support

inductive ResolveFailure where
  | failed (code : RegistryResolverCode) (message : String)
  | thrown (message : String)

abbrev ResolveM := Except ResolveFailure

def fail {α : Type} (code : RegistryResolverCode) (message : String) :
    ResolveM α :=
  .error (.failed code message)

/-- `getPointer` on the parameters, whose error is not caught. -/
def pointerValue (params : Json) (pointer : String) : ResolveM JsValue :=
  match getPointer params pointer with
  | .ok value => .ok value
  | .error message => .error (.thrown message)

/-! ## Scalars -/

/-- `^[a-zA-Z_][a-zA-Z0-9_]*$`. -/
def isIdent (s : String) : Bool :=
  match s.toList with
  | [] => false
  | c :: rest =>
      (c.isAlpha || c == '_') && rest.all fun d => d.isAlphanum || d == '_'

def resolveStringSpec (spec : RegistryStringSpec) (params : Json)
    (label : String) : ResolveM String :=
  match spec with
  | .const value =>
      if value = "" then
        fail .constStringEmpty s!"{label}: const must be non-empty string"
      else .ok value
  | .pointer pointer => do
      let got ← pointerValue params pointer
      if got.isNullish then
        fail .stringSpecPointerMissing s!"{label}: missing at {pointer}"
      else
        match got with
        | .json (.str "") =>
            fail .stringSpecEmpty s!"{label}: empty string at {pointer}"
        | .json (.str value) => .ok value
        | _ => fail .stringSpecType s!"{label}: expected string at {pointer}"

/-- A string that is an SQL identifier. -/
def resolveIdentSpec (spec : RegistryStringSpec) (params : Json)
    (label : String) : ResolveM String := do
  let value ← resolveStringSpec spec params label
  if isIdent value then .ok value
  else fail .invalidIdentifier s!"{label}: {value}"

/-- `String(c)` of a constant. -/
def VerificationScalar.toText : VerificationScalar → String
  | .str value => value
  | .num value => value.toText
  | .bool value => if value then "true" else "false"
  | .null => "null"

/-- `typeof v === "object"` for a value that is not `null`. -/
def isObjectValue : JsValue → Bool
  | .json (.arr _) | .json (.obj _) | .objectPrototype => true
  | .date _ | .opaqueObject _ => true
  | _ => false

/-- The message carries no label: the callers put one before it. -/
def resolveKeyValue (spec : RegistryScalarSpec) (params : Json)
    (label : String) : ResolveM String :=
  match spec with
  | .const value => .ok value.toText
  | .pointer pointer => do
      let got ← pointerValue params pointer
      if got.isNullish then
        fail .keyValuePointerMissing s!"{label}key.value missing at {pointer}"
      else if isObjectValue got then
        fail .keyValueNotScalar s!"{label}key.value must be scalar at {pointer}"
      else
        match got.toText with
        | some text => .ok text
        | none => .error (.thrown cannotConvert)

def resolveTableIdent (spec : RegistryStringSpec) (params : Json)
    (label : String) : ResolveM String := do
  let value ← match spec with
    | .const value => .ok value
    | .pointer pointer => do
        let got ← pointerValue params pointer
        match got with
        | .json (.str value) =>
            if value = "" then
              fail .tablePointerInvalid
                s!"{label}: expected non-empty string at {pointer}"
            else .ok value
        | _ =>
            fail .tablePointerInvalid
              s!"{label}: expected non-empty string at {pointer}"
  if isIdent value then .ok value
  else fail .invalidIdentifier s!"{label}: {value}"

def resolveExpectNumber (spec : RegistryNumberOrPointerSpec) (params : Json)
    (label : String) : ResolveM JsNumber :=
  match spec with
  | .const n =>
      if n.isFinite then .ok n
      else
        fail .relationalExpectValueInvalid
          s!"{label}: const must be a finite number"
  | .pointer pointer => do
      let got ← pointerValue params pointer
      if got.isNullish then
        fail .relationalExpectValueInvalid s!"{label}: missing number at {pointer}"
      else
        match got with
        | .json (.num n) =>
            if n.isFinite then .ok n
            else
              fail .relationalExpectValueInvalid
                s!"{label}: expected finite number at {pointer}"
        | _ =>
            fail .relationalExpectValueInvalid
              s!"{label}: expected finite number at {pointer}"

def resolveNumberOrPointer (spec : RegistryNumberOrPointerSpec) (params : Json)
    (label : String) : ResolveM JsNumber :=
  match spec with
  | .const n =>
      if n.isFinite then .ok n
      else fail .keyValueSpecInvalid s!"{label}: const must be finite number"
  | .pointer pointer => do
      let got ← pointerValue params pointer
      if got.isNullish then
        fail .keyValuePointerMissing s!"{label}: missing at {pointer}"
      else
        match got with
        | .json (.num n) =>
            if n.isFinite then .ok n
            else fail .keyValueNotScalar s!"{label}: expected number at {pointer}"
        | _ => fail .keyValueNotScalar s!"{label}: expected number at {pointer}"

def jsonScalar? : Json → Option VerificationScalar
  | .null => some .null
  | .bool value => some (.bool value)
  | .num value => some (.num value)
  | .str value => some (.str value)
  | .arr _ | .obj _ => none

def resolveScalarOrPointerForAssertion (spec : RegistryScalarSpec)
    (params : Json) (label : String) : ResolveM VerificationScalar :=
  match spec with
  | .const value => .ok value
  | .pointer pointer => do
      let got ← pointerValue params pointer
      match got with
      | .undefined => fail .keyValuePointerMissing s!"{label}: missing at {pointer}"
      | got =>
          if isObjectValue got then
            fail .keyValueNotScalar s!"{label}: must be scalar at {pointer}"
          else
            match got with
            | .json value =>
                match jsonScalar? value with
                | some scalar => .ok scalar
                | none =>
                    fail .keyValueNotScalar s!"{label}: must be scalar at {pointer}"
            | _ =>
                fail .keyValueNotScalar
                  s!"{label}: unsupported scalar at {pointer}"

/-! ## Records -/

/-- The own members of an object that is no array. -/
def objectMembers? : JsValue → Option (List (String × Json))
  | .json (.obj members) => some members
  | .objectPrototype => some []
  | _ => none

def resolveObject (params : Json) (pointer label : String) :
    ResolveM (JsValue × List (String × Json)) := do
  let raw ← pointerValue params pointer
  if raw.isNullish then
    fail .requiredFieldsPointerMissing s!"{label} missing at {pointer}"
  else
    match objectMembers? raw with
    | some members => .ok (raw, members)
    | none => fail .requiredFieldsNotObject s!"{label} must be object at {pointer}"

/-- One member of a record of scalars. -/
def resolveScalarMember (ident : Bool) (label kinds : String)
    (fields : ScalarFields) (member : String × Json) : ResolveM ScalarFields :=
  let key := member.1
  if ident && !isIdent key then
    fail .invalidIdentifier s!"{label} key: {key}"
  else
    match jsonScalar? member.2 with
    | some scalar => .ok (assignMember fields key scalar)
    | none =>
        fail .requiredFieldsValueNotScalar s!"{label}.{key} must be {kinds}"

/-- The record of scalars at a pointer; `ident` asks for identifiers as keys. -/
def resolveScalarRecord (ident : Bool) (params : Json)
    (pointer label kinds : String) : ResolveM ScalarFields := do
  let (_, members) ← resolveObject params pointer label
  members.foldlM (resolveScalarMember ident label kinds) []

/-! ## SQL rows -/

/-- The first column that occurs twice in a sorted list. -/
def duplicateColumn? : List IdentityEqPair → Option String
  | p :: q :: rest =>
      if q.column = p.column then some q.column else duplicateColumn? (q :: rest)
  | _ => none

def normalizeSortedIdentityEq (pairs : List IdentityEqPair)
    (labelPrefix : String) : ResolveM (List IdentityEqPair) :=
  let sorted := pairs.insertionSort fun a b => utf16Le a.column b.column = true
  match duplicateColumn? sorted with
  | some column =>
      fail .equalityDuplicateColumn
        s!"{labelPrefix}duplicate equality column: {column}"
  | none => .ok sorted

/-- One pair of an equality list; `taken` columns belong to the identity. -/
def resolveEqualityPair (params : Json) (labelPrefix name : String)
    (taken : List String) (item : RegistryEqualityPair × ℕ) :
    ResolveM IdentityEqPair := do
  let (p, i) := item
  let label := s!"{labelPrefix}{name}[{i}]"
  let column ← resolveIdentSpec p.column params s!"{label}.column"
  if column ∈ taken then
    fail .filterEqOverlapsIdentity
      s!"{labelPrefix}filterEq column {column} duplicates identityEq"
  else
    let value ← resolveKeyValue p.value params s!"{label}. "
    .ok ⟨column, value⟩

def resolveEqualityPairs (specs : List RegistryEqualityPair) (params : Json)
    (labelPrefix name : String) (taken : List String) :
    ResolveM (List IdentityEqPair) :=
  specs.zipIdx.mapM (resolveEqualityPair params labelPrefix name taken)

def resolveRegistryEqualityList (specs : List RegistryEqualityPair)
    (params : Json) (labelPrefix : String) : ResolveM (List IdentityEqPair) := do
  let raw ← resolveEqualityPairs specs params labelPrefix "identityEq" []
  normalizeSortedIdentityEq raw labelPrefix

def resolveSqlRowSpec (params : Json) (spec : SqlRowVerificationSpec)
    (labelPrefix : String) : ResolveM VerificationRequest := do
  let table ← resolveTableIdent spec.table params s!"{labelPrefix}table"
  let identityEq ← resolveRegistryEqualityList spec.identityEq params labelPrefix
  let requiredFields ← resolveScalarRecord true params spec.requiredFields
    s!"{labelPrefix}requiredFields" "string, number, boolean, or null"
  .ok { table, identityEq, requiredFields }

def resolveSqlRowAbsentSpec (params : Json)
    (spec : SqlRowAbsentVerificationSpec) (labelPrefix : String) :
    ResolveM RowAbsentVerificationRequest := do
  let table ← resolveTableIdent spec.table params s!"{labelPrefix}table"
  let identityEq ← resolveRegistryEqualityList spec.identityEq params labelPrefix
  let raw ← resolveEqualityPairs (spec.filterEq.getD []) params labelPrefix
    "filterEq" (identityEq.map IdentityEqPair.column)
  let filterEq ← normalizeSortedIdentityEq raw s!"{labelPrefix}filterEq: "
  .ok { table, identityEq, filterEq }

/-! ## Relational checks -/

def resolveAntiJoin (params : Json) (spec : AntiJoinSpec)
    (labelPrefix : String) : ResolveM ResolvedRelationalBody := do
  let anchorTable ←
    resolveTableIdent spec.anchorTable params s!"{labelPrefix}anchorTable"
  let lookupTable ←
    resolveTableIdent spec.lookupTable params s!"{labelPrefix}lookupTable"
  let anchorColumn ←
    resolveIdentSpec spec.anchorColumn params s!"{labelPrefix}anchorColumn"
  let lookupColumn ←
    resolveIdentSpec spec.lookupColumn params s!"{labelPrefix}lookupColumn"
  let presence ← resolveIdentSpec spec.lookupPresenceColumn params
    s!"{labelPrefix}lookupPresenceColumn"
  let anchorFilters ← resolveEqualityPairs (spec.filterEqAnchor.getD []) params
    labelPrefix "filterEqAnchor" []
  let lookupFilters ← resolveEqualityPairs (spec.filterEqLookup.getD []) params
    labelPrefix "filterEqLookup" []
  let filterEqAnchor ←
    normalizeSortedIdentityEq anchorFilters s!"{labelPrefix}filterEqAnchor: "
  let filterEqLookup ←
    normalizeSortedIdentityEq lookupFilters s!"{labelPrefix}filterEqLookup: "
  .ok (.antiJoin anchorTable lookupTable anchorColumn lookupColumn presence
    filterEqAnchor filterEqLookup)

def resolveRelatedExists (params : Json) (spec : RelatedExistsSpec)
    (labelPrefix : String) : ResolveM ResolvedRelationalBody := do
  let child ← resolveTableIdent spec.childTable params s!"{labelPrefix}childTable"
  let matchEq ← resolveRegistryEqualityList spec.matchEq params labelPrefix
  .ok (.relatedExists child matchEq)

def resolveAggregate (params : Json) (spec : AggregateSpec)
    (labelPrefix : String) : ResolveM ResolvedRelationalBody := do
  let table ← resolveTableIdent spec.table params s!"{labelPrefix}table"
  let sumColumn ← match spec.fn, spec.sumColumn with
    | .countStar, _ => .ok none
    | .sum, none =>
        fail .relationalSumColumnRequired
          s!"{labelPrefix}sumColumn required when fn is SUM"
    | .sum, some column => do
        let value ← resolveIdentSpec column params s!"{labelPrefix}sumColumn"
        .ok (some value)
  let whereEq ← resolveEqualityPairs (spec.whereEq.getD []) params labelPrefix
    "whereEq" []
  let expectValue ←
    resolveExpectNumber spec.expect.value params s!"{labelPrefix}expect.value"
  .ok (.aggregate table spec.fn sumColumn whereEq spec.expect.op expectValue)

def resolveJoinPair (params : Json) (labelPrefix : String)
    (item : JoinEqualityPair × ℕ) : ResolveM JoinEqPair := do
  let (p, i) := item
  let pair ← resolveEqualityPair params labelPrefix "whereEq" []
    (⟨p.column, p.value⟩, i)
  .ok ⟨p.tableSide, pair.column, pair.value⟩

def resolveJoinCount (params : Json) (spec : JoinCountSpec)
    (labelPrefix : String) : ResolveM ResolvedRelationalBody := do
  let left ← resolveTableIdent spec.leftTable params s!"{labelPrefix}leftTable"
  let right ← resolveTableIdent spec.rightTable params s!"{labelPrefix}rightTable"
  let leftJoin ←
    resolveIdentSpec spec.leftColumn params s!"{labelPrefix}join.leftColumn"
  let rightJoin ←
    resolveIdentSpec spec.rightColumn params s!"{labelPrefix}join.rightColumn"
  let whereEq ←
    (spec.whereEq.getD []).zipIdx.mapM (resolveJoinPair params labelPrefix)
  let expectValue ←
    resolveExpectNumber spec.expect.value params s!"{labelPrefix}expect.value"
  .ok (.joinCount left right leftJoin rightJoin whereEq spec.expect.op expectValue)

def resolveSqlRelationalCheck (params : Json) (spec : SqlRelationalCheckSpec)
    (labelPrefix : String) : ResolveM ResolvedRelationalCheck := do
  let body ← match spec.body with
    | .antiJoin body => resolveAntiJoin params body labelPrefix
    | .relatedExists body => resolveRelatedExists params body labelPrefix
    | .aggregate body => resolveAggregate params body labelPrefix
    | .joinCount body => resolveJoinCount params body labelPrefix
  .ok ⟨spec.id, body⟩

/-! ## State witnesses -/

def resolveOptional {α β : Type} (spec : Option α) (resolve : α → ResolveM β) :
    ResolveM (Option β) :=
  match spec with
  | none => .ok none
  | some spec => do
      let value ← resolve spec
      .ok (some value)

def resolveMetadataSubsetAtPointer (params : Json)
    (pointer labelPrefix : String) : ResolveM ScalarFields :=
  resolveScalarRecord false params pointer s!"{labelPrefix}metadataEq" "scalar"

def resolveVectorDocumentSpec (params : Json)
    (spec : VectorDocumentVerificationSpec) (labelPrefix : String) :
    ResolveM VectorDocumentVerificationRequest := do
  let documentId ←
    resolveStringSpec spec.documentId params s!"{labelPrefix}documentId"
  let indexName ← resolveStringSpec spec.indexName params s!"{labelPrefix}indexName"
  let namespace_ ← resolveOptional spec.namespace_ fun ns =>
    resolveStringSpec ns params s!"{labelPrefix}namespace"
  let host ← resolveOptional spec.host fun host =>
    resolveStringSpec host params s!"{labelPrefix}host"
  let metadataSubset ← resolveOptional spec.metadataEq fun pointer =>
    resolveMetadataSubsetAtPointer params pointer labelPrefix
  let expectPayloadSha256 ← resolveOptional spec.expectPayloadSha256 fun sha =>
    resolveStringSpec sha params s!"{labelPrefix}expectPayloadSha256"
  .ok { provider := spec.provider, documentId, indexName, namespace_, host,
        metadataSubset, expectPayloadSha256 }

def resolveExpectSizeBytes (spec : RegistryNumberOrPointerSpec) (params : Json)
    (labelPrefix : String) : ResolveM JsNumber := do
  let size ← resolveNumberOrPointer spec params s!"{labelPrefix}expectSizeBytes"
  if size.toInt?.any (0 ≤ ·) then .ok size
  else
    fail .keyValueSpecInvalid
      s!"{labelPrefix}expectSizeBytes must be non-negative integer"

def resolveObjectStorageSpec (params : Json)
    (spec : ObjectStorageVerificationSpec) (labelPrefix : String) :
    ResolveM ObjectStorageVerificationRequest := do
  let bucket ← resolveStringSpec spec.bucket params s!"{labelPrefix}bucket"
  let key ← resolveStringSpec spec.key params s!"{labelPrefix}key"
  let endpoint ← resolveOptional spec.endpoint fun endpoint =>
    resolveStringSpec endpoint params s!"{labelPrefix}endpoint"
  let expectSizeBytes ← resolveOptional spec.expectSizeBytes fun size =>
    resolveExpectSizeBytes size params labelPrefix
  let expectSha256 ← resolveOptional spec.expectSha256 fun sha =>
    resolveStringSpec sha params s!"{labelPrefix}expectSha256"
  let expectEtag ← resolveOptional spec.expectEtag fun etag =>
    resolveStringSpec etag params s!"{labelPrefix}expectEtag"
  .ok { bucket, key, endpoint, expectSizeBytes, expectSha256, expectEtag }

def resolveAssertion (params : Json) (labelPrefix : String)
    (item : HttpWitnessAssertionSpec × ℕ) :
    ResolveM HttpWitnessResolvedAssertion := do
  let (a, i) := item
  let value ← resolveScalarOrPointerForAssertion a.value params
    s!"{labelPrefix}assertions[{i}].value"
  .ok ⟨a.jsonPointer, value⟩

def resolveHttpWitnessSpec (params : Json) (spec : HttpWitnessVerificationSpec)
    (labelPrefix : String) : ResolveM HttpWitnessVerificationRequest := do
  let url ← resolveStringSpec spec.url params s!"{labelPrefix}url"
  let expectedStatus ← match spec.expectedStatus with
    | some status =>
        resolveNumberOrPointer status params s!"{labelPrefix}expectedStatus"
    | none => .ok (.int 200)
  if expectedStatus.toInt?.any fun n => 100 ≤ n ∧ n ≤ 599 then
    let assertions ←
      (spec.assertions.getD []).zipIdx.mapM (resolveAssertion params labelPrefix)
    .ok { method := spec.method.getD .get, url, expectedStatus,
          assertions := if assertions.isEmpty then none else some assertions }
  else
    fail .keyValueSpecInvalid
      s!"{labelPrefix}expectedStatus must be HTTP status 100–599"

def resolveMongoDocumentSpec (params : Json)
    (spec : MongoDocumentVerificationSpec) (labelPrefix : String) :
    ResolveM MongoDocumentVerificationRequest := do
  let collection ←
    resolveStringSpec spec.collection params s!"{labelPrefix}collection"
  let (filter, _) ←
    resolveObject params spec.filterPointer s!"{labelPrefix}filter"
  let requiredFields ← resolveScalarRecord false params spec.requiredFields
    s!"{labelPrefix}requiredFields" "scalar"
  .ok { collection, filter, requiredFields }

/-! ## All kinds -/

inductive VerificationDatabaseKind where
  | sqlite | postgres | mysql | bigquery | sqlserver
  deriving DecidableEq

/-- Items with ids, each resolved unless its id was seen before. -/
def resolveItems {α β : Type} (id : α → String) (resolve : α → ResolveM β)
    (seen : List String) : List α → ResolveM (List β)
  | [] => .ok []
  | item :: items => do
      let itemId := id item
      if itemId ∈ seen then
        fail .duplicateEffectId s!"Duplicate effect id in registry: {itemId}"
      else
        let value ← resolve item
        let values ← resolveItems id resolve (itemId :: seen) items
        .ok (value :: values)

def resolveEffect (params : Json) (item : String × SqlRowVerificationSpec) :
    ResolveM ResolvedEffect := do
  let (id, spec) := item
  let request ← resolveSqlRowSpec params spec s!"effects[{id}]."
  .ok ⟨id, request⟩

def resolveRelationalItem (params : Json) (item : SqlRelationalCheckSpec) :
    ResolveM ResolvedRelationalCheck :=
  let id := item.id
  resolveSqlRelationalCheck params item s!"checks[{id}]."

def resolveVerificationRequest (entry : ToolRegistryEntry) (params : Json)
    (verificationTarget : Option VerificationDatabaseKind) :
    ResolveM ResolvedRequest :=
  match entry.verification with
  | .sqlRow spec => do
      let request ← resolveSqlRowSpec params spec ""
      .ok (.sqlRow request)
  | .sqlRowAbsent spec => do
      let request ← resolveSqlRowAbsentSpec params spec ""
      .ok (.sqlRowAbsent request)
  | .vectorDocument spec => do
      let request ← resolveVectorDocumentSpec params spec ""
      .ok (.stateWitness (.vectorDocument request))
  | .objectStorageObject spec => do
      let request ← resolveObjectStorageSpec params spec ""
      .ok (.stateWitness (.objectStorageObject request))
  | .httpWitness spec => do
      let request ← resolveHttpWitnessSpec params spec ""
      .ok (.stateWitness (.httpWitness request))
  | .mongoDocument spec => do
      let request ← resolveMongoDocumentSpec params spec ""
      .ok (.stateWitness (.mongoDocument request))
  | .sqlRelational checks =>
      if verificationTarget = some .bigquery then
        fail .relationalUnsupportedDialect
          ("sql_relational is not supported for BigQuery verification targets " ++
            "(row checks only in v1)")
      else do
        let resolved ← resolveItems SqlRelationalCheckSpec.id
          (resolveRelationalItem params) [] checks
        .ok (.sqlRelational (resolved.insertionSort
          fun a b => utf16Le a.id b.id = true))
  | .sqlEffects effects => do
      let resolved ← resolveItems Prod.fst (resolveEffect params) [] effects
      .ok (.sqlEffects (resolved.insertionSort
        fun a b => utf16Le a.id b.id = true))

/-! ## What a resolution guarantees -/

section Guarantees

variable {params : Json} {label : String}

theorem resolveStringSpec_ne_empty {spec : RegistryStringSpec} {value : String}
    (h : resolveStringSpec spec params label = .ok value) : value ≠ "" := by
  rcases spec with const | pointer
  · unfold resolveStringSpec at h
    dsimp only at h
    split at h
    · cases h
    · rename_i hne
      cases h
      exact hne
  · obtain ⟨got, -, hgot⟩ := bind_eq_ok.mp h
    split at hgot
    · cases hgot
    · split at hgot
      · cases hgot
      · rename_i hne
        cases hgot
        intro hempty
        subst hempty
        contradiction
      · cases hgot

/-- An optional part is resolved exactly when it is declared. -/
theorem resolveOptional_ok {α β : Type} {spec : Option α}
    {resolve : α → ResolveM β} {value : Option β}
    (h : resolveOptional spec resolve = .ok value) :
    (spec = none ∧ value = none) ∨
      ∃ s v, spec = some s ∧ value = some v ∧ resolve s = .ok v := by
  rcases spec with _ | s
  · cases h
    exact .inl ⟨rfl, rfl⟩
  · obtain ⟨v, hv, hvalue⟩ := bind_eq_ok.mp h
    cases hvalue
    exact .inr ⟨s, v, rfl, rfl, hv⟩

end Guarantees

end AgentSkeptic.Engine
