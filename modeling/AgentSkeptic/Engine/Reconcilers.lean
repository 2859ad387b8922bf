import AgentSkeptic.Engine.SqlStatements
import AgentSkeptic.Engine.StateWitness
import AgentSkeptic.Engine.VerificationPolicy

/-!
# Reconciling rows and relational checks

`reconciler.ts`, `relationalInvariant.ts` and the targets of
`verificationConnections.ts`.  A database is whatever answers statements; its
errors are messages.

`Reconciled` says what a reconciler can return: nothing to report of a verified
item, and otherwise one reason whose code belongs to the status.
-/

namespace AgentSkeptic.Engine

open AgentSkeptic.Support

/-! ## Rows -/

/-- What the Unicode tables of the runtime decide. -/
structure TextTables where
  /-- `String.prototype.toLowerCase`. -/
  toLowerCase : String → String
  /-- `a.localeCompare(b) <= 0`. -/
  localeLe : String → String → Bool

/-- A row as the driver returns it, or once its columns are in lower case. -/
abbrev SqlRow := List (String × JsValue)

structure SqlConnection where
  query : SqlStatement → Except String (List SqlRow)

def setColumn (row : SqlRow) (column : String) (value : JsValue) : SqlRow :=
  if row.any (·.1 == column) then
    row.map fun m => if m.1 = column then (column, value) else m
  else row ++ [(column, value)]

def lowerRow (tables : TextTables) (row : SqlRow) : SqlRow :=
  row.foldl (fun out m => setColumn out (tables.toLowerCase m.1) m.2) []

/-- `col in row`, which also finds what a row inherits. -/
def hasColumn (row : SqlRow) (column : String) : Bool :=
  row.any (·.1 == column) || column == "__proto__" ||
    column ∈ objectPrototypeNames

/-- A value in the evidence; a bigint stands as the integer it is. -/
def evidenceValue : JsValue → Option Json
  | .json value => some value
  | .bigint value => some (.num (.int value))
  | .date iso => some (iso.elim .null .str)
  | .opaqueObject text => some (text.elim .null .str)
  | .objectPrototype => some (.obj [])
  | .undefined | .builtin _ => none

def evidenceMember (key : String) (value : JsValue) : List (String × Json) :=
  (evidenceValue value).toList.map fun v => (key, v)

def rowJson (row : SqlRow) : Json :=
  .obj (row.flatMap fun m => evidenceMember m.1 m.2)

/-- `Object.keys(row)`. -/
def rowKeys (row : SqlRow) : List Json :=
  (propertyOrder (row.map fun m => (m.1, .null))).map fun m => .str m.1

def outputField (status : StepStatus) (code : SqlVerificationOutcomeCode)
    (message field : String) (evidenceSummary : List (String × Json)) :
    ReconcileOutput :=
  { status, reasons := [{ code := code.code, message, field := some field }],
    evidenceSummary }

def connectorErrorOutput (message : String)
    (evidenceSummary : List (String × Json)) : ReconcileOutput :=
  output .incompleteVerification .connectorError (formatOperationalMessage message)
    evidenceSummary

def intJson (n : ℕ) : Json := .num (.int n)

section Rows

variable (tables : TextTables)

def pairContext (p : IdentityEqPair) : String :=
  formatOperationalMessage p.column ++ "=" ++ formatOperationalMessage p.value

def rowKeyContext (req : VerificationRequest) : String :=
  "table=" ++ formatOperationalMessage req.table ++ " " ++
    " ".intercalate (req.identityEq.map pairContext)

def absentKeyContext (req : RowAbsentVerificationRequest) : String :=
  "table=" ++ formatOperationalMessage req.table ++ " identity=[" ++
    " ".intercalate (req.identityEq.map pairContext) ++ "]" ++
    if req.filterEq = [] then ""
    else " filter=[" ++ " ".intercalate (req.filterEq.map pairContext) ++ "]"

/-- The required fields of the one row that was found, in order of their names. -/
def reconcileFields (row : SqlRow) (ctx : String) :
    ScalarFields → Except String ReconcileOutput
  | [] => .ok (verifiedOutput [("rowCount", intJson 1)])
  | (k, expectedVal) :: rest =>
      let col := tables.toLowerCase k
      let actual := documentField row col
      if hasColumn row col = false then
        .ok (output .incompleteVerification .rowShapeMismatch
          ("Column not in row: " ++ k ++ " (" ++ ctx ++ ")")
          [("rowCount", intJson 1), ("rowKeys", .arr (rowKeys row))])
      else if isUnreadable actual then
        .ok (outputField .incompleteVerification .unreadableValue
          ("Non-scalar value for " ++ k ++ " (" ++ ctx ++ ")") k
          [("rowCount", intJson 1), ("field", .str k)])
      else do
        match ← verificationScalarsEqual expectedVal actual with
        | .ok => reconcileFields row ctx rest
        | .mismatch expected found =>
            .ok (outputField .inconsistent .valueMismatch
              ("Expected " ++ expected ++ " but found " ++ found ++ " for field " ++
                k ++ " (" ++ ctx ++ ")") k
              [("rowCount", intJson 1), ("field", .str k),
                ("expected", .str expected), ("actual", .str found)])
where
  /-- An object other than a date. -/
  isUnreadable : JsValue → Bool
    | .json (.arr _) | .json (.obj _) | .opaqueObject _ | .objectPrototype => true
    | _ => false

def sortedFields (fields : ScalarFields) : ScalarFields :=
  fields.insertionSort fun a b => tables.localeLe a.1 b.1 = true

def reconcileFromRows (rows : List SqlRow) (req : VerificationRequest) :
    Except String ReconcileOutput :=
  let ctx := rowKeyContext req
  match rows with
  | [] =>
      .ok (output .missing .rowAbsent ("No row matched key (" ++ ctx ++ ")")
        [("rowCount", intJson 0)])
  | [row] =>
      reconcileFields tables row ctx (sortedFields tables req.requiredFields)
  | rows =>
      .ok (output .inconsistent .duplicateRows
        ("More than one row matched key (" ++ ctx ++ ")")
        [("rowCount", intJson rows.length)])

/-- `fetchRowsForVerification` and the `fetchRows` of the other targets. -/
def fetchRowsForVerification (dialect : SqlRowDialect) (db : SqlConnection)
    (req : VerificationRequest) : Except String (List SqlRow) := do
  let rows ← db.query (buildSelectByIdentitySql dialect req)
  .ok (rows.map (lowerRow tables))

def reconcileSqlRowAsync (dialect : SqlRowDialect) (db : SqlConnection)
    (req : VerificationRequest) : Except String ReconcileOutput :=
  match fetchRowsForVerification tables dialect db req with
  | .error message =>
      .ok (connectorErrorOutput message
        [("rowCount", .null), ("error", .bool true)])
  | .ok rows => reconcileFromRows tables rows req

def reconcileSqlRow (db : SqlConnection) (req : VerificationRequest) :
    Except String ReconcileOutput :=
  reconcileSqlRowAsync tables .sqlite db req

/-! ## Absent rows -/

/-- The number of a count, or of an aggregate unless it is a Boolean. -/
def normalizeCountV (raw : JsValue) : Option JsNumber :=
  match raw with
  | .bigint value =>
      if -maxSafeInteger ≤ value ∧ value ≤ maxSafeInteger then some (.int value)
      else none
  | .json (.num n) => if n.isFinite then some n else none
  | _ => none

def sampleJson (sampleRows : List SqlRow) : Json :=
  .arr (sampleRows.map fun row => rowJson (lowerRow tables row))

/-- `readCount` reads the column `v` of the first row, when there is one. -/
def rowAbsentRun (dialect : SqlRowDialect) (readCount : Option SqlRow → JsValue)
    (db : SqlConnection) (req : RowAbsentVerificationRequest) :
    Except String ReconcileOutput := do
  let ctx := absentKeyContext req
  let plan := buildRowAbsentSqlPlan dialect req
  let rows ← db.query ⟨plan.countSql, plan.values⟩
  let vRaw := readCount rows.head?
  match normalizeCountV vRaw with
  | none =>
      .ok (output .incompleteVerification .relationalScalarUnusable
        (formatOperationalMessage ("Absent check: unusable count (" ++ ctx ++ ")"))
        (("rowCount", .null) :: evidenceMember "raw" vRaw))
  | some cnt =>
      if cnt = .int 0 then .ok (verifiedOutput [("matchedRowCount", intJson 0)])
      else do
        let sampleRows ← db.query ⟨plan.sampleSql, plan.values⟩
        .ok (output .inconsistent .rowPresentWhenForbidden
          (formatOperationalMessage ("Row present when forbidden (" ++ ctx ++
            "); matched " ++ cnt.toText))
          [("matchedRowCount", .num cnt), ("sampleRows", sampleJson tables sampleRows)])

/-- `row.v ?? row.V`. -/
def scalarColumn (row : SqlRow) : JsValue :=
  let v := documentField row "v"
  if v.isNullish then documentField row "V" else v

def rowAbsentOutput (run : Except String ReconcileOutput) :
    Except String ReconcileOutput :=
  .ok (caught run fun message =>
    connectorErrorOutput message [("error", .bool true)])

def reconcileSqlRowAbsent (db : SqlConnection)
    (req : RowAbsentVerificationRequest) : Except String ReconcileOutput :=
  rowAbsentOutput (rowAbsentRun tables .sqlite
    (fun row => row.elim .undefined scalarColumn) db req)

def executeRowAbsentRemote (dialect : SqlRowDialect) (db : SqlConnection)
    (req : RowAbsentVerificationRequest) : Except String ReconcileOutput :=
  rowAbsentOutput (rowAbsentRun tables dialect
    (fun row => row.elim .undefined fun row =>
      documentField (lowerRow tables row) "v") db req)

end Rows

/-! ## Relational checks -/

def normalizeNumericActual (raw : JsValue) : Option JsNumber :=
  match raw with
  | .json (.bool value) => some (.int (if value then 1 else 0))
  | raw => normalizeCountV raw

def compareExpect (actual : JsNumber) (op : ExpectOp) (expected : JsNumber) :
    Bool :=
  match op with
  | .eq => actual = expected
  | .gte => decide (expected.toRat ≤ actual.toRat)
  | .lte => decide (actual.toRat ≤ expected.toRat)

def ExpectOp.text : ExpectOp → String
  | eq => "eq"
  | gte => "gte"
  | lte => "lte"

def ResolvedRelationalBody.checkKind : ResolvedRelationalBody → String
  | relatedExists .. => "related_exists"
  | aggregate .. => "aggregate"
  | joinCount .. => "join_count"
  | antiJoin .. => "anti_join"

def checkEvidence (check : ResolvedRelationalCheck) : List (String × Json) :=
  [("checkId", .str check.id), ("checkKind", .str check.body.checkKind)]

def relationalMessage (check : ResolvedRelationalCheck) (text : String) : String :=
  formatOperationalMessage ("Relational check " ++ check.id ++ ": " ++ text)

def scalarUnusable (check : ResolvedRelationalCheck) (text : String)
    (evidence : List (String × Json)) : ReconcileOutput :=
  output .incompleteVerification .relationalScalarUnusable
    (relationalMessage check text) (checkEvidence check ++ evidence)

def reconcileExists (check : ResolvedRelationalCheck) (vRaw : JsValue) :
    ReconcileOutput :=
  let norm := normalizeNumericActual vRaw
  if norm = some (.int 1) then
    verifiedOutput (checkEvidence check ++ [("v", intJson 1)])
  else if norm = some (.int 0) then
    output .missing .relatedRowsAbsent
      (relationalMessage check "related row does not exist")
      (checkEvidence check ++ [("v", intJson 0)])
  else
    scalarUnusable check "EXISTS result not boolean/0/1" (evidenceMember "raw" vRaw)

def reconcileAntiJoin (check : ResolvedRelationalCheck) (vRaw : JsValue) :
    ReconcileOutput :=
  match normalizeNumericActual vRaw with
  | none =>
      scalarUnusable check "non-numeric anti_join count" (evidenceMember "raw" vRaw)
  | some n =>
      if n = .int 0 then
        verifiedOutput (checkEvidence check ++ [("orphanRowCount", intJson 0)])
      else
        output .inconsistent .orphanRowDetected
          (relationalMessage check (n.toText ++ " orphan row(s)"))
          (checkEvidence check ++ [("orphanRowCount", .num n)])

def reconcileExpect (check : ResolvedRelationalCheck) (op : ExpectOp)
    (expected : JsNumber) (vRaw : JsValue) : ReconcileOutput :=
  match normalizeNumericActual vRaw with
  | none =>
      scalarUnusable check "non-numeric aggregate result" (evidenceMember "raw" vRaw)
  | some n =>
      let evidence := checkEvidence check ++
        [("actual", .num n), ("expected", .num expected), ("op", .str op.text)]
      if compareExpect n op expected then verifiedOutput evidence
      else
        output .inconsistent .relationalExpectationMismatch
          (relationalMessage check ("expected " ++ op.text ++ " " ++
            expected.toText ++ " but actual " ++ n.toText)) evidence

def reconcileRelationalRow (row : Option SqlRow)
    (check : ResolvedRelationalCheck) : ReconcileOutput :=
  match row with
  | none => scalarUnusable check "no result row" []
  | some row =>
      let vRaw := scalarColumn row
      match check.body with
      | .relatedExists .. => reconcileExists check vRaw
      | .antiJoin .. => reconcileAntiJoin check vRaw
      | .aggregate _ _ _ _ op expected => reconcileExpect check op expected vRaw
      | .joinCount _ _ _ _ _ op expected => reconcileExpect check op expected vRaw

def mergeAntiJoinSamples (base : ReconcileOutput) (sampleRows : Json) :
    ReconcileOutput :=
  { base with
    evidenceSummary := base.evidenceSummary ++ [("sampleRows", sampleRows)] }

def orphansDetected (out : ReconcileOutput) : Bool :=
  out.status = .inconsistent &&
    out.reasons.head?.any fun r =>
      r.code = SqlVerificationOutcomeCode.orphanRowDetected.code

def relationalRun (tables : TextTables) (dialect : SqlRowDialect)
    (db : SqlConnection) (check : ResolvedRelationalCheck)
    (statement : SqlStatement) : Except String ReconcileOutput := do
  let rows ← db.query statement
  let out := reconcileRelationalRow (rows.head?.map (lowerRow tables)) check
  match buildAntiJoinSampleSql dialect check with
  | none => .ok out
  | some sample =>
      if orphansDetected out then do
        let sampleRows ← db.query sample
        .ok (mergeAntiJoinSamples out (sampleJson tables sampleRows))
      else .ok out

/-- The statement is built outside the `try`. -/
def reconcileRelationalQuery (tables : TextTables) (dialect : SqlRowDialect)
    (db : SqlConnection) (check : ResolvedRelationalCheck) :
    Except String ReconcileOutput := do
  let statement ← buildRelationalScalarSql dialect check
  .ok (caught (relationalRun tables dialect db check statement) fun message =>
    connectorErrorOutput message (checkEvidence check ++ [("error", .bool true)]))

def reconcileRelationalSqlite (tables : TextTables) (db : SqlConnection)
    (check : ResolvedRelationalCheck) : Except String ReconcileOutput :=
  reconcileRelationalQuery tables .sqlite db check

/-! ## What a reconciler returns -/

/-- The codes that come with a status. -/
def reconcilerCodes : StepStatus → List SqlVerificationOutcomeCode
  | .missing =>
      [.rowAbsent, .relatedRowsAbsent, .vectorNotFound, .objectMissing,
        .mongoDocumentMissing]
  | .inconsistent =>
      [.duplicateRows, .valueMismatch, .rowPresentWhenForbidden,
        .relationalExpectationMismatch, .orphanRowDetected,
        .vectorMetadataMismatch, .objectSizeMismatch, .objectMetadataMismatch,
        .objectTooLargeForHash, .objectDigestMismatch, .httpWitnessStatusMismatch,
        .httpWitnessAssertionMismatch, .mongoValueMismatch]
  | .incompleteVerification =>
      [.connectorError, .rowShapeMismatch, .unreadableValue,
        .relationalScalarUnusable, .stateWitnessUnavailableInSqliteFileMode,
        .stateWitnessSetupError, .vectorProviderError, .httpWitnessNetworkError]
  | .verified | .partiallyVerified | .uncertain => []

def Reconciled (out : ReconcileOutput) : Prop :=
  (out.status = .verified ∧ out.reasons = []) ∨
    ∃ code ∈ reconcilerCodes out.status, ∃ message field,
      out.reasons = [⟨code.code, message, field⟩]

/-- Every answer there is has been reconciled. -/
def Answered {ε : Type} (run : Except ε ReconcileOutput) : Prop :=
  ∀ out, run = .ok out → Reconciled out

theorem reconciled_verified (evidence : List (String × Json)) :
    Reconciled (verifiedOutput evidence) := .inl ⟨rfl, rfl⟩

theorem reconciled_output {status : StepStatus}
    {code : SqlVerificationOutcomeCode} (message : String)
    (evidence : List (String × Json)) (h : code ∈ reconcilerCodes status) :
    Reconciled (output status code message evidence) :=
  .inr ⟨code, h, message, none, rfl⟩

theorem reconciled_outputField {status : StepStatus}
    {code : SqlVerificationOutcomeCode} (message field : String)
    (evidence : List (String × Json)) (h : code ∈ reconcilerCodes status) :
    Reconciled (outputField status code message field evidence) :=
  .inr ⟨code, h, message, some field, rfl⟩

theorem reconciled_connectorError (message : String)
    (evidence : List (String × Json)) :
    Reconciled (connectorErrorOutput message evidence) :=
  reconciled_output _ _ (by decide)

theorem Answered.ok {ε : Type} {out : ReconcileOutput} (h : Reconciled out) :
    Answered (.ok out : Except ε ReconcileOutput) := by
  intro found hfound
  cases hfound
  exact h

theorem Answered.error {ε : Type} (e : ε) :
    Answered (.error e : Except ε ReconcileOutput) := by
  intro out hout
  cases hout

theorem Answered.bind {ε α : Type} {x : Except ε α}
    {f : α → Except ε ReconcileOutput} (h : ∀ a, Answered (f a)) :
    Answered (x >>= f) := by
  intro out hout
  obtain ⟨a, -, ha⟩ := bind_eq_ok.mp hout
  exact h a out ha

/-- An answer, once the error is caught as one. -/
theorem Answered.caught {run : Except String ReconcileOutput}
    {onError : String → ReconcileOutput} (hrun : Answered run)
    (herror : ∀ message, Reconciled (onError message)) :
    Reconciled (caught run onError) := by
  rcases hcase : run with message | out
  · exact herror message
  · exact hrun out hcase

section Specs

variable {tables : TextTables}

/-! ### Rows and checks -/

theorem reconcileFields_answered {row : SqlRow} {ctx : String}
    {fields : ScalarFields} :
    Answered (reconcileFields tables row ctx fields) := by
  induction fields with
  | nil => exact .ok (reconciled_verified _)
  | cons field rest ih =>
      unfold reconcileFields
      dsimp only
      split_ifs
      · exact .ok (reconciled_output _ _ (by decide))
      · exact .ok (reconciled_outputField _ _ _ (by decide))
      · apply Answered.bind
        rintro (_ | ⟨expected, found⟩)
        · exact ih
        · exact .ok (reconciled_outputField _ _ _ (by decide))

theorem reconcileFromRows_answered {rows : List SqlRow}
    {req : VerificationRequest} : Answered (reconcileFromRows tables rows req) := by
  unfold reconcileFromRows
  dsimp only
  split
  · exact .ok (reconciled_output _ _ (by decide))
  · exact reconcileFields_answered
  · exact .ok (reconciled_output _ _ (by decide))

/-- A value that is no object is compared. -/
theorem verificationScalarsEqual_total (expected : VerificationScalar)
    {actual : JsValue} (h : reconcileFields.isUnreadable actual = false) :
    ∃ result, verificationScalarsEqual expected actual = .ok result := by
  unfold verificationScalarsEqual
  split_ifs
  · exact ⟨_, rfl⟩
  · have htext : ∃ text, canonicalVerificationDisplayForActual actual = some text := by
      rcases actual with _ | value | value | iso | text | name | _
      · exact ⟨_, rfl⟩
      · rcases value with _ | value | value | value | items | members
        · exact ⟨_, rfl⟩
        · exact ⟨_, rfl⟩
        · exact ⟨_, rfl⟩
        · exact ⟨_, rfl⟩
        · cases h
        · cases h
      · exact ⟨_, rfl⟩
      · rcases iso with _ | iso
        · exact ⟨_, rfl⟩
        · exact ⟨_, rfl⟩
      · cases h
      · exact ⟨_, rfl⟩
      · cases h
    obtain ⟨text, htext⟩ := htext
    rw [htext]
    exact ⟨_, rfl⟩

theorem reconcileFields_total (row : SqlRow) (ctx : String)
    (fields : ScalarFields) :
    ∃ out, reconcileFields tables row ctx fields = .ok out := by
  induction fields with
  | nil => exact ⟨_, rfl⟩
  | cons field rest ih =>
      unfold reconcileFields
      dsimp only
      split_ifs with hcolumn hunreadable
      · exact ⟨_, rfl⟩
      · exact ⟨_, rfl⟩
      · obtain ⟨result, hresult⟩ := verificationScalarsEqual_total field.2
          (by simpa using hunreadable)
        rcases result with _ | ⟨expected, found⟩
        · obtain ⟨out, hout⟩ := ih
          exact ⟨out, bind_eq_ok.mpr ⟨_, hresult, hout⟩⟩
        · exact ⟨_, bind_eq_ok.mpr ⟨_, hresult, rfl⟩⟩

theorem reconcileFromRows_total (rows : List SqlRow) (req : VerificationRequest) :
    ∃ out, reconcileFromRows tables rows req = .ok out := by
  unfold reconcileFromRows
  dsimp only
  split
  · exact ⟨_, rfl⟩
  · exact reconcileFields_total _ _ _
  · exact ⟨_, rfl⟩

/-- A row is reconciled whatever the database answers. -/
theorem reconcileSqlRowAsync_spec (dialect : SqlRowDialect) (db : SqlConnection)
    (req : VerificationRequest) :
    ∃ out, reconcileSqlRowAsync tables dialect db req = .ok out ∧
      Reconciled out := by
  unfold reconcileSqlRowAsync
  rcases fetchRowsForVerification tables dialect db req with message | rows
  · exact ⟨_, rfl, reconciled_connectorError _ _⟩
  · obtain ⟨out, hout⟩ : ∃ out, reconcileFromRows tables rows req = .ok out :=
      reconcileFromRows_total rows req
    exact ⟨out, hout, reconcileFromRows_answered out hout⟩

theorem rowAbsentRun_answered {dialect : SqlRowDialect}
    {readCount : Option SqlRow → JsValue} {db : SqlConnection}
    {req : RowAbsentVerificationRequest} :
    Answered (rowAbsentRun tables dialect readCount db req) := by
  apply Answered.bind
  intro rows
  dsimp only
  split
  · exact .ok (reconciled_output _ _ (by decide))
  · split_ifs
    · exact .ok (reconciled_verified _)
    · apply Answered.bind
      intro sampleRows
      exact .ok (reconciled_output _ _ (by decide))

theorem rowAbsentOutput_spec {run : Except String ReconcileOutput}
    (h : Answered run) :
    ∃ out, rowAbsentOutput run = .ok out ∧ Reconciled out :=
  ⟨_, rfl, h.caught fun _ => reconciled_connectorError _ _⟩

theorem reconcileRelationalRow_reconciled (row : Option SqlRow)
    (check : ResolvedRelationalCheck) :
    Reconciled (reconcileRelationalRow row check) := by
  rcases check with ⟨id, body⟩
  rcases row with _ | row
  · exact reconciled_output _ _ (by decide)
  · have hexpect : ∀ op expected, Reconciled
        (reconcileExpect ⟨id, body⟩ op expected (scalarColumn row)) := by
      intro op expected
      unfold reconcileExpect
      split
      · exact reconciled_output _ _ (by decide)
      · dsimp only
        split_ifs
        · exact reconciled_verified _
        · exact reconciled_output _ _ (by decide)
    rcases body with _ | _ | _ | _
    · simp only [reconcileRelationalRow, reconcileExists]
      split_ifs
      · exact reconciled_verified _
      · exact reconciled_output _ _ (by decide)
      · exact reconciled_output _ _ (by decide)
    · exact hexpect _ _
    · exact hexpect _ _
    · simp only [reconcileRelationalRow, reconcileAntiJoin]
      split
      · exact reconciled_output _ _ (by decide)
      · split_ifs
        · exact reconciled_verified _
        · exact reconciled_output _ _ (by decide)

theorem relationalRun_answered {dialect : SqlRowDialect} {db : SqlConnection}
    {check : ResolvedRelationalCheck} {statement : SqlStatement} :
    Answered (relationalRun tables dialect db check statement) := by
  apply Answered.bind
  intro rows
  have hrow := reconcileRelationalRow_reconciled (rows.head?.map (lowerRow tables))
    check
  dsimp only
  split
  · exact .ok hrow
  · split_ifs
    · apply Answered.bind
      intro sampleRows
      exact .ok hrow
    · exact .ok hrow

/-- A check that can be sent is reconciled whatever the database answers. -/
theorem reconcileRelationalQuery_spec (dialect : SqlRowDialect)
    (db : SqlConnection) {check : ResolvedRelationalCheck}
    (h : SumColumnGiven check) :
    ∃ out, reconcileRelationalQuery tables dialect db check = .ok out ∧
      Reconciled out := by
  obtain ⟨statement, hstatement⟩ : ∃ statement,
      buildRelationalScalarSql dialect check = .ok statement :=
    buildRelationalScalarSql_ok h
  refine ⟨_, bind_eq_ok.mpr ⟨statement, hstatement, rfl⟩, ?_⟩
  exact relationalRun_answered.caught fun _ => reconciled_connectorError _ _

/-! ### State witnesses -/

variable {w : WitnessWorld}

theorem reconcileVectorDocument_reconciled
    (req : VectorDocumentVerificationRequest) :
    Reconciled (reconcileVectorDocument w req) := by
  unfold reconcileVectorDocument
  split_ifs
  · exact reconciled_output _ _ (by decide)
  · split
    · exact reconciled_output _ _ (by decide)
    · rename_i t ht
      have hrun : Answered (reconcileProvider w t req) := by
        unfold reconcileProvider
        split
        · apply Answered.bind
          intro r
          split_ifs
          · exact .ok (reconciled_output _ _ (by decide))
          · apply Answered.bind
            intro body
            apply Answered.bind
            intro vectors
            dsimp only
            split_ifs
            · exact .ok (reconciled_output _ _ (by decide))
            · apply Answered.bind
              rintro (_ | m)
              · exact .ok (reconciled_verified _)
              · exact .ok (reconciled_output _ _ (by decide))
        · apply Answered.bind
          intro r
          split_ifs
          · exact .ok (reconciled_output _ _ (by decide))
          · exact .ok (reconciled_output _ _ (by decide))
          · exact .ok (reconciled_verified _)
        · apply Answered.bind
          intro r
          split_ifs
          · exact .ok (reconciled_output _ _ (by decide))
          · apply Answered.bind
            intro body
            apply Answered.bind
            intro ids
            apply Answered.bind
            intro found
            split_ifs
            · exact .ok (reconciled_verified _)
            · exact .ok (reconciled_output _ _ (by decide))
      exact hrun.caught fun _ => reconciled_output _ _ (by decide)

theorem sizeMismatch_reconciled {req : ObjectStorageVerificationRequest}
    {head : HeadObjectReply} {out : ReconcileOutput}
    (h : sizeMismatch req head = some out) : Reconciled out := by
  unfold sizeMismatch at h
  split at h
  · split_ifs at h
    cases h
    exact reconciled_output _ _ (by decide)
  · cases h

theorem etagMismatch_reconciled {req : ObjectStorageVerificationRequest}
    {head : HeadObjectReply} {out : ReconcileOutput}
    (h : etagMismatch req head = some out) : Reconciled out := by
  unfold etagMismatch at h
  split at h
  · cases h
  · dsimp only at h
    split_ifs at h
    cases h
    exact reconciled_output _ _ (by decide)

theorem digestCheck_reconciled {req : ObjectStorageVerificationRequest}
    {head : HeadObjectReply} {sha : String} {out : ReconcileOutput}
    (h : digestCheck w req head sha = .ok (some out)) : Reconciled out := by
  unfold digestCheck at h
  split_ifs at h
  · cases h
    exact reconciled_output _ _ (by decide)
  · split at h
    · split_ifs at h
      · cases h
        exact reconciled_output _ _ (by decide)
      · cases h
        exact reconciled_output _ _ (by decide)
    · cases h
      exact reconciled_output _ _ (by decide)
    · cases h
    · dsimp only at h
      split_ifs at h
      · cases h
        exact reconciled_output _ _ (by decide)
      · cases h
      · cases h
        exact reconciled_output _ _ (by decide)

theorem objectChecks_answered {req : ObjectStorageVerificationRequest}
    {head : HeadObjectReply} : Answered (objectChecks w req head) := by
  unfold objectChecks
  split
  · rename_i out hsize
    exact .ok (sizeMismatch_reconciled hsize)
  · split
    · rename_i out hetag
      exact .ok (etagMismatch_reconciled hetag)
    · split
      · exact .ok (reconciled_verified _)
      · intro out hout
        obtain ⟨found, hfound, hout⟩ := bind_eq_ok.mp hout
        rcases found with _ | found
        · exact Answered.ok (reconciled_verified _) out hout
        · exact Answered.ok (digestCheck_reconciled hfound) out hout

theorem reconcileObjectStorage_reconciled
    (req : ObjectStorageVerificationRequest) :
    Reconciled (reconcileObjectStorage w req) := by
  have hrun : Answered (do
      let head ← w.headObject (s3Client w req) req.bucket req.key
      objectChecks w req head) := .bind fun head => objectChecks_answered
  unfold reconcileObjectStorage
  dsimp only
  split
  · rename_i out hout
    exact hrun out hout
  · split_ifs
    · exact reconciled_output _ _ (by decide)
    · exact reconciled_output _ _ (by decide)

theorem reconcileMongoDocument_reconciled
    (req : MongoDocumentVerificationRequest) :
    Reconciled (reconcileMongoDocument w req) := by
  unfold reconcileMongoDocument
  split
  · exact reconciled_output _ _ (by decide)
  · rename_i uri huri
    have hrun : Answered (mongoRun w uri req) := by
      apply Answered.bind
      rintro (_ | doc)
      · exact .ok (reconciled_output _ _ (by decide))
      · apply Answered.bind
        rintro (_ | m)
        · exact .ok (reconciled_verified _)
        · have hcode : SqlVerificationOutcomeCode.mongoValueMismatch ∈
              reconcilerCodes .inconsistent := by decide
          exact .ok (.inr ⟨_, hcode, _, some m.field, rfl⟩)
    exact hrun.caught fun _ => reconciled_output _ _ (by decide)

theorem reconcileHttpWitness_reconciled (req : HttpWitnessVerificationRequest) :
    Reconciled (reconcileHttpWitness w req) := by
  have hrun : Answered (httpRun w req) := by
    apply Answered.bind
    intro r
    split
    · exact .ok (reconciled_output _ _ (by decide))
    · apply Answered.bind
      intro text
      dsimp only
      split_ifs
      · exact .ok (reconciled_verified _)
      · exact .ok (reconciled_output _ _ (by decide))
      · apply Answered.bind
        rintro (_ | m)
        · exact .ok (reconciled_verified _)
        · exact .ok (reconciled_output _ _ (by decide))
  exact hrun.caught fun _ => reconciled_output _ _ (by decide)

theorem reconcileStateWitness_reconciled (w : WitnessWorld)
    (req : StateWitnessRequest) : Reconciled (reconcileStateWitness w req) := by
  rcases req with req | req | req | req
  · exact reconcileVectorDocument_reconciled req
  · exact reconcileObjectStorage_reconciled req
  · exact reconcileHttpWitness_reconciled req
  · exact reconcileMongoDocument_reconciled req

end Specs

end AgentSkeptic.Engine
