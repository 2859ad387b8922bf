import AgentSkeptic.Quick.Exports

/-!
# A quick run

`quickVerify/verifyExecution.ts` and `runQuickVerify.ts`: every planned check of every
action is sent to the database until there are enough units, and what was found good
enough is exported.  Of the report, the texts that only repeat it for a reader are left
out.

The database may change during a run: `db k` is the connection as it answers the check
of unit `k`.
-/

namespace AgentSkeptic.Quick

open AgentSkeptic.Support AgentSkeptic.Engine

/-! ## Executing a check -/

inductive UnitVerdict where
  | verified | fail | uncertain
  deriving DecidableEq

structure RowVerifyOutcome where
  verdict : UnitVerdict
  reasonCodes : List String
  verification : List (String × Json)
  explanation : String

def connectorOutcome (message : String) : RowVerifyOutcome :=
  ⟨.uncertain, ["CONNECTOR_ERROR"], [], message⟩

def reconciledOutcome (rowCount : ℕ) (out : ReconcileOutput) : RowVerifyOutcome :=
  if out.status = .verified then
    { verdict := .verified
      reasonCodes := []
      verification := setMember out.evidenceSummary "rowCount" (intJson rowCount)
      explanation := "Row matched identity and required fields." }
  else
    { verdict :=
        if out.status = .missing ∨ out.status = .inconsistent then .fail else .uncertain
      reasonCodes := out.reasons.map Reason.code
      verification := out.evidenceSummary
      explanation := "; ".intercalate (out.reasons.map Reason.message) }

section Execution

variable (tables : TextTables) (dialect : SqlRowDialect)

/-- `verifyRowSqlite` and `verifyRowPostgres`. -/
def verifyRow (db : SqlConnection) (req : VerificationRequest) : RowVerifyOutcome :=
  let run := do
    let rows ← fetchRowsForVerification tables dialect db req
    let out ← reconcileFromRows tables rows req
    .ok (reconciledOutcome rows.length out)
  match run with
  | .ok outcome => outcome
  | .error message => connectorOutcome message

/-- `some` of a scalar that stands for a truth value. -/
def normalizeExistsScalar (raw : JsValue) : Option Bool :=
  match raw with
  | .json (.bool value) => some value
  | .json (.num n) =>
      if n = .int 1 then some true else if n = .int 0 then some false else none
  | .json (.str text) =>
      let l := tables.toLowerCase text
      if l = "t" ∨ l = "true" ∨ l = "1" then some true
      else if l = "f" ∨ l = "false" ∨ l = "0" then some false
      else none
  | _ => none

def existsOutcome (raw : JsValue) : RowVerifyOutcome :=
  match normalizeExistsScalar tables raw with
  | none => ⟨.uncertain, ["RELATIONAL_SCALAR_UNUSABLE"], [], "EXISTS scalar unusable"⟩
  | some true => ⟨.verified, [], [], "Related row exists."⟩
  | some false => ⟨.fail, ["RELATED_ROWS_ABSENT"], [], "No matching related row."⟩

/-- The statement of such a check always exists, although it is built outside the
`try`. -/
def verifyRelatedExists (db : SqlConnection) (check : RelatedExistsCheck) :
    RowVerifyOutcome :=
  let run := do
    let statement ← buildRelationalScalarSql dialect check.resolved
    db.query statement
  match run with
  | .ok rows => existsOutcome tables (rows.head?.elim .undefined scalarColumn)
  | .error message => connectorOutcome message

end Execution

/-! ## Units -/

inductive UnitKind where
  | row | relatedExists
  deriving DecidableEq

structure SourceAction where
  toolName : String
  actionIndex : ℕ

structure Inference where
  table : String
  rationale : List String
  alternates : Option (List (String × ℚ))

structure QuickUnit where
  unitId : String
  kind : UnitKind
  verdict : UnitVerdict
  confidence : ℚ
  reasonCodes : List String
  sourceAction : SourceAction
  contractEligible : Bool
  inference : Inference
  verification : List (String × Json)
  explanation : String

structure RunState where
  units : List QuickUnit
  exportTools : List ToolRegistryEntry
  contractExports : List QuickContractExport
  runHeaderReasonCodes : List String
  relationalSeen : List String

def RunState.start : RunState := ⟨[], [], [], [], []⟩

def pushUnit (u : QuickUnit) (st : RunState) : RunState :=
  if maxUnits ≤ st.units.length then
    if "UNIT_CAP_EXCEEDED" ∈ st.runHeaderReasonCodes then st
    else { st with
      runHeaderReasonCodes := st.runHeaderReasonCodes ++ ["UNIT_CAP_EXCEEDED"] }
  else { st with units := st.units ++ [u] }

def pushExport (tool : ToolRegistryEntry) (item : QuickContractExport) (st : RunState) :
    RunState :=
  { st with
    exportTools := st.exportTools ++ [tool]
    contractExports := st.contractExports ++ [item] }

/-- `base`, or else the first of `base:1`, `base:2` and so on that is not used. -/
def freshToolId (base : String) (used : List String) : String :=
  let candidates := base :: (List.range used.length).map fun n =>
    base ++ ":" ++ toString (n + 1)
  (candidates.find? (· ∉ used)).getD base

section Run

variable (tables : TextTables) (catalog : SchemaCatalog) (dialect : SqlRowDialect)
  (db : ℕ → SqlConnection)

/-! ## Exporting a row -/

/-- The pointers of the key columns, when every flat key has one. -/
def identityPointers (bindings : List PkFlatBinding) :
    Except FlatKeyCode (List IdentityPointer) :=
  (bindings.insertionSort fun a b => utf16Le a.column b.column = true).mapM fun b => do
    let pointer ← flatKeyToJsonPointer b.flatKey
    .ok ⟨b.column, pointer⟩

/-- Whether the entry resolves against the parameters to the request itself. -/
def resolvesTo (entry : ToolRegistryEntry) (params : List (String × Json))
    (req : VerificationRequest) : Bool :=
  match resolveVerificationRequest entry (.obj params) none with
  | .ok (.sqlRow resolved) =>
      normalizedSqlRowRequestFingerprint resolved =
        normalizedSqlRowRequestFingerprint req
  | _ => false

/-- What an export by pointers needs: the parameters and the pointers. -/
def pointerExport (action : UniqueAction) (plan : RowUnitPlan)
    (req : VerificationRequest) (tid : String) :
    Option (List (String × Json) × List IdentityPointer) := do
  let synthetic := buildSyntheticRowParams action.params (sortedRecord req.requiredFields)
  let bindings ← plan.pkFlatBindings
  let specs ← (identityPointers bindings).toOption
  guard (specs ≠ [])
  guard (resolvesTo (exportSqlRowParamPointerTool tid req.table specs) synthetic req)
  pure (synthetic, specs)

/-- The request that the constant export stands for. -/
def exportRowRequest (b : ActionBucket) (req : VerificationRequest) :
    VerificationRequest :=
  augmentExportVerificationRequest req b.flat
    ((catalog.listColumns b.tableName).insertionSort fun a b => utf16Le a b = true)
    (req.identityEq.map IdentityEqPair.column)

/-- The exported tool and its contract, if any. -/
def rowExport (action : UniqueAction) (b : ActionBucket) (plan : RowUnitPlan)
    (req : VerificationRequest) (verdict : UnitVerdict) (tid : String) :
    Option (ToolRegistryEntry × QuickContractExport) :=
  if tExport ≤ plan.confidence then
    let exported := exportRowRequest catalog b req
    some (exportSqlRowTool tid exported,
      .sqlRow tid exported (some (buildSyntheticRowParams action.params
        (sortedRecord exported.requiredFields))))
  else if verdict = .verified ∧ plan.pointerComplete = some true ∧
      tCol ≤ plan.confidence then
    (pointerExport action plan req tid).map fun (synthetic, specs) =>
      (exportSqlRowParamPointerTool tid req.table specs,
        .sqlRow tid req (some synthetic))
  else none

/-! ## The loops -/

def usedToolIds (st : RunState) : List String :=
  st.exportTools.map ToolRegistryEntry.toolId

/-- One pass of the loop over the buckets. -/
def bucketStep (action : UniqueAction) (sourceAction : SourceAction) (st : RunState)
    (b : ActionBucket) : RunState :=
  if maxUnits ≤ st.units.length then st
  else
    let plan := planRowUnit tables catalog b catalog.listTables
    let uid := "u" ++ toString st.units.length
    match plan.request with
    | none =>
        pushUnit
          { unitId := uid
            kind := .row
            verdict := .uncertain
            confidence := plan.confidence
            reasonCodes :=
              if plan.reasonCodes = [] then ["MAPPING_FAILED"] else plan.reasonCodes
            sourceAction
            contractEligible := false
            inference := ⟨b.tableName, plan.rationale, plan.alternates⟩
            verification := []
            explanation :=
              if " ".intercalate plan.rationale = "" then "Could not map row unit."
              else " ".intercalate plan.rationale } st
    | some req =>
        let rowOut := verifyRow tables dialect (db st.units.length) req
        let tid := freshToolId ("quick:" ++ uid) (usedToolIds st)
        let exported := rowExport catalog action b plan req rowOut.verdict tid
        pushUnit
          { unitId := uid
            kind := .row
            verdict := rowOut.verdict
            confidence := plan.confidence
            reasonCodes := rowOut.reasonCodes
            sourceAction
            contractEligible := exported.isSome
            inference := ⟨req.table, plan.rationale, none⟩
            verification := rowOut.verification
            explanation := rowOut.explanation }
          (exported.elim st fun e => pushExport e.1 e.2 st)

def relationalKey (rel : RelatedExistsCheck) : String :=
  rel.childTable ++ "\u0000" ++
    ",".intercalate (rel.matchEq.map IdentityEqPair.column)

def relConfidence : ℚ := toDouble (80 / 100)

/-- The exported tool of a relational check, if any. -/
def relationalExport (rel : RelatedExistsCheck) (verdict : UnitVerdict)
    (used : List String) : Option (ToolRegistryEntry × QuickContractExport) :=
  let rtid := freshToolId ("quick:rel:" ++ rel.id) used
  let entry := exportSqlRelationalRelatedExistsTool rtid rel
  if verdict = .verified ∧ tExport ≤ relConfidence ∧
      (resolveVerificationRequest entry (.obj []) none).isOk then
    some (entry, .relatedExists rtid)
  else none

/-- One pass of the loop over the relational checks. -/
def relationalCheckStep (sourceAction : SourceAction) (st : RunState)
    (rel : RelatedExistsCheck) : RunState :=
  if maxUnits ≤ st.units.length then st
  else if relationalKey rel ∈ st.relationalSeen then st
  else
    let rout := verifyRelatedExists tables dialect (db st.units.length) rel
    let exported := relationalExport rel rout.verdict (usedToolIds st)
    let seen := { st with relationalSeen := relationalKey rel :: st.relationalSeen }
    pushUnit
      { unitId := "u" ++ toString st.units.length
        kind := .relatedExists
        verdict := rout.verdict
        confidence := relConfidence
        reasonCodes := rout.reasonCodes
        sourceAction
        contractEligible := exported.isSome
        inference := ⟨rel.childTable, ["FK " ++ rel.id], none⟩
        verification := rout.verification
        explanation := rout.explanation }
      (exported.elim seen fun e => pushExport e.1 e.2 seen)

/-- One pass of the loop over the actions. -/
def actionStep (st : RunState) (item : UniqueAction × ℕ) : RunState :=
  let action := item.1
  let sourceAction : SourceAction := ⟨action.toolName, item.2⟩
  let rows := (bucketsForAction action.toolName action.flat catalog.listTables).foldl
    (bucketStep tables catalog dialect db action sourceAction) st
  (planRelationalFromFlat tables action.flat catalog.listFkEdges).foldl
    (relationalCheckStep tables dialect db sourceAction) rows

def runActions (unique : List UniqueAction) : RunState :=
  unique.zipIdx.foldl (actionStep tables catalog dialect db) .start

/-! ## The report -/

inductive QuickVerdict where
  | pass | fail | uncertain
  deriving DecidableEq

def rollupVerdict (units : List QuickUnit) (ingestCodes : List String)
    (hadActions : Bool) : QuickVerdict :=
  if hadActions = false ∧ ("INGEST_NO_ACTIONS" ∈ ingestCodes ∨
      "INGEST_NO_STRUCTURED_TOOL_ACTIVITY" ∈ ingestCodes) then .uncertain
  else if units = [] then .uncertain
  else if units.any (·.verdict = .fail) then .fail
  else if units.all (·.verdict = .verified) then .pass
  else .uncertain

structure QuickVerifyReport where
  verdict : QuickVerdict
  ingestReasonCodes : List String
  malformedLineCount : ℕ
  ingestWarnings : List String
  runHeaderReasonCodes : List String
  units : List QuickUnit
  tools : List ToolRegistryEntry

structure RunQuickVerifyResult where
  report : QuickVerifyReport
  contractExports : List QuickContractExport

def sortTools (tools : List ToolRegistryEntry) : List ToolRegistryEntry :=
  tools.insertionSort fun a b => utf16Le a.toolId b.toolId = true

def runQuickVerify (inputUtf8 : List Char) : RunQuickVerifyResult :=
  let ingest := ingestActivityUtf8 inputUtf8
  if ingest.inputTooLarge then
    { report :=
        { verdict := .uncertain
          ingestReasonCodes := ingest.reasonCodes
          malformedLineCount := ingest.malformedLineCount
          ingestWarnings := []
          runHeaderReasonCodes := []
          units := []
          tools := [] }
      contractExports := [] }
  else
    let deduped := dedupeActions ingest.actions
    let st := runActions tables catalog dialect db deduped.unique
    { report :=
        { verdict := rollupVerdict st.units ingest.reasonCodes (ingest.actions ≠ [])
          ingestReasonCodes := ingest.reasonCodes
          malformedLineCount := ingest.malformedLineCount
          ingestWarnings := deduped.droppedWarnings
          runHeaderReasonCodes := st.runHeaderReasonCodes
          units := st.units
          tools := sortTools st.exportTools }
      contractExports := sortExports st.contractExports }

end Run

end AgentSkeptic.Quick
