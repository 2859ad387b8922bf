import AgentSkeptic.Report.CorrectnessDefinition

/-!
# Presenting a reconciliation

`formatVerificationTargetSummary` of `verificationDiagnostics.ts` and the values of
`reconciliationPresentation.ts` that stand in the report of a workflow.
-/

namespace AgentSkeptic.Report

open AgentSkeptic.Support AgentSkeptic.Engine

/-! ## Verification targets -/

def sanitizeOneLine (value : String) : String := formatOperationalMessage (oneLine value)

/-- `s.length <= max ? s : s.slice(0, max - 3) + "..."`. -/
def cutTo (max : ℕ) (s : String) : String :=
  if (utf16 s).length ≤ max then s
  else String.ofList (ofUtf16 ((utf16 s).take (max - 3))) ++ "..."

def identityEqOneLine (pairs : List IdentityEqPair) : String :=
  ", ".intercalate ((sortById IdentityEqPair.column pairs).map fun p =>
    sanitizeOneLine p.column ++ "=" ++ sanitizeOneLine p.value)

/-- The check of a target; a `related_exists` of several pairs says how many. -/
def checkSummary (c : ResolvedRelationalCheck) : String :=
  c.id ++ ":" ++ sanitizeOneLine c.body.checkKind ++
    match c.body with
    | .relatedExists _ matchEq =>
        if matchEq.length > 1 then ":m" ++ seqText matchEq.length else ""
    | _ => ""

def effectSummary (e : ResolvedEffect) : String :=
  e.id ++ ":" ++ sanitizeOneLine e.request.table ++ " identity=[" ++
    identityEqOneLine e.request.identityEq ++ "]"

section Targets

variable (tables : TextTables)

def fieldNamesSorted (requiredFields : ScalarFields) : String :=
  let names := (propertyOrder (requiredFields.map fun m => (m.1, m.2.json))).map Prod.fst
  ", ".intercalate (names.insertionSort fun a b => tables.localeLe a b = true)

def formatVerificationTargetSummary (req : Option ResolvedRequest) : Option String :=
  req.map fun
    | .sqlRow request =>
        formatOperationalMessage ("table=" ++ sanitizeOneLine request.table ++ " identity=[" ++
          identityEqOneLine request.identityEq ++ "] required_fields=[" ++
          fieldNamesSorted tables request.requiredFields ++ "]")
    | .sqlRowAbsent request =>
        formatOperationalMessage ("sql_row_absent table=" ++ sanitizeOneLine request.table ++
          " identity=[" ++ identityEqOneLine request.identityEq ++ "] filter=[" ++
          identityEqOneLine request.filterEq ++ "]")
    | .sqlRelational checks =>
        cutTo operationalMessageMaxChars ("sql_relational count=" ++ seqText checks.length ++
          " " ++ "; ".intercalate ((sortById ResolvedRelationalCheck.id checks).map
            checkSummary))
    | .sqlEffects effects =>
        cutTo operationalMessageMaxChars ("sql_effects count=" ++ seqText effects.length ++
          " " ++ "; ".intercalate ((sortById ResolvedEffect.id effects).map effectSummary))
    | .stateWitness (.vectorDocument r) =>
        formatOperationalMessage ("vector_document provider=" ++
          VectorProvider.text r.provider ++ " index=" ++ sanitizeOneLine r.indexName ++
          " id=" ++ sanitizeOneLine r.documentId)
    | .stateWitness (.objectStorageObject r) =>
        formatOperationalMessage ("object_storage bucket=" ++ sanitizeOneLine r.bucket ++
          " key=" ++ sanitizeOneLine r.key)
    | .stateWitness (.httpWitness r) =>
        formatOperationalMessage ("http_witness " ++ HttpMethod.text r.method ++ " " ++
          sanitizeOneLine r.url ++ " expect=" ++ r.expectedStatus.toText)
    | .stateWitness (.mongoDocument r) =>
        formatOperationalMessage ("mongo_document collection=" ++ sanitizeOneLine r.collection)

end Targets

/-! ## Observed states -/

/-- `String(v)`, which throws where `v` has a `toString` of its own. -/
def jsonText (v : Json) : Except ReportError String :=
  match v.toText with
  | some text => .ok text
  | none => .error .typeError

def formatPlanTransitionEvidenceSummary (ev : List (String × Json)) : String :=
  cutTo 500 (Json.obj (ev.filter (·.1 ≠ "planTransition"))).stringify

/-- The number of effect rows, or what the evidence says it is. -/
def effectRowsText (ev : List (String × Json)) : Except ReportError String :=
  match ownMember ev "effects" with
  | some (.arr rows) => .ok (seqText rows.length)
  | _ =>
      match ownMember ev "effectCount" with
      | none | some .null => .ok "0"
      | some count => jsonText count

def multiEffectText (ev : List (String × Json)) : Except ReportError String := do
  let rows ← effectRowsText ev
  .ok ("multi_effect effect_rows=" ++ rows)

def singleCheckText (ev : List (String × Json)) : String :=
  match ownMember ev "checkKind", ownMember ev "checkId" with
  | some (.str kind), some (.str id) => "sql_relational check=" ++ id ++ " kind=" ++ kind
  | _, _ => "sql_relational (single check)"

def rowCountText (ev : List (String × Json)) : Except ReportError String :=
  match ownMember ev "rowCount" with
  | some (.num rowCount) =>
      match ownMember ev "field", ownMember ev "expected", ownMember ev "actual" with
      | some field, some expected, some actual => do
          let field ← jsonText field
          let expected ← jsonText expected
          let actual ← jsonText actual
          .ok ("rowCount=" ++ rowCount.toText ++ " field=" ++ field ++ " expected=" ++
            expected ++ " actual=" ++ actual)
      | _, _, _ => .ok ("rowCount=" ++ rowCount.toText)
  | _ => .ok "SQL evidence present (no rowCount in summary)."

/-- What was observed, before it is formatted. -/
def observedStateText (step : StepOutcome) : Except ReportError String :=
  let ev := step.evidenceSummary
  if ownMember ev "planTransition" matches some (.bool true) then
    .ok (formatPlanTransitionEvidenceSummary ev)
  else
    match step.verificationRequest with
    | none => .ok "No SQL verification request (registry resolution or unknown tool)."
    | some (.sqlEffects _) => multiEffectText ev
    | some (.sqlRelational checks) =>
        if checks.length ≥ 2 then multiEffectText ev else .ok (singleCheckText ev)
    | some _ => rowCountText ev

def formatBatchObservedStateSummary (step : StepOutcome) : Except ReportError String := do
  let raw ← observedStateText step
  .ok (formatOperationalMessage raw)

/-! ## Values of a step -/

def expectedNoneNoSql : String := "(none — no resolvable registry expectation)"

/-- Tabs and line breaks and runs of spaces become one space, the ends are trimmed. -/
def spacedText (s : String) : String :=
  String.ofList (trimChars (collapseSpaces (s.toList.map fun c =>
    if c = '\t' ∨ c = '\r' ∨ c = '\n' then ' ' else c)))

def formatBatchDeclaredStderrValue (toolId intentNarrative paramsCanonical : String) :
    String :=
  let intent := if jsTrim intentNarrative = "" then "(none)" else spacedText intentNarrative
  formatOperationalMessage ("tool=" ++ toolId ++ "; intent=" ++ intent ++
    "; parameters_digest=" ++ paramsCanonical)

def formatBatchExpectedStderrValue (verifyTarget : Option String) : String :=
  match verifyTarget with
  | none => expectedNoneNoSql
  | some target => if target = "" then expectedNoneNoSql else formatOperationalMessage target

def formatBatchVerificationVerdictStderrValue (outcomeLabel humanPhrase : String)
    (failureCategory : Option String) : String :=
  let category := match failureCategory with
    | some category => if category = "" then "" else "; failure_category=" ++ category
    | none => ""
  formatOperationalMessage ("outcome=" ++ outcomeLabel ++ "; " ++ humanPhrase ++ category)

end AgentSkeptic.Report
