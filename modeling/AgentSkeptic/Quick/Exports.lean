import AgentSkeptic.Quick.Planning

/-!
# Exported registry tools

`quickVerify/exportTool.ts`, `buildSyntheticRowParams.ts`,
`verificationRequestFingerprint.ts` and `buildQuickContractEventsNdjson.ts`: the registry
entries that a quick run exports, the parameters they are replayed with, and the lines
that carry these parameters.
-/

namespace AgentSkeptic.Quick

open AgentSkeptic.Support AgentSkeptic.Engine

/-! ## Registry entries -/

def rowTool (toolId table : String) (identityEq : List RegistryEqualityPair) :
    ToolRegistryEntry :=
  { toolId
    effectDescriptionTemplate := "Quick inferred row: " ++ table
    releaseCritical := none
    verification := .sqlRow ⟨.const table, identityEq, "/__qvFields"⟩ }

def constPair (p : IdentityEqPair) : RegistryEqualityPair :=
  ⟨.const p.column, .const (.str p.value)⟩

def exportSqlRowTool (toolId : String) (req : VerificationRequest) : ToolRegistryEntry :=
  rowTool toolId req.table (req.identityEq.map constPair)

structure IdentityPointer where
  column : String
  valuePointer : String

def exportSqlRowParamPointerTool (toolId table : String)
    (identityPointers : List IdentityPointer) : ToolRegistryEntry :=
  rowTool toolId table ((identityPointers.insertionSort fun a b =>
    utf16Le a.column b.column = true).map fun p =>
      ⟨.const p.column, .pointer p.valuePointer⟩)

def exportSqlRelationalRelatedExistsTool (toolId : String) (rel : RelatedExistsCheck) :
    ToolRegistryEntry :=
  { toolId
    effectDescriptionTemplate := "Quick inferred related_exists: " ++ rel.id
    releaseCritical := none
    verification := .sqlRelational [⟨rel.id, .relatedExists
      ⟨.const rel.childTable, (rel.matchEq.insertionSort fun a b =>
        utf16Le a.column b.column = true).map constPair⟩⟩] }

/-! ## Requests -/

/-- Assign the members of a record to a new one, in the order of their names. -/
def sortedRecord (fields : ScalarFields) : ScalarRecord :=
  (fields.insertionSort fun a b => utf16Le a.1 b.1 = true).foldl
    (fun record m => record.set m.1 m.2) .empty

def identityPairJson (p : IdentityEqPair) : Json :=
  .obj [("column", .str p.column), ("value", .str p.value)]

def normalizedSqlRowRequestFingerprint (req : VerificationRequest) : String :=
  let sortedPairs := req.identityEq.insertionSort fun a b =>
    utf16Le a.column b.column = true
  stableStringify (.obj [("kind", .str "sql_row"), ("table", .str req.table),
    ("identityEq", .arr (sortedPairs.map identityPairJson)),
    ("requiredFields", (sortedRecord req.requiredFields).json)])

/-- The column of a path `fields.column`. -/
def fieldsColumn (path : String) : Option String :=
  let column := path.toList.drop "fields.".toList.length
  if "fields.".toList.isPrefixOf path.toList ∧ '.' ∉ column then
    some (String.ofList column)
  else none

def augmentStep (flat : ScalarRecord) (tableColumnNames pkColumns : List String)
    (rf : ScalarRecord) (path : String) : ScalarRecord :=
  match fieldsColumn path with
  | none => rf
  | some colName =>
      if colName ∈ pkColumns ∨ colName ∉ tableColumnNames then rf
      else
        match toScalar ((flat.get? path).getD .null) with
        | none => rf
        | some vs => rf.set colName vs

/-- A request without required fields gets those of the paths `fields.*`. -/
def augmentExportVerificationRequest (provisional : VerificationRequest)
    (flat : ScalarRecord) (tableColumnNames pkColumns : List String) :
    VerificationRequest :=
  if provisional.requiredFields ≠ [] then provisional
  else
    let paths := flat.keys.insertionSort fun a b => utf16Le a b = true
    let rf := paths.foldl (augmentStep flat tableColumnNames pkColumns) .empty
    if rf.entries.entries = [] then provisional
    else { provisional with requiredFields := rf.entries.entries }

/-! ## Synthetic parameters -/

mutual

/-- `JSON.parse(JSON.stringify(v))`: a number that is not finite becomes `null`. -/
def jsonClone : Json → Json
  | .num n => if n.isFinite then .num n else .null
  | .arr items => .arr (cloneItems items)
  | .obj members => .obj (cloneMembers members)
  | .null => .null
  | .bool value => .bool value
  | .str value => .str value

def cloneItems : List Json → List Json
  | [] => []
  | item :: items => jsonClone item :: cloneItems items

def cloneMembers : List (String × Json) → List (String × Json)
  | [] => []
  | (key, value) :: members => (key, jsonClone value) :: cloneMembers members

end

def buildSyntheticRowParams (actionParams : List (String × Json))
    (qvFields : ScalarRecord) : List (String × Json) :=
  setMember (cloneMembers actionParams) "__qvFields" qvFields.json

/-! ## Contract events -/

inductive QuickContractExport where
  | sqlRow (toolId : String) (request : VerificationRequest)
      (syntheticParams : Option (List (String × Json)))
  | relatedExists (toolId : String)

def QuickContractExport.toolId : QuickContractExport → String
  | sqlRow toolId _ _ => toolId
  | relatedExists toolId => toolId

/-- The parameters of a line, unless the canonical text does not parse. -/
def eventParams : QuickContractExport → Option Json
  | .relatedExists _ => some (.obj [])
  | .sqlRow _ _ (some params) => parseJson (stableStringify (.obj params)).toList
  | .sqlRow _ request none =>
      some (.obj [("__qvFields", (sortedRecord request.requiredFields).json)])

def eventLine (workflowId : String) (item : QuickContractExport × ℕ) : Option String :=
  (eventParams item.1).map fun params =>
    Json.stringify (.obj [("schemaVersion", .num (.int 1)),
      ("workflowId", .str workflowId), ("seq", .num (.int item.2)),
      ("type", .str "tool_observed"), ("toolId", .str item.1.toolId),
      ("params", params)])

def sortExports (exports : List QuickContractExport) : List QuickContractExport :=
  exports.insertionSort fun a b => utf16Le a.toolId b.toolId = true

/-- The text of the events, unless a `JSON.parse` throws. -/
def buildQuickContractEventsNdjson (workflowId : String)
    (exports : List QuickContractExport) : Option String :=
  if exports = [] then some ""
  else
    ((sortExports exports).zipIdx.mapM (eventLine workflowId)).map fun lines =>
      "\n".intercalate lines ++ "\n"

end AgentSkeptic.Quick
