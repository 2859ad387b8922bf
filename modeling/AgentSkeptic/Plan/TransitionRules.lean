import AgentSkeptic.Engine.Pipeline
import AgentSkeptic.Plan.NameStatus
import AgentSkeptic.Plan.PathHarvest
import AgentSkeptic.Support.JsonSchema

/-!
# Rules of a plan

`planTransition.ts`: where the rules of a plan come from (its front matter, a section of
its body, or the paths that it cites), and what each rule says about the rows of a diff.
The YAML parser, the URL parser, the glob matcher and the texts of schema errors are
parameters.
-/

namespace AgentSkeptic.Plan

open AgentSkeptic.Support AgentSkeptic.Events AgentSkeptic.Engine

/-! ## Rules -/

def PlanDiffRowKind.name : PlanDiffRowKind → String
  | add => "add"
  | modify => "modify"
  | delete => "delete"
  | rename => "rename"
  | copy => "copy"
  | typeChange => "type_change"
  | unmerged => "unmerged"

def rowKindNames : List (String × PlanDiffRowKind) :=
  [.add, .modify, .delete, .rename, .copy, .typeChange, .unmerged].map fun k => (k.name, k)

inductive RuleCheck where
  | matchingRowsMustHaveRowKinds (pattern : String) (rowKinds : List PlanDiffRowKind)
  | forbidMatchingRows (pattern : String)
  | requireMatchingRow (pattern : String) (rowKinds : List PlanDiffRowKind)
  | allChangedPathsMustMatchAllowlist (allowPatterns : List String)
  | requireRenameFromTo (fromPattern toPattern : String) (includeCopy : Bool)
  deriving DecidableEq

def RuleCheck.kind : RuleCheck → String
  | matchingRowsMustHaveRowKinds _ _ => "matchingRowsMustHaveRowKinds"
  | forbidMatchingRows _ => "forbidMatchingRows"
  | requireMatchingRow _ _ => "requireMatchingRow"
  | allChangedPathsMustMatchAllowlist _ => "allChangedPathsMustMatchAllowlist"
  | requireRenameFromTo _ _ _ => "requireRenameFromTo"

structure PlanRule where
  id : String
  description : Option String
  check : RuleCheck
  deriving DecidableEq

/-! ## The schema of written rules -/

/-- `^[a-zA-Z0-9._-]+$`. -/
def ruleIdSchema : Schema :=
  .textWith fun s => s ≠ "" && s.toList.all PathPatterns.isPathChar

def patternSchema : Schema := .text 1 none

/-- An array of `minItems` 1. -/
def someOf (items : Schema) : Schema :=
  .scalar fun v =>
    match v with
    | .arr vs => !vs.isEmpty && vs.all items.valid
    | _ => false

def rowKindsSchema : Schema := someOf (.oneOf (rowKindNames.map Prod.fst))

/-- The alternative of a kind: these keys of its own, next to those of every rule. -/
def ruleSchema (kind : String) (own : List (String × Schema)) : Schema :=
  .object (["id", "kind"] ++ own.map Prod.fst)
    ([("id", ruleIdSchema), ("kind", .oneOf [kind]), ("description", .text 0 none)] ++ own)

def planRuleSchema : Schema :=
  .exactlyOne
    [ruleSchema "matchingRowsMustHaveRowKinds"
      [("pattern", patternSchema), ("rowKinds", rowKindsSchema)],
    ruleSchema "forbidMatchingRows" [("pattern", patternSchema)],
    ruleSchema "requireMatchingRow"
      [("pattern", patternSchema), ("rowKinds", rowKindsSchema)],
    ruleSchema "allChangedPathsMustMatchAllowlist" [("allowPatterns", someOf patternSchema)],
    ruleSchema "requireRenameFromTo"
      [("fromPattern", patternSchema), ("toPattern", patternSchema),
        ("includeCopy", .boolean)]]

/-- `plan-validation-core`. -/
def planValidationCore : Schema :=
  .object ["schemaVersion", "rules"]
    [("schemaVersion", .number 1), ("rules", .array planRuleSchema)]

def textIn (v : Json) (key : String) : String := (textOf v key).getD ""

def textsIn (v : Json) (key : String) : List String :=
  match v.member key with
  | .json (.arr items) => items.filterMap fun
      | .str s => some s
      | _ => none
  | _ => []

def rowKindsIn (v : Json) : List PlanDiffRowKind :=
  (textsIn v "rowKinds").filterMap fun name => (rowKindNames.find? (·.1 = name)).map Prod.snd

def checkOf (v : Json) : RuleCheck :=
  match textIn v "kind" with
  | "matchingRowsMustHaveRowKinds" =>
      .matchingRowsMustHaveRowKinds (textIn v "pattern") (rowKindsIn v)
  | "forbidMatchingRows" => .forbidMatchingRows (textIn v "pattern")
  | "requireMatchingRow" => .requireMatchingRow (textIn v "pattern") (rowKindsIn v)
  | "allChangedPathsMustMatchAllowlist" =>
      .allChangedPathsMustMatchAllowlist (textsIn v "allowPatterns")
  | _ =>
      .requireRenameFromTo (textIn v "fromPattern") (textIn v "toPattern")
        (match v.member "includeCopy" with
        | .json (.bool b) => b
        | _ => false)

/-- `(value as { rules: PlanRule[] }).rules` of a valid value. -/
def rulesIn (value : Json) : List PlanRule :=
  match value.member "rules" with
  | .json (.arr rules) => rules.map fun v => ⟨textIn v "id", textOf v "description", checkOf v⟩
  | _ => []

/-! ## Loading -/

structure PlanRuntime where
  /-- `YAML.parse`, with the message of what it throws. -/
  parseYaml : String → Except String Json
  /-- `decodeURIComponent(new URL(R).pathname)`, unless one of them throws. -/
  fileUrlPath : Text → Option Text
  /-- `picomatch.isMatch(path, pattern, { dot: true, nocase: false })`. -/
  isMatch : String → String → Bool
  /-- `JSON.stringify(v.errors)` for a value that is not valid. -/
  schemaErrors : Json → String

inductive TransitionRulesProvenance where
  | frontMatter | bodySection | derivedCitations
  deriving DecidableEq

structure LoadedRules where
  rules : List PlanRule
  source : TransitionRulesProvenance
  deriving DecidableEq

def planInsufficientSpecDetail : String :=
  "No machine-checkable plan transition rules were found. Add planValidation " ++
  "(schemaVersion: 1, rules) under YAML front matter; or add exactly one heading " ++
  "\"Repository transition validation\" followed by a single yaml or yml fenced block with " ++
  "the same structure; or, when neither is present, derive rules from paths harvested only " ++
  "under obligation-bearing rules: H2 sections titled Implementation, Deliverables, Testing, " ++
  "Documentation, or Validation (see docs — Derived citations: action/modal/numbered-fragment " ++
  "gates, strong-root prefixes, Testing Expect: skip, body line fragmentation, todo semicolon " ++
  "segmentation) plus front matter todos[].content, so each harvested path can be required to " ++
  "appear in the git name-status diff."

def insufficientSpec : TruthLayerError where
  code := "PLAN_VALIDATION_INSUFFICIENT_SPEC"
  message := planInsufficientSpecDetail

def firstFenceMustBeYaml : TruthLayerError where
  code := "PLAN_VALIDATION_INSUFFICIENT_SPEC"
  message :=
    "The first fenced code block in the \"Repository transition validation\" section must " ++
      "use the yaml or yml language tag."

def yamlInvalid (message : String) : TruthLayerError := ⟨"PLAN_VALIDATION_YAML_INVALID", message⟩

def ambiguousBodyRules (message : String) : TruthLayerError :=
  ⟨"PLAN_VALIDATION_AMBIGUOUS_BODY_RULES", message⟩

namespace PathPatterns

open Regex

/-- `#{1,6}`. -/
def hashes : Regex Char := seq (char (· == '#')) (loop true (some 5) (char (· == '#')))

/-- `^#{1,6}\s+Repository transition validation\s*$`. -/
def repositoryTransitionHeadingRe : Regex Char :=
  inOrder [atStart, hashes, plus white, literal "Repository transition validation",
    many white, atEnd]

/-- `^(#{1,6})\s`. -/
def headingLevelRe : Regex Char := inOrder [atStart, group 1 hashes, white]

end PathPatterns

def markdownHeadingLevel (line : Text) : Option ℕ :=
  (PathPatterns.headingLevelRe.exec line).map fun m => ((m.group 1).getD []).length

structure FencedBlock where
  info : Text
  inner : Text

/-- The blocks that are closed; `opened` is the block that the lines stand in. -/
def fencedBlocks (opened : Option (Text × List Text)) : List Text → List FencedBlock
  | [] => []
  | line :: lines =>
      match opened with
      | none =>
          match PathPatterns.fenceOpenRe.exec line with
          | some m => fencedBlocks (some ((m.group 1).getD [], [])) lines
          | none => fencedBlocks none lines
      | some (info, inner) =>
          if PathPatterns.fenceCloseRe.test line then
            ⟨info, ['\n'].intercalate inner⟩ :: fencedBlocks none lines
          else fencedBlocks (some (info, inner ++ [line])) lines

def extractFencedBlocks (lines : List Text) : List FencedBlock := fencedBlocks none lines

def extractPlanFrontMatterYamlSource (md : Text) : Except TruthLayerError String := do
  let (yamlSrc, _) ← cutFrontMatter md
  return String.ofList yamlSrc

section Loading

variable (rt : PlanRuntime)

def validatePlanValidationCoreOrThrow (value : Json) (labelPrefix : String) :
    Except TruthLayerError (List PlanRule) :=
  if planValidationCore.valid value then .ok (rulesIn value)
  else .error ⟨"PLAN_VALIDATION_SCHEMA_INVALID", labelPrefix ++ rt.schemaErrors value⟩

/-- The rules of a block of YAML. -/
def bodyBlockRules (block : FencedBlock) : Except TruthLayerError LoadedRules :=
  match rt.parseYaml (String.ofList block.inner) with
  | .error e =>
      .error (yamlInvalid
        ("body Repository transition validation: YAML parse failed: " ++ e))
  | .ok parsed => do
      let rules ← validatePlanValidationCoreOrThrow rt parsed
        "body Repository transition validation:"
      return ⟨rules, .bodySection⟩

def isYaml (block : FencedBlock) : Bool :=
  block.info = "yaml".toList || block.info = "yml".toList

/-- The rules of the section that begins at a line. -/
def bodySectionRules (lines : List Text) (headingLineIdx : ℕ) :
    Except TruthLayerError LoadedRules :=
  match markdownHeadingLevel (lines.getD headingLineIdx []) with
  | none => .error insufficientSpec
  | some level =>
      let sectionLines := (lines.drop (headingLineIdx + 1)).takeWhile fun line =>
        !(markdownHeadingLevel line).any (· ≤ level)
      let blocks := extractFencedBlocks sectionLines
      match blocks with
      | [] => .error insufficientSpec
      | first :: _ =>
          if !isYaml first then .error firstFenceMustBeYaml
          else if 1 < (blocks.filter isYaml).length then
            .error (ambiguousBodyRules
              ("Multiple yaml or yml fenced blocks in the \"Repository transition " ++
                "validation\" section are not allowed."))
          else bodyBlockRules rt first

def derivedCitationRequireRowKinds : List PlanDiffRowKind :=
  [.add, .modify, .delete, .rename, .copy, .typeChange]

/-- The rule of a harvested path. -/
def derivedRule (i : ℕ) (pattern : String) : PlanRule where
  id := "derived.require." ++ toString i
  description := none
  check := .requireMatchingRow pattern derivedCitationRequireRowKinds

def derivedRules (md : Text) (fm : Json) : Except TruthLayerError LoadedRules := do
  let harvested ← harvestQualifyingPathsFromPlan rt.fileUrlPath md fm
  if harvested = [] then .error insufficientSpec
  else .ok ⟨harvested.mapIdx derivedRule, .derivedCitations⟩

/-- `Object.prototype.hasOwnProperty.call(fm, "planValidation")`, and the value. -/
def ownPlanValidation (fm : Json) : Option Json :=
  match fm with
  | .obj members => ownMember members "planValidation"
  | _ => none

/-- An object or an array; anything else counts as an empty object. -/
def frontMatterOf (doc : Json) : Json :=
  match doc with
  | .obj members => .obj members
  | .arr items => .arr items
  | _ => .obj []

def bodyRules (md : Text) (fm : Json) : Except TruthLayerError LoadedRules := do
  let body ← extractMarkdownBodyAfterFrontMatter md
  let lines := (lfCanonical body).splitOn '\n'
  let headingIndices := (List.range lines.length).filter fun li =>
    PathPatterns.repositoryTransitionHeadingRe.test (lines.getD li [])
  match headingIndices with
  | [] => derivedRules rt md fm
  | [headingLineIdx] => bodySectionRules rt lines headingLineIdx
  | _ =>
      .error (ambiguousBodyRules
        ("Duplicate \"Repository transition validation\" headings are not allowed when " ++
          "loading rules from the plan body."))

/-- The rules of a plan whose front matter is parsed. -/
def rulesOfPlan (md : Text) (fm : Json) : Except TruthLayerError LoadedRules :=
  match ownPlanValidation fm with
  | some value => do
      let rules ← validatePlanValidationCoreOrThrow rt value "front matter planValidation:"
      return ⟨rules, .frontMatter⟩
  | none => bodyRules rt md fm

def loadPlanTransitionRules (rawMarkdown : Text) : Except TruthLayerError LoadedRules := do
  let md := stripUtf8Bom rawMarkdown
  let yamlSrc ← extractPlanFrontMatterYamlSource md
  match rt.parseYaml yamlSrc with
  | .error e => .error (yamlInvalid ("YAML parse failed: " ++ e))
  | .ok doc => rulesOfPlan rt md (frontMatterOf doc)

end Loading

/-! ## Evaluation -/

section Evaluation

variable (rt : PlanRuntime)

def pathMatchesPattern (filePath pattern : String) : Bool :=
  rt.isMatch (normalizePathSlashes filePath.toList) pattern

def rowTouchesPattern (row : PlanDiffRow) (pattern : String) : Bool :=
  row.paths.any fun pt => pathMatchesPattern rt pt pattern

def rowMatchesPatternAndKinds (row : PlanDiffRow) (pattern : String)
    (kinds : List PlanDiffRowKind) : Bool :=
  rowTouchesPattern rt row pattern && kinds.contains row.rowKind

def pathMatchesAnyAllowlist (filePath : String) (allowPatterns : List String) : Bool :=
  allowPatterns.any fun pat => pathMatchesPattern rt filePath pat

def PlanDiffRow.json (row : PlanDiffRow) : Json :=
  .obj [("rowKind", .str row.rowKind.name), ("paths", .arr (row.paths.map .str))]

/-- At most `EVIDENCE_CAP` items, and whether there were more. -/
def capEvidence (key : String) (items : List Json) : List (String × Json) :=
  [(key, .arr (items.take 50)), ("truncated", .bool (decide (50 < items.length)))]

def baseNarrative (rule : PlanRule) : String :=
  let description := jsTrim (rule.description.getD "")
  if description = "" then rule.check.kind ++ " (" ++ rule.id ++ ")" else description

/-- The step of a rule: verified when there is no reason. -/
def ruleStep (rule : PlanRule) (seq : ℕ) (status : StepStatus) (reasons : List Reason)
    (extra : List (String × Json)) : StepOutcome where
  seq := seq
  toolId := "plan_transition.rule." ++ rule.id
  releaseCritical := false
  intendedEffect := baseNarrative rule
  observedExecution := "\x7b\x7d"
  verificationRequest := none
  status := status
  reasons := reasons
  evidenceSummary := [("planTransition", .bool true), ("ruleId", .str rule.id)] ++ extra
  repeatObservationCount := 1
  evaluatedObservationOrdinal := 1
  failureDiagnostic := none
  langgraphCheckpointKey := none

def okStep (rule : PlanRule) (seq : ℕ) (extra : List (String × Json)) : StepOutcome :=
  ruleStep rule seq .verified [] extra

def badStep (rule : PlanRule) (seq : ℕ) (code message : String)
    (extra : List (String × Json)) : StepOutcome :=
  ruleStep rule seq .inconsistent [⟨code, message, none⟩] extra

def rowCount (rows : List PlanDiffRow) : List (String × Json) :=
  [("rowCount", .num (.int rows.length))]

/-- `[...new Set(kinds)].join(", ")`. -/
def kindList (kinds : List PlanDiffRowKind) : String :=
  ", ".intercalate (kinds.eraseDups.map (·.name))

def evaluateRule (rows : List PlanDiffRow) (rule : PlanRule) (seq : ℕ) : StepOutcome :=
  match rule.check with
  | .matchingRowsMustHaveRowKinds pattern rowKinds =>
      let violating := rows.filter fun row =>
        rowTouchesPattern rt row pattern && !rowKinds.contains row.rowKind
      if violating ≠ [] then
        badStep rule seq "PLAN_RULE_ROW_KIND_MISMATCH"
          ("Rows matching pattern must have rowKinds " ++ kindList rowKinds ++
            "; found violating rows.")
          (capEvidence "violatingRows" (violating.map (·.json)))
      else okStep rule seq (rowCount rows)
  | .forbidMatchingRows pattern =>
      let forbidden := rows.filter fun row => rowTouchesPattern rt row pattern
      if forbidden ≠ [] then
        badStep rule seq "PLAN_RULE_FORBIDDEN_ROW"
          ("No diff row may match pattern " ++ quote pattern ++ ".")
          (capEvidence "violatingRows" (forbidden.map (·.json)))
      else okStep rule seq []
  | .requireMatchingRow pattern rowKinds =>
      if rows.any fun row => rowMatchesPatternAndKinds rt row pattern rowKinds then
        okStep rule seq []
      else
        badStep rule seq "PLAN_RULE_REQUIRED_ROW_MISSING"
          ("Expected at least one diff row matching pattern " ++ quote pattern ++
            " with rowKinds " ++ kindList rowKinds ++ ".")
          (rowCount rows)
  | .allChangedPathsMustMatchAllowlist allowPatterns =>
      let failures := rows.flatMap fun row =>
        (row.paths.filter fun pt => !pathMatchesAnyAllowlist rt pt allowPatterns).map fun pt =>
          Json.obj [("path", .str pt), ("rowKind", .str row.rowKind.name)]
      if failures.isEmpty then okStep rule seq []
      else
        badStep rule seq "PLAN_RULE_ALLOWLIST_VIOLATION"
          "Every changed path must match at least one allowPatterns entry."
          (capEvidence "allowlistFailures" failures)
  | .requireRenameFromTo fromPattern toPattern includeCopy =>
      let kinds := if includeCopy then [PlanDiffRowKind.rename, .copy] else [.rename]
      let hit := rows.any fun row =>
        kinds.contains row.rowKind &&
          match row.paths with
          | [oldP, newP] =>
              pathMatchesPattern rt oldP fromPattern && pathMatchesPattern rt newP toPattern
          | _ => false
      if hit then okStep rule seq []
      else
        badStep rule seq "PLAN_RULE_RENAME_MISMATCH"
          ("Expected " ++ " or ".intercalate (kinds.map (·.name)) ++ " from " ++
            quote fromPattern ++ " to " ++ quote toPattern ++ ".")
          (rowCount rows)

def evaluatePlanRules (rows : List PlanDiffRow) (rules : List PlanRule) : List StepOutcome :=
  rules.mapIdx fun i rule => evaluateRule rt rows rule (i + 1)

end Evaluation

end AgentSkeptic.Plan
