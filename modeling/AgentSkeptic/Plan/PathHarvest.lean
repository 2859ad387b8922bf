import AgentSkeptic.Events.RunEvents
import AgentSkeptic.Support.Regex
import Mathlib.Data.List.Infix

/-!
# Paths that a plan cites

`planTransitionPathHarvest.ts`: the paths that the links and the backticks of a plan name,
in the lines of its obligation sections and in its todos, as far as the text around them
asks for a change.  Texts are lists of characters, as the expressions read them.
-/

namespace AgentSkeptic.Plan

open AgentSkeptic.Support AgentSkeptic.Events

abbrev Text := List Char

/-! ## Expressions -/

namespace PathPatterns

open Regex

def literal (text : String) : Regex Char := word (fun a b => decide (a = b)) text.toList

/-- A text in any case, as under the flag `i`. -/
def anyCase (text : String) : Regex Char :=
  word (fun a b => a.toLower == b.toLower) text.toList

def white : Regex Char := char isJsWhitespace

/-- A character of `\w`. -/
def isWordChar (c : Char) : Bool := c.isAlphanum || c == '_'

def wordBoundary : Regex Char := boundary isWordChar

/-- Words with white space between them. -/
def phrase : List String → Regex Char
  | [] => empty
  | [w] => anyCase w
  | w :: ws => inOrder [anyCase w, plus white, phrase ws]

/-- One of the words, alone. -/
def wholeWord (alternatives : List (Regex Char)) : Regex Char :=
  inOrder [wordBoundary, group 1 (choice alternatives), wordBoundary]

def rootNames : List String :=
  ["src", "schemas", "examples", "docs", "test", "debug-ui", "plans"]

def root : Regex Char := choice (rootNames.map literal)

def slash : Regex Char := char (· == '/')

/-- `[a-zA-Z0-9_.-]`. -/
def isPathChar (c : Char) : Bool := c.isAlphanum || c == '_' || c == '.' || c == '-'

def segment : Regex Char := plus (char isPathChar)

/-- `(?:ROOT)/[a-zA-Z0-9_.-]+(?:/[a-zA-Z0-9_.-]+)*`. -/
def rootedPath : Regex Char := inOrder [root, slash, segment, many (seq slash segment)]

/-- `(^|/)((?:ROOT))\/`. -/
def anchorRe : Regex Char := inOrder [group 1 (alt atStart slash), group 2 root, slash]

def qualifiedPathRe : Regex Char :=
  inOrder [atStart, group 1 rootedPath, char (· == '.'), group 2 (plus (char (· != '.'))),
    atEnd]

/-- `(?<!!)\[([^\]]*)\]\(([^)\s]+)(\s+"[^"]*")?\)`. -/
def linkRe : Regex Char :=
  inOrder [notBehind (· == '!'), literal "[", group 1 (many (char (· != ']'))), literal "](",
    group 2 (plus (char fun c => c != ')' && !isJsWhitespace c)),
    opt (group 3 (inOrder [plus white, literal "\"", many (char (· != '"')), literal "\""])),
    literal ")"]

def backtickPathRe : Regex Char :=
  inOrder [literal "`",
    group 1 (inOrder [rootedPath, literal ".", group 2 (plus (char Char.isAlphanum))]),
    literal "`"]

/-- `\.\s+`. -/
def fragmentSplitRe : Regex Char := seq (literal ".") (plus white)

def referenceOnlyLineRe : Regex Char :=
  alt
    (inOrder [wordBoundary,
      choice [phrase ["same", "pattern"], phrase ["same", "shape", "as"],
        phrase ["seeded", "from"], phrase ["required", "setup"],
        phrase ["use", "the", "same"], phrase ["similar", "to"],
        seq (anyCase "mirrors") (opt (seq (plus white) (anyCase "existing"))),
        phrase ["for", "example"], anyCase "hypothetical",
        phrase ["chosen", "in", "fixture"]],
      wordBoundary])
    (seq (alt (anyCase "e.g.") (anyCase "i.e."))
      (ahead (choice [white, literal ",", atEnd])))

/-- `wire(?!\s+schema)` stands before `wires`. -/
def strongActionRe : Regex Char :=
  wholeWord
    ((["add", "adds", "adding", "create", "created", "creates", "extend", "extends",
      "update", "updates", "modify", "modifies", "change", "changes", "introduce",
      "introduces", "merge", "merges", "delete", "deletes", "remove", "removes",
      "implement", "implements", "adjust", "adjusts", "sync", "syncs", "refactor",
      "refactors"].map anyCase) ++
    [seq (anyCase "wire") (notAhead (seq (plus white) (anyCase "schema")))] ++
    (["wires", "improve", "improves", "touch", "touches", "split", "splits", "move",
      "moves", "rename", "renames"].map anyCase))

def normativeModalRe : Regex Char :=
  wholeWord [anyCase "must", anyCase "shall", phrase ["required", "to"]]

/-- `^\s*\d+\.\s`. -/
def numberedFragmentRe : Regex Char :=
  inOrder [atStart, many white, plus (char Char.isDigit), literal ".", white]

/-- `` ^```(\S*)\s*$ ``. -/
def fenceOpenRe : Regex Char :=
  inOrder [atStart, literal "```", group 1 (many (char fun c => !isJsWhitespace c)),
    many white, atEnd]

/-- `` ^```\s*$ ``. -/
def fenceCloseRe : Regex Char := inOrder [atStart, literal "```", many white, atEnd]

/-- What `.` stands for. -/
def isLineChar (c : Char) : Bool :=
  c != '\n' && c != '\r' && c.toNat != 0x2028 && c.toNat != 0x2029

/-- `^##\s+(.+?)\s*$`. -/
def headingTwoRe : Regex Char :=
  inOrder [atStart, literal "##", plus white,
    group 1 (seq (char isLineChar) (loop false none (char isLineChar))), many white, atEnd]

/-- `^testing\b`. -/
def testingTitleRe : Regex Char := inOrder [atStart, anyCase "testing", wordBoundary]

/-- `\n---\s*(?:\r?\n|$)`. -/
def frontMatterEndRe : Regex Char :=
  inOrder [literal "\n---", many white, alt (seq (opt (literal "\r")) (literal "\n")) atEnd]

/-- `^\r?\n---\s*(?:\r?\n|$)`. -/
def frontMatterDelimiterRe : Regex Char :=
  inOrder [atStart, opt (literal "\r"), frontMatterEndRe]

/-! The bound of the title's expression counts code units. -/

def lowerUnit (unit : ℕ) : ℕ := if 65 ≤ unit ∧ unit ≤ 90 then unit + 32 else unit

def anyCaseUnits (text : String) : Regex ℕ :=
  word (fun a b => lowerUnit a == lowerUnit b) (utf16 text)

def unitBoundary : Regex ℕ := boundary fun unit => isWordChar (Char.ofNat unit)

/-- `^(?:.{0,120}?\b)?(implementation|…|validation)\b(?:\s|[:\u2014\u2013\-]|$)`. -/
def obligationTitleRe : Regex ℕ :=
  inOrder [atStart,
    opt (seq (loop false (some 120) (char fun unit => isLineChar (Char.ofNat unit)))
      unitBoundary),
    group 1 (choice (["implementation", "deliverables", "testing", "documentation",
      "validation"].map anyCaseUnits)),
    unitBoundary,
    choice [char fun unit => isJsWhitespace (Char.ofNat unit),
      char fun unit => [0x3A, 0x2014, 0x2013, 0x2D].contains unit, atEnd]]

end PathPatterns

/-! ## Front matter -/

def stripUtf8Bom (s : Text) : Text :=
  match s with
  | c :: rest => if c.toNat = 0xFEFF then rest else s
  | [] => []

def noFrontMatter : TruthLayerError where
  code := "PLAN_VALIDATION_NO_FRONT_MATTER"
  message := "Plan.md must start with YAML front matter (--- on line 1)."

def frontMatterUnclosed : TruthLayerError where
  code := "PLAN_VALIDATION_NO_FRONT_MATTER"
  message := "Plan.md front matter must end with a closing --- line."

/-- What follows the first line, `---`. -/
def afterOpening (md : Text) : Except TruthLayerError Text :=
  match md with
  | '-' :: '-' :: '-' :: '\n' :: rest => .ok rest
  | '-' :: '-' :: '-' :: '\r' :: '\n' :: rest => .ok rest
  | _ => .error noFrontMatter

/-- The YAML text, and what follows it from the line break before `---` on. -/
def cutFrontMatter (md : Text) : Except TruthLayerError (Text × Text) := do
  let rest ← afterOpening md
  match PathPatterns.frontMatterEndRe.exec rest with
  | none => .error frontMatterUnclosed
  | some m => .ok (m.start.before.reverse, m.start.rest)

def extractMarkdownBodyAfterFrontMatter (md : Text) : Except TruthLayerError Text := do
  let (_, afterClose) ← cutFrontMatter md
  match PathPatterns.frontMatterDelimiterRe.exec afterClose with
  | none => .error frontMatterUnclosed
  | some delim => .ok delim.stop.rest

/-! ## Candidates -/

def isSpaceOrTab (c : Char) : Bool := c == '\t' || c == ' '

def trimAsciiSpaceTab (s : Text) : Text :=
  ((s.dropWhile isSpaceOrTab).reverse.dropWhile isSpaceOrTab).reverse

/-- `while (R.startsWith("./"))`. -/
def dropDotSlash : Text → Text
  | '.' :: '/' :: rest => dropDotSlash rest
  | s => s

/-- A candidate with `..`, a control character, a blank, `?` or `#` is no path. -/
def isRejected (s : Text) : Bool :=
  decide (['.', '.'] <:+: s) ||
    s.any fun c => c.toNat < 0x20 || c == ' ' || c == '?' || c == '#'

def allowedExt : List String := ["ts", "tsx", "js", "mjs", "json", "md", "sql"]

/-- Where the last anchored root begins. -/
def bestStart (s : Text) : Option ℕ :=
  (PathPatterns.anchorRe.allMatches s).foldl (fun best m =>
    let rootStart := m.start.before.length + ((m.group 1).getD []).length
    if best.all (· ≤ rootStart) then some rootStart else best) none

/-- `fileUrlPath` is `decodeURIComponent(new URL(R).pathname)`, unless one of them
throws. -/
def resolveFileUrl (fileUrlPath : Text → Option Text) (s : Text) : Text :=
  if (s.take 5).map Char.toLower = "file:".toList then (fileUrlPath s).getD s else s

/-- The rooted path, with its extension in lower case. -/
def qualify (P : Text) : Option Text :=
  if ['/', '/'] <:+: P then none
  else
    match PathPatterns.qualifiedPathRe.exec P with
    | none => none
    | some pm =>
        let ext := ((pm.group 2).getD []).map Char.toLower
        if allowedExt.contains (String.ofList ext) then
          some ((pm.group 1).getD [] ++ '.' :: ext)
        else none

def normalizeAndQualify (fileUrlPath : Text → Option Text) (rawCandidate : Text) :
    Option Text :=
  let trimmed := trimAsciiSpaceTab rawCandidate
  if trimmed = [] then none
  else
    let R := dropDotSlash ((resolveFileUrl fileUrlPath trimmed).map
      fun c => if c = '\\' then '/' else c)
    if isRejected R then none
    else
      match bestStart R with
      | none => none
      | some start => qualify (R.drop start)

/-- `<target>` is `target`. -/
def unwrapAngles (cand : Text) : Text :=
  if 2 ≤ cand.length ∧ cand.head? = some '<' ∧ cand.getLast? = some '>' then
    (cand.drop 1).dropLast
  else cand

def extractLinkTargets (text : Text) : List Text :=
  (PathPatterns.linkRe.allMatches text).map fun m => unwrapAngles ((m.group 2).getD [])

def extractBacktickPaths (text : Text) : List Text :=
  (PathPatterns.backtickPathRe.allMatches text).map fun m => (m.group 1).getD []

/-! ## Fragments

A set is the list of its members in the order in which they were added. -/

def addTo (into : List Text) (p : Text) : List Text := if p ∈ into then into else into ++ [p]

section Harvest

variable (fileUrlPath : Text → Option Text)

def addQualified (into : List Text) (c : Text) : List Text :=
  match normalizeAndQualify fileUrlPath c with
  | some q => addTo into q
  | none => into

def harvestFromText (text : Text) (into : List Text) : List Text :=
  (extractBacktickPaths text).foldl (addQualified fileUrlPath)
    ((extractLinkTargets text).foldl (addQualified fileUrlPath) into)

def strongRootPrefixes : List String := ["examples/", "docs/", "schemas/", "plans/"]

def weakRootPrefixes : List String := ["src/", "test/", "debug-ui/"]

inductive RootKind where
  | strong | weak
  deriving DecidableEq

def pathRootKind (path : Text) : Option RootKind :=
  if strongRootPrefixes.any (·.toList.isPrefixOf path) then some .strong
  else if weakRootPrefixes.any (·.toList.isPrefixOf path) then some .weak
  else none

def pathPassesFragmentGate (path fragment : Text) : Bool :=
  match pathRootKind path with
  | none => false
  | some .strong => PathPatterns.strongActionRe.test fragment
  | some .weak =>
      PathPatterns.strongActionRe.test fragment ||
        PathPatterns.normativeModalRe.test fragment ||
        PathPatterns.numberedFragmentRe.test fragment

def splitLineIntoFragments (line : Text) : List Text :=
  ((PathPatterns.fragmentSplitRe.split line).map trimChars).filter (· ≠ [])

def harvestFromFragment (into : List Text) (fragment : Text) : List Text :=
  if PathPatterns.referenceOnlyLineRe.test fragment then into
  else
    (harvestFromText fileUrlPath fragment []).foldl
      (fun into p => if pathPassesFragmentGate p fragment then addTo into p else into) into

def harvestFromTodoSegment (into : List Text) (segment : Text) : List Text :=
  if PathPatterns.referenceOnlyLineRe.test segment then into
  else harvestFromFragment fileUrlPath into segment

/-! ## Lines and todos -/

/-- What is known of the lines so far: in which section the next one stands. -/
structure WalkState where
  inObligation : Bool
  currentTitle : Text
  inFence : Bool

/-- The lines that `walkObligationLines` hands over, and whether their section is the
testing section. -/
def obligationLines (s : WalkState) : List Text → List (Text × Bool)
  | [] => []
  | line :: lines =>
      if s.inFence then
        obligationLines { s with inFence := !PathPatterns.fenceCloseRe.test line } lines
      else if PathPatterns.fenceOpenRe.test line then
        obligationLines { s with inFence := true } lines
      else
        match PathPatterns.headingTwoRe.exec line with
        | some h2 =>
            let title := trimChars ((h2.group 1).getD [])
            obligationLines
              { s with
                inObligation :=
                  PathPatterns.obligationTitleRe.test (utf16 (String.ofList title))
                currentTitle := title } lines
        | none =>
            if s.inObligation then
              (line, PathPatterns.testingTitleRe.test (trimChars s.currentTitle)) ::
                obligationLines s lines
            else obligationLines s lines

def walkObligationLines (body : Text) : List (Text × Bool) :=
  obligationLines ⟨false, [], false⟩ (body.splitOn '\n')

/-- The fragments of a line that are searched. -/
def lineFragments (line : Text) (sectionIsTesting : Bool) : List Text :=
  if PathPatterns.referenceOnlyLineRe.test line then []
  else if sectionIsTesting && decide ("Expect:".toList <:+: line) then []
  else splitLineIntoFragments line

def collectTodoContentStrings (fm : Json) : List Text :=
  match fm.member "todos" with
  | .json (.arr todos) => todos.filterMap fun t =>
      match t with
      | .obj members =>
          match Json.member (.obj members) "content" with
          | .json (.str content) => some content.toList
          | _ => none
      | _ => none
  | _ => []

def splitTodoIntoSegments (content : Text) : List Text :=
  let trimmed := trimChars content
  if trimmed = [] then []
  else if ¬"; ".toList <:+: trimmed then [trimmed]
  else (((PathPatterns.literal "; ").split trimmed).map trimChars).filter (· ≠ [])

/-- The fragments of the body that are searched. -/
def bodyFragments (body : Text) : List Text :=
  (walkObligationLines body).flatMap fun l => lineFragments l.1 l.2

def todoSegments (fm : Json) : List Text :=
  (collectTodoContentStrings fm).flatMap splitTodoIntoSegments

/-- The paths of a plan with this body and front matter, in UTF-16 order. -/
def harvestPaths (body : Text) (fm : Json) : List String :=
  let into := (todoSegments fm).foldl (harvestFromTodoSegment fileUrlPath)
    ((bodyFragments body).foldl (harvestFromFragment fileUrlPath) [])
  sortUtf16 (into.map String.ofList)

def harvestQualifyingPathsFromPlan (md : Text) (fm : Json) :
    Except TruthLayerError (List String) := do
  let body ← extractMarkdownBodyAfterFrontMatter (stripUtf8Bom md)
  return harvestPaths fileUrlPath (lfCanonical body) fm

end Harvest

end AgentSkeptic.Plan
