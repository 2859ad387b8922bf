import AgentSkeptic.Engine.Reconcilers
import AgentSkeptic.Support.JsDouble
import Mathlib.Data.List.Infix

/-!
# Scoring names

`quickVerify/thresholds.ts` and `quickVerify/tableScoring.ts`: how well the name of a
tool or the key of a parameter fits a table or a column.  A score is a double.
-/

namespace AgentSkeptic.Quick

open AgentSkeptic.Support AgentSkeptic.Engine

/-! ## Thresholds -/

def tTable : ℚ := toDouble (60 / 100)

def tCol : ℚ := toDouble (50 / 100)

def tOverall : ℚ := toDouble (55 / 100)

def tAmbiguityDelta : ℚ := toDouble (8 / 100)

def tExport : ℚ := toDouble (55 / 100)

def maxUnits : ℕ := 20

def flattenMaxDepth : ℕ := 6

def flattenMaxNodes : ℕ := 500

/-! ## Variants of a table name -/

/-- `v.slice(0, -n)`. -/
def sliceEnd (n : ℕ) (v : List Char) : List Char := v.take (v.length - n)

def englishSingular (v1 : List Char) : List Char :=
  let endsWith (suffix : String) := suffix.toList.isSuffixOf v1
  if 4 ≤ v1.length ∧ endsWith "ies" then sliceEnd 3 v1 ++ ['y']
  else if endsWith "ses" ∨ endsWith "xes" ∨ endsWith "ches" ∨ endsWith "shes" then
    sliceEnd 2 v1
  else if endsWith "s" ∧ ¬ endsWith "ss" ∧ 1 < v1.length then sliceEnd 1 v1
  else v1

def isVowel (c : Char) : Bool := "aeiouAEIOU".toList.contains c

def englishPlural (v1 : List Char) : List Char :=
  match v1.reverse with
  | [] => []
  | 'y' :: prev :: rest =>
      if isVowel prev then v1 ++ ['s']
      else (prev :: rest).reverse ++ ['i', 'e', 's']
  | 's' :: _ => v1
  | _ => v1 ++ ['s']

/-- `replace(/A-Z/g, …)`: the expression is no character class, so it is the text `A-Z`
that becomes `a`. -/
def foldRange : List Char → List Char
  | 'A' :: '-' :: 'Z' :: rest => 'a' :: foldRange rest
  | c :: rest => c :: foldRange rest
  | [] => []

def variants (table : String) : List String :=
  let v1 := foldRange table.toList
  [table, String.ofList v1, String.ofList (englishSingular v1),
    String.ofList (englishPlural v1)].dedup.insertionSort fun a b => utf16Le a b = true

/-! ## Edit distance -/

/-- The rest of a row: the entry to the left, the entry above that one, and the second
text beside the rest of the row above. -/
def levenshteinRow (unit : ℕ) : ℕ → ℕ → List ℕ → List ℕ → List ℕ
  | left, diagonal, other :: others, above :: row =>
      let cost := if unit = other then 0 else 1
      let entry := min (min (above + 1) (left + 1)) (diagonal + cost)
      entry :: levenshteinRow unit entry above others row
  | _, _, _, _ => []

def levenshteinStep (b : List ℕ) (dp : List ℕ) (unit : ℕ) : List ℕ :=
  match dp with
  | [] => []
  | first :: row => (first + 1) :: levenshteinRow unit (first + 1) first b row

def levenshteinRatio (a b : String) : ℚ :=
  let as := utf16 a
  let bs := utf16 b
  if a = b then 1
  else if as = [] ∨ bs = [] then 0
  else
    let d := (as.foldl (levenshteinStep bs) (List.range (bs.length + 1))).getLastD 0
    toDouble (1 - toDouble (mkRat d (max as.length bs.length)))

example : levenshteinRatio "contact" "contract" = toDouble (1 - toDouble (1 / 8)) := by
  decide +kernel

/-! ## Tables -/

/-- `s.includes(v)`. -/
def textIncludes (s v : String) : Bool := decide (v.toList <:+: s.toList)

def tokenMatchScore (s v : String) : ℚ :=
  if s = v then 1
  else if textIncludes s v || textIncludes v s then toDouble (75 / 100)
  else if toDouble (85 / 100) ≤ levenshteinRatio s v then toDouble (70 / 100)
  else 0

/-- The best of some scores, at least 0. -/
def bestScore (scores : List ℚ) : ℚ := scores.foldl max 0

def scoreSegmentToTable (seg0 tableName : String) : ℚ :=
  let s := String.ofList (foldRange seg0.toList)
  bestScore ((variants tableName).map (tokenMatchScore s))

/-- The runs of letters and digits. -/
def tokens (toolName : String) : List String :=
  ((toolName.toList.splitOnP fun c => !c.isAlphanum).filter (· ≠ [])).map fun t =>
    String.ofList (foldRange t)

def tableScoreAction (toolName table : String) : ℚ :=
  bestScore ((tokens toolName).flatMap fun t =>
    (variants table).map (tokenMatchScore t))

/-- The name with the best score, at least 0; of two with the same score the smaller
one. -/
def argmaxName (score : String → ℚ) (names : List String) : String × ℚ :=
  let best := names.foldl (fun best name =>
    let s := score name
    if best.2 < s ∨ (s = best.2 ∧ utf16Lt name best.1) then (name, s) else best)
    (names.headD "", -1)
  (best.1, max 0 best.2)
where
  /-- `compareUtf16Id(a, b) < 0`. -/
  utf16Lt (a b : String) : Bool := !utf16Le b a

def argmaxTableSegment (seg0 : String) (tables : List String) : String × ℚ :=
  argmaxName (scoreSegmentToTable seg0) tables

def argmaxTableAction (toolName : String) (tables : List String) : String × ℚ :=
  argmaxName (tableScoreAction toolName) tables

/-! ## Columns -/

section Columns

variable (tables : TextTables)

def normalizeSnakeCamel (a b : String) : Bool :=
  let normal (s : String) := (tables.toLowerCase s).toList.filter (· ≠ '_')
  normal a = normal b

def stripIdSuffix (k col : String) : Bool :=
  let kl := (tables.toLowerCase k).toList
  let cl := (tables.toLowerCase col).toList
  ("id".toList.isSuffixOf kl && sliceEnd 2 kl = cl) ||
    ("_id".toList.isSuffixOf kl && sliceEnd 3 kl = cl)

def columnScore (paramKey colName : String) : ℚ :=
  let kl := tables.toLowerCase paramKey
  let cl := tables.toLowerCase colName
  if paramKey = colName then 1
  else if kl = cl then toDouble (95 / 100)
  else if normalizeSnakeCamel tables paramKey colName then toDouble (90 / 100)
  else if stripIdSuffix tables paramKey colName then toDouble (85 / 100)
  else if cl = "id" ∧ (kl = "recordid" ∨ kl = "record_id") then toDouble (90 / 100)
  else
    let r := levenshteinRatio kl cl
    if toDouble (80 / 100) ≤ r then r else 0

end Columns

end AgentSkeptic.Quick
