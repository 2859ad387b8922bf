import AgentSkeptic.Quick.FlattenActions

/-!
# Planning the checks of an action

`quickVerify/decomposeUnits.ts`, `rowUnit.ts`, `relationalPlan.ts` and
`flatKeyToJsonPointer.ts`.  The flat paths of an action are grouped by table, each group
is mapped to a row request, and every foreign key that a path fits gives a relational
check.
-/

namespace AgentSkeptic.Quick

open AgentSkeptic.Support AgentSkeptic.Engine

/-! ## Catalog -/

structure FkEdge where
  childTable : String
  childColumn : String
  parentTable : String
  parentColumn : String

/-- What a schema catalog answers. -/
structure SchemaCatalog where
  listTables : List String
  listColumns : String → List String
  primaryKeyColumns : String → List String
  listUniqueConstraints : String → List (List String)
  listFkEdges : List FkEdge

/-! ## Buckets -/

structure ActionBucket where
  bucketKey : String
  tableName : String
  toolName : String
  flat : ScalarRecord
  paths : List String

/-- The path up to its first point. -/
def firstSegment (path : String) : String :=
  String.ofList (path.toList.takeWhile (· ≠ '.'))

def bucketKeyOf (tables : List String) (path : String) : String :=
  let (table, score) := argmaxTableSegment (firstSegment path) tables
  if tTable ≤ score then table else "__global__"

def groupPath (tables : List String) (groups : InsertionMap String (List String))
    (path : String) : InsertionMap String (List String) :=
  let key := bucketKeyOf tables path
  groups.set key ((groups.get? key).getD [] ++ [path])

def actionBucket (toolName : String) (flat : ScalarRecord) (tables : List String)
    (group : String × List String) : ActionBucket :=
  { bucketKey := group.1
    tableName :=
      if group.1 = "__global__" then (argmaxTableAction toolName tables).1 else group.1
    toolName, flat
    paths := group.2.insertionSort fun a b => utf16Le a b = true }

def bucketsForAction (toolName : String) (flat : ScalarRecord) (tables : List String) :
    List ActionBucket :=
  if tables = [] then []
  else
    let paths := flat.keys.insertionSort fun a b => utf16Le a b = true
    let groups := (paths.foldl (groupPath tables) .empty).entries.insertionSort
      fun a b => utf16Le a.1 b.1 = true
    (groups.filter (·.2 ≠ [])).map (actionBucket toolName flat tables)

/-- Inside the bucket of a table the key is the path behind its first point. -/
def mappingKeyForPath (path bucketKey : String) : String :=
  match path.toList.dropWhile (· ≠ '.') with
  | _ :: rest => if bucketKey = "__global__" then path else String.ofList rest
  | [] => path

/-! ## Pointers of flat keys -/

inductive FlatKeyCode where
  | emptyKey | invalidSyntax | invalidArrayIndex
  deriving DecidableEq

def encodePointerToken (tok : List Char) : List Char :=
  tok.flatMap fun c =>
    if c = '~' then ['~', '0'] else if c = '/' then ['~', '1'] else [c]

def skipPoint : List Char → List Char
  | '.' :: rest => rest
  | rest => rest

/-- The tokens of a flat key, for a fuel that is at least its length. -/
def pointerParts : ℕ → List Char → Except FlatKeyCode (List (List Char))
  | _, [] => .ok []
  | 0, _ :: _ => .error .invalidSyntax
  | _ + 1, '.' :: _ => .error .invalidSyntax
  | fuel + 1, '[' :: cs =>
      let inner := cs.takeWhile (· ≠ ']')
      match cs.dropWhile (· ≠ ']') with
      | [] => .error .invalidSyntax
      | _ :: rest =>
          if inner ≠ [] ∧ inner.all Char.isDigit then do
            let parts ← pointerParts fuel (skipPoint rest)
            .ok (inner :: parts)
          else .error .invalidArrayIndex
  | fuel + 1, c :: cs => do
      let plain (d : Char) := decide (d ≠ '.' ∧ d ≠ '[')
      let parts ← pointerParts fuel (skipPoint (cs.dropWhile plain))
      .ok (encodePointerToken (c :: cs.takeWhile plain) :: parts)

def flatKeyToJsonPointer (flatKey : String) : Except FlatKeyCode String :=
  match flatKey.toList with
  | [] => .error .emptyKey
  | cs => do
      let parts ← pointerParts cs.length cs
      .ok (String.ofList ('/' :: ['/'].intercalate parts))

example : flatKeyToJsonPointer "a/b[2].c" = .ok "/a~1b/2/c" := by
  decide +kernel

/-! ## Rows -/

structure PkFlatBinding where
  column : String
  flatKey : String

structure RowUnitPlan where
  request : Option VerificationRequest
  confidence : ℚ
  reasonCodes : List String
  rationale : List String
  alternates : Option (List (String × ℚ))
  pkFlatBindings : Option (List PkFlatBinding)
  pointerComplete : Option Bool

/-- A plan without a request. -/
def RowUnitPlan.unmapped (confidence : ℚ) (reasonCodes rationale : List String)
    (alternates : Option (List (String × ℚ))) : RowUnitPlan :=
  { request := none, confidence, reasonCodes, rationale, alternates
    pkFlatBindings := none, pointerComplete := none }

def toScalar : FlatScalar → Option VerificationScalar
  | .num n => if n.isFinite then some (.num n) else none
  | value => some value

structure MappingEntry where
  path : String
  mappingKey : String
  value : FlatScalar

def mappingEntries (b : ActionBucket) : List MappingEntry :=
  b.paths.map fun path =>
    ⟨path, mappingKeyForPath path b.bucketKey, (b.flat.get? path).getD .null⟩

/-- The tables with their scores, the best one first. -/
def rankedTables (toolName : String) (allTables : List String) : List (String × ℚ) :=
  (allTables.map fun t => (t, tableScoreAction toolName t)).insertionSort fun a b =>
    b.2 < a.2 ∨ (a.2 = b.2 ∧ utf16Le a.1 b.1 = true)

/-- The primary key, or else the smallest unique constraint. -/
def keyColumns (catalog : SchemaCatalog) (tableName : String) : List String :=
  let pk := catalog.primaryKeyColumns tableName
  if pk = [] then
    ((catalog.listUniqueConstraints tableName).insertionSort fun a b =>
      a.length < b.length ∨ (a.length = b.length ∧
        utf16Le (",".intercalate a) (",".intercalate b) = true)).headD []
  else pk

section Rows

variable (tables : TextTables)

/-- The mapping key that fits a column best, and its score. -/
def bestMappingKey (entries : List MappingEntry) (col : String) : String × ℚ :=
  entries.foldl (fun best e =>
    let s := columnScore tables e.mappingKey col
    if best.2 < s ∨ (s = best.2 ∧ argmaxName.utf16Lt e.mappingKey best.1) then (e.mappingKey, s)
    else best) ("", -1)

structure IdentityMatch where
  score : ℚ
  pair : IdentityEqPair
  binding : PkFlatBinding

/-- What stands for a column of the key, or why nothing does. -/
def matchKeyColumn (entries : List MappingEntry) (col : String) :
    Except String IdentityMatch :=
  let (bestMk, bestS) := bestMappingKey tables entries col
  let candidates := (entries.filter (·.mappingKey = bestMk)).insertionSort fun a b =>
    utf16Le a.path b.path = true
  match candidates with
  | [] => .error ("PK column " ++ col ++ " has no param match >= T_COL")
  | pick :: _ =>
      if bestS < tCol then
        .error ("PK column " ++ col ++ " has no param match >= T_COL")
      else
        match toScalar pick.value with
        | none => .error ("PK " ++ col ++ " mapped value not a verification scalar")
        | some scalar =>
            .ok ⟨bestS, ⟨col, scalar.toText⟩, ⟨col, pick.path⟩⟩

/-- The value of the first mapping key that fits a column best. -/
def pickField (entries : List MappingEntry) (col : String) :
    Option (ℚ × VerificationScalar) :=
  entries.foldl (fun picked e =>
    let s := columnScore tables e.mappingKey col
    if s < tCol then picked
    else
      match toScalar e.value with
      | none => picked
      | some v =>
          match picked with
          | none => some (s, v)
          | some best => if best.1 < s then some (s, v) else picked) none

def fieldStep (entries : List MappingEntry) (pk : List String) (rf : ScalarRecord)
    (col : String) : ScalarRecord :=
  if col ∈ pk then rf
  else
    match pickField tables entries col with
    | none => rf
    | some picked => rf.set col picked.2

/-- Why the best two tables are not told apart, or too weak, outside the buckets of
tables. -/
def globalCodes (ranked : List (String × ℚ)) : List String × List String :=
  let s1 := (ranked.head?.map Prod.snd).getD 0
  if s1 < tOverall then
    (["MAPPING_LOW_CONFIDENCE"],
      ["Best table score " ++ toFixed3 s1 ++ " < T_OVERALL 0.55"])
  else ([], [])

def ambiguousTables : List (String × ℚ) → Option ((String × ℚ) × (String × ℚ))
  | top :: second :: _ =>
      if toDouble (top.2 - second.2) ≤ tAmbiguityDelta ∧ top.1 ≠ second.1 then
        some (top, second)
      else none
  | _ => none

/-- The mapping to columns, once the table is decided. -/
def planColumns (catalog : SchemaCatalog) (b : ActionBucket) (s1 : ℚ)
    (reasonCodes rationale : List String) : RowUnitPlan :=
  let pk := keyColumns catalog b.tableName
  let noUniqueKey (why : String) := RowUnitPlan.unmapped 0
    (reasonCodes ++ ["MAPPING_NO_UNIQUE_KEY"]) (rationale ++ [why]) none
  if pk = [] then noUniqueKey ("No primary or unique key on " ++ b.tableName)
  else
    let entries := mappingEntries b
    match (pk.insertionSort fun a b => utf16Le a b = true).mapM
        (matchKeyColumn tables entries) with
    | .error why => noUniqueKey why
    | .ok found =>
        let columns := (catalog.listColumns b.tableName).insertionSort fun a b =>
          utf16Le a b = true
        let rf := columns.foldl (fieldStep tables entries pk) .empty
        let minIdScore := (found.map IdentityMatch.score).foldl min 1
        let segScore := tableScoreAction b.toolName b.tableName
        { request := some
            { table := b.tableName
              identityEq := found.map IdentityMatch.pair
              requiredFields := rf.entries.entries }
          confidence := min 1
            (toDouble (toDouble (toDouble (segScore + minIdScore) + s1) / 3))
          reasonCodes
          rationale := rationale ++ ["Table " ++ b.tableName ++ ", PK [" ++
            ",".intercalate pk ++ "], " ++ toString rf.entries.entries.length ++
            " field(s) compared"]
          alternates := none
          pkFlatBindings := some (found.map IdentityMatch.binding)
          pointerComplete := some (found.all fun m =>
            (flatKeyToJsonPointer m.binding.flatKey).isOk) }

def planRowUnit (catalog : SchemaCatalog) (b : ActionBucket) (allTables : List String) :
    RowUnitPlan :=
  let ranked := rankedTables b.toolName allTables
  let s1 := (ranked.head?.map Prod.snd).getD 0
  if b.bucketKey = "__global__" then
    let (reasonCodes, rationale) := globalCodes ranked
    match ambiguousTables ranked with
    | some (top, second) =>
        .unmapped s1 (reasonCodes ++ ["MAPPING_AMBIGUOUS"])
          (rationale ++ ["Top tables within ambiguity delta: " ++ top.1 ++ " vs " ++
            second.1]) (some [top, second])
    | none => planColumns tables catalog b s1 reasonCodes rationale
  else planColumns tables catalog b s1 [] []

/-! ## Relational checks -/

structure RelatedExistsCheck where
  id : String
  childTable : String
  matchEq : List IdentityEqPair

def RelatedExistsCheck.resolved (check : RelatedExistsCheck) : ResolvedRelationalCheck :=
  ⟨check.id, .relatedExists check.childTable check.matchEq⟩

/-- The first key that fits a column best, and its score. -/
def bestFlatKey (flat : ScalarRecord) (col : String) : String × ℚ :=
  flat.keys.foldl (fun best k =>
    let s := columnScore tables k col
    if best.2 < s then (k, s) else best) ("", -1)

def relationalStep (flat : ScalarRecord)
    (planned : List RelatedExistsCheck × List String) (e : FkEdge) :
    List RelatedExistsCheck × List String :=
  let key := e.childTable ++ "." ++ e.childColumn
  if key ∈ planned.2 then planned
  else
    let (bestK, bestS) := bestFlatKey tables flat e.childColumn
    if bestS < tCol then planned
    else
      match flat.get? bestK with
      | none | some .null => planned
      | some v =>
          (planned.1 ++ [⟨"fk:" ++ key, e.childTable, [⟨e.childColumn, v.toText⟩]⟩],
            planned.2 ++ [key])

def planRelationalFromFlat (flat : ScalarRecord) (edges : List FkEdge) :
    List RelatedExistsCheck :=
  (edges.foldl (relationalStep tables flat) ([], [])).1

end Rows

end AgentSkeptic.Quick
