import AgentSkeptic.Engine.ResolveExpectation

/-!
# The statements that the verifiers send

`sqlDialect.ts` and the builders of `sqlConnector.ts`, `sqlReadBackend.ts`,
`verificationConnections.ts`, `reconciler.ts` and `relationalInvariant.ts`.  A
statement is its text and the values that its placeholders stand for, in order.
-/

namespace AgentSkeptic.Engine

open AgentSkeptic.Support

inductive SqlRowDialect where
  | sqlite | postgresql | mysql | mssql | bigquery
  deriving DecidableEq

structure SqlStatement where
  text : String
  values : List String

/-! ## Identifiers and placeholders -/

/-- `id` between two delimiters, of which the closing one is doubled inside. -/
def delimited (opening closing : Char) (id : String) : String :=
  String.ofList (opening :: id.toList.flatMap (fun c =>
    if c = closing then [c, c] else [c]) ++ [closing])

def backtick : Char := Char.ofNat 0x60

def quoteIdent (dialect : SqlRowDialect) (id : String) : String :=
  match dialect with
  | .mysql | .bigquery => delimited backtick backtick id
  | .mssql => delimited '[' ']' id
  | .sqlite | .postgresql => delimited '"' '"' id

/-- Each segment of `project.dataset.table` is quoted by itself. -/
def quoteBigQueryTableId (full : String) : String :=
  let parts := (full.splitOn ".").filter (· ≠ "")
  if parts = [] then delimited backtick backtick "invalid"
  else ".".intercalate (parts.map (quoteIdent .bigquery))

def nextPlaceholderSqlRow (dialect : SqlRowDialect) (n : ℕ) : String :=
  match dialect with
  | .postgresql => "$" ++ toString n
  | .bigquery => "@p" ++ toString n
  | _ => "?"

def nextPlaceholderRelational (dialect : SqlRowDialect) (n : ℕ) : String :=
  match dialect with
  | .postgresql => "$" ++ toString n
  | .mssql => "@p" ++ toString n
  | _ => "?"

/-- `owner.column = placeholder` for each pair; the placeholders count from
`first`. -/
def equalityConds (dialect : SqlRowDialect) (placeholder : ℕ → String)
    (owner : String) (first : ℕ) (pairs : List IdentityEqPair) : List String :=
  (pairs.zipIdx first).map fun p =>
    owner ++ "." ++ quoteIdent dialect p.1.column ++ " = " ++ placeholder p.2

def pairValues (pairs : List IdentityEqPair) : List String :=
  pairs.map IdentityEqPair.value

/-! ## Rows -/

/-- `buildSelectByIdentitySqlSqlite`, `…Postgres` and `…Mysql`. -/
def buildSelectByIdentitySql (dialect : SqlRowDialect)
    (req : VerificationRequest) : SqlStatement :=
  let table := quoteIdent dialect req.table
  let conds := equalityConds dialect (nextPlaceholderSqlRow dialect) table 1
    req.identityEq
  { text := "SELECT * FROM " ++ table ++ " WHERE " ++ " AND ".intercalate conds ++
      " LIMIT 2"
    values := pairValues req.identityEq }

/-- Rows that `sampleRows` of a failure holds at most. -/
def maxVerificationSampleRows : ℕ := 3

structure RowAbsentSqlPlan where
  countSql : String
  sampleSql : String
  values : List String

def tableExprForRowDialect (dialect : SqlRowDialect) (table : String) : String :=
  if dialect = .bigquery then quoteBigQueryTableId table
  else quoteIdent dialect table

def sortedColumns (columns : List String) : List String :=
  columns.dedup.insertionSort fun a b => utf16Le a b = true

def buildRowAbsentSqlPlan (dialect : SqlRowDialect)
    (req : RowAbsentVerificationRequest) : RowAbsentSqlPlan :=
  let table := tableExprForRowDialect dialect req.table
  let pairs := req.identityEq ++ req.filterEq
  let whereClause := " AND ".intercalate
    (equalityConds dialect (nextPlaceholderSqlRow dialect) table 1 pairs)
  let columns := sortedColumns (pairs.map IdentityEqPair.column)
  let selectList := ", ".intercalate
    (columns.map fun c => table ++ "." ++ quoteIdent dialect c)
  { countSql := "SELECT COUNT(*) AS v FROM " ++ table ++ " WHERE " ++ whereClause
    sampleSql := "SELECT " ++ selectList ++ " FROM " ++ table ++ " WHERE " ++
      whereClause ++ " LIMIT " ++ toString maxVerificationSampleRows
    values := pairValues pairs }

/-! ## Relational checks -/

/-- `text WHERE conds`, unless there is no condition. -/
def withConds (text : String) (conds : List String) : String :=
  if conds = [] then text else text ++ " WHERE " ++ " AND ".intercalate conds

/-- The join of an anti join, its conditions and their values. -/
def antiJoinFrom (dialect : SqlRowDialect) (anchorTable lookupTable anchorColumn
    lookupColumn lookupPresenceColumn : String)
    (filterEqAnchor filterEqLookup : List IdentityEqPair) : SqlStatement :=
  let placeholder := nextPlaceholderRelational dialect
  let condsOn := ("A." ++ quoteIdent dialect anchorColumn ++ " = L." ++
      quoteIdent dialect lookupColumn) ::
    equalityConds dialect placeholder "L" 1 filterEqLookup
  let whereParts := ("L." ++ quoteIdent dialect lookupPresenceColumn ++
      " IS NULL") ::
    equalityConds dialect placeholder "A" (1 + filterEqLookup.length)
      filterEqAnchor
  { text := " FROM " ++ quoteIdent dialect anchorTable ++ " AS A LEFT JOIN " ++
      quoteIdent dialect lookupTable ++ " AS L ON " ++
      " AND ".intercalate condsOn ++ " WHERE " ++ " AND ".intercalate whereParts
    values := pairValues filterEqLookup ++ pairValues filterEqAnchor }

def joinAlias : TableSide → String
  | .left => "L"
  | .right => "R"

def joinConds (dialect : SqlRowDialect) (whereEq : List JoinEqPair) :
    List String :=
  (whereEq.zipIdx 1).map fun w =>
    joinAlias w.1.side ++ "." ++ quoteIdent dialect w.1.column ++ " = " ++
      nextPlaceholderRelational dialect w.2

/-- The statement whose only column `v` decides the check. -/
def buildRelationalScalarSql (dialect : SqlRowDialect)
    (check : ResolvedRelationalCheck) : Except String SqlStatement :=
  let quote := quoteIdent dialect
  let placeholder := nextPlaceholderRelational dialect
  match check.body with
  | .relatedExists childTable matchEq =>
      let t := quote childTable
      .ok { text := "SELECT EXISTS (SELECT 1 FROM " ++ t ++ " WHERE " ++
              " AND ".intercalate (equalityConds dialect placeholder t 1 matchEq) ++
              " LIMIT 1) AS v"
            values := pairValues matchEq }
  | .antiJoin anchorTable lookupTable anchorColumn lookupColumn presence
      filterEqAnchor filterEqLookup =>
      let source := antiJoinFrom dialect anchorTable lookupTable anchorColumn
        lookupColumn presence filterEqAnchor filterEqLookup
      .ok { text := "SELECT COUNT(*) AS v" ++ source.text, values := source.values }
  | .aggregate table fn sumColumn whereEq _ _ => do
      let tbl := quote table
      let selectPart ← match fn with
        | .countStar => .ok ("SELECT COUNT(*) AS v FROM " ++ tbl)
        | .sum =>
            match sumColumn.filter (· ≠ "") with
            | none => .error "SUM requires sumColumn"
            | some col =>
                .ok ("SELECT COALESCE(SUM(" ++ quote col ++ "), 0) AS v FROM " ++ tbl)
      .ok { text := withConds selectPart (equalityConds dialect placeholder tbl 1 whereEq)
            values := pairValues whereEq }
  | .joinCount leftTable rightTable leftJoinColumn rightJoinColumn whereEq _ _ =>
      let base := "SELECT COUNT(*) AS v FROM " ++ quote leftTable ++
        " AS L INNER JOIN " ++ quote rightTable ++ " AS R ON L." ++
        quote leftJoinColumn ++ " = R." ++ quote rightJoinColumn
      .ok { text := withConds base (joinConds dialect whereEq)
            values := whereEq.map JoinEqPair.value }

/-- The rows of the anchor without a match; none for the other checks. -/
def buildAntiJoinSampleSql (dialect : SqlRowDialect)
    (check : ResolvedRelationalCheck) : Option SqlStatement :=
  match check.body with
  | .antiJoin anchorTable lookupTable anchorColumn lookupColumn presence
      filterEqAnchor filterEqLookup =>
      let source := antiJoinFrom dialect anchorTable lookupTable anchorColumn
        lookupColumn presence filterEqAnchor filterEqLookup
      let columns := sortedColumns
        (anchorColumn :: filterEqAnchor.map IdentityEqPair.column)
      let selectList := ", ".intercalate
        (columns.map fun c => "A." ++ quoteIdent dialect c)
      some { text := "SELECT " ++ selectList ++ source.text ++ " LIMIT " ++
               toString maxVerificationSampleRows
             values := source.values }
  | _ => none

/-! ## Checks that can be sent -/

/-- A sum names the column it is of. -/
def SumColumnGiven (check : ResolvedRelationalCheck) : Prop :=
  match check.body with
  | .aggregate _ .sum sumColumn _ _ _ => ∃ column, sumColumn = some column ∧
      column ≠ ""
  | _ => True

/-- Every check that can be sent has a statement. -/
theorem buildRelationalScalarSql_ok {dialect : SqlRowDialect}
    {check : ResolvedRelationalCheck} (h : SumColumnGiven check) :
    ∃ statement, buildRelationalScalarSql dialect check = .ok statement := by
  rcases check with ⟨id, body⟩
  rcases body with _ | ⟨table, fn, sumColumn, whereEq, op, value⟩ | _ | _
  · exact ⟨_, rfl⟩
  · rcases fn with _ | _
    · exact ⟨_, rfl⟩
    · obtain ⟨column, rfl, hne⟩ := h
      have hgiven : (some column).filter (· ≠ "") = some column := by
        simp [hne]
      simp only [buildRelationalScalarSql, hgiven]
      exact ⟨_, rfl⟩
  · exact ⟨_, rfl⟩
  · exact ⟨_, rfl⟩

theorem resolveAggregate_sumColumn {params : Json} {spec : AggregateSpec}
    {label : String} {body : ResolvedRelationalBody}
    (h : resolveAggregate params spec label = .ok body) (id : String) :
    SumColumnGiven ⟨id, body⟩ := by
  obtain ⟨table, -, h⟩ := bind_eq_ok.mp h
  rcases hfn : spec.fn with _ | _
  · simp only [hfn] at h
    obtain ⟨sumColumn, -, h⟩ := bind_eq_ok.mp h
    obtain ⟨whereEq, -, h⟩ := bind_eq_ok.mp h
    obtain ⟨value, -, h⟩ := bind_eq_ok.mp h
    cases h
    trivial
  · rcases hspec : spec.sumColumn with _ | column
    · simp only [hfn, hspec] at h
      obtain ⟨sumColumn, hsum, -⟩ := bind_eq_ok.mp h
      cases hsum
    · simp only [hfn, hspec] at h
      obtain ⟨name, hname, h⟩ := bind_eq_ok.mp h
      obtain ⟨sumColumn, hsum, h⟩ := bind_eq_ok.mp h
      obtain ⟨whereEq, -, h⟩ := bind_eq_ok.mp h
      obtain ⟨value, -, h⟩ := bind_eq_ok.mp h
      cases hsum
      cases h
      obtain ⟨text, htext, hident⟩ := bind_eq_ok.mp hname
      have hne : text ≠ "" := resolveStringSpec_ne_empty htext
      split at hident
      · cases hident
        exact ⟨_, rfl, hne⟩
      · cases hident

theorem resolveSqlRelationalCheck_sumColumn {params : Json}
    {spec : SqlRelationalCheckSpec} {label : String}
    {check : ResolvedRelationalCheck}
    (h : resolveSqlRelationalCheck params spec label = .ok check) :
    SumColumnGiven check := by
  unfold resolveSqlRelationalCheck at h
  rcases hspec : spec.body with body' | body' | body' | body'
  · simp only [hspec] at h
    obtain ⟨body, hbody, h⟩ := bind_eq_ok.mp h
    cases h
    exact resolveAggregate_sumColumn hbody spec.id
  · simp only [hspec] at h
    obtain ⟨body, hbody, h⟩ := bind_eq_ok.mp h
    cases h
    iterate 6 obtain ⟨_, -, hbody⟩ := bind_eq_ok.mp hbody
    cases hbody
    trivial
  · simp only [hspec] at h
    obtain ⟨body, hbody, h⟩ := bind_eq_ok.mp h
    cases h
    iterate 2 obtain ⟨_, -, hbody⟩ := bind_eq_ok.mp hbody
    cases hbody
    trivial
  · simp only [hspec] at h
    obtain ⟨body, hbody, h⟩ := bind_eq_ok.mp h
    cases h
    iterate 9 obtain ⟨_, -, hbody⟩ := bind_eq_ok.mp hbody
    cases hbody
    trivial

/-- What an item list resolves to is resolved item by item. -/
theorem exists_of_mem_resolveItems {α β : Type} {id : α → String}
    {resolve : α → ResolveM β} {seen : List String} {items : List α}
    {values : List β} (h : resolveItems id resolve seen items = .ok values)
    {value : β} (hvalue : value ∈ values) :
    ∃ item ∈ items, resolve item = .ok value := by
  induction items generalizing seen values with
  | nil =>
      cases h
      cases hvalue
  | cons item items ih =>
      unfold resolveItems at h
      dsimp only at h
      split at h
      · cases h
      · obtain ⟨first, hfirst, h⟩ := bind_eq_ok.mp h
        obtain ⟨rest, hrest, h⟩ := bind_eq_ok.mp h
        cases h
        rcases List.mem_cons.mp hvalue with rfl | hvalue
        · exact ⟨item, List.mem_cons_self, hfirst⟩
        · obtain ⟨found, hfound, hok⟩ := ih hrest hvalue
          exact ⟨found, List.mem_cons_of_mem _ hfound, hok⟩

/-- A request whose checks can all be sent. -/
def Sendable : ResolvedRequest → Prop
  | .sqlRelational checks => ∀ check ∈ checks, SumColumnGiven check
  | _ => True

/-- What resolves can be sent. -/
theorem resolveVerificationRequest_sendable {entry : ToolRegistryEntry}
    {params : Json} {target : Option VerificationDatabaseKind}
    {request : ResolvedRequest}
    (h : resolveVerificationRequest entry params target = .ok request) :
    Sendable request := by
  unfold resolveVerificationRequest at h
  cases hspec : entry.verification with
  | sqlRelational checks =>
      simp only [hspec] at h
      split at h
      · cases h
      · obtain ⟨resolved, hresolved, h⟩ := bind_eq_ok.mp h
        cases h
        intro check hcheck
        have hmem : check ∈ resolved := (List.mem_insertionSort _).mp hcheck
        obtain ⟨item, -, hitem⟩ := exists_of_mem_resolveItems hresolved hmem
        exact resolveSqlRelationalCheck_sumColumn hitem
  | _ =>
      simp only [hspec] at h
      obtain ⟨_, -, h⟩ := bind_eq_ok.mp h
      cases h
      trivial

end AgentSkeptic.Engine
