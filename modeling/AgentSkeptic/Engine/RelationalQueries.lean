import AgentSkeptic.Engine.BackendCounts
import AgentSkeptic.Engine.SqlBindings
import AgentSkeptic.Support.JsDouble
import AgentSkeptic.Support.SqlReading
import Mathlib.Data.List.Dedup
import Mathlib.Data.List.ReduceOption

/-!
# What relational checks ask

`relationalInvariant.ts`, against the predicates of `relational-verification.md`.  The
statements of a check read as queries (`readStatement_scalar`, `readStatement_sample`), the
queries evaluate to the counts of the predicates (`scalarQuery_evaluate`), and the reconciler
verifies the check exactly when its predicate holds of the tables
(`relationalChecks_meanTheirPredicate`).
-/

namespace AgentSkeptic.Engine

open AgentSkeptic.Support

/-! ## Resolved checks -/

/-- What the registry's schema asks of a check: a related row is matched by some column. -/
def SqlRelationalCheckSpec.MatchGiven (spec : SqlRelationalCheckSpec) : Prop :=
  match spec.body with
  | .relatedExists related => related.matchEq ≠ []
  | _ => True

/-- What a resolved check has: a column to match or to sum, and a finite expectation. -/
def ResolvedRelationalBody.IsAskable : ResolvedRelationalBody → Prop
  | .relatedExists _ matchEq => matchEq ≠ []
  | .aggregate _ fn sumColumn _ _ expected =>
      (fn = .sum → ∃ column, sumColumn = some column ∧ column ≠ "") ∧ expected.isFinite = true
  | .joinCount _ _ _ _ _ _ expected => expected.isFinite = true
  | .antiJoin .. => True

theorem resolveExpectNumber_isFinite {spec : RegistryNumberOrPointerSpec} {params : Json}
    {label : String} {n : JsNumber} (h : resolveExpectNumber spec params label = .ok n) :
    n.isFinite = true := by
  cases spec with
  | const value =>
      unfold resolveExpectNumber at h
      dsimp only at h
      split_ifs at h with hfinite
      · cases h
        exact hfinite
      · cases h
  | pointer pointer =>
      obtain ⟨got, -, h⟩ := bind_eq_ok.mp h
      split_ifs at h
      · cases h
      · split at h
        · split_ifs at h with hfinite
          · cases h
            exact hfinite
          · cases h
        · cases h

theorem mapM_ok_length {ε α β : Type} {f : α → Except ε β} {items : List α} {values : List β}
    (h : items.mapM f = .ok values) : values.length = items.length := by
  induction items generalizing values with
  | nil =>
      cases h
      rfl
  | cons item items ih =>
      rw [List.mapM_cons] at h
      obtain ⟨value, -, h⟩ := bind_eq_ok.mp h
      obtain ⟨rest, hrest, h⟩ := bind_eq_ok.mp h
      cases h
      rw [List.length_cons, List.length_cons, ih hrest]

theorem resolveRegistryEqualityList_length {specs : List RegistryEqualityPair} {params : Json}
    {label : String} {pairs : List IdentityEqPair}
    (h : resolveRegistryEqualityList specs params label = .ok pairs) :
    pairs.length = specs.length := by
  obtain ⟨raw, hraw, h⟩ := bind_eq_ok.mp h
  have hlength : raw.length = specs.length := by
    rw [mapM_ok_length hraw, List.length_zipIdx]
  unfold normalizeSortedIdentityEq at h
  dsimp only at h
  split at h
  · cases h
  · cases h
    rw [List.length_insertionSort, hlength]

theorem resolveAggregate_isAskable {params : Json} {spec : AggregateSpec} {label : String}
    {body : ResolvedRelationalBody} (h : resolveAggregate params spec label = .ok body) :
    body.IsAskable := by
  have hsum := resolveAggregate_sumColumn h ""
  obtain ⟨table, -, h⟩ := bind_eq_ok.mp h
  rcases hfn : spec.fn with _ | _
  · simp only [hfn] at h
    obtain ⟨sumColumn, -, h⟩ := bind_eq_ok.mp h
    obtain ⟨whereEq, -, h⟩ := bind_eq_ok.mp h
    obtain ⟨expected, hexpected, h⟩ := bind_eq_ok.mp h
    cases h
    exact ⟨fun hne => AggregateFn.noConfusion hne, resolveExpectNumber_isFinite hexpected⟩
  · rcases hspec : spec.sumColumn with _ | column
    · simp only [hfn, hspec] at h
      obtain ⟨sumColumn, hnone, -⟩ := bind_eq_ok.mp h
      cases hnone
    · simp only [hfn, hspec] at h
      obtain ⟨name, -, h⟩ := bind_eq_ok.mp h
      obtain ⟨sumColumn, -, h⟩ := bind_eq_ok.mp h
      obtain ⟨whereEq, -, h⟩ := bind_eq_ok.mp h
      obtain ⟨expected, hexpected, h⟩ := bind_eq_ok.mp h
      cases h
      exact ⟨fun _ => hsum, resolveExpectNumber_isFinite hexpected⟩

theorem resolveSqlRelationalCheck_isAskable {params : Json} {spec : SqlRelationalCheckSpec}
    {label : String} {check : ResolvedRelationalCheck}
    (h : resolveSqlRelationalCheck params spec label = .ok check) (hmatch : spec.MatchGiven) :
    check.body.IsAskable := by
  unfold resolveSqlRelationalCheck at h
  unfold SqlRelationalCheckSpec.MatchGiven at hmatch
  rcases hspec : spec.body with body' | body' | body' | body'
  · simp only [hspec] at h
    obtain ⟨body, hbody, h⟩ := bind_eq_ok.mp h
    cases h
    exact resolveAggregate_isAskable hbody
  · simp only [hspec] at h
    obtain ⟨body, hbody, h⟩ := bind_eq_ok.mp h
    cases h
    iterate 5 obtain ⟨_, -, hbody⟩ := bind_eq_ok.mp hbody
    obtain ⟨expected, hexpected, hbody⟩ := bind_eq_ok.mp hbody
    cases hbody
    exact resolveExpectNumber_isFinite hexpected
  · simp only [hspec] at h hmatch
    obtain ⟨body, hbody, h⟩ := bind_eq_ok.mp h
    cases h
    obtain ⟨child, -, hbody⟩ := bind_eq_ok.mp hbody
    obtain ⟨matchEq, hpairs, hbody⟩ := bind_eq_ok.mp hbody
    cases hbody
    intro hnil
    have hlength := resolveRegistryEqualityList_length hpairs
    rw [hnil] at hlength
    exact hmatch (List.length_eq_zero_iff.mp hlength.symm)
  · simp only [hspec] at h
    obtain ⟨body, hbody, h⟩ := bind_eq_ok.mp h
    cases h
    iterate 9 obtain ⟨_, -, hbody⟩ := bind_eq_ok.mp hbody
    cases hbody
    trivial

/-! ## The queries of a check -/

def pairConditions (qualifier : SqlQualifier) (pairs : List IdentityEqPair) :
    List SqlCondition :=
  pairs.map fun pair => .equalsValue ⟨qualifier, pair.column⟩ pair.value

def joinConditions (pairs : List JoinEqPair) : List SqlCondition :=
  pairs.map fun pair => .equalsValue ⟨.correlation (joinAlias pair.side), pair.column⟩ pair.value

def columnOf (name column : String) : SqlColumn := ⟨.correlation name, column⟩

/-- The join of an anti join. -/
def antiJoinSource (anchorTable lookupTable anchorColumn lookupColumn : String)
    (filterEqLookup : List IdentityEqPair) : SqlSource :=
  .join .left anchorTable "A" lookupTable "L"
    (.equalColumns (columnOf "A" anchorColumn) (columnOf "L" lookupColumn) ::
      pairConditions (.correlation "L") filterEqLookup)

def antiJoinConditions (presence : String) (filterEqAnchor : List IdentityEqPair) :
    List SqlCondition :=
  .isNull (columnOf "L" presence) :: pairConditions (.correlation "A") filterEqAnchor

/-- The query whose only column `v` decides a check. -/
def scalarQuery : ResolvedRelationalBody → SqlQuery
  | .relatedExists childTable matchEq =>
      .existence ⟨.one, .table childTable, pairConditions (.table childTable) matchEq, some 1⟩
        "v"
  | .aggregate table fn sumColumn whereEq _ _ =>
      .rows ⟨if fn = .sum then .sum (sumColumn.getD "") "v" else .count "v", .table table,
        pairConditions (.table table) whereEq, none⟩
  | .joinCount leftTable rightTable leftJoinColumn rightJoinColumn whereEq _ _ =>
      .rows ⟨.count "v", .join .inner leftTable "L" rightTable "R"
        [.equalColumns (columnOf "L" leftJoinColumn) (columnOf "R" rightJoinColumn)],
        joinConditions whereEq, none⟩
  | .antiJoin anchorTable lookupTable anchorColumn lookupColumn presence filterEqAnchor
      filterEqLookup =>
      .rows ⟨.count "v",
        antiJoinSource anchorTable lookupTable anchorColumn lookupColumn filterEqLookup,
        antiJoinConditions presence filterEqAnchor, none⟩

/-- The query of the anchor's rows without a match; none for the other checks. -/
def sampleQuery : ResolvedRelationalBody → Option SqlQuery
  | .antiJoin anchorTable lookupTable anchorColumn lookupColumn presence filterEqAnchor
      filterEqLookup =>
      some (.rows ⟨.columns ((sortedColumns
          (anchorColumn :: filterEqAnchor.map IdentityEqPair.column)).map (columnOf "A")),
        antiJoinSource anchorTable lookupTable anchorColumn lookupColumn filterEqLookup,
        antiJoinConditions presence filterEqAnchor, some maxVerificationSampleRows⟩)
  | _ => none

/-! ## The statements are the queries -/

theorem relationalPlaceholders_number (dialect : SqlRowDialect) (n : ℕ) :
    (relationalPlaceholders dialect).number n = none ∨
      (relationalPlaceholders dialect).number n = some n := by
  cases dialect with
  | postgresql => exact .inr rfl
  | mssql => exact .inr rfl
  | sqlite => exact .inl rfl
  | mysql => exact .inl rfl
  | bigquery => exact .inl rfl

/-- A statement of parts that stand for the tokens of a query is read as the query. -/
theorem readStatement_of_parts {dialect : SqlRowDialect} {statement : SqlStatement}
    {parts : List SqlPart} {query : SqlQuery}
    (htext : statement.text.toList =
      render (quoting dialect) (relationalPlaceholders dialect) 1 parts)
    (hspaced : spaced true parts = true) (hfixed : ∀ part ∈ parts, PartFixed sqlWords part)
    (hvalues : statement.values = (partBindings parts).map SqlBinding.value)
    (htokens : parts.flatMap partBound = query.tokens) (hwritten : query.IsWritten) :
    readStatement (quoting dialect) statement.text statement.values = some query := by
  have hlex := @lexSql_render (quoting dialect) (relationalPlaceholders dialect) parts hspaced
  have hbind := bindTokens_partTokens (relationalPlaceholders_number dialect) sqlWords_fixed
    hfixed (n := 0) hvalues
  rw [readStatement, htext, hlex, Option.bind_eq_bind, Option.bind_some, hbind,
    Option.bind_eq_bind, Option.bind_some, htokens, readQuery_tokens hwritten]

/-- Joined items are separated by the token of the separator. -/
theorem flatMap_joinedParts {separator : String} {t : BoundToken}
    (hseparator : partBound (.text separator) = [t]) (items : List (List SqlPart)) :
    (joinedParts separator items).flatMap partBound =
      separated t (items.map (List.flatMap partBound)) := by
  have htail (items : List (List SqlPart)) :
      (items.flatMap (.text separator :: ·)).flatMap partBound =
        (items.map (List.flatMap partBound)).flatMap (t :: ·) := by
    induction items with
    | nil => rfl
    | cons item items ih =>
        simp only [List.flatMap_cons, List.map_cons, List.flatMap_append, ih, hseparator,
          List.singleton_append]
  cases items with
  | nil => rfl
  | cons item items => rw [joinedParts, List.flatMap_append, htail, List.map_cons, separated]

/-- A fixed text, character by character. -/
theorem partBound_text {chars : List Char} {tokens : List BoundToken}
    (h : (textTokens chars).map .token = tokens) :
    partBound (.text (String.ofList chars)) = tokens := by
  rw [partBound, String.toList_ofList, h]

theorem and_bound : partBound (.text " AND ") = [keyword "AND"] := partBound_text (by decide)

theorem where_bound : partBound (.text " WHERE ") = [keyword "WHERE"] :=
  partBound_text (by decide)

theorem tableConds_bound (table : String) (pairs : List IdentityEqPair) :
    (tableConds [table] pairs).flatMap partBound =
      conditionsTokens (pairConditions (.table table) pairs) := by
  rw [tableConds, flatMap_joinedParts and_bound, conditionsTokens, boundItems, pairConditions,
    List.map_map, List.map_map]
  rfl

/-- The name that a join gives a table is one word. -/
def IsOneWord (name : String) : Prop := textTokens name.toList = [.word name]

theorem bound_correlation {name : String} (hname : IsOneWord name) (column value : String) :
    partBound (.bound (.correlation name) column value) =
      (SqlCondition.equalsValue (columnOf name column) value).tokens := by
  rw [IsOneWord] at hname
  rw [partBound, ownerTokens, hname]
  rfl

theorem correlationItems_bound {name : String} (hname : IsOneWord name)
    (pairs : List IdentityEqPair) :
    (boundItems (pairBinding (.correlation name)) pairs).map (List.flatMap partBound) =
      (pairConditions (.correlation name) pairs).map SqlCondition.tokens := by
  rw [boundItems, pairConditions, List.map_map, List.map_map]
  apply List.map_congr_left
  intro pair _
  have hpair := bound_correlation hname pair.column pair.value
  rw [Function.comp_apply, SqlBinding.part, List.flatMap_singleton]
  exact hpair

theorem isOneWord_joinAlias (side : TableSide) : IsOneWord (joinAlias side) := by
  cases side with
  | left =>
      have hword : textTokens (String.ofList ['L']).toList = [.word "L"] := by
        rw [String.toList_ofList]
        decide
      exact hword
  | right =>
      have hword : textTokens (String.ofList ['R']).toList = [.word "R"] := by
        rw [String.toList_ofList]
        decide
      exact hword

theorem isOneWord_anchor : IsOneWord "A" := by
  have hword : textTokens (String.ofList ['A']).toList = [.word "A"] := by
    rw [String.toList_ofList]
    decide
  exact hword

theorem joinItems_bound (pairs : List JoinEqPair) :
    (joinedParts " AND " (boundItems joinBinding pairs)).flatMap partBound =
      conditionsTokens (joinConditions pairs) := by
  rw [flatMap_joinedParts and_bound, conditionsTokens, boundItems, joinConditions, List.map_map,
    List.map_map]
  congr 1
  apply List.map_congr_left
  intro pair _
  have hpair := bound_correlation (isOneWord_joinAlias pair.side) pair.column pair.value
  rw [Function.comp_apply, SqlBinding.part, List.flatMap_singleton]
  exact hpair

/-- Conditions behind a statement are its `WHERE` clause. -/
theorem whereParts_bound {parts condParts : List SqlPart} {conditions : List SqlCondition}
    (hconds : condParts.flatMap partBound = conditionsTokens conditions)
    (hempty : condParts = [] ↔ conditions = []) :
    (whereParts parts condParts).flatMap partBound =
      parts.flatMap partBound ++ whereTokens conditions := by
  rw [whereParts, whereTokens]
  by_cases h : conditions = []
  · rw [if_pos (hempty.mpr h), if_pos (List.isEmpty_iff.mpr h), List.append_nil]
  · rw [if_neg fun hnil => h (hempty.mp hnil), if_neg fun hnil => h (List.isEmpty_iff.mp hnil),
      List.flatMap_append, List.flatMap_cons, where_bound, hconds]
    rfl

theorem antiJoinParts_bound (anchorTable lookupTable anchorColumn lookupColumn
    presence : String) (filterEqAnchor filterEqLookup : List IdentityEqPair) :
    (antiJoinParts anchorTable lookupTable anchorColumn lookupColumn presence filterEqAnchor
        filterEqLookup).flatMap partBound =
      keyword "FROM" :: ((antiJoinSource anchorTable lookupTable anchorColumn lookupColumn
          filterEqLookup).tokens ++
        whereTokens (antiJoinConditions presence filterEqAnchor)) := by
  have hfrom : partBound (.text " FROM ") = [keyword "FROM"] := partBound_text (by decide)
  have hleft : partBound (.text " AS A LEFT JOIN ") =
      [keyword "AS", keyword "A", keyword "LEFT", keyword "JOIN"] := partBound_text (by decide)
  have hon : partBound (.text " AS L ON ") = [keyword "AS", keyword "L", keyword "ON"] :=
    partBound_text (by decide)
  have hanchor : partBound (.text "A.") = [keyword "A", mark '.'] := partBound_text (by decide)
  have hlookup : partBound (.text "L.") = [keyword "L", mark '.'] := partBound_text (by decide)
  have hequals : partBound (.text " = L.") = [mark '=', keyword "L", mark '.'] :=
    partBound_text (by decide)
  have hnull : partBound (.text " IS NULL") = [keyword "IS", keyword "NULL"] :=
    partBound_text (by decide)
  have hname (id : String) : partBound (.names [id]) = [.token (.name id)] := rfl
  have hlookups := correlationItems_bound (isOneWord_joinAlias .left) filterEqLookup
  have hanchors := correlationItems_bound isOneWord_anchor filterEqAnchor
  have hjoin : (List.flatMap partBound [.text "A.", .names [anchorColumn], .text " = L.",
      .names [lookupColumn]]) =
        (SqlCondition.equalColumns (columnOf "A" anchorColumn)
          (columnOf "L" lookupColumn)).tokens := by
    simp only [List.flatMap_cons, List.flatMap_nil, hanchor, hequals, hname]
    rfl
  have hpresence : (List.flatMap partBound [.text "L.", .names [presence], .text " IS NULL"]) =
      (SqlCondition.isNull (columnOf "L" presence)).tokens := by
    simp only [List.flatMap_cons, List.flatMap_nil, hlookup, hnull, hname]
    rfl
  rw [joinAlias] at hlookups
  rw [antiJoinParts]
  simp only [List.flatMap_cons, List.flatMap_append, flatMap_joinedParts and_bound,
    List.map_cons, hfrom, hleft, hon, hname, where_bound, hjoin, hpresence, hlookups, hanchors]
  simp [antiJoinSource, antiJoinConditions, SqlSource.tokens, SqlJoin.token, whereTokens,
    conditionsTokens]

/-- The parts of a check's statement stand for the tokens of its query. -/
theorem checkParts_bound {check : ResolvedRelationalCheck} (h : check.body.IsAskable) :
    (checkParts check).flatMap partBound = (scalarQuery check.body).tokens := by
  have hname (id : String) : partBound (.names [id]) = [.token (.name id)] := rfl
  have hconds (table : String) (pairs : List IdentityEqPair) :
      tableConds [table] pairs = [] ↔ pairConditions (.table table) pairs = [] := by
    rw [tableConds, boundItems_conds_nil, pairConditions, List.map_eq_nil_iff]
  obtain ⟨id, body⟩ := check
  cases body with
  | relatedExists childTable matchEq =>
      have hstart : partBound (.text "SELECT EXISTS (SELECT 1 FROM ") =
          existsStart ++ [keyword "SELECT", keyword "1", keyword "FROM"] :=
            partBound_text (by decide)
      have hend : partBound (.text " LIMIT 1) AS v") =
          [keyword "LIMIT", keyword "1"] ++ (existsEnd ++ [keyword "v"]) :=
            partBound_text (by decide)
      have hlimit : limitTokens (some 1) = [keyword "LIMIT", keyword "1"] := by decide
      have hne : (pairConditions (.table childTable) matchEq).isEmpty = false := by
        rw [List.isEmpty_eq_false_iff, pairConditions]
        exact fun hnil => h (List.map_eq_nil_iff.mp hnil)
      simp [checkParts, existsParts, scalarQuery, SqlQuery.tokens, SqlSelect.tokens,
        SqlSelection.tokens, SqlSource.tokens, whereTokens, hstart, hend, hlimit, hname,
        where_bound, tableConds_bound, hne]
  | aggregate table fn sumColumn whereEq op expected =>
      have hwhere := @whereParts_bound
        (aggregateParts table (if fn = .sum then sumColumn else none)) _ _
        (tableConds_bound table whereEq) (hconds table whereEq)
      have hcount : partBound (.text "SELECT COUNT(*) AS v FROM ") =
          keyword "SELECT" :: (countTokens ++ [keyword "v", keyword "FROM"]) :=
            partBound_text (by decide)
      have hsum : partBound (.text "SELECT COALESCE(SUM(") = keyword "SELECT" :: sumStart :=
        partBound_text (by decide)
      have hsumEnd : partBound (.text "), 0) AS v FROM ") =
          sumEnd ++ [keyword "v", keyword "FROM"] := partBound_text (by decide)
      rw [checkParts]
      dsimp only
      rw [hwhere]
      cases fn with
      | countStar =>
          simp [scalarQuery, SqlQuery.tokens, SqlSelect.tokens, SqlSelection.tokens,
            SqlSource.tokens, limitTokens, aggregateParts, hcount, hname]
      | sum =>
          obtain ⟨column, rfl, -⟩ := h.1 rfl
          simp [scalarQuery, SqlQuery.tokens, SqlSelect.tokens, SqlSelection.tokens,
            SqlSource.tokens, limitTokens, aggregateParts, hsum, hsumEnd, hname]
  | joinCount leftTable rightTable leftJoinColumn rightJoinColumn whereEq op expected =>
      have hempty : joinedParts " AND " (boundItems joinBinding whereEq) = [] ↔
          joinConditions whereEq = [] := by
        rw [boundItems_conds_nil, joinConditions, List.map_eq_nil_iff]
      have hwhere := @whereParts_bound
        (joinCountParts leftTable rightTable leftJoinColumn rightJoinColumn) _ _
        (joinItems_bound whereEq) hempty
      have hcount : partBound (.text "SELECT COUNT(*) AS v FROM ") =
          keyword "SELECT" :: (countTokens ++ [keyword "v", keyword "FROM"]) :=
            partBound_text (by decide)
      have hleft : partBound (.text " AS L INNER JOIN ") =
          [keyword "AS", keyword "L", keyword "INNER", keyword "JOIN"] :=
            partBound_text (by decide)
      have hright : partBound (.text " AS R ON L.") =
          [keyword "AS", keyword "R", keyword "ON", keyword "L", mark '.'] :=
            partBound_text (by decide)
      have hequals : partBound (.text " = R.") = [mark '=', keyword "R", mark '.'] :=
        partBound_text (by decide)
      rw [checkParts]
      dsimp only
      rw [hwhere]
      simp [scalarQuery, SqlQuery.tokens, SqlSelect.tokens, SqlSelection.tokens,
        SqlSource.tokens, SqlJoin.token, limitTokens, joinCountParts, hcount, hleft, hright,
        hequals, hname, conditionsTokens, separated, SqlCondition.tokens, SqlColumn.tokens,
        columnOf, SqlQualifier.token]
  | antiJoin anchorTable lookupTable anchorColumn lookupColumn presence filterEqAnchor
      filterEqLookup =>
      have hcount : partBound (.text "SELECT COUNT(*) AS v") =
          keyword "SELECT" :: (countTokens ++ [keyword "v"]) := partBound_text (by decide)
      simp [checkParts, scalarQuery, SqlQuery.tokens, SqlSelect.tokens, SqlSelection.tokens,
        limitTokens, antiJoinParts_bound, hcount]

theorem scalarQuery_isWritten {body : ResolvedRelationalBody} : (scalarQuery body).IsWritten := by
  cases body with
  | relatedExists => exact ⟨trivial, trivial⟩
  | aggregate table fn =>
      cases fn with
      | countStar => exact ⟨trivial, trivial⟩
      | sum => exact ⟨trivial, trivial⟩
  | joinCount => exact ⟨trivial, List.cons_ne_nil _ _⟩
  | antiJoin => exact ⟨trivial, List.cons_ne_nil _ _⟩

/-- The statement of a check is its query. -/
theorem readStatement_scalar {dialect : SqlRowDialect} {check : ResolvedRelationalCheck}
    (h : check.body.IsAskable) {statement : SqlStatement}
    (hstatement : buildRelationalScalarSql dialect check = .ok statement) :
    readStatement (quoting dialect) statement.text statement.values =
      some (scalarQuery check.body) := by
  obtain ⟨htext, hvalues⟩ := buildRelationalScalarSql_parts hstatement
  rw [← partBindings_checkParts] at hvalues
  exact readStatement_of_parts htext (spaced_checkParts check) (partFixed_checkParts check)
    hvalues (checkParts_bound h) scalarQuery_isWritten

theorem sortedColumns_ne_nil (column : String) (columns : List String) :
    sortedColumns (column :: columns) ≠ [] := by
  have hmem : column ∈ sortedColumns (column :: columns) :=
    (List.mem_insertionSort _).mpr (List.mem_dedup.mpr List.mem_cons_self)
  exact List.ne_nil_of_mem hmem

theorem sampleParts_bound {columns : List String} {joinParts : List SqlPart}
    {source : SqlSource} {conditions : List SqlCondition}
    (hjoin : joinParts.flatMap partBound =
      keyword "FROM" :: (source.tokens ++ whereTokens conditions)) :
    (antiJoinSampleParts columns joinParts).flatMap partBound =
      (SqlQuery.rows ⟨.columns (columns.map (columnOf "A")), source, conditions,
        some maxVerificationSampleRows⟩).tokens := by
  have hselect : partBound (.text "SELECT ") = [keyword "SELECT"] := partBound_text (by decide)
  have hcomma : partBound (.text ", ") = [mark ','] := partBound_text (by decide)
  have hanchor : partBound (.text "A.") = [keyword "A", mark '.'] := partBound_text (by decide)
  have hlimit : partBound (.text " LIMIT 3") =
      limitTokens (some maxVerificationSampleRows) := partBound_text (by decide)
  have hcolumns : (anchorItems columns).map (List.flatMap partBound) =
      (columns.map (columnOf "A")).map SqlColumn.tokens := by
    rw [anchorItems, List.map_map, List.map_map]
    apply List.map_congr_left
    intro column _
    have hname : partBound (.names [column]) = [.token (.name column)] := rfl
    simp only [Function.comp_apply, List.flatMap_cons, List.flatMap_nil, hanchor, hname]
    rfl
  simp [antiJoinSampleParts, SqlQuery.tokens, SqlSelect.tokens, SqlSelection.tokens, hselect,
    flatMap_joinedParts hcomma, hcolumns, hjoin, hlimit]

/-- The sample of a check is its query of the rows without a match. -/
theorem readStatement_sample {dialect : SqlRowDialect} {check : ResolvedRelationalCheck}
    {statement : SqlStatement} (h : buildAntiJoinSampleSql dialect check = some statement) :
    ∃ query, sampleQuery check.body = some query ∧
      readStatement (quoting dialect) statement.text statement.values = some query := by
  obtain ⟨id, body⟩ := check
  cases body with
  | relatedExists => cases h
  | aggregate => cases h
  | joinCount => cases h
  | antiJoin anchorTable lookupTable anchorColumn lookupColumn presence filterEqAnchor
      filterEqLookup =>
      obtain rfl := Option.some.inj h
      refine ⟨_, rfl, ?_⟩
      have hbindings := partBindings_antiJoinParts anchorTable lookupTable anchorColumn
        lookupColumn presence filterEqAnchor filterEqLookup
      have hvalues : (antiJoinFrom dialect anchorTable lookupTable anchorColumn lookupColumn
          presence filterEqAnchor filterEqLookup).values =
            (partBindings (antiJoinParts anchorTable lookupTable anchorColumn lookupColumn
              presence filterEqAnchor filterEqLookup)).map SqlBinding.value := by
        rw [hbindings, List.map_append, map_pairBinding_value, map_pairBinding_value]
        rfl
      apply readStatement_of_parts
        (render_sampleParts _ (render_antiJoinParts _ _ _ _ _ filterEqAnchor filterEqLookup))
        (spaced_sampleParts _ (spaced_antiJoinParts _ _ _ _ _ _ _ (by decide)))
        (partFixed_sampleParts _ (partFixed_antiJoinParts _ _ _ _ _ _ _))
      · rw [partBindings_sampleParts]
        exact hvalues
      · exact sampleParts_bound (antiJoinParts_bound _ _ _ _ _ _ _)
      · refine ⟨?_, List.cons_ne_nil _ _⟩
        exact fun hnil => sortedColumns_ne_nil _ _ (List.map_eq_nil_iff.mp hnil)

/-! ## The predicates -/

/-- `expect.op` on the values of numbers. -/
def ExpectOp.Holds (actual expected : ℚ) : ExpectOp → Prop
  | eq => actual = expected
  | gte => expected ≤ actual
  | lte => actual ≤ expected

section Predicates

variable {V : Type} (ops : CellOps V) (tables : SqlTables V)

/-- A row's cells are there and equal the values. -/
def rowMeets (pairs : List IdentityEqPair) (row : TableRow V) : Bool :=
  pairs.all fun pair => (row pair.column).any (ops.equalText · pair.value)

/-- Cells that are there and equal. -/
def cellsEqual : Option V → Option V → Bool
  | some a, some b => ops.equal a b
  | _, _ => false

def pairMeets (pairs : List JoinEqPair) (pair : TableRow V × TableRow V) : Bool :=
  pairs.all fun p =>
    match p.side with
    | .left => (pair.1 p.column).any (ops.equalText · p.value)
    | .right => (pair.2 p.column).any (ops.equalText · p.value)

/-- The rows of a table that meet the filters. -/
def rowsMeeting (table : String) (pairs : List IdentityEqPair) : List (TableRow V) :=
  (tables table).filter (rowMeets ops pairs)

/-- The sum of a column over the rows that meet the filters and have it. -/
def columnSum (table column : String) (pairs : List IdentityEqPair) : ℚ :=
  ((rowsMeeting ops tables table pairs).filterMap fun row =>
    (row column).map ops.number).sum

/-- The pairs of rows with equal join columns that meet the filters. -/
def joinedPairs (leftTable rightTable leftJoinColumn rightJoinColumn : String)
    (whereEq : List JoinEqPair) : List (TableRow V × TableRow V) :=
  (tables leftTable ×ˢ tables rightTable).filter fun pair =>
    cellsEqual ops (pair.1 leftJoinColumn) (pair.2 rightJoinColumn) &&
      pairMeets ops whereEq pair

/-- Whether a row of the lookup table belongs to an anchor row. -/
def hasLookup (lookupTable anchorColumn lookupColumn : String)
    (filterEqLookup : List IdentityEqPair) (anchor : TableRow V) : Bool :=
  (tables lookupTable).any fun lookup =>
    cellsEqual ops (anchor anchorColumn) (lookup lookupColumn) &&
      rowMeets ops filterEqLookup lookup

/-- The anchor rows that meet the filters and have no lookup row. -/
def orphanRows (anchorTable lookupTable anchorColumn lookupColumn : String)
    (filterEqAnchor filterEqLookup : List IdentityEqPair) : List (TableRow V) :=
  (rowsMeeting ops tables anchorTable filterEqAnchor).filter fun anchor =>
    !hasLookup ops tables lookupTable anchorColumn lookupColumn filterEqLookup anchor

/-- The documented predicate of a check. -/
def CheckHolds : ResolvedRelationalBody → Prop
  | .relatedExists childTable matchEq => ∃ row ∈ tables childTable, rowMeets ops matchEq row
  | .aggregate table .countStar _ whereEq op expected =>
      op.Holds ((rowsMeeting ops tables table whereEq).length : ℕ) expected.toRat
  | .aggregate table .sum sumColumn whereEq op expected =>
      op.Holds (columnSum ops tables table (sumColumn.getD "") whereEq) expected.toRat
  | .joinCount leftTable rightTable leftJoinColumn rightJoinColumn whereEq op expected =>
      op.Holds ((joinedPairs ops tables leftTable rightTable leftJoinColumn rightJoinColumn
        whereEq).length : ℕ) expected.toRat
  | .antiJoin anchorTable lookupTable anchorColumn lookupColumn _ filterEqAnchor
      filterEqLookup =>
      ∀ anchor ∈ tables anchorTable, rowMeets ops filterEqAnchor anchor →
        ∃ lookup ∈ tables lookupTable,
          cellsEqual ops (anchor anchorColumn) (lookup lookupColumn) ∧
            rowMeets ops filterEqLookup lookup

/-- No row of the lookup table misses the presence column. -/
def PresenceGiven : ResolvedRelationalBody → Prop
  | .antiJoin _ lookupTable _ _ presence _ _ =>
      ∀ lookup ∈ tables lookupTable, lookup presence ≠ none
  | _ => True

/-- What the column `v` of a check's statement is. -/
def checkOutcome : ResolvedRelationalBody → SqlOutcome V
  | .relatedExists childTable matchEq =>
      .truth ((tables childTable).any (rowMeets ops matchEq))
  | .aggregate table .countStar _ whereEq _ _ =>
      .number ((rowsMeeting ops tables table whereEq).length : ℕ)
  | .aggregate table .sum sumColumn whereEq _ _ =>
      .number (columnSum ops tables table (sumColumn.getD "") whereEq)
  | .joinCount leftTable rightTable leftJoinColumn rightJoinColumn whereEq _ _ =>
      .number ((joinedPairs ops tables leftTable rightTable leftJoinColumn rightJoinColumn
        whereEq).length : ℕ)
  | .antiJoin anchorTable lookupTable anchorColumn lookupColumn _ filterEqAnchor
      filterEqLookup =>
      .number ((orphanRows ops tables anchorTable lookupTable anchorColumn lookupColumn
        filterEqAnchor filterEqLookup).length : ℕ)

end Predicates

/-! ## Evaluation -/

section Evaluation

variable {V : Type} {ops : CellOps V} {tables : SqlTables V}

theorem table_conjunction (table : String) (pairs : List IdentityEqPair) (row : TableRow V) :
    conjunction ops [(.table table, row)] (pairConditions (.table table) pairs) = some true ↔
      rowMeets ops pairs row = true := by
  rw [allTrue_iff, rowMeets, List.all_eq_true, pairConditions, List.forall_mem_map]
  apply forall₂_congr
  intro pair _
  rw [equalsValue_true_iff, cell_table, Option.any_eq_true]

theorem kept_table (table : String) (pairs : List IdentityEqPair) :
    keep ops (pairConditions (.table table) pairs) ((SqlSource.table table).scopes ops tables) =
      (rowsMeeting ops tables table pairs).map fun row => [(.table table, row)] := by
  rw [keep_table, rowsMeeting]
  congr 1
  apply List.filter_congr
  intro row _
  rw [Bool.eq_iff_iff, decide_eq_true_eq, table_conjunction]

section Joined

variable {leftAlias rightAlias : String} {left right : TableRow V}

theorem left_conjunction (pairs : List IdentityEqPair) :
    conjunction ops (pairScope leftAlias rightAlias left right)
        (pairConditions (.correlation leftAlias) pairs) = some true ↔
      rowMeets ops pairs left = true := by
  rw [allTrue_iff, rowMeets, List.all_eq_true, pairConditions, List.forall_mem_map]
  apply forall₂_congr
  intro pair _
  rw [equalsValue_true_iff, cell_left, Option.any_eq_true]

theorem right_conjunction (hne : leftAlias ≠ rightAlias) (pairs : List IdentityEqPair) :
    conjunction ops (pairScope leftAlias rightAlias left right)
        (pairConditions (.correlation rightAlias) pairs) = some true ↔
      rowMeets ops pairs right = true := by
  rw [allTrue_iff, rowMeets, List.all_eq_true, pairConditions, List.forall_mem_map]
  apply forall₂_congr
  intro pair _
  rw [equalsValue_true_iff, cell_right hne, Option.any_eq_true]

theorem equalColumns_joined (hne : leftAlias ≠ rightAlias) (leftColumn rightColumn : String) :
    (SqlCondition.equalColumns (columnOf leftAlias leftColumn)
        (columnOf rightAlias rightColumn)).truth ops
          (pairScope leftAlias rightAlias left right) = some true ↔
      cellsEqual ops (left leftColumn) (right rightColumn) = true := by
  rw [equalColumns_true_iff, columnOf, columnOf, cell_left, cell_right hne]
  cases left leftColumn with
  | none => simp [cellsEqual]
  | some a =>
      cases right rightColumn with
      | none => simp [cellsEqual]
      | some b => simp [cellsEqual]

/-- A condition and others behind it. -/
theorem conjunction_cons {scope : SqlScope V} {condition : SqlCondition}
    {conditions : List SqlCondition} :
    conjunction ops scope (condition :: conditions) = some true ↔
      condition.truth ops scope = some true ∧ conjunction ops scope conditions = some true := by
  rw [allTrue_iff, allTrue_iff, List.forall_mem_cons]

end Joined

theorem joinConditions_conjunction {left right : TableRow V} (whereEq : List JoinEqPair) :
    conjunction ops (pairScope "L" "R" left right) (joinConditions whereEq) = some true ↔
      pairMeets ops whereEq (left, right) = true := by
  have hne : ("L" : String) ≠ "R" := by decide
  rw [allTrue_iff, pairMeets, List.all_eq_true, joinConditions, List.forall_mem_map]
  apply forall₂_congr
  intro pair _
  rw [equalsValue_true_iff]
  cases pair.side with
  | left => rw [joinAlias, cell_left, Option.any_eq_true]
  | right => rw [joinAlias, cell_right hne, Option.any_eq_true]

/-- The rows of an inner join are the joined pairs. -/
theorem kept_innerJoin (leftTable rightTable leftJoinColumn rightJoinColumn : String)
    (whereEq : List JoinEqPair) :
    keep ops (joinConditions whereEq)
        ((SqlSource.join .inner leftTable "L" rightTable "R"
          [.equalColumns (columnOf "L" leftJoinColumn)
            (columnOf "R" rightJoinColumn)]).scopes ops tables) =
      (joinedPairs ops tables leftTable rightTable leftJoinColumn rightJoinColumn whereEq).map
        fun pair => pairScope "L" "R" pair.1 pair.2 := by
  have hne : ("L" : String) ≠ "R" := by decide
  rw [keep_innerJoin, joinedPairs]
  congr 1
  apply List.filter_congr
  intro pair _
  rw [Bool.eq_iff_iff, decide_eq_true_eq, Bool.and_eq_true, List.cons_append, List.nil_append,
    conjunction_cons, equalColumns_joined hne, joinConditions_conjunction]

theorem lookup_conjunction {anchor lookup : TableRow V} (anchorColumn lookupColumn : String)
    (filterEqLookup : List IdentityEqPair) :
    conjunction ops (pairScope "A" "L" anchor lookup)
        (.equalColumns (columnOf "A" anchorColumn) (columnOf "L" lookupColumn) ::
          pairConditions (.correlation "L") filterEqLookup) = some true ↔
      (cellsEqual ops (anchor anchorColumn) (lookup lookupColumn) &&
        rowMeets ops filterEqLookup lookup) = true := by
  have hne : ("A" : String) ≠ "L" := by decide
  rw [conjunction_cons, equalColumns_joined hne, right_conjunction hne, Bool.and_eq_true]

/-- The rows of an anti join are the orphans, each once. -/
theorem kept_antiJoin {lookupTable presence : String}
    (hpresence : ∀ lookup ∈ tables lookupTable, lookup presence ≠ none)
    (anchorTable anchorColumn lookupColumn : String)
    (filterEqAnchor filterEqLookup : List IdentityEqPair) :
    keep ops (antiJoinConditions presence filterEqAnchor)
        ((antiJoinSource anchorTable lookupTable anchorColumn lookupColumn
          filterEqLookup).scopes ops tables) =
      (orphanRows ops tables anchorTable lookupTable anchorColumn lookupColumn filterEqAnchor
        filterEqLookup).map fun anchor => pairScope "A" "L" anchor nullRow := by
  have hne : ("A" : String) ≠ "L" := by decide
  have hmatch (anchor : TableRow V) : hasMatch ops tables "A" lookupTable "L"
      (.equalColumns (columnOf "A" anchorColumn) (columnOf "L" lookupColumn) ::
        pairConditions (.correlation "L") filterEqLookup) anchor =
      hasLookup ops tables lookupTable anchorColumn lookupColumn filterEqLookup anchor := by
    rw [hasMatch, hasLookup]
    congr 1
    funext lookup
    rw [Bool.eq_iff_iff, decide_eq_true_eq, lookup_conjunction]
  have hconditions : antiJoinConditions presence filterEqAnchor =
      .isNull ⟨.correlation "L", presence⟩ ::
        pairConditions (.correlation "A") filterEqAnchor := rfl
  rw [hconditions, antiJoinSource, leftJoin_unmatched hne hpresence, orphanRows, rowsMeeting,
    List.filter_filter]
  congr 1
  apply List.filter_congr
  intro anchor _
  rw [hmatch, Bool.eq_iff_iff, Bool.and_eq_true, Bool.and_eq_true, decide_eq_true_eq,
    left_conjunction]

/-! ### Results -/

theorem isScoped_table (selection : SqlSelection) (hselection : selection.columnsOf = [])
    (table : String) (pairs : List IdentityEqPair) (limit : Option ℕ) :
    (SqlSelect.mk selection (.table table) (pairConditions (.table table) pairs)
      limit).isScoped = true := by
  simp [SqlSelect.isScoped, hselection, SqlSource.qualifiers, SqlSource.on, pairConditions,
    SqlCondition.columns]

theorem isScoped_innerJoin (leftTable rightTable leftJoinColumn rightJoinColumn : String)
    (whereEq : List JoinEqPair) :
    (SqlSelect.mk (.count "v") (.join .inner leftTable "L" rightTable "R"
      [.equalColumns (columnOf "L" leftJoinColumn) (columnOf "R" rightJoinColumn)])
        (joinConditions whereEq) none).isScoped = true := by
  have halias (side : TableSide) : joinAlias side = "L" ∨ joinAlias side = "R" := by
    cases side with
    | left => exact .inl rfl
    | right => exact .inr rfl
  simp [SqlSelect.isScoped, SqlSelection.columnsOf, SqlSelection.isSum, SqlSource.qualifiers,
    SqlSource.on, joinConditions, SqlCondition.columns, columnOf, halias]

theorem isScoped_antiJoin {selection : SqlSelection}
    (hcolumns : ∀ column ∈ selection.columnsOf, column.qualifier = .correlation "A")
    (hsum : selection.isSum = false) (anchorTable lookupTable anchorColumn lookupColumn
      presence : String) (filterEqAnchor filterEqLookup : List IdentityEqPair)
    (limit : Option ℕ) :
    (SqlSelect.mk selection
      (antiJoinSource anchorTable lookupTable anchorColumn lookupColumn filterEqLookup)
        (antiJoinConditions presence filterEqAnchor) limit).isScoped = true := by
  have hselected : ∀ column ∈ selection.columnsOf, column.qualifier = .correlation "A" ∨
      column.qualifier = .correlation "L" := fun column h => .inl (hcolumns column h)
  simpa [SqlSelect.isScoped, hsum, SqlSource.qualifiers, SqlSource.on, antiJoinSource,
    antiJoinConditions, pairConditions, SqlCondition.columns, columnOf] using hselected

/-- The cells of a column of the only table. -/
theorem sumOfCells_table (table column : String) (rows : List (TableRow V)) :
    sumOfCells ops ((rows.map fun row => [(SqlQualifier.table table, row)]).map fun scope =>
        scope.head?.bind fun entry => entry.2 column) =
      (rows.filterMap fun row => (row column).map ops.number).sum := by
  rw [sumOfCells, List.map_map, List.reduceOption, List.filterMap_map, List.map_filterMap]
  rfl

/-- The query of a check evaluates to its outcome. -/
theorem scalarQuery_evaluate {body : ResolvedRelationalBody}
    (hpresence : PresenceGiven tables body) :
    (scalarQuery body).evaluate ops tables = some [[("v", checkOutcome ops tables body)]] := by
  cases body with
  | relatedExists childTable matchEq =>
      have hany : (tables childTable).any (rowMeets ops matchEq) =
          !(rowsMeeting ops tables childTable matchEq).isEmpty := by
        rw [Bool.eq_iff_iff]
        simp [rowsMeeting]
      rw [scalarQuery, SqlQuery.evaluate, if_pos (isScoped_table .one rfl _ _ _),
        SqlSelect.results, SqlSelect.kept, kept_table, checkOutcome, hany]
      cases rowsMeeting ops tables childTable matchEq with
      | nil => rfl
      | cons row rows => rfl
  | aggregate table fn sumColumn whereEq op expected =>
      cases fn with
      | countStar =>
          rw [scalarQuery, if_neg (by decide), SqlQuery.evaluate,
            if_pos (isScoped_table (.count "v") rfl _ _ _), SqlSelect.results, SqlSelect.kept,
            kept_table]
          simp [SqlSelection.results, checkOutcome]
      | sum =>
          rw [scalarQuery, if_pos rfl, SqlQuery.evaluate,
            if_pos (isScoped_table (.sum _ "v") rfl _ _ _), SqlSelect.results, SqlSelect.kept,
            kept_table, Option.elim_none, SqlSelection.results, sumOfCells_table]
          rfl
  | joinCount leftTable rightTable leftJoinColumn rightJoinColumn whereEq op expected =>
      rw [scalarQuery, SqlQuery.evaluate, if_pos (isScoped_innerJoin _ _ _ _ _),
        SqlSelect.results, SqlSelect.kept, kept_innerJoin]
      simp [SqlSelection.results, checkOutcome]
  | antiJoin anchorTable lookupTable anchorColumn lookupColumn presence filterEqAnchor
      filterEqLookup =>
      rw [scalarQuery, SqlQuery.evaluate,
        if_pos (isScoped_antiJoin (by simp [SqlSelection.columnsOf]) rfl _ _ _ _ _ _ _ _),
        SqlSelect.results, SqlSelect.kept, kept_antiJoin hpresence]
      simp [SqlSelection.results, checkOutcome]

/-- The sample of an anti join shows each orphan, up to the limit. -/
theorem sampleQuery_evaluate {anchorTable lookupTable anchorColumn lookupColumn
    presence : String} {filterEqAnchor filterEqLookup : List IdentityEqPair}
    (hpresence : ∀ lookup ∈ tables lookupTable, lookup presence ≠ none) {query : SqlQuery}
    (hquery : sampleQuery (.antiJoin anchorTable lookupTable anchorColumn lookupColumn presence
      filterEqAnchor filterEqLookup) = some query) :
    query.evaluate ops tables =
      some (((orphanRows ops tables anchorTable lookupTable anchorColumn lookupColumn
        filterEqAnchor filterEqLookup).take maxVerificationSampleRows).map fun anchor =>
          (sortedColumns (anchorColumn :: filterEqAnchor.map IdentityEqPair.column)).map
            fun column => (column, .cell (anchor column))) := by
  obtain rfl := Option.some.inj hquery
  refine (if_pos (isScoped_antiJoin ?_ rfl _ _ _ _ _ _ _ _)).trans ?_
  · simp [SqlSelection.columnsOf, columnOf]
  · rw [SqlSelect.results, SqlSelect.kept, kept_antiJoin hpresence]
    have hcell (anchor : TableRow V) (column : String) :
        (columnOf "A" column).cell (pairScope "A" "L" anchor nullRow) = anchor column :=
      cell_left "A" "L" column anchor nullRow
    simp [SqlSelection.results, List.map_take, Function.comp_def, columnOf]

end Evaluation

/-! ## Reconciled checks -/

section Reconciled

variable {V : Type} {ops : CellOps V} {tables : SqlTables V}

/-- The driver hands a number over as a number, and a truth value as one or as `0` or `1`. -/
def HandsOver : SqlOutcome V → JsValue → Prop
  | .number x, value =>
      ∃ n : JsNumber, value = .json (.num n) ∧ n.isFinite = true ∧ n.toRat = x
  | .truth holds, value =>
      value = .json (.bool holds) ∨ value = .json (.num (.int (if holds then 1 else 0)))
  | .cell cell, value => cell = none → value = .json .null

/-- A row as the driver hands it over, column by column. -/
def HandsOverRow (result : SqlResultRow V) (row : SqlRow) : Prop :=
  List.Forall₂ (fun shown found => shown.1 = found.1 ∧ HandsOver shown.2 found.2) result row

/-- The rows that a statement selects from the tables. -/
def evaluateStatement (dialect : SqlRowDialect) (ops : CellOps V) (tables : SqlTables V)
    (statement : SqlStatement) : Option (List (SqlResultRow V)) := do
  let query ← readStatement (quoting dialect) statement.text statement.values
  query.evaluate ops tables

/-- The connection hands over what the statement selects. -/
def AnswersBy (db : SqlConnection) (dialect : SqlRowDialect) (ops : CellOps V)
    (tables : SqlTables V) (statement : SqlStatement) : Prop :=
  ∀ results, evaluateStatement dialect ops tables statement = some results →
    ∃ rows, db.query statement = .ok rows ∧ List.Forall₂ HandsOverRow results rows

/-- How many rows of the anchor an anti join finds without a match. -/
def orphanCount (ops : CellOps V) (tables : SqlTables V) : ResolvedRelationalBody → Option ℕ
  | .antiJoin anchorTable lookupTable anchorColumn lookupColumn _ filterEqAnchor
      filterEqLookup =>
      some (orphanRows ops tables anchorTable lookupTable anchorColumn lookupColumn
        filterEqAnchor filterEqLookup).length
  | _ => none

/-- The check is verified exactly when its predicate holds; of an anti join that does not
hold, the orphans are counted and some of them shown. -/
structure CheckReported (ops : CellOps V) (tables : SqlTables V)
    (check : ResolvedRelationalCheck) (out : ReconcileOutput) : Prop where
  verified_iff : out.status = .verified ↔ CheckHolds ops tables check.body
  orphans : ∀ n, orphanCount ops tables check.body = some n →
    ¬ CheckHolds ops tables check.body → out.status = .inconsistent ∧
      ∃ sampleRows, out.evidenceSummary = checkEvidence check ++
          [("orphanRowCount", intJson n), ("sampleRows", .arr sampleRows)] ∧
        sampleRows.length = min n maxVerificationSampleRows

theorem handsOverRow_single {outcome : SqlOutcome V} {row : SqlRow}
    (h : HandsOverRow [("v", outcome)] row) :
    ∃ value, row = [("v", value)] ∧ HandsOver outcome value := by
  obtain ⟨⟨column, value⟩, rest, ⟨rfl, hvalue⟩, hrest, rfl⟩ := List.forall₂_cons_left_iff.mp h
  obtain rfl := List.forall₂_nil_left_iff.mp hrest
  exact ⟨value, rfl, hvalue⟩

/-- A number is read as itself. -/
theorem normalizeNumericActual_num {n : JsNumber} (h : n.isFinite = true) :
    normalizeNumericActual (.json (.num n)) = some n := if_pos h

theorem compareExpect_iff {actual expected : JsNumber} (hactual : actual.isFinite = true)
    (hexpected : expected.isFinite = true) (op : ExpectOp) :
    compareExpect actual op expected = true ↔ op.Holds actual.toRat expected.toRat := by
  cases op with
  | eq =>
      rw [compareExpect, decide_eq_true_eq]
      constructor
      · rintro rfl
        rfl
      · exact JsNumber.eq_of_toRat_eq hactual hexpected
  | gte => exact decide_eq_true_iff
  | lte => exact decide_eq_true_iff

theorem reconcileExpect_verified_iff {check : ResolvedRelationalCheck} {op : ExpectOp}
    {expected : JsNumber} (hexpected : expected.isFinite = true) {x : ℚ} {value : JsValue}
    (hvalue : HandsOver (.number x : SqlOutcome V) value) :
    (reconcileExpect check op expected value).status = .verified ↔
      op.Holds x expected.toRat := by
  obtain ⟨n, rfl, hfinite, rfl⟩ := hvalue
  have hcompare := compareExpect_iff hfinite hexpected op
  rw [reconcileExpect, normalizeNumericActual_num hfinite]
  dsimp only
  split_ifs with h
  · exact iff_of_true rfl (hcompare.mp h)
  · exact iff_of_false (by simp [output]) fun hholds => h (hcompare.mpr hholds)

theorem reconcileExists_verified_iff {check : ResolvedRelationalCheck} {holds : Bool}
    {value : JsValue} (hvalue : HandsOver (.truth holds : SqlOutcome V) value) :
    (reconcileExists check value).status = .verified ↔ holds = true := by
  have hread : normalizeNumericActual value = some (.int (if holds then 1 else 0)) := by
    rcases hvalue with rfl | rfl
    · rfl
    · exact normalizeNumericActual_num rfl
  rw [reconcileExists, hread]
  cases holds with
  | false => exact iff_of_false (by simp [output]) (by decide)
  | true => exact iff_of_true rfl rfl

/-- An anti join has no orphans exactly when it holds. -/
theorem orphanRows_eq_nil_iff {anchorTable lookupTable anchorColumn lookupColumn
    presence : String} {filterEqAnchor filterEqLookup : List IdentityEqPair} :
    orphanRows ops tables anchorTable lookupTable anchorColumn lookupColumn filterEqAnchor
        filterEqLookup = [] ↔
      CheckHolds ops tables (.antiJoin anchorTable lookupTable anchorColumn lookupColumn presence
        filterEqAnchor filterEqLookup) := by
  rw [orphanRows, rowsMeeting, List.filter_filter, List.filter_eq_nil_iff, CheckHolds]
  apply forall₂_congr
  intro anchor _
  have hlookup : hasLookup ops tables lookupTable anchorColumn lookupColumn filterEqLookup
      anchor = true ↔ ∃ lookup ∈ tables lookupTable,
        cellsEqual ops (anchor anchorColumn) (lookup lookupColumn) = true ∧
          rowMeets ops filterEqLookup lookup = true := by
    simp [hasLookup]
  rw [← hlookup, Bool.and_eq_true, Bool.not_eq_true', not_and, imp_not_comm,
    Bool.not_eq_false]

theorem reconcileAntiJoin_count {check : ResolvedRelationalCheck} {n : ℕ} {value : JsValue}
    (hvalue : HandsOver (.number n : SqlOutcome V) value) :
    reconcileAntiJoin check value =
      if n = 0 then verifiedOutput (checkEvidence check ++ [("orphanRowCount", intJson 0)])
      else
        output .inconsistent .orphanRowDetected
          (relationalMessage check ((JsNumber.int n).toText ++ " orphan row(s)"))
          (checkEvidence check ++ [("orphanRowCount", intJson n)]) := by
  obtain ⟨count, rfl, hfinite, hcount⟩ := hvalue
  obtain rfl : count = .int n := JsNumber.eq_of_toRat_eq hfinite rfl (by simpa [JsNumber.toRat])
  have hzero : JsNumber.int n = .int 0 ↔ n = 0 := by simp
  rw [reconcileAntiJoin, normalizeNumericActual_num hfinite]
  simp only [hzero]
  rfl

theorem checkOutcome_cases (body : ResolvedRelationalBody) :
    (∃ x, checkOutcome ops tables body = .number x) ∨
      ∃ holds, checkOutcome ops tables body = .truth holds := by
  cases body with
  | relatedExists => exact .inr ⟨_, rfl⟩
  | aggregate table fn =>
      cases fn with
      | countStar => exact .inl ⟨_, rfl⟩
      | sum => exact .inl ⟨_, rfl⟩
  | joinCount => exact .inl ⟨_, rfl⟩
  | antiJoin => exact .inl ⟨_, rfl⟩

theorem scalarColumn_outcome {body : ResolvedRelationalBody} {value : JsValue}
    (hvalue : HandsOver (checkOutcome ops tables body) value) :
    scalarColumn [("v", value)] = value := by
  apply scalarColumn_single
  rcases checkOutcome_cases body with ⟨x, hx⟩ | ⟨holds, hholds⟩
  · rw [hx] at hvalue
    obtain ⟨n, rfl, -⟩ := hvalue
    rfl
  · rw [hholds] at hvalue
    rcases hvalue with rfl | rfl
    · rfl
    · rfl

/-- The row of a check's query decides it. -/
theorem reconcileRelationalRow_verified_iff {check : ResolvedRelationalCheck}
    (haskable : check.body.IsAskable) {value : JsValue}
    (hvalue : HandsOver (checkOutcome ops tables check.body) value) :
    (reconcileRelationalRow (some [("v", value)]) check).status = .verified ↔
      CheckHolds ops tables check.body := by
  have hread := scalarColumn_outcome hvalue
  obtain ⟨id, body⟩ := check
  rw [reconcileRelationalRow, hread]
  cases body with
  | relatedExists childTable matchEq =>
      have hany : (tables childTable).any (rowMeets ops matchEq) = true ↔
          CheckHolds ops tables (.relatedExists childTable matchEq) := List.any_eq_true
      exact (reconcileExists_verified_iff hvalue).trans hany
  | aggregate table fn sumColumn whereEq op expected =>
      cases fn with
      | countStar => exact reconcileExpect_verified_iff haskable.2 hvalue
      | sum => exact reconcileExpect_verified_iff haskable.2 hvalue
  | joinCount leftTable rightTable leftJoinColumn rightJoinColumn whereEq op expected =>
      exact reconcileExpect_verified_iff haskable hvalue
  | antiJoin anchorTable lookupTable anchorColumn lookupColumn presence filterEqAnchor
      filterEqLookup =>
      dsimp only
      rw [reconcileAntiJoin_count hvalue, ← orphanRows_eq_nil_iff]
      split_ifs with h
      · exact iff_of_true rfl (List.length_eq_zero_iff.mp h)
      · exact iff_of_false (by simp [output]) fun hnil => h (List.length_eq_zero_iff.mpr hnil)

/-- What the statement of a check selects. -/
theorem evaluateStatement_scalar {dialect : SqlRowDialect} {check : ResolvedRelationalCheck}
    (haskable : check.body.IsAskable) (hpresence : PresenceGiven tables check.body)
    {statement : SqlStatement}
    (hstatement : buildRelationalScalarSql dialect check = .ok statement) :
    evaluateStatement dialect ops tables statement =
      some [[("v", checkOutcome ops tables check.body)]] := by
  rw [evaluateStatement, readStatement_scalar haskable hstatement, Option.bind_eq_bind,
    Option.bind_some, scalarQuery_evaluate hpresence]

theorem evaluateStatement_sample {dialect : SqlRowDialect} {check : ResolvedRelationalCheck}
    (hpresence : PresenceGiven tables check.body) {statement : SqlStatement}
    (hstatement : buildAntiJoinSampleSql dialect check = some statement) {n : ℕ}
    (hn : orphanCount ops tables check.body = some n) :
    ∃ results, evaluateStatement dialect ops tables statement = some results ∧
      results.length = min n maxVerificationSampleRows := by
  obtain ⟨query, hquery, hread⟩ := readStatement_sample hstatement
  rw [evaluateStatement, hread, Option.bind_eq_bind, Option.bind_some]
  obtain ⟨id, body⟩ := check
  cases body with
  | antiJoin =>
      obtain rfl := Option.some.inj hn
      refine ⟨_, sampleQuery_evaluate hpresence hquery, ?_⟩
      rw [List.length_map, List.length_take, Nat.min_comm]
  | relatedExists => cases hn
  | aggregate => cases hn
  | joinCount => cases hn

/-- The row that a connection answers a check with. -/
theorem answered_scalar {db : SqlConnection} {statement : SqlStatement}
    {dialect : SqlRowDialect} {outcome : SqlOutcome V}
    (hanswers : AnswersBy db dialect ops tables statement)
    (hresults : evaluateStatement dialect ops tables statement = some [[("v", outcome)]]) :
    ∃ value, db.query statement = .ok [[("v", value)]] ∧ HandsOver outcome value := by
  obtain ⟨rows, hrows, hall⟩ := hanswers _ hresults
  obtain ⟨row, rest, hrow, hrest, rfl⟩ := List.forall₂_cons_left_iff.mp hall
  obtain rfl := List.forall₂_nil_left_iff.mp hrest
  obtain ⟨value, rfl, hvalue⟩ := handsOverRow_single hrow
  exact ⟨value, hrows, hvalue⟩

theorem orphansDetected_output (message : String) (evidence : List (String × Json)) :
    orphansDetected (output .inconsistent .orphanRowDetected message evidence) = true := rfl

theorem orphansDetected_verified (evidence : List (String × Json)) :
    orphansDetected (verifiedOutput evidence) = false := rfl

variable {texts : TextTables} {dialect : SqlRowDialect} {db : SqlConnection}
  {check : ResolvedRelationalCheck} {statement : SqlStatement} {value : JsValue}

/-- A check without a sample is reconciled by its row. -/
theorem relationalRun_row (hlower : texts.toLowerCase "v" = "v")
    (hquery : db.query statement = .ok [[("v", value)]])
    (hsample : buildAntiJoinSampleSql dialect check = none) :
    relationalRun texts dialect db check statement =
      .ok (reconcileRelationalRow (some [("v", value)]) check) := by
  simp only [relationalRun, hquery, hsample, bind, Except.bind, List.head?_cons, Option.map_some,
    lowerRow_single hlower]

/-- A run of an anti join: all its orphans are counted, and some of them shown. -/
theorem relationalRun_antiJoin (hlower : texts.toLowerCase "v" = "v")
    (haskable : check.body.IsAskable) (hpresence : PresenceGiven tables check.body)
    (hquery : db.query statement = .ok [[("v", value)]])
    (hvalue : HandsOver (checkOutcome ops tables check.body) value) {sample : SqlStatement}
    (hsample : buildAntiJoinSampleSql dialect check = some sample)
    (hanswers : AnswersBy db dialect ops tables sample) :
    ∃ out, relationalRun texts dialect db check statement = .ok out ∧
      CheckReported ops tables check out := by
  have hverified := reconcileRelationalRow_verified_iff haskable hvalue
  obtain ⟨n, hn⟩ : ∃ n, orphanCount ops tables check.body = some n := by
    obtain ⟨query, hbody, -⟩ := readStatement_sample hsample
    obtain ⟨id, body⟩ := check
    cases body with
    | antiJoin => exact ⟨_, rfl⟩
    | relatedExists => cases hbody
    | aggregate => cases hbody
    | joinCount => cases hbody
  obtain ⟨results, hresults, hlength⟩ := evaluateStatement_sample hpresence hsample hn
  obtain ⟨sampleRows, hrows, hall⟩ := hanswers results hresults
  have hrow : reconcileRelationalRow (some [("v", value)]) check =
      if n = 0 then verifiedOutput (checkEvidence check ++ [("orphanRowCount", intJson 0)])
      else
        output .inconsistent .orphanRowDetected
          (relationalMessage check ((JsNumber.int n).toText ++ " orphan row(s)"))
          (checkEvidence check ++ [("orphanRowCount", intJson n)]) := by
    have hread := scalarColumn_outcome hvalue
    obtain ⟨id, body⟩ := check
    cases body with
    | antiJoin =>
        obtain rfl := Option.some.inj hn
        rw [reconcileRelationalRow, hread]
        exact reconcileAntiJoin_count hvalue
    | relatedExists => cases hn
    | aggregate => cases hn
    | joinCount => cases hn
  by_cases hzero : n = 0
  · rw [if_pos hzero] at hrow
    refine ⟨reconcileRelationalRow (some [("v", value)]) check, ?_, hverified, ?_⟩
    · simp only [relationalRun, hquery, hsample, bind, Except.bind, List.head?_cons,
        Option.map_some, lowerRow_single hlower, hrow, orphansDetected_verified,
        Bool.false_eq_true, if_false]
    · intro m _ hfails
      refine absurd (hverified.mp ?_) hfails
      rw [hrow]
      rfl
  · rw [if_neg hzero] at hrow
    refine ⟨mergeAntiJoinSamples (reconcileRelationalRow (some [("v", value)]) check)
      (sampleJson texts sampleRows), ?_, hverified, ?_⟩
    · simp only [relationalRun, hquery, hsample, hrows, bind, Except.bind, List.head?_cons,
        Option.map_some, lowerRow_single hlower, hrow, orphansDetected_output, if_true]
    · intro m hm _
      obtain rfl : n = m := Option.some.inj (hn.symm.trans hm)
      rw [hrow]
      refine ⟨rfl, sampleRows.map fun row => rowJson (lowerRow texts row), ?_, ?_⟩
      · simp [mergeAntiJoinSamples, output, sampleJson]
      · rw [List.length_map, ← hall.length_eq, hlength]

theorem relationalRun_reported (hlower : texts.toLowerCase "v" = "v")
    (haskable : check.body.IsAskable) (hpresence : PresenceGiven tables check.body)
    (hquery : db.query statement = .ok [[("v", value)]])
    (hvalue : HandsOver (checkOutcome ops tables check.body) value)
    (hanswers : ∀ sample, buildAntiJoinSampleSql dialect check = some sample →
      AnswersBy db dialect ops tables sample) :
    ∃ out, relationalRun texts dialect db check statement = .ok out ∧
      CheckReported ops tables check out := by
  cases hsample : buildAntiJoinSampleSql dialect check with
  | some sample =>
      exact relationalRun_antiJoin hlower haskable hpresence hquery hvalue hsample
        (hanswers sample hsample)
  | none =>
      refine ⟨_, relationalRun_row hlower hquery hsample,
        reconcileRelationalRow_verified_iff haskable hvalue, ?_⟩
      intro n hn
      obtain ⟨id, body⟩ := check
      cases body with
      | antiJoin => cases hsample
      | relatedExists => cases hn
      | aggregate => cases hn
      | joinCount => cases hn

/-- A resolved check means its documented predicate.  Over tables of any rows, its statement
reads as a query with one row; that row, handed over as a number, verifies the check exactly
when the predicate holds, and a connection that evaluates the statements reports it so. -/
theorem relationalChecks_meanTheirPredicate {params : Json} {spec : SqlRelationalCheckSpec}
    {label : String} (hresolved : resolveSqlRelationalCheck params spec label = .ok check)
    (hmatch : spec.MatchGiven) (hpresence : PresenceGiven tables check.body)
    (hlower : texts.toLowerCase "v" = "v") (dialect : SqlRowDialect) :
    ∃ statement result, buildRelationalScalarSql dialect check = .ok statement ∧
      evaluateStatement dialect ops tables statement = some [result] ∧
      (∀ row, HandsOverRow result row →
        ((reconcileRelationalRow (some row) check).status = .verified ↔
          CheckHolds ops tables check.body)) ∧
      ∀ db, AnswersBy db dialect ops tables statement →
        (∀ sample, buildAntiJoinSampleSql dialect check = some sample →
          AnswersBy db dialect ops tables sample) →
        ∃ out, reconcileRelationalQuery texts dialect db check = .ok out ∧
          CheckReported ops tables check out := by
  have haskable := resolveSqlRelationalCheck_isAskable hresolved hmatch
  obtain ⟨statement, hstatement⟩ := @buildRelationalScalarSql_ok dialect check
    (resolveSqlRelationalCheck_sumColumn hresolved)
  have hresults := @evaluateStatement_scalar V ops tables dialect check haskable hpresence
    statement hstatement
  refine ⟨statement, _, hstatement, hresults, ?_, ?_⟩
  · intro row hrow
    obtain ⟨value, rfl, hvalue⟩ := handsOverRow_single hrow
    exact reconcileRelationalRow_verified_iff haskable hvalue
  · intro db hanswers hsamples
    obtain ⟨value, hquery, hvalue⟩ := answered_scalar hanswers hresults
    obtain ⟨out, hrun, hreported⟩ := relationalRun_reported hlower haskable hpresence hquery
      hvalue hsamples
    refine ⟨out, bind_eq_ok.mpr ⟨statement, hstatement, ?_⟩, hreported⟩
    rw [hrun]
    rfl

end Reconciled

/-! ## Orders without a payment -/

def textCells : CellOps String where
  equal a b := a == b
  equalText a b := a == b
  number _ := 0

/-- Four open orders have no payment: one of them has no id, and one is there twice. -/
def shopTables : SqlTables String
  | "orders" =>
      [fun | "id" => some "o1" | "status" => some "open" | _ => none,
        fun | "id" => some "o2" | "status" => some "open" | _ => none,
        fun | "id" => some "o2" | "status" => some "open" | _ => none,
        fun | "status" => some "open" | _ => none,
        fun | "id" => some "o3" | "status" => some "open" | _ => none,
        fun | "id" => some "o4" | _ => none]
  | "payments" =>
      [fun | "order_id" => some "o1" | "id" => some "p1" | _ => none,
        fun | "order_id" => some "o1" | "id" => some "p2" | _ => none,
        fun | "id" => some "p3" | _ => none]
  | _ => []

def unpaidSpec : SqlRelationalCheckSpec where
  id := "unpaid"
  body := .antiJoin
    { anchorTable := .const "orders"
      lookupTable := .const "payments"
      anchorColumn := .const "id"
      lookupColumn := .const "order_id"
      lookupPresenceColumn := .const "id"
      filterEqAnchor := some [⟨.const "status", .const (.str "open")⟩]
      filterEqLookup := none }

def unpaidCheck : ResolvedRelationalCheck where
  id := "unpaid"
  body := .antiJoin "orders" "payments" "id" "order_id" "id" [⟨"status", "open"⟩] []

def handOver : SqlOutcome String → JsValue
  | .number x => .json (.num (.int x.num))
  | .truth holds => .json (.bool holds)
  | .cell none => .json .null
  | .cell (some text) => .json (.str text)

/-- A connection that evaluates its statements. -/
def shopConnection : SqlConnection where
  query statement :=
    match evaluateStatement .sqlite textCells shopTables statement with
    | some results => .ok (results.map fun row => row.map fun c => (c.1, handOver c.2))
    | none => .error "near syntax error"

theorem forall₂_handOver {row : SqlResultRow String}
    (h : ∀ shown ∈ row, HandsOver shown.2 (handOver shown.2)) :
    HandsOverRow row (row.map fun shown => (shown.1, handOver shown.2)) := by
  rw [HandsOverRow, List.forall₂_map_right_iff, List.forall₂_same]
  exact fun shown hshown => ⟨rfl, h shown hshown⟩

/-- The connection hands over results that are integers or cells. -/
theorem shopConnection_answers {statement : SqlStatement}
    {results : List (SqlResultRow String)}
    (hresults : evaluateStatement .sqlite textCells shopTables statement = some results)
    (h : ∀ row ∈ results, ∀ shown ∈ row, HandsOver shown.2 (handOver shown.2)) :
    AnswersBy shopConnection .sqlite textCells shopTables statement := by
  intro found hfound
  obtain rfl : results = found := Option.some.inj (hresults.symm.trans hfound)
  refine ⟨results.map fun row => row.map fun shown => (shown.1, handOver shown.2), ?_, ?_⟩
  · simp only [shopConnection, hresults]
  · rw [List.forall₂_map_right_iff, List.forall₂_same]
    exact fun row hrow => forall₂_handOver (h row hrow)

theorem shopOrphans : (orphanRows textCells shopTables "orders" "payments" "id" "order_id"
    [⟨"status", "open"⟩] []).length = 4 := by decide

theorem shopPresence : PresenceGiven shopTables unpaidCheck.body := by
  intro lookup hlookup
  simp only [shopTables, List.mem_cons, List.not_mem_nil, or_false] at hlookup
  rcases hlookup with rfl | rfl | rfl
  · exact Option.some_ne_none "p1"
  · exact Option.some_ne_none "p2"
  · exact Option.some_ne_none "p3"

theorem shopOutcome : checkOutcome textCells shopTables unpaidCheck.body = .number 4 := by
  have hcount : checkOutcome textCells shopTables unpaidCheck.body =
      .number ((orphanRows textCells shopTables "orders" "payments" "id" "order_id"
        [⟨"status", "open"⟩] []).length : ℕ) := rfl
  rw [hcount, shopOrphans]
  norm_num

theorem unpaidCheck_reported : ∃ out,
    reconcileRelationalQuery ⟨id, fun _ _ => true⟩ .sqlite shopConnection unpaidCheck = .ok out ∧
      out.status = .inconsistent ∧
      ∃ sampleRows, out.evidenceSummary = checkEvidence unpaidCheck ++
          [("orphanRowCount", intJson 4), ("sampleRows", .arr sampleRows)] ∧
        sampleRows.length = 3 := by
  have haskable : unpaidCheck.body.IsAskable := trivial
  have hcells (x : Option String) : HandsOver (.cell x : SqlOutcome String) (handOver (.cell x)) := by
    rintro rfl
    rfl
  have hfour : HandsOver (.number 4 : SqlOutcome String) (handOver (.number 4)) :=
    ⟨.int 4, rfl, rfl, by norm_num [JsNumber.toRat]⟩
  obtain ⟨statement, result, hstatement, -, -, hreports⟩ :=
    @relationalChecks_meanTheirPredicate String textCells shopTables ⟨id, fun _ _ => true⟩
      unpaidCheck (.obj []) unpaidSpec "" rfl trivial shopPresence rfl .sqlite
  have hscalar : AnswersBy shopConnection .sqlite textCells shopTables statement := by
    apply shopConnection_answers (evaluateStatement_scalar haskable shopPresence hstatement)
    simp only [shopOutcome, List.mem_singleton, forall_eq]
    exact hfour
  have hsamples : ∀ sample, buildAntiJoinSampleSql .sqlite unpaidCheck = some sample →
      AnswersBy shopConnection .sqlite textCells shopTables sample := by
    intro sample hsample
    obtain ⟨query, hquery, hread⟩ := readStatement_sample hsample
    have hevaluate := @sampleQuery_evaluate String textCells shopTables "orders" "payments" "id"
      "order_id" "id" [⟨"status", "open"⟩] [] shopPresence query hquery
    have hresults : evaluateStatement .sqlite textCells shopTables sample =
        query.evaluate textCells shopTables := by
      rw [evaluateStatement, hread, Option.bind_eq_bind, Option.bind_some]
    apply shopConnection_answers (hresults.trans hevaluate)
    simp only [List.forall_mem_map]
    exact fun anchor _ column _ => hcells (anchor column)
  obtain ⟨out, hout, hreported⟩ := hreports shopConnection hscalar hsamples
  have hfails : ¬ CheckHolds textCells shopTables unpaidCheck.body := by
    intro hholds
    have hnil := congrArg List.length (orphanRows_eq_nil_iff.mpr hholds)
    rw [shopOrphans] at hnil
    cases hnil
  have hcount : orphanCount textCells shopTables unpaidCheck.body = some 4 :=
    congrArg some shopOrphans
  obtain ⟨hstatus, sampleRows, hevidence, hlength⟩ := hreported.orphans 4 hcount hfails
  exact ⟨out, hout, hstatus, sampleRows, hevidence, hlength⟩

end AgentSkeptic.Engine
