import AgentSkeptic.Engine.SqlStatements
import AgentSkeptic.Support.BoundStatements

/-!
# The statements bind their values in order

Each builder writes fixed words, delimited names and placeholders.  Read back under the
quoting of its dialect, a statement has the placeholders of its values in order, each in the
equality with the column of its value, and its names are those of the request
(`statements_bind`).
-/

namespace AgentSkeptic.Engine

open AgentSkeptic.Support

/-! ## Dialects -/

/-- The delimiters of `quoteIdent`. -/
def quoting : SqlRowDialect → Quoting
  | .mysql | .bigquery => ⟨backtick, backtick, by decide, by decide⟩
  | .mssql => ⟨'[', ']', by decide, by decide⟩
  | .sqlite | .postgresql => doubleQuotes

theorem quoteIdent_toList (dialect : SqlRowDialect) (id : String) :
    (quoteIdent dialect id).toList = quoteName (quoting dialect) id := by
  cases dialect <;> exact String.toList_ofList

/-- `?`, which has no number. -/
def questionMarks : PlaceholderStyle where
  text _ := ['?']
  number _ := none
  reads _ read _ := ⟨(.idle, .placeholder none :: read), rfl, rfl⟩

theorem sqlRun_wordChars (q : Quoting) {text : List Char}
    (htext : ∀ c ∈ text, isSqlWordChar c = true) (chars : List Char)
    (read : List SqlToken) :
    sqlRun q (.word chars, read) text = some (.word (text.reverse ++ chars), read) := by
  induction text generalizing chars with
  | nil => rfl
  | cons c text ih =>
      have hc : sqlStep q (.word chars, read) c = some (.word (c :: chars), read) :=
        if_pos (htext c List.mem_cons_self)
      rw [sqlRun_cons, hc, Option.bind_some, ih fun d h => htext d (List.mem_cons_of_mem _ h),
        List.reverse_cons, List.append_assoc]
      rfl

theorem digit_isSqlWordChar {n : ℕ} {c : Char} (h : c ∈ Nat.toDigits 10 n) :
    isSqlWordChar c = true := by
  have hdigit : c.isDigit = true := Nat.isDigit_of_mem_toDigits (by decide) (by decide) h
  simp [isSqlWordChar, Char.isAlphanum, hdigit]

theorem numberedToken_digits (chars : List Char) (n : ℕ) :
    numberedToken chars (Nat.toDigits 10 n) = .placeholder (some n) := by
  have hdigits : (Nat.toDigits 10 n).all Char.isDigit = true :=
    List.all_eq_true.mpr fun c h => Nat.isDigit_of_mem_toDigits (by decide) (by decide) h
  rw [numberedToken, if_pos ⟨Nat.toDigits_ne_nil, hdigits⟩, Nat.ofDigitChars_ten_toDigits]

/-- A word that starts a placeholder, and the number behind it. -/
theorem sqlRun_numbered (q : Quoting) (read : List SqlToken) (n : ℕ) {start : List Char}
    (hstart : sqlRun q (.idle, read) start = some (.word start.reverse, read))
    (hword : wordToken (start ++ Nat.toDigits 10 n) = .placeholder (some n)) :
    ∃ lexer, sqlRun q (.idle, read) (start ++ Nat.toDigits 10 n) = some lexer ∧
      flush lexer = some (.placeholder (some n) :: read) := by
  have hrun := sqlRun_wordChars q (fun _ => @digit_isSqlWordChar n _) start.reverse read
  refine ⟨(.word ((Nat.toDigits 10 n).reverse ++ start.reverse), read), ?_, ?_⟩
  · rw [sqlRun_append, hstart, Option.bind_some, hrun]
  · rw [flush, ← List.reverse_append, List.reverse_reverse, hword]

/-- `$` and the number. -/
def dollars : PlaceholderStyle where
  text n := ['$'] ++ Nat.toDigits 10 n
  number n := some n
  reads q read n := sqlRun_numbered q read n rfl (numberedToken_digits _ n)

/-- `@p` and the number. -/
def atNames : PlaceholderStyle where
  text n := ['@', 'p'] ++ Nat.toDigits 10 n
  number n := some n
  reads q read n := sqlRun_numbered q read n rfl (numberedToken_digits _ n)

def rowPlaceholders : SqlRowDialect → PlaceholderStyle
  | .postgresql => dollars
  | .bigquery => atNames
  | _ => questionMarks

def relationalPlaceholders : SqlRowDialect → PlaceholderStyle
  | .postgresql => dollars
  | .mssql => atNames
  | _ => questionMarks

theorem nextPlaceholderSqlRow_toList (dialect : SqlRowDialect) (n : ℕ) :
    (nextPlaceholderSqlRow dialect n).toList = (rowPlaceholders dialect).text n := by
  cases dialect <;> simp [nextPlaceholderSqlRow, rowPlaceholders, questionMarks, dollars,
    atNames]

theorem nextPlaceholderRelational_toList (dialect : SqlRowDialect) (n : ℕ) :
    (nextPlaceholderRelational dialect n).toList = (relationalPlaceholders dialect).text n := by
  cases dialect <;> simp [nextPlaceholderRelational, relationalPlaceholders, questionMarks,
    dollars, atNames]

/-- The words and symbols that statements are made of. -/
def sqlWords : List SqlToken :=
  ["SELECT", "EXISTS", "COUNT", "COALESCE", "SUM", "FROM", "AS", "LEFT", "INNER", "JOIN", "ON",
    "WHERE", "AND", "IS", "NULL", "LIMIT", "A", "L", "R", "v", "0", "1", "2", "3"].map .word ++
  ['(', ')', '*', ',', '.', '='].map .symbol

theorem sqlWords_fixed : sqlWords.all isFixed = true := by decide

/-- The segments of a table name. -/
def tablePath (dialect : SqlRowDialect) (table : String) : List String :=
  if dialect = .bigquery then
    if (table.splitOn ".").filter (· ≠ "") = [] then ["invalid"]
    else (table.splitOn ".").filter (· ≠ "")
  else [table]

theorem tablePath_ne_nil (dialect : SqlRowDialect) (table : String) :
    tablePath dialect table ≠ [] := by
  unfold tablePath
  split_ifs with hdialect hparts
  · exact List.cons_ne_nil _ _
  · exact hparts
  · exact List.cons_ne_nil _ _

theorem pathChars_eq_intercalate (q : Quoting) (path : List String) :
    pathChars q path = ['.'].intercalate (path.map (quoteName q)) := by
  induction path with
  | nil => rfl
  | cons id rest ih =>
      cases rest with
      | nil => simp [pathChars, List.intercalate_singleton]
      | cons next rest =>
          rw [pathChars, ih, List.map_cons, List.map_cons, List.map_cons,
            List.intercalate_cons_cons]
          simp

theorem tableExpr_toList (dialect : SqlRowDialect) (table : String) :
    (tableExprForRowDialect dialect table).toList =
      pathChars (quoting dialect) (tablePath dialect table) := by
  rw [tableExprForRowDialect, tablePath]
  split_ifs with hdialect hparts
  · subst hdialect
    rw [quoteBigQueryTableId, if_pos hparts]
    exact quoteIdent_toList .bigquery "invalid"
  · subst hdialect
    have hsegments (parts : List String) : (parts.map (quoteIdent .bigquery)).map String.toList =
        parts.map (quoteName (quoting .bigquery)) := by
      rw [List.map_map]
      exact List.map_congr_left fun id _ => quoteIdent_toList .bigquery id
    rw [quoteBigQueryTableId, if_neg hparts, String.toList_intercalate, hsegments,
      pathChars_eq_intercalate]
    rfl
  · exact quoteIdent_toList dialect table

/-! ## Statements and their parts -/

/-- A statement with its values, read under the quoting of its dialect: they are bound in
order to their columns, and the names are told apart from the words. -/
structure BindsValues (dialect : SqlRowDialect) (style : PlaceholderStyle)
    (names : List String) (bindings : List SqlBinding) (statement : SqlStatement) : Prop where
  values : statement.values = bindings.map SqlBinding.value
  reads : ∃ tokens, lexSql (quoting dialect) statement.text.toList = some tokens ∧
    Binds style sqlWords names bindings 1 tokens

/-- A statement whose text is that of parts. -/
theorem bindsValues_of_parts {dialect : SqlRowDialect} {style : PlaceholderStyle}
    {statement : SqlStatement} (parts : List SqlPart)
    (htext : statement.text.toList = render (quoting dialect) style 1 parts)
    (hspaced : spaced true parts = true) (hfixed : ∀ part ∈ parts, PartFixed sqlWords part)
    (hvalues : statement.values = (partBindings parts).map SqlBinding.value) :
    BindsValues dialect style (partNames parts) (partBindings parts) statement where
  values := hvalues
  reads := by
    rw [htext]
    exact lexSql_binds sqlWords_fixed (by decide) (by decide) hfixed hspaced

def pairBinding (owner : SqlOwner) (pair : IdentityEqPair) : SqlBinding :=
  ⟨owner, pair.column, pair.value⟩

theorem map_pairBinding_value (owner : SqlOwner) (pairs : List IdentityEqPair) :
    (pairs.map (pairBinding owner)).map SqlBinding.value = pairValues pairs := by
  rw [List.map_map]
  rfl

theorem equalityConds_toList {dialect : SqlRowDialect} {style : PlaceholderStyle}
    {owner : SqlOwner} {placeholder : ℕ → String} {ownerText : String}
    (hplaceholder : ∀ n, (placeholder n).toList = style.text n)
    (howner : ownerText.toList = ownerChars (quoting dialect) owner) (n : ℕ)
    (pairs : List IdentityEqPair) :
    (equalityConds dialect placeholder ownerText n pairs).map String.toList =
      renderAll (quoting dialect) style n (boundItems (pairBinding owner) pairs) := by
  rw [renderAll_boundItems, equalityConds, List.map_map]
  apply List.map_congr_left
  intro pair _
  simp [howner, hplaceholder, quoteIdent_toList, pairBinding]

theorem partFixed_text {chars : List Char}
    (h : ((textTokens chars).all fun token => decide (token ∈ sqlWords)) = true) :
    PartFixed sqlWords (.text (String.ofList chars)) := by
  intro token htoken
  rw [String.toList_ofList] at htoken
  exact of_decide_eq_true (List.all_eq_true.mp h token htoken)

theorem partFixed_tableBinding (path : List String) (pair : IdentityEqPair) :
    PartFixed sqlWords (pairBinding (.table path) pair).part := trivial

/-! ### Conditions -/

theorem and_fixed : PartFixed sqlWords (.text " AND ") := partFixed_text (by decide)

theorem and_separates : isSeparatorText [' ', 'A', 'N', 'D', ' '] = true := by decide

/-- Conditions on the columns of a table. -/
def tableConds (path : List String) (pairs : List IdentityEqPair) : List SqlPart :=
  joinedParts " AND " (boundItems (pairBinding (.table path)) pairs)

theorem partBindings_tableConds (path : List String) (pairs : List IdentityEqPair) :
    partBindings (tableConds path pairs) = pairs.map (pairBinding (.table path)) := by
  rw [tableConds, partBindings_joinedParts, partBindings_boundItems]

theorem partNames_tableConds (path : List String) (pairs : List IdentityEqPair) :
    partNames (tableConds path pairs) = pairs.flatMap fun pair => path ++ [pair.column] := by
  rw [tableConds, partNames_joinedParts, partNames_boundItems]
  rfl

theorem partFixed_tableConds (path : List String) (pairs : List IdentityEqPair) :
    ∀ part ∈ tableConds path pairs, PartFixed sqlWords part :=
  partFixed_joinedParts and_fixed (partFixed_boundItems (partFixed_tableBinding path) pairs)

theorem spaced_tableConds {path : List String} (hne : path ≠ []) (pairs : List IdentityEqPair)
    {rest : List SqlPart} (hrest : spaced false rest = true) :
    spaced true (tableConds path pairs ++ rest) = true := by
  have howner : ∀ pair, isSpacedOwner (pairBinding (.table path) pair).owner = true :=
    fun _ => decide_eq_true hne
  exact spaced_joinedParts and_separates (isItem_boundItems howner pairs) hrest

theorem render_tableConds {dialect : SqlRowDialect} {style : PlaceholderStyle}
    {placeholder : ℕ → String} {ownerText : String} {path : List String}
    (hplaceholder : ∀ n, (placeholder n).toList = style.text n)
    (howner : ownerText.toList = pathChars (quoting dialect) path) (n : ℕ)
    (pairs : List IdentityEqPair) :
    render (quoting dialect) style n (tableConds path pairs) =
      (" AND ".intercalate (equalityConds dialect placeholder ownerText n pairs)).toList := by
  rw [tableConds, render_joinedParts, String.toList_intercalate,
    @equalityConds_toList dialect style (.table path) placeholder ownerText hplaceholder howner]

/-! ### Rows -/

/-- The parts of the statement that reads rows by their identity. -/
def selectParts (table : String) (pairs : List IdentityEqPair) : List SqlPart :=
  .text "SELECT * FROM " :: .names [table] :: .text " WHERE " ::
    (tableConds [table] pairs ++ [.text " LIMIT 2"])

theorem selectText_eq (dialect : SqlRowDialect) (req : VerificationRequest) :
    (buildSelectByIdentitySql dialect req).text =
      "SELECT * FROM " ++ quoteIdent dialect req.table ++ " WHERE " ++
        " AND ".intercalate (equalityConds dialect (nextPlaceholderSqlRow dialect)
          (quoteIdent dialect req.table) 1 req.identityEq) ++ " LIMIT 2" := rfl

theorem buildSelectByIdentitySql_binds (dialect : SqlRowDialect) (req : VerificationRequest) :
    BindsValues dialect (rowPlaceholders dialect)
      (req.table :: req.identityEq.flatMap fun pair => [req.table, pair.column])
      (req.identityEq.map (pairBinding (.table [req.table])))
      (buildSelectByIdentitySql dialect req) := by
  have hbindings : partBindings (selectParts req.table req.identityEq) =
      req.identityEq.map (pairBinding (.table [req.table])) := by
    simp [selectParts, partBindings, partBindings_append, partBindings_tableConds]
  have hnames : partNames (selectParts req.table req.identityEq) =
      req.table :: req.identityEq.flatMap fun pair => [req.table, pair.column] := by
    simp [selectParts, partNames, partNames_append, partNames_tableConds]
  rw [← hbindings, ← hnames]
  apply bindsValues_of_parts
  · have hconds (n : ℕ) := @render_tableConds dialect _ _ _ [req.table]
      (nextPlaceholderSqlRow_toList dialect) (quoteIdent_toList dialect req.table) n
      req.identityEq
    rw [selectText_eq]
    simp [selectParts, render, render_append, hconds, quoteIdent_toList, pathChars]
  · apply spaced_text (by decide)
    apply spaced_names (List.cons_ne_nil _ _)
    apply spaced_separator (by decide)
    exact spaced_tableConds (List.cons_ne_nil _ _) _ (spaced_word (by decide) rfl)
  · simp only [selectParts, List.forall_mem_cons, List.forall_mem_append]
    refine ⟨partFixed_text (by decide), trivial, partFixed_text (by decide),
      partFixed_tableConds _ _, partFixed_text (by decide), by simp⟩
  · rw [hbindings, map_pairBinding_value]
    rfl

theorem sampleLimit : Nat.toDigits 10 maxVerificationSampleRows = ['3'] := by decide

/-- The names of a table's columns. -/
def columnItems (path columns : List String) : List (List SqlPart) :=
  columns.map fun column => [.names (path ++ [column])]

def countParts (path : List String) (pairs : List IdentityEqPair) : List SqlPart :=
  .text "SELECT COUNT(*) AS v FROM " :: .names path :: .text " WHERE " :: tableConds path pairs

def sampleParts (path columns : List String) (pairs : List IdentityEqPair) : List SqlPart :=
  .text "SELECT " :: (joinedParts ", " (columnItems path columns) ++
    (.text " FROM " :: .names path :: .text " WHERE " ::
      (tableConds path pairs ++ [.text " LIMIT 3"])))

theorem columnItems_free (path columns : List String) :
    (columnItems path columns).flatMap partBindings = [] := by
  rw [columnItems, List.flatMap_map]
  exact List.flatMap_eq_nil_iff.mpr fun _ _ => rfl

theorem columnItems_names (path columns : List String) :
    (columnItems path columns).flatMap partNames =
      columns.flatMap fun column => path ++ [column] := by
  rw [columnItems, List.flatMap_map]
  simp [partNames]

theorem render_columnItems {dialect : SqlRowDialect} {style : PlaceholderStyle}
    {path : List String} {tableText : String} (hne : path ≠ [])
    (htable : tableText.toList = pathChars (quoting dialect) path) (n : ℕ)
    (columns : List String) :
    render (quoting dialect) style n (joinedParts ", " (columnItems path columns)) =
      (", ".intercalate
        (columns.map fun c => tableText ++ "." ++ quoteIdent dialect c)).toList := by
  have hall := @renderAll_free (quoting dialect) style String
    (fun column => [.names (path ++ [column])])
    (fun column => pathChars (quoting dialect) path ++ '.' :: quoteName (quoting dialect) column)
    (fun _ => rfl) (fun column n => by simp [render, pathChars_snoc hne]) columns n
  rw [render_joinedParts, columnItems, hall, String.toList_intercalate, List.map_map]
  congr 1
  apply List.map_congr_left
  intro column _
  simp [htable, quoteIdent_toList]

section RowAbsent

variable (dialect : SqlRowDialect) (req : RowAbsentVerificationRequest)

/-- The identity and the filter of a request, on the columns of its table. -/
def absentBindings : List SqlBinding :=
  (req.identityEq ++ req.filterEq).map (pairBinding (.table (tablePath dialect req.table)))

/-- The names in the conditions, each column with its table. -/
def absentCondNames : List String :=
  (req.identityEq ++ req.filterEq).flatMap fun pair =>
    tablePath dialect req.table ++ [pair.column]

/-- The columns that are shown of a row. -/
def absentColumns : List String :=
  sortedColumns ((req.identityEq ++ req.filterEq).map IdentityEqPair.column)

/-- The conditions of both statements. -/
def absentConds : List String :=
  equalityConds dialect (nextPlaceholderSqlRow dialect) (tableExprForRowDialect dialect req.table)
    1 (req.identityEq ++ req.filterEq)

theorem countSql_eq :
    (buildRowAbsentSqlPlan dialect req).countSql =
      "SELECT COUNT(*) AS v FROM " ++ tableExprForRowDialect dialect req.table ++ " WHERE " ++
        " AND ".intercalate (absentConds dialect req) := rfl

theorem sampleSql_eq :
    (buildRowAbsentSqlPlan dialect req).sampleSql =
      "SELECT " ++ ", ".intercalate ((absentColumns req).map fun c =>
          tableExprForRowDialect dialect req.table ++ "." ++ quoteIdent dialect c) ++
        " FROM " ++ tableExprForRowDialect dialect req.table ++ " WHERE " ++
        " AND ".intercalate (absentConds dialect req) ++ " LIMIT " ++
        toString maxVerificationSampleRows := rfl

theorem render_absentConds :
    render (quoting dialect) (rowPlaceholders dialect) 1
        (tableConds (tablePath dialect req.table) (req.identityEq ++ req.filterEq)) =
      (" AND ".intercalate (absentConds dialect req)).toList :=
  render_tableConds (nextPlaceholderSqlRow_toList dialect) (tableExpr_toList dialect req.table) 1
    (req.identityEq ++ req.filterEq)

theorem countSql_binds :
    BindsValues dialect (rowPlaceholders dialect)
      (tablePath dialect req.table ++ absentCondNames dialect req) (absentBindings dialect req)
      ⟨(buildRowAbsentSqlPlan dialect req).countSql,
        (buildRowAbsentSqlPlan dialect req).values⟩ := by
  have hne := tablePath_ne_nil dialect req.table
  have hbindings : partBindings (countParts (tablePath dialect req.table)
      (req.identityEq ++ req.filterEq)) = absentBindings dialect req := by
    simp only [countParts, partBindings, partBindings_tableConds]
    rfl
  have hnames : partNames (countParts (tablePath dialect req.table)
      (req.identityEq ++ req.filterEq)) =
        tablePath dialect req.table ++ absentCondNames dialect req := by
    simp only [countParts, partNames, partNames_tableConds]
    rfl
  rw [← hbindings, ← hnames]
  apply bindsValues_of_parts
  · rw [countSql_eq]
    simp only [countParts, render, render_absentConds, String.toList_append, tableExpr_toList,
      List.append_assoc]
  · apply spaced_text (by decide)
    apply spaced_names hne
    apply spaced_separator (by decide)
    rw [← List.append_nil (tableConds _ _)]
    exact spaced_tableConds hne _ rfl
  · simp only [countParts, List.forall_mem_cons]
    exact ⟨partFixed_text (by decide), trivial, partFixed_text (by decide),
      partFixed_tableConds _ _⟩
  · rw [hbindings, absentBindings, map_pairBinding_value]
    rfl

theorem sampleSql_binds :
    BindsValues dialect (rowPlaceholders dialect)
      ((absentColumns req).flatMap (fun column => tablePath dialect req.table ++ [column]) ++
        tablePath dialect req.table ++ absentCondNames dialect req)
      (absentBindings dialect req)
      ⟨(buildRowAbsentSqlPlan dialect req).sampleSql,
        (buildRowAbsentSqlPlan dialect req).values⟩ := by
  have hne := tablePath_ne_nil dialect req.table
  have hbindings : partBindings (sampleParts (tablePath dialect req.table) (absentColumns req)
      (req.identityEq ++ req.filterEq)) = absentBindings dialect req := by
    simp [sampleParts, partBindings, partBindings_append, partBindings_joinedParts,
      columnItems_free, partBindings_tableConds, absentBindings]
  have hnames : partNames (sampleParts (tablePath dialect req.table) (absentColumns req)
      (req.identityEq ++ req.filterEq)) =
        (absentColumns req).flatMap (fun column => tablePath dialect req.table ++ [column]) ++
          tablePath dialect req.table ++ absentCondNames dialect req := by
    simp [sampleParts, partNames, partNames_append, partNames_joinedParts, columnItems_names,
      partNames_tableConds, absentCondNames]
  rw [← hbindings, ← hnames]
  apply bindsValues_of_parts
  · have hcolumns := @render_columnItems dialect (rowPlaceholders dialect) _ _ hne
      (tableExpr_toList dialect req.table) 1 (absentColumns req)
    have hfree : partBindings (joinedParts ", "
        (columnItems (tablePath dialect req.table) (absentColumns req))) = [] := by
      rw [partBindings_joinedParts, columnItems_free]
    rw [sampleSql_eq]
    simp [sampleParts, render, render_append, render_absentConds, hcolumns, hfree,
      tableExpr_toList, sampleLimit]
  · apply spaced_text (by decide)
    have hitems : ∀ item ∈ columnItems (tablePath dialect req.table) (absentColumns req),
        IsItem item := by
      intro item hitem
      obtain ⟨column, -, rfl⟩ := List.mem_map.mp hitem
      exact isItem_names (by simp)
    apply spaced_joinedParts (by decide) hitems
    apply spaced_separator (by decide)
    apply spaced_names hne
    apply spaced_separator (by decide)
    exact spaced_tableConds hne _ (spaced_word (by decide) rfl)
  · simp only [sampleParts, List.forall_mem_cons, List.forall_mem_append]
    refine ⟨partFixed_text (by decide), ?_, partFixed_text (by decide), trivial,
      partFixed_text (by decide), partFixed_tableConds _ _,
      partFixed_text (by decide), by simp⟩
    apply partFixed_joinedParts (partFixed_text (by decide))
    intro item hitem part hpart
    obtain ⟨column, -, rfl⟩ := List.mem_map.mp hitem
    obtain rfl := List.mem_singleton.mp hpart
    trivial
  · rw [hbindings, absentBindings, map_pairBinding_value]
    rfl

end RowAbsent

/-! ### Relational checks -/

def existsParts (childTable : String) (pairs : List IdentityEqPair) : List SqlPart :=
  .text "SELECT EXISTS (SELECT 1 FROM " :: .names [childTable] :: .text " WHERE " ::
    (tableConds [childTable] pairs ++ [.text " LIMIT 1) AS v"])

/-- Conditions behind a statement, if there are any. -/
def whereParts (parts conds : List SqlPart) : List SqlPart :=
  if conds = [] then parts else parts ++ .text " WHERE " :: conds

/-- What an aggregate selects, of which table. -/
def aggregateParts (table : String) : Option String → List SqlPart
  | none => [.text "SELECT COUNT(*) AS v FROM ", .names [table]]
  | some column =>
      [.text "SELECT COALESCE(SUM(", .names [column], .text "), 0) AS v FROM ", .names [table]]

/-- The join of an anti join: the lookup's filters, then the anchor's. -/
def antiJoinParts (anchorTable lookupTable anchorColumn lookupColumn presence : String)
    (filterEqAnchor filterEqLookup : List IdentityEqPair) : List SqlPart :=
  .text " FROM " :: .names [anchorTable] :: .text " AS A LEFT JOIN " :: .names [lookupTable] ::
    .text " AS L ON " :: (joinedParts " AND "
      ([.text "A.", .names [anchorColumn], .text " = L.", .names [lookupColumn]] ::
        boundItems (pairBinding (.correlation "L")) filterEqLookup) ++
    .text " WHERE " :: joinedParts " AND "
      ([.text "L.", .names [presence], .text " IS NULL"] ::
        boundItems (pairBinding (.correlation "A")) filterEqAnchor))

def joinBinding (pair : JoinEqPair) : SqlBinding :=
  ⟨.correlation (joinAlias pair.side), pair.column, pair.value⟩

def joinCountParts (leftTable rightTable leftJoinColumn rightJoinColumn : String) :
    List SqlPart :=
  [.text "SELECT COUNT(*) AS v FROM ", .names [leftTable], .text " AS L INNER JOIN ",
    .names [rightTable], .text " AS R ON L.", .names [leftJoinColumn], .text " = R.",
    .names [rightJoinColumn]]

/-- What a check binds, in the order of the statement. -/
def checkBindings (check : ResolvedRelationalCheck) : List SqlBinding :=
  match check.body with
  | .relatedExists childTable matchEq => matchEq.map (pairBinding (.table [childTable]))
  | .antiJoin _ _ _ _ _ filterEqAnchor filterEqLookup =>
      filterEqLookup.map (pairBinding (.correlation "L")) ++
        filterEqAnchor.map (pairBinding (.correlation "A"))
  | .aggregate table _ _ whereEq _ _ => whereEq.map (pairBinding (.table [table]))
  | .joinCount _ _ _ _ whereEq _ _ => whereEq.map joinBinding

/-- The names of a check, in the order of the statement. -/
def checkNames (check : ResolvedRelationalCheck) : List String :=
  match check.body with
  | .relatedExists childTable matchEq =>
      childTable :: matchEq.flatMap fun pair => [childTable, pair.column]
  | .antiJoin anchorTable lookupTable anchorColumn lookupColumn presence filterEqAnchor
      filterEqLookup =>
      [anchorTable, lookupTable, anchorColumn, lookupColumn] ++
        filterEqLookup.map IdentityEqPair.column ++
          presence :: filterEqAnchor.map IdentityEqPair.column
  | .aggregate table fn sumColumn whereEq _ _ =>
      (if fn = .sum then sumColumn.toList else []) ++
        table :: whereEq.flatMap fun pair => [table, pair.column]
  | .joinCount leftTable rightTable leftJoinColumn rightJoinColumn whereEq _ _ =>
      [leftTable, rightTable, leftJoinColumn, rightJoinColumn] ++
        whereEq.map JoinEqPair.column

/-- The parts of a check's statement. -/
def checkParts (check : ResolvedRelationalCheck) : List SqlPart :=
  match check.body with
  | .relatedExists childTable matchEq => existsParts childTable matchEq
  | .antiJoin anchorTable lookupTable anchorColumn lookupColumn presence filterEqAnchor
      filterEqLookup =>
      .text "SELECT COUNT(*) AS v" :: antiJoinParts anchorTable lookupTable anchorColumn
        lookupColumn presence filterEqAnchor filterEqLookup
  | .aggregate table fn sumColumn whereEq _ _ =>
      whereParts (aggregateParts table (if fn = .sum then sumColumn else none))
        (tableConds [table] whereEq)
  | .joinCount leftTable rightTable leftJoinColumn rightJoinColumn whereEq _ _ =>
      whereParts (joinCountParts leftTable rightTable leftJoinColumn rightJoinColumn)
        (joinedParts " AND " (boundItems joinBinding whereEq))

theorem partBindings_whereParts {parts : List SqlPart} (hparts : partBindings parts = [])
    (conds : List SqlPart) : partBindings (whereParts parts conds) = partBindings conds := by
  unfold whereParts
  split_ifs with hconds
  · rw [hparts, hconds]
    rfl
  · rw [partBindings_append, hparts]
    rfl

theorem partNames_whereParts (parts conds : List SqlPart) :
    partNames (whereParts parts conds) = partNames parts ++ partNames conds := by
  unfold whereParts
  split_ifs with hconds
  · rw [hconds, partNames, List.append_nil]
  · rw [partNames_append]
    rfl

theorem partBindings_antiJoinParts (anchorTable lookupTable anchorColumn lookupColumn
    presence : String) (filterEqAnchor filterEqLookup : List IdentityEqPair) :
    partBindings (antiJoinParts anchorTable lookupTable anchorColumn lookupColumn presence
        filterEqAnchor filterEqLookup) =
      filterEqLookup.map (pairBinding (.correlation "L")) ++
        filterEqAnchor.map (pairBinding (.correlation "A")) := by
  simp [antiJoinParts, partBindings, partBindings_append, partBindings_joinedParts,
    partBindings_boundItems]

theorem partBindings_checkParts (check : ResolvedRelationalCheck) :
    partBindings (checkParts check) = checkBindings check := by
  obtain ⟨id, body⟩ := check
  cases body with
  | relatedExists childTable matchEq =>
      simp [checkParts, checkBindings, existsParts, partBindings, partBindings_append,
        partBindings_tableConds]
  | antiJoin => simp [checkParts, checkBindings, partBindings, partBindings_antiJoinParts]
  | aggregate table fn sumColumn whereEq op value =>
      have hselect : ∀ column, partBindings (aggregateParts table column) = [] := by
        rintro (_ | _) <;> rfl
      exact (partBindings_whereParts (hselect _) _).trans (partBindings_tableConds _ _)
  | joinCount leftTable rightTable leftJoinColumn rightJoinColumn whereEq op value =>
      simp only [checkParts, checkBindings]
      rw [partBindings_whereParts rfl, partBindings_joinedParts, partBindings_boundItems]

theorem partNames_antiJoinParts (anchorTable lookupTable anchorColumn lookupColumn
    presence : String) (filterEqAnchor filterEqLookup : List IdentityEqPair) :
    partNames (antiJoinParts anchorTable lookupTable anchorColumn lookupColumn presence
        filterEqAnchor filterEqLookup) =
      [anchorTable, lookupTable, anchorColumn, lookupColumn] ++
        filterEqLookup.map IdentityEqPair.column ++
          presence :: filterEqAnchor.map IdentityEqPair.column := by
  simp [antiJoinParts, partNames, partNames_append, partNames_joinedParts, partNames_boundItems,
    ownerNames, pairBinding, List.map_eq_flatMap]

theorem partNames_checkParts (check : ResolvedRelationalCheck) :
    partNames (checkParts check) = checkNames check := by
  obtain ⟨id, body⟩ := check
  cases body with
  | relatedExists childTable matchEq =>
      simp [checkParts, checkNames, existsParts, partNames, partNames_append,
        partNames_tableConds]
  | antiJoin => simp [checkParts, checkNames, partNames, partNames_antiJoinParts]
  | aggregate table fn sumColumn whereEq op value =>
      have hselect : ∀ column : Option String,
          partNames (aggregateParts table column) = column.toList ++ [table] := by
        rintro (_ | _) <;> rfl
      simp only [checkParts, checkNames]
      rw [partNames_whereParts, hselect, partNames_tableConds]
      split_ifs <;> simp
  | joinCount leftTable rightTable leftJoinColumn rightJoinColumn whereEq op value =>
      simp only [checkParts, checkNames]
      rw [partNames_whereParts, partNames_joinedParts, partNames_boundItems]
      simp [joinCountParts, partNames, joinBinding, ownerNames, List.map_eq_flatMap]

/-! Fixed words of the parts. -/

theorem partFixed_correlation {name : List Char}
    (h : ((textTokens name).all fun token => decide (token ∈ sqlWords)) = true)
    (column value : String) :
    PartFixed sqlWords (.bound (.correlation (String.ofList name)) column value) := by
  intro token htoken
  rw [String.toList_ofList] at htoken
  exact of_decide_eq_true (List.all_eq_true.mp h token htoken)

theorem partFixed_whereParts {parts conds : List SqlPart}
    (hparts : ∀ part ∈ parts, PartFixed sqlWords part)
    (hconds : ∀ part ∈ conds, PartFixed sqlWords part) :
    ∀ part ∈ whereParts parts conds, PartFixed sqlWords part := by
  unfold whereParts
  split_ifs with h
  · exact hparts
  · rw [List.forall_mem_append, List.forall_mem_cons]
    exact ⟨hparts, partFixed_text (by decide), hconds⟩

theorem partFixed_antiJoinParts (anchorTable lookupTable anchorColumn lookupColumn
    presence : String) (filterEqAnchor filterEqLookup : List IdentityEqPair) :
    ∀ part ∈ antiJoinParts anchorTable lookupTable anchorColumn lookupColumn presence
      filterEqAnchor filterEqLookup, PartFixed sqlWords part := by
  have hpairs {name : String}
      (hname : ∀ column value, PartFixed sqlWords (.bound (.correlation name) column value))
      {first : List SqlPart} (hfirst : ∀ part ∈ first, PartFixed sqlWords part)
      (pairs : List IdentityEqPair) :
      ∀ part ∈ joinedParts " AND "
          (first :: boundItems (pairBinding (.correlation name)) pairs),
        PartFixed sqlWords part := by
    apply partFixed_joinedParts and_fixed
    rw [List.forall_mem_cons]
    exact ⟨hfirst, partFixed_boundItems (fun pair => hname _ _) pairs⟩
  have hon : ∀ part ∈ [.text "A.", .names [anchorColumn], .text " = L.",
      .names [lookupColumn]], PartFixed sqlWords part := by
    simp only [List.forall_mem_cons]
    exact ⟨partFixed_text (by decide), trivial, partFixed_text (by decide),
      trivial, by simp⟩
  have hwhere : ∀ part ∈ [.text "L.", .names [presence], .text " IS NULL"],
      PartFixed sqlWords part := by
    simp only [List.forall_mem_cons]
    exact ⟨partFixed_text (by decide), trivial, partFixed_text (by decide),
      by simp⟩
  simp only [antiJoinParts, List.forall_mem_cons, List.forall_mem_append]
  exact ⟨partFixed_text (by decide), trivial, partFixed_text (by decide), trivial,
    partFixed_text (by decide),
    hpairs (partFixed_correlation (by decide)) hon filterEqLookup,
    partFixed_text (by decide),
    hpairs (partFixed_correlation (by decide)) hwhere filterEqAnchor⟩

theorem partFixed_checkParts (check : ResolvedRelationalCheck) :
    ∀ part ∈ checkParts check, PartFixed sqlWords part := by
  obtain ⟨id, body⟩ := check
  cases body with
  | relatedExists childTable matchEq =>
      simp only [checkParts, existsParts, List.forall_mem_cons, List.forall_mem_append]
      exact ⟨partFixed_text (by decide), trivial, partFixed_text (by decide),
        partFixed_tableConds _ _, partFixed_text (by decide), by simp⟩
  | antiJoin =>
      simp only [checkParts, List.forall_mem_cons]
      exact ⟨partFixed_text (by decide), partFixed_antiJoinParts _ _ _ _ _ _ _⟩
  | aggregate table fn sumColumn whereEq op value =>
      have hselect : ∀ column, ∀ part ∈ aggregateParts table column,
          PartFixed sqlWords part := by
        rintro (_ | column)
        · simp only [aggregateParts, List.forall_mem_cons]
          exact ⟨partFixed_text (by decide), trivial, by simp⟩
        · simp only [aggregateParts, List.forall_mem_cons]
          exact ⟨partFixed_text (by decide), trivial, partFixed_text (by decide),
            trivial, by simp⟩
      exact partFixed_whereParts (hselect _) (partFixed_tableConds _ _)
  | joinCount leftTable rightTable leftJoinColumn rightJoinColumn whereEq op value =>
      have hbase : ∀ part ∈ joinCountParts leftTable rightTable leftJoinColumn rightJoinColumn,
          PartFixed sqlWords part := by
        simp only [joinCountParts, List.forall_mem_cons]
        exact ⟨partFixed_text (by decide), trivial, partFixed_text (by decide),
          trivial, partFixed_text (by decide), trivial,
          partFixed_text (by decide), trivial, by simp⟩
      have hpair : ∀ pair, PartFixed sqlWords (joinBinding pair).part := by
        intro pair
        unfold joinBinding
        cases pair.side with
        | left => exact partFixed_correlation (by decide) _ _
        | right => exact partFixed_correlation (by decide) _ _
      exact partFixed_whereParts hbase
        (partFixed_joinedParts and_fixed (partFixed_boundItems hpair whereEq))

/-! Spacing of the parts. -/

theorem spaced_whereParts {parts conds : List SqlPart} (hparts : IsItem parts)
    (hconds : spaced true conds = true) : spaced true (whereParts parts conds) = true := by
  unfold whereParts
  split_ifs with h
  · have hempty := hparts [] rfl
    rw [List.append_nil] at hempty
    exact hempty
  · exact hparts _ (spaced_separator (by decide) hconds)

theorem spaced_antiJoinParts (anchorTable lookupTable anchorColumn lookupColumn
    presence : String) (filterEqAnchor filterEqLookup : List IdentityEqPair)
    {rest : List SqlPart} (hrest : spaced false rest = true) :
    spaced false (antiJoinParts anchorTable lookupTable anchorColumn lookupColumn presence
      filterEqAnchor filterEqLookup ++ rest) = true := by
  have hconds {name : String} (hname : isSpacedOwner (.correlation name) = true)
      {first : List SqlPart} (hfirst : IsItem first) (pairs : List IdentityEqPair)
      {rest : List SqlPart} (hrest : spaced false rest = true) :
      spaced true (joinedParts " AND "
        (first :: boundItems (pairBinding (.correlation name)) pairs) ++ rest) = true := by
    apply spaced_joinedParts and_separates _ hrest
    rw [List.forall_mem_cons]
    exact ⟨hfirst, isItem_boundItems (fun _ => hname) pairs⟩
  have hon : IsItem [.text "A.", .names [anchorColumn], .text " = L.",
      .names [lookupColumn]] := by
    intro rest hrest
    apply spaced_text (by decide)
    apply spaced_names (List.cons_ne_nil _ _)
    apply spaced_separator (by decide)
    exact spaced_names (List.cons_ne_nil _ _) hrest
  have hwhere : IsItem [.text "L.", .names [presence], .text " IS NULL"] := by
    intro rest hrest
    apply spaced_text (by decide)
    apply spaced_names (List.cons_ne_nil _ _)
    exact spaced_word (by decide) hrest
  simp only [antiJoinParts, List.cons_append, List.append_assoc]
  apply spaced_separator (by decide)
  apply spaced_names (List.cons_ne_nil _ _)
  apply spaced_separator (by decide)
  apply spaced_names (List.cons_ne_nil _ _)
  apply spaced_separator (by decide)
  apply hconds (by decide) hon
  apply spaced_separator (by decide)
  exact hconds (by decide) hwhere filterEqAnchor hrest

theorem spaced_checkParts (check : ResolvedRelationalCheck) :
    spaced true (checkParts check) = true := by
  obtain ⟨id, body⟩ := check
  cases body with
  | relatedExists childTable matchEq =>
      apply spaced_text (by decide)
      apply spaced_names (List.cons_ne_nil _ _)
      apply spaced_separator (by decide)
      exact spaced_tableConds (List.cons_ne_nil _ _) _ (spaced_word (by decide) rfl)
  | antiJoin anchorTable lookupTable anchorColumn lookupColumn presence filterEqAnchor
      filterEqLookup =>
      have hjoin := @spaced_antiJoinParts anchorTable lookupTable anchorColumn lookupColumn
        presence filterEqAnchor filterEqLookup [] rfl
      rw [List.append_nil] at hjoin
      exact spaced_firstWord (by decide) hjoin
  | aggregate table fn sumColumn whereEq op value =>
      have hselect : ∀ column, IsItem (aggregateParts table column) := by
        rintro (_ | column) rest hrest
        · apply spaced_text (by decide)
          exact spaced_names (List.cons_ne_nil _ _) hrest
        · apply spaced_text (by decide)
          apply spaced_names (List.cons_ne_nil _ _)
          apply spaced_separator (by decide)
          exact spaced_names (List.cons_ne_nil _ _) hrest
      have hconds := @spaced_tableConds [table] (List.cons_ne_nil _ _) whereEq [] rfl
      rw [List.append_nil] at hconds
      exact spaced_whereParts (hselect _) hconds
  | joinCount leftTable rightTable leftJoinColumn rightJoinColumn whereEq op value =>
      have hbase : IsItem (joinCountParts leftTable rightTable leftJoinColumn
          rightJoinColumn) := by
        intro rest hrest
        apply spaced_text (by decide)
        apply spaced_names (List.cons_ne_nil _ _)
        apply spaced_separator (by decide)
        apply spaced_names (List.cons_ne_nil _ _)
        apply spaced_separator (by decide)
        apply spaced_names (List.cons_ne_nil _ _)
        apply spaced_separator (by decide)
        exact spaced_names (List.cons_ne_nil _ _) hrest
      have halias : ∀ side, isSpacedOwner (.correlation (joinAlias side)) = true := by
        rintro (_ | _)
        · decide
        · decide
      have howner : ∀ pair, isSpacedOwner (joinBinding pair).owner = true :=
        fun pair => halias pair.side
      have hconds := @spaced_joinedParts _ _ and_separates
        (isItem_boundItems howner whereEq) [] rfl
      rw [List.append_nil] at hconds
      exact spaced_whereParts hbase hconds

/-! Texts of the parts. -/

section Texts

variable {dialect : SqlRowDialect} {style : PlaceholderStyle}

theorem render_whereParts {parts condParts : List SqlPart} {text : String}
    {conds : List String} (hparts : render (quoting dialect) style 1 parts = text.toList)
    (hfree : partBindings parts = []) (hempty : condParts = [] ↔ conds = [])
    (hconds : render (quoting dialect) style 1 condParts =
      (" AND ".intercalate conds).toList) :
    render (quoting dialect) style 1 (whereParts parts condParts) =
      (withConds text conds).toList := by
  rw [whereParts, withConds]
  by_cases h : condParts = []
  · rw [if_pos h, if_pos (hempty.mp h), hparts]
  · rw [if_neg h, if_neg fun hnil => h (hempty.mpr hnil), render_append, hfree, hparts]
    simp [render, hconds]

/-- A condition without a value before the equalities. -/
theorem render_firstCond {placeholder : ℕ → String} {owner : SqlOwner} {ownerText : String}
    (hplaceholder : ∀ n, (placeholder n).toList = style.text n)
    (howner : ownerText.toList = ownerChars (quoting dialect) owner)
    {first : List SqlPart} {firstText : String} (n : ℕ)
    (hfirst : render (quoting dialect) style n first = firstText.toList)
    (hfree : partBindings first = []) (pairs : List IdentityEqPair) :
    render (quoting dialect) style n
        (joinedParts " AND " (first :: boundItems (pairBinding owner) pairs)) =
      (" AND ".intercalate
        (firstText :: equalityConds dialect placeholder ownerText n pairs)).toList := by
  have hpairs := @equalityConds_toList dialect style owner placeholder ownerText hplaceholder
    howner n pairs
  rw [render_joinedParts, String.toList_intercalate, List.map_cons, hpairs, renderAll, hfirst,
    hfree]
  rfl

theorem render_antiJoinParts (anchorTable lookupTable anchorColumn lookupColumn
    presence : String) (filterEqAnchor filterEqLookup : List IdentityEqPair) :
    render (quoting dialect) (relationalPlaceholders dialect) 1
        (antiJoinParts anchorTable lookupTable anchorColumn lookupColumn presence filterEqAnchor
          filterEqLookup) =
      (antiJoinFrom dialect anchorTable lookupTable anchorColumn lookupColumn presence
        filterEqAnchor filterEqLookup).text.toList := by
  have hplaceholder := nextPlaceholderRelational_toList dialect
  have hon (n : ℕ) : render (quoting dialect) (relationalPlaceholders dialect) n [.text "A.",
      .names [anchorColumn], .text " = L.", .names [lookupColumn]] =
        ("A." ++ quoteIdent dialect anchorColumn ++ " = L." ++
          quoteIdent dialect lookupColumn).toList := by
    simp [render, pathChars, quoteIdent_toList]
  have hwhere (n : ℕ) : render (quoting dialect) (relationalPlaceholders dialect) n [.text "L.",
      .names [presence], .text " IS NULL"] =
        ("L." ++ quoteIdent dialect presence ++ " IS NULL").toList := by
    simp [render, pathChars, quoteIdent_toList]
  have hlookup := @render_firstCond dialect _ _ (.correlation "L") "L" hplaceholder rfl _ _ 1
    (hon 1) rfl filterEqLookup
  have hanchor := @render_firstCond dialect _ _ (.correlation "A") "A" hplaceholder rfl _ _
    (1 + filterEqLookup.length) (hwhere _) rfl filterEqAnchor
  have hcount : (partBindings (joinedParts " AND " ([.text "A.", .names [anchorColumn],
      .text " = L.", .names [lookupColumn]] ::
        boundItems (pairBinding (.correlation "L")) filterEqLookup))).length =
          filterEqLookup.length := by
    simp [partBindings_joinedParts, partBindings_boundItems, partBindings]
  simp only [antiJoinParts, antiJoinFrom, render, render_append, hcount, hlookup, hanchor,
    pathChars, quoteIdent_toList, String.toList_append, List.append_assoc]

theorem boundItems_conds_nil {α : Type} (binding : α → SqlBinding) (items : List α) :
    joinedParts " AND " (boundItems binding items) = [] ↔ items = [] := by
  have hne : ∀ item ∈ boundItems binding items, item ≠ [] := by
    intro item hitem
    obtain ⟨value, -, rfl⟩ := List.mem_map.mp hitem
    exact List.cons_ne_nil _ _
  rw [joinedParts_eq_nil hne, boundItems, List.map_eq_nil_iff]

theorem joinConds_toList (whereEq : List JoinEqPair) :
    (joinConds dialect whereEq).map String.toList =
      renderAll (quoting dialect) (relationalPlaceholders dialect) 1
        (boundItems joinBinding whereEq) := by
  rw [renderAll_boundItems, joinConds, List.map_map]
  apply List.map_congr_left
  intro pair _
  simp [quoteIdent_toList, nextPlaceholderRelational_toList, joinBinding, ownerChars]

/-- The text and the values of a statement are those of its parts. -/
theorem buildRelationalScalarSql_parts {check : ResolvedRelationalCheck}
    {statement : SqlStatement} (h : buildRelationalScalarSql dialect check = .ok statement) :
    statement.text.toList =
        render (quoting dialect) (relationalPlaceholders dialect) 1 (checkParts check) ∧
      statement.values = (checkBindings check).map SqlBinding.value := by
  have hplaceholder := nextPlaceholderRelational_toList dialect
  have htable (table : String) (n : ℕ) (pairs : List IdentityEqPair) :=
    @render_tableConds dialect _ _ _ [table] hplaceholder (quoteIdent_toList dialect table) n pairs
  have hempty (table : String) (pairs : List IdentityEqPair) : tableConds [table] pairs = [] ↔
      equalityConds dialect (nextPlaceholderRelational dialect) (quoteIdent dialect table) 1
        pairs = [] := by
    rw [tableConds, boundItems_conds_nil, equalityConds, List.map_eq_nil_iff,
      List.zipIdx_eq_nil_iff]
  obtain ⟨id, body⟩ := check
  cases body with
  | relatedExists childTable matchEq =>
      obtain rfl := Except.ok.inj h
      refine ⟨?_, (map_pairBinding_value _ _).symm⟩
      simp [checkParts, existsParts, render, render_append, htable, pathChars, quoteIdent_toList]
  | antiJoin anchorTable lookupTable anchorColumn lookupColumn presence filterEqAnchor
      filterEqLookup =>
      obtain rfl := Except.ok.inj h
      refine ⟨?_, ?_⟩
      · simp only [checkParts, render, render_antiJoinParts, String.toList_append]
      · simp only [checkBindings, List.map_append, map_pairBinding_value]
        rfl
  | aggregate table fn sumColumn whereEq op value =>
      have hfree : ∀ column, partBindings (aggregateParts table column) = [] := by
        rintro (_ | _) <;> rfl
      cases fn with
      | countStar =>
          obtain rfl := Except.ok.inj h
          refine ⟨?_, (map_pairBinding_value _ _).symm⟩
          symm
          refine render_whereParts ?_ (hfree _) (hempty table whereEq) (htable table 1 whereEq)
          simp [aggregateParts, render, pathChars, quoteIdent_toList]
      | sum =>
          cases hsum : sumColumn.filter (· ≠ "") with
          | none =>
              simp only [buildRelationalScalarSql, hsum] at h
              cases h
          | some column =>
              simp only [buildRelationalScalarSql, hsum] at h
              obtain rfl := Except.ok.inj h
              obtain ⟨rfl, -⟩ := Option.filter_eq_some_iff.mp hsum
              refine ⟨?_, (map_pairBinding_value _ _).symm⟩
              symm
              refine render_whereParts ?_ (hfree _) (hempty table whereEq)
                (htable table 1 whereEq)
              simp [aggregateParts, render, pathChars, quoteIdent_toList]
  | joinCount leftTable rightTable leftJoinColumn rightJoinColumn whereEq op value =>
      obtain rfl := Except.ok.inj h
      refine ⟨?_, ?_⟩
      · symm
        apply render_whereParts
        · simp [joinCountParts, render, pathChars, quoteIdent_toList]
        · rfl
        · rw [boundItems_conds_nil, joinConds, List.map_eq_nil_iff, List.zipIdx_eq_nil_iff]
        · rw [render_joinedParts, String.toList_intercalate, joinConds_toList]
      · simp [checkBindings, joinBinding]

end Texts

theorem buildRelationalScalarSql_binds {dialect : SqlRowDialect}
    {check : ResolvedRelationalCheck} {statement : SqlStatement}
    (h : buildRelationalScalarSql dialect check = .ok statement) :
    BindsValues dialect (relationalPlaceholders dialect) (checkNames check)
      (checkBindings check) statement := by
  obtain ⟨htext, hvalues⟩ := buildRelationalScalarSql_parts h
  rw [← partNames_checkParts, ← partBindings_checkParts]
  apply bindsValues_of_parts _ htext (spaced_checkParts check) (partFixed_checkParts check)
  rw [partBindings_checkParts, hvalues]

/-! ### Samples of anti joins -/

/-- The columns of the anchor that a sample shows. -/
def antiJoinColumns (check : ResolvedRelationalCheck) : List String :=
  match check.body with
  | .antiJoin _ _ anchorColumn _ _ filterEqAnchor _ =>
      sortedColumns (anchorColumn :: filterEqAnchor.map IdentityEqPair.column)
  | _ => []

def anchorItems (columns : List String) : List (List SqlPart) :=
  columns.map fun column => [.text "A.", .names [column]]

def antiJoinSampleParts (columns : List String) (joinParts : List SqlPart) : List SqlPart :=
  .text "SELECT " :: (joinedParts ", " (anchorItems columns) ++
    (joinParts ++ [.text " LIMIT 3"]))

theorem anchorItems_free (columns : List String) :
    (anchorItems columns).flatMap partBindings = [] := by
  rw [anchorItems, List.flatMap_map]
  exact List.flatMap_eq_nil_iff.mpr fun _ _ => rfl

theorem anchorItems_names (columns : List String) :
    (anchorItems columns).flatMap partNames = columns := by
  rw [anchorItems, List.flatMap_map]
  simp [partNames]

theorem render_anchorItems {dialect : SqlRowDialect} {style : PlaceholderStyle} (n : ℕ)
    (columns : List String) :
    render (quoting dialect) style n (joinedParts ", " (anchorItems columns)) =
      (", ".intercalate (columns.map fun c => "A." ++ quoteIdent dialect c)).toList := by
  have hall := @renderAll_free (quoting dialect) style String
    (fun column => [.text "A.", .names [column]])
    (fun column => "A.".toList ++ quoteName (quoting dialect) column)
    (fun _ => rfl) (fun column n => by simp [render, pathChars]) columns n
  rw [render_joinedParts, anchorItems, hall, String.toList_intercalate, List.map_map]
  congr 1
  apply List.map_congr_left
  intro column _
  simp [quoteIdent_toList]

section Samples

variable {dialect : SqlRowDialect} {style : PlaceholderStyle} {joinParts : List SqlPart}
  {source : SqlStatement}

theorem render_sampleParts (columns : List String)
    (hrender : render (quoting dialect) style 1 joinParts = source.text.toList) :
    ("SELECT " ++ ", ".intercalate (columns.map fun c => "A." ++ quoteIdent dialect c) ++
        source.text ++ " LIMIT " ++ toString maxVerificationSampleRows).toList =
      render (quoting dialect) style 1 (antiJoinSampleParts columns joinParts) := by
  have hfree : partBindings (joinedParts ", " (anchorItems columns)) = [] := by
    rw [partBindings_joinedParts, anchorItems_free]
  simp [antiJoinSampleParts, render, render_append, render_anchorItems, hfree, hrender,
    sampleLimit]

theorem spaced_sampleParts (columns : List String)
    (hspaced : spaced false (joinParts ++ [.text " LIMIT 3"]) = true) :
    spaced true (antiJoinSampleParts columns joinParts) = true := by
  have hitems : ∀ item ∈ anchorItems columns, IsItem item := by
    intro item hitem rest hrest
    obtain ⟨column, -, rfl⟩ := List.mem_map.mp hitem
    apply spaced_text (by decide)
    exact spaced_names (List.cons_ne_nil _ _) hrest
  apply spaced_text (by decide)
  exact spaced_joinedParts (by decide) hitems hspaced

theorem partFixed_sampleParts (columns : List String)
    (hfixed : ∀ part ∈ joinParts, PartFixed sqlWords part) :
    ∀ part ∈ antiJoinSampleParts columns joinParts, PartFixed sqlWords part := by
  simp only [antiJoinSampleParts, List.forall_mem_cons, List.forall_mem_append]
  refine ⟨partFixed_text (by decide), ?_, hfixed, partFixed_text (by decide),
    by simp⟩
  apply partFixed_joinedParts (partFixed_text (by decide))
  intro item hitem
  obtain ⟨column, -, rfl⟩ := List.mem_map.mp hitem
  simp only [List.forall_mem_cons]
  exact ⟨partFixed_text (by decide), trivial, by simp⟩

theorem partBindings_sampleParts (columns : List String) (joinParts : List SqlPart) :
    partBindings (antiJoinSampleParts columns joinParts) = partBindings joinParts := by
  simp [antiJoinSampleParts, partBindings, partBindings_append, partBindings_joinedParts,
    anchorItems_free]

/-- A selection of the anchor's columns in front of a join. -/
theorem sample_binds (columns : List String)
    (hrender : render (quoting dialect) style 1 joinParts = source.text.toList)
    (hspaced : spaced false (joinParts ++ [.text " LIMIT 3"]) = true)
    (hfixed : ∀ part ∈ joinParts, PartFixed sqlWords part)
    (hvalues : source.values = (partBindings joinParts).map SqlBinding.value) :
    BindsValues dialect style (columns ++ partNames joinParts) (partBindings joinParts)
      { text := "SELECT " ++ ", ".intercalate (columns.map fun c => "A." ++ quoteIdent dialect c) ++
          source.text ++ " LIMIT " ++ toString maxVerificationSampleRows
        values := source.values } := by
  have hbindings := partBindings_sampleParts columns joinParts
  have hnames : partNames (antiJoinSampleParts columns joinParts) =
      columns ++ partNames joinParts := by
    simp [antiJoinSampleParts, partNames, partNames_append, partNames_joinedParts,
      anchorItems_names]
  rw [← hbindings, ← hnames]
  apply bindsValues_of_parts
  · exact render_sampleParts columns hrender
  · exact spaced_sampleParts columns hspaced
  · exact partFixed_sampleParts columns hfixed
  · rw [hbindings, hvalues]

end Samples

theorem buildAntiJoinSampleSql_binds {dialect : SqlRowDialect}
    {check : ResolvedRelationalCheck} {statement : SqlStatement}
    (h : buildAntiJoinSampleSql dialect check = some statement) :
    BindsValues dialect (relationalPlaceholders dialect)
      (antiJoinColumns check ++ checkNames check) (checkBindings check) statement := by
  obtain ⟨id, body⟩ := check
  cases body with
  | relatedExists => cases h
  | aggregate => cases h
  | joinCount => cases h
  | antiJoin anchorTable lookupTable anchorColumn lookupColumn presence filterEqAnchor
      filterEqLookup =>
      obtain rfl := Option.some.inj h
      have hnames := partNames_antiJoinParts anchorTable lookupTable anchorColumn lookupColumn
        presence filterEqAnchor filterEqLookup
      have hbindings := partBindings_antiJoinParts anchorTable lookupTable anchorColumn
        lookupColumn presence filterEqAnchor filterEqLookup
      simp only [antiJoinColumns, checkNames, checkBindings]
      rw [← hnames, ← hbindings]
      apply sample_binds _ (render_antiJoinParts _ _ _ _ _ _ _)
        (spaced_antiJoinParts _ _ _ _ _ _ _ (by decide))
        (partFixed_antiJoinParts _ _ _ _ _ _ _)
      rw [hbindings, List.map_append, map_pairBinding_value, map_pairBinding_value]
      rfl

/-! ## Requests without their values -/

def IdentityEqPair.unbound (pair : IdentityEqPair) : IdentityEqPair :=
  { pair with value := "" }

def JoinEqPair.unbound (pair : JoinEqPair) : JoinEqPair := { pair with value := "" }

def VerificationRequest.unbound (req : VerificationRequest) : VerificationRequest :=
  { req with identityEq := req.identityEq.map IdentityEqPair.unbound }

def RowAbsentVerificationRequest.unbound (req : RowAbsentVerificationRequest) :
    RowAbsentVerificationRequest :=
  { req with
    identityEq := req.identityEq.map IdentityEqPair.unbound
    filterEq := req.filterEq.map IdentityEqPair.unbound }

def ResolvedRelationalBody.unbound : ResolvedRelationalBody → ResolvedRelationalBody
  | .relatedExists childTable matchEq =>
      .relatedExists childTable (matchEq.map IdentityEqPair.unbound)
  | .aggregate table fn sumColumn whereEq op value =>
      .aggregate table fn sumColumn (whereEq.map IdentityEqPair.unbound) op value
  | .joinCount leftTable rightTable leftJoinColumn rightJoinColumn whereEq op value =>
      .joinCount leftTable rightTable leftJoinColumn rightJoinColumn
        (whereEq.map JoinEqPair.unbound) op value
  | .antiJoin anchorTable lookupTable anchorColumn lookupColumn presence filterEqAnchor
      filterEqLookup =>
      .antiJoin anchorTable lookupTable anchorColumn lookupColumn presence
        (filterEqAnchor.map IdentityEqPair.unbound) (filterEqLookup.map IdentityEqPair.unbound)

def ResolvedRelationalCheck.unbound (check : ResolvedRelationalCheck) :
    ResolvedRelationalCheck := { check with body := check.body.unbound }

section Unbound

variable {dialect : SqlRowDialect}

theorem equalityConds_unbound (placeholder : ℕ → String) (owner : String) (n : ℕ)
    (pairs : List IdentityEqPair) :
    equalityConds dialect placeholder owner n (pairs.map IdentityEqPair.unbound) =
      equalityConds dialect placeholder owner n pairs := by
  rw [equalityConds, List.zipIdx_map, List.map_map]
  rfl

theorem joinConds_unbound (pairs : List JoinEqPair) :
    joinConds dialect (pairs.map JoinEqPair.unbound) = joinConds dialect pairs := by
  rw [joinConds, List.zipIdx_map, List.map_map]
  rfl

theorem columns_unbound (pairs : List IdentityEqPair) :
    (pairs.map IdentityEqPair.unbound).map IdentityEqPair.column =
      pairs.map IdentityEqPair.column := by
  rw [List.map_map]
  rfl

theorem selectText_unbound (req : VerificationRequest) :
    (buildSelectByIdentitySql dialect req.unbound).text =
      (buildSelectByIdentitySql dialect req).text := by
  simp only [selectText_eq, VerificationRequest.unbound, equalityConds_unbound]

theorem absentConds_unbound (req : RowAbsentVerificationRequest) :
    absentConds dialect req.unbound = absentConds dialect req := by
  simp only [absentConds, RowAbsentVerificationRequest.unbound]
  rw [← List.map_append, equalityConds_unbound]

theorem absentColumns_unbound (req : RowAbsentVerificationRequest) :
    absentColumns req.unbound = absentColumns req := by
  simp only [absentColumns, RowAbsentVerificationRequest.unbound]
  rw [← List.map_append, columns_unbound]

theorem countSql_unbound (req : RowAbsentVerificationRequest) :
    (buildRowAbsentSqlPlan dialect req.unbound).countSql =
      (buildRowAbsentSqlPlan dialect req).countSql := by
  rw [countSql_eq, countSql_eq, absentConds_unbound]
  rfl

theorem sampleSql_unbound (req : RowAbsentVerificationRequest) :
    (buildRowAbsentSqlPlan dialect req.unbound).sampleSql =
      (buildRowAbsentSqlPlan dialect req).sampleSql := by
  rw [sampleSql_eq, sampleSql_eq, absentConds_unbound, absentColumns_unbound]
  rfl

theorem antiJoinFrom_unbound (anchorTable lookupTable anchorColumn lookupColumn
    presence : String) (filterEqAnchor filterEqLookup : List IdentityEqPair) :
    (antiJoinFrom dialect anchorTable lookupTable anchorColumn lookupColumn presence
        (filterEqAnchor.map IdentityEqPair.unbound)
        (filterEqLookup.map IdentityEqPair.unbound)).text =
      (antiJoinFrom dialect anchorTable lookupTable anchorColumn lookupColumn presence
        filterEqAnchor filterEqLookup).text := by
  simp only [antiJoinFrom, equalityConds_unbound, List.length_map]

theorem checkText_unbound (check : ResolvedRelationalCheck) :
    (buildRelationalScalarSql dialect check.unbound).map SqlStatement.text =
      (buildRelationalScalarSql dialect check).map SqlStatement.text := by
  obtain ⟨id, body⟩ := check
  cases body with
  | relatedExists childTable matchEq =>
      have hconds := @equalityConds_unbound dialect (nextPlaceholderRelational dialect)
        (quoteIdent dialect childTable) 1 matchEq
      simp [buildRelationalScalarSql, ResolvedRelationalCheck.unbound,
        ResolvedRelationalBody.unbound, Except.map, hconds]
  | antiJoin =>
      simp [buildRelationalScalarSql, ResolvedRelationalCheck.unbound,
        ResolvedRelationalBody.unbound, Except.map, antiJoinFrom_unbound]
  | aggregate table fn sumColumn whereEq op value =>
      have hconds := @equalityConds_unbound dialect (nextPlaceholderRelational dialect)
        (quoteIdent dialect table) 1 whereEq
      cases fn with
      | countStar =>
          apply congrArg Except.ok
          exact congrArg (withConds _) hconds
      | sum =>
          cases hsum : sumColumn.filter (· ≠ "") with
          | none =>
              simp only [buildRelationalScalarSql, ResolvedRelationalCheck.unbound,
                ResolvedRelationalBody.unbound, hsum]
              rfl
          | some column =>
              simp only [buildRelationalScalarSql, ResolvedRelationalCheck.unbound,
                ResolvedRelationalBody.unbound, hsum]
              apply congrArg Except.ok
              exact congrArg (withConds _) hconds
  | joinCount leftTable rightTable leftJoinColumn rightJoinColumn whereEq op value =>
      simp [buildRelationalScalarSql, ResolvedRelationalCheck.unbound,
        ResolvedRelationalBody.unbound, Except.map, joinConds_unbound]

theorem sampleText_unbound (check : ResolvedRelationalCheck) :
    (buildAntiJoinSampleSql dialect check.unbound).map SqlStatement.text =
      (buildAntiJoinSampleSql dialect check).map SqlStatement.text := by
  obtain ⟨id, body⟩ := check
  cases body with
  | antiJoin =>
      have hcolumns : IdentityEqPair.column ∘ IdentityEqPair.unbound =
          IdentityEqPair.column := rfl
      simp [buildAntiJoinSampleSql, ResolvedRelationalCheck.unbound,
        ResolvedRelationalBody.unbound, antiJoinFrom_unbound, hcolumns]
  | _ => rfl

end Unbound

/-! ## All statements -/

/-- The statements of a dialect bind their values, on which their text does not depend. -/
structure StatementsBind (dialect : SqlRowDialect) : Prop where
  select : ∀ req : VerificationRequest, BindsValues dialect (rowPlaceholders dialect)
    (req.table :: req.identityEq.flatMap fun pair => [req.table, pair.column])
    (req.identityEq.map (pairBinding (.table [req.table]))) (buildSelectByIdentitySql dialect req)
  selectText : ∀ req req' : VerificationRequest, req.unbound = req'.unbound →
    (buildSelectByIdentitySql dialect req).text = (buildSelectByIdentitySql dialect req').text
  count : ∀ req, BindsValues dialect (rowPlaceholders dialect)
    (tablePath dialect req.table ++ absentCondNames dialect req) (absentBindings dialect req)
    ⟨(buildRowAbsentSqlPlan dialect req).countSql, (buildRowAbsentSqlPlan dialect req).values⟩
  sample : ∀ req, BindsValues dialect (rowPlaceholders dialect)
    ((absentColumns req).flatMap (fun column => tablePath dialect req.table ++ [column]) ++
      tablePath dialect req.table ++ absentCondNames dialect req)
    (absentBindings dialect req)
    ⟨(buildRowAbsentSqlPlan dialect req).sampleSql, (buildRowAbsentSqlPlan dialect req).values⟩
  absentText : ∀ req req' : RowAbsentVerificationRequest, req.unbound = req'.unbound →
    (buildRowAbsentSqlPlan dialect req).countSql = (buildRowAbsentSqlPlan dialect req').countSql ∧
      (buildRowAbsentSqlPlan dialect req).sampleSql =
        (buildRowAbsentSqlPlan dialect req').sampleSql
  /-- Only `bigquery` takes a table's name apart. -/
  wholeTable : dialect ≠ .bigquery → ∀ table, tablePath dialect table = [table]
  check : ∀ check statement, buildRelationalScalarSql dialect check = .ok statement →
    BindsValues dialect (relationalPlaceholders dialect) (checkNames check) (checkBindings check)
      statement
  checkText : ∀ check check' : ResolvedRelationalCheck, check.unbound = check'.unbound →
    (buildRelationalScalarSql dialect check).map SqlStatement.text =
      (buildRelationalScalarSql dialect check').map SqlStatement.text
  antiJoin : ∀ check statement, buildAntiJoinSampleSql dialect check = some statement →
    BindsValues dialect (relationalPlaceholders dialect)
      (antiJoinColumns check ++ checkNames check) (checkBindings check) statement
  antiJoinText : ∀ check check' : ResolvedRelationalCheck, check.unbound = check'.unbound →
    (buildAntiJoinSampleSql dialect check).map SqlStatement.text =
      (buildAntiJoinSampleSql dialect check').map SqlStatement.text

/-- In every statement the `i`-th placeholder stands in the equality with the column of the
`i`-th value, there are as many placeholders as values, the text does not depend on the
values, and the names are those of the request, between delimiters. -/
theorem statements_bind (dialect : SqlRowDialect) : StatementsBind dialect where
  select := buildSelectByIdentitySql_binds dialect
  selectText req req' h := by
    rw [← selectText_unbound req, h, selectText_unbound]
  count := countSql_binds dialect
  sample := sampleSql_binds dialect
  absentText req req' h := by
    constructor
    · rw [← countSql_unbound req, h, countSql_unbound]
    · rw [← sampleSql_unbound req, h, sampleSql_unbound]
  wholeTable h table := if_neg h
  check _ _ h := buildRelationalScalarSql_binds h
  checkText check check' h := by
    rw [← checkText_unbound check, h, checkText_unbound]
  antiJoin _ _ h := buildAntiJoinSampleSql_binds h
  antiJoinText check check' h := by
    rw [← sampleText_unbound check, h, sampleText_unbound]

end AgentSkeptic.Engine
