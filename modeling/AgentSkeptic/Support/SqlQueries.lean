import Mathlib.Data.List.Basic
import Mathlib.Data.List.ProdSigma
import Mathlib.Algebra.Field.Rat
import Mathlib.Algebra.BigOperators.Group.List.Basic

/-!
# Selections over tables with missing cells

A query selects from a table, or from two tables that are joined.  A condition on a missing
cell is neither true nor false, and a row is kept only when every condition is true
(`allTrue_iff`).  A left join keeps a row without a match once, beside a row of missing cells;
asking for such rows finds each row without a match exactly once (`leftJoin_unmatched`).
-/

namespace AgentSkeptic.Support

/-- A row, column by column; `none` is `NULL`. -/
abbrev TableRow (V : Type) := String → Option V

/-- How the values of tables compare, and what they count in a sum. -/
structure CellOps (V : Type) where
  equal : V → V → Bool
  /-- Equality with a value that is bound as a text. -/
  equalText : V → String → Bool
  number : V → ℚ

/-- The rows of each table, in some order and with duplicates. -/
abbrev SqlTables (V : Type) := String → List (TableRow V)

/-! ## Queries -/

/-- A table by its own name, or by the one that a join gives it. -/
inductive SqlQualifier where
  | table (name : String)
  | correlation (name : String)
  deriving DecidableEq

structure SqlColumn where
  qualifier : SqlQualifier
  name : String

inductive SqlCondition where
  | equalColumns (left right : SqlColumn)
  | equalsValue (column : SqlColumn) (value : String)
  | isNull (column : SqlColumn)

inductive SqlJoin where
  | inner | left
  deriving DecidableEq

inductive SqlSource where
  | table (name : String)
  | join (kind : SqlJoin) (leftTable leftAlias rightTable rightAlias : String)
      (on : List SqlCondition)

/-- What a query shows of the rows that it keeps. -/
inductive SqlSelection where
  | count (column : String)
  /-- The sum of a column of the only table, `0` when there is nothing to add. -/
  | sum (summed column : String)
  | columns (shown : List SqlColumn)
  | one

structure SqlSelect where
  selection : SqlSelection
  source : SqlSource
  conditions : List SqlCondition
  limit : Option ℕ

inductive SqlQuery where
  | rows (select : SqlSelect)
  /-- Whether there is a row, as a column. -/
  | existence (select : SqlSelect) (column : String)

/-! ## Names -/

def SqlCondition.columns : SqlCondition → List SqlColumn
  | equalColumns left right => [left, right]
  | equalsValue column _ => [column]
  | isNull column => [column]

def SqlSource.qualifiers : SqlSource → List SqlQualifier
  | table name => [.table name]
  | join _ _ leftAlias _ rightAlias _ => [.correlation leftAlias, .correlation rightAlias]

def SqlSource.on : SqlSource → List SqlCondition
  | table _ => []
  | join _ _ _ _ _ on => on

def SqlSelection.columnsOf : SqlSelection → List SqlColumn
  | columns shown => shown
  | _ => []

/-- A sum names its column without a table. -/
def SqlSelection.isSum : SqlSelection → Bool
  | sum .. => true
  | _ => false

/-- Every name is that of one table of the query. -/
def SqlSelect.isScoped (s : SqlSelect) : Bool :=
  let columns := s.selection.columnsOf ++ s.source.on.flatMap SqlCondition.columns ++
    s.conditions.flatMap SqlCondition.columns
  columns.all (fun column => decide (column.qualifier ∈ s.source.qualifiers)) &&
    decide s.source.qualifiers.Nodup &&
    (!s.selection.isSum || decide (s.source.qualifiers.length = 1))

/-! ## Evaluation -/

/-- The rows at hand, each under its qualifier. -/
abbrev SqlScope (V : Type) := List (SqlQualifier × TableRow V)

/-- What a column of a result holds. -/
inductive SqlOutcome (V : Type) where
  | cell (cell : Option V)
  | number (x : ℚ)
  | truth (holds : Bool)

abbrev SqlResultRow (V : Type) := List (String × SqlOutcome V)

section Evaluation

variable {V : Type} (ops : CellOps V) (tables : SqlTables V)

def SqlColumn.cell (scope : SqlScope V) (column : SqlColumn) : Option V :=
  (scope.find? fun entry => entry.1 = column.qualifier).bind fun entry => entry.2 column.name

/-- Whether a condition is true; `none` when that is unknown. -/
def SqlCondition.truth (scope : SqlScope V) : SqlCondition → Option Bool
  | equalColumns left right =>
      match left.cell scope, right.cell scope with
      | some a, some b => some (ops.equal a b)
      | _, _ => none
  | equalsValue column value => (column.cell scope).map (ops.equalText · value)
  | isNull column => some (column.cell scope).isNone

/-- `a AND b` where either may be unknown. -/
def sqlAnd : Option Bool → Option Bool → Option Bool
  | some false, _ => some false
  | _, some false => some false
  | some true, some true => some true
  | _, _ => none

/-- Conditions with `AND` between them. -/
def conjunction (scope : SqlScope V) (conditions : List SqlCondition) : Option Bool :=
  conditions.foldr (fun condition => sqlAnd (condition.truth ops scope)) (some true)

/-- The scopes for which the conditions are true. -/
def keep (conditions : List SqlCondition) (scopes : List (SqlScope V)) : List (SqlScope V) :=
  scopes.filter fun scope => conjunction ops scope conditions = some true

/-- The row of a table without a match. -/
def nullRow : TableRow V := fun _ => none

def pairScope (leftAlias rightAlias : String) (left right : TableRow V) : SqlScope V :=
  [(.correlation leftAlias, left), (.correlation rightAlias, right)]

def SqlSource.scopes : SqlSource → List (SqlScope V)
  | table name => (tables name).map fun row => [(.table name, row)]
  | join kind leftTable leftAlias rightTable rightAlias on =>
      (tables leftTable).flatMap fun left =>
        let matched := keep ops on
          ((tables rightTable).map (pairScope leftAlias rightAlias left))
        if kind = .left ∧ matched.isEmpty = true then
          [pairScope leftAlias rightAlias left nullRow]
        else matched

/-- The sum of the cells that are there. -/
def sumOfCells (cells : List (Option V)) : ℚ := (cells.reduceOption.map ops.number).sum

def SqlSelection.results (scopes : List (SqlScope V)) : SqlSelection → List (SqlResultRow V)
  | count column => [[(column, .number scopes.length)]]
  | sum summed column =>
      [[(column, .number (sumOfCells ops
        (scopes.map fun scope => scope.head?.bind fun entry => entry.2 summed)))]]
  | columns shown =>
      scopes.map fun scope => shown.map fun column => (column.name, .cell (column.cell scope))
  | one => scopes.map fun _ => [("1", .number 1)]

/-- The rows that a query keeps. -/
def SqlSelect.kept (s : SqlSelect) : List (SqlScope V) :=
  keep ops s.conditions (s.source.scopes ops tables)

def SqlSelect.results (s : SqlSelect) : List (SqlResultRow V) :=
  let shown := s.selection.results ops (s.kept ops tables)
  s.limit.elim shown fun n => shown.take n

/-- The rows of a query; `none` when a name is that of no table or of two. -/
def SqlQuery.evaluate : SqlQuery → Option (List (SqlResultRow V))
  | rows s => if s.isScoped then some (s.results ops tables) else none
  | existence s column =>
      if s.isScoped then
        some [[(column, .truth (!(s.results ops tables).isEmpty))]]
      else none

end Evaluation

/-! ## Conditions -/

section Conditions

variable {V : Type} {ops : CellOps V} {tables : SqlTables V}

theorem sqlAnd_eq_true {a b : Option Bool} :
    sqlAnd a b = some true ↔ a = some true ∧ b = some true := by
  rcases a with _ | _ | _
  · rcases b with _ | _ | _
    · simp [sqlAnd]
    · simp [sqlAnd]
    · simp [sqlAnd]
  · simp [sqlAnd]
  · rcases b with _ | _ | _
    · simp [sqlAnd]
    · simp [sqlAnd]
    · simp [sqlAnd]

/-- Conditions are true together when each is true. -/
theorem allTrue_iff {scope : SqlScope V} {conditions : List SqlCondition} :
    conjunction ops scope conditions = some true ↔
      ∀ condition ∈ conditions, condition.truth ops scope = some true := by
  induction conditions with
  | nil => simp [conjunction]
  | cons condition conditions ih =>
      have hfold : conjunction ops scope (condition :: conditions) =
          sqlAnd (condition.truth ops scope) (conjunction ops scope conditions) := rfl
      rw [hfold, sqlAnd_eq_true, ih, List.forall_mem_cons]

theorem conjunction_append {scope : SqlScope V} {first rest : List SqlCondition} :
    conjunction ops scope (first ++ rest) = some true ↔
      conjunction ops scope first = some true ∧ conjunction ops scope rest = some true := by
  rw [allTrue_iff, allTrue_iff, allTrue_iff, List.forall_mem_append]

theorem isNull_true_iff {scope : SqlScope V} {column : SqlColumn} :
    (SqlCondition.isNull column).truth ops scope = some true ↔ column.cell scope = none := by
  simp [SqlCondition.truth]

theorem equalsValue_true_iff {scope : SqlScope V} {column : SqlColumn} {value : String} :
    (SqlCondition.equalsValue column value).truth ops scope = some true ↔
      ∃ v, column.cell scope = some v ∧ ops.equalText v value = true := by
  simp [SqlCondition.truth]

theorem equalColumns_true_iff {scope : SqlScope V} {left right : SqlColumn} :
    (SqlCondition.equalColumns left right).truth ops scope = some true ↔
      ∃ a b, left.cell scope = some a ∧ right.cell scope = some b ∧ ops.equal a b = true := by
  cases hleft : left.cell scope with
  | none => simp [SqlCondition.truth, hleft]
  | some a =>
      cases hright : right.cell scope with
      | none => simp [SqlCondition.truth, hleft, hright]
      | some b => simp [SqlCondition.truth, hleft, hright]

/-! ## Cells of scopes -/

@[simp] theorem cell_table (name column : String) (row : TableRow V) :
    SqlColumn.cell [(.table name, row)] ⟨.table name, column⟩ = row column := by
  simp [SqlColumn.cell]

@[simp] theorem cell_left (leftAlias rightAlias column : String) (left right : TableRow V) :
    SqlColumn.cell (pairScope leftAlias rightAlias left right) ⟨.correlation leftAlias, column⟩ =
      left column := by
  simp [SqlColumn.cell, pairScope]

theorem cell_right {leftAlias rightAlias : String} (hne : leftAlias ≠ rightAlias)
    (column : String) (left right : TableRow V) :
    SqlColumn.cell (pairScope leftAlias rightAlias left right) ⟨.correlation rightAlias, column⟩ =
      right column := by
  simp [SqlColumn.cell, pairScope, hne]

/-! ## Sources -/

theorem keep_table (conditions : List SqlCondition) (name : String) :
    keep ops conditions ((SqlSource.table name).scopes ops tables) =
      ((tables name).filter fun row =>
        conjunction ops [(.table name, row)] conditions = some true).map
          fun row => [(.table name, row)] := by
  rw [keep, SqlSource.scopes, List.filter_map]
  rfl

/-- The rows of an inner join are the pairs for which all conditions are true. -/
theorem keep_innerJoin (leftTable leftAlias rightTable rightAlias : String)
    (on conditions : List SqlCondition) :
    keep ops conditions
        ((SqlSource.join .inner leftTable leftAlias rightTable rightAlias on).scopes ops
          tables) =
      (((tables leftTable) ×ˢ (tables rightTable)).filter fun pair =>
        conjunction ops (pairScope leftAlias rightAlias pair.1 pair.2) (on ++ conditions) =
          some true).map fun pair => pairScope leftAlias rightAlias pair.1 pair.2 := by
  have hrow (left : TableRow V) :
      keep ops conditions (keep ops on
          ((tables rightTable).map (pairScope leftAlias rightAlias left))) =
        (((tables rightTable).map fun right => (left, right)).filter fun pair =>
          conjunction ops (pairScope leftAlias rightAlias pair.1 pair.2) (on ++ conditions) =
            some true).map fun pair => pairScope leftAlias rightAlias pair.1 pair.2 := by
    rw [keep, keep, List.filter_filter, List.filter_map, List.filter_map, List.map_map]
    congr 1
    apply List.filter_congr
    intro right _
    have happend := @conjunction_append V ops (pairScope leftAlias rightAlias left right) on
      conditions
    simp only [Function.comp_apply, ← Bool.decide_and, decide_eq_decide]
    rw [happend, and_comm]
  simp only [SqlSource.scopes, reduceCtorEq, false_and, if_false, keep] at hrow ⊢
  rw [List.filter_flatMap]
  have hproduct : tables leftTable ×ˢ tables rightTable =
      (tables leftTable).flatMap fun left =>
        (tables rightTable).map fun right => (left, right) := rfl
  rw [hproduct, List.filter_flatMap, List.map_flatMap]
  simp only [hrow]

/-! ## Left joins -/

/-- Whether the conditions of a join are true beside some row. -/
def hasMatch (ops : CellOps V) (tables : SqlTables V) (leftAlias rightTable rightAlias : String)
    (on : List SqlCondition) (left : TableRow V) : Bool :=
  (tables rightTable).any fun right =>
    conjunction ops (pairScope leftAlias rightAlias left right) on = some true

theorem matched_isEmpty (leftAlias rightTable rightAlias : String) (on : List SqlCondition)
    (left : TableRow V) :
    (keep ops on ((tables rightTable).map (pairScope leftAlias rightAlias left))).isEmpty =
      !hasMatch ops tables leftAlias rightTable rightAlias on left := by
  rw [keep, List.filter_map, List.isEmpty_map, hasMatch]
  induction tables rightTable with
  | nil => rfl
  | cons right rows ih =>
      rw [List.filter_cons, List.any_cons]
      split_ifs with hright
      · simp only [Function.comp_apply] at hright
        simp only [List.isEmpty_cons, hright, Bool.true_or, Bool.not_true]
      · simp only [Function.comp_apply] at hright
        rw [ih, Bool.eq_false_of_not_eq_true hright, Bool.false_or]

/-- What is kept of the rows that a left join makes of one row. -/
theorem keep_leftRow {leftAlias rightTable rightAlias presence : String}
    {on conditions : List SqlCondition} (hne : leftAlias ≠ rightAlias)
    (hpresence : ∀ right ∈ tables rightTable, right presence ≠ none) (left : TableRow V) :
    keep ops (.isNull ⟨.correlation rightAlias, presence⟩ :: conditions)
        (if (keep ops on ((tables rightTable).map
            (pairScope leftAlias rightAlias left))).isEmpty = true then
          [pairScope leftAlias rightAlias left nullRow]
        else keep ops on ((tables rightTable).map (pairScope leftAlias rightAlias left))) =
      if (!hasMatch ops tables leftAlias rightTable rightAlias on left &&
          decide (conjunction ops (pairScope leftAlias rightAlias left nullRow) conditions =
            some true)) = true then
        [pairScope leftAlias rightAlias left nullRow]
      else [] := by
  have hcell (right : TableRow V) :
      SqlColumn.cell (pairScope leftAlias rightAlias left right) ⟨.correlation rightAlias, presence⟩ =
        right presence := cell_right hne presence left right
  rw [matched_isEmpty]
  by_cases hmatch : hasMatch ops tables leftAlias rightTable rightAlias on left = true
  · -- A matched row stands beside a row of the table, whose column is not `NULL`.
    have hnone : ∀ scope ∈ keep ops on ((tables rightTable).map
        (pairScope leftAlias rightAlias left)),
          ¬ conjunction ops scope (.isNull ⟨.correlation rightAlias, presence⟩ :: conditions) =
            some true := by
      intro scope hscope hall
      obtain ⟨right, hright, rfl⟩ := List.mem_map.mp (List.mem_of_mem_filter hscope)
      have hnull := allTrue_iff.mp hall _ List.mem_cons_self
      rw [isNull_true_iff, hcell] at hnull
      exact hpresence right hright hnull
    simp only [hmatch, Bool.not_true, Bool.false_and, Bool.false_eq_true, if_false]
    rw [keep, List.filter_eq_nil_iff]
    intro scope hscope
    simpa using hnone scope hscope
  · have hnull : (SqlCondition.isNull ⟨.correlation rightAlias, presence⟩).truth ops
        (pairScope leftAlias rightAlias left nullRow) = some true := by
      rw [isNull_true_iff, hcell]
      rfl
    have hall : conjunction ops (pairScope leftAlias rightAlias left nullRow)
        (.isNull ⟨.correlation rightAlias, presence⟩ :: conditions) = some true ↔
          conjunction ops (pairScope leftAlias rightAlias left nullRow) conditions =
            some true := by
      rw [allTrue_iff, allTrue_iff, List.forall_mem_cons]
      exact and_iff_right hnull
    simp only [hmatch, Bool.not_false, Bool.true_and, if_true, decide_eq_true_eq]
    rw [keep, List.filter_cons]
    simp only [decide_eq_true_eq, hall, List.filter_nil]

/-- The rows of a left join whose column of the right table is `NULL`, when no row of that
table has `NULL` there: each row without a match, once. -/
theorem leftJoin_unmatched {leftTable leftAlias rightTable rightAlias presence : String}
    {on conditions : List SqlCondition} (hne : leftAlias ≠ rightAlias)
    (hpresence : ∀ right ∈ tables rightTable, right presence ≠ none) :
    keep ops (.isNull ⟨.correlation rightAlias, presence⟩ :: conditions)
        ((SqlSource.join .left leftTable leftAlias rightTable rightAlias on).scopes ops
          tables) =
      ((tables leftTable).filter fun left =>
        !hasMatch ops tables leftAlias rightTable rightAlias on left &&
          decide (conjunction ops (pairScope leftAlias rightAlias left nullRow) conditions =
            some true)).map fun left => pairScope leftAlias rightAlias left nullRow := by
  rw [keep, SqlSource.scopes]
  induction tables leftTable with
  | nil => rfl
  | cons left rows ih =>
      have hrow := @keep_leftRow V ops tables leftAlias rightTable rightAlias presence on
        conditions hne hpresence left
      simp only [true_and] at ih ⊢
      rw [keep] at hrow
      rw [List.flatMap_cons, List.filter_append, ih, hrow, List.filter_cons]
      split_ifs
      · rfl
      · rfl

end Conditions

end AgentSkeptic.Support
