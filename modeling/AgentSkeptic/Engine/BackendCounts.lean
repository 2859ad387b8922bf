import AgentSkeptic.Engine.Reconcilers

/-!
# Counts on the three backends

The drivers of the backends, as each hands over the one column of a count, of a
sum or of an `EXISTS`.  `SqlContents` is what the tables hold, and `result` what
the statement of a request or of a check evaluates to over them.

`reconcileItem_eq` says that a backend comes to the verdict of the result unless
its driver hands the result over as a text, and `backends_agree_iff` that every
count and every sum is such a result on one backend and not on another.
-/

namespace AgentSkeptic.Engine

open AgentSkeptic.Support

/-! ## What the tables hold -/

/-- The tables of a database, and how their rows meet the conditions of a
statement. -/
structure SqlContents where
  Row : Type
  rows : String → List Row
  /-- `column = value`. -/
  holds : Row → String → String → Bool
  /-- `L.column = R.column`. -/
  joined : Row → String → Row → String → Bool
  isNull : Row → String → Bool
  /-- The value of an integer column; `NULL` adds nothing to a sum. -/
  integer : Row → String → ℤ

inductive SqlResult where
  | truth (holds : Bool)
  | count (n : ℕ)
  | sum (n : ℤ)

def SqlResult.number : SqlResult → ℤ
  | truth holds => if holds then 1 else 0
  | count n => n
  | sum n => n

namespace SqlContents

variable (contents : SqlContents)

def meets (pairs : List IdentityEqPair) (row : contents.Row) : Bool :=
  pairs.all fun p => contents.holds row p.column p.value

/-- `COUNT(*)` of the rows that must be absent. -/
def absentResult (req : RowAbsentVerificationRequest) : SqlResult :=
  .count ((contents.rows req.table).countP
    (contents.meets (req.identityEq ++ req.filterEq)))

def innerJoin (leftTable rightTable leftJoinColumn rightJoinColumn : String) :
    List (contents.Row × contents.Row) :=
  (contents.rows leftTable).flatMap fun left =>
    ((contents.rows rightTable).filter
      (contents.joined left leftJoinColumn · rightJoinColumn)).map fun right =>
        (left, right)

def meetsJoin (whereEq : List JoinEqPair) (pair : contents.Row × contents.Row) :
    Bool :=
  whereEq.all fun w =>
    match w.side with
    | .left => contents.holds pair.1 w.column w.value
    | .right => contents.holds pair.2 w.column w.value

/-- The rows of a left join; `none` stands for the columns of no match. -/
def leftJoin (anchorTable lookupTable anchorColumn lookupColumn : String)
    (filterEqLookup : List IdentityEqPair) :
    List (contents.Row × Option contents.Row) :=
  (contents.rows anchorTable).flatMap fun anchor =>
    match (contents.rows lookupTable).filter fun lookup =>
        contents.joined anchor anchorColumn lookup lookupColumn &&
          contents.meets filterEqLookup lookup with
    | [] => [(anchor, none)]
    | lookups => lookups.map fun lookup => (anchor, some lookup)

/-- What the statement of a check evaluates to. -/
def checkResult : ResolvedRelationalBody → SqlResult
  | .relatedExists childTable matchEq =>
      .truth ((contents.rows childTable).any (contents.meets matchEq))
  | .aggregate table .countStar _ whereEq _ _ =>
      .count ((contents.rows table).countP (contents.meets whereEq))
  | .aggregate table .sum sumColumn whereEq _ _ =>
      .sum (((contents.rows table).filter (contents.meets whereEq)).map
        (contents.integer · (sumColumn.getD ""))).sum
  | .joinCount leftTable rightTable leftJoinColumn rightJoinColumn whereEq _ _ =>
      .count ((contents.innerJoin leftTable rightTable leftJoinColumn
        rightJoinColumn).countP (contents.meetsJoin whereEq))
  | .antiJoin anchorTable lookupTable anchorColumn lookupColumn presence
      filterEqAnchor filterEqLookup =>
      .count ((contents.leftJoin anchorTable lookupTable anchorColumn lookupColumn
        filterEqLookup).countP fun pair =>
          pair.2.elim true (contents.isNull · presence) &&
            contents.meets filterEqAnchor pair.1)

end SqlContents

/-! ## Drivers -/

inductive SqlDriver where
  | nodeSqlite | pg | mysql2
  deriving DecidableEq

def SqlDriver.dialect : SqlDriver → SqlRowDialect
  | nodeSqlite => .sqlite
  | pg => .postgresql
  | mysql2 => .mysql

/-- The column `v` in the default encoding of the driver: `pg` hands `int8` and
`numeric` over as texts, `mysql2` the sum of an exact type. -/
def SqlDriver.encode : SqlDriver → SqlResult → JsValue
  | pg, .truth holds => .json (.bool holds)
  | pg, .count n => .json (.str (toString n))
  | pg, .sum n | mysql2, .sum n => .json (.str (toString n))
  | _, result => .json (.num (.int result.number))

/-- Whether the driver hands the result over as a number or a Boolean. -/
def SqlDriver.handsNumber : SqlDriver → SqlResult → Bool
  | pg, .count _ | pg, .sum _ | mysql2, .sum _ => false
  | _, _ => true

/-! ## Items -/

inductive CountedItem where
  | rowAbsent (request : RowAbsentVerificationRequest)
  | relational (check : ResolvedRelationalCheck)

namespace CountedItem

def result (contents : SqlContents) : CountedItem → SqlResult
  | rowAbsent request => contents.absentResult request
  | relational check => contents.checkResult check.body

/-- The statement whose column decides, and the one that samples the rows of a
failure. -/
def statements (dialect : SqlRowDialect) :
    CountedItem → Except String (SqlStatement × Option SqlStatement)
  | rowAbsent request =>
      let plan := buildRowAbsentSqlPlan dialect request
      .ok (⟨plan.countSql, plan.values⟩, some ⟨plan.sampleSql, plan.values⟩)
  | relational check => do
      let scalar ← buildRelationalScalarSql dialect check
      .ok (scalar, buildAntiJoinSampleSql dialect check)

/-- A check that was resolved can be sent. -/
def Sendable : CountedItem → Prop
  | rowAbsent _ => True
  | relational check => SumColumnGiven check

def isRelatedExists : CountedItem → Bool
  | relational ⟨_, .relatedExists ..⟩ => true
  | _ => false

end CountedItem

/-- The database evaluates the statements of the item over the contents, and the
driver hands over a result that a double holds exactly. -/
structure Evaluates (driver : SqlDriver) (db : SqlConnection)
    (contents : SqlContents) (item : CountedItem) : Prop where
  safe : |(item.result contents).number| < 2 ^ 53
  scalar : ∀ statement sample,
    item.statements driver.dialect = .ok (statement, sample) →
      db.query statement = .ok [[("v", driver.encode (item.result contents))]]
  sampled : ∀ statement sample,
    item.statements driver.dialect = .ok (statement, some sample) →
      ∃ rows, db.query sample = .ok rows

/-- The path of the backend whose driver it is. -/
def reconcileItem (tables : TextTables) (driver : SqlDriver) (db : SqlConnection) :
    CountedItem → Except String ReconcileOutput
  | .rowAbsent request =>
      match driver with
      | .nodeSqlite => reconcileSqlRowAbsent tables db request
      | .pg => executeRowAbsentRemote tables .postgresql db request
      | .mysql2 => executeRowAbsentRemote tables .mysql db request
  | .relational check =>
      match driver with
      | .nodeSqlite => reconcileRelationalSqlite tables db check
      | .pg => reconcileRelationalQuery tables .postgresql db check
      | .mysql2 => reconcileRelationalQuery tables .mysql db check

/-! ## Verdicts -/

/-- A status with its first reason code. -/
structure Verdict where
  status : StepStatus
  code : Option String
  deriving DecidableEq

def Verdict.verified : Verdict := ⟨.verified, none⟩

def Verdict.failed (status : StepStatus) (code : SqlVerificationOutcomeCode) :
    Verdict := ⟨status, some code.code⟩

def unusableVerdict : Verdict :=
  .failed .incompleteVerification .relationalScalarUnusable

def ReconcileOutput.verdict (out : ReconcileOutput) : Verdict :=
  ⟨out.status, out.reasons.head?.map Reason.code⟩

/-- What the number of a result says about the item. -/
def CountedItem.verdict (n : ℤ) : CountedItem → Verdict
  | .rowAbsent _ =>
      if n = 0 then .verified else .failed .inconsistent .rowPresentWhenForbidden
  | .relational check =>
      match check.body with
      | .relatedExists .. =>
          if n = 1 then .verified else .failed .missing .relatedRowsAbsent
      | .antiJoin .. =>
          if n = 0 then .verified else .failed .inconsistent .orphanRowDetected
      | .aggregate _ _ _ _ op expected | .joinCount _ _ _ _ _ op expected =>
          if compareExpect (.int n) op expected then .verified
          else .failed .inconsistent .relationalExpectationMismatch

/-- Both answer, with one status and one first reason code. -/
def Agree (a b : Except String ReconcileOutput) : Prop :=
  ∃ x y, a = .ok x ∧ b = .ok y ∧ x.verdict = y.verdict

/-! ## Readings -/

/-- A count of a driver is read, or is the text of a number. -/
theorem normalizeCountV_encode (driver : SqlDriver) (n : ℕ) :
    normalizeCountV (driver.encode (.count n)) =
      if driver.handsNumber (.count n) then some (.int n) else none := by
  cases driver with
  | nodeSqlite => rfl
  | pg => rfl
  | mysql2 => rfl

theorem normalizeNumericActual_encode (driver : SqlDriver) (result : SqlResult) :
    normalizeNumericActual (driver.encode result) =
      if driver.handsNumber result then some (.int result.number) else none := by
  cases result with
  | truth holds =>
      cases driver with
      | nodeSqlite => rfl
      | pg => rfl
      | mysql2 => rfl
  | count n =>
      cases driver with
      | nodeSqlite => rfl
      | pg => rfl
      | mysql2 => rfl
  | sum n =>
      cases driver with
      | nodeSqlite => rfl
      | pg => rfl
      | mysql2 => rfl

/-- No driver hands over a value that `??` passes over. -/
theorem isNullish_encode (driver : SqlDriver) (result : SqlResult) :
    (driver.encode result).isNullish = false := by
  cases driver with
  | nodeSqlite => rfl
  | pg =>
      cases result with
      | truth => rfl
      | count => rfl
      | sum => rfl
  | mysql2 =>
      cases result with
      | truth => rfl
      | count => rfl
      | sum => rfl

theorem scalarColumn_single {value : JsValue} (h : value.isNullish = false) :
    scalarColumn [("v", value)] = value := by
  have hfound : documentField [("v", value)] "v" = value := rfl
  simp only [scalarColumn, hfound, h, Bool.false_eq_true, if_false]

variable {tables : TextTables}

theorem lowerRow_single (hlower : tables.toLowerCase "v" = "v") (value : JsValue) :
    lowerRow tables [("v", value)] = [("v", value)] := by
  simp [lowerRow, setColumn, hlower]

/-- How the SQLite path reads a count. -/
def plainCount (row : Option SqlRow) : JsValue := row.elim .undefined scalarColumn

/-- How the remote paths read a count. -/
def loweredCount (tables : TextTables) (row : Option SqlRow) : JsValue :=
  row.elim .undefined fun row => documentField (lowerRow tables row) "v"

/-! ## One backend -/

section Backend

variable {driver : SqlDriver} {db : SqlConnection} {contents : SqlContents}

/-- A count that is read decides; a text is no count. -/
theorem rowAbsentRun_verdict (tables : TextTables)
    {request : RowAbsentVerificationRequest} (readCount : Option SqlRow → JsValue)
    (hread : ∀ value : JsValue, value.isNullish = false →
      readCount (some [("v", value)]) = value)
    (h : Evaluates driver db contents (.rowAbsent request)) :
    ∃ out, rowAbsentOutput (rowAbsentRun tables driver.dialect readCount db request) =
        .ok out ∧
      out.verdict =
        if driver.handsNumber (contents.absentResult request) then
          (CountedItem.rowAbsent request).verdict (contents.absentResult request).number
        else unusableVerdict := by
  have hscalar := h.scalar _ _ rfl
  obtain ⟨sampleRows, hsample⟩ := h.sampled _ _ rfl
  obtain ⟨n, hn⟩ : ∃ n, contents.absentResult request = .count n := ⟨_, rfl⟩
  have hcount : readCount (some [("v", driver.encode (.count n))]) =
      driver.encode (.count n) := hread _ (isNullish_encode _ _)
  rw [show (CountedItem.rowAbsent request).result contents = .count n from hn]
    at hscalar
  refine ⟨_, rfl, ?_⟩
  have hnormalized := normalizeCountV_encode driver n
  rw [hn]
  by_cases hnumber : driver.handsNumber (.count n) = true
  · rw [if_pos hnumber] at hnormalized
    rw [if_pos hnumber]
    by_cases hzero : n = 0
    · subst hzero
      simp only [rowAbsentRun, hscalar, bind, Except.bind, List.head?_cons, hcount,
        hnormalized]
      rfl
    · have hne : JsNumber.int n ≠ .int 0 := by
        simpa using hzero
      have hnumberNe : (SqlResult.count n).number ≠ 0 := by
        simpa [SqlResult.number] using hzero
      simp only [rowAbsentRun, hscalar, hsample, bind, Except.bind, List.head?_cons,
        hcount, hnormalized, if_neg hne, CountedItem.verdict, if_neg hnumberNe]
      rfl
  · rw [if_neg hnumber] at hnormalized
    rw [if_neg hnumber]
    simp only [rowAbsentRun, hscalar, bind, Except.bind, List.head?_cons, hcount,
      hnormalized]
    rfl

theorem reconcileExists_verdict {check : ResolvedRelationalCheck} {vRaw : JsValue}
    {holds : Bool}
    (h : normalizeNumericActual vRaw = some (.int (SqlResult.truth holds).number)) :
    (reconcileExists check vRaw).verdict =
      if (SqlResult.truth holds).number = 1 then .verified
      else .failed .missing .relatedRowsAbsent := by
  cases holds with
  | false =>
      simp only [reconcileExists, h]
      rfl
  | true =>
      simp only [reconcileExists, h]
      rfl

theorem reconcileAntiJoin_verdict {check : ResolvedRelationalCheck} {vRaw : JsValue}
    {n : Option ℤ} (h : normalizeNumericActual vRaw = n.map .int) :
    (reconcileAntiJoin check vRaw).verdict =
      n.elim unusableVerdict fun n =>
        if n = 0 then .verified else .failed .inconsistent .orphanRowDetected := by
  cases n with
  | none =>
      simp only [reconcileAntiJoin, h, Option.map_none]
      rfl
  | some n =>
      simp only [reconcileAntiJoin, h, Option.map_some, Option.elim_some,
        JsNumber.int.injEq]
      split_ifs
      · rfl
      · rfl

theorem reconcileExpect_verdict {check : ResolvedRelationalCheck} {op : ExpectOp}
    {expected : JsNumber} {vRaw : JsValue} {n : Option ℤ}
    (h : normalizeNumericActual vRaw = n.map .int) :
    (reconcileExpect check op expected vRaw).verdict =
      n.elim unusableVerdict fun n =>
        if compareExpect (.int n) op expected then .verified
        else .failed .inconsistent .relationalExpectationMismatch := by
  cases n with
  | none =>
      simp only [reconcileExpect, h, Option.map_none]
      rfl
  | some n =>
      simp only [reconcileExpect, h, Option.map_some, Option.elim_some]
      split_ifs
      · rfl
      · rfl

/-- The rule table, on the row that a driver hands over. -/
theorem reconcileRelationalRow_verdict (check : ResolvedRelationalCheck) :
    (reconcileRelationalRow
        (some [("v", driver.encode (contents.checkResult check.body))]) check).verdict =
      if driver.handsNumber (contents.checkResult check.body) then
        (CountedItem.relational check).verdict (contents.checkResult check.body).number
      else unusableVerdict := by
  rcases check with ⟨id, body⟩
  generalize hresult : contents.checkResult body = result
  have hread : scalarColumn [("v", driver.encode result)] = driver.encode result :=
    scalarColumn_single (isNullish_encode _ _)
  have hnormalized : normalizeNumericActual (driver.encode result) =
      (if driver.handsNumber result then some result.number else none).map .int := by
    rw [normalizeNumericActual_encode]
    split_ifs
    · rfl
    · rfl
  simp only [reconcileRelationalRow, hread]
  cases body with
  | relatedExists childTable matchEq =>
      obtain ⟨holds, hholds⟩ : ∃ holds, result = .truth holds := ⟨_, hresult.symm⟩
      subst hholds
      have hnumber : driver.handsNumber (.truth holds) = true := by
        cases driver with
        | nodeSqlite => rfl
        | pg => rfl
        | mysql2 => rfl
      rw [if_pos hnumber] at hnormalized ⊢
      exact reconcileExists_verdict hnormalized
  | antiJoin anchorTable lookupTable anchorColumn lookupColumn presence anchor lookup =>
      rw [reconcileAntiJoin_verdict hnormalized]
      split_ifs
      · rfl
      · rfl
  | aggregate table fn sumColumn whereEq op expected =>
      rw [reconcileExpect_verdict hnormalized]
      split_ifs
      · rfl
      · rfl
  | joinCount leftTable rightTable leftColumn rightColumn whereEq op expected =>
      rw [reconcileExpect_verdict hnormalized]
      split_ifs
      · rfl
      · rfl

theorem reconcileRelationalQuery_verdict (hlower : tables.toLowerCase "v" = "v")
    {check : ResolvedRelationalCheck} (hcheck : SumColumnGiven check)
    (h : Evaluates driver db contents (.relational check)) :
    ∃ out, reconcileRelationalQuery tables driver.dialect db check = .ok out ∧
      out.verdict =
        if driver.handsNumber (contents.checkResult check.body) then
          (CountedItem.relational check).verdict
            (contents.checkResult check.body).number
        else unusableVerdict := by
  obtain ⟨statement, hstatement⟩ : ∃ statement,
      buildRelationalScalarSql driver.dialect check = .ok statement :=
    buildRelationalScalarSql_ok hcheck
  have hstatements : (CountedItem.relational check).statements driver.dialect =
      .ok (statement, buildAntiJoinSampleSql driver.dialect check) :=
    bind_eq_ok.mpr ⟨statement, hstatement, rfl⟩
  have hscalar := h.scalar _ _ hstatements
  have hrow := lowerRow_single hlower
    (driver.encode (contents.checkResult check.body))
  refine ⟨_, bind_eq_ok.mpr ⟨statement, hstatement, rfl⟩, ?_⟩
  rw [← reconcileRelationalRow_verdict check]
  have hresult : (CountedItem.relational check).result contents =
      contents.checkResult check.body := rfl
  rw [hresult] at hscalar
  simp only [relationalRun, hscalar, bind, Except.bind, List.head?_cons,
    Option.map_some, hrow]
  -- The sample of an anti join adds evidence only.
  cases hsample : buildAntiJoinSampleSql driver.dialect check with
  | none => rfl
  | some sample =>
      rw [hsample] at hstatements
      obtain ⟨sampleRows, hrows⟩ := h.sampled _ _ hstatements
      simp only [hrows]
      split_ifs
      · rfl
      · rfl

/-- A backend comes to the verdict of the result, unless its driver hands a text
over. -/
theorem reconcileItem_eq (hlower : tables.toLowerCase "v" = "v") {item : CountedItem}
    (hitem : item.Sendable) (h : Evaluates driver db contents item) :
    ∃ out, reconcileItem tables driver db item = .ok out ∧
      out.verdict =
        if driver.handsNumber (item.result contents) then
          item.verdict (item.result contents).number
        else unusableVerdict := by
  cases item with
  | rowAbsent request =>
      have hlowered : ∀ value : JsValue, value.isNullish = false →
          loweredCount tables (some [("v", value)]) = value := by
        intro value _
        rw [loweredCount, Option.elim_some, lowerRow_single hlower]
        rfl
      have hplain : ∀ value : JsValue, value.isNullish = false →
          plainCount (some [("v", value)]) = value :=
        fun _ hvalue => scalarColumn_single hvalue
      cases driver with
      | nodeSqlite =>
          have hrun := rowAbsentRun_verdict tables plainCount hplain h
          exact hrun
      | pg =>
          have hrun := rowAbsentRun_verdict tables (loweredCount tables) hlowered h
          exact hrun
      | mysql2 =>
          have hrun := rowAbsentRun_verdict tables (loweredCount tables) hlowered h
          exact hrun
  | relational check =>
      have hrun := reconcileRelationalQuery_verdict hlower hitem h
      cases driver with
      | nodeSqlite => exact hrun
      | pg => exact hrun
      | mysql2 => exact hrun

end Backend

/-! ## All backends -/

theorem CountedItem.verdict_ne_unusable (item : CountedItem) (n : ℤ) :
    item.verdict n ≠ unusableVerdict := by
  have hverified : Verdict.verified ≠ unusableVerdict := by decide
  cases item with
  | rowAbsent request =>
      rw [CountedItem.verdict]
      split_ifs
      · exact hverified
      · decide
  | relational check =>
      rcases check with ⟨id, body⟩
      cases body with
      | relatedExists =>
          simp only [CountedItem.verdict]
          split_ifs
          · exact hverified
          · decide
      | antiJoin =>
          simp only [CountedItem.verdict]
          split_ifs
          · exact hverified
          · decide
      | aggregate =>
          simp only [CountedItem.verdict]
          split_ifs
          · exact hverified
          · decide
      | joinCount =>
          simp only [CountedItem.verdict]
          split_ifs
          · exact hverified
          · decide

section Backends

variable {contents : SqlContents} {item : CountedItem} {db : SqlDriver → SqlConnection}

/-- Two backends agree when both drivers hand the result over as a number, or both as
a text. -/
theorem agree_iff (hlower : tables.toLowerCase "v" = "v") (hitem : item.Sendable)
    (h : ∀ driver, Evaluates driver (db driver) contents item) (d d' : SqlDriver) :
    Agree (reconcileItem tables d (db d) item) (reconcileItem tables d' (db d') item) ↔
      d.handsNumber (item.result contents) = d'.handsNumber (item.result contents) := by
  obtain ⟨x, hx, hverdict⟩ := reconcileItem_eq hlower hitem (h d)
  obtain ⟨y, hy, hverdict'⟩ := reconcileItem_eq hlower hitem (h d')
  have hagree : Agree (reconcileItem tables d (db d) item)
      (reconcileItem tables d' (db d') item) ↔ x.verdict = y.verdict := by
    constructor
    · rintro ⟨x', y', hx', hy', hsame⟩
      rw [hx] at hx'
      rw [hy] at hy'
      cases hx'
      cases hy'
      exact hsame
    · intro hsame
      exact ⟨x, y, hx, hy, hsame⟩
  have hne := item.verdict_ne_unusable (item.result contents).number
  rw [hagree, hverdict, hverdict']
  by_cases hd : d.handsNumber (item.result contents) = true
  · by_cases hd' : d'.handsNumber (item.result contents) = true
    · simp only [hd, hd']
    · rw [if_pos hd, if_neg hd', hd]
      exact iff_of_false hne fun hsame => hd' hsame.symm
  · by_cases hd' : d'.handsNumber (item.result contents) = true
    · rw [if_neg hd, if_pos hd', hd']
      exact iff_of_false hne.symm hd
    · simp only [hd, hd']

/-- Every driver hands over what is no count and no sum. -/
theorem handsNumber_iff (contents : SqlContents) (item : CountedItem) :
    (∀ d d' : SqlDriver,
      d.handsNumber (item.result contents) = d'.handsNumber (item.result contents)) ↔
        item.isRelatedExists = true := by
  have hcount (n : ℕ) : ¬∀ d d' : SqlDriver,
      d.handsNumber (.count n) = d'.handsNumber (.count n) :=
    fun hall => absurd (hall .nodeSqlite .pg) (by simp [SqlDriver.handsNumber])
  have hsum (n : ℤ) : ¬∀ d d' : SqlDriver,
      d.handsNumber (.sum n) = d'.handsNumber (.sum n) :=
    fun hall => absurd (hall .nodeSqlite .pg) (by simp [SqlDriver.handsNumber])
  have hno : false ≠ true := by decide
  cases item with
  | rowAbsent request => exact iff_of_false (hcount _) hno
  | relational check =>
      rcases check with ⟨id, body⟩
      cases body with
      | relatedExists =>
          refine iff_of_true ?_ rfl
          intro d d'
          cases d with
          | nodeSqlite => cases d' with | nodeSqlite => rfl | pg => rfl | mysql2 => rfl
          | pg => cases d' with | nodeSqlite => rfl | pg => rfl | mysql2 => rfl
          | mysql2 => cases d' with | nodeSqlite => rfl | pg => rfl | mysql2 => rfl
      | antiJoin => exact iff_of_false (hcount _) hno
      | aggregate table fn =>
          cases fn with
          | countStar => exact iff_of_false (hcount _) hno
          | sum => exact iff_of_false (hsum _) hno
      | joinCount => exact iff_of_false (hcount _) hno

/-- The backends agree on every `related_exists` check, and on no count and no sum. -/
theorem backends_agree_iff (hlower : tables.toLowerCase "v" = "v")
    (hitem : item.Sendable) (h : ∀ driver, Evaluates driver (db driver) contents item) :
    (∀ d d', Agree (reconcileItem tables d (db d) item)
        (reconcileItem tables d' (db d') item)) ↔
      item.isRelatedExists = true := by
  rw [← handsNumber_iff contents item]
  exact forall₂_congr fun d d' => agree_iff hlower hitem h d d'

end Backends

/-! ### An empty table -/

def emptyContents : SqlContents where
  Row := Empty
  rows _ := []
  holds row := row.elim
  joined row := row.elim
  isNull row := row.elim
  integer row := row.elim

def asciiTables : TextTables where
  toLowerCase text := String.ofList (text.toList.map Char.toLower)
  localeLe a b := utf16Le a b

theorem asciiTables_lower : asciiTables.toLowerCase "v" = "v" := by decide

/-- A refund that must not be in the ledger. -/
def noRefund : CountedItem := .rowAbsent ⟨"refunds", [⟨"order_id", "o1"⟩], []⟩

theorem noRefund_sendable : noRefund.Sendable := trivial

/-- What every statement over the empty tables is answered. -/
def emptyDb (driver : SqlDriver) : SqlConnection where
  query _ := .ok [[("v", driver.encode (.count 0))]]

theorem emptyDb_evaluates (driver : SqlDriver) :
    Evaluates driver (emptyDb driver) emptyContents noRefund := by
  refine ⟨?_, ?_, ?_⟩
  · decide
  · intro _ _ _
    rfl
  · intro _ _ _
    exact ⟨_, rfl⟩

theorem backends_agree_iff_noRefund :
    (∀ d d', Agree (reconcileItem asciiTables d (emptyDb d) noRefund)
        (reconcileItem asciiTables d' (emptyDb d') noRefund)) ↔
      noRefund.isRelatedExists = true :=
  backends_agree_iff asciiTables_lower noRefund_sendable emptyDb_evaluates

/-- Over an empty table, SQLite verifies that the refund is absent, and Postgres cannot
use its count. -/
theorem noRefund_unusable_on_postgres :
    (∀ driver, Evaluates driver (emptyDb driver) emptyContents noRefund) ∧
      (∃ out, reconcileItem asciiTables .nodeSqlite (emptyDb .nodeSqlite) noRefund =
        .ok out ∧ out.verdict = .verified) ∧
      (∃ out, reconcileItem asciiTables .pg (emptyDb .pg) noRefund = .ok out ∧
        out.verdict = unusableVerdict) ∧
      ¬Agree (reconcileItem asciiTables .nodeSqlite (emptyDb .nodeSqlite) noRefund)
        (reconcileItem asciiTables .pg (emptyDb .pg) noRefund) := by
  refine ⟨emptyDb_evaluates, ?_, ?_, ?_⟩
  · exact reconcileItem_eq asciiTables_lower noRefund_sendable
      (emptyDb_evaluates .nodeSqlite)
  · exact reconcileItem_eq asciiTables_lower noRefund_sendable (emptyDb_evaluates .pg)
  · rw [agree_iff asciiTables_lower noRefund_sendable emptyDb_evaluates]
    decide

end AgentSkeptic.Engine
