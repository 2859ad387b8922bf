import AgentSkeptic.Hosted.EnforcementRefinement

/-!
# The log of lifecycle transitions

The rows of `enforcement_transition` that a run inserts, against the lifecycle
row that the same transactions write.  A request writes both or neither: one
transition from the state and version that it found, to those that it leaves.
The first lifecycle row of an account, the early return of an expired review and
a refusal write no transition, and none of them moves the lifecycle row.
-/

namespace AgentSkeptic.Hosted

open AgentSkeptic.Support

/-- A lifecycle state and its version. -/
abbrev Position := LifecycleState × ℕ

/-- The position of the lifecycle row; an account without one stands where its
first row starts. -/
def position (db : EnforcementDb) : Position :=
  match db.row .lifecycle with
  | some life => (life.currentState, life.stateVersion)
  | none => (.baselineMissing, 0)

def TransitionRow.target (row : TransitionRow) : Position :=
  (row.toState, row.lifecycleStateVersionAfter)

def LogEntry.transition? : LogEntry → Option TransitionRow
  | .transition row => some row
  | _ => none

/-- The transition rows of a log, in insertion order. -/
def transitionRows (log : List LogEntry) : List TransitionRow :=
  log.filterMap LogEntry.transition?

@[simp] theorem transitionRows_append (l₁ l₂ : List LogEntry) :
    transitionRows (l₁ ++ l₂) = transitionRows l₁ ++ transitionRows l₂ :=
  List.filterMap_append

@[simp] theorem transitionRows_nil : transitionRows [] = [] := rfl

@[simp] theorem transitionRows_decision (row : DecisionRow)
    (log : List LogEntry) :
    transitionRows (.decision row :: log) = transitionRows log := rfl

@[simp] theorem transitionRows_transition (row : TransitionRow)
    (log : List LogEntry) :
    transitionRows (.transition row :: log) = row :: transitionRows log := rfl

@[simp] theorem transitionRows_event (row : EventRow) (log : List LogEntry) :
    transitionRows (.event row :: log) = transitionRows log := rfl

theorem position_of_some {db : EnforcementDb} {life : LifecycleRow}
    (h : db.row .lifecycle = some life) :
    position db = (life.currentState, life.stateVersion) := by
  simp [position, h]

/-! ## Rows that link two positions -/

/-- The rows lead from one position to another, each one version on. -/
def Links : Position → List TransitionRow → Position → Prop
  | p, [], q => p = q
  | p, row :: rows, q =>
      row.fromState = p.1 ∧ row.lifecycleStateVersionAfter = p.2 + 1 ∧
        Links row.target rows q

theorem Links.append {p q r : Position} {rows rows' : List TransitionRow}
    (h : Links p rows q) (h' : Links q rows' r) : Links p (rows ++ rows') r := by
  induction rows generalizing p with
  | nil =>
      have hpq : p = q := h
      rw [hpq]
      exact h'
  | cons row rows ih =>
      obtain ⟨hfrom, hversion, hrest⟩ := h
      exact ⟨hfrom, hversion, ih hrest⟩

/-- Each row of a link continues the one before it. -/
theorem Links.isChain {p q : Position} {rows : List TransitionRow}
    (h : Links p rows q) :
    rows.IsChain fun row next => next.fromState = row.toState ∧
      next.lifecycleStateVersionAfter = row.lifecycleStateVersionAfter + 1 := by
  induction rows generalizing p with
  | nil => exact List.IsChain.nil
  | cons row rows ih =>
      obtain ⟨-, -, hrest⟩ := h
      have htail := ih hrest
      rcases rows with _ | ⟨next, rows⟩
      · exact List.IsChain.singleton row
      · obtain ⟨hfrom, hversion, -⟩ := hrest
        exact List.isChain_cons_cons.mpr ⟨⟨hfrom, hversion⟩, htail⟩

theorem Links.head {p q : Position} {rows : List TransitionRow}
    (h : Links p rows q) {first : TransitionRow}
    (hfirst : rows.head? = some first) :
    first.fromState = p.1 ∧ first.lifecycleStateVersionAfter = p.2 + 1 := by
  rcases rows with _ | ⟨row, rows⟩
  · simp at hfirst
  · have hrow : row = first := by simpa using hfirst
    rw [← hrow]
    exact ⟨h.1, h.2.1⟩

/-- A link ends where its last row leads. -/
theorem Links.last {p q : Position} {rows : List TransitionRow}
    (h : Links p rows q) {last : TransitionRow}
    (hlast : rows.getLast? = some last) : q = last.target := by
  induction rows generalizing p with
  | nil => simp at hlast
  | cons row rows ih =>
      obtain ⟨-, -, hrest⟩ := h
      rcases rows with _ | ⟨next, rows⟩
      · have hrow : row = last := by simpa using hlast
        have hq : row.target = q := hrest
        rw [← hq, hrow]
      · apply ih hrest
        simpa [List.getLast?_cons_cons] using hlast

/-- The version counts the rows. -/
theorem Links.version {p q : Position} {rows : List TransitionRow}
    (h : Links p rows q) : q.2 = p.2 + rows.length := by
  induction rows generalizing p with
  | nil =>
      have hpq : p = q := h
      rw [hpq]
      rfl
  | cons row rows ih =>
      obtain ⟨-, hversion, hrest⟩ := h
      have htail : q.2 = row.lifecycleStateVersionAfter + rows.length := ih hrest
      rw [List.length_cons]
      omega

/-! ## What a transaction logs -/

/-- `db'` continues the log of `db` with rows that link the two positions. -/
def Logged (db db' : EnforcementDb) : Prop :=
  ∃ rows, transitionRows db'.log = transitionRows db.log ++ rows ∧
    Links (position db) rows (position db')

/-- Nothing is logged where neither the log nor the lifecycle row moves. -/
theorem Logged.of_same {db db' : EnforcementDb} (hlog : db'.log = db.log)
    (hpos : position db' = position db) : Logged db db' :=
  ⟨[], by simp [hlog], hpos.symm⟩

theorem Logged.trans {db₁ db₂ db₃ : EnforcementDb} (h : Logged db₁ db₂)
    (h' : Logged db₂ db₃) : Logged db₁ db₃ := by
  obtain ⟨rows, hrows, hlinks⟩ := h
  obtain ⟨rows', hrows', hlinks'⟩ := h'
  exact ⟨rows ++ rows', by rw [hrows', hrows, List.append_assoc],
    hlinks.append hlinks'⟩

/-- One transition from where the lifecycle row stood to where it stands. -/
theorem Logged.of_row {db db' : EnforcementDb} {life moved : LifecycleRow}
    (hlife : db.row .lifecycle = some life) (row : TransitionRow)
    (hfrom : row.fromState = life.currentState)
    (hversion : row.lifecycleStateVersionAfter = life.stateVersion + 1)
    (hrows : transitionRows db'.log = transitionRows db.log ++ [row])
    (hmoved : db'.row .lifecycle = some moved)
    (htarget : row.target = (moved.currentState, moved.stateVersion)) :
    Logged db db' := by
  have hstart : position db = (life.currentState, life.stateVersion) :=
    position_of_some hlife
  have hstop : position db' = row.target := by
    rw [position_of_some hmoved, htarget]
  refine ⟨[row], hrows, ?_, ?_, hstop.symm⟩
  · rw [hstart]
    exact hfrom
  · rw [hstart]
    exact hversion

theorem Created.logged {db db' : EnforcementDb} (h : Created db db') :
    Logged db db' := by
  apply Logged.of_same h.log
  rcases h.lifecycle with hsame | ⟨hnone, hfirst⟩
  · simp [position, hsame]
  · simp [position, hnone, hfirst, initialLifecycleRow,
      inferLifecycleFromBaselineExists]

section Transactions

variable {db db' : EnforcementDb} {life : LifecycleRow} {response : Response}

/-- Statements on the baseline row alone. -/
theorem perform_updateBaseline {f : BaselineRow → Option BaselineRow}
    {answer : Response} (hrun : Txn.perform
      (Txn.update EnforcementKey.baseline f fun _ => .done answer) db =
        .ok (response, db')) :
    db'.log = db.log ∧ db'.row .lifecycle = db.row .lifecycle := by
  cases hrow : (db.row .baseline).bind f with
  | none =>
      simp only [Txn.perform_update_of_none hrow, Txn.perform_done,
        Except.ok.injEq, Prod.mk.injEq] at hrun
      rw [← hrun.2]
      exact ⟨rfl, rfl⟩
  | some row =>
      simp only [Txn.perform_update_of_some hrow, Txn.perform_done,
        Except.ok.injEq, Prod.mk.injEq] at hrun
      rw [← hrun.2]
      exact ⟨rfl, by simp⟩

theorem recordCheck_logged {e : Evidence} {baselineRow : Option BaselineRow}
    {result : CheckEvaluationOk} (hlife : db.row .lifecycle = some life)
    (hrun : (recordCheck e baselineRow life result).perform db =
      .ok (response, db')) : Logged db db' := by
  have hwrites : transitionRows db'.log = transitionRows db.log ++
        [checkTransition e baselineRow life result db.nextId (db.nextId + 1)] ∧
      db'.row .lifecycle = some ⟨result.lifecycleAfter, life.stateVersion + 1,
        result.pendingAcceptProjectionHash, some (db.nextId + 1)⟩ := by
    simp only [recordCheck, Txn.perform, hlife, moveLifecycle, Txn.bind_eq,
      Txn.fresh_bind, Txn.append_bind, Txn.update_bind, Txn.done_bind,
      Txn.pure_eq_done, Db.appendEntry_row, Db.drawId_row, Option.bind_some,
      if_true] at hrun
    split at hrun
    · obtain ⟨hlog, hrow⟩ := perform_updateBaseline hrun
      rw [hlog, hrow]
      simp
    · simp only [Txn.perform_done, Except.ok.injEq, Prod.mk.injEq] at hrun
      rw [← hrun.2]
      simp
  exact Logged.of_row hlife _ rfl rfl hwrites.1 hwrites.2 rfl

theorem recordBaseline_logged {e : Evidence} {verdict : BaselineEvaluationOk}
    (hlife : db.row .lifecycle = some life)
    (hrun : (recordBaseline e life verdict).perform db = .ok (response, db')) :
    Logged db db' := by
  have hwrites : transitionRows db'.log = transitionRows db.log ++
        [createBaselineTransition e life db.nextId (db.nextId + 1)] ∧
      db'.row .lifecycle = some ⟨.baselineActive, life.stateVersion + 1, none,
        some (db.nextId + 1)⟩ := by
    cases hbase : db.row .baseline with
    | none =>
        simp [recordBaseline, upsertBaselineTx, Txn.perform, hlife, hbase,
          moveLifecycle] at hrun
        rw [← hrun.2]
        simp
    | some row =>
        simp [recordBaseline, upsertBaselineTx, Txn.perform, hlife, hbase,
          moveLifecycle] at hrun
        rw [← hrun.2]
        simp
  exact Logged.of_row hlife _ rfl rfl hwrites.1 hwrites.2 rfl

/-- An accept that gets as far as its writes was made out of an open drift. -/
theorem recordAccept_logged {e : Evidence} {body : AcceptBody}
    {verdict : AcceptEvaluationOk} (hlife : db.row .lifecycle = some life)
    (hopen : life.currentState = .actionRequired)
    (hrun : (recordAccept e body life verdict).perform db =
      .ok (response, db')) : Logged db db' := by
  have hwrites : transitionRows db'.log = transitionRows db.log ++
        [acceptTransition e body life db.nextId (db.nextId + 1)] ∧
      db'.row .lifecycle = some ⟨.rerunRequired, life.stateVersion + 1, none,
        some (db.nextId + 1)⟩ := by
    cases hacc : db.row (.acceptance db.nextId) with
    | some acc =>
        simp [recordAccept, Txn.perform, hacc] at hrun
    | none =>
        cases hbase : db.row .baseline with
        | none =>
            simp [recordAccept, upsertBaselineTx, Txn.perform, hlife, hbase,
              hacc, moveLifecycle] at hrun
            rw [← hrun.2]
            simp
        | some row =>
            simp [recordAccept, upsertBaselineTx, Txn.perform, hlife, hbase,
              hacc, moveLifecycle] at hrun
            rw [← hrun.2]
            simp
  exact Logged.of_row hlife _ hopen.symm rfl hwrites.1 hwrites.2 rfl

/-- A transaction that goes on after `ensureLifecycleRow`. -/
theorem logged_after_ensure {p : Posture} (h : Represents db p)
    {f : LifecycleRow → EnforcementTxn Response}
    (hnext : ∀ {db₁ : EnforcementDb} {life : LifecycleRow},
      db₁.row .lifecycle = some life →
        (f life).perform db₁ = .ok (response, db') → Logged db₁ db')
    (hrun : ((ensureLifecycleRow (db.row .baseline).isSome).bind f).perform db =
      .ok (response, db')) : Logged db db' := by
  obtain ⟨life, db₁, hensure, -, hlife, hcreated⟩ := h.ensureLifecycleRow
  rw [Txn.perform_bind, hensure] at hrun
  have hrest : Logged db₁ db' := hnext hlife hrun
  exact hcreated.logged.trans hrest

/-- A transaction that answers without a write. -/
theorem logged_done {answer : Response}
    (hrun : (Txn.done answer : EnforcementTxn Response).perform db =
      .ok (response, db')) : Logged db db' := by
  simp only [Txn.perform_done, Except.ok.injEq, Prod.mk.injEq] at hrun
  rw [← hrun.2]
  exact Logged.of_same rfl rfl

theorem checkPosture_logged {p : Posture} (h : Represents db p) {e : Evidence}
    (hrun : (checkPosture e (db.row .baseline)).perform db =
      .ok (response, db')) : Logged db db' := by
  refine logged_after_ensure h ?_ hrun
  intro db₁ life hlife hrest
  cases hguard : evaluateCheckPreconditions
      (checkInput e (db.row .baseline) life) with
  | some refusal =>
      simp only [hguard] at hrest
      exact logged_done hrest
  | none =>
      simp only [hguard] at hrest
      exact recordCheck_logged hlife hrest

theorem executeFsmCheck_logged {p : Posture} (h : Represents db p)
    {e : Evidence} {now : ℤ}
    (hrun : (executeFsmCheck e now).perform db = .ok (response, db')) :
    Logged db db' := by
  by_cases hcurrent : ∀ id,
      (db.row .baseline).bind (·.activeAcceptanceId) = some id →
        reviewExpired now (db.row (.acceptance id)) = false
  · rw [perform_executeFsmCheck_of_current hcurrent] at hrun
    exact checkPosture_logged h hrun
  · -- the early return marks the baseline row and nothing else
    push Not at hcurrent
    obtain ⟨id, hid, hexpired⟩ := hcurrent
    obtain ⟨row, hrow, hpointer⟩ := Option.bind_eq_some_iff.mp hid
    rw [perform_executeFsmCheck_of_expired hrow hpointer (by simpa using hexpired),
      Except.ok.injEq, Prod.mk.injEq] at hrun
    rw [← hrun.2]
    exact Logged.of_same (by simp) (by simp [position])

theorem executeFsmCreateBaseline_logged {p : Posture} (h : Represents db p)
    {e : Evidence}
    (hrun : (executeFsmCreateBaseline e).perform db = .ok (response, db')) :
    Logged db db' := by
  refine logged_after_ensure h ?_ hrun
  intro db₁ life hlife hrest
  cases hverdict : evaluateCreateBaseline life.currentState
      e.outcomeCertificate.runKind with
  | error refusal =>
      simp only [hverdict] at hrest
      exact logged_done hrest
  | ok verdict =>
      simp only [hverdict] at hrest
      exact recordBaseline_logged hlife hrest

theorem executeFsmAcceptDrift_logged {p : Posture} (h : Represents db p)
    {e : Evidence} {body : AcceptBody}
    (hrun : (executeFsmAcceptDrift e body).perform db = .ok (response, db')) :
    Logged db db' := by
  refine logged_after_ensure h ?_ hrun
  intro db₁ life hlife hrest
  cases hverdict : evaluateAccept (acceptInput e body life) with
  | error refusal =>
      simp only [hverdict] at hrest
      exact logged_done hrest
  | ok verdict =>
      simp only [hverdict] at hrest
      have hopen : life.currentState = .actionRequired :=
        ((evaluateAccept_ok_iff _ _).mp hverdict).1
      exact recordAccept_logged hlife hopen hrest

end Transactions

/-! ## Runs -/

/-- Serving one request logs one transition, or none. -/
theorem serveRequest_logged {db : EnforcementDb} {p : Posture}
    (h : Represents db p) (r : Request) : Logged db (serveRequest db r).1 := by
  obtain ⟨response, db', hserve, -⟩ := serveRequest_refines h r
  have hrun : r.transaction.perform db = .ok (response, db') := by
    unfold serveRequest Txn.serveAlone at hserve
    split at hserve
    · next answer db₁ hperform =>
        simp only [Prod.mk.injEq, Except.ok.injEq] at hserve
        rw [hperform, hserve.1, hserve.2]
    · simp at hserve
  rw [hserve]
  cases r with
  | createBaseline e now => exact executeFsmCreateBaseline_logged h hrun
  | check e now => exact executeFsmCheck_logged h hrun
  | accept e raw now =>
      cases hparse : parseAcceptEvidenceInput raw now with
      | error message =>
          simp only [Request.transaction, hparse] at hrun
          exact logged_done hrun
      | ok body =>
          simp only [Request.transaction, hparse] at hrun
          exact executeFsmAcceptDrift_logged h hrun

/-- Each request logs from where the one before it stopped. -/
theorem finish_logged {db : EnforcementDb} {p : Posture} (h : Represents db p)
    (rs : List Request) : Logged db (finish serveRequest db rs) := by
  induction rs generalizing db p with
  | nil => exact Logged.of_same rfl rfl
  | cons r rs ih =>
      obtain ⟨response, db', hserve, hnext, -⟩ := serveRequest_refines h r
      have hfirst : Logged db (serveRequest db r).1 := serveRequest_logged h r
      have hrest : Logged (serveRequest db r).1
          (finish serveRequest (serveRequest db r).1 rs) := by
        apply ih (p := (p.serve r).next)
        rw [hserve]
        exact hnext
      exact hfirst.trans hrest

/-- The transition rows of an account after a run lead from a missing baseline
at version 0 to its lifecycle row. -/
theorem accountAfter_links (rs : List Request) :
    Links (.baselineMissing, 0) (transitionRows (accountAfter rs).log)
      (position (accountAfter rs)) := by
  obtain ⟨rows, hrows, hlinks⟩ := finish_logged represents_emptyAccount rs
  have hall : transitionRows (accountAfter rs).log = rows := hrows
  rw [hall]
  exact hlinks

end AgentSkeptic.Hosted
