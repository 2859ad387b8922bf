import AgentSkeptic.Hosted.EnforcementPosture

/-!
# The enforcement transactions refine the posture machine

One lemma for each piece of the transactions says what it answers and which
rows it leaves; `serveRequest_refines` puts them together, one case for each
posture and kind of request.
-/

namespace AgentSkeptic.Hosted

open AgentSkeptic.Support

/-! ## What a piece of a transaction leaves -/

/-- `db'` is `db` with the given baseline and lifecycle rows and the given
events appended; only acceptance rows with identifiers drawn meanwhile differ. -/
structure Leaves (db db' : EnforcementDb) (baseline : Option BaselineRow)
    (lifecycle : Option LifecycleRow) (events : List FsmNormalizedEvent) :
    Prop where
  baseline : db'.row .baseline = baseline
  lifecycle : db'.row .lifecycle = lifecycle
  nextId : db.nextId ≤ db'.nextId
  acceptance : ∀ id, id < db.nextId ∨ db'.nextId ≤ id →
    db'.row (.acceptance id) = db.row (.acceptance id)
  events : enforcementEvents db'.log = enforcementEvents db.log ++ events

section Frames

variable {db db' : EnforcementDb} {baseline : Option BaselineRow}
  {lifecycle : Option LifecycleRow} {events : List FsmNormalizedEvent}

/-- Identifiers still to be drawn stay unused. -/
theorem Leaves.unused (h : Leaves db db' baseline lifecycle events)
    (hunused : ∀ id, db.nextId ≤ id → db.row (.acceptance id) = none)
    (id : ℕ) (hid : db'.nextId ≤ id) : db'.row (.acceptance id) = none := by
  rw [h.acceptance id (.inr hid)]
  exact hunused id (h.nextId.trans hid)

/-- Acceptance rows that exist stay. -/
theorem Leaves.acceptance_of_some (h : Leaves db db' baseline lifecycle events)
    (hunused : ∀ id, db.nextId ≤ id → db.row (.acceptance id) = none)
    {id : ℕ} {acc : AcceptanceRow} (hid : db.row (.acceptance id) = some acc) :
    db'.row (.acceptance id) = some acc := by
  rw [h.acceptance id, hid]
  by_contra hge
  simp [hunused id (by omega)] at hid

/-- A review keeps its meaning while the columns it reads stay. -/
theorem Leaves.holds (h : Leaves db db' baseline lifecycle events)
    (hunused : ∀ id, db.nextId ≤ id → db.row (.acceptance id) = none)
    {review : Review} {row : BaselineRow} (hholds : review.Holds db row) :
    review.Holds db' row := by
  cases review with
  | settled => exact hholds
  | expired => exact hholds
  | accepted reviewBy =>
      obtain ⟨hneeds, id, acc, hpointer, hrow, hreview⟩ := hholds
      exact ⟨hneeds, id, acc, hpointer, h.acceptance_of_some hunused hrow,
        hreview⟩

theorem Leaves.lifecycleIs {row : LifecycleRow}
    (h : Leaves db db' baseline (some row) events) :
    LifecycleIs db' row.currentState row.stateVersion
      row.pendingAcceptProjectionHash :=
  ⟨row, h.lifecycle, rfl, rfl, rfl⟩

theorem Leaves.baselineIs {row : BaselineRow}
    (h : Leaves db db' (some row) lifecycle events) {review : Review}
    (hholds : review.Holds db' row) :
    BaselineIs db' row.projectionHash review :=
  ⟨row, h.baseline, rfl, hholds⟩

/-- A baseline row that was left alone. -/
theorem Leaves.baselineIs_self
    (h : Leaves db db' (db.row .baseline) lifecycle events)
    (hunused : ∀ id, db.nextId ≤ id → db.row (.acceptance id) = none)
    {hash : Sha256} {review : Review} (hbase : BaselineIs db hash review) :
    BaselineIs db' hash review := by
  obtain ⟨row, hrow, hhash, hholds⟩ := hbase
  exact ⟨row, h.baseline.trans hrow, hhash, h.holds hunused hholds⟩

end Frames

/-! ## `ensureLifecycleRow` -/

theorem perform_ensureLifecycleRow_of_none {db : EnforcementDb}
    (h : db.row .lifecycle = none) (baselineRowExists : Bool) :
    (ensureLifecycleRow baselineRowExists).perform db =
      .ok (initialLifecycleRow baselineRowExists,
        db.setRow .lifecycle (initialLifecycleRow baselineRowExists)) := by
  simp [ensureLifecycleRow, h, Txn.perform_insert_of_none]

theorem perform_ensureLifecycleRow_of_some {db : EnforcementDb}
    {row : LifecycleRow} (h : db.row .lifecycle = some row)
    {baselineRowExists : Bool}
    (hrepair : baselineRowExists = true →
      row.currentState ≠ .baselineMissing) :
    (ensureLifecycleRow baselineRowExists).perform db = .ok (row, db) := by
  have hkeep : ¬(row.currentState = .baselineMissing ∧
      baselineRowExists = true) := fun hc => hrepair hc.2 hc.1
  simp [ensureLifecycleRow, h, hkeep]

/-! ## Recording a decision -/

/-- The baseline row after a check that found `baselineRow`. -/
def baselineAfterCheck (baselineRow : Option BaselineRow)
    (result : CheckEvaluationOk) : Option BaselineRow :=
  if (governedAcceptance baselineRow result).isSome then
    baselineRow.bind clearAcceptance
  else baselineRow

theorem perform_recordCheck {db : EnforcementDb} {life : LifecycleRow}
    {baselineRow : Option BaselineRow} (hbase : db.row .baseline = baselineRow)
    (hlife : db.row .lifecycle = some life) (e : Evidence)
    (result : CheckEvaluationOk) :
    ∃ db', (recordCheck e baselineRow life result).perform db =
        .ok (⟨result.httpStatus,
          checkPayload e baselineRow life result db.nextId⟩, db') ∧
      Leaves db db' (baselineAfterCheck baselineRow result)
        (some ⟨result.lifecycleAfter, life.stateVersion + 1,
          result.pendingAcceptProjectionHash, some (db.nextId + 1)⟩)
        [(checkEvent e baselineRow result db.nextId).normalized] := by
  cases hgoverned : (governedAcceptance baselineRow result).isSome with
  | false =>
      simp [recordCheck, Txn.perform, hlife, moveLifecycle, hgoverned]
      constructor <;> simp [baselineAfterCheck, hgoverned, hbase]
      omega
  | true =>
      cases baselineRow with
      | none => simp [governedAcceptance] at hgoverned
      | some row =>
          simp [recordCheck, Txn.perform, hlife, moveLifecycle, hgoverned, hbase, clearAcceptance]
          constructor <;> simp [baselineAfterCheck, hgoverned, clearAcceptance]
          omega

theorem perform_recordBaseline {db : EnforcementDb} {life : LifecycleRow}
    (hbase : db.row .baseline = none) (hlife : db.row .lifecycle = some life)
    (e : Evidence) (verdict : BaselineEvaluationOk) :
    ∃ db', (recordBaseline e life verdict).perform db =
        .ok (⟨200, .baselineCompleted (life.stateVersion + 1) db.nextId e.runId
          e.materialTruthSha256 verdict.nextAction⟩, db') ∧
      Leaves db db' (some (createBaselineUpsert e).newRow)
        (some ⟨.baselineActive, life.stateVersion + 1, none,
          some (db.nextId + 1)⟩)
        [.legacyBaselineCreated e.materialTruthSha256] := by
  simp [recordBaseline, upsertBaselineTx, Txn.perform, hbase, hlife, moveLifecycle]
  constructor <;> simp
  · omega
  · rfl

theorem perform_recordAccept {db : EnforcementDb} {life : LifecycleRow}
    {row : BaselineRow} (hbase : db.row .baseline = some row)
    (hlife : db.row .lifecycle = some life)
    (hunused : db.row (.acceptance db.nextId) = none) (e : Evidence)
    (body : AcceptBody) (verdict : AcceptEvaluationOk) :
    ∃ db', (recordAccept e body life verdict).perform db =
        .ok (⟨200, .acceptCompleted (life.stateVersion + 1) e.runId
          e.materialTruthSha256 db.nextId verdict.nextAction⟩, db') ∧
      Leaves db db' (some ((acceptUpsert e db.nextId).apply row))
        (some ⟨.rerunRequired, life.stateVersion + 1, none,
          some (db.nextId + 1)⟩)
        [.legacyDriftAccepted e.materialTruthSha256] ∧
      db'.row (.acceptance db.nextId) = some (acceptanceRow e body) := by
  simp [recordAccept, upsertBaselineTx, Txn.perform, hbase, hlife, hunused, moveLifecycle]
  constructor <;> simp
  · omega
  · intro id hid
    rw [Db.setRow_row_ne]
    · simp
    · simp
      omega
  · rfl

/-! ## The three transactions -/

/-- `t` run alone on `db` makes the move `step`. -/
def Refines (db : EnforcementDb) (t : EnforcementTxn Response)
    (step : PostureStep) : Prop :=
  ∃ response db', t.perform db = .ok (response, db') ∧
    Represents db' step.next ∧ response.answer = step.answer ∧
    enforcementEvents db'.log = enforcementEvents db.log ++ step.events

@[simp] theorem Posture.seen_of_ne {p : Posture} (h : p ≠ .unseen) :
    p.seen = p := by
  cases p <;> first | rfl | exact absurd rfl h

/-- `db'` is `db`, or `db` with the first lifecycle row of an account that has
no rows. -/
def Created (db db' : EnforcementDb) : Prop :=
  db' = db ∨ db.row .baseline = none ∧ db.row .lifecycle = none ∧
    db' = db.setRow .lifecycle (initialLifecycleRow false)

theorem Created.baseline {db db' : EnforcementDb} (h : Created db db') :
    db'.row .baseline = db.row .baseline := by
  obtain rfl | ⟨-, -, rfl⟩ := h
  · rfl
  · simp

theorem Created.acceptance {db db' : EnforcementDb} (h : Created db db')
    (id : ℕ) : db'.row (.acceptance id) = db.row (.acceptance id) := by
  obtain rfl | ⟨-, -, rfl⟩ := h
  · rfl
  · simp

theorem Created.lifecycle {db db' : EnforcementDb} (h : Created db db') :
    db'.row .lifecycle = db.row .lifecycle ∨
      db.row .lifecycle = none ∧
        db'.row .lifecycle = some (initialLifecycleRow false) := by
  obtain rfl | ⟨-, hnone, rfl⟩ := h
  · exact .inl rfl
  · exact .inr ⟨hnone, Db.setRow_row_self _ _ _⟩

theorem Created.log {db db' : EnforcementDb} (h : Created db db') :
    db'.log = db.log := by
  obtain rfl | ⟨-, -, rfl⟩ := h <;> rfl

/-- `ensureLifecycleRow` returns the lifecycle row of the posture, after
creating it for an account that has none. -/
theorem Represents.ensureLifecycleRow {db : EnforcementDb} {p : Posture}
    (h : Represents db p) :
    ∃ life db', (ensureLifecycleRow (db.row .baseline).isSome).perform db =
        .ok (life, db') ∧
      Represents db' p.seen ∧ db'.row .lifecycle = some life ∧
      Created db db' := by
  by_cases hp : p = .unseen
  · subst hp
    obtain ⟨⟨hbase, hlife⟩, hunused⟩ := h
    refine ⟨_, _, perform_ensureLifecycleRow_of_none hlife _, ⟨⟨?_, ?_⟩, ?_⟩,
      by simp, .inr ⟨hbase, hlife, by simp [hbase]⟩⟩
    · simpa using hbase
    · exact ⟨_, Db.setRow_row_self _ _ _, by simp [hbase, initialLifecycleRow,
        inferLifecycleFromBaselineExists], rfl, rfl⟩
    · simpa using hunused
  · obtain ⟨life, hlife⟩ := h.exists_lifecycle hp
    refine ⟨life, db, perform_ensureLifecycleRow_of_some hlife ?_, ?_, hlife,
      .inl rfl⟩
    · have hbase := congrArg Option.isSome h.baseline
      rw [Option.isSome_map] at hbase
      rw [hbase, (h.lifecycle hlife).1]
      cases p <;> simp
    · rwa [Posture.seen_of_ne hp]

/-- A transaction that goes on after `ensureLifecycleRow`. -/
theorem Refines.after (db : EnforcementDb) {db₁ : EnforcementDb} {life : LifecycleRow}
    {baselineRowExists : Bool} {f : LifecycleRow → EnforcementTxn Response}
    {step : PostureStep}
    (hrun : (ensureLifecycleRow baselineRowExists).perform db = .ok (life, db₁))
    (hcreated : Created db db₁) (h : Refines db₁ (f life) step) :
    Refines db ((ensureLifecycleRow baselineRowExists).bind f) step := by
  obtain ⟨response, db', hperform, hrep, hanswer, hevents⟩ := h
  refine ⟨response, db', ?_, hrep, hanswer, by rw [hevents, hcreated.log]⟩
  rw [Txn.perform_bind, hrun]
  exact hperform

/-- A refusal leaves the posture. -/
theorem Represents.refines_refused {db : EnforcementDb} {p : Posture}
    (h : Represents db p) {response : Response}
    (hanswer : response.answer = .refused) :
    Refines db (.done response) p.refused :=
  ⟨response, db, rfl, h, hanswer, by simp [Posture.refused]⟩

theorem executeFsmCreateBaseline_refines {db : EnforcementDb} {p : Posture}
    (h : Represents db p) (e : Evidence) :
    Refines db (executeFsmCreateBaseline e)
      (p.createBaseline e.materialTruthSha256
        (isDecisionGradeRunKind e.outcomeCertificate.runKind)) := by
  obtain ⟨life, db₁, hrun, hrep, hlife, hcreated⟩ := h.ensureLifecycleRow
  refine Refines.after db hrun hcreated ?_
  obtain ⟨hstate, hversion, -⟩ := hrep.lifecycle hlife
  unfold Posture.createBaseline
  cases hp : p.seen with
  | unseen => cases p <;> simp [Posture.seen] at hp
  | baselineMissing v =>
      rw [hp] at hrep hstate hversion
      cases hgrade : isDecisionGradeRunKind e.outcomeCertificate.runKind with
      | false =>
          simpa [evaluateCreateBaseline, hstate, hgrade] using
            hrep.refines_refused rfl
      | true =>
          simp only [evaluateCreateBaseline, hstate, hgrade]
          obtain ⟨db', hperform, hleaves⟩ :=
            perform_recordBaseline hrep.rows.1 hlife e baselineEstablished
          refine ⟨_, db', hperform, ⟨⟨?_, ?_⟩, hleaves.unused hrep.unused⟩, ?_,
            by simpa using hleaves.events⟩
          · exact hleaves.baselineIs ⟨rfl, rfl⟩
          · simpa [hversion] using hleaves.lifecycleIs
          · simp [Response.answer, hversion]
  | baselineActive v b =>
      rw [hp] at hrep hstate
      simpa [evaluateCreateBaseline, hstate] using
        hrep.refines_refused rfl
  | actionRequired v b review =>
      rw [hp] at hrep hstate
      simpa [evaluateCreateBaseline, hstate] using
        hrep.refines_refused rfl
  | rerunRequired v b review =>
      rw [hp] at hrep hstate
      simpa [evaluateCreateBaseline, hstate] using
        hrep.refines_refused rfl

@[simp] theorem acceptRefusal_answer (life : LifecycleRow) (refusal : Refusal) :
    (acceptRefusal life refusal).answer = .refused := by
  unfold acceptRefusal
  split <;> rfl

/-- An accept whose guards do not all hold is answered with a refusal. -/
theorem evaluateAccept_error {input : AcceptEvaluationInput}
    (h : ¬∃ verdict, evaluateAccept input = .ok verdict) :
    ∃ refusal, evaluateAccept input = .error refusal := by
  cases hresult : evaluateAccept input with
  | error refusal => exact ⟨refusal, rfl⟩
  | ok verdict => exact absurd ⟨verdict, hresult⟩ h

/-- What an accept does once there is a lifecycle row. -/
def answerAccept (e : Evidence) (body : AcceptBody) (life : LifecycleRow) :
    EnforcementTxn Response :=
  match evaluateAccept (acceptInput e body life) with
  | .error refusal => .done (acceptRefusal life refusal)
  | .ok verdict => recordAccept e body life verdict

theorem executeFsmAcceptDrift_refines {db : EnforcementDb} {p : Posture}
    (h : Represents db p) (e : Evidence) (body : AcceptBody) :
    Refines db (executeFsmAcceptDrift e body) (p.accept e body) := by
  obtain ⟨life, db₁, hrun, hrep, hlife, hcreated⟩ := h.ensureLifecycleRow
  refine Refines.after db hrun hcreated ?_
  obtain ⟨hstate, hversion, hpending⟩ := hrep.lifecycle hlife
  -- a refused accept leaves the posture, whatever guard failed
  have hrefuse : (¬∃ verdict, evaluateAccept (acceptInput e body life) =
      .ok verdict) → Refines db₁ (answerAccept e body life) p.seen.refused := by
    intro hno
    obtain ⟨refusal, hrefusal⟩ := evaluateAccept_error hno
    rw [answerAccept, hrefusal]
    exact hrep.refines_refused (acceptRefusal_answer life refusal)
  simp only [evaluateAccept_ok_iff] at hrefuse
  unfold Posture.accept
  cases hp : p.seen with
  | unseen => cases p <;> simp [Posture.seen] at hp
  | baselineMissing v =>
      rw [hp] at hrefuse hstate
      exact hrefuse (by simp [acceptInput, hstate])
  | baselineActive v b =>
      rw [hp] at hrefuse hstate
      exact hrefuse (by simp [acceptInput, hstate])
  | rerunRequired v b review =>
      rw [hp] at hrefuse hstate
      exact hrefuse (by simp [acceptInput, hstate])
  | actionRequired v b review =>
      rw [hp] at hrefuse hstate hversion hpending hrep
      by_cases hguard : body.lifecycleStateVersion = v ∧
          body.expectedProjectionHash = b.hex ∧
          isDecisionGradeRunKind e.outcomeCertificate.runKind = true
      · have hok : evaluateAccept (acceptInput e body life) =
            .ok driftAcknowledged := by
          rw [evaluateAccept_ok_iff]
          simp [acceptInput, hstate, hversion, hpending, hguard]
        obtain ⟨row, hrow, -, -⟩ := hrep.rows.1
        obtain ⟨db', hperform, hleaves, hacc⟩ :=
          perform_recordAccept hrow hlife (hrep.unused _ le_rfl) e body
            driftAcknowledged
        simp only [hguard, and_self, ↓reduceIte, hok]
        refine ⟨_, db', hperform, ⟨⟨?_, ?_⟩, hleaves.unused hrep.unused⟩, ?_,
          hleaves.events⟩
        · exact hleaves.baselineIs ⟨rfl, db₁.nextId, _, rfl, hacc, rfl⟩
        · simpa [hversion] using hleaves.lifecycleIs
        · simp [Response.answer, hversion]
      · simp only [hguard, ↓reduceIte]
        refine hrefuse ?_
        rintro ⟨_, -, hv, ⟨pending, hpend, hexp⟩, hgrade, -⟩
        simp_all [acceptInput]

/-- A refused accept writes nothing but the first lifecycle row. -/
theorem executeFsmAcceptDrift_created {db db' : EnforcementDb} {p : Posture}
    (h : Represents db p) {e : Evidence} {body : AcceptBody}
    {response : Response}
    (hperform : (executeFsmAcceptDrift e body).perform db = .ok (response, db'))
    (hanswer : response.answer = .refused) : Created db db' := by
  obtain ⟨life, db₁, hrun, hrep, hlife, hcreated⟩ := h.ensureLifecycleRow
  obtain ⟨-, -, hpending⟩ := hrep.lifecycle hlife
  have hstep : (executeFsmAcceptDrift e body).perform db =
      Txn.perform (answerAccept e body life) db₁ := by
    simp only [executeFsmAcceptDrift, Txn.bind_eq, Txn.select_bind,
      Txn.done_bind, Txn.perform_select, Txn.perform_bind, hrun]
    rfl
  rw [hstep, answerAccept] at hperform
  cases hverdict : evaluateAccept (acceptInput e body life) with
  | error refusal =>
      simp only [hverdict, Txn.perform_done, Except.ok.injEq,
        Prod.mk.injEq] at hperform
      rwa [← hperform.2]
  | ok verdict =>
      -- an accept whose guards hold is not refused
      obtain ⟨hstate, -, ⟨pending, hpend, -⟩, -⟩ :=
        (evaluateAccept_ok_iff _ _).mp hverdict
      have hopen : ∃ b, p.seen.baseline = some b := by
        refine ⟨pending, ?_⟩
        rw [acceptInput, hpending] at hpend
        cases hp : p.seen <;> simp_all
      obtain ⟨b, hb⟩ := hopen
      obtain ⟨row, hrow, -, -⟩ := hrep.baselineIs hb
      obtain ⟨db'', hrecord, -⟩ :=
        perform_recordAccept hrow hlife (hrep.unused _ le_rfl) e body verdict
      simp only [hverdict, hrecord, Except.ok.injEq, Prod.mk.injEq] at hperform
      rw [← hperform.1] at hanswer
      simp [Response.answer] at hanswer

/-! ### Checks -/

theorem checkPayload_answer (e : Evidence) (baselineRow : Option BaselineRow)
    (life : LifecycleRow) (result : CheckEvaluationOk) (status attemptId : ℕ) :
    Response.answer ⟨status, checkPayload e baselineRow life result attemptId⟩ =
      .checked result.decisionReasonCode result.decisionState
        (life.stateVersion + 1)
        (if result.httpStatus ≠ 409 ∧ result.lifecycleAfter = .actionRequired then
          result.pendingAcceptProjectionHash else none) := by
  by_cases hstatus : result.httpStatus = 409 <;>
    simp [checkPayload, Response.answer, checkBody, hstatus]

theorem checkEvent_normalized (e : Evidence) (baselineRow : Option BaselineRow)
    (result : CheckEvaluationOk) (attemptId : ℕ) :
    (checkEvent e baselineRow result attemptId).normalized =
      if result.decisionReasonCode = .checkMatch ∨
          result.decisionReasonCode = .rerunPass then
        .legacyCheckPass e.materialTruthSha256
      else .legacyDriftDetected (baselineRow.map (·.projectionHash))
        e.materialTruthSha256 := by
  by_cases hpass : result.decisionReasonCode = .checkMatch ∨
      result.decisionReasonCode = .rerunPass <;>
    simp [checkEvent, checkEventKind, EventRow.normalized, hpass]

/-- A recorded check makes the move whose rows it leaves. -/
theorem recordCheck_refines {db : EnforcementDb} {p : Posture}
    (h : Represents db p) {life : LifecycleRow}
    (hlife : db.row .lifecycle = some life) (e : Evidence)
    (result : CheckEvaluationOk) (next : Posture)
    (hnext : ∀ db', Leaves db db'
        (baselineAfterCheck (db.row .baseline) result)
        (some ⟨result.lifecycleAfter, life.stateVersion + 1,
          result.pendingAcceptProjectionHash, some (db.nextId + 1)⟩)
        [(checkEvent e (db.row .baseline) result db.nextId).normalized] →
      next.Rows db') :
    Refines db (recordCheck e (db.row .baseline) life result)
      (Posture.checked next result.decisionReasonCode result.decisionState
        (life.stateVersion + 1)
        (if result.httpStatus ≠ 409 ∧ result.lifecycleAfter = .actionRequired then
          result.pendingAcceptProjectionHash else none)
        (if result.decisionReasonCode = .checkMatch ∨
            result.decisionReasonCode = .rerunPass then
          .legacyCheckPass e.materialTruthSha256
        else .legacyDriftDetected p.baseline e.materialTruthSha256)) := by
  obtain ⟨db', hperform, hleaves⟩ := perform_recordCheck rfl hlife e result
  refine ⟨_, db', hperform, ⟨hnext db' hleaves, hleaves.unused h.unused⟩,
    checkPayload_answer _ _ _ _ _ _, ?_⟩
  rw [hleaves.events, checkEvent_normalized, h.baseline]
  rfl

theorem baselineAfterCheck_of_ne {baselineRow : Option BaselineRow}
    {result : CheckEvaluationOk}
    (h : result.decisionReasonCode ≠ .rerunPass) :
    baselineAfterCheck baselineRow result = baselineRow := by
  simp [baselineAfterCheck, governedAcceptance, h]

/-- A trusted rerun settles the baseline: the acceptance pointer is cleared. -/
theorem Leaves.settled {db db' : EnforcementDb} {baselineRow : Option BaselineRow}
    {result : CheckEvaluationOk} {lifecycle : Option LifecycleRow}
    {events : List FsmNormalizedEvent}
    (h : Leaves db db' (baselineAfterCheck baselineRow result) lifecycle events)
    {row : BaselineRow} (hrow : baselineRow = some row)
    (hpass : result.httpStatus = 200 ∧
      result.decisionState = .decisionTrusted ∧
      result.decisionReasonCode = .rerunPass)
    (hneeds : row.needsRebaseline = false) :
    BaselineIs db' row.projectionHash .settled := by
  have hbase := h.baseline
  cases hid : row.activeAcceptanceId with
  | none =>
      refine ⟨row, ?_, rfl, hid, hneeds⟩
      simpa [baselineAfterCheck, governedAcceptance, hpass, hrow, hid] using hbase
  | some id =>
      refine ⟨{ row with activeAcceptanceId := none }, ?_, rfl, rfl, hneeds⟩
      simpa [baselineAfterCheck, governedAcceptance, hpass, hrow, hid,
        clearAcceptance] using hbase

/-- A check that keeps the baseline row: only the lifecycle row moves. -/
theorem recordCheck_refines_of_ne_rerunPass {db : EnforcementDb} {p : Posture}
    (h : Represents db p) {life : LifecycleRow}
    (hlife : db.row .lifecycle = some life) (e : Evidence)
    (result : CheckEvaluationOk)
    (hreason : result.decisionReasonCode ≠ .rerunPass) (next : Posture)
    (hnext : ∀ db', Leaves db db' (db.row .baseline)
        (some ⟨result.lifecycleAfter, life.stateVersion + 1,
          result.pendingAcceptProjectionHash, some (db.nextId + 1)⟩)
        [(checkEvent e (db.row .baseline) result db.nextId).normalized] →
      next.Rows db') :
    Refines db (recordCheck e (db.row .baseline) life result)
      (Posture.checked next result.decisionReasonCode result.decisionState
        (life.stateVersion + 1)
        (if result.httpStatus ≠ 409 ∧ result.lifecycleAfter = .actionRequired then
          result.pendingAcceptProjectionHash else none)
        (if result.decisionReasonCode = .checkMatch then
          .legacyCheckPass e.materialTruthSha256
        else .legacyDriftDetected p.baseline e.materialTruthSha256)) := by
  have hmove := recordCheck_refines h hlife e result next fun db' hl =>
    hnext db' (by rwa [baselineAfterCheck_of_ne hreason] at hl)
  simpa [hreason] using hmove

/-- The part of a check after the review-by test. -/
theorem checkPosture_refines {db : EnforcementDb} {p : Posture}
    (h : Represents db p) (e : Evidence) (now : ℤ)
    (hnow : p.review.expire now = p.review) :
    Refines db (checkPosture e (db.row .baseline))
      (p.check e.materialTruthSha256 now) := by
  obtain ⟨life, db₁, hrun, hrep, hlife, hcreated⟩ := h.ensureLifecycleRow
  refine Refines.after db hrun hcreated ?_
  obtain ⟨hstate, hversion, hpending⟩ := hrep.lifecycle hlife
  rw [← Posture.review_seen] at hnow
  rw [← Posture.check_seen, ← hcreated.baseline]
  cases hp : p.seen with
  | unseen => cases p <;> simp [Posture.seen] at hp
  | baselineMissing v =>
      rw [hp] at hrep hversion
      have hnone := hrep.rows.1
      have hresult : evaluateCheck (checkInput e (db₁.row .baseline) life) =
          checkBaselineMissing := by
        simp [evaluateCheck, checkInput, hnone]
      have hpre : evaluateCheckPreconditions
          (checkInput e (db₁.row .baseline) life) = none := by
        simp [evaluateCheckPreconditions, checkInput, hnone]
      rw [hpre, hresult]
      have hmove := recordCheck_refines_of_ne_rerunPass hrep hlife e
        checkBaselineMissing (by decide) (.baselineMissing (v + 1))
        fun db' hleaves => ⟨hleaves.baseline.trans hnone, by
          simpa [checkBaselineMissing, hversion] using hleaves.lifecycleIs⟩
      simpa [Posture.check, checkBaselineMissing, hversion] using hmove
  | baselineActive v b =>
      rw [hp] at hrep hstate hversion
      obtain ⟨row, hrow, hhash, hholds⟩ := hrep.rows.1
      rw [hrow, evaluateCheckPreconditions_checkInput,
        evaluateCheck_checkInput e row (by simp [hstate]), ← hrow, hhash,
        hstate]
      by_cases hmatch : e.materialTruthSha256 = b
      · have hmove := recordCheck_refines_of_ne_rerunPass hrep hlife e
          (evaluateCheckAgainst .baselineActive b e.materialTruthSha256)
          (by simp [evaluateCheckAgainst, hmatch])
          (.baselineActive (v + 1) b) fun db' hl =>
            ⟨hl.baselineIs_self hrep.unused hrep.rows.1, by
              simpa [evaluateCheckAgainst, hmatch, hversion] using
                hl.lifecycleIs⟩
        simpa [Posture.check, evaluateCheckAgainst, hmatch, hversion, hholds.2]
          using hmove
      · have hmove := recordCheck_refines_of_ne_rerunPass hrep hlife e
          (evaluateCheckAgainst .baselineActive b e.materialTruthSha256)
          (by simp [evaluateCheckAgainst, hmatch])
          (.actionRequired (v + 1) b .settled) fun db' hl =>
            ⟨hl.baselineIs_self hrep.unused hrep.rows.1, by
              simpa [evaluateCheckAgainst, hmatch, hversion] using
                hl.lifecycleIs⟩
        simpa [Posture.check, evaluateCheckAgainst, hmatch, hversion, hholds.2]
          using hmove
  | actionRequired v b review =>
      rw [hp] at hrep hstate hversion hnow
      obtain ⟨row, hrow, hhash, hholds⟩ := hrep.rows.1
      rw [hrow, evaluateCheckPreconditions_checkInput,
        evaluateCheck_checkInput e row (by simp [hstate]), ← hrow, hhash,
        hstate]
      by_cases hexpired : review = .expired
      · subst hexpired
        simpa [Posture.check, Review.expire, hholds.2] using
          hrep.refines_refused rfl
      · have hneeds : row.needsRebaseline = false := hholds.needs hexpired
        have hmove := recordCheck_refines_of_ne_rerunPass hrep hlife e
          (evaluateCheckAgainst .actionRequired b e.materialTruthSha256)
          (by by_cases hmatch : e.materialTruthSha256 = b <;>
            simp [evaluateCheckAgainst, hmatch])
          (.actionRequired (v + 1) b review) fun db' hl =>
            ⟨hl.baselineIs_self hrep.unused hrep.rows.1, by
              by_cases hmatch : e.materialTruthSha256 = b <;>
              simpa [evaluateCheckAgainst, hmatch, hversion] using
                hl.lifecycleIs⟩
        rw [Posture.review] at hnow
        by_cases hmatch : e.materialTruthSha256 = b <;>
          simpa [Posture.check, evaluateCheckAgainst, hmatch, hversion, hneeds,
            hnow, hexpired] using hmove
  | rerunRequired v b review =>
      rw [hp] at hrep hstate hversion hnow
      obtain ⟨row, hrow, hhash, hholds⟩ := hrep.rows.1
      rw [hrow, evaluateCheckPreconditions_checkInput,
        evaluateCheck_checkInput e row (by simp [hstate]), ← hrow, hhash,
        hstate]
      by_cases hexpired : review = .expired
      · subst hexpired
        simpa [Posture.check, Review.expire, hholds.2] using
          hrep.refines_refused rfl
      · have hneeds : row.needsRebaseline = false := hholds.needs hexpired
        rw [Posture.review] at hnow
        by_cases hmatch : e.materialTruthSha256 = b
        · have hmove := recordCheck_refines hrep hlife e
            (evaluateCheckAgainst .rerunRequired b e.materialTruthSha256)
            (.baselineActive (v + 1) b) fun db' hl =>
              ⟨hhash ▸ hl.settled hrow (by simp [evaluateCheckAgainst, hmatch]) hneeds, by
                simpa [evaluateCheckAgainst, hmatch, hversion] using
                  hl.lifecycleIs⟩
          simpa [Posture.check, evaluateCheckAgainst, hmatch, hversion, hneeds,
            hnow, hexpired] using hmove
        · have hmove := recordCheck_refines_of_ne_rerunPass hrep hlife e
            (evaluateCheckAgainst .rerunRequired b e.materialTruthSha256)
            (by simp [evaluateCheckAgainst, hmatch])
            (.actionRequired (v + 1) b review) fun db' hl =>
              ⟨hl.baselineIs_self hrep.unused hrep.rows.1, by
                simpa [evaluateCheckAgainst, hmatch, hversion] using
                  hl.lifecycleIs⟩
          simpa [Posture.check, evaluateCheckAgainst, hmatch, hversion, hneeds,
            hnow, hexpired] using hmove

theorem perform_executeFsmCheck_of_expired {db : EnforcementDb}
    {row : BaselineRow} {id : ℕ} {now : ℤ} (hrow : db.row .baseline = some row)
    (hpointer : row.activeAcceptanceId = some id)
    (hexpired : reviewExpired now (db.row (.acceptance id)) = true)
    (e : Evidence) :
    (executeFsmCheck e now).perform db =
      .ok (refusalResponse rebaseRequired,
        db.setRow .baseline
          { row with needsRebaseline := true, activeAcceptanceId := none }) := by
  simp [executeFsmCheck, Txn.perform, hrow, hpointer, hexpired, expireBaseline]

theorem perform_executeFsmCheck_of_current {db : EnforcementDb} {now : ℤ}
    (hcurrent : ∀ id, (db.row .baseline).bind (·.activeAcceptanceId) = some id →
      reviewExpired now (db.row (.acceptance id)) = false)
    (e : Evidence) :
    (executeFsmCheck e now).perform db =
      (checkPosture e (db.row .baseline)).perform db := by
  cases hpointer : (db.row .baseline).bind (·.activeAcceptanceId) with
  | none => simp [executeFsmCheck, hpointer]
  | some id => simp [executeFsmCheck, hpointer, hcurrent id hpointer]

/-- The review-by test looks at exactly the review of the posture. -/
theorem Represents.reviewExpired_iff {db : EnforcementDb} {p : Posture}
    (h : Represents db p) (now : ℤ) :
    (∃ row id, db.row .baseline = some row ∧
        row.activeAcceptanceId = some id ∧
        reviewExpired now (db.row (.acceptance id)) = true) ↔
      p.review.expire now ≠ p.review := by
  have hnone : ∀ {b}, BaselineIs db b .settled ∨ BaselineIs db b .expired →
      ¬∃ row id, db.row .baseline = some row ∧
        row.activeAcceptanceId = some id ∧
        reviewExpired now (db.row (.acceptance id)) = true := by
    rintro b (⟨row, hrow, -, hpointer, -⟩ | ⟨row, hrow, -, hpointer, -⟩) <;>
      simp [hrow, hpointer]
  have hreview : ∀ {b review}, BaselineIs db b review →
      ((∃ row id, db.row .baseline = some row ∧
        row.activeAcceptanceId = some id ∧
        reviewExpired now (db.row (.acceptance id)) = true) ↔
      review.expire now ≠ review) := by
    intro b review hbase
    cases review with
    | settled => simpa [Review.expire] using hnone (.inl hbase)
    | expired => simpa [Review.expire] using hnone (.inr hbase)
    | accepted reviewBy =>
        obtain ⟨row, hrow, -, -, id, acc, hpointer, hacc, hby⟩ := hbase
        cases reviewBy with
        | none =>
            simp [hrow, hpointer, hacc, hby, reviewExpired, Review.expire]
        | some t =>
            by_cases hle : t ≤ now <;>
              simp [hrow, hpointer, hacc, hby, hle, reviewExpired,
                Review.expire]
  obtain ⟨hrows, -⟩ := h
  cases p with
  | unseen => simp [hrows.1, Review.expire]
  | baselineMissing v => simp [hrows.1, Review.expire]
  | baselineActive v b => exact hreview hrows.1
  | actionRequired v b review => exact hreview hrows.1
  | rerunRequired v b review => exact hreview hrows.1

/-- The early return of an expired review marks the baseline. -/
theorem Represents.expire_check {db : EnforcementDb} {p : Posture}
    (h : Represents db p) {row : BaselineRow} {now : ℤ}
    (hrow : db.row .baseline = some row)
    (hnow : p.review.expire now ≠ p.review) (observed : Sha256) :
    Represents
      (db.setRow .baseline
        { row with needsRebaseline := true, activeAcceptanceId := none })
      (p.check observed now).next := by
  have hexpire := Review.expire_of_ne hnow
  have hbase : ∀ {b review}, BaselineIs db b review →
      BaselineIs (db.setRow .baseline
        { row with needsRebaseline := true, activeAcceptanceId := none })
        b .expired := by
    rintro b review ⟨row', hrow', hhash, -⟩
    obtain rfl : row = row' := by simpa [hrow] using hrow'
    exact ⟨_, Db.setRow_row_self _ _ _, hhash, rfl, rfl⟩
  have hlife : ∀ {state version pending},
      LifecycleIs db state version pending →
      LifecycleIs (db.setRow .baseline
        { row with needsRebaseline := true, activeAcceptanceId := none })
        state version pending := by
    rintro state version pending ⟨life, hlife, hrest⟩
    exact ⟨life, by simpa using hlife, hrest⟩
  refine ⟨?_, by simpa using h.unused⟩
  cases p with
  | actionRequired v b review =>
      rw [Posture.review] at hexpire
      simpa [Posture.check, hexpire, Posture.refused] using
        ⟨hbase h.rows.1, hlife h.rows.2⟩
  | rerunRequired v b review =>
      rw [Posture.review] at hexpire
      simpa [Posture.check, hexpire, Posture.refused] using
        ⟨hbase h.rows.1, hlife h.rows.2⟩
  | unseen => exact absurd rfl hnow
  | baselineMissing v => exact absurd rfl hnow
  | baselineActive v b => exact absurd rfl hnow

theorem executeFsmCheck_refines {db : EnforcementDb} {p : Posture}
    (h : Represents db p) (e : Evidence) (now : ℤ) :
    Refines db (executeFsmCheck e now) (p.check e.materialTruthSha256 now) := by
  by_cases hnow : p.review.expire now = p.review
  · obtain ⟨response, db', hperform, hrest⟩ := checkPosture_refines h e now hnow
    refine ⟨response, db', ?_, hrest⟩
    rw [perform_executeFsmCheck_of_current, hperform]
    intro id hid
    rw [← Bool.not_eq_true]
    intro hexpired
    obtain ⟨row, hrow, hpointer⟩ := Option.bind_eq_some_iff.mp hid
    exact (h.reviewExpired_iff now).mp ⟨row, id, hrow, hpointer, hexpired⟩ hnow
  · obtain ⟨row, id, hrow, hpointer, hexpired⟩ :=
      (h.reviewExpired_iff now).mpr hnow
    refine ⟨_, _, perform_executeFsmCheck_of_expired hrow hpointer hexpired e,
      h.expire_check hrow hnow e.materialTruthSha256, ?_⟩
    have hexpire := Review.expire_of_ne hnow
    cases p with
    | unseen => exact absurd rfl hnow
    | baselineMissing v => exact absurd rfl hnow
    | baselineActive v b => exact absurd rfl hnow
    | actionRequired v b review =>
        rw [Posture.review] at hexpire
        simp [Posture.check, Posture.refused, hexpire, Response.answer,
          refusalResponse]
    | rerunRequired v b review =>
        rw [Posture.review] at hexpire
        simp [Posture.check, Posture.refused, hexpire, Response.answer,
          refusalResponse]

/-! ## Runs -/

/-- Serving one request makes the move of the posture machine. -/
theorem serveRequest_refines {db : EnforcementDb} {p : Posture}
    (h : Represents db p) (r : Request) :
    ∃ response db', serveRequest db r = (db', .ok response) ∧
      Represents db' (p.serve r).next ∧
      response.answer = (p.serve r).answer ∧
      enforcementEvents db'.log =
        enforcementEvents db.log ++ (p.serve r).events := by
  have hmove : Refines db r.transaction (p.serve r) := by
    cases r with
    | createBaseline e now => exact executeFsmCreateBaseline_refines h e
    | check e now => exact executeFsmCheck_refines h e now
    | accept e raw now =>
        cases hparse : parseAcceptEvidenceInput raw now with
        | error message =>
            have hrefuse : Refines db (.done (badRequest message)) p.refused :=
              h.refines_refused rfl
            simpa [Request.transaction, Posture.serve, hparse] using hrefuse
        | ok body =>
            simpa [Request.transaction, Posture.serve, hparse] using
              executeFsmAcceptDrift_refines h e body
  obtain ⟨response, db', hperform, hrest⟩ := hmove
  exact ⟨response, db', Txn.serveAlone_of_ok hperform, hrest⟩

/-- An accept that does not go through writes nothing but the first lifecycle
row. -/
theorem serveRequest_accept_created {db : EnforcementDb} {p : Posture}
    (h : Represents db p) {e : Evidence} {raw : AcceptBody} {now : ℤ}
    (hanswer : (p.serve (.accept e raw now)).answer = .refused) :
    Created db (serveRequest db (.accept e raw now)).1 := by
  cases hparse : parseAcceptEvidenceInput raw now with
  | error message =>
      left
      simp [serveRequest, Request.transaction, hparse, Txn.serveAlone]
  | ok body =>
      obtain ⟨response, db', hperform, -, hresponse, -⟩ :=
        executeFsmAcceptDrift_refines h e body
      have hserve : serveRequest db (.accept e raw now) = (db', .ok response) := by
        apply Txn.serveAlone_of_ok
        simpa [Request.transaction, hparse] using hperform
      rw [hserve]
      apply executeFsmAcceptDrift_created h hperform
      rw [hresponse]
      simpa [Posture.serve, hparse] using hanswer

/-- The posture machine serves a run. -/
def Posture.after (p : Posture) (rs : List Request) : Posture :=
  rs.foldl (fun p r => (p.serve r).next) p

@[simp] theorem Posture.after_nil (p : Posture) : p.after [] = p := rfl

@[simp] theorem Posture.after_cons (p : Posture) (r : Request)
    (rs : List Request) :
    p.after (r :: rs) = (p.serve r).next.after rs := rfl

theorem Posture.after_append (p : Posture) (rs rs' : List Request) :
    p.after (rs ++ rs') = (p.after rs).after rs' := List.foldl_append

theorem finish_represents {db : EnforcementDb} {p : Posture}
    (h : Represents db p) (rs : List Request) :
    Represents (finish serveRequest db rs) (p.after rs) := by
  induction rs generalizing db p with
  | nil => exact h
  | cons r rs ih =>
      obtain ⟨response, db', hserve, hnext, -⟩ := serveRequest_refines h r
      rw [finish_cons, hserve]
      exact ih hnext

/-- The rows of an account after any run are those of a posture. -/
theorem accountAfter_represents (rs : List Request) :
    Represents (accountAfter rs) (Posture.unseen.after rs) :=
  finish_represents represents_emptyAccount rs

end AgentSkeptic.Hosted
