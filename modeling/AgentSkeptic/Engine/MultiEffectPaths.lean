import AgentSkeptic.Engine.PolicyExecution
import AgentSkeptic.Support.Utf16Sort

/-!
# The paths of several effects

The rollups of `multiEffectRollup.ts` and the classifications of
`verificationPolicy.ts` as they zip the effects of a step, or its relational
checks, with their reconcile outputs by position and sort them by id: the strong
synchronous path, the strong asynchronous path and the polls of the eventual
path.

`effects_paths` and `checks_paths` say that every path is one rollup, so that
`multi_effect_paths_agree` holds for every order of the registry.
-/

namespace AgentSkeptic.Engine

open AgentSkeptic.Support

/-! ## Outputs by position -/

/-- The calls of one path, each with its position. -/
abbrev Reconcile (α : Type) := ℕ → α → Except String ReconcileOutput

/-- `Promise.all(items.map(reconcile))`, or the loop that calls one by one. -/
def callEach {α : Type} (reconcile : Reconcile α) (items : List α) :
    Except String (List ReconcileOutput) :=
  items.zipIdx.mapM fun item => reconcile item.2 item.1

/-- `recs[i]!`. -/
def recAt (recs : List ReconcileOutput) (i : ℕ) : Except String ReconcileOutput :=
  match recs[i]? with
  | some rec => .ok rec
  | none => .error "Cannot read properties of undefined (reading 'status')"

/-- `items.map((item, i) => row(item, recs[i]!))`. -/
def zipRecs {α β : Type} (row : α → ReconcileOutput → β) (items : List α)
    (recs : List ReconcileOutput) : Except String (List β) :=
  items.zipIdx.mapM fun item => do
    let rec ← recAt recs item.2
    .ok (row item.1 rec)

/-! ## Effects -/

/-- A row of `rollupMultiEffectsFromReconciledRows`. -/
structure ReconciledEffect where
  id : String
  status : StepStatus
  reasons : List Reason
  evidenceSummary : List (String × Json)
  table : String
  identityEq : List IdentityEqPair
  requiredFields : ScalarFields

def ReconciledEffect.effect (r : ReconciledEffect) : ResolvedEffect :=
  ⟨r.id, r.table, r.identityEq, r.requiredFields⟩

def ReconciledEffect.row (r : ReconciledEffect) : EffectRow :=
  ⟨r.id, r.status, r.reasons, r.evidenceSummary⟩

def reconciledEffect (e : ResolvedEffect) (rec : ReconcileOutput) : ReconciledEffect where
  id := e.id
  status := rec.status
  reasons := rec.reasons
  evidenceSummary := rec.evidenceSummary
  table := e.request.table
  identityEq := e.request.identityEq
  requiredFields := e.request.requiredFields

/-- `buildRollup` of sorted rows. -/
def rollupSorted (sorted : List ReconciledEffect) : PolicyExecutionOutput :=
  buildRollup (.sqlEffects (sorted.map ReconciledEffect.effect))
    (sorted.map ReconciledEffect.row)

def rollupMultiEffectsFromReconciledRows (rows : List ReconciledEffect) :
    PolicyExecutionOutput :=
  rollupSorted (sortById ReconciledEffect.id rows)

/-- Each effect is made a row as it is reconciled. -/
def rollupAsReconciled (reconcile : Reconcile ResolvedEffect)
    (effects : List ResolvedEffect) : Except String PolicyExecutionOutput := do
  let rows ← effects.zipIdx.mapM fun e => do
    let rec ← reconcile e.2 e.1
    .ok (reconciledEffect e.1 rec)
  .ok (rollupSorted (sortById ReconciledEffect.id rows))

def rollupMultiEffectsSync (reconcileSqlRow : Reconcile ResolvedEffect)
    (effects : List ResolvedEffect) : Except String PolicyExecutionOutput :=
  rollupAsReconciled reconcileSqlRow effects

def rollupMultiEffectsAsync (reconcileSqlRowAsync : Reconcile ResolvedEffect)
    (effects : List ResolvedEffect) : Except String PolicyExecutionOutput :=
  rollupAsReconciled reconcileSqlRowAsync effects

def reconcileRowsToEffectInput (effects : List ResolvedEffect)
    (recs : List ReconcileOutput) : Except String (List ReconciledEffect) :=
  zipRecs reconciledEffect effects recs

/-- The strong branch of `executeVerificationWithPolicyAsync`. -/
def strongEffectsAsync (reconcileRow : Reconcile ResolvedEffect)
    (effects : List ResolvedEffect) : Except String PolicyExecutionOutput := do
  let recs ← callEach reconcileRow effects
  let rows ← reconcileRowsToEffectInput effects recs
  .ok (rollupMultiEffectsFromReconciledRows rows)

inductive Classified where
  | pendingAllMissing
  | done (out : PolicyExecutionOutput)

def classifyMultiEffectAfterReconcile (effects : List ResolvedEffect)
    (recs : List ReconcileOutput) : Except String Classified := do
  let unsorted ← reconcileRowsToEffectInput effects recs
  let rows := sortById ReconciledEffect.id unsorted
  if (rows.filter (·.status = .incompleteVerification)).length > 0 then
    .ok (.done (rollupMultiEffectsFromReconciledRows rows))
  else if (rows.filter (·.status = .verified)).length = rows.length then
    .ok (.done (rollupMultiEffectsFromReconciledRows rows))
  else if rows.all (·.status = .missing) then
    .ok .pendingAllMissing
  else
    .ok (.done (rollupMultiEffectsFromReconciledRows rows))

/-! ## Relational checks -/

def checkRow (pair : ResolvedRelationalCheck × ReconcileOutput) : EffectRow :=
  ⟨pair.1.id, pair.2.status, pair.2.reasons, pair.2.evidenceSummary⟩

def rollupSqlRelationalFromReconciled (checks : List ResolvedRelationalCheck)
    (recs : List ReconcileOutput) : Except String PolicyExecutionOutput := do
  let unsorted ← zipRecs Prod.mk checks recs
  let pairs := sortById (fun pair => pair.1.id) unsorted
  .ok (buildRollup (.sqlRelational (pairs.map Prod.fst)) (pairs.map checkRow))

/-- Every check is reconciled, and the outputs are rolled up. -/
def rollupAfterReconcile (reconcile : Reconcile ResolvedRelationalCheck)
    (checks : List ResolvedRelationalCheck) : Except String PolicyExecutionOutput := do
  let recs ← callEach reconcile checks
  rollupSqlRelationalFromReconciled checks recs

def rollupSqlRelationalSync (reconcileRelationalSqlite : Reconcile ResolvedRelationalCheck)
    (checks : List ResolvedRelationalCheck) : Except String PolicyExecutionOutput :=
  rollupAfterReconcile reconcileRelationalSqlite checks

def rollupSqlRelationalAsync (reconcileRelationalCheck : Reconcile ResolvedRelationalCheck)
    (checks : List ResolvedRelationalCheck) : Except String PolicyExecutionOutput :=
  rollupAfterReconcile reconcileRelationalCheck checks

def classifyMultiRelationalAfterReconcile (checks : List ResolvedRelationalCheck)
    (recs : List ReconcileOutput) : Except String Classified := do
  let unsorted ← zipRecs Prod.mk checks recs
  let pairs := (sortById (fun pair => pair.1.id) unsorted).map checkRow
  let out ← rollupSqlRelationalFromReconciled checks recs
  if (pairs.filter (·.status = .incompleteVerification)).length > 0 then
    .ok (.done out)
  else if (pairs.filter (·.status = .verified)).length = pairs.length then
    .ok (.done out)
  else if pairs.all (·.status = .missing) then
    .ok .pendingAllMissing
  else
    .ok (.done out)

/-! ## Polls -/

/-- The loop of the eventual path, from the `k`-th attempt on. -/
def pollClassified (attempt : ℕ → Except String (List ReconcileOutput × Classified))
    (uncertain : List ReconcileOutput → ℕ → ℤ → PolicyExecutionOutput) (now : ℕ → ℤ)
    (verificationWindowMs : ℤ) : ℕ → ℕ → Except String PolicyExecutionOutput
  | 0, _ => .error "still polling"
  | fuel + 1, k => do
      let (recs, classified) ← attempt k
      match classified with
      | .done out => .ok out
      | .pendingAllMissing =>
          if verificationWindowMs ≤ now k - now 0 then
            .ok (uncertain recs k (now (k + 1) - now 0))
          else
            pollClassified attempt uncertain now verificationWindowMs fuel (k + 1)

/-- One attempt: all items are reconciled and classified. -/
def attemptAll {α : Type} (classify : List α → List ReconcileOutput → Except String Classified)
    (reconcile : Reconcile α) (items : List α) :
    Except String (List ReconcileOutput × Classified) := do
  let recs ← callEach reconcile items
  let classified ← classify items recs
  .ok (recs, classified)

/-! ## Every path is one rollup -/

/-- The row of an item with its output. -/
def rowOf {α : Type} (id : α → String) (item : α) (rec : ReconcileOutput) : EffectRow :=
  ⟨id item, rec.status, rec.reasons, rec.evidenceSummary⟩

/-- The rollup of items with their outputs. -/
def rolledUp {α : Type} (id : α → String) (payload : List α → ResolvedRequest)
    (items : List α) (recs : List ReconcileOutput) : PolicyExecutionOutput :=
  buildRollup (payload (sortById id items))
    (sortById EffectRow.id (List.zipWith (rowOf id) items recs))

section Zips

variable {α β : Type}

theorem zipWith_left {items : List α} {recs : List β} (h : recs.length = items.length) :
    List.zipWith (fun item _ => item) items recs = items := by
  apply List.ext_getElem
  · simp [h]
  · intro i hi _
    simp

theorem recAt_of_lt {recs : List ReconcileOutput} {i : ℕ} (h : i < recs.length) :
    recAt recs i = .ok recs[i] := by
  simp [recAt, h]

theorem zipRecs_eq {row : α → ReconcileOutput → β} {items : List α}
    {recs : List ReconcileOutput} (h : recs.length = items.length) :
    zipRecs row items recs = .ok (List.zipWith row items recs) := by
  apply mapM_eq_ok.mpr
  apply List.forall₂_iff_get.mpr
  refine ⟨by simp [h], ?_⟩
  intro i hitem hrow
  have hi : i < recs.length := by simpa [h] using hitem
  apply bind_eq_ok.mpr
  exact ⟨recs[i], by simpa using recAt_of_lt hi, by simp⟩

theorem callEach_length {reconcile : Reconcile α} {items : List α}
    {recs : List ReconcileOutput} (h : callEach reconcile items = .ok recs) :
    recs.length = items.length := by
  have hlength := (mapM_eq_ok.mp h).length_eq
  simpa using hlength.symm

/-- Two continuations of a step that agree on its answers. -/
theorem bind_congr_ok {ε γ : Type} {x : Except ε α} {f g : α → Except ε γ}
    (h : ∀ a, x = .ok a → f a = g a) : x >>= f = x >>= g := by
  cases x with
  | error e => rfl
  | ok a => exact h a rfl

/-- Making the rows as the items are reconciled is making them afterwards. -/
theorem mapM_row {row : α → ReconcileOutput → β} {reconcile : Reconcile α}
    {items : List α} :
    (items.zipIdx.mapM fun item => do
        let rec ← reconcile item.2 item.1
        .ok (row item.1 rec)) = (do
      let recs ← callEach reconcile items
      .ok (List.zipWith row items recs)) := by
  unfold callEach
  generalize 0 = k
  induction items generalizing k with
  | nil => rfl
  | cons item items ih =>
      simp only [List.zipIdx_cons, List.mapM_cons]
      cases reconcile k item with
      | error e => rfl
      | ok rec =>
          have hrest := ih (k + 1)
          simp only [bind, Except.bind] at hrest ⊢
          rw [hrest]
          cases (items.zipIdx (k + 1)).mapM fun item => reconcile item.2 item.1 with
          | error e => rfl
          | ok recs => rfl

end Zips

/-- Sorting by id commutes with a change of the items that leaves their ids. -/
theorem map_sortById {α β : Type} {id : α → String} {id' : β → String} (f : α → β)
    (items : List α) (h : ∀ item, id' (f item) = id item) :
    (sortById id items).map f = sortById id' (items.map f) :=
  map_sortBy id f fun item _ => h item

theorem ReconciledEffect.effect_id (r : ReconciledEffect) : r.effect.id = r.id := rfl

theorem ReconciledEffect.row_id (r : ReconciledEffect) : r.row.id = r.id := rfl

theorem checkOf_id (pair : ResolvedRelationalCheck × ReconcileOutput) :
    pair.1.id = pair.1.id := rfl

theorem checkRow_id (pair : ResolvedRelationalCheck × ReconcileOutput) :
    (checkRow pair).id = pair.1.id := rfl

theorem rollupFromReconciled_eq {effects : List ResolvedEffect}
    {recs : List ReconcileOutput} (h : recs.length = effects.length) :
    rollupMultiEffectsFromReconciledRows
        (List.zipWith reconciledEffect effects recs) =
      rolledUp ResolvedEffect.id .sqlEffects effects recs := by
  have heffects : (List.zipWith reconciledEffect effects recs).map
      ReconciledEffect.effect = effects := by
    rw [List.map_zipWith]
    exact zipWith_left h
  have hrows : (List.zipWith reconciledEffect effects recs).map ReconciledEffect.row =
      List.zipWith (rowOf ResolvedEffect.id) effects recs := by
    rw [List.map_zipWith]
    rfl
  have hsortedEffects := map_sortById ReconciledEffect.effect
    (List.zipWith reconciledEffect effects recs) ReconciledEffect.effect_id
  have hsortedRows := map_sortById ReconciledEffect.row
    (List.zipWith reconciledEffect effects recs) ReconciledEffect.row_id
  rw [heffects] at hsortedEffects
  rw [hrows] at hsortedRows
  simp only [rollupMultiEffectsFromReconciledRows, rollupSorted, rolledUp,
    hsortedEffects, hsortedRows]

/-- The synchronous and the asynchronous rollup of effects. -/
theorem rollupAsReconciled_eq (reconcile : Reconcile ResolvedEffect)
    (effects : List ResolvedEffect) :
    rollupAsReconciled reconcile effects = (do
      let recs ← callEach reconcile effects
      .ok (rolledUp ResolvedEffect.id .sqlEffects effects recs)) := by
  unfold rollupAsReconciled
  rw [mapM_row, bind_assoc]
  apply bind_congr_ok
  intro recs hrecs
  exact congrArg Except.ok (rollupFromReconciled_eq (callEach_length hrecs))

/-- The strong branch of the asynchronous executor. -/
theorem strongEffectsAsync_eq (reconcile : Reconcile ResolvedEffect)
    (effects : List ResolvedEffect) :
    strongEffectsAsync reconcile effects = (do
      let recs ← callEach reconcile effects
      .ok (rolledUp ResolvedEffect.id .sqlEffects effects recs)) := by
  apply bind_congr_ok
  intro recs hrecs
  have hlength := callEach_length hrecs
  rw [reconcileRowsToEffectInput, zipRecs_eq hlength]
  exact congrArg Except.ok (rollupFromReconciled_eq hlength)

theorem rollupSqlRelationalFromReconciled_eq {checks : List ResolvedRelationalCheck}
    {recs : List ReconcileOutput} (h : recs.length = checks.length) :
    rollupSqlRelationalFromReconciled checks recs =
      .ok (rolledUp ResolvedRelationalCheck.id .sqlRelational checks recs) := by
  have hchecks : (List.zipWith Prod.mk checks recs).map Prod.fst = checks := by
    rw [List.map_zipWith]
    exact zipWith_left h
  have hrows : (List.zipWith Prod.mk checks recs).map checkRow =
      List.zipWith (rowOf ResolvedRelationalCheck.id) checks recs := by
    rw [List.map_zipWith]
    rfl
  have hsortedChecks := map_sortById Prod.fst (List.zipWith Prod.mk checks recs)
    checkOf_id
  have hsortedRows := map_sortById checkRow (List.zipWith Prod.mk checks recs)
    checkRow_id
  rw [hchecks] at hsortedChecks
  rw [hrows] at hsortedRows
  rw [rollupSqlRelationalFromReconciled, zipRecs_eq h]
  simp only [bind, Except.bind, rolledUp, hsortedChecks, hsortedRows]

/-- The synchronous and the asynchronous rollup of relational checks. -/
theorem rollupAfterReconcile_eq (reconcile : Reconcile ResolvedRelationalCheck)
    (checks : List ResolvedRelationalCheck) :
    rollupAfterReconcile reconcile checks = (do
      let recs ← callEach reconcile checks
      .ok (rolledUp ResolvedRelationalCheck.id .sqlRelational checks recs)) := by
  apply bind_congr_ok
  intro recs hrecs
  exact rollupSqlRelationalFromReconciled_eq (callEach_length hrecs)

theorem executeItemsStrong_eq {α : Type} (id : α → String)
    (payload : List α → ResolvedRequest) (reconcile : Reconcile α) (items : List α) :
    executeItemsStrong id reconcile items (payload (sortById id items)) = (do
      let recs ← callEach reconcile items
      .ok (rolledUp id payload items recs)) := by
  have hrows : reconcileItems id reconcile items = (do
      let recs ← callEach reconcile items
      .ok (List.zipWith (rowOf id) items recs)) :=
    @mapM_row _ _ (rowOf id) reconcile items
  unfold executeItemsStrong
  rw [hrows, bind_assoc]
  rfl

/-! ### The classifications -/

/-- What one attempt comes to. -/
def classified {α : Type} (id : α → String) (payload : List α → ResolvedRequest)
    (items : List α) (recs : List ReconcileOutput) : Classified :=
  if pendingAllMissing (List.zipWith (rowOf id) items recs) then .pendingAllMissing
  else .done (rolledUp id payload items recs)

/-- The tests of a classification, on rows in any order. -/
theorem classify_eq {β : Type} {row : β → EffectRow} {sorted : List β}
    {rows : List EffectRow} (h : (sorted.map row).Perm rows)
    (out : PolicyExecutionOutput) :
    (if (sorted.filter fun b =>
          (row b).status = StepStatus.incompleteVerification).length > 0 then
        (.ok (.done out) : Except String Classified)
      else if (sorted.filter fun b =>
          (row b).status = StepStatus.verified).length = sorted.length then
        .ok (.done out)
      else if sorted.all fun b => (row b).status = StepStatus.missing then
        .ok .pendingAllMissing
      else .ok (.done out)) =
      .ok (if pendingAllMissing rows then .pendingAllMissing else .done out) := by
  have hcount (status : StepStatus) :
      (sorted.filter fun b => (row b).status = status).length =
        (rows.filter (·.status = status)).length := by
    rw [← (h.filter _).length_eq, List.filter_map, List.length_map]
    rfl
  have hlength : sorted.length = rows.length := by
    rw [← h.length_eq, List.length_map]
  have hincomplete : (rows.filter (·.status = .incompleteVerification)).length > 0 ↔
      rows.any (·.status = .incompleteVerification) = true := by
    rw [gt_iff_lt, List.length_pos_iff_exists_mem, List.any_eq_true]
    simp only [List.mem_filter]
  have hmissing : (sorted.all fun b => (row b).status = StepStatus.missing) =
      rows.all (·.status = .missing) := by
    rw [← h.all_eq, List.all_map]
    rfl
  rw [hcount, hcount, hlength]
  simp only [hincomplete, hmissing, pendingAllMissing]
  by_cases hany : (rows.any (·.status = .incompleteVerification)) = true
  · simp only [hany, if_true, Bool.false_eq_true, if_false]
  · by_cases hall : (rows.filter (·.status = .verified)).length = rows.length
    · simp only [hany, hall, if_true, Bool.false_eq_true, if_false]
    · simp only [hany, hall, Bool.false_eq_true, if_false]
      split_ifs
      · rfl
      · rfl

theorem classifyMultiEffect_eq {effects : List ResolvedEffect}
    {recs : List ReconcileOutput} (h : recs.length = effects.length) :
    classifyMultiEffectAfterReconcile effects recs =
      .ok (classified ResolvedEffect.id .sqlEffects effects recs) := by
  have hperm : ((sortById ReconciledEffect.id
      (List.zipWith reconciledEffect effects recs)).map ReconciledEffect.row).Perm
        (List.zipWith (rowOf ResolvedEffect.id) effects recs) := by
    have hrows : (List.zipWith reconciledEffect effects recs).map ReconciledEffect.row =
        List.zipWith (rowOf ResolvedEffect.id) effects recs := by
      rw [List.map_zipWith]
      rfl
    rw [← hrows]
    exact (sortBy_perm _ _).map _
  -- The rows are sorted again by the rollup.
  have hagain : rollupMultiEffectsFromReconciledRows (sortById ReconciledEffect.id
      (List.zipWith reconciledEffect effects recs)) =
        rolledUp ResolvedEffect.id .sqlEffects effects recs := by
    rw [← rollupFromReconciled_eq h, rollupMultiEffectsFromReconciledRows,
      rollupMultiEffectsFromReconciledRows]
    exact congrArg rollupSorted (sortBy_of_pairwise (pairwise_sortBy _ _))
  rw [classifyMultiEffectAfterReconcile, reconcileRowsToEffectInput, zipRecs_eq h]
  simp only [bind, Except.bind, hagain]
  exact classify_eq hperm _

theorem classifyMultiRelational_eq {checks : List ResolvedRelationalCheck}
    {recs : List ReconcileOutput} (h : recs.length = checks.length) :
    classifyMultiRelationalAfterReconcile checks recs =
      .ok (classified ResolvedRelationalCheck.id .sqlRelational checks recs) := by
  have hperm : (((sortById
      (fun pair : ResolvedRelationalCheck × ReconcileOutput => pair.1.id)
      (List.zipWith Prod.mk checks recs)).map checkRow).map id).Perm
        (List.zipWith (rowOf ResolvedRelationalCheck.id) checks recs) := by
    have hrows : (List.zipWith Prod.mk checks recs).map checkRow =
        List.zipWith (rowOf ResolvedRelationalCheck.id) checks recs := by
      rw [List.map_zipWith]
      rfl
    rw [← hrows, List.map_id]
    exact (sortBy_perm _ _).map checkRow
  rw [classifyMultiRelationalAfterReconcile, zipRecs_eq h]
  simp only [bind, Except.bind, rollupSqlRelationalFromReconciled_eq h]
  exact classify_eq hperm _

/-! ### The paths of the executors -/

theorem executeStrong_sqlEffects (context : ℕ → PolicyReconcileContext)
    (effects : List ResolvedEffect) :
    executeVerificationStrongAt context (.sqlEffects effects) =
      rollupMultiEffectsSync (fun i e => (context i).reconcileRow e.request)
        effects := by
  rw [rollupMultiEffectsSync, rollupAsReconciled_eq]
  exact executeItemsStrong_eq ResolvedEffect.id .sqlEffects _ effects

theorem executeStrong_sqlRelational (context : ℕ → PolicyReconcileContext)
    {checks : List ResolvedRelationalCheck} (h : checks.length ≠ 1) :
    executeVerificationStrongAt context (.sqlRelational checks) =
      rollupSqlRelationalSync (fun i => (context i).reconcileRelationalCheck)
        checks := by
  have hstrong : executeVerificationStrongAt context (.sqlRelational checks) =
      executeItemsStrong ResolvedRelationalCheck.id
        (fun i => (context i).reconcileRelationalCheck) checks
        (sortedChecksRequest checks) := by
    match checks, h with
    | [], _ => rfl
    | _ :: _ :: _, _ => rfl
  rw [hstrong, rollupSqlRelationalSync, rollupAfterReconcile_eq]
  exact executeItemsStrong_eq ResolvedRelationalCheck.id .sqlRelational _ checks

/-- A poll over classified attempts is one over their rows. -/
theorem pollClassified_eq {α : Type} (id : α → String)
    (payload : List α → ResolvedRequest) (items : List α)
    {classify : List α → List ReconcileOutput → Except String Classified}
    (hclassify : ∀ recs, recs.length = items.length →
      classify items recs = .ok (classified id payload items recs))
    (reconcile : ℕ → Reconcile α)
    (uncertain : List EffectRow → ℕ → ℤ → PolicyExecutionOutput) (now : ℕ → ℤ)
    (window : ℤ) (fuel k : ℕ) :
    pollClassified (fun k => attemptAll classify (reconcile k) items)
        (fun recs => uncertain (List.zipWith (rowOf id) items recs)) now window
        fuel k = (do
      match ← poll (fun k => reconcileItems id (reconcile k) items)
          pendingAllMissing now window fuel k with
      | .done rows =>
          .ok (buildRollup (payload (sortById id items)) (sortById EffectRow.id rows))
      | .expired last attempts elapsedMs => .ok (uncertain last attempts elapsedMs)) := by
  induction fuel generalizing k with
  | zero => rfl
  | succ fuel ih =>
      have hrows : reconcileItems id (reconcile k) items = (do
          let recs ← callEach (reconcile k) items
          .ok (List.zipWith (rowOf id) items recs)) :=
        @mapM_row _ _ (rowOf id) (reconcile k) items
      rw [pollClassified, poll, hrows]
      simp only [attemptAll, bind_assoc]
      apply bind_congr_ok
      intro recs hrecs
      rw [hclassify recs (callEach_length hrecs), classified]
      by_cases hpending : pendingAllMissing (List.zipWith (rowOf id) items recs) = true
      · simp only [bind, Except.bind, hpending, if_true, Bool.true_eq_false, if_false]
        split_ifs with hwindow
        · rfl
        · exact ih (k + 1)
      · have hdone : pendingAllMissing (List.zipWith (rowOf id) items recs) = false := by
          simpa using hpending
        simp only [bind, Except.bind, hdone, Bool.false_eq_true, if_false, if_true]
        rfl

theorem executeSqlEffectsEventual_eq (policy : VerificationPolicy)
    (session : VerificationSession) (effects : List ResolvedEffect) :
    executeSqlEffectsEventual policy session effects =
      pollClassified
        (fun k => attemptAll classifyMultiEffectAfterReconcile
          (fun i e => (session.context k i).reconcileRow e.request) effects)
        (fun recs => buildUncertainRows (sortedEffectsRequest effects) policy
          (List.zipWith (rowOf ResolvedEffect.id) effects recs))
        session.now (milliseconds policy.verificationWindowMs) session.attempts 1 := by
  have hpoll := pollClassified_eq ResolvedEffect.id .sqlEffects effects
    (fun _ h => classifyMultiEffect_eq h)
    (fun k i e => (session.context k i).reconcileRow e.request)
    (buildUncertainRows (sortedEffectsRequest effects) policy) session.now
    (milliseconds policy.verificationWindowMs) session.attempts 1
  rw [hpoll]
  apply bind_congr_ok
  intro ended _
  cases ended with
  | done rows => rfl
  | expired last attempts elapsedMs => rfl

theorem executeSqlRelationalEventual_eq (policy : VerificationPolicy)
    (session : VerificationSession) (checks : List ResolvedRelationalCheck) :
    executeSqlRelationalEventual policy session checks =
      pollClassified
        (fun k => attemptAll classifyMultiRelationalAfterReconcile
          (fun i => (session.context k i).reconcileRelationalCheck) checks)
        (fun recs => buildUncertainRows (sortedChecksRequest checks) policy
          (List.zipWith (rowOf ResolvedRelationalCheck.id) checks recs))
        session.now (milliseconds policy.verificationWindowMs) session.attempts 1 := by
  have hpoll := pollClassified_eq ResolvedRelationalCheck.id .sqlRelational checks
    (fun _ h => classifyMultiRelational_eq h)
    (fun k i => (session.context k i).reconcileRelationalCheck)
    (buildUncertainRows (sortedChecksRequest checks) policy) session.now
    (milliseconds policy.verificationWindowMs) session.attempts 1
  rw [hpoll]
  apply bind_congr_ok
  intro ended _
  cases ended with
  | done rows => rfl
  | expired last attempts elapsedMs => rfl

/-! ## Outputs by id -/

section Assigned

variable {α : Type} {id : α → String} {assign : String → ReconcileOutput}

/-- Every call answers what its item is assigned. -/
def Answers (id : α → String) (assign : String → ReconcileOutput)
    (reconcile : Reconcile α) (items : List α) : Prop :=
  ∀ i item, items[i]? = some item → reconcile i item = .ok (assign (id item))

/-- The outputs of the items, in the order of the registry. -/
def assigned (id : α → String) (assign : String → ReconcileOutput)
    (items : List α) : List ReconcileOutput :=
  items.map fun item => assign (id item)

theorem assigned_length (items : List α) :
    (assigned id assign items).length = items.length :=
  List.length_map _

theorem zipWith_assigned (items : List α) :
    List.zipWith (rowOf id) items (assigned id assign items) =
      items.map fun item => rowOf id item (assign (id item)) := by
  rw [assigned, List.zipWith_map_right, List.zipWith_self]

theorem callEach_of_answers {reconcile : Reconcile α} {items : List α}
    (h : Answers id assign reconcile items) :
    callEach reconcile items = .ok (assigned id assign items) := by
  apply mapM_eq_ok.mpr
  apply List.forall₂_iff_get.mpr
  refine ⟨by simp [assigned], ?_⟩
  intro i hitem hout
  have hi : i < items.length := by simpa using hitem
  have hcall := h i items[i] (List.getElem?_eq_getElem hi)
  simpa [assigned] using hcall

/-- The rollup of items with the outputs assigned to their ids. -/
def rolledUpById (id : α → String) (payload : List α → ResolvedRequest)
    (assign : String → ReconcileOutput) (items : List α) : PolicyExecutionOutput :=
  rolledUp id payload items (assigned id assign items)

/-- The rollup does not depend on the order of the registry. -/
theorem rolledUpById_perm {payload : List α → ResolvedRequest} {order items : List α}
    (h : order.Perm items) (hids : (items.map id).Nodup) :
    rolledUpById id payload assign order = rolledUpById id payload assign items := by
  have hitems : sortById id order = sortById id items :=
    (sortBy_eq_of_perm h.symm hids).symm
  have hrowIds : ((items.map fun item => rowOf id item (assign (id item))).map
      EffectRow.id).Nodup := by
    rw [List.map_map]
    exact hids
  have hrows : sortById EffectRow.id
      (order.map fun item => rowOf id item (assign (id item))) =
        sortById EffectRow.id
          (items.map fun item => rowOf id item (assign (id item))) :=
    (sortBy_eq_of_perm (h.symm.map _) hrowIds).symm
  simp only [rolledUpById, rolledUp, zipWith_assigned, hitems, hrows]

end Assigned

/-! ## Statuses -/

section Statuses

variable {rows : List EffectRow}

theorem computeStatus_incomplete :
    (computeMultiCheckRollupStatus rows).1 = .incompleteVerification ↔
      ∃ row ∈ rows, row.status = .incompleteVerification := by
  have hpositive : (rows.filter (·.status = .incompleteVerification)).length > 0 ↔
      ∃ row ∈ rows, row.status = .incompleteVerification := by
    rw [gt_iff_lt, List.length_pos_iff_exists_mem]
    simp only [List.mem_filter, decide_eq_true_eq]
  rw [← hpositive, computeMultiCheckRollupStatus]
  dsimp only
  split_ifs with hincomplete hall hnone
  · exact iff_of_true rfl hincomplete
  · exact iff_of_false (by simp) hincomplete
  · exact iff_of_false (by simp) hincomplete
  · exact iff_of_false (by simp) hincomplete

theorem computeStatus_inconsistent :
    (computeMultiCheckRollupStatus rows).1 = .inconsistent ↔
      rows ≠ [] ∧ (∀ row ∈ rows, row.status ≠ .incompleteVerification) ∧
        ∀ row ∈ rows, row.status ≠ .verified := by
  have hnoneOf (status : StepStatus) :
      (rows.filter (·.status = status)).length = 0 ↔
        ∀ row ∈ rows, row.status ≠ status := by
    rw [List.length_eq_zero_iff, List.filter_eq_nil_iff]
    simp only [decide_eq_true_eq, ne_eq]
  rw [← hnoneOf, ← hnoneOf, ← List.length_pos_iff, computeMultiCheckRollupStatus]
  dsimp only
  split_ifs with hincomplete hall hnone
  · refine iff_of_false (by simp) ?_
    rintro ⟨-, hzero, -⟩
    omega
  · refine iff_of_false (by simp) ?_
    rintro ⟨hpos, -, hzero⟩
    omega
  · refine iff_of_true rfl ⟨?_, ?_, hnone⟩
    · omega
    · omega
  · refine iff_of_false (by simp) ?_
    rintro ⟨-, -, hzero⟩
    exact hnone hzero

/-- No other status is rolled up. -/
theorem computeStatus_cases :
    (computeMultiCheckRollupStatus rows).1 ∈
      [StepStatus.verified, .incompleteVerification, .inconsistent,
        .partiallyVerified] := by
  rw [computeMultiCheckRollupStatus]
  dsimp only
  split_ifs
  · simp
  · simp
  · simp
  · simp

end Statuses

/-! ## The paths agree -/

/-- The `n`-th attempt is the first that is done, and the window is not over at an
earlier one. -/
structure FirstDone (attempt : ℕ → Except String (List ReconcileOutput × Classified))
    (now : ℕ → ℤ) (window : ℤ) (fuel n : ℕ) : Prop where
  positive : 1 ≤ n
  followed : n ≤ fuel
  pending : ∀ k, 1 ≤ k → k < n → now k - now 0 < window ∧
    ∃ recs, attempt k = .ok (recs, .pendingAllMissing)
  done : ∃ recs out, attempt n = .ok (recs, .done out)

/-- A poll returns the outcome of its first attempt that is done. -/
theorem pollClassified_firstDone
    {attempt : ℕ → Except String (List ReconcileOutput × Classified)}
    {uncertain : List ReconcileOutput → ℕ → ℤ → PolicyExecutionOutput} {now : ℕ → ℤ}
    {window : ℤ} {fuel n : ℕ} (h : FirstDone attempt now window fuel n)
    {recs : List ReconcileOutput} {out : PolicyExecutionOutput}
    (hout : attempt n = .ok (recs, .done out)) :
    pollClassified attempt uncertain now window fuel 1 = .ok out := by
  -- The loop is followed from any attempt up to the `n`-th.
  have hfrom : ∀ fuel k, 1 ≤ k → k ≤ n → n < k + fuel →
      pollClassified attempt uncertain now window fuel k = .ok out := by
    intro fuel
    induction fuel with
    | zero =>
        intro k _ hk hfuel
        omega
    | succ fuel ih =>
        intro k hpositive hk hfuel
        rw [pollClassified]
        by_cases hlast : k = n
        · rw [hlast]
          exact bind_eq_ok.mpr ⟨_, hout, rfl⟩
        · have hlt : k < n := by omega
          obtain ⟨hwindow, waiting, hattempt⟩ := h.pending k hpositive hlt
          apply bind_eq_ok.mpr
          refine ⟨_, hattempt, ?_⟩
          have hopen : ¬window ≤ now k - now 0 := by omega
          simp only [hopen, if_false]
          exact ih (k + 1) (by omega) (by omega) (by omega)
  have hfollowed := h.followed
  exact hfrom fuel 1 le_rfl h.positive (by omega)

section Agree

variable {α : Type} (id : α → String) (assign : String → ReconcileOutput)
  (ask : PolicyReconcileContext → α → Except String ReconcileOutput)
  (payload : List α → ResolvedRequest)
  (rollups : List (Reconcile α → List α → Except String PolicyExecutionOutput))
  (classify : List α → List ReconcileOutput → Except String Classified)

/-- The attempts of a session. -/
def VerificationSession.attempt (session : VerificationSession) (items : List α)
    (k : ℕ) : Except String (List ReconcileOutput × Classified) :=
  attemptAll classify (fun i => ask (session.context k i)) items

/-- Each rollup, the strong executor and the first attempt of a poll that is done
come to one output. -/
structure PathsReach (items : List α) (out : PolicyExecutionOutput) : Prop where
  rolled : ∀ rollup ∈ rollups, ∀ reconcile, Answers id assign reconcile items →
    rollup reconcile items = .ok out
  strong : ∀ context : ℕ → PolicyReconcileContext,
    Answers id assign (fun i => ask (context i)) items →
      executeVerificationStrongAt context (payload items) = .ok out
  eventual : ∀ policy resolved (session : VerificationSession) n,
    resolveVerificationPolicyInput (some policy) = .ok resolved →
    resolved.consistencyMode ≠ .strong →
    FirstDone (session.attempt ask classify items) session.now
      (milliseconds resolved.verificationWindowMs) session.attempts n →
    Answers id assign (fun i => ask (session.context n i)) items →
      executeVerificationWithPolicyAsync policy session (payload items) = .ok out

/-- The status of items with the outputs assigned to their ids. -/
structure RolledStatus (items : List α) (status : StepStatus) : Prop where
  verified : status = .verified ↔
    ∀ item ∈ items, (assign (id item)).status = .verified
  incomplete : status = .incompleteVerification ↔
    ∃ item ∈ items, (assign (id item)).status = .incompleteVerification
  inconsistent : status = .inconsistent ↔ items ≠ [] ∧
    (∀ item ∈ items, (assign (id item)).status ≠ .incompleteVerification) ∧
      ∀ item ∈ items, (assign (id item)).status ≠ .verified
  otherwise : status ≠ .verified → status ≠ .incompleteVerification →
    status ≠ .inconsistent → status = .partiallyVerified

variable {id assign ask payload rollups classify}

theorem rolledUpById_status (items : List α) :
    RolledStatus id assign items (rolledUpById id payload assign items).status := by
  -- The status is that of the sorted rows.
  have hrows : ∀ p : EffectRow → Prop,
      (∀ row ∈ sortById EffectRow.id
          (List.zipWith (rowOf id) items (assigned id assign items)), p row) ↔
        ∀ item ∈ items, p (rowOf id item (assign (id item))) := by
    intro p
    rw [zipWith_assigned]
    simp only [sortById, List.mem_insertionSort, List.forall_mem_map]
  have hempty : sortById EffectRow.id
      (List.zipWith (rowOf id) items (assigned id assign items)) ≠ [] ↔ items ≠ [] := by
    rw [zipWith_assigned, ← List.length_pos_iff, ← List.length_pos_iff, sortById,
      List.length_insertionSort, List.length_map]
  refine ⟨?_, ?_, ?_, ?_⟩
  · exact computeMultiCheckRollupStatus_verified.trans (hrows _)
  · have hnone := hrows (·.status ≠ .incompleteVerification)
    refine computeStatus_incomplete.trans ?_
    have hnegated := not_congr hnone
    simpa only [not_forall, not_not, exists_prop, rowOf] using hnegated
  · refine computeStatus_inconsistent.trans ?_
    exact and_congr hempty (and_congr (hrows _) (hrows _))
  · intro hverified hincomplete hinconsistent
    have hcases := @computeStatus_cases (sortById EffectRow.id
      (List.zipWith (rowOf id) items (assigned id assign items)))
    simp only [List.mem_cons, List.not_mem_nil, or_false] at hcases
    rcases hcases with h | h | h | h
    · exact absurd h hverified
    · exact absurd h hincomplete
    · exact absurd h hinconsistent
    · exact h

theorem attemptAll_of_answers {items : List α} {reconcile : Reconcile α}
    (hclassify : ∀ recs, recs.length = items.length →
      classify items recs = .ok (classified id payload items recs))
    (h : Answers id assign reconcile items) :
    attemptAll classify reconcile items =
      .ok (assigned id assign items,
        classified id payload items (assigned id assign items)) := by
  have hrecs := hclassify _ (@assigned_length _ id assign items)
  exact bind_eq_ok.mpr ⟨_, callEach_of_answers h, bind_eq_ok.mpr ⟨_, hrecs, rfl⟩⟩

/-- A poll of a session returns the rollup of the outputs of its first attempt that is
done. -/
theorem pollSession_eq {items : List α} {session : VerificationSession}
    {uncertain : List ReconcileOutput → ℕ → ℤ → PolicyExecutionOutput} {window : ℤ}
    {n : ℕ}
    (hclassify : ∀ recs, recs.length = items.length →
      classify items recs = .ok (classified id payload items recs))
    (hfirst : FirstDone (session.attempt ask classify items) session.now window
      session.attempts n)
    (h : Answers id assign (fun i => ask (session.context n i)) items) :
    pollClassified (session.attempt ask classify items) uncertain session.now window
      session.attempts 1 = .ok (rolledUpById id payload assign items) := by
  obtain ⟨recs, out, hdone⟩ := hfirst.done
  have hout : out = rolledUpById id payload assign items := by
    have hattempt := attemptAll_of_answers hclassify h
    rw [VerificationSession.attempt, hattempt, classified] at hdone
    split_ifs at hdone with hpending
    · cases hdone
    · cases hdone
      rfl
  rw [← hout]
  exact pollClassified_firstDone hfirst hdone

end Agree

/-- The paths over the effects of a step. -/
abbrev EffectPathsReach (assign : String → ReconcileOutput) :
    List ResolvedEffect → PolicyExecutionOutput → Prop :=
  PathsReach ResolvedEffect.id assign (fun ctx e => ctx.reconcileRow e.request)
    .sqlEffects
    [rollupMultiEffectsSync, rollupMultiEffectsAsync, strongEffectsAsync]
    classifyMultiEffectAfterReconcile

/-- The paths over the relational checks of a step. -/
abbrev CheckPathsReach (assign : String → ReconcileOutput) :
    List ResolvedRelationalCheck → PolicyExecutionOutput → Prop :=
  PathsReach ResolvedRelationalCheck.id assign
    PolicyReconcileContext.reconcileRelationalCheck .sqlRelational
    [rollupSqlRelationalSync, rollupSqlRelationalAsync]
    classifyMultiRelationalAfterReconcile

theorem effects_paths (assign : String → ReconcileOutput)
    (effects : List ResolvedEffect) :
    EffectPathsReach assign effects
      (rolledUpById ResolvedEffect.id .sqlEffects assign effects) := by
  have hrolled : ∀ reconcile, Answers ResolvedEffect.id assign reconcile effects →
      rollupAsReconciled reconcile effects =
        .ok (rolledUpById ResolvedEffect.id .sqlEffects assign effects) := by
    intro reconcile h
    rw [rollupAsReconciled_eq, callEach_of_answers h]
    rfl
  refine ⟨?_, ?_, ?_⟩
  · intro rollup hrollup reconcile h
    simp only [List.mem_cons, List.not_mem_nil, or_false] at hrollup
    rcases hrollup with rfl | rfl | rfl
    · exact hrolled reconcile h
    · exact hrolled reconcile h
    · rw [strongEffectsAsync_eq, callEach_of_answers h]
      rfl
  · intro context h
    rw [executeStrong_sqlEffects]
    exact hrolled _ h
  · intro policy resolved session n hresolved hmode hfirst h
    apply bind_eq_ok.mpr
    refine ⟨resolved, hresolved, ?_⟩
    simp only [hmode, if_false]
    rw [executeSqlEffectsEventual_eq]
    exact pollSession_eq (fun _ hlength => classifyMultiEffect_eq hlength) hfirst h

theorem executeAsync_sqlRelational {policy resolved : VerificationPolicy}
    {session : VerificationSession} {checks : List ResolvedRelationalCheck}
    (hresolved : resolveVerificationPolicyInput (some policy) = .ok resolved)
    (hmode : resolved.consistencyMode ≠ .strong) (hseveral : 2 ≤ checks.length) :
    executeVerificationWithPolicyAsync policy session (.sqlRelational checks) =
      executeSqlRelationalEventual resolved session checks := by
  rw [executeVerificationWithPolicyAsync, hresolved]
  match checks, hseveral with
  | _ :: _ :: _, _ => exact if_neg hmode

theorem checks_paths (assign : String → ReconcileOutput)
    {checks : List ResolvedRelationalCheck} (hseveral : 2 ≤ checks.length) :
    CheckPathsReach assign checks
      (rolledUpById ResolvedRelationalCheck.id .sqlRelational assign checks) := by
  have hrolled : ∀ reconcile,
      Answers ResolvedRelationalCheck.id assign reconcile checks →
        rollupAfterReconcile reconcile checks =
          .ok (rolledUpById ResolvedRelationalCheck.id .sqlRelational assign checks) := by
    intro reconcile h
    rw [rollupAfterReconcile_eq, callEach_of_answers h]
    rfl
  refine ⟨?_, ?_, ?_⟩
  · intro rollup hrollup reconcile h
    simp only [List.mem_cons, List.not_mem_nil, or_false] at hrollup
    rcases hrollup with rfl | rfl
    · exact hrolled reconcile h
    · exact hrolled reconcile h
  · intro context h
    rw [executeStrong_sqlRelational context (by omega)]
    exact hrolled _ h
  · intro policy resolved session n hresolved hmode hfirst h
    rw [executeAsync_sqlRelational hresolved hmode hseveral,
      executeSqlRelationalEventual_eq]
    exact pollSession_eq (fun _ hlength => classifyMultiRelational_eq hlength) hfirst h

/-- Every path over several effects, or over several relational checks, comes to one
output, whatever the order of the registry. -/
theorem multi_effect_paths_agree (assign : String → ReconcileOutput) :
    (∀ effects : List ResolvedEffect, (effects.map ResolvedEffect.id).Nodup →
      ∃ out, RolledStatus ResolvedEffect.id assign effects out.status ∧
        ∀ order : List ResolvedEffect, order.Perm effects →
          EffectPathsReach assign order out) ∧
    (∀ checks : List ResolvedRelationalCheck,
      (checks.map ResolvedRelationalCheck.id).Nodup → 2 ≤ checks.length →
        ∃ out, RolledStatus ResolvedRelationalCheck.id assign checks out.status ∧
          ∀ order : List ResolvedRelationalCheck, order.Perm checks →
            CheckPathsReach assign order out) := by
  refine ⟨?_, ?_⟩
  · intro effects hids
    refine ⟨rolledUpById ResolvedEffect.id .sqlEffects assign effects,
      rolledUpById_status effects, ?_⟩
    intro order horder
    rw [← rolledUpById_perm horder hids]
    exact effects_paths assign order
  · intro checks hids hseveral
    refine ⟨rolledUpById ResolvedRelationalCheck.id .sqlRelational assign checks,
      rolledUpById_status checks, ?_⟩
    intro order horder
    have hlength : 2 ≤ order.length := by
      rw [horder.length_eq]
      exact hseveral
    rw [← rolledUpById_perm horder hids]
    exact checks_paths assign hlength

def orderEffect : ResolvedEffect := ⟨"order", ⟨"orders", [⟨"id", "o1"⟩], []⟩⟩

def invoiceEffect : ResolvedEffect := ⟨"invoice", ⟨"invoices", [⟨"id", "i1"⟩], []⟩⟩

def orderLines : ResolvedRelationalCheck :=
  ⟨"order", .relatedExists "order_lines" [⟨"order_id", "o1"⟩]⟩

def invoiceLines : ResolvedRelationalCheck :=
  ⟨"invoice", .relatedExists "invoice_lines" [⟨"invoice_id", "i1"⟩]⟩

/-- The order is found, and the invoice is not. -/
def orderFound (id : String) : ReconcileOutput :=
  if id = "order" then verifiedOutput []
  else output .missing .rowAbsent "No row matched key" []

theorem multi_effect_paths_agree_reversed :
    (∃ out, RolledStatus ResolvedEffect.id orderFound [orderEffect, invoiceEffect]
        out.status ∧
      EffectPathsReach orderFound [orderEffect, invoiceEffect] out ∧
      EffectPathsReach orderFound [invoiceEffect, orderEffect] out) ∧
    ∃ out, RolledStatus ResolvedRelationalCheck.id orderFound
        [orderLines, invoiceLines] out.status ∧
      CheckPathsReach orderFound [orderLines, invoiceLines] out ∧
      CheckPathsReach orderFound [invoiceLines, orderLines] out := by
  have hagree := multi_effect_paths_agree orderFound
  refine ⟨?_, ?_⟩
  · obtain ⟨out, hstatus, hpaths⟩ := hagree.1 [orderEffect, invoiceEffect] (by decide)
    exact ⟨out, hstatus, hpaths _ (List.Perm.refl _), hpaths _ (List.Perm.swap _ _ _)⟩
  · obtain ⟨out, hstatus, hpaths⟩ :=
      hagree.2 [orderLines, invoiceLines] (by decide) (by decide)
    exact ⟨out, hstatus, hpaths _ (List.Perm.refl _), hpaths _ (List.Perm.swap _ _ _)⟩

end AgentSkeptic.Engine
