import AgentSkeptic.Hosted.EnforcementRuns
import AgentSkeptic.Support.ReadCommitted

/-!
# Interleaved enforcement requests

The three transactions run side by side at read committed, on one account.  A
check reads the baseline row before it locks the lifecycle row, so another
request can install a baseline in between.  `checkGuard` names the schedules in
which that matters; without them every trusted check observed the baseline
committed at its commit point, and a committed baseline never goes with
lifecycle `baselineMissing`.
-/

namespace AgentSkeptic.Hosted

open AgentSkeptic.Support

abbrev EnforcementRows := Rows EnforcementRow

def baselineHash (c : EnforcementRows) : Option Sha256 :=
  (c .baseline).map (·.projectionHash)

/-! ## The contract -/

/-- A committed baseline goes with a lifecycle row that knows of it.  Baselines
stay; the lifecycle version never decreases, and while it stays the lifecycle
row and the baseline hash stay. -/
def enforcementContract : Contract EnforcementRow where
  inv c := (c .baseline).isSome = true →
    ∃ life : LifecycleRow, c .lifecycle = some life ∧
      life.currentState ≠ .baselineMissing
  evolves c c' :=
    ((c .baseline).isSome = true → (c' .baseline).isSome = true) ∧
    ∀ life : LifecycleRow, c .lifecycle = some life →
      ∃ life' : LifecycleRow, c' .lifecycle = some life' ∧
        life.stateVersion ≤ life'.stateVersion ∧
        (life'.stateVersion = life.stateVersion →
          life' = life ∧ baselineHash c' = baselineHash c)
  refl c := ⟨id, fun life hlife => ⟨life, hlife, le_rfl, fun _ => ⟨rfl, rfl⟩⟩⟩
  trans := by
    rintro c₁ c₂ c₃ ⟨hbase₁₂, hlife₁₂⟩ ⟨hbase₂₃, hlife₂₃⟩
    refine ⟨fun h => hbase₂₃ (hbase₁₂ h), ?_⟩
    intro life₁ h₁
    obtain ⟨life₂, h₂, hle₁₂, hsame₁₂⟩ := hlife₁₂ life₁ h₁
    obtain ⟨life₃, h₃, hle₂₃, hsame₂₃⟩ := hlife₂₃ life₂ h₂
    refine ⟨life₃, h₃, hle₁₂.trans hle₂₃, ?_⟩
    intro hversion
    obtain ⟨hrow₂, hhash₂⟩ := hsame₁₂ (by omega)
    obtain ⟨hrow₃, hhash₃⟩ := hsame₂₃ (by omega)
    exact ⟨hrow₃.trans hrow₂, hhash₃.trans hhash₂⟩

/-- The committed lifecycle lets a match be trusted. -/
def trustsMatch (life : Option LifecycleRow) : Bool :=
  match life with
  | some life =>
      life.currentState = .baselineActive || life.currentState = .rerunRequired
  | none => false

/-- When a check locks the lifecycle row, the baseline that it read is not
outdated in a way that its verdict depends on: if it read no baseline there is
still none, and if it read one that it will trust then the committed hash is
still the observed one. -/
def checkGuard (observed : Sha256) (k : EnforcementKey)
    (seen : Seen EnforcementRow) (c : EnforcementRows) : Bool :=
  match k, seen .baseline with
  | .lifecycle, some none => (c .baseline).isNone
  | .lifecycle, some (some row) =>
      !(row.projectionHash = observed && !row.needsRebaseline &&
        trustsMatch (c .lifecycle)) || baselineHash c = some observed
  | _, _ => true

/-- What a request promises: a trusted check observed the committed hash. -/
def Request.promise : Request → Promise EnforcementRow Response
  | .check e _ =>
      { guard := checkGuard e.materialTruthSha256
        post := fun response c => ∀ body, response.checkBody? = some body →
          body.decisionState = .decisionTrusted →
            baselineHash c = some e.materialTruthSha256 }
  | _ => { guard := fun _ _ _ => true, post := fun _ _ => True }

/-! ## Holding the lifecycle row -/

/-- The transaction holds the lifecycle row: the committed one, or one that it
inserted. -/
structure HoldsLifecycle (held : EnforcementKey → Prop)
    (w c : EnforcementRows) (life : LifecycleRow) : Prop where
  inv : enforcementContract.inv c
  held : held .lifecycle
  row : w .lifecycle = none ∧ c .lifecycle = some life ∨
    w .lifecycle = some life ∧ c .lifecycle = none

section Holding

variable {held held' : EnforcementKey → Prop} {w w' c c' : EnforcementRows}
  {life : LifecycleRow}

theorem HoldsLifecycle.overlay (h : HoldsLifecycle held w c life) :
    overlay w c .lifecycle = some life := by
  rcases h.row with ⟨hw, hc⟩ | ⟨hw, -⟩
  · rw [overlay_of_none hw, hc]
  · exact overlay_of_some hw

theorem HoldsLifecycle.env (h : HoldsLifecycle held w c life)
    (henv : enforcementContract.Env held c c') :
    HoldsLifecycle held w c' life :=
  ⟨henv.inv, h.held, by rw [henv.held _ h.held]; exact h.row⟩

theorem HoldsLifecycle.mono (h : HoldsLifecycle held w c life)
    (hheld : ∀ k, held k → held' k) (hw : w' .lifecycle = w .lifecycle) :
    HoldsLifecycle held' w' c life :=
  ⟨h.inv, hheld _ h.held, by rw [hw]; exact h.row⟩

/-- Whoever holds the lifecycle row keeps the baseline hash. -/
theorem HoldsLifecycle.baselineHash_eq (h : HoldsLifecycle held w c life)
    (henv : enforcementContract.Env held c c') :
    baselineHash c' = baselineHash c := by
  have hsame : c' .lifecycle = c .lifecycle := henv.held _ h.held
  cases hlife : c .lifecycle with
  | some row =>
      obtain ⟨row', hrow', -, hkeep⟩ := henv.evolves.2 row hlife
      rw [hsame, hlife, Option.some.injEq] at hrow'
      exact (hkeep (by rw [hrow'])).2
  | none =>
      have hnone : ∀ {d : EnforcementRows}, enforcementContract.inv d →
          d .lifecycle = none → d .baseline = none := by
        intro d hd hlife
        by_contra hbase
        obtain ⟨row, hrow, -⟩ := hd (Option.isSome_iff_ne_none.mpr hbase)
        rw [hlife] at hrow
        cases hrow
      rw [baselineHash, baselineHash, hnone h.inv hlife,
        hnone henv.inv (hsame.trans hlife)]

/-- A commit that moves the lifecycle row keeps the contract, if the state it
moves to knows of the baseline. -/
theorem HoldsLifecycle.commit (h : HoldsLifecycle held w c life)
    {moved : LifecycleRow} (hmoved : w' .lifecycle = some moved)
    (hversion : life.stateVersion < moved.stateVersion)
    (hstate : (Support.overlay w' c .baseline).isSome = true →
      moved.currentState ≠ .baselineMissing) :
    enforcementContract.inv (Support.overlay w' c) ∧
      enforcementContract.evolves c (Support.overlay w' c) := by
  refine ⟨fun hbase => ⟨moved, overlay_of_some hmoved, hstate hbase⟩, ?_, ?_⟩
  · intro hbase
    cases hw : w' .baseline with
    | none => rwa [overlay_of_none hw]
    | some row => rw [overlay_of_some hw]; rfl
  · intro row hrow
    have hsame : row = life := by
      rcases h.row with ⟨-, hc⟩ | ⟨-, hc⟩
      · exact Option.some.inj (hrow.symm.trans hc)
      · rw [hc] at hrow
        cases hrow
    subst hsame
    exact ⟨moved, overlay_of_some hmoved, hversion.le, fun heq => by omega⟩

/-- A commit that writes neither the baseline nor a move keeps the contract. -/
theorem HoldsLifecycle.keep (h : HoldsLifecycle held w c life)
    (hbase : w .baseline = none) :
    enforcementContract.inv (Support.overlay w c) ∧
      enforcementContract.evolves c (Support.overlay w c) := by
  have hsame : Support.overlay w c .baseline = c .baseline :=
    overlay_of_none hbase
  rcases h.row with ⟨hw, hc⟩ | ⟨hw, hc⟩
  · have hlife : Support.overlay w c .lifecycle = c .lifecycle :=
      overlay_of_none hw
    refine ⟨?_, ?_, ?_⟩
    · intro hb
      rw [hsame] at hb
      rw [hlife]
      exact h.inv hb
    · rw [hsame]
      exact id
    · intro row hrow
      exact ⟨row, hlife.trans hrow, le_rfl, fun _ =>
        ⟨rfl, by rw [baselineHash, baselineHash, hsame]⟩⟩
  · -- the first lifecycle row of an account without a baseline
    refine ⟨?_, ?_, ?_⟩
    · intro hb
      rw [hsame] at hb
      obtain ⟨row, hrow, -⟩ := h.inv hb
      rw [hc] at hrow
      cases hrow
    · rw [hsame]
      exact id
    · intro row hrow
      rw [hc] at hrow
      cases hrow

end Holding

/-! ## Rules for the shared pieces -/

section Rules

variable {π : Promise EnforcementRow Response} {held : EnforcementKey → Prop}
  {w c : EnforcementRows} {seen : Seen EnforcementRow}

/-- After `ensureLifecycleRow` the transaction holds the lifecycle row: the
committed one, under the guard, or the first one of the account. -/
theorem safe_ensureLifecycleRow {baselineRowExists : Bool}
    {f : LifecycleRow → EnforcementTxn Response} (hw : w .lifecycle = none)
    (hbase : baselineRowExists = true → (c .baseline).isSome = true)
    (hcommitted : ∀ life held' c', enforcementContract.Env held c c' →
      HoldsLifecycle held' w c' life → c' .lifecycle = some life →
      π.guard .lifecycle seen c' = true →
      Safe enforcementContract π (f life) held' w seen c')
    (hfirst : ∀ held' w' c', enforcementContract.Env held c c' →
      HoldsLifecycle held' w' c' (initialLifecycleRow false) →
      c' .lifecycle = none → baselineRowExists = false →
      w' .baseline = w .baseline →
      Safe enforcementContract π (f (initialLifecycleRow false)) held' w' seen
        c') :
    Safe enforcementContract π ((ensureLifecycleRow baselineRowExists).bind f)
      held w seen c := by
  intro c₁ henv₁
  rw [overlay_of_none hw]
  constructor
  · intro hnone
    -- no committed lifecycle row, so no committed baseline
    have hno : baselineRowExists = false := by
      by_contra hexists
      rw [Bool.not_eq_false] at hexists
      obtain ⟨row, hrow, -⟩ := henv₁.inv (henv₁.evolves.1 (hbase hexists))
      rw [hnone] at hrow
      cases hrow
    subst hno
    intro c₂ henv₂ hnone₂ c₃ henv₃
    rw [overlay_of_none hw] at hnone₂
    have hrow : (Function.update w .lifecycle
        (some (initialLifecycleRow false)) : EnforcementRows) .lifecycle =
          some (initialLifecycleRow false) := Function.update_self ..
    have hnone₃ : c₃ .lifecycle = none :=
      (henv₃.held .lifecycle (.inr rfl)).trans hnone₂
    rw [overlay_of_some hrow]
    refine ⟨fun h => (by cases h), ?_⟩
    rintro row hsome -
    obtain rfl := Option.some.inj hsome
    refine hfirst _ _ c₃ ?_ ⟨henv₃.inv, .inr rfl, .inr ⟨hrow, hnone₃⟩⟩ hnone₃ rfl
      (Function.update_of_ne (by decide) ..)
    exact (henv₁.trans henv₂).trans
      ⟨henv₃.inv, henv₃.evolves, fun k hk => henv₃.held k (.inl hk)⟩
  · intro row hrow hguard
    have hkeep : ¬(row.currentState = .baselineMissing ∧
        baselineRowExists = true) := by
      rintro ⟨hmissing, hexists⟩
      obtain ⟨row', hrow', hstate⟩ := henv₁.inv (henv₁.evolves.1 (hbase hexists))
      rw [hrow, Option.some.injEq] at hrow'
      exact hstate (hrow' ▸ hmissing)
    have hf := hcommitted row (fun j => held j ∨ j = .lifecycle) c₁ henv₁
      ⟨henv₁.inv, .inr rfl, .inl ⟨hw, hrow⟩⟩ hrow hguard
    simpa [hkeep] using hf

/-- The baseline upsert leaves the lifecycle row alone. -/
theorem safe_upsertBaselineTx {input : BaselineUpsert}
    {f : Unit → EnforcementTxn Response}
    (hnext : ∀ held' w' seen' c',
      enforcementContract.Env held c c' → (∀ k, held k → held' k) →
      w' .lifecycle = w .lifecycle →
      Safe enforcementContract π (f ()) held' w' seen' c') :
    Safe enforcementContract π ((upsertBaselineTx input).bind f) held w seen c := by
  intro c₁ henv₁
  cases hrow : overlay w c₁ .baseline with
  | none =>
      intro c₂ henv₂ hnone
      exact hnext _ _ _ c₂ (henv₁.trans henv₂) (fun k hk => .inl hk)
        (Function.update_of_ne (by decide) ..)
  | some row =>
      intro c₂ henv₂
      constructor
      · intro hmiss
        exact hnext _ _ _ c₂ (henv₁.trans henv₂) (fun k hk => hk) rfl
      · intro row' hhit
        exact hnext _ _ _ c₂ (henv₁.trans henv₂) (fun k hk => .inl hk)
          (Function.update_of_ne (by decide) ..)

/-- Whoever holds the lifecycle row moves it. -/
theorem safe_moveLifecycle {life : LifecycleRow} {state : LifecycleState}
    {pending : Option Sha256} {transitionId : ℕ}
    {f : Bool → EnforcementTxn Response} (h : HoldsLifecycle held w c life)
    (hnext : ∀ c', enforcementContract.Env held c c' →
      Safe enforcementContract π (f true) (fun j => held j ∨ j = .lifecycle)
        (Function.update w .lifecycle (some
          ⟨state, life.stateVersion + 1, pending, some transitionId⟩)) seen c') :
    Safe enforcementContract π
      ((updateLifecycle
        (moveLifecycle life.stateVersion state pending transitionId)).bind f)
      held w seen c := by
  intro c' henv
  rw [(h.env henv).overlay]
  simp only [Option.bind_some, moveLifecycle, ↓reduceIte, Option.some.injEq]
  refine ⟨fun hno => (by cases hno), ?_⟩
  rintro row rfl
  exact hnext c' henv

/-- An answer that moves nothing. -/
theorem HoldsLifecycle.safe_done {life : LifecycleRow} {response : Response}
    (h : HoldsLifecycle held w c life) (hbase : w .baseline = none)
    (hpost : ∀ c', π.post response c') :
    Safe enforcementContract π (.done response : EnforcementTxn Response) held w
      seen c := by
  intro c' henv
  obtain ⟨hinv, hevolves⟩ := (h.env henv).keep hbase
  exact ⟨hinv, hevolves, hpost _⟩

end Rules

/-! ## `POST /baselines` and `POST /accept` -/

theorem safe_recordBaseline {held : EnforcementKey → Prop}
    {w c : EnforcementRows} {seen : Seen EnforcementRow} {life : LifecycleRow}
    (h : HoldsLifecycle held w c life) (e : Evidence) (now : ℤ)
    (verdict : BaselineEvaluationOk) :
    Safe enforcementContract (Request.createBaseline e now).promise
      (recordBaseline e life verdict) held w seen c := by
  intro attemptId
  refine safe_upsertBaselineTx fun held₁ w₁ seen₁ c₁ henv₁ hheld hw => ?_
  intro transitionId
  have h₁ := (h.env henv₁).mono hheld hw
  refine safe_moveLifecycle h₁ fun c₂ henv₂ => ?_
  intro c₃ henv₃
  have henv₃' : enforcementContract.Env held₁ c₂ c₃ :=
    ⟨henv₃.inv, henv₃.evolves, fun k hk => henv₃.held k (.inl hk)⟩
  have hmoved : (Function.update w₁ .lifecycle (some
      ⟨.baselineActive, life.stateVersion + 1, none, some transitionId⟩) :
        EnforcementRows) .lifecycle = some
      ⟨.baselineActive, life.stateVersion + 1, none, some transitionId⟩ :=
    Function.update_self ..
  obtain ⟨hinv, hevolves⟩ := (h₁.env (henv₂.trans henv₃')).commit hmoved
    (Nat.lt_succ_self _) (by simp)
  exact ⟨hinv, hevolves, trivial⟩

/-- What a creation does once there is a lifecycle row. -/
def answerCreate (e : Evidence) (life : LifecycleRow) : EnforcementTxn Response :=
  match evaluateCreateBaseline life.currentState e.outcomeCertificate.runKind with
  | .error refusal => .done (refusalResponse refusal)
  | .ok verdict => recordBaseline e life verdict

theorem safe_executeFsmCreateBaseline (e : Evidence) (now : ℤ)
    (c : EnforcementRows) :
    Safe enforcementContract (Request.createBaseline e now).promise
      (executeFsmCreateBaseline e) (fun _ => False) (fun _ => none)
      (fun _ => none) c := by
  intro c₁ henv₁
  have hanswer : ∀ {life held w seen c'}, HoldsLifecycle held w c' life →
      w .baseline = none →
      Safe enforcementContract (Request.createBaseline e now).promise
        (answerCreate e life) held w seen c' := by
    intro life held w seen c' h hbase
    unfold answerCreate
    cases evaluateCreateBaseline life.currentState
        e.outcomeCertificate.runKind with
    | error refusal => exact h.safe_done hbase fun _ => trivial
    | ok verdict => exact safe_recordBaseline h e now verdict
  refine safe_ensureLifecycleRow rfl id ?_ ?_
  · intro life held' c' henv h hcommitted hguard
    exact hanswer h rfl
  · intro held' w' c' henv h hnone hno hbase
    exact hanswer h hbase

theorem safe_recordAccept {held : EnforcementKey → Prop}
    {w c : EnforcementRows} {seen : Seen EnforcementRow} {life : LifecycleRow}
    (h : HoldsLifecycle held w c life) (e : Evidence) (raw body : AcceptBody)
    (now : ℤ) (verdict : AcceptEvaluationOk) :
    Safe enforcementContract (Request.accept e raw now).promise
      (recordAccept e body life verdict) held w seen c := by
  intro acceptanceId c₁ henv₁ hnone
  have h₁ : HoldsLifecycle (fun k => held k ∨ k = .acceptance acceptanceId)
      (Function.update w (.acceptance acceptanceId)
        (some (acceptanceRow e body))) c₁ life :=
    (h.env henv₁).mono (fun k hk => .inl hk) (Function.update_of_ne (by simp) ..)
  refine safe_upsertBaselineTx fun held₂ w₂ seen₂ c₂ henv₂ hheld hw => ?_
  intro transitionId
  have h₂ := (h₁.env henv₂).mono hheld hw
  refine safe_moveLifecycle h₂ fun c₃ henv₃ => ?_
  intro c₄ henv₄
  have henv₄' : enforcementContract.Env held₂ c₃ c₄ :=
    ⟨henv₄.inv, henv₄.evolves, fun k hk => henv₄.held k (.inl hk)⟩
  have hmoved : (Function.update w₂ .lifecycle (some
      ⟨.rerunRequired, life.stateVersion + 1, none, some transitionId⟩) :
        EnforcementRows) .lifecycle = some
      ⟨.rerunRequired, life.stateVersion + 1, none, some transitionId⟩ :=
    Function.update_self ..
  obtain ⟨hinv, hevolves⟩ := (h₂.env (henv₃.trans henv₄')).commit hmoved
    (Nat.lt_succ_self _) (by simp)
  exact ⟨hinv, hevolves, trivial⟩

theorem safe_executeFsmAcceptDrift (e : Evidence) (raw body : AcceptBody)
    (now : ℤ) (c : EnforcementRows) :
    Safe enforcementContract (Request.accept e raw now).promise
      (executeFsmAcceptDrift e body) (fun _ => False) (fun _ => none)
      (fun _ => none) c := by
  intro c₁ henv₁
  have hanswer : ∀ {life held w seen c'}, HoldsLifecycle held w c' life →
      w .baseline = none →
      Safe enforcementContract (Request.accept e raw now).promise
        (answerAccept e body life) held w seen c' := by
    intro life held w seen c' h hbase
    unfold answerAccept
    cases evaluateAccept (acceptInput e body life) with
    | error refusal => exact h.safe_done hbase fun _ => trivial
    | ok verdict => exact safe_recordAccept h e raw body now verdict
  refine safe_ensureLifecycleRow rfl id ?_ ?_
  · intro life held' c' henv h hcommitted hguard
    exact hanswer h rfl
  · intro held' w' c' henv h hnone hno hbase
    exact hanswer h hbase

/-! ## `POST /check` -/

/-- What a check knows once it holds the lifecycle row: the baseline row that
it read is still good enough for its verdict. -/
structure CheckHolds (e : Evidence) (baselineRow : Option BaselineRow)
    (life : LifecycleRow) (held : EnforcementKey → Prop)
    (w c : EnforcementRows) : Prop where
  holds : HoldsLifecycle held w c life
  unwritten : w .baseline = none
  absent : baselineRow = none → c .baseline = none
  present : baselineRow.isSome = true → life.currentState ≠ .baselineMissing
  current : ∀ row : BaselineRow, baselineRow = some row →
    row.projectionHash = e.materialTruthSha256 → row.needsRebaseline = false →
    (life.currentState = .baselineActive ∨
      life.currentState = .rerunRequired) →
    baselineHash c = some e.materialTruthSha256

section Check

variable {e : Evidence} {now : ℤ} {baselineRow : Option BaselineRow}
  {life : LifecycleRow} {held : EnforcementKey → Prop}
  {w c : EnforcementRows} {seen : Seen EnforcementRow}

@[simp] theorem checkPayload_checkBody? (result : CheckEvaluationOk)
    (status attemptId : ℕ) :
    Response.checkBody?
        ⟨status, checkPayload e baselineRow life result attemptId⟩ =
      some (checkBody e life result attemptId) := by
  by_cases hstatus : result.httpStatus = 409 <;>
    simp [checkPayload, Response.checkBody?, hstatus]

/-- The commit of a recorded check, with its writes `w₁`. -/
theorem CheckHolds.commit (h : CheckHolds e baselineRow life held w c)
    (seen : Seen EnforcementRow)
    (hpre : evaluateCheckPreconditions (checkInput e baselineRow life) = none)
    {held₁ : EnforcementKey → Prop} {w₁ c₁ : EnforcementRows}
    {moved : LifecycleRow} {status attemptId : ℕ}
    (henv : enforcementContract.Env held c c₁)
    (hheld : ∀ k, held k → held₁ k)
    (hmoved : w₁ .lifecycle = some moved)
    (hversion : life.stateVersion < moved.stateVersion)
    (hstate : moved.currentState =
      (evaluateCheck (checkInput e baselineRow life)).lifecycleAfter)
    (hwritten : ∀ row : BaselineRow, w₁ .baseline = some row →
      baselineRow.isSome = true ∧ some row.projectionHash = baselineHash c₁) :
    Safe enforcementContract (Request.check e now).promise
      (.done ⟨status, checkPayload e baselineRow life
        (evaluateCheck (checkInput e baselineRow life)) attemptId⟩ :
          EnforcementTxn Response) held₁ w₁ seen c₁ := by
  intro c₂ henv₂
  have henv₂' : enforcementContract.Env held c c₂ :=
    henv.trans ⟨henv₂.inv, henv₂.evolves, fun k hk => henv₂.held k (hheld k hk)⟩
  have hhash := h.holds.baselineHash_eq henv₂'
  have hhash₁ := h.holds.baselineHash_eq henv
  have hoverlay : baselineHash (overlay w₁ c₂) = baselineHash c := by
    cases hw : w₁ .baseline with
    | none => rw [← hhash, baselineHash, baselineHash, overlay_of_none hw]
    | some row =>
        rw [baselineHash, overlay_of_some hw, Option.map_some,
          (hwritten row hw).2, hhash₁]
  obtain ⟨hinv, hevolves⟩ := (h.holds.env henv₂').commit hmoved hversion (by
    intro hbase hmissing
    have hnone := evaluateCheck_baselineMissing h.present
      (hstate.symm.trans hmissing)
    have hempty : baselineHash (overlay w₁ c₂) = none := by
      rw [hoverlay, baselineHash, h.absent hnone, Option.map_none]
    rw [baselineHash, Option.map_eq_none_iff] at hempty
    rw [hempty] at hbase
    cases hbase)
  refine ⟨hinv, hevolves, ?_⟩
  intro body hbody htrusted
  rw [checkPayload_checkBody?, Option.some.injEq] at hbody
  subst hbody
  obtain ⟨row, rfl, hmatch, hlife⟩ := evaluateCheck_trusted h.present htrusted
  have hneeds : row.needsRebaseline = false := by
    rw [evaluateCheckPreconditions_checkInput] at hpre
    cases hneeds : row.needsRebaseline with
    | false => rfl
    | true => simp [hneeds] at hpre
  rw [hoverlay]
  exact h.current row rfl hmatch hneeds hlife

theorem safe_recordCheck (h : CheckHolds e baselineRow life held w c)
    (hpre : evaluateCheckPreconditions (checkInput e baselineRow life) = none) :
    Safe enforcementContract (Request.check e now).promise
      (recordCheck e baselineRow life
        (evaluateCheck (checkInput e baselineRow life))) held w seen c := by
  intro attemptId transitionId
  refine safe_moveLifecycle h.holds fun c₁ henv₁ => ?_
  have hbase : ∀ row, (Function.update w .lifecycle (some row) :
      EnforcementRows) .baseline = none := fun row =>
    (Function.update_of_ne (by decide) ..).trans h.unwritten
  cases hgoverned : (governedAcceptance baselineRow
      (evaluateCheck (checkInput e baselineRow life))).isSome with
  | false =>
      refine h.commit seen hpre henv₁ (fun k hk => .inl hk)
        (Function.update_self ..) (Nat.lt_succ_self _) rfl ?_
      intro row hrow
      rw [hbase] at hrow
      cases hrow
  | true =>
      have hsome : baselineRow.isSome = true := by
        cases baselineRow with
        | none => simp [governedAcceptance] at hgoverned
        | some row => rfl
      intro c₂ henv₂
      have henv₂' : enforcementContract.Env held c c₂ :=
        henv₁.trans ⟨henv₂.inv, henv₂.evolves, fun k hk => henv₂.held k (.inl hk)⟩
      rw [overlay_of_none (hbase _)]
      constructor
      · intro hmiss
        refine h.commit seen hpre henv₂' (fun k hk => .inl hk)
          (Function.update_self ..) (Nat.lt_succ_self _) rfl ?_
        intro row hrow
        rw [hbase] at hrow
        cases hrow
      · intro row hrow
        refine h.commit seen hpre henv₂' (fun k hk => .inl (.inl hk))
          ((Function.update_of_ne (by decide) ..).trans
            (Function.update_self ..)) (Nat.lt_succ_self _) rfl ?_
        intro row' hrow'
        rw [Function.update_self, Option.some.injEq] at hrow'
        subst hrow'
        refine ⟨hsome, ?_⟩
        obtain ⟨old, hold, hclear⟩ := Option.bind_eq_some_iff.mp hrow
        rw [clearAcceptance, Option.some.injEq] at hclear
        subst hclear
        rw [baselineHash, hold, Option.map_some]

/-- What a check does once there is a lifecycle row. -/
def answerCheck (e : Evidence) (baselineRow : Option BaselineRow) (life : LifecycleRow) :
    EnforcementTxn Response :=
  match evaluateCheckPreconditions (checkInput e baselineRow life) with
  | some refusal => .done (refusalResponse refusal)
  | none => recordCheck e baselineRow life (evaluateCheck (checkInput e baselineRow life))

/-- A check that has read a baseline row and passed the review-by test. -/
theorem safe_checkPosture (hseen : seen .baseline = some baselineRow)
    (hbase : baselineRow.isSome = true → (c .baseline).isSome = true) :
    Safe enforcementContract (Request.check e now).promise
      (checkPosture e baselineRow) held (fun _ => none) seen c := by
  have hanswer : ∀ {life held w c'}, CheckHolds e baselineRow life held w c' →
      Safe enforcementContract (Request.check e now).promise
        (answerCheck e baselineRow life) held w seen c' := by
    intro life held w c' h
    unfold answerCheck
    cases hpre : evaluateCheckPreconditions (checkInput e baselineRow life) with
    | some refusal =>
        refine h.holds.safe_done h.unwritten fun c' => ?_
        intro body hbody
        simp [refusalResponse, Response.checkBody?] at hbody
    | none => exact safe_recordCheck h hpre
  refine safe_ensureLifecycleRow rfl hbase ?_ ?_
  · intro life held' c' henv h hlife hguard
    refine hanswer ⟨h, rfl, ?_, ?_, ?_⟩
    · rintro rfl
      simpa [Request.promise, checkGuard, hseen] using hguard
    · intro hsome
      obtain ⟨row, hrow, hstate⟩ := henv.inv (henv.evolves.1 (hbase hsome))
      rw [hlife, Option.some.injEq] at hrow
      exact hrow ▸ hstate
    · rintro row rfl hmatch hneeds hstate
      rcases hstate with hstate | hstate <;>
        simpa [Request.promise, checkGuard, hseen, hmatch, hneeds, hlife,
          trustsMatch, hstate] using hguard
  · intro held' w' c' henv h hnone hno hwritten
    have hmissing : baselineRow = none := by
      simpa using hno
    have habsent : c' .baseline = none := by
      by_contra hsome
      obtain ⟨row, hrow, -⟩ := h.inv (Option.isSome_iff_ne_none.mpr hsome)
      rw [hnone] at hrow
      cases hrow
    exact hanswer ⟨h, hwritten, fun _ => habsent, by simp [hmissing],
      by simp [hmissing]⟩

/-- The early return of an expired review changes no hash. -/
theorem safe_expireBaseline :
    Safe enforcementContract (Request.check e now).promise
      ((updateBaseline expireBaseline).bind fun _ =>
        .done (refusalResponse rebaseRequired)) held (fun _ => none) seen c := by
  have hpost : ∀ c', (Request.check e now).promise.post
      (refusalResponse rebaseRequired) c' := by
    intro c' body hbody
    simp [refusalResponse, Response.checkBody?] at hbody
  intro c₁ henv₁
  constructor
  · intro hmiss c₂ henv₂
    exact ⟨henv₂.inv, enforcementContract.refl c₂, hpost _⟩
  · intro row hrow c₂ henv₂
    obtain ⟨old, hold, hexpire⟩ := Option.bind_eq_some_iff.mp hrow
    rw [expireBaseline, Option.some.injEq] at hexpire
    subst hexpire
    have hbase : c₂ .baseline = some old :=
      (henv₂.held .baseline (.inr rfl)).trans hold
    refine ⟨?_, ⟨fun _ => rfl, ?_⟩, hpost _⟩
    · intro _
      exact henv₂.inv (by rw [hbase]; rfl)
    · intro life hlife
      refine ⟨life, hlife, le_rfl, fun _ => ⟨rfl, ?_⟩⟩
      rw [baselineHash, baselineHash, hbase]
      rfl

/-- A check with an active acceptance: the review-by test comes first. -/
theorem safe_reviewTest {id : ℕ} (hseen : seen .baseline = some baselineRow)
    (hbase : baselineRow.isSome = true → (c .baseline).isSome = true) :
    Safe enforcementContract (Request.check e now).promise
      ((selectAcceptance id).bind fun acc =>
        if reviewExpired now acc = true then
          (updateBaseline expireBaseline).bind fun _ =>
            .done (refusalResponse rebaseRequired)
        else checkPosture e baselineRow) held (fun _ => none) seen c := by
  intro c₁ henv₁
  have hread : ∀ row, (Function.update seen (EnforcementKey.acceptance id)
      (some row) : Seen EnforcementRow) .baseline = some baselineRow := fun row =>
    (Function.update_of_ne (by simp) ..).trans hseen
  cases hexpired : reviewExpired now (c₁ (.acceptance id)) with
  | true => simpa [hexpired] using safe_expireBaseline
  | false =>
      simpa [hexpired] using
        safe_checkPosture (hread _) fun h => henv₁.evolves.1 (hbase h)

theorem safe_executeFsmCheck (e : Evidence) (now : ℤ) (c : EnforcementRows) :
    Safe enforcementContract (Request.check e now).promise
      (executeFsmCheck e now) (fun _ => False) (fun _ => none) (fun _ => none)
      c := by
  intro c₁ henv₁
  have hread : (Function.update (fun _ => none) EnforcementKey.baseline
      (some (c₁ .baseline)) : Seen EnforcementRow) .baseline =
        some (c₁ .baseline) := Function.update_self ..
  cases hpointer : (c₁ .baseline).bind (·.activeAcceptanceId) with
  | none => simpa [hpointer] using safe_checkPosture hread fun h => h
  | some id => simpa [hpointer] using safe_reviewTest hread fun h => h

end Check

/-! ## Every schedule -/

theorem safe_transaction (r : Request) (c : EnforcementRows) :
    Safe enforcementContract r.promise r.transaction (fun _ => False)
      (fun _ => none) (fun _ => none) c := by
  cases r with
  | createBaseline e now => exact safe_executeFsmCreateBaseline e now c
  | check e now => exact safe_executeFsmCheck e now c
  | accept e raw now =>
      cases hparse : parseAcceptEvidenceInput raw now with
      | error message =>
          have hdone : Safe enforcementContract (Request.accept e raw now).promise
              (.done (badRequest message) : EnforcementTxn Response)
              (fun _ => False) (fun _ => none) (fun _ => none) c :=
            fun c' henv => ⟨henv.inv, enforcementContract.refl c', trivial⟩
          simpa [Request.transaction, hparse] using hdone
      | ok body =>
          simpa [Request.transaction, hparse] using
            safe_executeFsmAcceptDrift e raw body now c

section Schedules

variable {P : Type}

abbrev EnforcementSystem (P : Type) :=
  System P EnforcementKey EnforcementRow LogEntry Response

/-- Requests on one account that has no rows, before their first statement. -/
def sideBySide (requests : P → Request) : EnforcementSystem P :=
  System.start emptyAccount fun p => (requests p).transaction

/-- What is expected of the database that a commit of request `r` with this
response leaves. -/
def CommitIsSafe (r : Request) (response : Response) (c : EnforcementRows) :
    Prop :=
  (∀ e now, r = .check e now → ∀ body, response.checkBody? = some body →
    body.decisionState = .decisionTrusted →
      baselineHash c = some e.materialTruthSha256) ∧
  ((c .baseline).isSome = true → ∀ life : LifecycleRow,
    c .lifecycle = some life → life.currentState ≠ .baselineMissing)

variable [DecidableEq P]

/-- In every schedule in which no check locks the lifecycle row with an outdated
baseline that its verdict depends on, every commit is safe. -/
theorem commits_safe_of_guarded (requests : P → Request)
    {evs evs' : List (Event P)} {ev : Event P}
    (hguard : (sideBySide requests).guarded (fun p => (requests p).promise)
      (evs ++ ev :: evs') = true)
    {p : P} {response : Response}
    (hcommit : ((sideBySide requests).run evs).Commits ev p response) :
    CommitIsSafe (requests p) response
      (((sideBySide requests).run evs).next ev).db.row := by
  have hstart : (sideBySide requests).Sound enforcementContract
      (fun p => (requests p).promise) :=
    System.start_sound (by intro h; cases h) fun p => safe_transaction _ _
  refine ⟨?_, ?_⟩
  · intro e now hrequest body hbody htrusted
    have hpost := hstart.commits hguard hcommit
    rw [hrequest] at hpost
    exact hpost body hbody htrusted
  · intro hbase life hlife
    rw [System.guarded_append, Bool.and_eq_true_iff] at hguard
    obtain ⟨hev, -⟩ := Bool.and_eq_true_iff.mp hguard.2
    obtain ⟨row, hrow, hstate⟩ := ((hstart.run hguard.1).next hev).inv hbase
    rw [hlife, Option.some.injEq] at hrow
    exact hrow ▸ hstate

end Schedules

/-! A first check and a first `POST /baselines`, in two orders. -/

def firstRequests (n : ℕ) : Request :=
  if n = 0 then .check (contractEvidence ⟨0⟩) 0
  else .createBaseline (contractEvidence ⟨0⟩) 0

def baselineFirst : List (Event ℕ) :=
  List.replicate 13 (.step 1) ++ List.replicate 8 (.step 0)

def baselineInBetween : List (Event ℕ) :=
  .step 0 :: (List.replicate 13 (.step 1) ++ List.replicate 7 (.step 0))

theorem baselineFirst_guarded :
    (sideBySide firstRequests).guarded (fun p => (firstRequests p).promise)
      (baselineFirst ++ [.step 0]) = true := by
  decide

/-- With the baseline first, the check commits a trusted verdict. -/
theorem baselineFirst_commits :
    ∃ response, ((sideBySide firstRequests).run baselineFirst).Commits
        (.step 0) 0 response ∧
      response.checkBody?.map (·.decisionState) = some .decisionTrusted ∧
      CommitIsSafe (firstRequests 0) response
        (((sideBySide firstRequests).run baselineFirst).next (.step 0)).db.row :=
  ⟨_, ⟨rfl, _, rfl, rfl⟩, rfl,
    commits_safe_of_guarded firstRequests baselineFirst_guarded
      ⟨rfl, _, rfl, rfl⟩⟩

/-- With the baseline between the two reads of the check, the check moves the
lifecycle of an account with a baseline to `baselineMissing`. -/
theorem baselineInBetween_unsafe :
    ¬∀ (requests : ℕ → Request) (evs : List (Event ℕ)) (ev : Event ℕ) (p : ℕ)
        (response : Response),
      ((sideBySide requests).run evs).Commits ev p response →
      CommitIsSafe (requests p) response
        (((sideBySide requests).run evs).next ev).db.row := by
  intro hclaim
  have hsafe := (hclaim firstRequests baselineInBetween (.step 0) 0 _
    ⟨rfl, _, rfl, rfl⟩).2
  exact hsafe rfl _ rfl rfl

end AgentSkeptic.Hosted
