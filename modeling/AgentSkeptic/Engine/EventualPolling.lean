import AgentSkeptic.Engine.PolicyExecution
import Mathlib.Data.Rat.Floor

/-!
# Polling within the window

The polling executors of `verificationPolicy.ts` differ in when they try again.  They share
one law: against a clock that advances by the poll interval in every sleep, they return the
output of the first attempt that is not to be retried, or say after the window how often
they have tried (`eventual_ends_in_time`).
-/

namespace AgentSkeptic.Engine

open AgentSkeptic.Support

/-! ## What is tried again -/

/-- A reconciler answers that there is nothing yet. -/
def AnswersMissing (answer : Except String ReconcileOutput) : Prop :=
  ∃ out, answer = .ok out ∧ out.status = .missing

/-- There are items, and every one of them is missing. -/
def AllMissing {α : Type} (reconcile : ℕ → α → Except String ReconcileOutput)
    (items : List α) : Prop :=
  items ≠ [] ∧ ∀ item ∈ items.zipIdx, AnswersMissing (reconcile item.2 item.1)

/-- The attempt against a context is to be followed by another one. -/
def Retryable (context : ℕ → PolicyReconcileContext) : ResolvedRequest → Prop
  | .sqlRow request => AnswersMissing ((context 0).reconcileRow request)
  | .stateWitness request => AnswersMissing ((context 0).reconcileStateWitness request)
  | .sqlRowAbsent request =>
      ∃ out, (context 0).reconcileRowAbsent request = .ok out ∧ out.status = .inconsistent ∧
        out.reasons.head?.map Reason.code =
          some SqlVerificationOutcomeCode.rowPresentWhenForbidden.code
  | .sqlEffects effects => AllMissing (fun i e => (context i).reconcileRow e.request) effects
  | .sqlRelational [check] => AnswersMissing ((context 0).reconcileRelationalCheck check)
  | .sqlRelational checks => AllMissing (fun i => (context i).reconcileRelationalCheck) checks

/-! ## The clock -/

section Clock

variable (policy : VerificationPolicy) (now : ℕ → ℤ)

/-- A clock never goes backwards, and a sleep takes the poll interval at least. -/
structure FairClock : Prop where
  mono : ∀ k, now k ≤ now (k + 1)
  sleeps : ∀ k, 1 ≤ k → now k - now 0 < milliseconds policy.verificationWindowMs →
    now k + milliseconds policy.pollIntervalMs ≤ now (k + 1)

/-- `ceil(verificationWindowMs / pollIntervalMs) + 1`. -/
def maxAttempts : ℕ :=
  ⌈(milliseconds policy.verificationWindowMs : ℚ) /
    milliseconds policy.pollIntervalMs⌉.toNat + 1

end Clock

/-- Every call of a context is answered. -/
structure PolicyReconcileContext.Replies (ctx : PolicyReconcileContext) : Prop where
  row : ∀ req, ∃ out, ctx.reconcileRow req = .ok out
  rowAbsent : ∀ req, ∃ out, ctx.reconcileRowAbsent req = .ok out
  relational : ∀ check, ∃ out, ctx.reconcileRelationalCheck check = .ok out
  witness : ∀ req, ∃ out, ctx.reconcileStateWitness req = .ok out

/-- How an execution ended with the `k`-th attempt. -/
structure EndsAt (policy : VerificationPolicy) (session : VerificationSession)
    (request : ResolvedRequest) (k : ℕ) (out : PolicyExecutionOutput) : Prop where
  retried : ∀ j, 1 ≤ j → j < k → Retryable (session.context j) request ∧
    session.now j - session.now 0 < milliseconds policy.verificationWindowMs
  done : ¬Retryable (session.context k) request →
    executeVerificationStrongAt (session.context k) request = .ok out
  uncertain : Retryable (session.context k) request →
    milliseconds policy.verificationWindowMs ≤ session.now k - session.now 0 ∧
      out.status = .uncertain ∧
        ownMember out.evidenceSummary "attempts" = some (intJson k) ∧
          ownMember out.evidenceSummary "elapsedMs" =
            some (.num (.int (session.now (k + 1) - session.now 0)))

/-! ## The loop -/

section Poll

variable {α : Type} {attempt : ℕ → Except String α} {retry : α → Bool}
  {now : ℕ → ℤ} {window interval : ℤ}

/-- How a poll that started at attempt `k` ended with attempt `n`. -/
structure PollEndsAt (attempt : ℕ → Except String α) (retry : α → Bool) (now : ℕ → ℤ)
    (window : ℤ) (k n : ℕ) (ended : PollEnd α) : Prop where
  start : k ≤ n
  retried : ∀ j, k ≤ j → j < n → (∃ out, attempt j = .ok out ∧ retry out = true) ∧
    now j - now 0 < window
  result : ∃ out, attempt n = .ok out ∧
    ((retry out = false ∧ ended = .done out) ∨
      (retry out = true ∧ window ≤ now n - now 0 ∧
        ended = .expired out n (now (n + 1) - now 0)))

/-- After `k` attempts the clock has advanced `k - 1` intervals, so that by the attempt
`bound` the window is over. -/
theorem poll_endsAt {fuel k bound : ℕ} (hattempt : ∀ i, ∃ out, attempt i = .ok out)
    (hsleeps : ∀ k, 1 ≤ k → now k - now 0 < window → now k + interval ≤ now (k + 1))
    (hbound : window ≤ ((bound : ℤ) - 1) * interval) (hk : 1 ≤ k) (hle : k ≤ bound)
    (hfuel : bound < k + fuel) (hclock : ((k : ℤ) - 1) * interval ≤ now k - now 0) :
    ∃ n ended, n ≤ bound ∧ poll attempt retry now window fuel k = .ok ended ∧
      PollEndsAt attempt retry now window k n ended := by
  induction fuel generalizing k with
  | zero => omega
  | succ fuel ih =>
      obtain ⟨out, hout⟩ := hattempt k
      have hnone : ∀ j, k ≤ j → j < k → (∃ out, attempt j = .ok out ∧ retry out = true) ∧
          now j - now 0 < window := by
        intro j hkj hjk
        omega
      cases hretry : retry out with
      | false =>
          refine ⟨k, .done out, hle, ?_, le_rfl, hnone, out, hout, .inl ⟨hretry, rfl⟩⟩
          rw [poll, hout]
          exact if_pos hretry
      | true =>
          have hagain : ¬retry out = false := by simp [hretry]
          by_cases hwindow : window ≤ now k - now 0
          · refine ⟨k, .expired out k (now (k + 1) - now 0), hle, ?_, le_rfl, hnone, out,
              hout, .inr ⟨hretry, hwindow, rfl⟩⟩
            rw [poll, hout]
            exact (if_neg hagain).trans (if_pos hwindow)
          · -- The window is not over, so this is not the last attempt that the bound allows.
            have hlt : k < bound := by
              apply lt_of_le_of_ne hle
              rintro rfl
              omega
            have hnow := hsleeps k hk (by omega)
            have hnext : (((k + 1 : ℕ) : ℤ) - 1) * interval ≤ now (k + 1) - now 0 := by
              have hexpand : (((k + 1 : ℕ) : ℤ) - 1) * interval =
                  ((k : ℤ) - 1) * interval + interval := by
                push_cast
                ring
              omega
            obtain ⟨n, ended, hn, hpoll, hends⟩ := ih (by omega) hlt (by omega) hnext
            have hstart : k ≤ n := Nat.le_of_succ_le hends.start
            refine ⟨n, ended, hn, ?_, hstart, ?_, hends.result⟩
            · rw [poll, hout, ← hpoll]
              exact (if_neg hagain).trans (if_neg hwindow)
            · intro j hkj hjn
              rcases Nat.eq_or_lt_of_le hkj with rfl | hlater
              · exact ⟨⟨out, hout, hretry⟩, by omega⟩
              · exact hends.retried j hlater hjn

end Poll

theorem window_le_maxAttempts {policy : VerificationPolicy}
    (hinterval : 0 < milliseconds policy.pollIntervalMs)
    (hwindow : 0 < milliseconds policy.verificationWindowMs) :
    milliseconds policy.verificationWindowMs ≤
      ((maxAttempts policy : ℤ) - 1) * milliseconds policy.pollIntervalMs := by
  have hintervalQ : (0 : ℚ) < milliseconds policy.pollIntervalMs := by exact_mod_cast hinterval
  have hwindowQ : (0 : ℚ) < milliseconds policy.verificationWindowMs := by
    exact_mod_cast hwindow
  set quotient := (milliseconds policy.verificationWindowMs : ℚ) /
    milliseconds policy.pollIntervalMs with hquotient
  have hpos : 0 < ⌈quotient⌉ := Int.ceil_pos.mpr (div_pos hwindowQ hintervalQ)
  have hattempts : (maxAttempts policy : ℤ) - 1 = ⌈quotient⌉ := by
    rw [maxAttempts, ← hquotient]
    omega
  have hceil : (milliseconds policy.verificationWindowMs : ℚ) ≤
      ⌈quotient⌉ * milliseconds policy.pollIntervalMs :=
    (div_le_iff₀ hintervalQ).mp (Int.le_ceil quotient)
  rw [hattempts]
  generalize ⌈quotient⌉ = bound at hceil
  exact_mod_cast hceil

theorem isPositiveInteger_milliseconds {n : Option JsNumber}
    (h : isPositiveInteger n = true) : 1 ≤ milliseconds n := by
  obtain ⟨value, hvalue, hpos⟩ := Option.any_eq_true _ _ |>.mp h
  rw [milliseconds, hvalue]
  exact of_decide_eq_true hpos

/-- A policy that is accepted polls at least once a window, and not more often than once in
a millisecond. -/
theorem positive_of_valid {policy : VerificationPolicy}
    (hvalid : assertValidVerificationPolicy policy = .ok ())
    (hmode : policy.consistencyMode ≠ .strong) :
    1 ≤ milliseconds policy.verificationWindowMs ∧
      1 ≤ milliseconds policy.pollIntervalMs := by
  unfold assertValidVerificationPolicy at hvalid
  rw [if_neg hmode] at hvalid
  split_ifs at hvalid with hwindow hinterval
  · exact ⟨isPositiveInteger_milliseconds (by simpa using hwindow),
      isPositiveInteger_milliseconds (by simpa using hinterval)⟩

/-! ## The executors -/

section Executors

variable {policy : VerificationPolicy} {session : VerificationSession}

/-- What the poll of a request is made of: an attempt that is answered, is retried when the
request is, and returns what one execution over its context returns. -/
structure Polls {α : Type} (policy : VerificationPolicy) (session : VerificationSession)
    (request : ResolvedRequest) (attempt : ℕ → Except String α) (retry : α → Bool)
    (done : α → PolicyExecutionOutput)
    (uncertain : α → ℕ → ℤ → PolicyExecutionOutput) : Prop where
  answered : ∀ k, ∃ out, attempt k = .ok out
  retried : ∀ k out, attempt k = .ok out →
    (retry out = true ↔ Retryable (session.context k) request)
  done : ∀ k out, attempt k = .ok out →
    executeVerificationStrongAt (session.context k) request = .ok (done out)
  uncertain : ∀ out k elapsedMs, (uncertain out k elapsedMs).status = .uncertain ∧
    ownMember (uncertain out k elapsedMs).evidenceSummary "attempts" = some (intJson k) ∧
    ownMember (uncertain out k elapsedMs).evidenceSummary "elapsedMs" =
      some (.num (.int elapsedMs))

theorem executeEventual_endsAt {α : Type} {request : ResolvedRequest}
    {attempt : ℕ → Except String α} {retry : α → Bool} {done : α → PolicyExecutionOutput}
    {uncertain : α → ℕ → ℤ → PolicyExecutionOutput}
    (hpolls : Polls policy session request attempt retry done uncertain)
    (hvalid : assertValidVerificationPolicy policy = .ok ())
    (hmode : policy.consistencyMode ≠ .strong) (hclock : FairClock policy session.now)
    (hattempts : maxAttempts policy ≤ session.attempts) :
    ∃ k out, 1 ≤ k ∧ k ≤ maxAttempts policy ∧
      executeEventual policy session attempt retry done uncertain = .ok out ∧
        EndsAt policy session request k out := by
  obtain ⟨hwindow, hinterval⟩ := positive_of_valid hvalid hmode
  have hbound : milliseconds policy.verificationWindowMs ≤
      ((maxAttempts policy : ℤ) - 1) * milliseconds policy.pollIntervalMs :=
    window_le_maxAttempts (by omega) (by omega)
  have hfirst : (((1 : ℕ) : ℤ) - 1) * milliseconds policy.pollIntervalMs ≤
      session.now 1 - session.now 0 := by
    have hmono := hclock.mono 0
    simpa using hmono
  have hone : 1 ≤ maxAttempts policy := Nat.le_add_left 1 _
  obtain ⟨n, ended, hn, hpoll, hends⟩ : ∃ n ended, n ≤ maxAttempts policy ∧
      poll attempt retry session.now (milliseconds policy.verificationWindowMs)
        session.attempts 1 = .ok ended ∧
      PollEndsAt attempt retry session.now (milliseconds policy.verificationWindowMs) 1 n
        ended :=
    poll_endsAt hpolls.answered hclock.sleeps hbound le_rfl hone (by omega) hfirst
  obtain ⟨out, hout, hresult⟩ := hends.result
  have hretried : ∀ j, 1 ≤ j → j < n → Retryable (session.context j) request ∧
      session.now j - session.now 0 < milliseconds policy.verificationWindowMs := by
    intro j hj hjn
    obtain ⟨⟨found, hfound, hagain⟩, hbefore⟩ := hends.retried j hj hjn
    exact ⟨(hpolls.retried j found hfound).mp hagain, hbefore⟩
  rcases hresult with ⟨hretry, rfl⟩ | ⟨hretry, hover, rfl⟩
  · refine ⟨n, done out, hends.start, hn, bind_eq_ok.mpr ⟨_, hpoll, rfl⟩, hretried, ?_, ?_⟩
    · intro _
      exact hpolls.done n out hout
    · intro hagain
      have htrue := (hpolls.retried n out hout).mpr hagain
      rw [hretry] at htrue
      cases htrue
  · refine ⟨n, _, hends.start, hn, bind_eq_ok.mpr ⟨_, hpoll, rfl⟩, hretried, ?_, ?_⟩
    · intro hnot
      exact absurd ((hpolls.retried n out hout).mp hretry) hnot
    · intro _
      exact ⟨hover, hpolls.uncertain out n _⟩

/-! ### Single calls -/

theorem isMissing_iff {answer : Except String ReconcileOutput} {out : ReconcileOutput}
    (hout : answer = .ok out) : isMissing out = true ↔ AnswersMissing answer := by
  constructor
  · intro hmissing
    exact ⟨out, hout, of_decide_eq_true hmissing⟩
  · rintro ⟨found, hfound, hmissing⟩
    obtain rfl := Except.ok.inj (hout.symm.trans hfound)
    exact decide_eq_true hmissing

theorem forbiddenRowPresent_iff {answer : Except String ReconcileOutput}
    {out : ReconcileOutput} (hout : answer = .ok out) :
    forbiddenRowPresent out = true ↔
      ∃ out, answer = .ok out ∧ out.status = .inconsistent ∧
        out.reasons.head?.map Reason.code =
          some SqlVerificationOutcomeCode.rowPresentWhenForbidden.code := by
  have hcode : forbiddenRowPresent out = true ↔ out.status = .inconsistent ∧
      out.reasons.head?.map Reason.code =
        some SqlVerificationOutcomeCode.rowPresentWhenForbidden.code := by
    rw [forbiddenRowPresent, Bool.and_eq_true, decide_eq_true_eq]
    apply and_congr_right
    intro _
    cases out.reasons.head? with
    | none => simp
    | some reason => simp
  rw [hcode]
  constructor
  · rintro ⟨hstatus, hreason⟩
    exact ⟨out, hout, hstatus, hreason⟩
  · rintro ⟨found, hfound, hstatus, hreason⟩
    obtain rfl := Except.ok.inj (hout.symm.trans hfound)
    exact ⟨hstatus, hreason⟩

theorem uncertainOne_evidence (message : String) (request : ResolvedRequest)
    (out : ReconcileOutput) (k : ℕ) (elapsedMs : ℤ) :
    (buildUncertainOne message request policy out k elapsedMs).status = .uncertain ∧
      ownMember (buildUncertainOne message request policy out k elapsedMs).evidenceSummary
        "attempts" = some (intJson k) ∧
      ownMember (buildUncertainOne message request policy out k elapsedMs).evidenceSummary
        "elapsedMs" = some (.num (.int elapsedMs)) := ⟨rfl, rfl, rfl⟩

/-- The poll of one call that is tried again while its answer is missing. -/
theorem polls_one {request : ResolvedRequest} {message : String}
    {attempt : ℕ → Except String ReconcileOutput}
    (hanswered : ∀ k, ∃ out, attempt k = .ok out)
    (hretry : ∀ k, Retryable (session.context k) request ↔ AnswersMissing (attempt k))
    (hdone : ∀ k out, attempt k = .ok out →
      executeVerificationStrongAt (session.context k) request = .ok (outputOf request out)) :
    Polls policy session request attempt isMissing (outputOf request)
      (buildUncertainOne message request policy) where
  answered := hanswered
  retried k _ hout := (isMissing_iff hout).trans (hretry k).symm
  done := hdone
  uncertain out k elapsedMs := uncertainOne_evidence message request out k elapsedMs

theorem executeOne_eq {α : Type} {reconcile : α → Except String ReconcileOutput} {item : α}
    {payload : ResolvedRequest} {out : ReconcileOutput} (hout : reconcile item = .ok out) :
    executeOne reconcile item payload = .ok (outputOf payload out) :=
  bind_eq_ok.mpr ⟨out, hout, rfl⟩

/-! ### Several calls -/

theorem pendingAllMissing_iff {rows : List EffectRow} :
    pendingAllMissing rows = true ↔ rows ≠ [] ∧ ∀ row ∈ rows, row.status = .missing := by
  constructor
  · intro hpending
    unfold pendingAllMissing at hpending
    split_ifs at hpending with hincomplete hverified
    refine ⟨?_, ?_⟩
    · rintro rfl
      exact hverified rfl
    · intro row hrow
      exact of_decide_eq_true (List.all_eq_true.mp hpending row hrow)
  · rintro ⟨hne, hall⟩
    have hincomplete : ¬rows.any (·.status = .incompleteVerification) = true := by
      intro hany
      obtain ⟨row, hrow, hstatus⟩ := List.any_eq_true.mp hany
      rw [hall row hrow] at hstatus
      cases hstatus
    have hverified : rows.filter (·.status = .verified) = [] := by
      apply List.filter_eq_nil_iff.mpr
      intro row hrow
      rw [hall row hrow]
      decide
    have hlength : ¬(rows.filter (·.status = .verified)).length = rows.length := by
      rw [hverified]
      intro hzero
      exact hne (List.eq_nil_of_length_eq_zero hzero.symm)
    rw [pendingAllMissing, if_neg hincomplete, if_neg hlength]
    apply List.all_eq_true.mpr
    intro row hrow
    exact decide_eq_true (hall row hrow)

theorem reconciledRow_missing {α : Type} {id : α → String}
    {reconcile : α → Except String ReconcileOutput} {item : α} {row : EffectRow}
    (hrow : reconciledRow id reconcile item = .ok row) :
    row.status = .missing ↔ AnswersMissing (reconcile item) := by
  obtain ⟨out, hout, hrow⟩ := bind_eq_ok.mp hrow
  obtain rfl := Except.ok.inj hrow
  constructor
  · intro hmissing
    exact ⟨out, hout, hmissing⟩
  · rintro ⟨found, hfound, hmissing⟩
    obtain rfl := Except.ok.inj (hout.symm.trans hfound)
    exact hmissing

theorem forall_status_missing {α : Type} {id : α → String}
    {reconcile : ℕ → α → Except String ReconcileOutput} {items : List (α × ℕ)}
    {rows : List EffectRow}
    (h : List.Forall₂ (fun item row =>
      reconciledRow id (reconcile item.2) item.1 = .ok row) items rows) :
    (∀ row ∈ rows, row.status = .missing) ↔
      ∀ item ∈ items, AnswersMissing (reconcile item.2 item.1) := by
  induction h with
  | nil => simp
  | cons hrow _ ih => rw [List.forall_mem_cons, List.forall_mem_cons, ih,
      reconciledRow_missing hrow]

theorem pendingAllMissing_reconcileItems {α : Type} {id : α → String}
    {reconcile : ℕ → α → Except String ReconcileOutput} {items : List α}
    {rows : List EffectRow} (hrows : reconcileItems id reconcile items = .ok rows) :
    pendingAllMissing rows = true ↔ AllMissing reconcile items := by
  have hforall := mapM_eq_ok.mp hrows
  have hnil : rows ≠ [] ↔ items ≠ [] := by
    have hlength := hforall.length_eq
    rw [List.length_zipIdx] at hlength
    rw [← List.length_pos_iff, ← List.length_pos_iff, hlength]
  rw [pendingAllMissing_iff, hnil, forall_status_missing hforall, AllMissing]

/-- The poll of several calls that are tried again while all of them are missing. -/
theorem polls_items {α : Type} {id : α → String}
    {reconcile : PolicyReconcileContext → α → Except String ReconcileOutput}
    {items : List α} {request payload : ResolvedRequest}
    (hanswered : ∀ k i, ∀ item ∈ items, ∃ out,
      reconcile (session.context k i) item = .ok out)
    (hretry : ∀ k, Retryable (session.context k) request ↔
      AllMissing (fun i => reconcile (session.context k i)) items)
    (hdone : ∀ k, executeVerificationStrongAt (session.context k) request =
      executeItemsStrong id (fun i => reconcile (session.context k i)) items payload) :
    Polls policy session request
      (fun k => reconcileItems id (fun i => reconcile (session.context k i)) items)
      pendingAllMissing (fun rows => buildRollup payload (sortById EffectRow.id rows))
      (buildUncertainRows payload policy) where
  answered k := reconcileItems_total fun i item hitem => hanswered k i item hitem
  retried k rows hrows := (pendingAllMissing_reconcileItems hrows).trans (hretry k).symm
  done k rows hrows := by
    rw [hdone k]
    exact bind_eq_ok.mpr ⟨rows, hrows, rfl⟩
  uncertain rows k elapsedMs := ⟨rfl, rfl, rfl⟩

/-- Under a policy that polls, and against a fair clock, an execution returns what the first
attempt that is not retried returns, or is uncertain once the window is over; it does so
with at most `ceil(verificationWindowMs / pollIntervalMs) + 1` attempts. -/
theorem eventual_ends_in_time {input : VerificationPolicy}
    (hpolicy : resolveVerificationPolicyInput (some input) = .ok policy)
    (hmode : policy.consistencyMode ≠ .strong)
    (hreplies : ∀ k i, (session.context k i).Replies)
    (hclock : FairClock policy session.now)
    (hattempts : maxAttempts policy ≤ session.attempts) (request : ResolvedRequest) :
    ∃ k out, 1 ≤ k ∧ k ≤ maxAttempts policy ∧
      executeVerificationWithPolicyAsync input session request = .ok out ∧
        EndsAt policy session request k out := by
  have hvalid : assertValidVerificationPolicy policy = .ok () := by
    obtain ⟨_, hvalid, hnormal⟩ := bind_eq_ok.mp hpolicy
    obtain rfl := Except.ok.inj hnormal
    exact hvalid
  have hends {α : Type} {attempt : ℕ → Except String α} {retry : α → Bool}
      {done : α → PolicyExecutionOutput} {uncertain : α → ℕ → ℤ → PolicyExecutionOutput}
      (hpolls : Polls policy session request attempt retry done uncertain) :=
    executeEventual_endsAt hpolls hvalid hmode hclock hattempts
  unfold executeVerificationWithPolicyAsync
  simp only [hpolicy, bind_eq_ok, Except.ok.injEq, exists_eq_left', if_neg hmode]
  rcases request with request | request | effects | checks | request
  · apply hends
    apply polls_one (fun k => (hreplies k 0).row request) (fun k => Iff.rfl)
    intro k out hout
    exact executeOne_eq hout
  · apply hends
    refine ⟨fun k => (hreplies k 0).rowAbsent request, ?_, ?_, ?_⟩
    · intro k out hout
      exact forbiddenRowPresent_iff hout
    · intro k out hout
      exact executeOne_eq hout
    · intro out k elapsedMs
      exact ⟨rfl, rfl, rfl⟩
  · apply hends
    exact @polls_items policy session ResolvedEffect ResolvedEffect.id
      (fun ctx e => ctx.reconcileRow e.request) effects _ (sortedEffectsRequest effects)
      (fun k i e _ => (hreplies k i).row e.request) (fun k => Iff.rfl) (fun k => rfl)
  · have hanswered : ∀ k i, ∀ check ∈ checks, ∃ out,
        (session.context k i).reconcileRelationalCheck check = .ok out :=
      fun k i check _ => (hreplies k i).relational check
    rcases checks with _ | ⟨check, _ | ⟨next, rest⟩⟩
    · apply hends
      exact polls_items hanswered (fun k => Iff.rfl) (fun k => rfl)
    · apply hends
      apply polls_one (fun k => (hreplies k 0).relational check) (fun k => Iff.rfl)
      intro k out hout
      exact executeOne_eq hout
    · apply hends
      exact polls_items hanswered (fun k => Iff.rfl) (fun k => rfl)
  · apply hends
    apply polls_one (fun k => (hreplies k 0).witness request) (fun k => Iff.rfl)
    intro k out hout
    exact executeOne_eq hout

end Executors

def everyMillisecond : VerificationPolicy where
  consistencyMode := .eventual
  verificationWindowMs := some (.int 2)
  pollIntervalMs := some (.int 1)

/-- A database where nothing appears, on a clock that sleeps move by one. -/
def emptySession : VerificationSession where
  context _ _ :=
    { reconcileRow := fun _ => .ok ⟨.missing, [], []⟩
      reconcileRowAbsent := fun _ => .ok ⟨.verified, [], []⟩
      reconcileRelationalCheck := fun _ => .ok ⟨.missing, [], []⟩
      reconcileStateWitness := fun _ => .ok ⟨.missing, [], []⟩ }
  now k := k
  attempts := 3

theorem eventual_ends_in_time_empty :
    ∃ k out, 1 ≤ k ∧ k ≤ maxAttempts everyMillisecond ∧
      executeVerificationWithPolicyAsync everyMillisecond emptySession
          (.sqlRow ⟨"t", [⟨"id", "1"⟩], []⟩) = .ok out ∧
        EndsAt everyMillisecond emptySession (.sqlRow ⟨"t", [⟨"id", "1"⟩], []⟩) k out := by
  have hclock : FairClock everyMillisecond emptySession.now := by
    constructor
    · intro k
      show (k : ℤ) ≤ (k + 1 : ℕ)
      omega
    · intro k _ _
      show (k : ℤ) + 1 ≤ (k + 1 : ℕ)
      omega
  have hattempts : maxAttempts everyMillisecond ≤ emptySession.attempts := by
    decide +kernel
  exact eventual_ends_in_time rfl (by decide)
    (fun _ _ => ⟨fun _ => ⟨_, rfl⟩, fun _ => ⟨_, rfl⟩, fun _ => ⟨_, rfl⟩, fun _ => ⟨_, rfl⟩⟩)
    hclock hattempts _

end AgentSkeptic.Engine
