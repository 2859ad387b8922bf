import AgentSkeptic.Hosted.EnforcementRefinement

/-!
# Runs of enforcement requests

What holds over every sequential run from an empty account: a drift is never
trusted again without an accept, a trusted check matches the stored baseline,
and an accept is pinned to the version and the baseline hash of the open drift.
-/

namespace AgentSkeptic.Hosted

open AgentSkeptic.Support

/-! ## Observing a turn -/

/-- The body of an evaluated check; a refused check has none. -/
def checkAnswer (t : EnforcementTurn) : Option CheckBody :=
  match t.request, t.response with
  | .check _ _, .ok response => response.checkBody?
  | _, _ => none

/-- Whether the turn is a successful `POST /accept`. -/
def successfulAccept (t : EnforcementTurn) : Bool :=
  match t.request, t.response with
  | .accept _ _ _, .ok ⟨_, .acceptCompleted _ _ _ _ _⟩ => true
  | _, _ => false

/-- A check answered `DRIFT_DETECTED` or `RERUN_FAIL`. -/
def reportsDrift (t : EnforcementTurn) : Prop :=
  ∃ body, checkAnswer t = some body ∧
    (body.decisionReasonCode = .driftDetected ∨
      body.decisionReasonCode = .rerunFail)

/-- A check answered `decision_trusted`. -/
def trustedCheck (t : EnforcementTurn) : Prop :=
  ∃ body, checkAnswer t = some body ∧ body.decisionState = .decisionTrusted

section Turns

variable {db : EnforcementDb} {p : Posture}

/-- A turn makes the move of the posture machine. -/
theorem turnOf_refines (h : Represents db p) (r : Request) :
    ∃ response, (turnOf serveRequest db r).response = .ok response ∧
      response.answer = (p.serve r).answer ∧
      Represents (turnOf serveRequest db r).after (p.serve r).next := by
  obtain ⟨response, db', hserve, hnext, hanswer, -⟩ := serveRequest_refines h r
  exact ⟨response, by simp [turnOf, hserve], hanswer, by
    simpa [turnOf, hserve] using hnext⟩

theorem answer_of_checkBody? {response : Response} {body : CheckBody}
    (h : response.checkBody? = some body) :
    ∃ expected, response.answer =
      .checked body.decisionReasonCode body.decisionState
        body.lifecycleStateVersion expected := by
  obtain ⟨status, payload⟩ := response
  cases payload <;> simp_all [Response.checkBody?, Response.answer]

theorem checkBody?_of_answer {response : Response}
    {reason : DecisionReasonCode} {decision : DecisionState} {version : ℕ}
    {expected : Option Sha256}
    (h : response.answer = .checked reason decision version expected) :
    ∃ body, response.checkBody? = some body ∧
      body.decisionReasonCode = reason ∧ body.decisionState = decision ∧
      body.lifecycleStateVersion = version := by
  obtain ⟨status, payload⟩ := response
  cases payload <;> simp_all [Response.checkBody?, Response.answer]

/-- An evaluated check is a `POST /check` whose move is an evaluated check. -/
theorem checkAnswer_turnOf (h : Represents db p) {r : Request}
    {body : CheckBody}
    (hbody : checkAnswer (turnOf serveRequest db r) = some body) :
    ∃ e now expected, r = .check e now ∧
      (p.check e.materialTruthSha256 now).answer =
        .checked body.decisionReasonCode body.decisionState
          body.lifecycleStateVersion expected := by
  obtain ⟨response, hresponse, hanswer, -⟩ := turnOf_refines h r
  rw [checkAnswer, turnOf_request, hresponse] at hbody
  cases r with
  | createBaseline e now => simp at hbody
  | accept e raw now => simp at hbody
  | check e now =>
      obtain ⟨expected, hchecked⟩ := answer_of_checkBody? hbody
      exact ⟨e, now, expected, rfl, hanswer.symm.trans hchecked⟩

/-- A turn is a successful accept exactly when the move is one. -/
theorem successfulAccept_turnOf (h : Represents db p) (r : Request) :
    successfulAccept (turnOf serveRequest db r) = true ↔
      ∃ version truth, (p.serve r).answer = .accepted version truth := by
  obtain ⟨response, hresponse, hanswer, -⟩ := turnOf_refines h r
  rw [successfulAccept, turnOf_request, hresponse]
  cases r with
  | createBaseline e now =>
      simp [Posture.serve, Posture.createBaseline_ne_accepted]
  | check e now => simp [Posture.serve, Posture.check_ne_accepted]
  | accept e raw now =>
      rw [← hanswer]
      obtain ⟨status, payload⟩ := response
      cases payload <;> simp [Response.answer]

end Turns

/-- The postures of an account that a run reaches. -/
theorem accountTurns_before {rs : List Request} {l₁ l₂ : List EnforcementTurn}
    {t : EnforcementTurn} (h : accountTurns rs = l₁ ++ t :: l₂) :
    ∃ rs₁ r rs₂, rs = rs₁ ++ r :: rs₂ ∧ accountTurns rs₁ = l₁ ∧
      t = turnOf serveRequest (accountAfter rs₁) r ∧
      turns serveRequest (accountAfter (rs₁ ++ [r])) rs₂ = l₂ ∧
      Represents (accountAfter rs₁) (Posture.unseen.after rs₁) := by
  obtain ⟨rs₁, rest, hrs, h₁, hrest⟩ := turns_eq_append h
  obtain ⟨r, rs₂, rfl, ht, h₂⟩ := turns_eq_cons hrest
  refine ⟨rs₁, r, rs₂, hrs, h₁, ht, ?_, accountAfter_represents rs₁⟩
  rw [accountAfter, finish_append]
  exact h₂

/-! ## No trust without acknowledgement -/

/-- A drift is open: the next move out of the posture is an accept. -/
def DriftOpen (db : EnforcementDb) : Prop :=
  ∃ p, Represents db p ∧ p.state = .actionRequired

/-- While a drift is open, a turn that is not a successful accept leaves it
open. -/
theorem driftOpen_step {db : EnforcementDb} {r : Request}
    (h : DriftOpen db)
    (hno : successfulAccept (turnOf serveRequest db r) = false) :
    DriftOpen (serveRequest db r).1 := by
  obtain ⟨p, hrep, hstate⟩ := h
  obtain ⟨response, -, -, hnext⟩ := turnOf_refines hrep r
  refine ⟨(p.serve r).next, hnext, ?_⟩
  cases p with
  | actionRequired v b review =>
      apply Posture.serve_of_actionRequired
      intro version truth hanswer
      have haccept := (successfulAccept_turnOf hrep r).mpr
        ⟨version, truth, hanswer⟩
      rw [hno] at haccept
      exact Bool.noConfusion haccept
  | unseen => simp at hstate
  | baselineMissing v => simp at hstate
  | baselineActive v b => simp at hstate
  | rerunRequired v b review => simp at hstate

/-- A reported drift is open afterwards. -/
theorem actionRequired_of_reportsDrift {db : EnforcementDb} {p : Posture}
    (h : Represents db p) {r : Request}
    (hdrift : reportsDrift (turnOf serveRequest db r)) :
    (p.serve r).next.state = .actionRequired := by
  obtain ⟨body, hbody, hreason⟩ := hdrift
  obtain ⟨e, now, expected, rfl, hanswer⟩ := checkAnswer_turnOf h hbody
  cases hdecision : body.decisionState with
  | decisionTrusted =>
      rw [hdecision] at hanswer
      obtain ⟨-, -, -, hpass, -⟩ := Posture.check_trusted hanswer
      rcases hreason with hreason | hreason <;> simp [hreason] at hpass
  | decisionBlocked =>
      rw [hdecision] at hanswer
      obtain ⟨b, review, -, hnext⟩ := Posture.check_blocked hanswer
        (by rcases hreason with hreason | hreason <;> simp [hreason])
      simp [Posture.serve, hnext]

/-- The baseline stored in `db` has this hash and is not waiting to be
recreated. -/
def StoresBaseline (db : EnforcementDb) (hash : Sha256) : Prop :=
  ∃ row : BaselineRow, db.row .baseline = some row ∧
    row.projectionHash = hash ∧ row.needsRebaseline = false

/-- A trusted check observed the stored baseline hash, before and after it. -/
theorem trustedCheck_storesBaseline {db : EnforcementDb} {p : Posture}
    (h : Represents db p) {r : Request}
    (htrust : trustedCheck (turnOf serveRequest db r)) :
    p.state ≠ .actionRequired ∧
      StoresBaseline db r.evidence.materialTruthSha256 ∧
      StoresBaseline (turnOf serveRequest db r).after
        r.evidence.materialTruthSha256 := by
  obtain ⟨body, hbody, hdecision⟩ := htrust
  obtain ⟨e, now, expected, rfl, hanswer⟩ := checkAnswer_turnOf h hbody
  rw [hdecision] at hanswer
  obtain ⟨hbase, hstate, hreview, -, hnext⟩ := Posture.check_trusted hanswer
  obtain ⟨row, hrow, hhash, hholds⟩ := h.baselineIs hbase
  refine ⟨hstate, ⟨row, hrow, hhash, hholds.needs hreview⟩, ?_⟩
  obtain ⟨response, -, -, hafter⟩ := turnOf_refines h (.check e now)
  rw [Posture.serve, hnext] at hafter
  obtain ⟨row', hrow', hhash', -, hneeds'⟩ := hafter.rows.1
  exact ⟨row', hrow', hhash', hneeds'⟩

/-- In every sequential run, a check that reports a drift is followed by a
trusted check only after a successful accept, and every trusted check observed
the stored baseline hash while no rebaseline was due. -/
theorem trust_requires_acknowledgement (rs : List Request) :
    (∀ l₁ a l₂ b l₃, accountTurns rs = l₁ ++ a :: (l₂ ++ b :: l₃) →
      reportsDrift a → trustedCheck b →
        ∃ t ∈ l₂, successfulAccept t = true) ∧
    ∀ t ∈ accountTurns rs, trustedCheck t →
      StoresBaseline t.before t.request.evidence.materialTruthSha256 ∧
        StoresBaseline t.after t.request.evidence.materialTruthSha256 := by
  constructor
  · intro l₁ a l₂ b l₃ hturns hdrift htrust
    by_contra hno
    push Not at hno
    obtain ⟨rs₁, r, rest, -, -, rfl, hrest, hrep⟩ := accountTurns_before hturns
    obtain ⟨rs₂, rest₂, -, hl₂, hlast⟩ := turns_eq_append hrest
    obtain ⟨r', rs₃, -, rfl, -⟩ := turns_eq_cons hlast
    -- the drift is open after `a`, and stays open through `l₂`
    obtain ⟨response, -, -, hnext⟩ := turnOf_refines hrep r
    have hopen := actionRequired_of_reportsDrift hrep hdrift
    have hstart : DriftOpen (accountAfter (rs₁ ++ [r])) := by
      refine ⟨_, ?_, hopen⟩
      rw [accountAfter, finish_append]
      exact hnext
    have hnone : ∀ t ∈ turns serveRequest (accountAfter (rs₁ ++ [r])) rs₂,
        successfulAccept t = false := by
      intro t ht
      rw [hl₂] at ht
      simpa using hno t ht
    obtain ⟨p, hp, hstate⟩ := finish_of_turns DriftOpen
      (fun t => successfulAccept t = false)
      (fun s r hs hok => driftOpen_step hs hok) hstart hnone
    exact (trustedCheck_storesBaseline hp htrust).1 hstate
  · intro t ht htrust
    obtain ⟨l₁, l₂, hturns⟩ := List.append_of_mem ht
    obtain ⟨rs₁, r, rest, -, -, rfl, -, hrep⟩ := accountTurns_before hturns
    exact (trustedCheck_storesBaseline hrep htrust).2

/-! ## Well-formed requests -/

/-- Decision-grade evidence with the given material truth. -/
def contractEvidence (truth : Sha256) : Evidence where
  keyId := "key"
  runId := "run"
  outcomeCertificate :=
    { runKind := .contractSql
      stateRelation := .matchesExpectations
      detailCodes := [] }
  certificateSha256 := truth
  materialTruthSha256 := truth
  evidenceId := "evidence"

/-- The members of an accept of the drift shown at `version`. -/
def acceptOf (version : ℕ) (baseline : Sha256) (reviewBy : Option ℤ) :
    AcceptBody where
  expectedProjectionHash := baseline.hex
  lifecycleStateVersion := version
  acceptanceReason := "reviewed"
  acceptanceOwner := "owner"
  exceptionReviewBy := reviewBy

theorem parse_acceptOf (version : ℕ) (baseline : Sha256)
    {reviewBy : Option ℤ} {now : ℤ} (h : ∀ t, reviewBy = some t → now < t) :
    parseAcceptEvidenceInput (acceptOf version baseline reviewBy) now =
      .ok (acceptOf version baseline reviewBy) := by
  have hreason : jsTrim "reviewed" = "reviewed" := by rfl
  have howner : jsTrim "owner" = "owner" := by rfl
  have hblank : baseline.hex ≠ "" := by
    rw [← baseline.jsTrim_hex]
    exact baseline.jsTrim_hex_ne_empty
  have hreview : parseExceptionReviewBy reviewBy now = .ok reviewBy := by
    cases reviewBy with
    | none => rfl
    | some t => simp [parseExceptionReviewBy, not_le.mpr (h t rfl)]
  simp [parseAcceptEvidenceInput, acceptOf, hreason, howner, hblank, hreview,
    Sha256.jsTrim_hex]

/-- Such an accept goes through on the drift that it names. -/
theorem serve_acceptOf (v : ℕ) (b truth : Sha256) (review : Review)
    {reviewBy : Option ℤ} {now : ℤ} (h : ∀ t, reviewBy = some t → now < t) :
    (Posture.actionRequired v b review).serve
        (.accept (contractEvidence truth) (acceptOf v b reviewBy) now) =
      ⟨.rerunRequired (v + 1) truth (.accepted reviewBy),
        .accepted (v + 1) truth, [.legacyDriftAccepted truth]⟩ := by
  simp only [Posture.serve, parse_acceptOf v b h]
  simp [Posture.accept, Posture.seen, acceptOf, contractEvidence,
    isDecisionGradeRunKind]

/-! ## What an accept is pinned to -/

theorem accountTurns_snoc (rs : List Request) (r : Request) :
    accountTurns (rs ++ [r]) =
      accountTurns rs ++ [turnOf serveRequest (accountAfter rs) r] := by
  simp [accountTurns, accountAfter, turns_append]

/-- A move that is an evaluated check is one in the turn. -/
theorem checkAnswer_of_answer {db : EnforcementDb} {p : Posture}
    (h : Represents db p) {e : Evidence} {now : ℤ}
    {reason : DecisionReasonCode} {decision : DecisionState} {version : ℕ}
    {expected : Option Sha256}
    (hanswer : (p.serve (.check e now)).answer =
      .checked reason decision version expected) :
    ∃ body, checkAnswer (turnOf serveRequest db (.check e now)) = some body ∧
      body.decisionReasonCode = reason ∧ body.decisionState = decision ∧
      body.lifecycleStateVersion = version := by
  obtain ⟨response, hresponse, hresponseAnswer, -⟩ :=
    turnOf_refines h (.check e now)
  obtain ⟨body, hbody, hrest⟩ :=
    checkBody?_of_answer (hresponseAnswer.trans hanswer)
  refine ⟨body, ?_, hrest⟩
  rw [checkAnswer, turnOf_request, hresponse]
  exact hbody

/-- The last evaluated check of `l` showed an open drift at `version`, against
baseline `hash`. -/
def DriftShown (l : List EnforcementTurn) (version : ℕ) (hash : Sha256) :
    Prop :=
  ∃ m₁ c m₂ body, l = m₁ ++ c :: m₂ ∧ (∀ t ∈ m₂, checkAnswer t = none) ∧
    checkAnswer c = some body ∧ body.lifecycleStateVersion = version ∧
    body.decisionReasonCode.opensDrift = true ∧
    ∃ row : BaselineRow, c.before.row .baseline = some row ∧
      row.projectionHash = hash

/-- An open drift was shown by the last evaluated check of the run. -/
theorem driftShown_of_actionRequired {rs : List Request} {v : ℕ} {b : Sha256}
    {review : Review}
    (h : Posture.unseen.after rs = .actionRequired v b review) :
    DriftShown (accountTurns rs) v b := by
  induction rs using List.reverseRecOn generalizing review with
  | nil => simp at h
  | append_singleton rs r ih =>
      have hrep := accountAfter_represents rs
      rw [Posture.after_append, Posture.after_cons, Posture.after_nil] at h
      rw [accountTurns_snoc]
      rcases Posture.serve_into_actionRequired h with
        ⟨⟨review', hbefore⟩, hrefused⟩ | ⟨hbase, e, now, reason, expected, rfl,
          hreason, hanswer⟩
      · obtain ⟨m₁, c, m₂, body, hl, hm, hrest⟩ := ih hbefore
        refine ⟨m₁, c, m₂ ++ [turnOf serveRequest (accountAfter rs) r], body,
          by simp [hl], ?_, hrest⟩
        intro t ht
        rcases List.mem_append.mp ht with ht | ht
        · exact hm t ht
        · rw [List.mem_singleton] at ht
          subst ht
          -- a refused turn evaluates no check
          cases hcheck : checkAnswer (turnOf serveRequest (accountAfter rs) r) with
          | none => rfl
          | some body' =>
              obtain ⟨e, now, expected, rfl, hchecked⟩ :=
                checkAnswer_turnOf hrep hcheck
              rw [Posture.serve, hchecked] at hrefused
              exact Answer.noConfusion hrefused
      · obtain ⟨body, hbody, hcode, -, hversion⟩ :=
          checkAnswer_of_answer hrep hanswer
        obtain ⟨row, hrow, hhash, -⟩ := hrep.baselineIs hbase
        exact ⟨accountTurns rs, _, [], body, rfl, by simp, hbody, hversion,
          hcode ▸ hreason, row, hrow, hhash⟩

/-- A successful accept presented the version that the last evaluated check of
the run answered with and the hash of the baseline which that check was
compared with, and the hash it installs is that of its own evidence.  An accept
that does not succeed leaves the baseline and acceptance rows, and the lifecycle
row unless it is the first one of the account. -/
theorem accept_pinned_to_shown_drift (rs : List Request)
    {l₁ l₂ : List EnforcementTurn} {t : EnforcementTurn} {e : Evidence}
    {raw : AcceptBody} {now : ℤ} (hturns : accountTurns rs = l₁ ++ t :: l₂)
    (hrequest : t.request = .accept e raw now) :
    (successfulAccept t = true →
      (∃ version hash, DriftShown l₁ version hash ∧
        raw.lifecycleStateVersion = version ∧
        jsTrim raw.expectedProjectionHash = hash.hex) ∧
      StoresBaseline t.after e.materialTruthSha256) ∧
    (successfulAccept t = false →
      t.after.row .baseline = t.before.row .baseline ∧
      (∀ id, t.after.row (.acceptance id) = t.before.row (.acceptance id)) ∧
      (t.after.row .lifecycle = t.before.row .lifecycle ∨
        t.before.row .lifecycle = none ∧
          t.after.row .lifecycle = some (initialLifecycleRow false))) := by
  obtain ⟨rs₁, r, rest, -, rfl, rfl, -, hrep⟩ := accountTurns_before hturns
  obtain rfl : r = .accept e raw now := hrequest
  constructor
  · intro hsuccess
    obtain ⟨version, truth, hanswer⟩ :=
      (successfulAccept_turnOf hrep _).mp hsuccess
    obtain ⟨e', raw', now', body, v, b, review, hr, hparse, hp, hversion, hexpected,
      -, hnext⟩ := Posture.serve_accepted hanswer
    obtain ⟨rfl, rfl, rfl⟩ := Request.accept.inj hr
    obtain ⟨hbodyVersion, hbodyExpected, -⟩ :=
      parseAcceptEvidenceInput_ok hparse
    refine ⟨⟨v, b, driftShown_of_actionRequired hp, ?_, ?_⟩, ?_⟩
    · rw [← hbodyVersion, hversion]
    · rw [← hbodyExpected, hexpected]
    · obtain ⟨response, -, -, hafter⟩ := turnOf_refines hrep (.accept e raw now)
      rw [hnext] at hafter
      obtain ⟨row, hrow, hhash, hneeds, -⟩ := hafter.rows.1
      exact ⟨row, hrow, hhash, hneeds⟩
  · intro hno
    have hrefused : ((Posture.unseen.after rs₁).serve
        (.accept e raw now)).answer = .refused := by
      refine (Posture.serve_accept_answer _ e raw now).resolve_right ?_
      intro haccepted
      rw [(successfulAccept_turnOf hrep _).mpr haccepted] at hno
      exact Bool.noConfusion hno
    have hcreated := serveRequest_accept_created hrep hrefused
    rw [turnOf_before, turnOf_after]
    exact ⟨hcreated.baseline, hcreated.acceptance, hcreated.lifecycle⟩

/-! A drift from truth 0 to truth 1, accepted with evidence of truth 2. -/

def establish : Request := .createBaseline (contractEvidence ⟨0⟩) 0

def drift : Request := .check (contractEvidence ⟨1⟩) 1

def swappedAccept : Request :=
  .accept (contractEvidence ⟨2⟩) (acceptOf 2 ⟨0⟩ none) 2

theorem after_establish_drift :
    Posture.unseen.after [establish, drift] = .actionRequired 2 ⟨0⟩ .settled := by
  decide

theorem successfulAccept_swappedAccept :
    successfulAccept
      (turnOf serveRequest (accountAfter [establish, drift]) swappedAccept) =
        true := by
  rw [successfulAccept_turnOf (accountAfter_represents _), after_establish_drift]
  exact ⟨3, ⟨2⟩, by rw [swappedAccept, serve_acceptOf _ _ _ _ (by simp)]⟩

theorem swappedAccept_pinned :
    ∃ version hash,
      DriftShown (accountTurns [establish, drift]) version hash ∧
        (2 : ℤ) = version ∧ jsTrim (⟨0⟩ : Sha256).hex = hash.hex :=
  ((accept_pinned_to_shown_drift [establish, drift, swappedAccept]
    (accountTurns_snoc [establish, drift] swappedAccept) rfl).1
      successfulAccept_swappedAccept).1

/-- A successful accept need not install the truth that the drift observed. -/
theorem accept_installs_unobserved_truth :
    ¬∀ (rs : List Request) (l₁ : List EnforcementTurn) (c : EnforcementTurn)
        (m : List EnforcementTurn) (t : EnforcementTurn)
        (l₂ : List EnforcementTurn),
      accountTurns rs = l₁ ++ c :: (m ++ t :: l₂) →
      (checkAnswer c).isSome = true → (∀ t' ∈ m, checkAnswer t' = none) →
      successfulAccept t = true →
      StoresBaseline t.after c.request.evidence.materialTruthSha256 := by
  intro hclaim
  have hshown : (checkAnswer (turnOf serveRequest (accountAfter [establish])
      drift)).isSome = true := by
    have hanswer : ((Posture.unseen.after [establish]).serve
        (.check (contractEvidence ⟨1⟩) 1)).answer =
          .checked .driftDetected .decisionBlocked 2 (some ⟨0⟩) := by
      decide
    obtain ⟨body, hbody, -⟩ := checkAnswer_of_answer
      (accountAfter_represents [establish]) hanswer
    rw [drift, hbody]
    rfl
  obtain ⟨row, hrow, hhash, -⟩ := hclaim [establish, drift, swappedAccept]
    (accountTurns [establish]) _ [] _ [] rfl hshown (by simp)
    successfulAccept_swappedAccept
  obtain ⟨response, -, -, hafter⟩ :=
    turnOf_refines (accountAfter_represents [establish, drift]) swappedAccept
  rw [after_establish_drift, swappedAccept,
    serve_acceptOf _ _ _ _ (by simp)] at hafter
  obtain ⟨row', hrow', hhash', -⟩ := hafter.rows.1
  obtain rfl : row = row' := Option.some.inj (hrow.symm.trans hrow')
  have hsame : (⟨1⟩ : Sha256) = ⟨2⟩ := hhash.symm.trans hhash'
  exact absurd hsame (by decide)

end AgentSkeptic.Hosted
