import AgentSkeptic.Hosted.EnforcementRuns
import AgentSkeptic.Support.RetriedCalls

/-!
# The enforce command

`runStatefulEnforce` of `enforceStateful.ts` against the enforcement routes: a process
verifies its run, posts one request and exits with a code.  The network may lose, delay
or repeat the request and lose the answer, and other clients call the routes too.

`enforce_exits` says what the exit code of a process tells about the account.
-/

namespace AgentSkeptic.Hosted

open AgentSkeptic.Support

/-! ## The command -/

inductive TerminalStatus where
  | complete | inconsistent | incomplete
  deriving DecidableEq, Repr

/-- An accept carries what `applyAcceptDriftEnvToPayload` adds to its payload. -/
inductive EnforceMode where
  | check | createBaseline
  | acceptDrift (body : AcceptBody)
  deriving DecidableEq

/-- A process that is licensed and has verified its run. -/
structure Enforcement where
  mode : EnforceMode
  evidence : Evidence
  terminalStatus : TerminalStatus

/-- What `postEnforcementState` ends with; `none` is a body of no route. -/
inductive PostResult where
  | threw (message : String)
  | answered (status : ℕ) (body : Option Payload)

/-- The request of a process, served at `now`. -/
def Enforcement.request (p : Enforcement) (now : ℤ) : Request :=
  match p.mode with
  | .check => .check p.evidence now
  | .createBaseline => .createBaseline p.evidence now
  | .acceptDrift body => .accept p.evidence body now

theorem request_evidence (p : Enforcement) (now : ℤ) :
    (p.request now).evidence = p.evidence := by
  rw [Enforcement.request]
  cases p.mode <;> rfl

def ResultStatus.isDrift (status : ResultStatus) : Bool :=
  status = .drift || status = .rerunFail

/-- `result_status` of the body, which only an evaluated check has. -/
def resultStatus : Option Payload → Option ResultStatus
  | some (.checkCompleted _ status _ _ _) => some status
  | _ => none

def TerminalStatus.exitCode : TerminalStatus → ℕ
  | .complete => 0
  | .inconsistent => 1
  | .incomplete => 2

/-- `res.ok`. -/
def isOk (status : ℕ) : Bool := 200 ≤ status && status < 300

/-- The exit code of a process.  No body of the routes has the `status` member of the
legacy envelope. -/
def Enforcement.exitCode (p : Enforcement) : PostResult → ℕ
  | .threw _ => 3
  | .answered status body =>
      if !isOk status then 3
      else if p.mode = .check ∧ (resultStatus body).any ResultStatus.isDrift then 4
      else p.terminalStatus.exitCode

/-! ## The system -/

/-- An error of the transaction is answered with 500. -/
def postResult : Except String Response → PostResult
  | .ok response => .answered response.httpStatus (some response.payload)
  | .error _ => .answered 500 none

/-- The processes `calls` and the account, as the requests that were served so far; the
world of a request is the clock of its handler. -/
def enforcements {ι : Type} (calls : ι → Enforcement) :
    Calls ι (List Request) ℤ Request PostResult ℕ where
  serve served i now :=
    (served ++ [(calls i).request now],
      postResult (serveRequest (accountAfter served) ((calls i).request now)).2)
  other served r := served ++ [r]
  foreign
    | .threw _ => true
    | .answered status _ => !isOk status
  result i answers := answers.head?.map (calls i).exitCode

/-! ## Answers to a check -/

/-- The answer is no success, or says of the verdict what its body says. -/
def CheckReply (r : Response) : Prop :=
  r.httpStatus = 409 ∨ ∃ body status expected actual kind,
    r = ⟨200, .checkCompleted body status expected actual kind⟩ ∧
      if status.isDrift then
        body.decisionReasonCode = .driftDetected ∨ body.decisionReasonCode = .rerunFail
      else body.decisionState = .decisionTrusted

theorem evaluateCheck_status (input : CheckEvaluationInput) :
    (evaluateCheck input).httpStatus = 409 ∨
      (evaluateCheck input).httpStatus = 200 ∧
        if (evaluateCheck input).resultStatus.isDrift then
          (evaluateCheck input).decisionReasonCode = .driftDetected ∨
            (evaluateCheck input).decisionReasonCode = .rerunFail
        else (evaluateCheck input).decisionState = .decisionTrusted := by
  unfold evaluateCheck
  split
  · unfold evaluateCheckAgainst
    split
    · exact .inl rfl
    · split
      · exact .inr ⟨rfl, rfl⟩
      · exact .inr ⟨rfl, .inl rfl⟩
    · split
      · exact .inl rfl
      · exact .inr ⟨rfl, .inl rfl⟩
    · split
      · exact .inr ⟨rfl, rfl⟩
      · exact .inr ⟨rfl, .inr rfl⟩
  · exact .inl rfl

theorem recordCheck_returns (e : Evidence) (baselineRow : Option BaselineRow)
    (life : LifecycleRow) (input : CheckEvaluationInput) :
    (recordCheck e baselineRow life (evaluateCheck input)).Returns CheckReply := by
  have hreply (attemptId : ℕ) : CheckReply ⟨(evaluateCheck input).httpStatus,
      checkPayload e baselineRow life (evaluateCheck input) attemptId⟩ := by
    rcases evaluateCheck_status input with hrefused | ⟨hok, hverdict⟩
    · exact .inl hrefused
    · rw [checkPayload, if_neg (by simp [hok]), hok]
      exact .inr ⟨_, _, _, _, _, rfl, hverdict⟩
  refine .bind fun attemptId => .bind fun _ => .bind fun _ => .bind fun _ =>
    .bind fun updated => ?_
  split
  · refine .bind fun _ => ?_
    split
    · exact .bind fun _ => .pure (hreply attemptId)
    · exact .pure (hreply attemptId)
  · exact .fail _

theorem executeFsmCheck_returns (e : Evidence) (now : ℤ) :
    (executeFsmCheck e now).Returns CheckReply := by
  have hposture (baselineRow : Option BaselineRow) :
      (checkPosture e baselineRow).Returns CheckReply := by
    refine .bind fun life => ?_
    split
    · rename_i refusal hrefusal
      rw [evaluateCheckPreconditions] at hrefusal
      split_ifs at hrefusal
      cases hrefusal
      exact .pure (.inl rfl)
    · exact recordCheck_returns e baselineRow life _
  refine .bind fun baselineRow => ?_
  split
  · exact hposture baselineRow
  · refine .bind fun acc => ?_
    split
    · exact .bind fun _ => .pure (.inl rfl)
    · exact hposture baselineRow

/-- What a code other than 3 of a check process says about the turn of its request. -/
theorem exitCode_of_check {p : Enforcement} (hmode : p.mode = .check) {db : EnforcementDb}
    {now : ℤ} {code : ℕ} (hthree : code ≠ 3)
    (hexit : p.exitCode (postResult (turnOf serveRequest db (p.request now)).response) =
      code) :
    (code = p.terminalStatus.exitCode ∧ trustedCheck (turnOf serveRequest db (p.request now))) ∨
      (code = 4 ∧ reportsDrift (turnOf serveRequest db (p.request now))) := by
  have hrequest : p.request now = .check p.evidence now := by rw [Enforcement.request, hmode]
  rw [hrequest] at hexit ⊢
  rw [turnOf_response, serveRequest, Txn.serveAlone] at hexit
  cases hperform : (Request.check p.evidence now).transaction.perform db with
  | error message =>
      rw [hperform] at hexit
      exact absurd hexit.symm hthree
  | ok result =>
      obtain ⟨response, db'⟩ := result
      have hanswer : checkAnswer (turnOf serveRequest db (.check p.evidence now)) =
          response.checkBody? := by
        rw [checkAnswer, turnOf_response, serveRequest, Txn.serveAlone_of_ok hperform]
        rfl
      rw [hperform] at hexit
      rcases executeFsmCheck_returns _ _ _ _ _ hperform with
        hrefused | ⟨body, status, expected, actual, kind, rfl, hverdict⟩
      · rw [postResult, Enforcement.exitCode, hrefused] at hexit
        exact absurd hexit.symm hthree
      · cases hdrift : status.isDrift with
        | true =>
            rw [hdrift, if_pos rfl] at hverdict
            refine .inr ⟨hexit.symm.trans ?_, body, hanswer, hverdict⟩
            simp [postResult, Enforcement.exitCode, isOk, hmode, resultStatus, hdrift]
        | false =>
            rw [hdrift, if_neg (by simp)] at hverdict
            refine .inl ⟨hexit.symm.trans ?_, body, hanswer, hverdict⟩
            simp [postResult, Enforcement.exitCode, isOk, resultStatus, hdrift]

/-! ## Exit codes -/

section Exits

variable {ι : Type} [DecidableEq ι] (calls : ι → Enforcement)
  (events : List (NetEvent ι ℤ Request PostResult))

/-- The processes and the account after the events. -/
def enforcementNet : Net ι (List Request) PostResult :=
  (Net.start []).run (enforcements calls) events

/-- A code other than 3 is that of a turn of the process's request. -/
theorem enforcementNet_justified (i : ι) {code : ℕ} (hcode : code ≠ 3) :
    (enforcementNet calls events).Justified (fun j a => j = i ∧ (calls i).exitCode a = code)
      fun _ served => ∃ t ∈ accountTurns served,
        (∃ now, t.request = (calls i).request now) ∧
          (calls i).exitCode (postResult t.response) = code := by
  have hmore (served : List Request) (r : Request) {Q : EnforcementTurn → Prop}
      (h : ∃ t ∈ accountTurns served, Q t) : ∃ t ∈ accountTurns (served ++ [r]), Q t := by
    obtain ⟨t, ht, hQ⟩ := h
    exact ⟨t, by rw [accountTurns_snoc]; exact List.mem_append_left _ ht, hQ⟩
  refine Net.run_justified (fun _ => True) (fun _ _ _ _ => trivial) (fun _ _ _ => trivial)
    ?_ (fun served _ j now _ h => hmore served _ h) (fun served _ r _ h => hmore served r h)
    ?_ trivial events
  · rintro served j now - ⟨rfl, hexit⟩
    refine ⟨turnOf serveRequest (accountAfter served) ((calls j).request now), ?_,
      ⟨now, rfl⟩, hexit⟩
    show _ ∈ accountTurns (served ++ [(calls j).request now])
    rw [accountTurns_snoc]
    exact List.mem_append_right _ (List.mem_singleton_self _)
  · rintro j a hforeign ⟨rfl, hexit⟩
    cases a with
    | threw message => exact hcode hexit.symm
    | answered status body =>
        have hnotOk : (!isOk status) = true := hforeign
        rw [Enforcement.exitCode, if_pos hnotOk] at hexit
        exact hcode hexit.symm

/-- In every run over the network, a check process exits with 3, or with 4 on a turn of
the account that reported its drift and left it open, or with the code of its own run on
a turn that trusted it: no drift was open then, and its material truth was the hash of
the baseline in force. -/
theorem enforce_exits (i : ι) (hmode : (calls i).mode = .check) (code : ℕ)
    (hexit : (enforcements calls).result i ((enforcementNet calls events).seen i) =
      some code) :
    code = 3 ∨ ∃ t ∈ accountTurns (enforcementNet calls events).server,
      (∃ now, t.request = (calls i).request now) ∧
        ((code = 4 ∧ reportsDrift t ∧ DriftOpen t.after) ∨
          (code = (calls i).terminalStatus.exitCode ∧ trustedCheck t ∧
            ¬DriftOpen t.before ∧
            StoresBaseline t.before (calls i).evidence.materialTruthSha256 ∧
            StoresBaseline t.after (calls i).evidence.materialTruthSha256)) := by
  obtain ⟨a, hseen, hcode⟩ := Option.map_eq_some_iff.mp hexit
  by_cases hthree : code = 3
  · exact .inl hthree
  · obtain ⟨t, ht, ⟨now, hrequest⟩, hturn⟩ :=
      (enforcementNet_justified calls events i hthree).seen i a
        (List.mem_of_head? hseen) ⟨rfl, hcode⟩
    refine .inr ⟨t, ht, ⟨now, hrequest⟩, ?_⟩
    obtain ⟨l₁, l₂, hsplit⟩ := List.append_of_mem ht
    obtain ⟨rs, r, rest, -, -, rfl, -, hrep⟩ := accountTurns_before hsplit
    rw [turnOf_request] at hrequest
    subst hrequest
    rcases exitCode_of_check hmode hthree hturn with ⟨hcode, htrusted⟩ | ⟨hcode, hdrift⟩
    · obtain ⟨-, hbefore, hafter⟩ := trustedCheck_storesBaseline hrep htrusted
      rw [request_evidence] at hbefore hafter
      refine .inr ⟨hcode, htrusted, ?_, hbefore, hafter⟩
      rintro ⟨p, hp, hopen⟩
      exact (trustedCheck_storesBaseline hp htrusted).1 hopen
    · obtain ⟨response, -, -, hnext⟩ := turnOf_refines hrep ((calls i).request now)
      exact .inl ⟨hcode, hdrift, _, hnext, actionRequired_of_reportsDrift hrep hdrift⟩

end Exits

/-- A check of material truth that is stored as the baseline exits with 0, and its turn is
a trusted one. -/
theorem enforce_exits_trusted :
    ∃ t ∈ accountTurns [.createBaseline (contractEvidence ⟨0⟩) 0,
      .check (contractEvidence ⟨0⟩) 0], trustedCheck t := by
  have hexits := enforce_exits
    (fun _ : Unit => ⟨.check, contractEvidence ⟨0⟩, .complete⟩)
    [.other (.createBaseline (contractEvidence ⟨0⟩) 0), .send (), .serve () 0 0, .deliver 0]
    () rfl 0 rfl
  rcases hexits with hthree | ⟨t, ht, -, ⟨hfour, -⟩ | ⟨-, htrusted, -⟩⟩
  · cases hthree
  · cases hfour
  · exact ⟨t, ht, htrusted⟩

end AgentSkeptic.Hosted
