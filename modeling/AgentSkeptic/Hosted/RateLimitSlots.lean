import AgentSkeptic.Hosted.MagicLinkGate
import AgentSkeptic.Support.CommitEffects

/-!
# Hourly rate limits at read committed

`lib/ossClaimRateLimits.ts` and the two routes that run a reservation in a transaction of
its own, `GET /api/public/funnel-anon` and `POST /api/integrator/registry-draft`.  A
counter row belongs to one scope, one UTC hour and one address or user; a transaction locks
it, compares its count with the cap and adds one.  The transactions of all requests, and of
their retries, interleave statement by statement.

`granted_le_cap` bounds the requests that are granted, whatever the schedule.
-/

namespace AgentSkeptic.Hosted.RateLimit

open AgentSkeptic.Support Txn MagicLink

/-! ## The counter table -/

inductive RateScope where
  | claimTicketIp | claimPendingIp | claimHandoffIp | publicFunnelAnonIp
  | claimRedeemUser | registryDraftIp
  deriving DecidableEq, Repr

def OSS_CLAIM_TICKET_IP_CAP : ℕ := 60

def OSS_CLAIM_REDEEM_USER_CAP : ℕ := 30

def OSS_CLAIM_PENDING_IP_CAP : ℕ := 30

def OSS_CLAIM_HANDOFF_IP_CAP : ℕ := OSS_CLAIM_PENDING_IP_CAP

def REGISTRY_DRAFT_IP_CAP : ℕ := 5

def PUBLIC_FUNNEL_ANON_IP_CAP : ℕ := 30

def RateScope.cap : RateScope → ℕ
  | .claimTicketIp => OSS_CLAIM_TICKET_IP_CAP
  | .claimPendingIp => OSS_CLAIM_PENDING_IP_CAP
  | .claimHandoffIp => OSS_CLAIM_HANDOFF_IP_CAP
  | .publicFunnelAnonIp => PUBLIC_FUNNEL_ANON_IP_CAP
  | .claimRedeemUser => OSS_CLAIM_REDEEM_USER_CAP
  | .registryDraftIp => REGISTRY_DRAFT_IP_CAP

theorem RateScope.cap_pos (scope : RateScope) : 0 < scope.cap := by
  cases scope <;> decide

/-- The primary key of `oss_claim_rate_limit_counter`. -/
structure RateKey where
  scope : RateScope
  windowStart : ℤ
  scopeKey : String
  deriving DecidableEq, Repr

/-- The table; a row is its `count`. -/
abbrev RateRows := Rows fun _ : RateKey => ℕ

abbrev RateTxn := Txn RateKey (fun _ => ℕ) Empty

/-! ## Reservations -/

/-- The transaction body of every scope; `true` is `{ ok: true }`. -/
def reserveSlot (scope : RateScope) (cap : ℕ) (now : ℤ) (scopeKey : String) :
    RateTxn Bool := do
  let k : RateKey := ⟨scope, utcHourStart now, scopeKey⟩
  match ← selectRowForUpdate k with
  | none => insert k 1 (done true)
  | some c =>
      if cap ≤ c then done false
      else update k (fun count => some (count + 1)) fun _ => done true

def reserveClaimTicketIpSlot : ℤ → String → RateTxn Bool :=
  reserveSlot .claimTicketIp OSS_CLAIM_TICKET_IP_CAP

def reserveClaimPendingIpSlot : ℤ → String → RateTxn Bool :=
  reserveSlot .claimPendingIp OSS_CLAIM_PENDING_IP_CAP

def reserveClaimHandoffIpSlot : ℤ → String → RateTxn Bool :=
  reserveSlot .claimHandoffIp OSS_CLAIM_HANDOFF_IP_CAP

def reserveClaimRedeemUserSlot : ℤ → String → RateTxn Bool :=
  reserveSlot .claimRedeemUser OSS_CLAIM_REDEEM_USER_CAP

def reserveRegistryDraftIpSlot : ℤ → String → RateTxn Bool :=
  reserveSlot .registryDraftIp REGISTRY_DRAFT_IP_CAP

def reservePublicFunnelAnonIpSlot : ℤ → String → RateTxn Bool :=
  reserveSlot .publicFunnelAnonIp PUBLIC_FUNNEL_ANON_IP_CAP

def rateLimitedPublicFunnelAnonIp : String := "RateLimitedPublicFunnelAnonIp"

/-- The transaction of `GET /api/public/funnel-anon`, which throws where no slot is left. -/
def funnelAnonTxn (now : ℤ) (ipKey : String) : RateTxn Bool := do
  let reserved ← reservePublicFunnelAnonIpSlot now ipKey
  if reserved then done true else fail rateLimitedPublicFunnelAnonIp

/-! ## Retries -/

def SERIALIZATION_MAX_ATTEMPTS : ℕ := 64

/-- The loop of `withSerializableRetry` with `left` attempts to go, given what each attempt
returned or threw. -/
def retryFrom {α : Type} (isSerializationFailure : String → Bool)
    (outcome : ℕ → Except String α) (attempt : ℕ) : (left : ℕ) → Except String α
  | 0 => .error "withSerializableRetry: exhausted"
  | left + 1 =>
      match outcome attempt with
      | .ok a => .ok a
      | .error e =>
          if !isSerializationFailure e || left = 0 then .error e
          else retryFrom isSerializationFailure outcome (attempt + 1) left

def withSerializableRetry {α : Type} (isSerializationFailure : String → Bool)
    (outcome : ℕ → Except String α) : Except String α :=
  retryFrom isSerializationFailure outcome 0 SERIALIZATION_MAX_ATTEMPTS

/-- What the loop returns is what one attempt returned. -/
theorem exists_outcome_of_retryFrom {α : Type} {isSerializationFailure : String → Bool}
    {outcome : ℕ → Except String α} {attempt left : ℕ} {a : α}
    (h : retryFrom isSerializationFailure outcome attempt left = .ok a) :
    ∃ n, outcome n = .ok a := by
  induction left generalizing attempt with
  | zero => cases h
  | succ left ih =>
      rw [retryFrom] at h
      split at h
      · rename_i b hb
        exact ⟨attempt, hb.trans h⟩
      · split_ifs at h
        exact ih h

/-! ## Requests -/

/-- A request that reserves a slot in a transaction of its own, with the clock that each
of its attempts reads. -/
inductive SlotRequest where
  | registryDraft (ipKey : String) (now : ℕ → ℤ)
  | funnelAnon (ipKey : String) (now : ℕ → ℤ)
  /-- Another scope, on its own. -/
  | slot (scope : RateScope) (scopeKey : String) (now : ℕ → ℤ)

namespace SlotRequest

def scope : SlotRequest → RateScope
  | registryDraft _ _ => .registryDraftIp
  | funnelAnon _ _ => .publicFunnelAnonIp
  | slot scope _ _ => scope

/-- The row that an attempt counts in. -/
def key : SlotRequest → ℕ → RateKey
  | registryDraft ipKey now, n => ⟨.registryDraftIp, utcHourStart (now n), ipKey⟩
  | funnelAnon ipKey now, n => ⟨.publicFunnelAnonIp, utcHourStart (now n), ipKey⟩
  | slot scope scopeKey now, n => ⟨scope, utcHourStart (now n), scopeKey⟩

/-- The transaction of an attempt. -/
def txn : SlotRequest → ℕ → RateTxn Bool
  | registryDraft ipKey now, n => reserveRegistryDraftIpSlot (now n) ipKey
  | funnelAnon ipKey now, n => funnelAnonTxn (now n) ipKey
  | slot scope scopeKey now, n => reserveSlot scope scope.cap (now n) scopeKey

end SlotRequest

/-! ## What one transaction does -/

def countOf (row : Option ℕ) : ℕ := row.getD 0

/-- No counter is above the cap of its scope. -/
def WithinCaps (c : RateRows) : Prop :=
  ∀ k count, c k = some count → count ≤ k.scope.cap

/-- A slot that is granted adds one to its row, below the cap. -/
def SlotEffect (k : RateKey) : Bool → RateRows → RateRows → Prop
  | true, c, c' => countOf (c k) < k.scope.cap ∧
      c' = Function.update c k (some (countOf (c k) + 1))
  | false, c, c' => c' = c

theorem WithinCaps.grant {c : RateRows} (h : WithinCaps c) {k : RateKey} {count : ℕ}
    (hcount : count ≤ k.scope.cap) : WithinCaps (Function.update c k (some count)) := by
  intro j count' hj
  by_cases hjk : j = k
  · subst hjk
    rw [Function.update_self] at hj
    exact Option.some.inj hj ▸ hcount
  · rw [Function.update_of_ne hjk] at hj
    exact h j count' hj

/-- The row of `k` was read, or found missing, and is locked: what is committed is one
more than it. -/
theorem performs_grant {k : RateKey} {held : RateKey → Prop} (hheld : held k)
    {c : RateRows} {count : ℕ} (hcount : countOf (c k) = count)
    (hcap : count < k.scope.cap) :
    Performs WithinCaps (SlotEffect k) (done true : RateTxn Bool) held
      (Function.update (fun _ => none) k (some (count + 1))) c := by
  intro c' hc'
  have hrow : c' k = c k := hc'.held k hheld
  have hoverlay : overlay (Function.update (fun _ => none) k (some (count + 1))) c' =
      Function.update c' k (some (count + 1)) := overlay_update _ _ _ _
  rw [hoverlay]
  refine ⟨hc'.inv.grant (by omega), ?_, ?_⟩
  · rw [hrow, hcount]
    exact hcap
  · rw [hrow, hcount]

theorem performs_reserveSlot (scope : RateScope) (now : ℤ) (scopeKey : String)
    (c : RateRows) :
    Performs WithinCaps (SlotEffect ⟨scope, utcHourStart now, scopeKey⟩)
      (reserveSlot scope scope.cap now scopeKey) (fun _ => False) (fun _ => none) c := by
  simp only [reserveSlot, bind_eq, selectForUpdate_bind, done_bind]
  generalize hk : (⟨scope, utcHourStart now, scopeKey⟩ : RateKey) = k
  have hscope : scope = k.scope := by rw [← hk]
  rw [hscope]
  intro c₁ _
  refine ⟨fun _ => ?_, fun count hread => ?_⟩
  · -- The row is missing when it is read, and still when it is inserted.
    intro c₂ _ hmissing
    have hnone : c₂ k = none := by simpa using hmissing
    have hzero : countOf (c₂ k) = 0 := by
      rw [hnone]
      rfl
    exact performs_grant (.inr rfl) hzero k.scope.cap_pos
  · have hrow : c₁ k = some count := by simpa using hread
    dsimp only
    split
    · intro c₂ hc₂
      exact ⟨hc₂.inv, rfl⟩
    · rename_i hroom
      intro c₂ hc₂
      have hlocked : c₂ k = some count := (hc₂.held k (.inr rfl)).trans hrow
      have hupdate : (overlay (fun _ => none) c₂ k).bind (fun n => some (n + 1)) =
          some (count + 1) := by
        simp [hlocked]
      rw [hupdate]
      refine ⟨fun h => absurd h (by simp), fun row hnew => ?_⟩
      rw [← Option.some.inj hnew]
      refine performs_grant (.inr rfl) ?_ (by omega)
      rw [hlocked]
      rfl

/-- Every attempt of every request. -/
theorem performs_txn (r : SlotRequest) (n : ℕ) (c : RateRows) :
    Performs WithinCaps (SlotEffect (r.key n)) (r.txn n) (fun _ => False)
      (fun _ => none) c := by
  cases r with
  | registryDraft ipKey now => exact performs_reserveSlot .registryDraftIp (now n) ipKey c
  | slot scope scopeKey now => exact performs_reserveSlot scope (now n) scopeKey c
  | funnelAnon ipKey now =>
      refine (performs_reserveSlot .publicFunnelAnonIp (now n) ipKey c).bind_end ?_
      intro reserved
      cases reserved with
      | true => exact .inl ⟨true, rfl, fun _ _ heffect => heffect⟩
      | false => exact .inr ⟨_, rfl⟩

/-! ## Schedules -/

/-- A table within the caps. -/
structure RateTable where
  db : Db RateKey (fun _ => ℕ) Empty
  within : WithinCaps db.row

section Schedules

variable {ι : Type} [DecidableEq ι] (requests : ι → SlotRequest) (table : RateTable)
  (evs : List (Event (ι × ℕ)))

/-- All attempts of all requests before their first statement. -/
def slotSystem : System (ι × ℕ) RateKey (fun _ => ℕ) Empty Bool :=
  System.start table.db fun p => (requests p.1).txn p.2

/-- What a request is told of one of its attempts. -/
def attemptOutcome (s : System (ι × ℕ) RateKey (fun _ => ℕ) Empty Bool) (i : ι)
    (n : ℕ) : Except String Bool :=
  match s.phase (i, n) with
  | .committed reserved => .ok reserved
  | .aborted message => .error message
  | .running _ => .error "not finished"

/-- The request was granted a slot, and in the row `k`. -/
def GrantedIn (isSerializationFailure : String → Bool)
    (s : System (ι × ℕ) RateKey (fun _ => ℕ) Empty Bool) (k : RateKey) (i : ι) : Prop :=
  withSerializableRetry isSerializationFailure (attemptOutcome s i) = .ok true ∧
    ∀ n, s.phase (i, n) = .committed true → (requests i).key n = k

/-- One for a commit that grants a slot of the row `k`. -/
def slotWeight (k : RateKey) (commit : (ι × ℕ) × Bool) : ℕ :=
  if commit.2 ∧ (requests commit.1.1).key commit.1.2 = k then 1 else 0

theorem slotSystem_performing :
    (slotSystem requests table).Performing WithinCaps
      fun p => SlotEffect ((requests p.1).key p.2) :=
  System.start_performing table.within fun p => performs_txn (requests p.1) p.2 _

/-- The count of every row is what it was and the slots of it that were granted. -/
theorem countOf_run (k : RateKey) :
    countOf (((slotSystem requests table).run evs).db.row k) =
      countOf (table.db.row k) +
        (((slotSystem requests table).commitsOf evs).map (slotWeight requests k)).sum := by
  have heffects := ((slotSystem_performing requests table).run_effects evs).2
  refine heffects.measure (m := fun c => countOf (c k)) ?_
  intro p reserved c c' heffect
  cases reserved with
  | false =>
      obtain rfl : c' = c := heffect
      simp [slotWeight]
  | true =>
      obtain ⟨-, rfl⟩ := heffect
      by_cases hk : (requests p.1).key p.2 = k
      · subst hk
        simp [slotWeight, countOf]
      · simp [slotWeight, hk, Function.update_of_ne (Ne.symm hk)]

/-- Whatever the schedule of the statements, and whatever is aborted and retried: of the
requests that count in one row no more are granted than the cap of its scope leaves. -/
theorem granted_le_cap (isSerializationFailure : String → Bool) (k : RateKey) (T : Finset ι)
    (hT : ∀ i ∈ T, GrantedIn requests isSerializationFailure
      ((slotSystem requests table).run evs) k i) :
    countOf (table.db.row k) + T.card ≤ k.scope.cap := by
  -- The attempt of each request that was committed.
  have hattempt : ∀ i : T, ∃ n, (requests i).key n = k ∧
      ((slotSystem requests table).run evs).phase (i.1, n) = .committed true := by
    rintro ⟨i, hi⟩
    obtain ⟨hserved, hrow⟩ := hT i hi
    obtain ⟨n, hn⟩ := exists_outcome_of_retryFrom hserved
    have hcommitted : ((slotSystem requests table).run evs).phase (i, n) =
        .committed true := by
      rw [attemptOutcome] at hn
      split at hn
      · rename_i reserved hphase
        rw [hphase, Except.ok.inj hn]
      · cases hn
      · cases hn
    exact ⟨n, hrow n hcommitted, hcommitted⟩
  choose attempt hkey hcommitted using hattempt
  have hcard : (T.attach.image fun i => (i.1, attempt i)).card = T.card := by
    rw [Finset.card_image_of_injective, Finset.card_attach]
    intro i j hij
    exact Subtype.ext (Prod.mk.inj hij).1
  have hstart : ∀ p ∈ T.attach.image fun i => (i.1, attempt i),
      (slotSystem requests table).phase p ≠ .committed true := by
    intro p _ hp
    cases hp
  have hend : ∀ p ∈ T.attach.image fun i => (i.1, attempt i),
      ((slotSystem requests table).run evs).phase p = .committed true := by
    intro p hp
    obtain ⟨i, -, rfl⟩ := Finset.mem_image.mp hp
    exact hcommitted i
  have hweight : ∀ p ∈ T.attach.image fun i => (i.1, attempt i),
      1 ≤ slotWeight requests k (p, true) := by
    intro p hp
    obtain ⟨i, -, rfl⟩ := Finset.mem_image.mp hp
    simp [slotWeight, hkey i]
  have hgranted := System.card_le_sum_commits hstart hend hweight
  have hcount := countOf_run requests table evs k
  obtain ⟨hwithin, -⟩ := (slotSystem_performing requests table).run_effects evs
  have hcap : countOf (((slotSystem requests table).run evs).db.row k) ≤ k.scope.cap := by
    cases hrow : ((slotSystem requests table).run evs).db.row k with
    | none => exact Nat.zero_le _
    | some count => exact hwithin k count hrow
  omega

end Schedules

/-- A table without rows. -/
def emptyTable : RateTable := ⟨Db.empty, by simp [WithinCaps, Db.empty]⟩

/-- One draft request in the first hour. -/
def oneDraft : Unit → SlotRequest := fun _ => .registryDraft "203.0.113.9" fun _ => 0

/-- It is granted after the three statements of its first attempt. -/
theorem one_draft_granted :
    countOf (emptyTable.db.row ⟨.registryDraftIp, 0, "203.0.113.9"⟩) +
      ({()} : Finset Unit).card ≤ RateScope.registryDraftIp.cap :=
  granted_le_cap oneDraft emptyTable (List.replicate 3 (.step ((), 0))) (fun _ => false)
    ⟨.registryDraftIp, 0, "203.0.113.9"⟩ {()} fun _ _ => ⟨rfl, fun _ _ => rfl⟩

end AgentSkeptic.Hosted.RateLimit
