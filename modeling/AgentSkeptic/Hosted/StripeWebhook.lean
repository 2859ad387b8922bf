import AgentSkeptic.Hosted.UsageQuota
import AgentSkeptic.Support.KeyedTable

/-!
# Stripe webhooks

`POST /api/webhooks/stripe` with `lib/applyStripeWebhookDbSide.ts`: an event is
claimed by its id and applied to the `user` table in one transaction.  A
checkout writes the row of the user it names; an updated subscription writes the
rows of its customer that carry it, or carry none; a deleted subscription makes
the rows inactive and clears their subscription, but keeps their customer.

No handler compares the time of two events.  `brings_iff` says which events give
a user the active status or a paid plan, wherever in a
run they are delivered; after a deletion, it is the late ones that carry it
(`cancelled_unless_late`).
-/

namespace AgentSkeptic.Hosted.Stripe

open AgentSkeptic.Support

/-! ## Prices -/

/-- `process.env`. -/
abbrev Env := String → Option String

/-- `/[\s,]/`. -/
def isPriceSeparator (c : Char) : Bool := isJsWhitespace c || c == ','

def stripePriceEnvCandidates (raw : Option String) : List String :=
  let s := jsTrim (raw.getD "")
  if s = "" then []
  else
    ((s.toList.splitOnP isPriceSeparator).map String.ofList).filter (· ≠ "")

/-- The keys of `config/commercial-plans.json`, in its order. -/
def planIds : List PlanId := [.starter, .individual, .team, .business, .enterprise]

/-- `stripePriceEnvKeyMonthly` and `stripePriceEnvKeyYearly`, where not `null`. -/
def eachBasePriceEnvName : PlanId → List String
  | .individual => ["STRIPE_PRICE_INDIVIDUAL", "STRIPE_PRICE_INDIVIDUAL_YEARLY"]
  | .team => ["STRIPE_PRICE_TEAM", "STRIPE_PRICE_TEAM_YEARLY"]
  | .business => ["STRIPE_PRICE_BUSINESS", "STRIPE_PRICE_BUSINESS_YEARLY"]
  | .starter | .enterprise => []

/-- `stripeOveragePriceEnvKey`, where not `null`. -/
def overagePriceEnvName : PlanId → List String
  | .individual => ["STRIPE_OVERAGE_INDIVIDUAL"]
  | .team => ["STRIPE_OVERAGE_TEAM"]
  | .business => ["STRIPE_OVERAGE_BUSINESS"]
  | .starter | .enterprise => []

/-- The first plan one of whose variables lists the price. -/
def planOfPrice (env : Env) (envNames : PlanId → List String)
    (priceId : Option String) : Option PlanId :=
  let normalized := jsTrim (priceId.getD "")
  if normalized = "" then none
  else
    planIds.find? fun planId => (envNames planId).any fun envName =>
      (stripePriceEnvCandidates (env envName)).contains normalized

def priceIdToPlanId (env : Env) (priceId : Option String) : Option PlanId :=
  planOfPrice env eachBasePriceEnvName priceId

def overagePriceIdToPlanId (env : Env) (priceId : Option String) : Option PlanId :=
  planOfPrice env overagePriceEnvName priceId

/-- Base prices are those of the paid plans. -/
theorem priceIdToPlanId_paid {env : Env} {priceId : Option String} {planId : PlanId}
    (h : priceIdToPlanId env priceId = some planId) :
    planId ∈ paidEnforcementPlanIds := by
  simp only [priceIdToPlanId, planOfPrice] at h
  split_ifs at h
  have hnames := List.find?_some h
  cases planId with
  | starter => simp [eachBasePriceEnvName] at hnames
  | enterprise => simp [eachBasePriceEnvName] at hnames
  | individual => simp [paidEnforcementPlanIds]
  | team => simp [paidEnforcementPlanIds]
  | business => simp [paidEnforcementPlanIds]

/-! ## Subscriptions -/

/-- `price` of a subscription item: absent or `null`, an id, or an object. -/
inductive PriceRef where
  | missing
  | text (id : String)
  | object (id : Option String) (usageType : Option String)
  deriving DecidableEq, Repr

/-- `customer`: an id or an expanded object. -/
inductive CustomerRef where
  | text (id : String)
  | object (id : String)
  deriving DecidableEq, Repr

/-- What the handlers read of a `Stripe.Subscription`; `items` are the prices of
`items.data`, which may be missing. -/
structure Subscription where
  id : String
  customer : CustomerRef
  status : String
  items : List PriceRef
  deriving DecidableEq, Repr

def customerIdOf (sub : Subscription) : String :=
  match sub.customer with
  | .text id => id
  | .object id => id

/-- `priceIdAt`. -/
def PriceRef.id? : PriceRef → Option String
  | .missing => none
  | .text id => some id
  | .object id _ => id

/-- A non-empty string. -/
def truthy (s : Option String) : Option String := s.filter (· ≠ "")

def isOverageOrMeteredPriceId (env : Env) (price : PriceRef) : Bool :=
  if ((truthy price.id?).bind fun id => overagePriceIdToPlanId env (some id)).isSome then
    true
  else
    match price with
    | .object _ usageType => usageType = some "metered"
    | _ => false

/-- The first mapped base price, else the first base price, else the first. -/
def flatPriceIdFromSubscription (env : Env) (sub : Subscription) : Option String :=
  let flat := (sub.items.filter fun price => !isOverageOrMeteredPriceId env price).filterMap
    fun price => truthy price.id?
  match flat.find? fun id => (priceIdToPlanId env (some id)).isSome with
  | some id => some id
  | none =>
      match flat.head? with
      | some id => some id
      | none => sub.items.head?.bind PriceRef.id?

def subscriptionStatusFromStripe (status : String) : String :=
  if status = "active" ∨ status = "trialing" then "active" else "inactive"

/-! ## The database -/

def planText : PlanId → String
  | .starter => "starter"
  | .individual => "individual"
  | .team => "team"
  | .business => "business"
  | .enterprise => "enterprise"

/-- The billing columns of `user`. -/
structure BillingColumns where
  plan : String
  subscriptionStatus : String
  stripeCustomerId : Option String
  stripeSubscriptionId : Option String
  stripePriceId : Option String
  deriving DecidableEq, Repr

/-- A row of `user`. -/
structure BillingUser where
  id : String
  billing : BillingColumns
  deriving DecidableEq, Repr

abbrev UserTable := KeyedTable String BillingUser BillingUser.id

/-- A row of the funnel log, written with the checkout it reports. -/
structure CheckoutLogged where
  userId : String
  plan : String
  stripeEventId : String
  deriving DecidableEq, Repr

/-- The tables that the webhook reads and writes. -/
structure BillingDb where
  users : UserTable
  /-- The ids in `stripe_event`. -/
  stripeEvents : List String
  funnelEvents : List CheckoutLogged

/-- `SET` of the billing columns. -/
def BillingUser.set (user : BillingUser) (billing : BillingColumns) : BillingUser :=
  { user with billing }

theorem BillingUser.set_id (user : BillingUser) (billing : BillingColumns) :
    (user.set billing).id = user.id := rfl

def subscriptionPatchFromStripe (env : Env) (sub : Subscription)
    (priorPlan : String) : BillingColumns :=
  let priceId := flatPriceIdFromSubscription env sub
  { plan := ((priceIdToPlanId env priceId).map planText).getD priorPlan
    subscriptionStatus := subscriptionStatusFromStripe sub.status
    stripeCustomerId := some (customerIdOf sub)
    stripeSubscriptionId := some sub.id
    stripePriceId := priceId }

/-! ## Events -/

inductive StripeEventObject where
  /-- `metadata.userId` and the id of `session.subscription`. -/
  | checkoutSessionCompleted (userId subscription : Option String)
  | subscriptionUpdated (sub : Subscription)
  | subscriptionDeleted (sub : Subscription)
  | other
  deriving DecidableEq, Repr

structure StripeEvent where
  id : String
  object : StripeEventObject
  deriving DecidableEq, Repr

def ofCustomer (sub : Subscription) (user : BillingUser) : Bool :=
  user.billing.stripeCustomerId == some (customerIdOf sub)

def ofSubscription (sub : Subscription) (user : BillingUser) : Bool :=
  user.billing.stripeSubscriptionId == some sub.id

/-- The rows with the predicate, or where there are none, those of the customer. -/
def narrowed (users : UserTable) (sub : Subscription) (p : BillingUser → Bool)
    (user : BillingUser) : Bool :=
  ofCustomer sub user &&
    (p user || !users.rows.any fun other => ofCustomer sub other && p other)

/-- The rows that an updated subscription writes. -/
def updatedTarget (users : UserTable) (sub : Subscription) : BillingUser → Bool :=
  narrowed users sub fun user =>
    ofSubscription sub user || user.billing.stripeSubscriptionId.isNone

/-- The rows that a deleted subscription writes. -/
def deletedTarget (users : UserTable) (sub : Subscription) : BillingUser → Bool :=
  narrowed users sub (ofSubscription sub)

/-- The columns that a deleted subscription sets. -/
def cancelled (user : BillingUser) : BillingUser :=
  user.set
    { user.billing with
      subscriptionStatus := "inactive"
      plan := "starter"
      stripeSubscriptionId := none
      stripePriceId := none }

theorem cancelled_id (user : BillingUser) : (cancelled user).id = user.id := rfl

def applyCheckout (env : Env) (db : BillingDb) (eventId : String)
    (userId subId : Option String) (checkoutSubscription : Option Subscription) :
    BillingDb :=
  match truthy userId, truthy subId, checkoutSubscription with
  | some userId, some _, some sub =>
      match db.users.find? userId with
      | none => db
      | some existing =>
          let patch := subscriptionPatchFromStripe env sub existing.billing.plan
          { db with
            users := db.users.updateWhere (fun user => user.id = userId)
              (fun user => user.set patch) fun user => user.set_id patch
            funnelEvents := db.funnelEvents ++ [⟨userId, patch.plan, eventId⟩] }
  | _, _, _ => db

def applyStripeWebhookDbSide (env : Env) (db : BillingDb) (event : StripeEvent)
    (checkoutSubscription : Option Subscription) : BillingDb :=
  match event.object with
  | .checkoutSessionCompleted userId subId =>
      applyCheckout env db event.id userId subId checkoutSubscription
  | .subscriptionUpdated sub =>
      { db with
        users := db.users.updateEach
          (db.users.selectWhere (updatedTarget db.users sub)).rows
          (fun row user =>
            user.set (subscriptionPatchFromStripe env sub row.billing.plan))
          fun _ user => user.set_id _ }
  | .subscriptionDeleted sub =>
      { db with
        users := db.users.updateWhere (deletedTarget db.users sub) cancelled
          cancelled_id }
  | .other => db

/-! ## Deliveries -/

/-- One request to the webhook. -/
structure Delivery where
  /-- The event, or `none` where the secret or the signature is wrong. -/
  signed : Option StripeEvent
  /-- What `subscriptions.retrieve` answers for a completed checkout. -/
  retrieved : Option Subscription
  /-- A statement of the transaction throws. -/
  handlerThrows : Bool

inductive WebhookAnswer where
  | badRequest | handlerError | received | duplicate
  deriving DecidableEq, Repr

/-- `POST`: the event id is claimed in the transaction that applies the event. -/
def post (env : Env) (db : BillingDb) (d : Delivery) : BillingDb × WebhookAnswer :=
  match d.signed with
  | none => (db, .badRequest)
  | some event =>
      if d.handlerThrows then (db, .handlerError)
      else if db.stripeEvents.contains event.id then (db, .duplicate)
      else
        (applyStripeWebhookDbSide env
          { db with stripeEvents := event.id :: db.stripeEvents } event d.retrieved,
          .received)

/-! ## What one delivery writes -/

/-- The subscription that an event is about. -/
def StripeEvent.subject (event : StripeEvent) : Option String :=
  match event.object with
  | .checkoutSessionCompleted _ subId => truthy subId
  | .subscriptionUpdated sub => some sub.id
  | .subscriptionDeleted sub => some sub.id
  | .other => none

/-- The event that a delivery commits, if it was not committed before. -/
def processed (db : BillingDb) (d : Delivery) : Option StripeEvent :=
  d.signed.filter fun event =>
    !d.handlerThrows && !db.stripeEvents.contains event.id

/-- The subscription that an event patches into the row of a user. -/
def patchedBy (users : UserTable) (d : Delivery) (event : StripeEvent)
    (user : BillingUser) : Option Subscription :=
  match event.object with
  | .checkoutSessionCompleted userId subId =>
      if truthy userId = some user.id ∧ (truthy subId).isSome then d.retrieved
      else none
  | .subscriptionUpdated sub => if updatedTarget users sub user then some sub else none
  | .subscriptionDeleted _ => none
  | .other => none

/-- The row of a user after an event. -/
def rowAfter (env : Env) (users : UserTable) (d : Delivery) (event : StripeEvent)
    (user : BillingUser) : BillingUser :=
  match event.object with
  | .subscriptionDeleted sub =>
      if deletedTarget users sub user then cancelled user else user
  | _ =>
      match patchedBy users d event user with
      | some sub => user.set (subscriptionPatchFromStripe env sub user.billing.plan)
      | none => user

theorem rowAfter_of_patchedBy {env : Env} {users : UserTable} {d : Delivery}
    {event : StripeEvent} {user : BillingUser} {sub : Subscription}
    (h : patchedBy users d event user = some sub) :
    rowAfter env users d event user =
      user.set (subscriptionPatchFromStripe env sub user.billing.plan) := by
  cases hobject : event.object with
  | subscriptionDeleted _ => simp [patchedBy, hobject] at h
  | checkoutSessionCompleted _ _ => simp only [rowAfter, hobject, h]
  | subscriptionUpdated _ => simp only [rowAfter, hobject, h]
  | other => simp only [rowAfter, hobject, h]

theorem rowAfter_of_not_patchedBy {env : Env} {users : UserTable} {d : Delivery}
    {event : StripeEvent} {user : BillingUser}
    (h : patchedBy users d event user = none) :
    rowAfter env users d event user = user ∨
      rowAfter env users d event user = cancelled user := by
  cases hobject : event.object with
  | subscriptionDeleted sub =>
      simp only [rowAfter, hobject]
      split_ifs
      · exact Or.inr rfl
      · exact Or.inl rfl
  | checkoutSessionCompleted _ _ => exact Or.inl (by simp only [rowAfter, hobject, h])
  | subscriptionUpdated _ => exact Or.inl (by simp only [rowAfter, hobject, h])
  | other => exact Or.inl (by simp only [rowAfter, hobject, h])

theorem applyCheckout_find? (env : Env) (db : BillingDb) (eventId : String)
    (userId subId : Option String) (retrieved : Option Subscription) (u : String) :
    (applyCheckout env db eventId userId subId retrieved).users.find? u =
      (db.users.find? u).map fun user =>
        match (if truthy userId = some user.id ∧ (truthy subId).isSome then
          retrieved else none) with
        | some sub => user.set (subscriptionPatchFromStripe env sub user.billing.plan)
        | none => user := by
  cases hfound : db.users.find? u with
  | none =>
      simp only [applyCheckout]
      split
      · split
        · simp [hfound]
        · simp [KeyedTable.find?_updateWhere, hfound]
      · simp [hfound]
  | some user =>
      have hid : user.id = u := KeyedTable.find?_key hfound
      simp only [applyCheckout, Option.map_some]
      split
      · rename_i userId' subId' sub huser hsub
        by_cases hu : userId' = u
        · have hexisting : db.users.find? userId' = some user := by rw [hu, hfound]
          simp [huser, hsub, hu, hid, KeyedTable.find?_updateWhere, hfound]
        · cases db.users.find? userId' with
          | none => simp [huser, hid, hu, hfound]
          | some existing =>
              have hu' : ¬u = userId' := fun heq => hu heq.symm
              simp [huser, hid, hu, hu', hfound, KeyedTable.find?_updateWhere]
      · rename_i retrieved _ _ _ hnone
        by_cases hc : truthy userId = some user.id ∧ (truthy subId).isSome
        · obtain ⟨subId', hsub⟩ := Option.isSome_iff_exists.mp hc.2
          cases retrieved with
          | none => simp [hfound]
          | some sub => exact (hnone _ _ _ hc.1 hsub rfl).elim
        · simp [hc, hfound]

theorem apply_find? (env : Env) (db : BillingDb) (d : Delivery)
    (event : StripeEvent) (u : String) :
    (applyStripeWebhookDbSide env db event d.retrieved).users.find? u =
      (db.users.find? u).map (rowAfter env db.users d event) := by
  cases hobject : event.object with
  | checkoutSessionCompleted userId subId =>
      have hmap : rowAfter env db.users d event = fun user =>
          match (if truthy userId = some user.id ∧ (truthy subId).isSome then
            d.retrieved else none) with
          | some sub =>
              user.set (subscriptionPatchFromStripe env sub user.billing.plan)
          | none => user := by
        funext user
        simp only [rowAfter, patchedBy, hobject]
      simp only [applyStripeWebhookDbSide, hobject, applyCheckout_find?, hmap]
  | subscriptionUpdated sub =>
      have hmap : rowAfter env db.users d event = fun user =>
          if updatedTarget db.users sub user then
            user.set (subscriptionPatchFromStripe env sub user.billing.plan)
          else user := by
        funext user
        simp only [rowAfter, patchedBy, hobject]
        split_ifs <;> rfl
      simp only [applyStripeWebhookDbSide, hobject,
        KeyedTable.find?_updateEach_selectWhere, hmap]
  | subscriptionDeleted sub =>
      have hmap : rowAfter env db.users d event = fun user =>
          if deletedTarget db.users sub user then cancelled user else user := by
        funext user
        simp only [rowAfter, hobject]
      simp only [applyStripeWebhookDbSide, hobject, KeyedTable.find?_updateWhere,
        hmap]
  | other =>
      have hmap : rowAfter env db.users d event = id := by
        funext user
        simp only [rowAfter, patchedBy, hobject, id]
      simp only [applyStripeWebhookDbSide, hobject, hmap, Option.map_id, id]

theorem post_of_processed {env : Env} {db : BillingDb} {d : Delivery}
    {event : StripeEvent} (h : processed db d = some event) :
    post env db d =
      (applyStripeWebhookDbSide env
        { db with stripeEvents := event.id :: db.stripeEvents } event d.retrieved,
        .received) := by
  obtain ⟨hsigned, hfresh⟩ := Option.filter_eq_some_iff.mp h
  simp only [Bool.and_eq_true, Bool.not_eq_true'] at hfresh
  simp only [post, hsigned, hfresh.1, hfresh.2]
  rfl

/-- Every other delivery leaves the tables as they were. -/
theorem post_of_not_processed {env : Env} {db : BillingDb} {d : Delivery}
    (h : processed db d = none) : (post env db d).1 = db := by
  cases hsigned : d.signed with
  | none => simp [post, hsigned]
  | some event =>
      cases hthrows : d.handlerThrows with
      | true => simp [post, hsigned, hthrows]
      | false =>
          have hseen : db.stripeEvents.contains event.id = true := by
            simpa [processed, hsigned, hthrows, Option.filter] using h
          simp only [post, hsigned, hthrows, hseen]
          rfl

theorem post_stripeEvents (env : Env) (db : BillingDb) (d : Delivery)
    {id : String} (h : id ∈ db.stripeEvents) :
    id ∈ (post env db d).1.stripeEvents := by
  cases hprocessed : processed db d with
  | none => rwa [post_of_not_processed hprocessed]
  | some event =>
      have hkept (db' : BillingDb) :
          (applyStripeWebhookDbSide env db' event d.retrieved).stripeEvents =
            db'.stripeEvents := by
        simp only [applyStripeWebhookDbSide]
        split
        · simp only [applyCheckout]
          split
          · split <;> rfl
          · rfl
        all_goals rfl
      rw [post_of_processed hprocessed, hkept]
      exact List.mem_cons_of_mem _ h

/-! ## Which events restore an account -/

def isActive (user : BillingUser) : Prop :=
  user.billing.subscriptionStatus = "active"

def isPaid (user : BillingUser) : Prop :=
  user.billing.plan ∈ paidEnforcementPlanIds.map planText

abbrev WebhookTurn := Turn BillingDb Delivery WebhookAnswer

/-- The turn takes the row of user `u` from outside `P` into `P`. -/
def Brings (P : BillingUser → Prop) (t : WebhookTurn) (u : String) : Prop :=
  ∃ before after, t.before.users.find? u = some before ∧
    t.after.users.find? u = some after ∧ ¬P before ∧ P after

/-- The delivery commits an event that patches `sub` into the row `user` of `u`. -/
def Patches (db : BillingDb) (d : Delivery) (u : String) (user : BillingUser)
    (sub : Subscription) : Prop :=
  db.users.find? u = some user ∧
    ∃ event, processed db d = some event ∧
      patchedBy db.users d event user = some sub

def carriesActive (sub : Subscription) : Prop :=
  sub.status = "active" ∨ sub.status = "trialing"

/-- Its base price is a price of a paid plan. -/
def carriesPaidPlan (env : Env) (sub : Subscription) : Prop :=
  (priceIdToPlanId env (flatPriceIdFromSubscription env sub)).isSome

theorem not_isActive_cancelled (user : BillingUser) : ¬isActive (cancelled user) := by
  simp [isActive, cancelled, BillingUser.set]

theorem not_isPaid_cancelled (user : BillingUser) : ¬isPaid (cancelled user) := by
  have hstarter : "starter" ∉ paidEnforcementPlanIds.map planText := by decide
  exact hstarter

theorem isActive_patch (env : Env) (sub : Subscription) (user : BillingUser)
    (priorPlan : String) :
    isActive (user.set (subscriptionPatchFromStripe env sub priorPlan)) ↔
      carriesActive sub := by
  simp only [isActive, BillingUser.set, subscriptionPatchFromStripe,
    subscriptionStatusFromStripe, carriesActive]
  split_ifs with h
  · simp [h]
  · simp [h]

theorem isPaid_patch (env : Env) (sub : Subscription) (user : BillingUser) :
    isPaid (user.set (subscriptionPatchFromStripe env sub user.billing.plan)) ↔
      carriesPaidPlan env sub ∨ isPaid user := by
  simp only [isPaid, BillingUser.set, subscriptionPatchFromStripe, carriesPaidPlan]
  cases hplan : priceIdToPlanId env (flatPriceIdFromSubscription env sub) with
  | none => simp
  | some planId =>
      have hpaid : planText planId ∈ paidEnforcementPlanIds.map planText :=
        List.mem_map_of_mem (priceIdToPlanId_paid hplan)
      simpa using hpaid

/-- A property that a deletion clears and a patch gives exactly where the
subscription carries `Q`, unless the row has it already. -/
theorem brings_iff {P : BillingUser → Prop} {Q : Subscription → Prop} {env : Env}
    (hcancelled : ∀ user, ¬P (cancelled user))
    (hpatch : ∀ sub user, ¬P user →
      (P (user.set (subscriptionPatchFromStripe env sub user.billing.plan)) ↔ Q sub))
    (db : BillingDb) (d : Delivery) (u : String) :
    Brings P (turnOf (post env) db d) u ↔
      ∃ user sub, Patches db d u user sub ∧ ¬P user ∧ Q sub := by
  constructor
  · rintro ⟨before, after, hbefore, hafter, hnot, hgained⟩
    simp only [turnOf_before, turnOf_after] at hbefore hafter
    cases hprocessed : processed db d with
    | none =>
        rw [post_of_not_processed hprocessed, hbefore] at hafter
        exact (hnot (Option.some.inj hafter ▸ hgained)).elim
    | some event =>
        rw [post_of_processed hprocessed, apply_find?] at hafter
        simp only [hbefore, Option.map_some, Option.some.injEq] at hafter
        cases hpatched : patchedBy db.users d event before with
        | none =>
            rcases rowAfter_of_not_patchedBy hpatched with hkept | hlost
            · rw [hkept] at hafter
              exact (hnot (hafter ▸ hgained)).elim
            · rw [hlost] at hafter
              exact (hcancelled before (hafter ▸ hgained)).elim
        | some sub =>
            rw [rowAfter_of_patchedBy hpatched] at hafter
            exact ⟨before, sub, ⟨hbefore, event, hprocessed, hpatched⟩, hnot,
              (hpatch sub before hnot).mp (hafter ▸ hgained)⟩
  · rintro ⟨user, sub, ⟨huser, event, hprocessed, hpatched⟩, hnot, hcarries⟩
    refine ⟨user, user.set (subscriptionPatchFromStripe env sub user.billing.plan),
      huser, ?_, hnot, (hpatch sub user hnot).mpr hcarries⟩
    rw [turnOf_after, post_of_processed hprocessed, apply_find?]
    simp only [huser, Option.map_some, rowAfter_of_patchedBy hpatched]

theorem brings_isActive_iff (env : Env) (db : BillingDb) (d : Delivery) (u : String) :
    Brings isActive (turnOf (post env) db d) u ↔
      ∃ user sub, Patches db d u user sub ∧ ¬isActive user ∧ carriesActive sub :=
  brings_iff not_isActive_cancelled
    (fun sub user _ => isActive_patch env sub user user.billing.plan) db d u

theorem brings_isPaid_iff (env : Env) (db : BillingDb) (d : Delivery) (u : String) :
    Brings isPaid (turnOf (post env) db d) u ↔
      ∃ user sub, Patches db d u user sub ∧ ¬isPaid user ∧ carriesPaidPlan env sub := by
  apply brings_iff not_isPaid_cancelled
  intro sub user hnot
  rw [isPaid_patch]
  exact or_iff_left hnot

/-! ## Runs after a cancellation -/

/-- The delivery commits the deletion of subscription `S`, which cancels the row
of user `u`. -/
def Cancels (db : BillingDb) (d : Delivery) (S u : String) : Prop :=
  ∃ event sub user, processed db d = some event ∧
    event.object = .subscriptionDeleted sub ∧ sub.id = S ∧
    db.users.find? u = some user ∧ deletedTarget db.users sub user = true

/-- The event was not committed before the state `deleted`. -/
def Late (deleted : BillingDb) (d : Delivery) : Prop :=
  ∃ event, d.signed = some event ∧ event.id ∉ deleted.stripeEvents

/-- The row of user `u` is neither active nor on a paid plan. -/
def Dormant (u : String) (db : BillingDb) : Prop :=
  ∀ user, db.users.find? u = some user → ¬isActive user ∧ ¬isPaid user

theorem dormant_of_cancels {env : Env} {db : BillingDb} {d : Delivery} {S u : String}
    (h : Cancels db d S u) : Dormant u (post env db d).1 := by
  obtain ⟨event, sub, user, hprocessed, hobject, -, huser, htarget⟩ := h
  intro after hafter
  rw [post_of_processed hprocessed, apply_find?] at hafter
  simp only [huser, Option.map_some, rowAfter, hobject, htarget, if_true,
    Option.some.injEq] at hafter
  rw [← hafter]
  exact ⟨not_isActive_cancelled user, not_isPaid_cancelled user⟩

/-- A turn keeps a row dormant unless it brings it back. -/
theorem dormant_step {env : Env} {db : BillingDb} {d : Delivery} {u : String}
    (hdormant : Dormant u db)
    (hactive : ¬Brings isActive (turnOf (post env) db d) u)
    (hpaid : ¬Brings isPaid (turnOf (post env) db d) u) :
    Dormant u (post env db d).1 := by
  intro after hafter
  have hbefore : ∃ before, db.users.find? u = some before := by
    cases hprocessed : processed db d with
    | none => exact ⟨after, by rwa [post_of_not_processed hprocessed] at hafter⟩
    | some event =>
        rw [post_of_processed hprocessed, apply_find?] at hafter
        obtain ⟨before, hbefore, -⟩ := Option.map_eq_some_iff.mp hafter
        exact ⟨before, hbefore⟩
  obtain ⟨before, hbefore⟩ := hbefore
  obtain ⟨hinactive, hunpaid⟩ := hdormant before hbefore
  exact ⟨fun h => hactive ⟨before, after, hbefore, hafter, hinactive, h⟩,
    fun h => hpaid ⟨before, after, hbefore, hafter, hunpaid, h⟩⟩

theorem late_of_patches {env : Env} {deleted : BillingDb} {rest : List Delivery}
    {t : WebhookTurn} (ht : t ∈ turns (post env) deleted rest) {u : String}
    {user : BillingUser} {sub : Subscription}
    (h : Patches t.before t.request u user sub) : Late deleted t.request := by
  obtain ⟨-, event, hprocessed, -⟩ := h
  obtain ⟨hsigned, hfresh⟩ := Option.filter_eq_some_iff.mp hprocessed
  refine ⟨event, hsigned, fun hseen => ?_⟩
  have hstill : event.id ∈ t.before.stripeEvents :=
    (turns_before (fun db d => post_stripeEvents env db d) hseen ht).1
  have hnew : t.request.handlerThrows = false ∧ event.id ∉ t.before.stripeEvents := by
    simpa using hfresh
  exact hnew.2 hstill

/-- After the deletion of a subscription has cancelled the row of user `u`, a
delivery gives the row the active status, or a paid plan, exactly where its event
is late, patches the row and carries it; otherwise the row stays cancelled to the
end of the run. -/
theorem cancelled_unless_late (env : Env) (db : BillingDb)
    (pre rest : List Delivery) (del : Delivery) (S u : String)
    (hdel : Cancels (finish (post env) db pre) del S u) :
    (∀ t ∈ turns (post env) (finish (post env) db (pre ++ [del])) rest,
      (Brings isActive t u ↔
        Late (finish (post env) db (pre ++ [del])) t.request ∧
          ∃ user sub, Patches t.before t.request u user sub ∧ ¬isActive user ∧
            carriesActive sub) ∧
      (Brings isPaid t u ↔
        Late (finish (post env) db (pre ++ [del])) t.request ∧
          ∃ user sub, Patches t.before t.request u user sub ∧ ¬isPaid user ∧
            carriesPaidPlan env sub)) ∧
    ((∀ t ∈ turns (post env) (finish (post env) db (pre ++ [del])) rest,
        ∀ user sub, Patches t.before t.request u user sub →
          ¬carriesActive sub ∧ ¬carriesPaidPlan env sub) →
      Dormant u (finish (post env) db (pre ++ del :: rest))) := by
  have hdeleted : finish (post env) db (pre ++ [del]) =
      (post env (finish (post env) db pre) del).1 := by
    rw [finish_append, finish_cons, finish_nil]
  constructor
  · intro t ht
    have hturn : t = turnOf (post env) t.before t.request :=
      (@turns_before _ _ _ _ (fun _ => True) (fun _ _ _ => trivial) _ trivial _ _ ht).2
    have hactive := brings_isActive_iff env t.before t.request u
    have hpaid := brings_isPaid_iff env t.before t.request u
    rw [← hturn] at hactive hpaid
    rw [hactive, hpaid]
    constructor
    · constructor
      · rintro ⟨user, sub, hpatches, hrest⟩
        exact ⟨late_of_patches ht hpatches, user, sub, hpatches, hrest⟩
      · rintro ⟨-, hrest⟩
        exact hrest
    · constructor
      · rintro ⟨user, sub, hpatches, hrest⟩
        exact ⟨late_of_patches ht hpatches, user, sub, hpatches, hrest⟩
      · rintro ⟨-, hrest⟩
        exact hrest
  · intro hrest
    rw [finish_append, finish_cons]
    rw [hdeleted] at hrest
    apply finish_of_turns (Dormant u)
      (fun t => ∀ user sub, Patches t.before t.request u user sub →
        ¬carriesActive sub ∧ ¬carriesPaidPlan env sub) ?_ (dormant_of_cancels hdel) hrest
    intro db' d hdormant hharmless
    apply dormant_step hdormant
    · rw [brings_isActive_iff]
      rintro ⟨user, sub, hpatches, -, hcarries⟩
      exact (hharmless user sub hpatches).1 hcarries
    · rw [brings_isPaid_iff]
      rintro ⟨user, sub, hpatches, -, hcarries⟩
      exact (hharmless user sub hpatches).2 hcarries

/-- The events about a subscription are those that name it. -/
def About (S : String) (d : Delivery) : Prop :=
  d.signed.bind StripeEvent.subject = some S

/-- Only the team plan has a price. -/
def teamEnv : Env := fun name =>
  if name = "STRIPE_PRICE_TEAM" then some "price_team" else none

def teamSubscription (status : String) : Subscription :=
  ⟨"sub_1", .text "cus_1", status, [.object (some "price_team") (some "licensed")]⟩

/-- One user with an active team subscription. -/
def subscribed : BillingDb where
  users := ⟨[⟨"u1", "team", "active", some "cus_1", some "sub_1", some "price_team"⟩],
    by decide⟩
  stripeEvents := []
  funnelEvents := []

def deletion : Delivery :=
  ⟨some ⟨"evt_2", .subscriptionDeleted (teamSubscription "canceled")⟩, none, false⟩

/-- The event of an earlier renewal. -/
def renewal : Delivery :=
  ⟨some ⟨"evt_1", .subscriptionUpdated (teamSubscription "active")⟩, none, false⟩

theorem cancels_deletion : Cancels subscribed deletion "sub_1" "u1" :=
  ⟨_, _, _, rfl, rfl, rfl, rfl, by decide +kernel⟩

theorem cancelled_unless_late_renewal :
    (∀ t ∈ turns (post teamEnv) (finish (post teamEnv) subscribed ([] ++ [deletion]))
        [renewal],
      (Brings isActive t "u1" ↔
        Late (finish (post teamEnv) subscribed ([] ++ [deletion])) t.request ∧
          ∃ user sub, Patches t.before t.request "u1" user sub ∧ ¬isActive user ∧
            carriesActive sub) ∧
      (Brings isPaid t "u1" ↔
        Late (finish (post teamEnv) subscribed ([] ++ [deletion])) t.request ∧
          ∃ user sub, Patches t.before t.request "u1" user sub ∧ ¬isPaid user ∧
            carriesPaidPlan teamEnv sub)) ∧
    ((∀ t ∈ turns (post teamEnv) (finish (post teamEnv) subscribed ([] ++ [deletion]))
        [renewal],
        ∀ user sub, Patches t.before t.request "u1" user sub →
          ¬carriesActive sub ∧ ¬carriesPaidPlan teamEnv sub) →
      Dormant "u1" (finish (post teamEnv) subscribed ([] ++ deletion :: [renewal]))) :=
  cancelled_unless_late teamEnv subscribed [] [renewal] deletion "sub_1" "u1"
    cancels_deletion

/-- The renewal that is delivered after the deletion makes the account active. -/
theorem late_renewal_restores :
    ¬∀ (env : Env) (db : BillingDb) (pre rest : List Delivery) (del : Delivery)
      (S u : String), Cancels (finish (post env) db pre) del S u →
        ∀ t ∈ turns (post env) (finish (post env) db (pre ++ [del])) rest,
          About S t.request → ¬Brings isActive t u ∧ ¬Brings isPaid t u := by
  intro hfinal
  have hkept := hfinal teamEnv subscribed [] [renewal] deletion "sub_1" "u1"
    cancels_deletion _ (List.mem_singleton.mpr rfl) rfl
  apply hkept.1
  refine ⟨⟨"u1", "starter", "inactive", some "cus_1", none, none⟩,
    ⟨"u1", "team", "active", some "cus_1", some "sub_1", some "price_team"⟩, ?_, ?_, ?_, ?_⟩
  · decide +kernel
  · decide +kernel
  · simp [isActive]
  · rfl

/-! ## Rows of another subscription -/

/-- The handler finds no row of the customer with the predicate, so that its fallback
takes this one with all others of the customer. -/
def FallsBackTo (users : UserTable) (sub : Subscription) (p : BillingUser → Prop)
    (user : BillingUser) : Prop :=
  user.billing.stripeCustomerId = some (customerIdOf sub) ∧
    ∀ other ∈ users.rows,
      other.billing.stripeCustomerId = some (customerIdOf sub) → ¬p other

/-- A row without the predicate is written by the fallback only. -/
theorem narrowed_iff_fallsBackTo {users : UserTable} {sub : Subscription}
    {p : BillingUser → Bool} {user : BillingUser} (h : p user = false) :
    narrowed users sub p user = true ↔ FallsBackTo users sub (fun row => p row) user := by
  have hcustomer (row : BillingUser) : ofCustomer sub row = true ↔
      row.billing.stripeCustomerId = some (customerIdOf sub) := beq_iff_eq
  have hnone : (!users.rows.any fun other => ofCustomer sub other && p other) = true ↔
      ∀ other ∈ users.rows,
        other.billing.stripeCustomerId = some (customerIdOf sub) → ¬p other = true := by
    rw [Bool.not_eq_true', List.any_eq_false]
    apply forall₂_congr
    intro other _
    rw [Bool.and_eq_true, hcustomer, not_and]
  rw [narrowed, h, Bool.false_or, Bool.and_eq_true, hcustomer, hnone, FallsBackTo]

theorem ofSubscription_iff {sub : Subscription} {row : BillingUser} :
    ofSubscription sub row = true ↔ row.billing.stripeSubscriptionId = some sub.id :=
  beq_iff_eq

/-- Both handlers change the subscription of a row that has another one. -/
theorem kept_iff_of_target {target : Prop} [Decidable target] {user changed : BillingUser}
    (hchanged : changed.billing.stripeSubscriptionId ≠ user.billing.stripeSubscriptionId) :
    (some (if target then changed else user)) = some user ↔ ¬target := by
  rw [Option.some_inj]
  by_cases htarget : target
  · rw [if_pos htarget]
    refine ⟨fun heq => (hchanged ?_).elim, fun hnot => (hnot htarget).elim⟩
    rw [heq]
  · rw [if_neg htarget]
    exact ⟨fun _ => htarget, fun _ => rfl⟩

/-- A row with another subscription than the event's stays as it was if and only if the
handler's fallback to the customer does not reach it. -/
theorem otherSubscription_kept_iff (env : Env) (db : BillingDb) (d : Delivery)
    (eventId u : String) (sub : Subscription) (user : BillingUser) (other : String)
    (hfound : db.users.find? u = some user)
    (hother : user.billing.stripeSubscriptionId = some other) (hne : other ≠ sub.id) :
    ((applyStripeWebhookDbSide env db ⟨eventId, .subscriptionUpdated sub⟩
        d.retrieved).users.find? u = some user ↔
      ¬FallsBackTo db.users sub (fun row =>
        row.billing.stripeSubscriptionId = some sub.id ∨
          row.billing.stripeSubscriptionId = none) user) ∧
    ((applyStripeWebhookDbSide env db ⟨eventId, .subscriptionDeleted sub⟩
        d.retrieved).users.find? u = some user ↔
      ¬FallsBackTo db.users sub (fun row =>
        row.billing.stripeSubscriptionId = some sub.id) user) := by
  have hsub : ¬user.billing.stripeSubscriptionId = some sub.id := by
    rw [hother, Option.some_inj]
    exact hne
  have hofSub : ofSubscription sub user = false :=
    Bool.eq_false_iff.mpr fun h => hsub (ofSubscription_iff.mp h)
  constructor
  · have hfallback : updatedTarget db.users sub user = true ↔
        FallsBackTo db.users sub (fun row =>
          row.billing.stripeSubscriptionId = some sub.id ∨
            row.billing.stripeSubscriptionId = none) user := by
      rw [updatedTarget, narrowed_iff_fallsBackTo (by simp [hofSub, hother])]
      simp only [Bool.or_eq_true, ofSubscription_iff, Option.isNone_iff_eq_none]
    have hrow : rowAfter env db.users d ⟨eventId, .subscriptionUpdated sub⟩ user =
        if updatedTarget db.users sub user = true then
          user.set (subscriptionPatchFromStripe env sub user.billing.plan)
        else user := by
      simp only [rowAfter, patchedBy]
      by_cases htarget : updatedTarget db.users sub user = true
      · simp only [if_pos htarget]
      · simp only [if_neg htarget]
    rw [apply_find?, hfound, Option.map_some, hrow,
      kept_iff_of_target fun heq => hsub heq.symm, hfallback]
  · have hrow : rowAfter env db.users d ⟨eventId, .subscriptionDeleted sub⟩ user =
        if deletedTarget db.users sub user = true then cancelled user else user := rfl
    have hcleared : (cancelled user).billing.stripeSubscriptionId ≠
        user.billing.stripeSubscriptionId := by
      rw [hother]
      exact (Option.some_ne_none other).symm
    rw [apply_find?, hfound, Option.map_some, hrow, kept_iff_of_target hcleared,
      deletedTarget, narrowed_iff_fallsBackTo hofSub]
    simp only [ofSubscription_iff]

/-- The customer bought again: the row has the new subscription. -/
def resubscribed : BillingDb where
  users := ⟨[⟨"u1", "team", "active", some "cus_1", some "sub_2", some "price_team"⟩],
    by decide⟩
  stripeEvents := []
  funnelEvents := []

/-- The old subscription of the customer is not the row's. -/
theorem otherSubscription_kept_iff_resubscribed :
    ((applyStripeWebhookDbSide teamEnv resubscribed
        ⟨"evt_1", .subscriptionUpdated (teamSubscription "canceled")⟩
        deletion.retrieved).users.find? "u1" =
          some ⟨"u1", "team", "active", some "cus_1", some "sub_2", some "price_team"⟩ ↔
      ¬FallsBackTo resubscribed.users (teamSubscription "canceled") (fun row =>
        row.billing.stripeSubscriptionId = some "sub_1" ∨
          row.billing.stripeSubscriptionId = none)
        ⟨"u1", "team", "active", some "cus_1", some "sub_2", some "price_team"⟩) ∧
    ((applyStripeWebhookDbSide teamEnv resubscribed
        ⟨"evt_1", .subscriptionDeleted (teamSubscription "canceled")⟩
        deletion.retrieved).users.find? "u1" =
          some ⟨"u1", "team", "active", some "cus_1", some "sub_2", some "price_team"⟩ ↔
      ¬FallsBackTo resubscribed.users (teamSubscription "canceled") (fun row =>
        row.billing.stripeSubscriptionId = some "sub_1")
        ⟨"u1", "team", "active", some "cus_1", some "sub_2", some "price_team"⟩) :=
  otherSubscription_kept_iff teamEnv resubscribed deletion "evt_1" "u1"
    (teamSubscription "canceled") _ "sub_2" rfl rfl (by decide)

/-- The late deletion of the old subscription takes the plan of the new one away. -/
theorem old_deletion_cancels_new :
    ¬∀ (env : Env) (db : BillingDb) (d : Delivery) (eventId u : String)
      (sub : Subscription) (user : BillingUser) (other : String),
      db.users.find? u = some user → user.billing.stripeSubscriptionId = some other →
        other ≠ sub.id →
          (applyStripeWebhookDbSide env db ⟨eventId, .subscriptionUpdated sub⟩
            d.retrieved).users.find? u = some user ∧
          (applyStripeWebhookDbSide env db ⟨eventId, .subscriptionDeleted sub⟩
            d.retrieved).users.find? u = some user := by
  intro h
  have hkept := (h teamEnv resubscribed deletion "evt_1" "u1" (teamSubscription "canceled")
    _ "sub_2" rfl rfl (by decide)).2
  have hcancelled : (applyStripeWebhookDbSide teamEnv resubscribed
      ⟨"evt_1", .subscriptionDeleted (teamSubscription "canceled")⟩
      deletion.retrieved).users.find? "u1" =
        some ⟨"u1", "starter", "inactive", some "cus_1", none, none⟩ := by decide +kernel
  rw [hcancelled] at hkept
  exact absurd hkept (by decide)

end AgentSkeptic.Hosted.Stripe
