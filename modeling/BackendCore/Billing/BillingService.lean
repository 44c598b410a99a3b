import BackendCore.Billing.PaymentService

/-!
# BillingService

Subscriptions of a tenant: opening a paid checkout, cancelling, the free plan
and the period-end step.  `granted` is the answer of the permission guard for
the calling actor.
-/

set_option autoImplicit false

namespace BackendCore.Billing

open BackendCore.Python

structure SubscriptionDTO where
  id : Uuid
  planCode : String
  status : SubscriptionStatus
  currentPeriodEnd : DateTime
  cancelAtPeriodEnd : Bool
  deriving DecidableEq

def subscriptionDto (subscription : Subscription) (planCode : String) : SubscriptionDTO where
  id := subscription.id
  planCode := planCode
  status := subscription.status
  currentPeriodEnd := subscription.currentPeriodEnd
  cancelAtPeriodEnd := subscription.cancelAtPeriodEnd

def requirePermission (granted : Bool) (permission : String) : BillingTx Unit :=
  Tx.require granted (.permissionDeniedError ("missing permission: " ++ permission))

def subscriptionManage : String := "billing.subscription:manage"

/-- `_plan_by_code`; two active plans of one code are excluded by `uq_plans_code`. -/
def planByCode (planCode : String) : BillingTx Plan := do
  let db ← get
  match db.plans.select fun plan => plan.code = planCode && plan.isActive with
  | [] => throw (.notFoundError ("plan not found: " ++ planCode))
  | [plan] => pure plan
  | _ => throw (.unexpected "MultipleResultsFound")

/-- `self._subscriptions.find(...)`: scoped to the tenant of the context. -/
def findSubscriptions (tenantId : Uuid) (clause : SubscriptionStatus → Bool) :
    BillingTx (List Subscription) := do
  let db ← get
  pure (db.subscriptions.select fun subscription =>
    subscription.tenantId = tenantId && clause subscription.status)

/-- A subscription row over the plan's price and period, starting at `now`. -/
def newSubscription (tenantId : Uuid) (plan : Plan) (status : SubscriptionStatus) (id : Uuid)
    (now : DateTime) : BillingTx Subscription :=
  match periodEnd now plan.period with
  | none => throw .valueError
  | some finish => pure
      { id := id
        tenantId := tenantId
        planId := plan.id
        status := status
        price := plan.price
        currentPeriodStart := now
        currentPeriodEnd := finish
        cancelAtPeriodEnd := false
        canceledAt := none }

def subscriptionKey (subscriptionId : Uuid) : String :=
  "subscription:" ++ Uuid.toStr subscriptionId

/-- `_checkout_for`. -/
def checkoutRequest (subscription : Subscription) (provider : String) : PaymentRequest where
  amount := subscription.price
  purpose := "subscription"
  reference := Uuid.toStr subscription.id
  provider := provider
  idempotencyKey := subscriptionKey subscription.id
  returnUrl := none
  subscriptionId := some subscription.id

def checkoutFor (tenantId : Uuid) (intake : PaymentIntake) (subscription : Subscription)
    (provider : String) (clock : Clock) : BillingTx CheckoutDTO :=
  createPayment tenantId intake (checkoutRequest subscription provider) clock

def startSubscription (tenantId : Uuid) (granted : Bool) (intake : PaymentIntake)
    (planCode provider : String) (newSubscriptionId : Uuid) (clock : Clock) :
    BillingTx CheckoutDTO := do
  requirePermission granted subscriptionManage
  let plan ← planByCode planCode
  Tx.require (decide (plan.price.amount ≠ 0))
    (.invariantViolationError "a free plan is assigned automatically, not purchased")
  match ← findSubscriptions tenantId (fun status => decide (status = .pending)) with
  | pending :: _ =>
    Tx.require (decide (pending.planId = plan.id))
      (.conflictError "a subscription checkout is already in progress")
    checkoutFor tenantId intake pending provider clock
  | [] =>
    let subscription ←
      newSubscription tenantId plan .pending newSubscriptionId clock.subscribed
    match ← Tx.savepoint (insertSubscription subscription) with
    | .error .integrityError =>
      throw (.conflictError "a subscription checkout is already in progress")
    | .error raised => throw raised
    | .ok () => checkoutFor tenantId intake subscription provider clock

def cancelRequestedRow (subscription : Subscription) (now : DateTime) : Subscription :=
  { subscription with cancelAtPeriodEnd := true, canceledAt := some now }

def cancelSubscription (tenantId : Uuid) (granted : Bool) (clock : Clock) :
    BillingTx SubscriptionDTO := do
  requirePermission granted subscriptionManage
  match ← findSubscriptions tenantId SubscriptionStatus.isLive with
  | [] => throw (.notFoundError "no active subscription")
  | subscription :: _ =>
    let canceled := cancelRequestedRow subscription clock.now
    putSubscription canceled
    let db ← get
    let code := planCode (db.plans.get subscription.planId)
    emit tenantId (.subscriptionCanceled subscription.id code)
    pure (subscriptionDto canceled code)

def autoSubscribe (tenantId : Uuid) (planCode : String) (newSubscriptionId : Uuid)
    (clock : Clock) : BillingTx Unit := do
  let plan ← planByCode planCode
  Tx.require (decide (plan.price.amount = 0))
    (.invariantViolationError "auto-subscribe requires a zero-price plan")
  match ← findSubscriptions tenantId SubscriptionStatus.isLive with
  | _ :: _ => pure ()
  | [] =>
    let status := if 0 < plan.trialDays then SubscriptionStatus.trialing else .active
    let subscription ← newSubscription tenantId plan status newSubscriptionId clock.subscribed
    insertSubscription subscription
    emit tenantId
      (.subscriptionActivated subscription.id plan.code subscription.currentPeriodEnd)

def rolledRow (subscription : Subscription) (span : DateTime × DateTime) : Subscription :=
  { subscription with
    status := .active, currentPeriodStart := span.1, currentPeriodEnd := span.2 }

def endedRow (subscription : Subscription) (now : DateTime) : Subscription :=
  { subscription with
    status := if subscription.cancelAtPeriodEnd then .canceled else .expired
    canceledAt :=
      if subscription.canceledAt = none && subscription.cancelAtPeriodEnd then some now
      else subscription.canceledAt }

/-- The tail of `close_ended_period`: the closure stands when the fallback raises
a domain error. -/
def fallBack (tenantId : Uuid) (fallbackPlanCode : Option String) (newSubscriptionId : Uuid)
    (clock : Clock) : BillingTx Unit := do
  match fallbackPlanCode.filter fun code => code ≠ "" with
  | none => pure ()
  | some code =>
    match ← Tx.attempt (autoSubscribe tenantId code newSubscriptionId clock) with
    | .ok () => pure ()
    | .error raised => if raised.isDomainError then pure () else throw raised

def closeEndedPeriod (tenantId subscriptionId : Uuid) (fallbackPlanCode : Option String)
    (newSubscriptionId : Uuid) (clock : Clock) : BillingTx Bool := do
  let db ← get
  match (db.subscriptions.get subscriptionId).filter fun subscription =>
      subscription.tenantId = tenantId && subscription.status.isLive &&
        subscription.currentPeriodEnd ≤ clock.now with
  | none => pure false
  | some subscription =>
    let plan := db.plans.get subscription.planId
    match plan.filter fun plan =>
        plan.price.amount = 0 && !subscription.cancelAtPeriodEnd with
    | some plan =>
      match rollForward clock.now plan.period subscription.currentPeriodStart
          subscription.currentPeriodEnd with
      | none => throw .valueError
      | some span =>
        putSubscription (rolledRow subscription span)
        pure true
    | none =>
      let ended := endedRow subscription clock.now
      putSubscription ended
      emit tenantId (.subscriptionEnded subscription.id (planCode plan) ended.status)
      fallBack tenantId fallbackPlanCode newSubscriptionId clock
      pure true

/-! ## What a successful call leaves -/

private theorem planByCode_run (code : String) (db : Db) :
    (∃ plan, planByCode code db = .ok plan db ∧
        db.plans.select (fun plan => plan.code = code && plan.isActive) = [plan]) ∨
      ∃ raised, planByCode code db = .error raised db := by
  unfold planByCode
  simp only [Tx.bind_run, Tx.get_run]
  cases rows : db.plans.select (fun plan => plan.code = code && plan.isActive) with
  | nil => exact Or.inr ⟨_, rfl⟩
  | cons plan rest =>
    cases rest with
    | nil => exact Or.inl ⟨plan, rfl, rfl⟩
    | cons second rest => exact Or.inr ⟨_, rfl⟩

theorem planByCode_ok {code : String} {db final : Db} {plan : Plan}
    (run : planByCode code db = .ok plan final) :
    final = db ∧ db.plans.select (fun plan => plan.code = code && plan.isActive) = [plan] := by
  obtain ⟨found, ok, rows⟩ | ⟨raised, failed⟩ := planByCode_run code db
  · rw [ok] at run
    cases run
    exact ⟨rfl, rows⟩
  · rw [failed] at run
    cases run

private theorem findSubscriptions_ok {tenantId : Uuid} {clause : SubscriptionStatus → Bool}
    {db final : Db} {found : List Subscription}
    (run : findSubscriptions tenantId clause db = .ok found final) :
    final = db ∧ (db.subscriptions.select fun subscription =>
      subscription.tenantId = tenantId && clause subscription.status) = found := by
  cases run
  exact ⟨rfl, rfl⟩

private theorem mem_found {db : Db} {tenantId : Uuid} (clause : SubscriptionStatus → Bool)
    {subscription : Subscription} {rest : List Subscription}
    (found : (db.subscriptions.select fun subscription =>
      subscription.tenantId = tenantId && clause subscription.status) = subscription :: rest) :
    subscription ∈ db.subscriptions.rows ∧ subscription.tenantId = tenantId ∧
      clause subscription.status = true := by
  have member : subscription ∈ db.subscriptions.select fun subscription =>
      subscription.tenantId = tenantId && clause subscription.status := by
    rw [found]
    exact List.mem_cons_self
  obtain ⟨stored, chosen⟩ := (Table.mem_select _ _ _).mp member
  rw [Bool.and_eq_true, decide_eq_true_eq] at chosen
  exact ⟨stored, chosen⟩

private theorem none_found {db : Db} {tenantId : Uuid} {clause : SubscriptionStatus → Bool}
    (found : (db.subscriptions.select fun subscription =>
      subscription.tenantId = tenantId && clause subscription.status) = [])
    (other : Subscription) (member : other ∈ db.subscriptions.rows)
    (tenant : other.tenantId = tenantId) : clause other.status = false := by
  cases value : clause other.status with
  | false => rfl
  | true =>
    have selected := (Table.mem_select db.subscriptions (fun subscription =>
      subscription.tenantId = tenantId && clause subscription.status) other).mpr
      ⟨member, by simp [tenant, value]⟩
    rw [found] at selected
    cases selected

theorem mem_plans_of_select {plans : Table Plan.id} {code : String} {plan : Plan}
    (only : plans.select (fun plan => plan.code = code && plan.isActive) = [plan]) :
    plan ∈ plans.rows := by
  have member : plan ∈ plans.select (fun plan => plan.code = code && plan.isActive) := by
    rw [only]
    exact List.mem_singleton_self plan
  exact ((Table.mem_select _ _ _).mp member).1

/-- A row as `newSubscription` builds it. -/
structure IsNewSubscription (tenantId : Uuid) (plan : Plan) (status : SubscriptionStatus)
    (subscription : Subscription) : Prop where
  tenant : subscription.tenantId = tenantId
  plan : subscription.planId = plan.id
  status : subscription.status = status
  uncanceled : subscription.cancelAtPeriodEnd = false

private theorem newSubscription_ok {tenantId : Uuid} {plan : Plan} {status : SubscriptionStatus}
    {id : Uuid} {now : DateTime} {db final : Db} {subscription : Subscription}
    (run : newSubscription tenantId plan status id now db = .ok subscription final) :
    final = db ∧ IsNewSubscription tenantId plan status subscription := by
  unfold newSubscription at run
  cases ends : periodEnd now plan.period with
  | none =>
    rw [ends] at run
    cases run
  | some finish =>
    rw [ends] at run
    cases run
    exact ⟨rfl, rfl, rfl, rfl, rfl⟩

/-- The pending subscription a checkout is opened for, and the database with it. -/
inductive PendingCheckout (db : Db) (tenantId : Uuid) : Subscription → Db → Prop where
  | existing (subscription : Subscription) (member : subscription ∈ db.subscriptions.rows)
      (tenant : subscription.tenantId = tenantId) (pending : subscription.status = .pending) :
      PendingCheckout db tenantId subscription db
  | inserted (subscription : Subscription) (tenant : subscription.tenantId = tenantId)
      (pending : subscription.status = .pending)
      (fresh : db.subscriptions.get subscription.id = none)
      (only : pendingConflict db subscription = false) :
      PendingCheckout db tenantId subscription
        { db with subscriptions := db.subscriptions.insert subscription fresh }

theorem startSubscription_ok {tenantId : Uuid} {granted : Bool} {intake : PaymentIntake}
    {code provider : String} {newId : Uuid} {clock : Clock} {db final : Db}
    {checkout : CheckoutDTO}
    (run : startSubscription tenantId granted intake code provider newId clock db =
      .ok checkout final) :
    ∃ subscription prepared, PendingCheckout db tenantId subscription prepared ∧
      LeavesCheckout prepared tenantId intake.newId (checkoutRequest subscription provider)
        final := by
  unfold startSubscription at run
  obtain ⟨_, _, allowed, afterGuard⟩ := (Tx.bind_ok_iff _ _ _ _ _).mp run
  obtain ⟨_, rfl⟩ := (Tx.require_ok_iff _ _ _ _ _).mp allowed
  obtain ⟨plan, _, planned, afterPlan⟩ := (Tx.bind_ok_iff _ _ _ _ _).mp afterGuard
  obtain ⟨rfl, _⟩ := planByCode_ok planned
  obtain ⟨_, start, priced, afterPrice⟩ := (Tx.bind_ok_iff _ _ _ _ _).mp afterPlan
  obtain ⟨_, rfl⟩ := (Tx.require_ok_iff _ _ _ _ _).mp priced
  obtain ⟨found, _, looked, afterFind⟩ := (Tx.bind_ok_iff _ _ _ _ _).mp afterPrice
  obtain ⟨rfl, rows⟩ := findSubscriptions_ok looked
  cases found with
  | cons pending rest =>
    obtain ⟨member, tenant, isPending⟩ :=
      mem_found (fun status => decide (status = .pending)) rows
    obtain ⟨_, _, samePlan, opened⟩ := (Tx.bind_ok_iff _ _ _ _ _).mp afterFind
    obtain ⟨_, rfl⟩ := (Tx.require_ok_iff _ _ _ _ _).mp samePlan
    exact ⟨pending, _, .existing pending member tenant (by simpa using isPending),
      createPayment_ok opened⟩
  | nil =>
    obtain ⟨subscription, prior, built, afterBuild⟩ := (Tx.bind_ok_iff _ _ _ _ _).mp afterFind
    obtain ⟨rfl, shape⟩ := newSubscription_ok built
    rw [Tx.bind_run, Tx.savepoint_run] at afterBuild
    cases insertion : insertSubscription subscription prior with
    | error raised copy =>
      rw [insertion] at afterBuild
      cases raised <;> cases afterBuild
    | ok result prepared =>
      rw [insertion] at afterBuild
      obtain ⟨fresh, _, only, rfl⟩ := (insertSubscription_ok_iff _ _ _ _).mp insertion
      exact ⟨subscription, _, .inserted subscription shape.tenant shape.status fresh only,
        createPayment_ok afterBuild⟩

theorem cancelSubscription_ok {tenantId : Uuid} {granted : Bool} {clock : Clock} {db final : Db}
    {result : SubscriptionDTO}
    (run : cancelSubscription tenantId granted clock db = .ok result final) :
    ∃ subscription code, subscription ∈ db.subscriptions.rows ∧
      subscription.tenantId = tenantId ∧ subscription.status.isLive = true ∧
      final = { db with
        subscriptions := db.subscriptions.put (cancelRequestedRow subscription clock.now)
        events := db.events ++ [⟨tenantId, .subscriptionCanceled subscription.id code⟩] } := by
  unfold cancelSubscription at run
  obtain ⟨_, start, allowed, afterGuard⟩ := (Tx.bind_ok_iff _ _ _ _ _).mp run
  obtain ⟨_, rfl⟩ := (Tx.require_ok_iff _ _ _ _ _).mp allowed
  obtain ⟨found, _, looked, afterFind⟩ := (Tx.bind_ok_iff _ _ _ _ _).mp afterGuard
  obtain ⟨rfl, rows⟩ := findSubscriptions_ok looked
  cases found with
  | nil => cases afterFind
  | cons subscription rest =>
    obtain ⟨member, tenant, live⟩ := mem_found SubscriptionStatus.isLive rows
    obtain ⟨_, _, flushed, afterFlush⟩ := (Tx.bind_ok_iff _ _ _ _ _).mp afterFind
    obtain ⟨_, _, rfl⟩ := (putSubscription_ok_iff _ _ _ _).mp flushed
    cases afterFlush
    exact ⟨subscription, _, member, tenant, live, rfl⟩

/-- What `auto_subscribe` leaves: nothing new for a tenant with a live
subscription, else one live subscription to the zero-price plan. -/
inductive Subscribes (db : Db) (tenantId : Uuid) (code : String) : Db → Prop where
  | already (subscription : Subscription) (member : subscription ∈ db.subscriptions.rows)
      (tenant : subscription.tenantId = tenantId) (live : subscription.status.isLive = true) :
      Subscribes db tenantId code db
  | inserted (plan : Plan) (subscription : Subscription)
      (planned : db.plans.select (fun plan => plan.code = code && plan.isActive) = [plan])
      (free : plan.price.amount = 0) (tenant : subscription.tenantId = tenantId)
      (planId : subscription.planId = plan.id) (live : subscription.status.isLive = true)
      (fresh : db.subscriptions.get subscription.id = none)
      (only : ∀ other ∈ db.subscriptions.rows, other.tenantId = tenantId →
        other.status.isLive = false)
      (uncanceled : subscription.cancelAtPeriodEnd = false) :
      Subscribes db tenantId code { db with
        subscriptions := db.subscriptions.insert subscription fresh
        events := db.events ++ [⟨tenantId, .subscriptionActivated subscription.id plan.code
          subscription.currentPeriodEnd⟩] }

theorem autoSubscribe_ok {tenantId : Uuid} {code : String} {newId : Uuid} {clock : Clock}
    {db final : Db} {result : Unit}
    (run : autoSubscribe tenantId code newId clock db = .ok result final) :
    Subscribes db tenantId code final := by
  unfold autoSubscribe at run
  obtain ⟨plan, _, planned, afterPlan⟩ := (Tx.bind_ok_iff _ _ _ _ _).mp run
  obtain ⟨rfl, rows⟩ := planByCode_ok planned
  obtain ⟨_, start, priced, afterPrice⟩ := (Tx.bind_ok_iff _ _ _ _ _).mp afterPlan
  obtain ⟨free, rfl⟩ := (Tx.require_ok_iff _ _ _ _ _).mp priced
  rw [decide_eq_true_eq] at free
  obtain ⟨found, _, looked, afterFind⟩ := (Tx.bind_ok_iff _ _ _ _ _).mp afterPrice
  obtain ⟨rfl, selected⟩ := findSubscriptions_ok looked
  cases found with
  | cons subscription rest =>
    obtain ⟨member, tenant, live⟩ := mem_found SubscriptionStatus.isLive selected
    cases afterFind
    exact .already subscription member tenant live
  | nil =>
    obtain ⟨subscription, _, built, afterBuild⟩ := (Tx.bind_ok_iff _ _ _ _ _).mp afterFind
    obtain ⟨rfl, shape⟩ := newSubscription_ok built
    obtain ⟨_, _, insertion, done⟩ := (Tx.bind_ok_iff _ _ _ _ _).mp afterBuild
    obtain ⟨fresh, _, _, rfl⟩ := (insertSubscription_ok_iff _ _ _ _).mp insertion
    cases done
    have live : subscription.status.isLive = true := by
      rw [shape.status]
      split
      · rfl
      · rfl
    exact .inserted plan subscription rows free shape.tenant shape.plan live fresh
      (none_found selected) shape.uncanceled

private theorem newSubscription_error {tenantId : Uuid} {plan : Plan}
    {status : SubscriptionStatus} {id : Uuid} {now : DateTime} {db copy : Db} {raised : Exc}
    (run : newSubscription tenantId plan status id now db = .error raised copy) :
    raised = .valueError := by
  unfold newSubscription at run
  cases ends : periodEnd now plan.period with
  | none =>
    rw [ends] at run
    cases run
    rfl
  | some finish =>
    rw [ends] at run
    cases run

/-- A domain error of `auto_subscribe` says that the plan is not one active
zero-price plan, and is raised before the first write. -/
theorem autoSubscribe_domainError {tenantId : Uuid} {code : String} {newId : Uuid} {clock : Clock}
    {db copy : Db} {raised : Exc}
    (run : autoSubscribe tenantId code newId clock db = .error raised copy)
    (domain : raised.isDomainError = true) :
    copy = db ∧ ∀ plan,
      db.plans.select (fun plan => plan.code = code && plan.isActive) = [plan] →
        plan.price.amount ≠ 0 := by
  unfold autoSubscribe at run
  obtain ⟨plan, planned, rows⟩ | ⟨missing, planned⟩ := planByCode_run code db
  · rw [Tx.bind_run, planned] at run
    obtain refused | ⟨_, _, priced, afterPrice⟩ := (Tx.bind_error_iff _ _ _ _ _).mp run
    · obtain ⟨unfree, _, rfl⟩ := (Tx.require_error_iff _ _ _ _ _).mp refused
      refine ⟨rfl, ?_⟩
      intro other otherRows
      rw [rows] at otherRows
      cases otherRows
      simpa using unfree
    obtain ⟨_, rfl⟩ := (Tx.require_ok_iff _ _ _ _ _).mp priced
    obtain unread | ⟨found, _, looked, afterFind⟩ := (Tx.bind_error_iff _ _ _ _ _).mp afterPrice
    · cases unread
    cases found with
    | cons subscription rest => cases afterFind
    | nil =>
      obtain unbuilt | ⟨subscription, _, built, afterBuild⟩ :=
        (Tx.bind_error_iff _ _ _ _ _).mp afterFind
      · rw [newSubscription_error unbuilt] at domain
        cases domain
      obtain refused | ⟨_, _, _, emitted⟩ := (Tx.bind_error_iff _ _ _ _ _).mp afterBuild
      · rw [insertSubscription_error refused] at domain
        cases domain
      · cases emitted
  · rw [Tx.bind_run, planned] at run
    cases run
    refine ⟨rfl, ?_⟩
    intro plan rows
    have found : planByCode code db = .ok plan db := by
      unfold planByCode
      simp only [Tx.bind_run, Tx.get_run, rows]
      rfl
    rw [planned] at found
    cases found

/-- What the fallback at the end of a period leaves. -/
inductive FallsBack (db : Db) (tenantId : Uuid) (fallback : Option String) : Db → Prop where
  | unset (no : fallback.filter (fun code => code ≠ "") = none) : FallsBack db tenantId fallback db
  | refused (code : String) (set : fallback.filter (fun code => code ≠ "") = some code)
      (unfree : ∀ plan, db.plans.select (fun plan => plan.code = code && plan.isActive) = [plan] →
        plan.price.amount ≠ 0) : FallsBack db tenantId fallback db
  | subscribed (code : String) (set : fallback.filter (fun code => code ≠ "") = some code)
      (final : Db) (subscribes : Subscribes db tenantId code final) :
      FallsBack db tenantId fallback final

theorem fallBack_ok {tenantId : Uuid} {fallback : Option String} {newId : Uuid} {clock : Clock}
    {db final : Db} {result : Unit}
    (run : fallBack tenantId fallback newId clock db = .ok result final) :
    FallsBack db tenantId fallback final := by
  unfold fallBack at run
  cases set : fallback.filter (fun code => code ≠ "") with
  | none =>
    rw [set] at run
    cases run
    exact .unset set
  | some code =>
    rw [set] at run
    simp only [Tx.bind_run, Tx.attempt_run] at run
    cases attempt : autoSubscribe tenantId code newId clock db with
    | ok done copy =>
      rw [attempt] at run
      cases run
      exact .subscribed code set _ (autoSubscribe_ok attempt)
    | error raised copy =>
      rw [attempt] at run
      by_cases domain : raised.isDomainError = true
      · simp only [domain, if_true] at run
        cases run
        obtain ⟨rfl, unfree⟩ := autoSubscribe_domainError attempt domain
        exact .refused code set unfree
      · simp only [domain] at run
        cases run

/-- A subscription whose period has ended. -/
structure Due (subscriptions : Table Subscription.id) (tenantId : Uuid) (now : DateTime)
    (subscription : Subscription) : Prop where
  found : subscriptions.get subscription.id = some subscription
  tenant : subscription.tenantId = tenantId
  live : subscription.status.isLive = true
  ended : subscription.currentPeriodEnd ≤ now

/-- The database once a subscription has ended. -/
def endedDb (db : Db) (subscription : Subscription) (code : String) (now : DateTime) : Db :=
  { db with
    subscriptions := db.subscriptions.put (endedRow subscription now)
    events := db.events ++ [⟨subscription.tenantId, .subscriptionEnded subscription.id code
      (endedRow subscription now).status⟩] }

/-- What the period-end step leaves. -/
inductive ClosesPeriod (db : Db) (tenantId : Uuid) (fallback : Option String) (now : DateTime) :
    Db → Prop where
  | nothing : ClosesPeriod db tenantId fallback now db
  | rolled (subscription : Subscription) (plan : Plan) (span : DateTime × DateTime)
      (due : Due db.subscriptions tenantId now subscription)
      (planned : db.plans.get subscription.planId = some plan) (free : plan.price.amount = 0) :
      ClosesPeriod db tenantId fallback now
        { db with subscriptions := db.subscriptions.put (rolledRow subscription span) }
  | ended (subscription : Subscription) (code : String)
      (due : Due db.subscriptions tenantId now subscription) (final : Db)
      (falls : FallsBack (endedDb db subscription code now) tenantId fallback final) :
      ClosesPeriod db tenantId fallback now final

theorem closeEndedPeriod_ok {tenantId subscriptionId : Uuid} {fallback : Option String}
    {newId : Uuid} {clock : Clock} {db final : Db} {acted : Bool}
    (run : closeEndedPeriod tenantId subscriptionId fallback newId clock db = .ok acted final) :
    ClosesPeriod db tenantId fallback clock.now final := by
  unfold closeEndedPeriod at run
  rw [Tx.bind_run, Tx.get_run] at run
  simp only at run
  cases chosen : (db.subscriptions.get subscriptionId).filter (fun subscription =>
      subscription.tenantId = tenantId && subscription.status.isLive &&
        decide (subscription.currentPeriodEnd ≤ clock.now)) with
  | none =>
    rw [chosen] at run
    cases run
    exact .nothing
  | some subscription =>
    rw [chosen] at run
    obtain ⟨stored, holds⟩ := Option.filter_eq_some_iff.mp chosen
    simp only [Bool.and_eq_true, decide_eq_true_eq] at holds
    have due : Due db.subscriptions tenantId clock.now subscription := by
      refine ⟨?_, holds.1.1, holds.1.2, holds.2⟩
      rw [Table.key_of_get stored]
      exact stored
    simp only at run
    cases rolls : (db.plans.get subscription.planId).filter (fun plan =>
        plan.price.amount = 0 && !subscription.cancelAtPeriodEnd) with
    | some plan =>
      rw [rolls] at run
      obtain ⟨planned, free⟩ := Option.filter_eq_some_iff.mp rolls
      simp only [Bool.and_eq_true, decide_eq_true_eq] at free
      cases rolled : rollForward clock.now plan.period subscription.currentPeriodStart
          subscription.currentPeriodEnd with
      | none =>
        simp only [rolled] at run
        cases run
      | some span =>
        simp only [rolled] at run
        obtain ⟨_, _, flushed, done⟩ := (Tx.bind_ok_iff _ _ _ _ _).mp run
        obtain ⟨_, _, rfl⟩ := (putSubscription_ok_iff _ _ _ _).mp flushed
        cases done
        exact .rolled subscription plan span due planned free.1
    | none =>
      rw [rolls] at run
      obtain ⟨_, _, flushed, afterFlush⟩ := (Tx.bind_ok_iff _ _ _ _ _).mp run
      obtain ⟨_, _, rfl⟩ := (putSubscription_ok_iff _ _ _ _).mp flushed
      obtain ⟨_, _, emitted, afterEmit⟩ := (Tx.bind_ok_iff _ _ _ _ _).mp afterFlush
      cases emitted
      obtain ⟨_, _, fell, done⟩ := (Tx.bind_ok_iff _ _ _ _ _).mp afterEmit
      cases done
      refine .ended subscription (planCode (db.plans.get subscription.planId)) due _ ?_
      rw [endedDb, due.tenant]
      exact fallBack_ok fell

/-- The tables that an operation on subscriptions leaves alone. -/
structure SameRest (db final : Db) : Prop where
  payments : final.payments = db.payments
  webhooks : final.webhooks = db.webhooks
  plans : final.plans = db.plans

theorem PendingCheckout.rest {db prepared : Db} {tenantId : Uuid} {subscription : Subscription}
    (checkout : PendingCheckout db tenantId subscription prepared) : SameRest db prepared := by
  cases checkout with
  | existing => exact ⟨rfl, rfl, rfl⟩
  | inserted => exact ⟨rfl, rfl, rfl⟩

theorem Subscribes.rest {db final : Db} {tenantId : Uuid} {code : String}
    (subscribes : Subscribes db tenantId code final) : SameRest db final := by
  cases subscribes with
  | already => exact ⟨rfl, rfl, rfl⟩
  | inserted => exact ⟨rfl, rfl, rfl⟩

theorem ClosesPeriod.rest {db final : Db} {tenantId : Uuid} {fallback : Option String}
    {now : DateTime} (closes : ClosesPeriod db tenantId fallback now final) :
    SameRest db final := by
  cases closes with
  | nothing => exact ⟨rfl, rfl, rfl⟩
  | rolled => exact ⟨rfl, rfl, rfl⟩
  | ended subscription code due final falls =>
    cases falls with
    | unset => exact ⟨rfl, rfl, rfl⟩
    | refused => exact ⟨rfl, rfl, rfl⟩
    | subscribed code set final subscribes =>
      have same := subscribes.rest
      exact ⟨same.payments, same.webhooks, same.plans⟩

end BackendCore.Billing
