import BackendCore.Billing.StateMachine
import BackendCore.Billing.Periods

/-!
# PaymentService

Universal payment intake and the finalizers of `core/billing/service.py`.  A
finalizer changes the payment row it was handed and, for a subscription
payment, the tenant's subscriptions in the same transaction; it returns the row
as it left it.  The tenant of the service context is the first argument.
-/

set_option autoImplicit false

namespace BackendCore.Billing

open BackendCore.Python

/-! ## Data transfer objects -/

structure PaymentDTO where
  id : Uuid
  status : PaymentStatus
  amount : Money
  purpose : String
  reference : String
  provider : Provider
  paidAt : Option DateTime
  pendingAt : Option DateTime
  closedAt : Option DateTime
  failureCode : Option String
  deriving DecidableEq

def paymentDto (payment : Payment) : PaymentDTO where
  id := payment.id
  status := payment.status
  amount := payment.amount
  purpose := payment.purpose
  reference := payment.reference
  provider := payment.provider
  paidAt := payment.paidAt
  pendingAt := payment.metadata.pendingAt
  closedAt := payment.metadata.closedAt
  failureCode := payment.failureCode

structure CheckoutDTO where
  paymentId : Uuid
  provider : Provider
  checkoutUrl : String
  expiresAt : Option DateTime
  deriving DecidableEq

def paymentEventPayload (payment : Payment) : PaymentPayload where
  paymentId := payment.id
  amount := payment.amount
  purpose := payment.purpose
  reference := payment.reference
  provider := payment.provider

/-! ## Creating a payment -/

def maxReturnUrlLength : Nat := 2048

/-- `_validate_return_url`. -/
def validateReturnUrl (runtime : Runtime) (url : Option String) : BillingTx Unit :=
  match url with
  | none => pure ()
  | some url => do
      let isUnsafe := url.toList.any fun c =>
        c = ';' || isSpaceChar c || !runtime.unicode.isPrintableChar c
      let parts ← Tx.liftExcept (runtime.urlsplit url)
      Tx.require
        (!(isUnsafe || decide (url.toList.length > maxReturnUrlLength) ||
          !(["http", "https"].contains parts.1) || parts.2 = ""))
        (.invariantViolationError "return_url must be an absolute http(s) URL")

theorem validateReturnUrl_ok {runtime : Runtime} {url : Option String} {db final : Db}
    {result : Unit} (run : validateReturnUrl runtime url db = .ok result final) : final = db := by
  cases url with
  | none =>
    cases run
    rfl
  | some url =>
    obtain ⟨_, _, parsed, rest⟩ := (Tx.bind_ok_iff _ _ _ _ _).mp run
    obtain ⟨_, rfl⟩ := (Tx.liftExcept_ok_iff _ _ _ _).mp parsed
    exact ((Tx.require_ok_iff _ _ _ _ _).mp rest).2

/-- The arguments of `create_payment`. -/
structure PaymentRequest where
  amount : Money
  purpose : String
  reference : String
  provider : String
  idempotencyKey : String
  returnUrl : Option String
  subscriptionId : Option Uuid

/-- What one call of `create_payment` gets from outside: the enabled providers,
the fresh id, and the provider's own `create_checkout`. -/
structure PaymentIntake where
  runtime : Runtime
  providers : List Provider
  newId : Uuid
  createCheckout : PaymentDTO → Option String → Except Exc CheckoutDTO

/-- `_by_idempotency_key`. -/
def byIdempotencyKey (tenantId : Uuid) (key : String) : BillingTx (Option Payment) := do
  let db ← get
  pure (db.payments.select fun payment =>
    payment.tenantId = tenantId && payment.idempotencyKey = key).head?

/-- `_replay_checkout`. -/
def replayCheckout (payment : Payment) (request : PaymentRequest) : BillingTx CheckoutDTO := do
  Tx.require
    (payment.amount = request.amount && payment.purpose = request.purpose &&
      payment.reference = request.reference && payment.provider.code = request.provider)
    (.conflictError "idempotency key already used for a different payment")
  pure
    { paymentId := payment.id
      provider := payment.provider
      checkoutUrl := payment.metadata.checkoutUrl.getD ""
      expiresAt := payment.metadata.expiresAt }

/-- The row `create_payment` inserts. -/
def newPayment (tenantId : Uuid) (request : PaymentRequest) (provider : Provider) (id : Uuid)
    (createdAt : DateTime) : Payment where
  id := id
  tenantId := tenantId
  subscriptionId := request.subscriptionId
  purpose := request.purpose
  reference := request.reference
  amount := request.amount
  status := .created
  provider := provider
  providerTransactionId := none
  idempotencyKey := request.idempotencyKey
  failureCode := none
  paidAt := none
  metadata := ⟨none, none, none, none⟩
  createdAt := createdAt

def openedRow (payment : Payment) (checkout : CheckoutDTO) : Payment :=
  { payment with
    metadata := { payment.metadata with
      checkoutUrl := some checkout.checkoutUrl, expiresAt := checkout.expiresAt } }

/-- The second half of `create_payment`, after the insert. -/
def openCheckout (tenantId : Uuid) (intake : PaymentIntake) (returnUrl : Option String)
    (payment : Payment) : BillingTx CheckoutDTO := do
  let checkout ← Tx.liftExcept (intake.createCheckout (paymentDto payment) returnUrl)
  let opened := openedRow payment checkout
  putPayment opened
  emit tenantId (.paymentCreated (paymentEventPayload opened))
  pure checkout

def createPayment (tenantId : Uuid) (intake : PaymentIntake) (request : PaymentRequest)
    (clock : Clock) : BillingTx CheckoutDTO := do
  match (Provider.ofCode? request.provider).filter intake.providers.contains with
  | none =>
    throw (.notFoundError ("unknown or disabled payment provider: " ++ request.provider))
  | some provider =>
    Tx.require (decide (0 < request.amount.amount))
      (.invariantViolationError "payment amount must be positive")
    validateReturnUrl intake.runtime request.returnUrl
    match ← byIdempotencyKey tenantId request.idempotencyKey with
    | some existing => replayCheckout existing request
    | none =>
      let payment := newPayment tenantId request provider intake.newId clock.inserted
      match ← Tx.savepoint (insertPayment payment) with
      | .error .integrityError =>
        match ← byIdempotencyKey tenantId request.idempotencyKey with
        | none => throw .integrityError
        | some winner => replayCheckout winner request
      | .error raised => throw raised
      | .ok () => openCheckout tenantId intake request.returnUrl payment

/-! ## What creating a payment leaves -/

/-- The committed payment of a request that opened a checkout. -/
structure Opens (db : Db) (tenantId newId : Uuid) (request : PaymentRequest) (payment : Payment)
    (final : Db) : Prop where
  shape : ∃ provider createdAt checkout,
    payment = openedRow (newPayment tenantId request provider newId createdAt) checkout
  fresh : db.payments.get payment.id = none
  unused : idempotencyConflict db payment = false
  leaves : final = { db with
    payments := db.payments.insert payment fresh
    events := db.events ++ [⟨tenantId, .paymentCreated (paymentEventPayload payment)⟩] }

/-- The payment a repeated request is answered from. -/
structure Replays (db : Db) (tenantId : Uuid) (request : PaymentRequest) (payment : Payment) :
    Prop where
  member : payment ∈ db.payments.rows
  tenant : payment.tenantId = tenantId
  key : payment.idempotencyKey = request.idempotencyKey
  purpose : payment.purpose = request.purpose
  reference : payment.reference = request.reference

private theorem byIdempotencyKey_run (tenantId : Uuid) (key : String) (db : Db) :
    byIdempotencyKey tenantId key db =
      .ok (db.payments.select fun payment =>
        payment.tenantId = tenantId && payment.idempotencyKey = key).head? db := rfl

private theorem replayCheckout_ok {tenantId : Uuid} {payment : Payment} {request : PaymentRequest}
    {db final : Db} {checkout : CheckoutDTO}
    (chosen : (db.payments.select fun payment =>
      payment.tenantId = tenantId && payment.idempotencyKey = request.idempotencyKey).head? =
        some payment)
    (run : replayCheckout payment request db = .ok checkout final) :
    final = db ∧ Replays db tenantId request payment := by
  obtain ⟨member, clause⟩ := (Table.mem_select _ _ _).mp (List.mem_of_mem_head? chosen)
  rw [Bool.and_eq_true, decide_eq_true_eq, decide_eq_true_eq] at clause
  obtain ⟨_, _, passed, done⟩ := (Tx.bind_ok_iff _ _ _ _ _).mp run
  obtain ⟨matching, rfl⟩ := (Tx.require_ok_iff _ _ _ _ _).mp passed
  simp only [Bool.and_eq_true, decide_eq_true_eq] at matching
  cases done
  exact ⟨rfl, member, clause.1, clause.2, matching.1.1.2, matching.1.2⟩

private theorem openCheckout_ok {tenantId : Uuid} {intake : PaymentIntake}
    {returnUrl : Option String} {payment : Payment} {db final : Db} {checkout : CheckoutDTO}
    (run : openCheckout tenantId intake returnUrl payment db = .ok checkout final) :
    intake.createCheckout (paymentDto payment) returnUrl = .ok checkout ∧
      final = { db with
        payments := db.payments.put (openedRow payment checkout)
        events := db.events ++
          [⟨tenantId, .paymentCreated (paymentEventPayload (openedRow payment checkout))⟩] } := by
  obtain ⟨answer, _, provided, rest⟩ := (Tx.bind_ok_iff _ _ _ _ _).mp run
  obtain ⟨answered, rfl⟩ := (Tx.liftExcept_ok_iff _ _ _ _).mp provided
  obtain ⟨_, _, flushed, rest⟩ := (Tx.bind_ok_iff _ _ _ _ _).mp rest
  obtain ⟨_, rfl⟩ := (putPayment_ok_iff _ _ _ _).mp flushed
  cases rest
  exact ⟨answered, rfl⟩

private theorem openCheckout_after_insert {tenantId : Uuid} {intake : PaymentIntake}
    {request : PaymentRequest} {provider : Provider} {createdAt : DateTime} {db final : Db}
    {checkout : CheckoutDTO} {inserted : Db}
    (insertion : insertPayment (newPayment tenantId request provider intake.newId createdAt) db =
      .ok () inserted)
    (run : openCheckout tenantId intake request.returnUrl
      (newPayment tenantId request provider intake.newId createdAt) inserted =
        .ok checkout final) :
    Opens db tenantId intake.newId request
      (openedRow (newPayment tenantId request provider intake.newId createdAt) checkout) final := by
  obtain ⟨fresh, _, unused, rfl⟩ := (insertPayment_ok_iff _ _ _ _).mp insertion
  refine ⟨⟨provider, createdAt, checkout, rfl⟩, fresh, unused, ?_⟩
  have changed := Table.put_insert db.payments
    (newPayment tenantId request provider intake.newId createdAt)
    (openedRow (newPayment tenantId request provider intake.newId createdAt) checkout) fresh rfl
  rw [(openCheckout_ok run).2]
  simp only [changed]

/-- A request that returned was answered from a stored payment, or opened a
checkout for the row it inserted. -/
theorem createPayment_cases {tenantId : Uuid} {intake : PaymentIntake} {request : PaymentRequest}
    {clock : Clock} {db final : Db} {checkout : CheckoutDTO}
    (run : createPayment tenantId intake request clock db = .ok checkout final) :
    0 < request.amount.amount ∧
      ((final = db ∧ ∃ payment, Replays db tenantId request payment) ∨
        ∃ provider,
          intake.createCheckout
            (paymentDto (newPayment tenantId request provider intake.newId clock.inserted))
            request.returnUrl = .ok checkout ∧
          Opens db tenantId intake.newId request
            (openedRow (newPayment tenantId request provider intake.newId clock.inserted) checkout)
            final) := by
  unfold createPayment at run
  cases enabled : (Provider.ofCode? request.provider).filter intake.providers.contains with
  | none =>
    rw [enabled] at run
    cases run
  | some provider =>
    rw [enabled] at run
    obtain ⟨_, _, positive, afterAmount⟩ := (Tx.bind_ok_iff _ _ _ _ _).mp run
    obtain ⟨large, rfl⟩ := (Tx.require_ok_iff _ _ _ _ _).mp positive
    refine ⟨of_decide_eq_true large, ?_⟩
    obtain ⟨_, checked, valid, afterUrl⟩ := (Tx.bind_ok_iff _ _ _ _ _).mp afterAmount
    obtain rfl := validateReturnUrl_ok valid
    rw [Tx.bind_run, byIdempotencyKey_run] at afterUrl
    simp only at afterUrl
    cases chosen : (checked.payments.select fun payment => payment.tenantId = tenantId &&
        payment.idempotencyKey = request.idempotencyKey).head? with
    | some existing =>
      rw [chosen] at afterUrl
      obtain ⟨same, replays⟩ := replayCheckout_ok chosen afterUrl
      exact Or.inl ⟨same, existing, replays⟩
    | none =>
      rw [chosen] at afterUrl
      simp only [Tx.bind_run, Tx.savepoint_run] at afterUrl
      cases insertion : insertPayment
          (newPayment tenantId request provider intake.newId clock.inserted) checked with
      | ok result inserted =>
        rw [insertion] at afterUrl
        exact Or.inr ⟨provider, (openCheckout_ok afterUrl).1,
          openCheckout_after_insert insertion afterUrl⟩
      | error raised inserted =>
        -- The savepoint is undone, so the second lookup finds nothing either.
        rw [insertion] at afterUrl
        cases raised <;>
          simp [Tx.bind_run, byIdempotencyKey_run, chosen] at afterUrl

/-- What a request for a checkout leaves: a stored payment answers it, or one is opened. -/
def LeavesCheckout (db : Db) (tenantId newId : Uuid) (request : PaymentRequest) (final : Db) :
    Prop :=
  (final = db ∧ ∃ payment, Replays db tenantId request payment) ∨
    ∃ payment, Opens db tenantId newId request payment final

theorem createPayment_ok {tenantId : Uuid} {intake : PaymentIntake} {request : PaymentRequest}
    {clock : Clock} {db final : Db} {checkout : CheckoutDTO}
    (run : createPayment tenantId intake request clock db = .ok checkout final) :
    LeavesCheckout db tenantId intake.newId request final := by
  obtain ⟨_, replayed | ⟨provider, _, opens⟩⟩ := createPayment_cases run
  · exact Or.inl replayed
  · exact Or.inr ⟨_, opens⟩

/-! ## Subscription side of a payment -/

/-- `payment.subscription_id or UUID(payment.reference)`. -/
def subscriptionIdOf (payment : Payment) : Option Uuid :=
  match payment.subscriptionId with
  | some id => some id
  | none => Uuid.ofStr? payment.reference

def lockedSubscription (payment : Payment) : BillingTx (Option Subscription) := do
  match subscriptionIdOf payment with
  | none => throw .valueError
  | some id =>
    let db ← get
    pure ((db.subscriptions.get id).filter fun subscription =>
      subscription.tenantId = payment.tenantId)

/-- The row `_drop_pending_subscription` leaves. -/
def droppedRow (subscription : Subscription) (target : Closing) (now : DateTime) : Subscription :=
  if target = .expired then { subscription with status := .expired }
  else { subscription with status := .canceled, canceledAt := some now }

def dropPendingSubscription (payment : Payment) (target : Closing) (clock : Clock) :
    BillingTx Unit := do
  match ← lockedSubscription payment with
  | none => pure ()
  | some subscription =>
    if subscription.status = .pending then
      putSubscription (droppedRow subscription target clock.dropped)

/-- Rows the activation replaces: the tenant's other live subscriptions. -/
def isReplaced (tenantId subscriptionId : Uuid) (other : Subscription) : Bool :=
  other.tenantId = tenantId && other.status.isLive && other.id ≠ subscriptionId

def replacedRow (now : DateTime) (old : Subscription) : Subscription :=
  { old with status := .canceled, canceledAt := some now }

/-- The loop over the replaced rows that extends a period paid early. -/
def startAfter (planId : Uuid) (now : DateTime) (replaced : List Subscription) : DateTime :=
  replaced.foldl (fun start old =>
    if old.planId = planId && start < old.currentPeriodEnd then old.currentPeriodEnd else start) now

def activatedRow (subscription : Subscription) (start finish : DateTime) : Subscription :=
  { subscription with
    status := .active
    cancelAtPeriodEnd := false
    currentPeriodStart := start
    currentPeriodEnd := finish }

def planPeriod (plan : Option Plan) : Period := (plan.map Plan.period).getD .month

def planCode (plan : Option Plan) : String := (plan.map Plan.code).getD ""

def activateSubscription (tenantId : Uuid) (payment : Payment) (clock : Clock) :
    BillingTx Unit := do
  match ← lockedSubscription payment with
  | none => throw (.notFoundError "subscription for payment not found")
  | some subscription =>
    let db ← get
    let plan := db.plans.get subscription.planId
    let replaced := db.subscriptions.select (isReplaced payment.tenantId subscription.id)
    replaced.forM fun old => putSubscription (replacedRow clock.activated old)
    let start := startAfter subscription.planId clock.activated replaced
    match periodEnd start (planPeriod plan) with
    | none => throw .valueError
    | some finish =>
      putSubscription (activatedRow subscription start finish)
      replaced.forM fun old => emit tenantId (.subscriptionReplaced old.id subscription.id)
      emit tenantId (.subscriptionActivated subscription.id (planCode plan) finish)

/-! ## What the subscription side leaves -/

/-- The subscription `_locked_subscription` returns. -/
def paidSubscription (db : Db) (payment : Payment) : Option Subscription :=
  ((subscriptionIdOf payment).bind db.subscriptions.get).filter fun subscription =>
    subscription.tenantId = payment.tenantId

theorem paidSubscription_tenant {db : Db} {payment : Payment} {subscription : Subscription}
    (found : paidSubscription db payment = some subscription) :
    subscription.tenantId = payment.tenantId := by
  have chosen := (Option.filter_eq_some_iff.mp found).2
  simpa using chosen

theorem paidSubscription_get {db : Db} {payment : Payment} {subscription : Subscription}
    (found : paidSubscription db payment = some subscription) :
    subscriptionIdOf payment = some subscription.id ∧
      db.subscriptions.get subscription.id = some subscription := by
  have stored := (Option.filter_eq_some_iff.mp found).1
  obtain ⟨id, named, got⟩ := Option.bind_eq_some_iff.mp stored
  have same : subscription.id = id := Table.key_of_get got
  rw [same]
  exact ⟨named, got⟩

theorem lockedSubscription_ok_iff (payment : Payment) (db final : Db)
    (found : Option Subscription) :
    lockedSubscription payment db = .ok found final ↔
      (subscriptionIdOf payment).isSome = true ∧ found = paidSubscription db payment ∧
        final = db := by
  unfold lockedSubscription paidSubscription
  cases subscriptionIdOf payment with
  | none => simp
  | some id =>
    simp only [Tx.bind_run, Tx.get_run, Tx.pure_run, Option.isSome_some, Option.bind_some,
      EStateM.Result.ok.injEq, true_and]
    constructor
    · rintro ⟨rfl, rfl⟩
      exact ⟨rfl, rfl⟩
    · rintro ⟨rfl, rfl⟩
      exact ⟨rfl, rfl⟩

def droppedSubscriptions (db : Db) (payment : Payment) (target : Closing) (now : DateTime) :
    Table Subscription.id :=
  match paidSubscription db payment with
  | none => db.subscriptions
  | some subscription =>
    if subscription.status = .pending then
      db.subscriptions.put (droppedRow subscription target now)
    else db.subscriptions

theorem droppedRow_closed (subscription : Subscription) (target : Closing) (now : DateTime) :
    (droppedRow subscription target now).status.isLive = false ∧
      (droppedRow subscription target now).status ≠ .pending := by
  unfold droppedRow
  split
  · exact ⟨rfl, by simp⟩
  · exact ⟨rfl, by simp⟩

theorem dropPendingSubscription_ok_iff (payment : Payment) (target : Closing) (clock : Clock)
    (db final : Db) (result : Unit) :
    dropPendingSubscription payment target clock db = .ok result final ↔
      (subscriptionIdOf payment).isSome = true ∧
        final = { db with
          subscriptions := droppedSubscriptions db payment target clock.dropped } := by
  unfold dropPendingSubscription droppedSubscriptions
  simp only [Tx.bind_ok_iff, lockedSubscription_ok_iff]
  cases paid : paidSubscription db payment with
  | none =>
    constructor
    · rintro ⟨_, _, ⟨named, rfl, rfl⟩, done⟩
      cases done
      exact ⟨named, rfl⟩
    · rintro ⟨named, rfl⟩
      exact ⟨none, db, ⟨named, rfl, rfl⟩, rfl⟩
  | some subscription =>
    by_cases pending : subscription.status = .pending
    · have closed := droppedRow_closed subscription target clock.dropped
      have flush := putSubscription_of_closed _ db closed.1 closed.2
      constructor
      · rintro ⟨_, _, ⟨named, rfl, rfl⟩, done⟩
        simp only [pending, if_true] at done
        rw [flush] at done
        cases done
        exact ⟨named, by simp [pending]⟩
      · rintro ⟨named, rfl⟩
        refine ⟨some subscription, db, ⟨named, rfl, rfl⟩, ?_⟩
        simp only [pending, if_true]
        exact flush
    · constructor
      · rintro ⟨_, _, ⟨named, rfl, rfl⟩, done⟩
        simp only [pending, if_false] at done
        cases done
        exact ⟨named, by simp [pending]⟩
      · rintro ⟨named, rfl⟩
        refine ⟨some subscription, db, ⟨named, rfl, rfl⟩, ?_⟩
        simp only [pending, if_false]
        rfl

/-- Everything the activation replaces, canceled. -/
def withoutReplaced (db : Db) (tenantId subscriptionId : Uuid) (now : DateTime) :
    Table Subscription.id :=
  db.subscriptions.mapRows
    (fun row => if isReplaced tenantId subscriptionId row then replacedRow now row else row)
    (by
      intro row
      split
      · rfl
      · rfl)

/-- Start of the period an activation gives. -/
def activationStart (db : Db) (payment : Payment) (subscription : Subscription)
    (now : DateTime) : DateTime :=
  startAfter subscription.planId now
    (db.subscriptions.select (isReplaced payment.tenantId subscription.id))

def activatedSubscriptions (db : Db) (payment : Payment) (subscription : Subscription)
    (now finish : DateTime) : Table Subscription.id :=
  (withoutReplaced db payment.tenantId subscription.id now).put
    (activatedRow subscription (activationStart db payment subscription now) finish)

theorem withoutReplaced_get_self {db : Db} {subscription : Subscription}
    (found : db.subscriptions.get subscription.id = some subscription) (tenantId : Uuid)
    (now : DateTime) :
    (withoutReplaced db tenantId subscription.id now).get subscription.id = some subscription := by
  rw [withoutReplaced, Table.get_mapRows, found]
  simp [isReplaced]

theorem activatedSubscriptions_get {db : Db} {payment : Payment} {subscription : Subscription}
    (found : db.subscriptions.get subscription.id = some subscription) (now finish : DateTime)
    (key : Uuid) :
    (activatedSubscriptions db payment subscription now finish).get key =
      if key = subscription.id then
        some (activatedRow subscription (activationStart db payment subscription now) finish)
      else (withoutReplaced db payment.tenantId subscription.id now).get key := by
  have own : (activatedRow subscription (activationStart db payment subscription now)
      finish).id = subscription.id := rfl
  rw [activatedSubscriptions, Table.get_put, own]
  by_cases here : key = subscription.id
  · rw [if_pos here, if_pos here, here, withoutReplaced_get_self found, Option.map_some]
  · rw [if_neg here, if_neg here]

def activationEvents (db : Db) (tenantId : Uuid) (payment : Payment)
    (subscription : Subscription) (finish : DateTime) : List Event :=
  (db.subscriptions.select (isReplaced payment.tenantId subscription.id)).map
      (fun old => ⟨tenantId, .subscriptionReplaced old.id subscription.id⟩) ++
    [⟨tenantId, .subscriptionActivated subscription.id
      (planCode (db.plans.get subscription.planId)) finish⟩]

private theorem replace_loop (db : Db) (tenantId subscriptionId : Uuid) (now : DateTime) :
    ((db.subscriptions.select (isReplaced tenantId subscriptionId)).forM fun old =>
        putSubscription (replacedRow now old) : BillingTx Unit) db =
      .ok () { db with subscriptions := withoutReplaced db tenantId subscriptionId now } := by
  rw [Tx.forM_run _ _ (fun old current =>
    { current with subscriptions := current.subscriptions.put (replacedRow now old) })
    (fun old current => putSubscription_of_closed _ current rfl (by simp [replacedRow]))]
  have collect : ∀ (olds : List Subscription) (current : Db),
      olds.foldl (fun current old =>
          { current with subscriptions := current.subscriptions.put (replacedRow now old) })
        current =
      { current with
        subscriptions := (olds.map (replacedRow now)).foldl Table.put current.subscriptions } := by
    intro olds
    induction olds with
    | nil => intro current; rfl
    | cons old rest hypothesis =>
      intro current
      rw [List.foldl_cons, hypothesis]
      rfl
  rw [collect, Table.foldl_put_select _ _ (replacedRow now) (fun _ => rfl)]
  rfl

private theorem replaced_events_loop (olds : List Subscription) (tenantId subscriptionId : Uuid)
    (db : Db) :
    (olds.forM fun old => emit tenantId (.subscriptionReplaced old.id subscriptionId) :
        BillingTx Unit) db =
      .ok () { db with
        events := db.events ++
          olds.map fun old => ⟨tenantId, .subscriptionReplaced old.id subscriptionId⟩ } := by
  induction olds generalizing db with
  | nil => simp [List.forM]
  | cons old rest hypothesis =>
    change (emit tenantId _ >>= fun _ => rest.forM fun old => emit tenantId _ :
      BillingTx Unit) db = _
    rw [Tx.bind_run, emit_run]
    simp only [hypothesis, List.append_assoc, List.map_cons, List.singleton_append]

theorem activated_no_conflict (db : Db) (subscription : Subscription)
    (now start finish : DateTime) :
    liveConflict { db with
        subscriptions := withoutReplaced db subscription.tenantId subscription.id now }
      (activatedRow subscription start finish) = false := by
  simp only [liveConflict, Bool.and_eq_false_iff]
  right
  rw [List.any_eq_false]
  intro other member
  obtain ⟨row, _, rfl⟩ := (Table.mem_mapRows _ _ _ _).mp member
  by_cases gone : isReplaced subscription.tenantId subscription.id row = true
  · simp [gone, replacedRow, SubscriptionStatus.isLive]
  · simp only [gone, activatedRow]
    intro conflict
    apply gone
    simp only [Bool.and_eq_true, decide_eq_true_eq] at conflict
    simp only [isReplaced, Bool.and_eq_true, decide_eq_true_eq]
    exact ⟨⟨conflict.1.2, conflict.2⟩, conflict.1.1⟩

theorem activateSubscription_run (tenantId : Uuid) (payment : Payment) (clock : Clock) (db : Db)
    (subscription : Subscription) (paid : paidSubscription db payment = some subscription) :
    activateSubscription tenantId payment clock db =
      match periodEnd (activationStart db payment subscription clock.activated)
          (planPeriod (db.plans.get subscription.planId)) with
      | none => .error .valueError { db with
          subscriptions := withoutReplaced db payment.tenantId subscription.id clock.activated }
      | some finish => .ok () { db with
          subscriptions := activatedSubscriptions db payment subscription clock.activated finish
          events := db.events ++ activationEvents db tenantId payment subscription finish } := by
  have locked : lockedSubscription payment db = .ok (some subscription) db := by
    rw [lockedSubscription_ok_iff]
    exact ⟨by simp [(paidSubscription_get paid).1], paid.symm, rfl⟩
  have flush : ∀ finish,
      putSubscription (activatedRow subscription
          (activationStart db payment subscription clock.activated) finish)
        { db with subscriptions :=
          withoutReplaced db payment.tenantId subscription.id clock.activated } =
      .ok () { db with subscriptions :=
        activatedSubscriptions db payment subscription clock.activated finish } := by
    intro finish
    rw [putSubscription_ok_iff]
    refine ⟨?_, by simp [pendingConflict, activatedRow], rfl⟩
    rw [← paidSubscription_tenant paid]
    exact activated_no_conflict db subscription _ _ finish
  unfold activateSubscription
  rw [Tx.bind_run, locked]
  simp only [Tx.bind_run, Tx.get_run, replace_loop]
  rw [← activationStart]
  cases periodEnd (activationStart db payment subscription clock.activated)
      (planPeriod (db.plans.get subscription.planId)) with
  | none => rfl
  | some finish =>
    simp only [Tx.bind_run, flush, replaced_events_loop, emit_run, activationEvents,
      List.append_assoc]

theorem activateSubscription_ok_iff (tenantId : Uuid) (payment : Payment) (clock : Clock)
    (db final : Db) (result : Unit) :
    activateSubscription tenantId payment clock db = .ok result final ↔
      ∃ subscription finish,
        paidSubscription db payment = some subscription ∧
        periodEnd (activationStart db payment subscription clock.activated)
          (planPeriod (db.plans.get subscription.planId)) = some finish ∧
        final = { db with
          subscriptions := activatedSubscriptions db payment subscription clock.activated finish
          events := db.events ++ activationEvents db tenantId payment subscription finish } := by
  constructor
  · intro run
    cases paid : paidSubscription db payment with
    | none =>
      unfold activateSubscription at run
      obtain ⟨found, copy, locked, rest⟩ := (Tx.bind_ok_iff _ _ _ _ _).mp run
      obtain ⟨_, rfl, rfl⟩ := (lockedSubscription_ok_iff _ _ _ _).mp locked
      rw [paid] at rest
      cases rest
    | some subscription =>
      rw [activateSubscription_run tenantId payment clock db subscription paid] at run
      split at run
      · cases run
      · rename_i finish ends
        cases run
        exact ⟨subscription, finish, rfl, ends, rfl⟩
  · rintro ⟨subscription, finish, paid, ends, rfl⟩
    rw [activateSubscription_run tenantId payment clock db subscription paid, ends]

/-! ## Finalizers -/

def pendingRow (payment : Payment) (providerTxnId : String) (now : DateTime) : Payment :=
  { payment with
    providerTransactionId := some providerTxnId
    status := .pending
    metadata := { payment.metadata with pendingAt := some now } }

def markPending (payment : Payment) (providerTxnId : String) (clock : Clock) :
    BillingTx Payment := do
  assertTransition payment.status .pending
  let pending := pendingRow payment providerTxnId clock.stamp
  putPayment pending
  pure pending

def succeededRow (payment : Payment) (now : DateTime) : Payment :=
  { payment with status := .succeeded, paidAt := some now }

def markSucceeded (tenantId : Uuid) (payment : Payment) (clock : Clock) : BillingTx Payment := do
  assertTransition payment.status .succeeded
  let succeeded := succeededRow payment clock.paid
  putPayment succeeded
  if succeeded.purpose = "subscription" then activateSubscription tenantId succeeded clock
  emit tenantId
    (.paymentSucceeded (paymentEventPayload succeeded) clock.paid (payment.status = .expired))
  audit tenantId "billing.payment.succeeded" payment.id
  pure succeeded

def closedRow (payment : Payment) (target : Closing) (reason : Option String) (now : DateTime) :
    Payment :=
  { payment with
    status := target.status
    failureCode := reason.or payment.failureCode
    metadata := { payment.metadata with closedAt := some now } }

def Closing.payload (target : Closing) (payment : PaymentPayload) (reason : Option String) :
    Payload :=
  match target with
  | .failed => .paymentFailed payment reason
  | .canceled => .paymentCanceled payment
  | .expired => .paymentExpired payment

/-- `_close`. -/
def close (tenantId : Uuid) (payment : Payment) (target : Closing) (reason : Option String)
    (clock : Clock) : BillingTx Payment := do
  assertTransition payment.status target.status
  let closed := closedRow payment target reason clock.stamp
  putPayment closed
  if closed.purpose = "subscription" then dropPendingSubscription closed target clock
  let payload := target.payload (paymentEventPayload closed) reason
  emit tenantId payload
  audit tenantId payload.name payment.id
  pure closed

def markFailed (tenantId : Uuid) (payment : Payment) (reason : String) (clock : Clock) :
    BillingTx Payment :=
  close tenantId payment .failed (some reason) clock

def markCanceledByProvider (tenantId : Uuid) (payment : Payment) (reason : Option String)
    (clock : Clock) : BillingTx Payment :=
  close tenantId payment .canceled reason clock

def markExpired (tenantId : Uuid) (payment : Payment) (clock : Clock) : BillingTx Payment :=
  close tenantId payment .expired none clock

def cancelPayment (tenantId paymentId : Uuid) (clock : Clock) : BillingTx PaymentDTO := do
  let db ← get
  match (db.payments.get paymentId).filter fun payment => payment.tenantId = tenantId with
  | none => throw (.notFoundError ("Payment " ++ Uuid.toStr paymentId ++ " not found"))
  | some payment =>
    let closed ← close tenantId payment .canceled none clock
    pure (paymentDto closed)

/-! ## What a finalizer leaves -/

theorem markPending_ok_iff (payment changed : Payment) (providerTxnId : String) (clock : Clock)
    (db final : Db) :
    markPending payment providerTxnId clock db = .ok changed final ↔
      payment.status = .created ∧ changed = pendingRow payment providerTxnId clock.stamp ∧
        transactionConflict db changed = false ∧
        final = { db with payments := db.payments.put changed } := by
  unfold markPending
  simp only [Tx.bind_ok_iff, assertTransition_ok_iff, putPayment_ok_iff,
    canTransition_pending_iff]
  constructor
  · rintro ⟨_, _, ⟨created, rfl⟩, _, _, ⟨free, rfl⟩, done⟩
    cases done
    exact ⟨created, rfl, free, rfl⟩
  · rintro ⟨created, rfl, free, rfl⟩
    exact ⟨(), db, ⟨created, rfl⟩, (), _, ⟨free, rfl⟩, rfl⟩

/-- The subscriptions and events a success adds to the payment's own. -/
inductive Activates (db : Db) (tenantId : Uuid) (payment : Payment) (clock : Clock) :
    Table Subscription.id → List Event → Prop where
  | other (kind : payment.purpose ≠ "subscription") :
      Activates db tenantId payment clock db.subscriptions []
  | subscription (kind : payment.purpose = "subscription") (subscription : Subscription)
      (finish : DateTime) (paid : paidSubscription db payment = some subscription)
      (ends : periodEnd (activationStart db payment subscription clock.activated)
        (planPeriod (db.plans.get subscription.planId)) = some finish) :
      Activates db tenantId payment clock
        (activatedSubscriptions db payment subscription clock.activated finish)
        (activationEvents db tenantId payment subscription finish)

def successEvent (tenantId : Uuid) (payment : Payment) (paidAt : DateTime) : Event :=
  ⟨tenantId, .paymentSucceeded (paymentEventPayload payment) paidAt (payment.status = .expired)⟩

theorem markSucceeded_ok_iff (tenantId : Uuid) (payment changed : Payment) (clock : Clock)
    (db final : Db) :
    markSucceeded tenantId payment clock db = .ok changed final ↔
      canTransition payment.status .succeeded = true ∧
        changed = succeededRow payment clock.paid ∧ transactionConflict db changed = false ∧
        ∃ subscriptions emitted, Activates db tenantId payment clock subscriptions emitted ∧
          final = { db with
            payments := db.payments.put changed
            subscriptions := subscriptions
            events := db.events ++ emitted ++ [successEvent tenantId payment clock.paid]
            audit := db.audit ++ [⟨tenantId, "billing.payment.succeeded", "payment",
              Uuid.toStr payment.id⟩] } := by
  unfold markSucceeded
  by_cases kind : payment.purpose = "subscription"
  · have purpose : (succeededRow payment clock.paid).purpose = "subscription" := kind
    simp only [Tx.bind_ok_iff, assertTransition_ok_iff, putPayment_ok_iff, purpose, if_true,
      activateSubscription_ok_iff]
    constructor
    · rintro ⟨_, _, ⟨legal, rfl⟩, _, _, ⟨free, rfl⟩, _, _, ⟨subscription, finish, paid, ends, rfl⟩,
        _, _, emitted, _, _, audited, done⟩
      cases emitted
      cases audited
      cases done
      exact ⟨legal, rfl, free, _, _, .subscription kind subscription finish paid ends, rfl⟩
    · rintro ⟨legal, rfl, free, _, _, activates, rfl⟩
      cases activates with
      | other differs => exact absurd kind differs
      | subscription _ subscription finish paid ends =>
        exact ⟨(), db, ⟨legal, rfl⟩, (), _, ⟨free, rfl⟩, (), _,
          ⟨subscription, finish, paid, ends, rfl⟩, (), _, rfl, (), _, rfl, rfl⟩
  · have purpose : ¬ (succeededRow payment clock.paid).purpose = "subscription" := kind
    simp only [Tx.bind_ok_iff, assertTransition_ok_iff, putPayment_ok_iff, purpose, if_false]
    constructor
    · rintro ⟨_, _, ⟨legal, rfl⟩, _, _, ⟨free, rfl⟩, _, _, emitted, _, _, audited, done⟩
      cases emitted
      cases audited
      cases done
      refine ⟨legal, rfl, free, _, _, .other kind, ?_⟩
      rw [List.append_nil]
      rfl
    · rintro ⟨legal, rfl, free, _, _, activates, rfl⟩
      cases activates with
      | subscription same => exact absurd same kind
      | other _ =>
        refine ⟨(), db, ⟨legal, rfl⟩, (), _, ⟨free, rfl⟩, (), _, rfl, (), _, rfl, ?_⟩
        rw [List.append_nil]
        rfl

/-- The subscriptions after a close. -/
def closedSubscriptions (db : Db) (payment : Payment) (target : Closing) (now : DateTime) :
    Table Subscription.id :=
  if payment.purpose = "subscription" then droppedSubscriptions db payment target now
  else db.subscriptions

theorem close_ok_iff (tenantId : Uuid) (payment changed : Payment) (target : Closing)
    (reason : Option String) (clock : Clock) (db final : Db) :
    close tenantId payment target reason clock db = .ok changed final ↔
      canTransition payment.status target.status = true ∧
        changed = closedRow payment target reason clock.stamp ∧
        transactionConflict db changed = false ∧
        (payment.purpose = "subscription" → (subscriptionIdOf payment).isSome = true) ∧
        final = { db with
          payments := db.payments.put changed
          subscriptions := closedSubscriptions db payment target clock.dropped
          events := db.events ++
            [⟨tenantId, target.payload (paymentEventPayload payment) reason⟩]
          audit := db.audit ++ [⟨tenantId, "billing.payment." ++ target.status.code, "payment",
            Uuid.toStr payment.id⟩] } := by
  have name : (target.payload (paymentEventPayload payment) reason).name =
      "billing.payment." ++ target.status.code := by
    cases target with
    | failed => rfl
    | canceled => rfl
    | expired => rfl
  rw [← name]
  unfold close closedSubscriptions
  by_cases kind : payment.purpose = "subscription"
  · have purpose : (closedRow payment target reason clock.stamp).purpose = "subscription" := kind
    simp only [Tx.bind_ok_iff, assertTransition_ok_iff, putPayment_ok_iff, purpose, kind, if_true,
      dropPendingSubscription_ok_iff]
    constructor
    · rintro ⟨_, _, ⟨legal, rfl⟩, _, _, ⟨free, rfl⟩, _, _, ⟨named, rfl⟩, _, _, emitted, _, _,
        audited, done⟩
      cases emitted
      cases audited
      cases done
      exact ⟨legal, rfl, free, fun _ => named, rfl⟩
    · rintro ⟨legal, rfl, free, named, rfl⟩
      exact ⟨(), db, ⟨legal, rfl⟩, (), _, ⟨free, rfl⟩, (), _, ⟨named trivial, rfl⟩, (), _, rfl, (),
        _, rfl, rfl⟩
  · have purpose : ¬ (closedRow payment target reason clock.stamp).purpose = "subscription" := kind
    simp only [Tx.bind_ok_iff, assertTransition_ok_iff, putPayment_ok_iff, purpose, kind, if_false]
    constructor
    · rintro ⟨_, _, ⟨legal, rfl⟩, _, _, ⟨free, rfl⟩, _, _, emitted, _, _, audited, done⟩
      cases emitted
      cases audited
      cases done
      exact ⟨legal, rfl, free, False.elim, rfl⟩
    · rintro ⟨legal, rfl, free, _, rfl⟩
      exact ⟨(), db, ⟨legal, rfl⟩, (), _, ⟨free, rfl⟩, (), _, rfl, (), _, rfl, rfl⟩

/-- Everything a finalizer may do with the payment row it was handed. -/
inductive Moves (db : Db) (tenantId : Uuid) (payment : Payment) : Payment → Db → Prop where
  | pended (providerTxnId : String) (now : DateTime) (created : payment.status = .created)
      (free : transactionConflict db (pendingRow payment providerTxnId now) = false) :
      Moves db tenantId payment (pendingRow payment providerTxnId now)
        { db with payments := db.payments.put (pendingRow payment providerTxnId now) }
  | succeeded (clock : Clock) (legal : canTransition payment.status .succeeded = true)
      (subscriptions : Table Subscription.id) (emitted : List Event)
      (activates : Activates db tenantId payment clock subscriptions emitted) :
      Moves db tenantId payment (succeededRow payment clock.paid)
        { db with
          payments := db.payments.put (succeededRow payment clock.paid)
          subscriptions := subscriptions
          events := db.events ++ emitted ++ [successEvent tenantId payment clock.paid]
          audit := db.audit ++ [⟨tenantId, "billing.payment.succeeded", "payment",
            Uuid.toStr payment.id⟩] }
  | closed (target : Closing) (reason : Option String) (clock : Clock)
      (legal : canTransition payment.status target.status = true) :
      Moves db tenantId payment (closedRow payment target reason clock.stamp)
        { db with
          payments := db.payments.put (closedRow payment target reason clock.stamp)
          subscriptions := closedSubscriptions db payment target clock.dropped
          events := db.events ++
            [⟨tenantId, target.payload (paymentEventPayload payment) reason⟩]
          audit := db.audit ++ [⟨tenantId, "billing.payment." ++ target.status.code, "payment",
            Uuid.toStr payment.id⟩] }

theorem Closing.status_ne_succeeded (target : Closing) : target.status ≠ .succeeded := by
  cases target with
  | _ => decide

theorem moves_of_close {tenantId : Uuid} {payment changed : Payment} {target : Closing}
    {reason : Option String} {clock : Clock} {db final : Db}
    (run : close tenantId payment target reason clock db = .ok changed final) :
    Moves db tenantId payment changed final ∧ changed.status = target.status ∧
      changed.providerTransactionId = payment.providerTransactionId := by
  obtain ⟨legal, rfl, _, _, rfl⟩ := (close_ok_iff _ _ _ _ _ _ _ _).mp run
  exact ⟨.closed target reason clock legal, rfl, rfl⟩

theorem moves_of_markSucceeded {tenantId : Uuid} {payment changed : Payment} {clock : Clock}
    {db final : Db} (run : markSucceeded tenantId payment clock db = .ok changed final) :
    Moves db tenantId payment changed final ∧ changed.status = .succeeded ∧
      changed.providerTransactionId = payment.providerTransactionId := by
  obtain ⟨legal, rfl, _, _, _, activates, rfl⟩ := (markSucceeded_ok_iff _ _ _ _ _ _).mp run
  exact ⟨.succeeded clock legal _ _ activates, rfl, rfl⟩

theorem moves_of_markPending {tenantId : Uuid} {payment changed : Payment} {txnId : String}
    {clock : Clock} {db final : Db}
    (run : markPending payment txnId clock db = .ok changed final) :
    Moves db tenantId payment changed final ∧ changed.status = .pending ∧
      changed.providerTransactionId = some txnId := by
  obtain ⟨created, rfl, free, rfl⟩ := (markPending_ok_iff _ _ _ _ _ _).mp run
  exact ⟨.pended txnId clock.stamp created free, rfl, rfl⟩

theorem Moves.withWebhooks {db final : Db} {tenantId : Uuid} {payment changed : Payment}
    (moves : Moves db tenantId payment changed final) (webhooks : Table PaymentWebhook.key) :
    Moves { db with webhooks := webhooks } tenantId payment changed
      { final with webhooks := webhooks } := by
  cases moves with
  | pended txnId now created free => exact .pended txnId now created free
  | succeeded clock legal subscriptions emitted activates =>
    refine .succeeded clock legal subscriptions emitted ?_
    cases activates with
    | other kind => exact .other kind
    | subscription kind subscription finish paid ends =>
      exact .subscription kind subscription finish paid ends
  | closed target reason clock legal => exact .closed target reason clock legal

theorem Moves.webhooks {db final : Db} {tenantId : Uuid} {payment changed : Payment}
    (moves : Moves db tenantId payment changed final) : final.webhooks = db.webhooks := by
  cases moves with
  | _ => rfl

theorem Moves.plans {db final : Db} {tenantId : Uuid} {payment changed : Payment}
    (moves : Moves db tenantId payment changed final) : final.plans = db.plans := by
  cases moves with
  | _ => rfl

theorem Moves.payments {db final : Db} {tenantId : Uuid} {payment changed : Payment}
    (moves : Moves db tenantId payment changed final) :
    final.payments = db.payments.put changed := by
  cases moves with
  | _ => rfl

/-- How a payment row may change: its identity stays, its status follows an edge. -/
structure Advances (old new : Payment) : Prop where
  id : new.id = old.id
  tenantId : new.tenantId = old.tenantId
  subscriptionId : new.subscriptionId = old.subscriptionId
  purpose : new.purpose = old.purpose
  reference : new.reference = old.reference
  amount : new.amount = old.amount
  provider : new.provider = old.provider
  idempotencyKey : new.idempotencyKey = old.idempotencyKey
  status : new = old ∨ canTransition old.status new.status = true

theorem Advances.refl (payment : Payment) : Advances payment payment :=
  ⟨rfl, rfl, rfl, rfl, rfl, rfl, rfl, rfl, Or.inl rfl⟩

theorem Moves.advances {db final : Db} {tenantId : Uuid} {payment changed : Payment}
    (moves : Moves db tenantId payment changed final) :
    Advances payment changed ∧ canTransition payment.status changed.status = true := by
  cases moves with
  | pended txnId now created =>
    have legal : canTransition payment.status .pending = true :=
      (canTransition_pending_iff _).mpr created
    exact ⟨⟨rfl, rfl, rfl, rfl, rfl, rfl, rfl, rfl, Or.inr legal⟩, legal⟩
  | succeeded clock legal =>
    exact ⟨⟨rfl, rfl, rfl, rfl, rfl, rfl, rfl, rfl, Or.inr legal⟩, legal⟩
  | closed target reason clock legal =>
    exact ⟨⟨rfl, rfl, rfl, rfl, rfl, rfl, rfl, rfl, Or.inr legal⟩, legal⟩

theorem Moves.get {db final : Db} {tenantId : Uuid} {payment changed : Payment}
    (moves : Moves db tenantId payment changed final)
    (found : db.payments.get payment.id = some payment) (id : Uuid) :
    final.payments.get id = if id = payment.id then some changed else db.payments.get id := by
  rw [moves.payments, Table.get_put, moves.advances.1.id]
  by_cases same : id = payment.id
  · simp [same, found]
  · simp [same]

/-! ## When a finalizer raises -/

theorem activateSubscription_error {tenantId : Uuid} {payment : Payment} {clock : Clock}
    {db copy : Db} {raised : Exc}
    (run : activateSubscription tenantId payment clock db = .error raised copy) :
    raised.isInvariantViolation = false := by
  cases paid : paidSubscription db payment with
  | some subscription =>
    rw [activateSubscription_run tenantId payment clock db subscription paid] at run
    split at run
    · cases run
      rfl
    · cases run
  | none =>
    unfold activateSubscription lockedSubscription at run
    cases named : subscriptionIdOf payment with
    | none =>
      rw [named] at run
      cases run
      rfl
    | some id =>
      have absent : ((db.subscriptions.get id).filter fun subscription =>
          decide (subscription.tenantId = payment.tenantId)) = none := by
        simpa [paidSubscription, named] using paid
      rw [named] at run
      simp only [Tx.bind_run, Tx.get_run, Tx.pure_run, absent] at run
      cases run
      rfl

theorem dropPendingSubscription_error {payment : Payment} {target : Closing} {clock : Clock}
    {db copy : Db} {raised : Exc}
    (run : dropPendingSubscription payment target clock db = .error raised copy) :
    raised = .valueError := by
  cases named : subscriptionIdOf payment with
  | some id =>
    have done := (dropPendingSubscription_ok_iff payment target clock db _ ()).mpr
      ⟨by simp [named], rfl⟩
    rw [done] at run
    cases run
  | none =>
    unfold dropPendingSubscription lockedSubscription at run
    rw [named] at run
    cases run
    rfl

theorem markSucceeded_invariantViolation {tenantId : Uuid} {payment : Payment} {clock : Clock}
    {db copy : Db} {raised : Exc}
    (run : markSucceeded tenantId payment clock db = .error raised copy)
    (violation : raised.isInvariantViolation = true) :
    copy = db ∧ canTransition payment.status .succeeded = false := by
  unfold markSucceeded at run
  obtain refused | ⟨_, _, _, rest⟩ := (Tx.bind_error_iff _ _ _ _ _).mp run
  · obtain ⟨illegal, _, rfl⟩ := (Tx.require_error_iff _ _ _ _ _).mp refused
    exact ⟨rfl, illegal⟩
  obtain refused | ⟨_, _, _, rest⟩ := (Tx.bind_error_iff _ _ _ _ _).mp rest
  · rw [putPayment_error refused] at violation
    cases violation
  by_cases kind : (succeededRow payment clock.paid).purpose = "subscription"
  · simp only [kind, if_true] at rest
    obtain refused | ⟨_, _, _, rest⟩ := (Tx.bind_error_iff _ _ _ _ _).mp rest
    · rw [activateSubscription_error refused] at violation
      cases violation
    · cases rest
  · simp only [kind, if_false] at rest
    cases rest

theorem close_invariantViolation {tenantId : Uuid} {payment : Payment} {target : Closing}
    {reason : Option String} {clock : Clock} {db copy : Db} {raised : Exc}
    (run : close tenantId payment target reason clock db = .error raised copy)
    (violation : raised.isInvariantViolation = true) :
    copy = db ∧ canTransition payment.status target.status = false := by
  unfold close at run
  obtain refused | ⟨_, _, _, rest⟩ := (Tx.bind_error_iff _ _ _ _ _).mp run
  · obtain ⟨illegal, _, rfl⟩ := (Tx.require_error_iff _ _ _ _ _).mp refused
    exact ⟨rfl, illegal⟩
  obtain refused | ⟨_, _, _, rest⟩ := (Tx.bind_error_iff _ _ _ _ _).mp rest
  · rw [putPayment_error refused] at violation
    cases violation
  by_cases kind : (closedRow payment target reason clock.stamp).purpose = "subscription"
  · simp only [kind, if_true] at rest
    obtain refused | ⟨_, _, _, rest⟩ := (Tx.bind_error_iff _ _ _ _ _).mp rest
    · rw [dropPendingSubscription_error refused] at violation
      cases violation
    · cases rest
  · simp only [kind, if_false] at rest
    cases rest

theorem markPending_invariantViolation {payment : Payment} {txnId : String} {clock : Clock}
    {db copy : Db} {raised : Exc} (run : markPending payment txnId clock db = .error raised copy)
    (violation : raised.isInvariantViolation = true) :
    copy = db ∧ payment.status ≠ .created := by
  unfold markPending at run
  obtain refused | ⟨_, _, _, rest⟩ := (Tx.bind_error_iff _ _ _ _ _).mp run
  · obtain ⟨illegal, _, rfl⟩ := (Tx.require_error_iff _ _ _ _ _).mp refused
    refine ⟨rfl, ?_⟩
    intro created
    rw [created] at illegal
    cases illegal
  obtain refused | ⟨_, _, _, done⟩ := (Tx.bind_error_iff _ _ _ _ _).mp rest
  · rw [putPayment_error refused] at violation
    cases violation
  · cases done

end BackendCore.Billing
