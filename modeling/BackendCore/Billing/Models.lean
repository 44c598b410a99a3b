import BackendCore.Lib.Table
import BackendCore.Lib.Transaction
import BackendCore.Shared.Errors

/-!
# Billing tables

The rows of `core/billing/models.py` with the columns the billing code reads,
and the database those rows live in.  The unique indexes of the migrations are
checked where a row is flushed: a violation raises `IntegrityError`.  Events are
queued with the transaction and published when it commits, so the committed
database carries the published events in order.
-/

set_option autoImplicit false

namespace BackendCore.Billing

open BackendCore.Python

/-! ## Enumerations -/

inductive PaymentStatus where
  | created
  | pending
  | succeeded
  | failed
  | canceled
  | expired
  deriving DecidableEq, Repr

def PaymentStatus.code : PaymentStatus → String
  | .created => "created"
  | .pending => "pending"
  | .succeeded => "succeeded"
  | .failed => "failed"
  | .canceled => "canceled"
  | .expired => "expired"

inductive SubscriptionStatus where
  | pending
  | trialing
  | active
  | pastDue
  | canceled
  | expired
  deriving DecidableEq, Repr

/-- `LIVE_SUBSCRIPTION_STATES`. -/
def SubscriptionStatus.isLive : SubscriptionStatus → Bool
  | .trialing => true
  | .active => true
  | .pastDue => true
  | _ => false

inductive WebhookStatus where
  | received
  | processed
  | rejected
  | failed
  deriving DecidableEq, Repr

inductive Provider where
  | payme
  | click
  | stripe
  deriving DecidableEq, Repr

def Provider.code : Provider → String
  | .payme => "payme"
  | .click => "click"
  | .stripe => "stripe"

def Provider.ofCode? (code : String) : Option Provider :=
  [Provider.payme, .click, .stripe].find? fun provider => provider.code = code

inductive Period where
  | month
  | year
  deriving DecidableEq, Repr

/-! ## Rows -/

structure Plan where
  id : Uuid
  code : String
  price : Money
  period : Period
  trialDays : Int
  isActive : Bool
  deriving DecidableEq

structure Subscription where
  id : Uuid
  tenantId : Uuid
  planId : Uuid
  status : SubscriptionStatus
  price : Money
  currentPeriodStart : DateTime
  currentPeriodEnd : DateTime
  cancelAtPeriodEnd : Bool
  canceledAt : Option DateTime
  deriving DecidableEq

/-- The keys of the JSON column `metadata`.  A time is stored as its ISO 8601
text, from which it is read back unchanged. -/
structure PaymentMetadata where
  checkoutUrl : Option String
  expiresAt : Option DateTime
  pendingAt : Option DateTime
  closedAt : Option DateTime
  deriving DecidableEq

structure Payment where
  id : Uuid
  tenantId : Uuid
  subscriptionId : Option Uuid
  purpose : String
  reference : String
  amount : Money
  status : PaymentStatus
  provider : Provider
  providerTransactionId : Option String
  idempotencyKey : String
  failureCode : Option String
  paidAt : Option DateTime
  metadata : PaymentMetadata
  createdAt : DateTime
  deriving DecidableEq

structure PaymentWebhook where
  provider : Provider
  dedupKey : String
  tenantId : Option Uuid
  paymentId : Option Uuid
  rawBody : String
  headers : List (String × String)
  signatureValid : Bool
  status : WebhookStatus
  error : Option String
  processedAt : Option DateTime
  deriving DecidableEq

def PaymentWebhook.key (webhook : PaymentWebhook) : Provider × String :=
  (webhook.provider, webhook.dedupKey)

structure AuditRow where
  tenantId : Uuid
  action : String
  objectType : String
  objectId : String
  deriving DecidableEq

/-! ## Events -/

/-- `_payment_event_payload`. -/
structure PaymentPayload where
  paymentId : Uuid
  amount : Money
  purpose : String
  reference : String
  provider : Provider
  deriving DecidableEq

inductive Payload where
  | paymentCreated (payment : PaymentPayload)
  | paymentSucceeded (payment : PaymentPayload) (paidAt : DateTime) (late : Bool)
  | paymentFailed (payment : PaymentPayload) (reason : Option String)
  | paymentCanceled (payment : PaymentPayload)
  | paymentExpired (payment : PaymentPayload)
  | subscriptionActivated (subscriptionId : Uuid) (planCode : String) (currentPeriodEnd : DateTime)
  | subscriptionReplaced (subscriptionId replacedBy : Uuid)
  | subscriptionCanceled (subscriptionId : Uuid) (planCode : String)
  | subscriptionEnded (subscriptionId : Uuid) (planCode : String) (status : SubscriptionStatus)
  deriving DecidableEq

def Payload.name : Payload → String
  | .paymentCreated _ => "billing.payment.created"
  | .paymentSucceeded _ _ _ => "billing.payment.succeeded"
  | .paymentFailed _ _ => "billing.payment.failed"
  | .paymentCanceled _ => "billing.payment.canceled"
  | .paymentExpired _ => "billing.payment.expired"
  | .subscriptionActivated _ _ _ => "billing.subscription.activated"
  | .subscriptionReplaced _ _ => "billing.subscription.replaced"
  | .subscriptionCanceled _ _ => "billing.subscription.canceled"
  | .subscriptionEnded _ _ _ => "billing.subscription.ended"

/-- The payment an event is about. -/
def Payload.paymentId : Payload → Option Uuid
  | .paymentCreated payment => some payment.paymentId
  | .paymentSucceeded payment _ _ => some payment.paymentId
  | .paymentFailed payment _ => some payment.paymentId
  | .paymentCanceled payment => some payment.paymentId
  | .paymentExpired payment => some payment.paymentId
  | _ => none

structure Event where
  tenantId : Uuid
  payload : Payload
  deriving DecidableEq

/-! ## The database -/

structure Db where
  plans : Table Plan.id
  subscriptions : Table Subscription.id
  payments : Table Payment.id
  webhooks : Table PaymentWebhook.key
  audit : List AuditRow
  events : List Event

abbrev BillingTx := Tx Exc Db

/-- `uq_subscriptions_one_live_per_tenant`. -/
def liveConflict (db : Db) (subscription : Subscription) : Bool :=
  subscription.status.isLive && db.subscriptions.rows.any fun other =>
    other.id ≠ subscription.id && other.tenantId = subscription.tenantId && other.status.isLive

/-- `uq_subscriptions_one_pending_per_tenant`. -/
def pendingConflict (db : Db) (subscription : Subscription) : Bool :=
  subscription.status = .pending && db.subscriptions.rows.any fun other =>
    other.id ≠ subscription.id && other.tenantId = subscription.tenantId &&
      other.status = .pending

/-- `uq_payments_provider_provider_transaction_id`. -/
def transactionConflict (db : Db) (payment : Payment) : Bool :=
  payment.providerTransactionId.isSome && db.payments.rows.any fun other =>
    other.id ≠ payment.id && other.provider = payment.provider &&
      other.providerTransactionId = payment.providerTransactionId

/-- `uq_payments_tenant_id_idempotency_key`. -/
def idempotencyConflict (db : Db) (payment : Payment) : Bool :=
  db.payments.rows.any fun other =>
    other.id ≠ payment.id && other.tenantId = payment.tenantId &&
      other.idempotencyKey = payment.idempotencyKey

def putSubscription (subscription : Subscription) : BillingTx Unit := do
  let db ← get
  Tx.require (!liveConflict db subscription && !pendingConflict db subscription) .integrityError
  modify fun db => { db with subscriptions := db.subscriptions.put subscription }

def insertSubscription (subscription : Subscription) : BillingTx Unit := do
  let db ← get
  if fresh : db.subscriptions.get subscription.id = none then
    Tx.require (!liveConflict db subscription && !pendingConflict db subscription) .integrityError
    modify fun _ => { db with subscriptions := db.subscriptions.insert subscription fresh }
  else throw .integrityError

def putPayment (payment : Payment) : BillingTx Unit := do
  let db ← get
  Tx.require (!transactionConflict db payment) .integrityError
  modify fun db => { db with payments := db.payments.put payment }

def insertPayment (payment : Payment) : BillingTx Unit := do
  let db ← get
  if fresh : db.payments.get payment.id = none then
    Tx.require (!transactionConflict db payment && !idempotencyConflict db payment) .integrityError
    modify fun _ => { db with payments := db.payments.insert payment fresh }
  else throw .integrityError

def putWebhook (webhook : PaymentWebhook) : BillingTx Unit :=
  modify fun db => { db with webhooks := db.webhooks.put webhook }

/-- `Service.emit` in a context of the given tenant. -/
def emit (tenantId : Uuid) (payload : Payload) : BillingTx Unit :=
  modify fun db => { db with events := db.events ++ [⟨tenantId, payload⟩] }

/-- `AuditService.record` for a payment. -/
def audit (tenantId : Uuid) (action : String) (paymentId : Uuid) : BillingTx Unit :=
  modify fun db =>
    { db with audit := db.audit ++ [⟨tenantId, action, "payment", Uuid.toStr paymentId⟩] }

/-! ## What a flush leaves -/

theorem putSubscription_ok_iff (subscription : Subscription) (db final : Db) (result : Unit) :
    putSubscription subscription db = .ok result final ↔
      liveConflict db subscription = false ∧ pendingConflict db subscription = false ∧
        final = { db with subscriptions := db.subscriptions.put subscription } := by
  unfold putSubscription
  simp only [Tx.bind_ok_iff, Tx.require_ok_iff]
  constructor
  · rintro ⟨_, _, ⟨rfl, rfl⟩, _, _, ⟨passes, rfl⟩, done⟩
    rw [Bool.and_eq_true, Bool.not_eq_true', Bool.not_eq_true'] at passes
    cases done
    exact ⟨passes.1, passes.2, rfl⟩
  · rintro ⟨live, pending, rfl⟩
    exact ⟨db, db, rfl, (), db, ⟨by simp [live, pending], rfl⟩, rfl⟩

theorem putSubscription_of_closed (subscription : Subscription) (db : Db)
    (notLive : subscription.status.isLive = false) (notPending : subscription.status ≠ .pending) :
    putSubscription subscription db =
      .ok () { db with subscriptions := db.subscriptions.put subscription } := by
  rw [putSubscription_ok_iff]
  exact ⟨by simp [liveConflict, notLive], by simp [pendingConflict, notPending], rfl⟩

/-- The flush of a new row: its id is free and neither unique index refuses it. -/
theorem insertRow_ok_iff {free : Prop} [Decidable free] (first second : Bool) (left : free → Db)
    (db final : Db) (result : Unit) :
    (if fresh : free then do
        Tx.require (!first && !second) .integrityError
        modify fun _ => left fresh
      else throw .integrityError : BillingTx Unit) db = .ok result final ↔
      ∃ fresh : free, first = false ∧ second = false ∧ final = left fresh := by
  by_cases fresh : free
  · simp only [dif_pos fresh, Tx.bind_ok_iff, Tx.require_ok_iff]
    constructor
    · rintro ⟨_, _, ⟨passes, rfl⟩, done⟩
      rw [Bool.and_eq_true, Bool.not_eq_true', Bool.not_eq_true'] at passes
      cases done
      exact ⟨fresh, passes.1, passes.2, rfl⟩
    · rintro ⟨_, clear, alone, rfl⟩
      exact ⟨(), db, ⟨by simp [clear, alone], rfl⟩, rfl⟩
  · simp [fresh]

theorem insertSubscription_ok_iff (subscription : Subscription) (db final : Db) (result : Unit) :
    insertSubscription subscription db = .ok result final ↔
      ∃ fresh : db.subscriptions.get subscription.id = none,
        liveConflict db subscription = false ∧ pendingConflict db subscription = false ∧
          final = { db with subscriptions := db.subscriptions.insert subscription fresh } := by
  unfold insertSubscription
  rw [Tx.bind_run, Tx.get_run]
  exact insertRow_ok_iff _ _ _ _ _ _

theorem insertSubscription_error {subscription : Subscription} {db copy : Db} {raised : Exc}
    (run : insertSubscription subscription db = .error raised copy) :
    raised = .integrityError := by
  unfold insertSubscription at run
  rw [Tx.bind_run, Tx.get_run] at run
  by_cases fresh : db.subscriptions.get subscription.id = none
  · simp only [dif_pos fresh] at run
    obtain refused | ⟨_, _, _, written⟩ := (Tx.bind_error_iff _ _ _ _ _).mp run
    · exact ((Tx.require_error_iff _ _ _ _ _).mp refused).2.1
    · cases written
  · simp only [dif_neg fresh] at run
    cases run
    rfl

theorem putPayment_ok_iff (payment : Payment) (db final : Db) (result : Unit) :
    putPayment payment db = .ok result final ↔
      transactionConflict db payment = false ∧
        final = { db with payments := db.payments.put payment } := by
  unfold putPayment
  simp only [Tx.bind_ok_iff, Tx.require_ok_iff]
  constructor
  · rintro ⟨_, _, ⟨rfl, rfl⟩, _, _, ⟨passes, rfl⟩, done⟩
    rw [Bool.not_eq_true'] at passes
    cases done
    exact ⟨passes, rfl⟩
  · rintro ⟨passes, rfl⟩
    exact ⟨db, db, rfl, (), db, ⟨by simp [passes], rfl⟩, rfl⟩

theorem putPayment_error {payment : Payment} {db copy : Db} {raised : Exc}
    (run : putPayment payment db = .error raised copy) : raised = .integrityError := by
  unfold putPayment at run
  rw [Tx.bind_run, Tx.get_run] at run
  obtain refused | ⟨_, _, _, written⟩ := (Tx.bind_error_iff _ _ _ _ _).mp run
  · exact ((Tx.require_error_iff _ _ _ _ _).mp refused).2.1
  · cases written

theorem insertPayment_ok_iff (payment : Payment) (db final : Db) (result : Unit) :
    insertPayment payment db = .ok result final ↔
      ∃ fresh : db.payments.get payment.id = none,
        transactionConflict db payment = false ∧ idempotencyConflict db payment = false ∧
          final = { db with payments := db.payments.insert payment fresh } := by
  unfold insertPayment
  rw [Tx.bind_run, Tx.get_run]
  exact insertRow_ok_iff _ _ _ _ _ _

@[simp] theorem putWebhook_run (webhook : PaymentWebhook) (db : Db) :
    putWebhook webhook db = .ok () { db with webhooks := db.webhooks.put webhook } := rfl

@[simp] theorem emit_run (tenantId : Uuid) (payload : Payload) (db : Db) :
    emit tenantId payload db = .ok () { db with events := db.events ++ [⟨tenantId, payload⟩] } :=
  rfl

@[simp] theorem audit_run (tenantId : Uuid) (action : String) (paymentId : Uuid) (db : Db) :
    audit tenantId action paymentId db =
      .ok () { db with
        audit := db.audit ++ [⟨tenantId, action, "payment", Uuid.toStr paymentId⟩] } := rfl

/-- The readings of `datetime.now(UTC)` in one transaction, named after the
function that takes them; `inserted` is the database's `now()`. -/
structure Clock where
  stamp : DateTime
  paid : DateTime
  activated : DateTime
  dropped : DateTime
  processed : DateTime
  now : DateTime
  subscribed : DateTime
  inserted : DateTime

end BackendCore.Billing
