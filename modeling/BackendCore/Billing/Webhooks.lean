import BackendCore.Billing.Adapters.Payme
import BackendCore.Billing.Adapters.Click
import BackendCore.Billing.Adapters.Stripe

/-!
# WebhookProcessor

`core/billing/webhooks.py`: a callback is parsed, claims its row of the
`(provider, dedup_key)` ledger and runs its transition, all in one transaction;
a duplicate is answered from the ledger row and the payment as they are now.
-/

set_option autoImplicit false

namespace BackendCore.Billing

open BackendCore.Python

/-! ## The application -/

inductive Adapter where
  | payme (config : Payme.Config)
  | click (config : Click.Config)
  | stripe (config : Stripe.Config)

def Adapter.code : Adapter → Provider
  | .payme _ => .payme
  | .click _ => .click
  | .stripe _ => .stripe

/-- `moment` is `time.time()` at the call, read by the Stripe adapter only. -/
def Adapter.parseWebhook (adapter : Adapter) (runtime : Runtime) (moment : ℚ)
    (raw : RawWebhook) : Except Exc ProviderCallback :=
  match adapter with
  | .payme config => Payme.parseWebhook runtime config raw
  | .click config => Click.parseWebhook runtime config raw
  | .stripe config => Stripe.parseWebhook runtime config moment raw

def Adapter.buildWebhookResponse (adapter : Adapter) (outcome : CallbackOutcome) :
    Except Exc WebhookResponse :=
  match adapter with
  | .payme _ => Payme.buildWebhookResponse outcome
  | .click _ => .ok (Click.buildWebhookResponse outcome)
  | .stripe _ => .ok (Stripe.buildWebhookResponse outcome)

structure Settings where
  billingAutoSubscribe : Bool
  billingDefaultPlanCode : String
  paymentCheckoutTtlSeconds : Nat

structure App where
  runtime : Runtime
  settings : Settings
  payme : Option Payme.Config
  click : Option Click.Config
  stripe : Option Stripe.Config

/-- `self._providers.get(provider_code)`. -/
def App.adapter (app : App) (providerCode : String) : Option Adapter :=
  match Provider.ofCode? providerCode with
  | some .payme => app.payme.map .payme
  | some .click => app.click.map .click
  | some .stripe => app.stripe.map .stripe
  | none => none

/-! ## Locating the payment -/

/-- The payment of the id the callback refers to, if it is of its provider. -/
def byReference (db : Db) (callback : ProviderCallback) : Option Payment :=
  ((Uuid.ofStr? callback.paymentReference).bind db.payments.get).filter fun payment =>
    payment.provider = callback.provider

/-- The payment whose recorded transaction id the callback carries. -/
def byTransaction (db : Db) (callback : ProviderCallback) : Except Exc (Option Payment) :=
  match callback.providerTxnId.filter fun txnId => txnId ≠ "" with
  | none => .ok none
  | some txnId =>
    match db.payments.select fun payment =>
        payment.provider = callback.provider &&
          payment.providerTransactionId = some txnId with
    | [] => .ok none
    | [payment] => .ok (some payment)
    | _ => .error .valueError

/-- `_find_payment` over the committed rows. -/
def locate (db : Db) (callback : ProviderCallback) : Except Exc (Option Payment) :=
  match byReference db callback with
  | some payment => .ok (some payment)
  | none => byTransaction db callback

/-- The payment a callback locates. -/
def locatedPayment (db : Db) (callback : ProviderCallback) : Option Payment :=
  match locate db callback with
  | .ok found => found
  | .error _ => none

def findPayment (callback : ProviderCallback) : BillingTx (Option Payment) := do
  let db ← get
  Tx.liftExcept (locate db callback)

/-- `_amount_ok`. -/
def amountOk (callback : ProviderCallback) (payment : Payment) : Bool :=
  match callback.amount with
  | none => true
  | some amount => amount = payment.amount

/-! ## The ledger -/

def redactHeader (entry : String × String) : String × String :=
  let lowered := lower entry.1
  if lowered = "authorization" then
    let scheme := String.ofList (entry.2.toList.takeWhile (· ≠ ' '))
    (entry.1, strip (scheme ++ " [redacted]"))
  else if ["cookie", "proxy-authorization", "x-api-key"].contains lowered then
    (entry.1, "[redacted]")
  else entry

/-- `_redact_headers`. -/
def redactHeaders (headers : List (String × String)) : List (String × String) :=
  headers.map redactHeader

def dedupKey (callback : ProviderCallback) : String :=
  callback.providerTxnId.getD "None" ++ ":" ++ callback.action.code

def receivedWebhook (provider : Provider) (key : String) (raw : RawWebhook) : PaymentWebhook where
  provider := provider
  dedupKey := key
  tenantId := none
  paymentId := none
  rawBody := raw.body
  headers := redactHeaders raw.headers
  signatureValid := true
  status := .received
  error := none
  processedAt := none

/-- `INSERT ... ON CONFLICT (provider, dedup_key) DO NOTHING`; whether it inserted. -/
def insertWebhook (webhook : PaymentWebhook) : BillingTx Bool := do
  let db ← get
  modify fun db => { db with webhooks := db.webhooks.insertNew webhook }
  pure (db.webhooks.get webhook.key).isNone

/-- `_claim_ledger`. -/
def claimLedger (provider : Provider) (key : String) (raw : RawWebhook) :
    BillingTx (Option PaymentWebhook) := do
  let webhook := receivedWebhook provider key raw
  if ← insertWebhook webhook then pure (some webhook) else pure none

/-- `str(sorted(raw.form.items()))`. -/
def formText (runtime : Runtime) (form : List (String × String)) : String :=
  let shown := Json.reprStr runtime.unicode.isPrintableChar
  let sorted := form.mergeSort fun left right =>
    left.1 < right.1 || (left.1 = right.1 && (left.2 < right.2 || left.2 = right.2))
  "[" ++ ", ".intercalate (sorted.map fun entry =>
    "(" ++ shown entry.1 ++ ", " ++ shown entry.2 ++ ")") ++ "]"

def rejectedText (runtime : Runtime) (raw : RawWebhook) : String :=
  raw.body ++ "|" ++ formText runtime raw.form

def rejectedKey (runtime : Runtime) (raw : RawWebhook) : String :=
  "rejected:" ++ runtime.sha256Hex (rejectedText runtime raw)

def rejectedBodyLimit : Nat := 4096

def rejectedWebhook (runtime : Runtime) (provider : Provider) (raw : RawWebhook)
    (now : DateTime) : PaymentWebhook where
  provider := provider
  dedupKey := rejectedKey runtime raw
  tenantId := none
  paymentId := none
  rawBody := String.ofList (raw.body.toList.take rejectedBodyLimit)
  headers := redactHeaders raw.headers
  signatureValid := false
  status := .rejected
  error := some "invalid signature"
  processedAt := some now

/-- `_journal_rejected`. -/
def journalRejected (runtime : Runtime) (provider : Provider) (raw : RawWebhook)
    (clock : Clock) : BillingTx Unit := do
  let _ ← Tx.liftExcept (encode runtime (rejectedText runtime raw))
  let _ ← insertWebhook (rejectedWebhook runtime provider raw clock.processed)
  pure ()

/-! ## Handling a callback -/

/-- `_handle_read_only`. -/
def handleReadOnly (callback : ProviderCallback) : BillingTx CallbackOutcome := do
  if callback.signatureValid then
    match ← findPayment callback with
    | none => pure ⟨.notFound, none, callback⟩
    | some payment =>
      let dto := some (paymentDto payment)
      if amountOk callback payment then
        if callback.action = .check ∧ payment.status ≠ .created ∧ payment.status ≠ .pending then
          pure ⟨.invalidState, dto, callback⟩
        else pure ⟨.ok, dto, callback⟩
      else pure ⟨.amountMismatch, dto, callback⟩
  else pure ⟨.invalidSignature, none, callback⟩

/-- `_apply_action`, in the context of the payment's tenant. -/
def applyAction (payment : Payment) (callback : ProviderCallback) (clock : Clock) :
    BillingTx Payment :=
  match callback.action with
  | .create => do
      Tx.require (decide (payment.status = .created))
        (.invariantViolationError ("create for payment in state " ++ payment.status.code))
      markPending payment (callback.providerTxnId.getD "") clock
  | .confirm => markSucceeded payment.tenantId payment clock
  | .cancel => markCanceledByProvider payment.tenantId payment callback.reason clock
  | action => throw (.invariantViolationError ("unsupported action: " ++ action.code))

def boundWebhook (webhook : PaymentWebhook) (payment : Payment) : PaymentWebhook :=
  { webhook with tenantId := some payment.tenantId, paymentId := some payment.id }

def settledWebhook (webhook : PaymentWebhook) (status : WebhookStatus) (error : Option String)
    (now : DateTime) : PaymentWebhook :=
  { webhook with status := status, error := error, processedAt := some now }

/-- `_process_transition`. -/
def processTransition (callback : ProviderCallback) (webhook : PaymentWebhook) (clock : Clock) :
    BillingTx CallbackOutcome := do
  match ← findPayment callback with
  | none =>
    putWebhook (settledWebhook webhook .rejected (some "payment not found") clock.processed)
    pure ⟨.notFound, none, callback⟩
  | some payment =>
    let bound := boundWebhook webhook payment
    if amountOk callback payment then
      match ← Tx.attempt (applyAction payment callback clock) with
      | .ok changed =>
        putWebhook (settledWebhook bound .processed none clock.processed)
        pure ⟨.ok, some (paymentDto changed), callback⟩
      | .error (.invariantViolationError detail) =>
        putWebhook (settledWebhook bound .failed (some detail) clock.processed)
        pure ⟨.invalidState, some (paymentDto payment), callback⟩
      | .error raised => throw raised
    else
      putWebhook (settledWebhook bound .rejected (some "amount mismatch") clock.processed)
      pure ⟨.amountMismatch, some (paymentDto payment), callback⟩

/-- What `_replay` answers from a ledger row and the payment it names. -/
def replayOutcome (webhook : PaymentWebhook) (payment : Option Payment)
    (callback : ProviderCallback) : CallbackOutcome :=
  let dto := payment.map paymentDto
  match webhook.status, payment with
  | .rejected, _ =>
    if startswith (webhook.error.getD "") "amount" then ⟨.amountMismatch, dto, callback⟩
    else ⟨.notFound, dto, callback⟩
  | .failed, _ => ⟨.invalidState, dto, callback⟩
  | _, none => ⟨.notFound, none, callback⟩
  | _, some _ => ⟨.alreadyProcessed, dto, callback⟩

/-- `_replay`. -/
def replay (provider : Provider) (key : String) (callback : ProviderCallback) :
    BillingTx CallbackOutcome := do
  let db ← get
  match db.webhooks.get (provider, key) with
  | none => throw (.unexpected "NoResultFound")
  | some webhook =>
    pure (replayOutcome webhook (webhook.paymentId.bind db.payments.get) callback)

/-- `_dispatch`. -/
def dispatch (runtime : Runtime) (provider : Provider) (callback : ProviderCallback)
    (raw : RawWebhook) (clock : Clock) : BillingTx CallbackOutcome := do
  if callback.action.isReadOnly then handleReadOnly callback
  else if callback.signatureValid then
    match ← claimLedger provider (dedupKey callback) raw with
    | none => replay provider (dedupKey callback) callback
    | some webhook => processTransition callback webhook clock
  else
    journalRejected runtime provider raw clock
    pure ⟨.invalidSignature, none, callback⟩

/-- `process`: the answer, or the exception that reaches the router, and the
committed database. -/
def process (app : App) (providerCode : String) (raw : RawWebhook) (moment : ℚ) (clock : Clock)
    (db : Db) : Except Exc WebhookResponse × Db :=
  match app.adapter providerCode with
  | none =>
    (.error (.webhookVerificationError ("unknown or disabled provider: " ++ providerCode)), db)
  | some adapter =>
    match adapter.parseWebhook app.runtime moment raw with
    | .error raised => (.error raised, db)
    | .ok callback =>
      match Tx.commit (dispatch app.runtime adapter.code callback raw clock) db with
      | (.ok outcome, committed) => (adapter.buildWebhookResponse outcome, committed)
      | (.error raised, committed) => (.error raised, committed)

/-! ## What handling a callback leaves -/

/-- The status a state-changing action drives the payment to. -/
def CallbackAction.target : CallbackAction → Option PaymentStatus
  | .create => some .pending
  | .confirm => some .succeeded
  | .cancel => some .canceled
  | _ => none

theorem target_of_not_readOnly (action : CallbackAction) (changes : action.isReadOnly = false) :
    ∃ target, action.target = some target := by
  cases action with
  | check => cases changes
  | create => exact ⟨_, rfl⟩
  | confirm => exact ⟨_, rfl⟩
  | cancel => exact ⟨_, rfl⟩
  | status => cases changes

theorem applyAction_ok {payment changed : Payment} {callback : ProviderCallback} {clock : Clock}
    {db final : Db} (run : applyAction payment callback clock db = .ok changed final) :
    Moves db payment.tenantId payment changed final ∧
      callback.action.target = some changed.status ∧
      changed.providerTransactionId =
        if callback.action = .create then some (callback.providerTxnId.getD "")
        else payment.providerTransactionId := by
  unfold applyAction at run
  cases action : callback.action with
  | check =>
    rw [action] at run
    cases run
  | create =>
    rw [action] at run
    obtain ⟨_, _, guarded, marked⟩ := (Tx.bind_ok_iff _ _ _ _ _).mp run
    obtain ⟨_, rfl⟩ := (Tx.require_ok_iff _ _ _ _ _).mp guarded
    obtain ⟨moves, status, transaction⟩ := moves_of_markPending marked
    exact ⟨moves, by rw [status]; rfl, by rw [transaction, if_pos rfl]⟩
  | confirm =>
    rw [action] at run
    obtain ⟨moves, status, transaction⟩ := moves_of_markSucceeded run
    exact ⟨moves, by rw [status]; rfl, by rw [transaction, if_neg (by simp)]⟩
  | cancel =>
    rw [action] at run
    obtain ⟨moves, status, transaction⟩ := moves_of_close run
    exact ⟨moves, by rw [status]; rfl, by rw [transaction, if_neg (by simp)]⟩
  | status =>
    rw [action] at run
    cases run

theorem applyAction_refused (payment : Payment) (callback : ProviderCallback) (clock : Clock)
    (db : Db) (target : PaymentStatus) (drives : callback.action.target = some target)
    (illegal : canTransition payment.status target = false) :
    ∃ detail, applyAction payment callback clock db =
      .error (.invariantViolationError detail) db := by
  unfold applyAction
  cases action : callback.action with
  | check =>
    rw [action] at drives
    cases drives
  | status =>
    rw [action] at drives
    cases drives
  | create =>
    rw [action] at drives
    cases drives
    have notCreated : payment.status ≠ .created := by
      intro created
      rw [created] at illegal
      cases illegal
    refine ⟨"create for payment in state " ++ payment.status.code, ?_⟩
    simp only [Tx.bind_run, notCreated, decide_false, Tx.require_false_run]
  | confirm =>
    rw [action] at drives
    cases drives
    refine ⟨"invalid payment transition: " ++ payment.status.code ++ " -> " ++
      PaymentStatus.succeeded.code, ?_⟩
    simp only [markSucceeded, assertTransition, Tx.bind_run, illegal, Tx.require_false_run]
  | cancel =>
    rw [action] at drives
    cases drives
    refine ⟨"invalid payment transition: " ++ payment.status.code ++ " -> " ++
      PaymentStatus.canceled.code, ?_⟩
    simp only [markCanceledByProvider, close, assertTransition, Closing.status, Tx.bind_run,
      illegal, Tx.require_false_run]

theorem applyAction_invariantViolation {payment : Payment} {callback : ProviderCallback}
    {clock : Clock} {db copy : Db} {detail : String} {target : PaymentStatus}
    (run : applyAction payment callback clock db = .error (.invariantViolationError detail) copy)
    (drives : callback.action.target = some target) :
    copy = db ∧ canTransition payment.status target = false := by
  unfold applyAction at run
  cases action : callback.action with
  | check =>
    rw [action] at drives
    cases drives
  | status =>
    rw [action] at drives
    cases drives
  | create =>
    rw [action] at drives run
    cases drives
    have stays : ∀ status : PaymentStatus, status ≠ .created →
        canTransition status .pending = false := by
      intro status differs
      cases legal : canTransition status .pending with
      | false => rfl
      | true => exact absurd ((canTransition_pending_iff status).mp legal) differs
    obtain refused | ⟨_, _, guarded, marked⟩ := (Tx.bind_error_iff _ _ _ _ _).mp run
    · obtain ⟨differs, _, rfl⟩ := (Tx.require_error_iff _ _ _ _ _).mp refused
      exact ⟨rfl, stays _ (by simpa using differs)⟩
    · obtain ⟨_, rfl⟩ := (Tx.require_ok_iff _ _ _ _ _).mp guarded
      obtain ⟨rfl, differs⟩ := markPending_invariantViolation marked rfl
      exact ⟨rfl, stays _ differs⟩
  | confirm =>
    rw [action] at drives run
    cases drives
    exact markSucceeded_invariantViolation run rfl
  | cancel =>
    rw [action] at drives run
    cases drives
    exact close_invariantViolation run rfl

theorem findPayment_ok_iff (callback : ProviderCallback) (db final : Db)
    (found : Option Payment) :
    findPayment callback db = .ok found final ↔ locate db callback = .ok found ∧ final = db := by
  unfold findPayment
  rw [Tx.bind_run, Tx.get_run]
  exact Tx.liftExcept_ok_iff _ _ _ _

/-- What the first delivery under a ledger key leaves. -/
inductive Settles (db : Db) (callback : ProviderCallback) (received : PaymentWebhook)
    (now : DateTime) : CallbackOutcome → Db → Prop where
  | unknown (missing : locate db callback = .ok none) :
      Settles db callback received now ⟨.notFound, none, callback⟩
        { db with
          webhooks := db.webhooks.insertNew
            (settledWebhook received .rejected (some "payment not found") now) }
  | mismatched (payment : Payment) (located : locate db callback = .ok (some payment))
      (differs : amountOk callback payment = false) :
      Settles db callback received now ⟨.amountMismatch, some (paymentDto payment), callback⟩
        { db with
          webhooks := db.webhooks.insertNew
            (settledWebhook (boundWebhook received payment) .rejected
              (some "amount mismatch") now) }
  | refused (payment : Payment) (located : locate db callback = .ok (some payment))
      (agrees : amountOk callback payment = true) (target : PaymentStatus)
      (drives : callback.action.target = some target)
      (illegal : canTransition payment.status target = false) (detail : String) :
      Settles db callback received now ⟨.invalidState, some (paymentDto payment), callback⟩
        { db with
          webhooks := db.webhooks.insertNew
            (settledWebhook (boundWebhook received payment) .failed (some detail) now) }
  | applied (payment : Payment) (located : locate db callback = .ok (some payment))
      (agrees : amountOk callback payment = true) (changed : Payment) (moved : Db)
      (moves : Moves db payment.tenantId payment changed moved)
      (drives : callback.action.target = some changed.status)
      (transaction : changed.providerTransactionId =
        if callback.action = .create then some (callback.providerTxnId.getD "")
        else payment.providerTransactionId) :
      Settles db callback received now ⟨.ok, some (paymentDto changed), callback⟩
        { moved with
          webhooks := db.webhooks.insertNew
            (settledWebhook (boundWebhook received payment) .processed none now) }

theorem processTransition_ok {db final : Db} {callback : ProviderCallback}
    {received : PaymentWebhook} {clock : Clock} {outcome : CallbackOutcome}
    (changes : callback.action.isReadOnly = false)
    (fresh : db.webhooks.get received.key = none)
    (run : processTransition callback received clock
      { db with webhooks := db.webhooks.insertNew received } = .ok outcome final) :
    Settles db callback received clock.processed outcome final := by
  obtain ⟨target, drives⟩ := target_of_not_readOnly callback.action changes
  have settleUnbound : ∀ status error now,
      (db.webhooks.insertNew received).put (settledWebhook received status error now) =
        db.webhooks.insertNew (settledWebhook received status error now) :=
    fun _ _ _ => Table.put_insertNew db.webhooks received _ fresh rfl
  have settleBound : ∀ payment status error now,
      (db.webhooks.insertNew received).put
          (settledWebhook (boundWebhook received payment) status error now) =
        db.webhooks.insertNew
          (settledWebhook (boundWebhook received payment) status error now) :=
    fun _ _ _ _ => Table.put_insertNew db.webhooks received _ fresh rfl
  unfold processTransition at run
  obtain ⟨found, _, looked, rest⟩ := (Tx.bind_ok_iff _ _ _ _ _).mp run
  obtain ⟨placed, rfl⟩ := (findPayment_ok_iff _ _ _ _).mp looked
  have located : locate db callback = .ok found := placed
  cases found with
  | none =>
    simp only [Tx.bind_run, putWebhook_run, settleUnbound] at rest
    cases rest
    exact .unknown located
  | some payment =>
    by_cases agrees : amountOk callback payment = true
    · simp only [agrees, if_true, Tx.bind_run, Tx.attempt_run] at rest
      cases attempt : applyAction payment callback clock
          { db with webhooks := db.webhooks.insertNew received } with
      | ok changed moved =>
        rw [attempt] at rest
        obtain ⟨moves, status, transaction⟩ := applyAction_ok attempt
        simp only [Tx.bind_run, putWebhook_run, moves.webhooks, settleBound] at rest
        cases rest
        exact .applied payment located agrees changed { moved with webhooks := db.webhooks }
          (moves.withWebhooks db.webhooks) status transaction
      | error raised copy =>
        rw [attempt] at rest
        cases raised with
        | invariantViolationError detail =>
          obtain ⟨rfl, illegal⟩ := applyAction_invariantViolation attempt drives
          simp only [Tx.bind_run, putWebhook_run, settleBound] at rest
          cases rest
          exact .refused payment located agrees target drives illegal detail
        | _ => cases rest
    · have differs : amountOk callback payment = false := by simpa using agrees
      simp only [differs, Bool.false_eq_true, if_false, Tx.bind_run, putWebhook_run,
        settleBound] at rest
      cases rest
      exact .mismatched payment located differs

/-- What `_dispatch` leaves. -/
inductive Handles (runtime : Runtime) (db : Db) (provider : Provider)
    (callback : ProviderCallback) (raw : RawWebhook) (now : DateTime) :
    CallbackOutcome → Db → Prop where
  | read (readOnly : callback.action.isReadOnly = true) (outcome : CallbackOutcome)
      (run : handleReadOnly callback db = .ok outcome db) :
      Handles runtime db provider callback raw now outcome db
  | forged (changes : callback.action.isReadOnly = false)
      (unsigned : callback.signatureValid = false) :
      Handles runtime db provider callback raw now ⟨.invalidSignature, none, callback⟩
        { db with webhooks := db.webhooks.insertNew (rejectedWebhook runtime provider raw now) }
  | replayed (changes : callback.action.isReadOnly = false)
      (signed : callback.signatureValid = true) (webhook : PaymentWebhook)
      (taken : db.webhooks.get (provider, dedupKey callback) = some webhook) :
      Handles runtime db provider callback raw now
        (replayOutcome webhook (webhook.paymentId.bind db.payments.get) callback) db
  | settled (changes : callback.action.isReadOnly = false)
      (signed : callback.signatureValid = true)
      (fresh : db.webhooks.get (provider, dedupKey callback) = none) (outcome : CallbackOutcome)
      (final : Db)
      (settles : Settles db callback (receivedWebhook provider (dedupKey callback) raw) now
        outcome final) :
      Handles runtime db provider callback raw now outcome final

private theorem insertWebhook_run (webhook : PaymentWebhook) (db : Db) :
    insertWebhook webhook db =
      .ok (db.webhooks.get webhook.key).isNone
        { db with webhooks := db.webhooks.insertNew webhook } := rfl

private theorem handleReadOnly_store {callback : ProviderCallback} {db final : Db}
    {outcome : CallbackOutcome} (run : handleReadOnly callback db = .ok outcome final) :
    final = db := by
  unfold handleReadOnly at run
  by_cases signed : callback.signatureValid = true
  · simp only [signed, if_true] at run
    obtain ⟨found, _, looked, rest⟩ := (Tx.bind_ok_iff _ _ _ _ _).mp run
    obtain ⟨_, rfl⟩ := (findPayment_ok_iff _ _ _ _).mp looked
    cases found with
    | none =>
      cases rest
      rfl
    | some payment =>
      by_cases agrees : amountOk callback payment = true
      · simp only [agrees, if_true] at rest
        split at rest
        · cases rest
          rfl
        · cases rest
          rfl
      · simp only [agrees] at rest
        cases rest
        rfl
  · simp only [signed] at run
    cases run
    rfl

theorem dispatch_taken {provider : Provider} {callback : ProviderCallback} {db : Db}
    {webhook : PaymentWebhook} (changes : callback.action.isReadOnly = false)
    (signed : callback.signatureValid = true)
    (taken : db.webhooks.get (provider, dedupKey callback) = some webhook) (runtime : Runtime)
    (raw : RawWebhook) (clock : Clock) :
    dispatch runtime provider callback raw clock db =
      .ok (replayOutcome webhook (webhook.paymentId.bind db.payments.get) callback) db := by
  have entry : db.webhooks.get
      (receivedWebhook provider (dedupKey callback) raw).key = some webhook := taken
  unfold dispatch
  simp only [changes, signed, Bool.false_eq_true, if_false, if_true, claimLedger, Tx.bind_run,
    insertWebhook_run, entry, Option.isNone_some, Tx.pure_run,
    Table.insertNew_of_taken _ _ _ entry]
  unfold replay
  simp only [Tx.bind_run, Tx.get_run, taken]
  rfl

theorem dispatch_fresh {provider : Provider} {callback : ProviderCallback} {db : Db}
    (changes : callback.action.isReadOnly = false) (signed : callback.signatureValid = true)
    (fresh : db.webhooks.get (provider, dedupKey callback) = none) (runtime : Runtime)
    (raw : RawWebhook) (clock : Clock) :
    dispatch runtime provider callback raw clock db =
      processTransition callback (receivedWebhook provider (dedupKey callback) raw) clock
        { db with webhooks :=
          db.webhooks.insertNew (receivedWebhook provider (dedupKey callback) raw) } := by
  have entry : db.webhooks.get (receivedWebhook provider (dedupKey callback) raw).key = none :=
    fresh
  unfold dispatch
  simp only [changes, signed, Bool.false_eq_true, if_false, if_true, claimLedger, Tx.bind_run,
    insertWebhook_run, entry, Option.isNone_none, Tx.pure_run]

theorem dispatch_ok {runtime : Runtime} {provider : Provider} {callback : ProviderCallback}
    {raw : RawWebhook} {clock : Clock} {db final : Db} {outcome : CallbackOutcome}
    (run : dispatch runtime provider callback raw clock db = .ok outcome final) :
    Handles runtime db provider callback raw clock.processed outcome final := by
  by_cases readOnly : callback.action.isReadOnly = true
  · unfold dispatch at run
    simp only [readOnly, if_true] at run
    obtain rfl := handleReadOnly_store run
    exact .read readOnly outcome run
  have changes : callback.action.isReadOnly = false := by simpa using readOnly
  by_cases signed : callback.signatureValid = true
  · cases entry : db.webhooks.get (provider, dedupKey callback) with
    | none =>
      rw [dispatch_fresh changes signed entry] at run
      exact .settled changes signed entry outcome final (processTransition_ok changes entry run)
    | some webhook =>
      rw [dispatch_taken changes signed entry] at run
      cases run
      exact .replayed changes signed webhook entry
  · have unsigned : callback.signatureValid = false := by simpa using signed
    unfold dispatch at run
    simp only [changes, unsigned, Bool.false_eq_true, if_false, journalRejected] at run
    obtain ⟨_, _, journaled, answered⟩ := (Tx.bind_ok_iff _ _ _ _ _).mp run
    obtain ⟨_, _, encoded, inserted⟩ := (Tx.bind_ok_iff _ _ _ _ _).mp journaled
    obtain ⟨_, rfl⟩ := (Tx.liftExcept_ok_iff _ _ _ _).mp encoded
    rw [Tx.bind_run, insertWebhook_run] at inserted
    cases inserted
    cases answered
    exact .forged changes unsigned

theorem dispatch_refused {provider : Provider} {callback : ProviderCallback} {db : Db}
    {payment : Payment} {target : PaymentStatus} (signed : callback.signatureValid = true)
    (fresh : db.webhooks.get (provider, dedupKey callback) = none)
    (located : locate db callback = .ok (some payment))
    (agrees : amountOk callback payment = true) (drives : callback.action.target = some target)
    (illegal : canTransition payment.status target = false) (runtime : Runtime)
    (raw : RawWebhook) (clock : Clock) :
    ∃ final, dispatch runtime provider callback raw clock db =
      .ok ⟨.invalidState, some (paymentDto payment), callback⟩ final := by
  have changes : callback.action.isReadOnly = false := by
    cases action : callback.action with
    | check =>
      rw [action] at drives
      cases drives
    | status =>
      rw [action] at drives
      cases drives
    | create => rfl
    | confirm => rfl
    | cancel => rfl
  rw [dispatch_fresh changes signed fresh]
  generalize inserted : { db with
      webhooks := db.webhooks.insertNew (receivedWebhook provider (dedupKey callback) raw) } =
    claimed
  have found : findPayment callback claimed = .ok (some payment) claimed := by
    rw [findPayment_ok_iff, ← inserted]
    exact ⟨located, rfl⟩
  obtain ⟨detail, refused⟩ := applyAction_refused payment callback clock claimed target drives
    illegal
  unfold processTransition
  simp only [Tx.bind_run, found, agrees, if_true, Tx.attempt_run, refused, putWebhook_run,
    Tx.pure_run]
  exact ⟨_, rfl⟩

/-! ## Locating, and what a callback leaves alone -/

theorem byReference_some {db : Db} {callback : ProviderCallback} {payment : Payment}
    (found : byReference db callback = some payment) :
    Uuid.ofStr? callback.paymentReference = some payment.id ∧
      db.payments.get payment.id = some payment ∧ payment.provider = callback.provider := by
  obtain ⟨stored, provider⟩ := Option.filter_eq_some_iff.mp found
  obtain ⟨id, named, got⟩ := Option.bind_eq_some_iff.mp stored
  rw [Table.key_of_get got]
  exact ⟨named, got, by simpa using provider⟩

theorem byTransaction_some {db : Db} {callback : ProviderCallback} {payment : Payment}
    (found : byTransaction db callback = .ok (some payment)) :
    payment.providerTransactionId = callback.providerTxnId ∧
      db.payments.get payment.id = some payment ∧ payment.provider = callback.provider := by
  unfold byTransaction at found
  cases carried : callback.providerTxnId.filter (fun txnId => decide (txnId ≠ "")) with
  | none =>
    rw [carried] at found
    cases found
  | some txnId =>
    rw [carried] at found
    simp only at found
    split at found
    · cases found
    · rename_i only rows
      cases found
      have member : payment ∈ db.payments.select fun payment =>
          payment.provider = callback.provider &&
            payment.providerTransactionId = some txnId := by
        rw [rows]
        exact List.mem_cons_self
      obtain ⟨stored, clause⟩ := (Table.mem_select _ _ _).mp member
      rw [Bool.and_eq_true, decide_eq_true_eq, decide_eq_true_eq] at clause
      exact ⟨clause.2.trans (Option.filter_eq_some_iff.mp carried).1.symm,
        Table.get_of_mem _ payment stored, clause.1⟩
    · cases found

theorem locate_some {db : Db} {callback : ProviderCallback} {payment : Payment}
    (located : locate db callback = .ok (some payment)) :
    db.payments.get payment.id = some payment ∧ payment.provider = callback.provider := by
  unfold locate at located
  cases found : byReference db callback with
  | some other =>
    rw [found] at located
    cases located
    exact (byReference_some found).2
  | none =>
    rw [found] at located
    exact (byTransaction_some located).2

theorem locatedPayment_of {db : Db} {callback : ProviderCallback} {found : Option Payment}
    (located : locate db callback = .ok found) : locatedPayment db callback = found := by
  rw [locatedPayment, located]

theorem locate_of_located {db : Db} {callback : ProviderCallback} {payment : Payment}
    (located : locatedPayment db callback = some payment) :
    locate db callback = .ok (some payment) := by
  unfold locatedPayment at located
  cases found : locate db callback with
  | ok option =>
    rw [found] at located
    exact congrArg _ located
  | error raised =>
    rw [found] at located
    cases located

theorem Handles.business {runtime : Runtime} {db final : Db} {provider : Provider}
    {callback : ProviderCallback} {raw : RawWebhook} {now : DateTime} {outcome : CallbackOutcome}
    (handles : Handles runtime db provider callback raw now outcome final) :
    final = { db with webhooks := final.webhooks } ∨
      ∃ payment changed moved, locate db callback = .ok (some payment) ∧
        Moves db payment.tenantId payment changed moved ∧
        final = { moved with webhooks := final.webhooks } := by
  cases handles with
  | read => exact Or.inl rfl
  | forged => exact Or.inl rfl
  | replayed => exact Or.inl rfl
  | settled changes signed fresh outcome final settles =>
    cases settles with
    | unknown => exact Or.inl rfl
    | mismatched => exact Or.inl rfl
    | refused => exact Or.inl rfl
    | applied payment located agrees changed moved moves =>
      exact Or.inr ⟨payment, changed, moved, located, moves, rfl⟩

theorem Handles.keepsLedger {runtime : Runtime} {db final : Db} {provider : Provider}
    {callback : ProviderCallback} {raw : RawWebhook} {now : DateTime} {outcome : CallbackOutcome}
    (handles : Handles runtime db provider callback raw now outcome final)
    (key : Provider × String) (row : PaymentWebhook) (found : db.webhooks.get key = some row) :
    final.webhooks.get key = some row := by
  cases handles with
  | read => exact found
  | forged => exact Table.get_insertNew_of_get _ _ _ _ found
  | replayed => exact found
  | settled changes signed fresh outcome final settles =>
    cases settles with
    | unknown => exact Table.get_insertNew_of_get _ _ _ _ found
    | mismatched => exact Table.get_insertNew_of_get _ _ _ _ found
    | refused =>
      exact Table.get_insertNew_of_get _ _ _ _ found
    | applied payment located agrees changed moved moves drives _ =>
      exact Table.get_insertNew_of_get _ _ _ _ found

end BackendCore.Billing
