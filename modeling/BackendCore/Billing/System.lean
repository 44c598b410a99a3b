import BackendCore.Billing.Jobs

/-!
# The billing system

Every entry point of billing as one operation on the committed database.  An
operation is one transaction: it commits what its body left or changes nothing.
What an operation can do is said once, by `Step`; the invariants of the
reachable databases are derived from it.
-/

set_option autoImplicit false

namespace BackendCore.Billing

open BackendCore.Python

/-! ## Operations -/

/-- `mark_failed` on the payment of the given id, whose row the caller has locked. -/
def failPayment (tenantId paymentId : Uuid) (reason : String) (clock : Clock) :
    BillingTx Payment := do
  let db ← get
  match (db.payments.get paymentId).filter fun payment => payment.tenantId = tenantId with
  | none => throw (.notFoundError ("Payment " ++ Uuid.toStr paymentId ++ " not found"))
  | some payment => markFailed tenantId payment reason clock

theorem failPayment_ok {tenantId paymentId : Uuid} {reason : String} {clock : Clock}
    {db final : Db} {changed : Payment}
    (run : failPayment tenantId paymentId reason clock db = .ok changed final) :
    ∃ payment, db.payments.get payment.id = some payment ∧ payment.tenantId = tenantId ∧
      markFailed tenantId payment reason clock db = .ok changed final := by
  unfold failPayment at run
  rw [Tx.bind_run, Tx.get_run] at run
  simp only at run
  cases chosen : (db.payments.get paymentId).filter
      (fun payment => decide (payment.tenantId = tenantId)) with
  | none =>
    rw [chosen] at run
    cases run
  | some payment =>
    rw [chosen] at run
    obtain ⟨found, tenant⟩ := get_of_filter chosen
    exact ⟨payment, found, of_decide_eq_true tenant, run⟩

inductive Op where
  | webhook (providerCode : String) (raw : RawWebhook) (moment : ℚ) (clock : Clock)
  | createPayment (tenantId : Uuid) (intake : PaymentIntake) (request : PaymentRequest)
      (clock : Clock)
  | startSubscription (tenantId : Uuid) (granted : Bool) (intake : PaymentIntake)
      (planCode provider : String) (newSubscriptionId : Uuid) (clock : Clock)
  | cancelPayment (tenantId paymentId : Uuid) (clock : Clock)
  | failPayment (tenantId paymentId : Uuid) (reason : String) (clock : Clock)
  | expireCheckout (target : Target) (clock : Clock)
  | cancelSubscription (tenantId : Uuid) (granted : Bool) (clock : Clock)
  | autoSubscribe (tenantId : Uuid) (planCode : String) (newSubscriptionId : Uuid) (clock : Clock)
  | endSubscription (target : Target) (newSubscriptionId : Uuid) (clock : Clock)

/-- The committed database after an operation. -/
def Op.run (app : App) (db : Db) : Op → Db
  | .webhook providerCode raw moment clock => (process app providerCode raw moment clock db).2
  | .createPayment tenantId intake request clock =>
    (Tx.commit (Billing.createPayment tenantId intake request clock) db).2
  | .startSubscription tenantId granted intake planCode provider newId clock =>
    (Tx.commit
      (Billing.startSubscription tenantId granted intake planCode provider newId clock) db).2
  | .cancelPayment tenantId paymentId clock =>
    (Tx.commit (Billing.cancelPayment tenantId paymentId clock) db).2
  | .failPayment tenantId paymentId reason clock =>
    (Tx.commit (Billing.failPayment tenantId paymentId reason clock) db).2
  | .expireCheckout target clock => (Tx.commit (Billing.expireCheckout target clock) db).2
  | .cancelSubscription tenantId granted clock =>
    (Tx.commit (Billing.cancelSubscription tenantId granted clock) db).2
  | .autoSubscribe tenantId planCode newId clock =>
    (Tx.commit (Billing.autoSubscribe tenantId planCode newId clock) db).2
  | .endSubscription target newId clock =>
    (Tx.commit (Billing.endSubscription app.settings target newId clock) db).2

/-- Operations that hand one payment row to a finalizer, for a tenant. -/
def Op.Hands (tenantId : Uuid) (payment : Payment) : Op → Prop
  | .cancelPayment owner .. | .failPayment owner .. =>
    tenantId = owner ∧ payment.tenantId = owner
  | .expireCheckout target _ => tenantId = target.tenantId ∧ payment.id = target.id
  | _ => False

/-- What an operation can do to the committed database. -/
inductive Step (app : App) (db : Db) : Op → Db → Prop where
  | unchanged (op : Op) : Step app db op db
  | handled {providerCode : String} {raw : RawWebhook} {moment : ℚ} {clock : Clock}
      {adapter : Adapter} {callback : ProviderCallback} {outcome : CallbackOutcome} {final : Db}
      (enabled : app.adapter providerCode = some adapter)
      (parsed : adapter.parseWebhook app.runtime moment raw = .ok callback)
      (handles : Handles app.runtime db adapter.code callback raw clock.processed outcome final) :
      Step app db (.webhook providerCode raw moment clock) final
  | moved {op : Op} {tenantId : Uuid} {payment changed : Payment} {final : Db}
      (hands : op.Hands tenantId payment) (found : db.payments.get payment.id = some payment)
      (moves : Moves db tenantId payment changed final)
      (transaction : changed.providerTransactionId = payment.providerTransactionId)
      (unpaid : changed.status ≠ .succeeded) :
      Step app db op final
  | opened {tenantId : Uuid} {intake : PaymentIntake} {request : PaymentRequest} {clock : Clock}
      {payment : Payment} {final : Db}
      (opens : Opens db tenantId intake.newId request payment final) :
      Step app db (.createPayment tenantId intake request clock) final
  | started {tenantId : Uuid} {granted : Bool} {intake : PaymentIntake}
      {planCode provider : String} {newId : Uuid} {clock : Clock} {subscription : Subscription}
      {prepared final : Db} (checkout : PendingCheckout db tenantId subscription prepared)
      (leaves : LeavesCheckout prepared tenantId intake.newId
        (checkoutRequest subscription provider) final) :
      Step app db (.startSubscription tenantId granted intake planCode provider newId clock) final
  | cancelRequested {tenantId : Uuid} {granted : Bool} {clock : Clock}
      {subscription : Subscription} {code : String}
      (member : subscription ∈ db.subscriptions.rows)
      (tenant : subscription.tenantId = tenantId) (live : subscription.status.isLive = true) :
      Step app db (.cancelSubscription tenantId granted clock) { db with
        subscriptions := db.subscriptions.put (cancelRequestedRow subscription clock.now)
        events := db.events ++ [⟨tenantId, .subscriptionCanceled subscription.id code⟩] }
  | subscribed {tenantId : Uuid} {code : String} {newId : Uuid} {clock : Clock} {final : Db}
      (subscribes : Subscribes db tenantId code final) :
      Step app db (.autoSubscribe tenantId code newId clock) final
  | ended {target : Target} {newId : Uuid} {clock : Clock} {final : Db}
      (ends : ClosesPeriod db target.tenantId app.settings.fallback clock.now final) :
      Step app db (.endSubscription target newId clock) final

private theorem committed {α : Type} {app : App} {op : Op} {body : BillingTx α} {db : Db}
    (ok : ∀ value final, body db = .ok value final → Step app db op final) :
    Step app db op (Tx.commit body db).2 := by
  obtain ⟨value, final, run, commits⟩ | ⟨raised, rolls⟩ := Tx.commit_cases body db
  · rw [commits]
    exact ok value final run
  · rw [rolls]
    exact .unchanged op

/-- What `process` commits: nothing, or what `_dispatch` left for the callback
the adapter parsed. -/
theorem process_committed (app : App) (providerCode : String) (raw : RawWebhook) (moment : ℚ)
    (clock : Clock) (db : Db) :
    (process app providerCode raw moment clock db).2 = db ∨
      ∃ adapter callback outcome, app.adapter providerCode = some adapter ∧
        adapter.parseWebhook app.runtime moment raw = .ok callback ∧
        (process app providerCode raw moment clock db).1 = adapter.buildWebhookResponse outcome ∧
        Handles app.runtime db adapter.code callback raw clock.processed outcome
          (process app providerCode raw moment clock db).2 := by
  unfold process
  cases enabled : app.adapter providerCode with
  | none => exact Or.inl rfl
  | some adapter =>
    cases parsed : adapter.parseWebhook app.runtime moment raw with
    | error raised =>
      left
      simp only [parsed]
    | ok callback =>
      simp only [parsed]
      obtain ⟨outcome, final, run, commits⟩ | ⟨raised, rolls⟩ :=
        Tx.commit_cases (dispatch app.runtime adapter.code callback raw clock) db
      · right
        rw [commits]
        exact ⟨adapter, callback, outcome, rfl, parsed, rfl, dispatch_ok run⟩
      · left
        rw [rolls]

theorem step_run (app : App) (db : Db) (op : Op) : Step app db op (op.run app db) := by
  cases op with
  | webhook providerCode raw moment clock =>
    obtain same | ⟨adapter, callback, outcome, enabled, parsed, _, handles⟩ :=
      process_committed app providerCode raw moment clock db
    · simp only [Op.run, same]
      exact .unchanged _
    · exact .handled enabled parsed handles
  | createPayment tenantId intake request clock =>
    refine committed ?_
    intro checkout final run
    obtain ⟨rfl, _⟩ | ⟨payment, opens⟩ := createPayment_ok run
    · exact .unchanged _
    · exact .opened opens
  | startSubscription tenantId granted intake planCode provider newId clock =>
    refine committed ?_
    intro checkout final run
    obtain ⟨subscription, prepared, pending, leaves⟩ := startSubscription_ok run
    exact .started pending leaves
  | cancelPayment tenantId paymentId clock =>
    refine committed ?_
    intro result final run
    obtain ⟨payment, changed, found, owned, moves, transaction, unpaid⟩ := cancelPayment_ok run
    exact .moved ⟨rfl, owned⟩ found moves transaction unpaid
  | failPayment tenantId paymentId reason clock =>
    refine committed ?_
    intro changed final run
    obtain ⟨payment, found, owned, closed⟩ := failPayment_ok run
    obtain ⟨moves, status, transaction⟩ := moves_of_close closed
    exact .moved ⟨rfl, owned⟩ found moves transaction (status ▸ Closing.status_ne_succeeded _)
  | expireCheckout target clock =>
    refine committed ?_
    intro done final run
    obtain rfl | ⟨payment, changed, found, named, moves, transaction, unpaid⟩ :=
      expireCheckout_ok run
    · exact .unchanged _
    · exact .moved ⟨rfl, named⟩ found moves transaction unpaid
  | cancelSubscription tenantId granted clock =>
    refine committed ?_
    intro result final run
    obtain ⟨subscription, code, member, tenant, live, rfl⟩ := cancelSubscription_ok run
    exact .cancelRequested member tenant live
  | autoSubscribe tenantId planCode newId clock =>
    refine committed ?_
    intro result final run
    exact .subscribed (autoSubscribe_ok run)
  | endSubscription target newId clock =>
    refine committed ?_
    intro acted final run
    exact .ended (closeEndedPeriod_ok run)

/-! ## Runs -/

/-- A database before its first billing operation. -/
structure Initial (db : Db) : Prop where
  subscriptions : db.subscriptions.rows = []
  payments : db.payments.rows = []
  webhooks : db.webhooks.rows = []
  events : db.events = []

inductive Reachable (app : App) : Db → Prop where
  | initial (db : Db) (empty : Initial db) : Reachable app db
  | step (db : Db) (op : Op) (reached : Reachable app db) : Reachable app (op.run app db)

/-- What holds before the first operation and is kept by every step holds in
every reachable database. -/
theorem Reachable.invariant {app : App} {holds : Db → Prop} {db : Db}
    (reached : Reachable app db) (atStart : ∀ db, Initial db → holds db)
    (kept : ∀ db op final, Step app db op final → holds db → holds final) : holds db := by
  induction reached with
  | initial db empty => exact atStart db empty
  | step db op _ hypothesis => exact kept db op _ (step_run app db op) hypothesis

theorem Step.payment {app : App} {db final : Db} {op : Op} (step : Step app db op final)
    (id : Uuid) (old : Payment) (found : db.payments.get id = some old) :
    ∃ new, final.payments.get id = some new ∧ Advances old new := by
  have kept : ∀ {final : Db}, final.payments = db.payments →
      ∃ new, final.payments.get id = some new ∧ Advances old new :=
    fun same => ⟨old, by rw [same]; exact found, .refl old⟩
  have moves : ∀ {tenantId : Uuid} {payment changed : Payment} {final : Db},
      db.payments.get payment.id = some payment → Moves db tenantId payment changed final →
      ∃ new, final.payments.get id = some new ∧ Advances old new := by
    intro tenantId payment changed final stored moves
    rw [moves.get stored]
    by_cases same : id = payment.id
    · rw [same, stored] at found
      cases found
      exact ⟨changed, by simp [same], moves.advances.1⟩
    · exact ⟨old, by simp [same, found], .refl old⟩
  have opens : ∀ {start : Db} {tenantId newId : Uuid} {request : PaymentRequest}
      {payment : Payment} {final : Db}, start.payments = db.payments →
      Opens start tenantId newId request payment final →
      ∃ new, final.payments.get id = some new ∧ Advances old new := by
    intro start tenantId newId request payment final same opens
    have differs : id ≠ payment.id := by
      intro equal
      have fresh := opens.fresh
      rw [same, ← equal, found] at fresh
      cases fresh
    rw [opens.leaves]
    refine ⟨old, ?_, .refl old⟩
    rw [Table.get_insert, if_neg differs, same]
    exact found
  cases step with
  | unchanged op => exact kept rfl
  | handled enabled parsed handles =>
    obtain same | ⟨payment, changed, moved, located, moving, same⟩ := handles.business
    · exact kept (by rw [same])
    · obtain ⟨new, now, advances⟩ := moves (locate_some located).1 moving
      rw [same]
      exact ⟨new, now, advances⟩
  | moved hands stored moving => exact moves stored moving
  | opened opening => exact opens rfl opening
  | started checkout leaves =>
      obtain ⟨rfl, _⟩ | ⟨payment, opening⟩ := leaves
      · exact kept checkout.rest.payments
      · exact opens checkout.rest.payments opening
  | cancelRequested => exact kept rfl
  | subscribed subscribes => exact kept subscribes.rest.payments
  | ended ends => exact kept ends.rest.payments

theorem Step.moves_of_change {app : App} {db final : Db} {op : Op} (step : Step app db op final)
    {id : Uuid} {old new : Payment} (found : db.payments.get id = some old)
    (left : final.payments.get id = some new) (differs : new ≠ old) :
    ∃ tenantId moved, Moves db tenantId old new moved ∧
      final = { moved with webhooks := final.webhooks } := by
  have unmoved : final.payments.get id ≠ db.payments.get id := by
    rw [left, found]
    simpa using differs
  have here : ∀ {tenantId : Uuid} {payment changed : Payment} {moved : Db},
      db.payments.get payment.id = some payment → Moves db tenantId payment changed moved →
      final = { moved with webhooks := final.webhooks } →
      ∃ tenantId moved, Moves db tenantId old new moved ∧
        final = { moved with webhooks := final.webhooks } := by
    intro tenantId payment changed moved stored moves same
    have got : final.payments.get id =
        if id = payment.id then some changed else db.payments.get id := by
      rw [same]
      exact moves.get stored id
    by_cases own : id = payment.id
    · rw [if_pos own, left] at got
      cases got
      rw [own, stored] at found
      cases found
      exact ⟨tenantId, moved, moves, same⟩
    · rw [if_neg own] at got
      exact absurd got unmoved
  have opens : ∀ {start : Db} {tenantId newId : Uuid} {request : PaymentRequest}
      {payment : Payment}, start.payments = db.payments →
      Opens start tenantId newId request payment final → False := by
    intro start tenantId newId request payment same opens
    apply unmoved
    have notOwn : id ≠ payment.id := by
      intro equal
      have fresh := opens.fresh
      rw [same, ← equal, found] at fresh
      cases fresh
    rw [opens.leaves, Table.get_insert, if_neg notOwn, same]
  cases step with
  | unchanged op => exact absurd rfl unmoved
  | handled enabled parsed handles =>
    obtain same | ⟨payment, changed, moved, located, moving, same⟩ := handles.business
    · rw [same] at unmoved
      exact absurd rfl unmoved
    · exact here (locate_some located).1 moving same
  | moved hands stored moving => exact here stored moving rfl
  | opened opening => exact (opens rfl opening).elim
  | started checkout leaves =>
      obtain ⟨rfl, _⟩ | ⟨payment, opening⟩ := leaves
      · rw [checkout.rest.payments] at unmoved
        exact absurd rfl unmoved
      · exact (opens checkout.rest.payments opening).elim
  | cancelRequested =>
    exact absurd rfl unmoved
  | subscribed subscribes =>
    rw [subscribes.rest.payments] at unmoved
    exact absurd rfl unmoved
  | ended ends =>
    rw [ends.rest.payments] at unmoved
    exact absurd rfl unmoved

theorem Step.keepsLedger {app : App} {db final : Db} {op : Op} (step : Step app db op final)
    (key : Provider × String) (row : PaymentWebhook) (found : db.webhooks.get key = some row) :
    final.webhooks.get key = some row := by
  have kept : ∀ {after : Db}, after.webhooks = db.webhooks →
      after.webhooks.get key = some row := by
    intro after same
    rw [same]
    exact found
  cases step with
  | unchanged op => exact found
  | handled enabled parsed handles =>
    exact handles.keepsLedger key row found
  | moved hands stored moves => exact kept moves.webhooks
  | opened opens => exact kept (by rw [opens.leaves])
  | started checkout leaves =>
      obtain ⟨rfl, _⟩ | ⟨payment, opens⟩ := leaves
      · exact kept checkout.rest.webhooks
      · exact kept (by rw [opens.leaves]; exact checkout.rest.webhooks)
  | cancelRequested => exact found
  | subscribed subscribes => exact kept subscribes.rest.webhooks
  | ended ends => exact kept ends.rest.webhooks

/-- Any operations after another database. -/
inductive Runs (app : App) (start : Db) : Db → Prop where
  | refl : Runs app start start
  | step (db : Db) (op : Op) (before : Runs app start db) : Runs app start (op.run app db)

theorem Runs.reachable {app : App} {start db : Db} (run : Runs app start db)
    (reached : Reachable app start) : Reachable app db := by
  induction run with
  | refl => exact reached
  | step db op _ hypothesis => exact .step db op hypothesis

theorem Runs.keepsLedger {app : App} {start db : Db} (run : Runs app start db)
    {key : Provider × String} {row : PaymentWebhook} (found : start.webhooks.get key = some row) :
    db.webhooks.get key = some row := by
  induction run with
  | refl => exact found
  | step db op _ hypothesis => exact (step_run app db op).keepsLedger key row hypothesis

theorem Runs.keepsFinal {app : App} {start db : Db} (run : Runs app start db) {id : Uuid}
    {payment : Payment} (found : start.payments.get id = some payment)
    (final : payment.status.isFinal = true) : db.payments.get id = some payment := by
  induction run with
  | refl => exact found
  | step db op _ hypothesis =>
    obtain ⟨new, left, advances⟩ := (step_run app db op).payment id payment hypothesis
    rcases advances.status with same | edge
    · rw [left, same]
    · rw [(isFinal_iff_no_transition _).mp final] at edge
      cases edge

/-! ## A sample deployment -/

namespace Sample

def digest (width : Nat) : String := String.ofList (List.replicate width '0')

theorem digest_isHexDigest (width : Nat) : IsHexDigest width (digest width) := by
  unfold IsHexDigest digest
  rw [String.toList_ofList]
  refine ⟨List.length_replicate, ?_⟩
  intro c member
  rw [List.eq_of_mem_replicate member]
  decide

theorem isHexDigest_of_check {width : Nat} {text : String}
    (check : (text.toList.length == width && text.toList.all fun c =>
      (48 ≤ c.toNat && c.toNat ≤ 57) || (97 ≤ c.toNat && c.toNat ≤ 102)) = true) :
    IsHexDigest width text := by
  rw [Bool.and_eq_true, beq_iff_eq, List.all_eq_true] at check
  refine ⟨check.1, ?_⟩
  intro c member
  simpa using check.2 c member

/-- Digests and Unicode tables are not consulted on the sample inputs. -/
def runtime : Runtime where
  loads := fun _ => .error .jsonDecodeError
  urlsplit := fun _ => .ok ("", "")
  unicode :=
    ⟨fun _ => false, fun _ => false, fun _ => false, fun c => [c], fun _ => false, fun _ => false⟩
  digitLimit := 1000000
  sha256Hex := fun _ => digest 64
  md5Hex := fun _ => digest 32
  hmacSha256Hex := fun _ _ => digest 64
  loads_foreign := by
    rintro _ _ ⟨⟩
    rfl
  sha256_digest := fun _ => digest_isHexDigest 64
  md5_digest := fun _ => digest_isHexDigest 32
  hmac_digest := fun _ _ => digest_isHexDigest 64

def moment : DateTime := ⟨2026, 1, 15, 0, by decide⟩

def clock : Clock := ⟨moment, moment, moment, moment, moment, moment, moment, moment⟩

def tenant : Uuid := 1

/-- A payment of an order, as `create_payment` leaves it. -/
def orderPayment : Payment where
  id := 7
  tenantId := tenant
  subscriptionId := none
  purpose := "commerce.order"
  reference := "order"
  amount := ⟨500, "UZS"⟩
  status := .created
  provider := .click
  providerTransactionId := none
  idempotencyKey := "order:1"
  failureCode := none
  paidAt := none
  metadata := ⟨some "url", none, none, none⟩
  createdAt := moment

def plan : Plan := ⟨2, "pro", ⟨500, "UZS"⟩, .month, 0, true⟩

def freePlan : Plan := ⟨4, "free", ⟨0, "UZS"⟩, .month, 0, true⟩

/-- Before the first operation. -/
def emptyDb : Db where
  plans := ⟨[plan], by simp⟩
  subscriptions := Table.empty
  payments := Table.empty
  webhooks := Table.empty
  audit := []
  events := []

def dbWith (payment : Payment) : Db where
  plans := Table.empty
  subscriptions := Table.empty
  payments := ⟨[payment], by simp⟩
  webhooks := Table.empty
  audit := []
  events := []

end Sample

end BackendCore.Billing
