import BackendCore.Billing.BillingService
import BackendCore.Billing.Webhooks

/-!
# Billing sweeps

`core/billing/jobs.py`: the due rows are found by one scan and handled one after
the other, each in a transaction of its own.  An exception that leaves a
transaction leaves the loop with it.
-/

set_option autoImplicit false

namespace BackendCore.Billing

open BackendCore.Python

/-- Id and tenant of a row found by a scan. -/
structure Target where
  id : Uuid
  tenantId : Uuid
  deriving DecidableEq

/-- `_SWEEP_BATCH`. -/
def sweepBatch : Nat := 500

/-- `_LIVE_STATES`. -/
def PaymentStatus.isOpen : PaymentStatus → Bool
  | .created => true
  | .pending => true
  | _ => false

/-- The scan of `expire_stale_checkouts`; the cutoff is compared as an instant. -/
def staleCheckouts (db : Db) (cutoffMicros : Int) : List Target :=
  let stale := db.payments.select fun payment =>
    payment.status.isOpen && decide (payment.createdAt.toMicros < cutoffMicros)
  let ordered := stale.mergeSort fun left right => decide (left.createdAt ≤ right.createdAt)
  (ordered.take sweepBatch).map fun payment => ⟨payment.id, payment.tenantId⟩

/-- The scan of `expire_ended_subscriptions`. -/
def endedSubscriptions (db : Db) (now : DateTime) : List Target :=
  let due := db.subscriptions.select fun subscription =>
    subscription.status.isLive && decide (subscription.currentPeriodEnd ≤ now)
  let ordered := due.mergeSort fun left right =>
    decide (left.currentPeriodEnd ≤ right.currentPeriodEnd)
  (ordered.take sweepBatch).map fun subscription => ⟨subscription.id, subscription.tenantId⟩

/-- One transaction of `expire_stale_checkouts`; whether it expired the payment. -/
def expireCheckout (target : Target) (clock : Clock) : BillingTx Bool := do
  let db ← get
  match (db.payments.get target.id).filter fun payment => payment.status.isOpen with
  | none => pure false
  | some payment =>
    match ← Tx.attempt (markExpired target.tenantId payment clock) with
    | .ok _ => pure true
    | .error (.invariantViolationError _) => pure false
    | .error raised => throw raised

/-- The fallback plan of `expire_ended_subscriptions`. -/
def Settings.fallback (settings : Settings) : Option String :=
  if settings.billingAutoSubscribe then some settings.billingDefaultPlanCode else none

/-- One transaction of `expire_ended_subscriptions`. -/
def endSubscription (settings : Settings) (target : Target) (newSubscriptionId : Uuid)
    (clock : Clock) : BillingTx Bool :=
  closeEndedPeriod target.tenantId target.id settings.fallback newSubscriptionId clock

/-- The loop of a sweep over its targets, with the number of items acted on. -/
def sweep (step : Target → BillingTx Bool) : List Target → Nat → Db → Except Exc Nat × Db
  | [], acted, db => (.ok acted, db)
  | target :: rest, acted, db =>
    match Tx.commit (step target) db with
    | (.ok done, committed) => sweep step rest (if done then acted + 1 else acted) committed
    | (.error raised, committed) => (.error raised, committed)

def expireStaleCheckouts (settings : Settings) (now : DateTime) (clocks : Target → Clock)
    (db : Db) : Except Exc Nat × Db :=
  let cutoff := now.toMicros - settings.paymentCheckoutTtlSeconds * 1000000
  sweep (fun target => expireCheckout target (clocks target)) (staleCheckouts db cutoff) 0 db

def expireEndedSubscriptions (settings : Settings) (now : DateTime) (newIds : Target → Uuid)
    (clocks : Target → Clock) (db : Db) : Except Exc Nat × Db :=
  sweep (fun target => endSubscription settings target (newIds target) (clocks target))
    (endedSubscriptions db now) 0 db

/-! ## What one transaction of the checkout sweep leaves -/

theorem get_of_filter {db : Db} {id : Uuid} {clause : Payment → Bool} {payment : Payment}
    (chosen : (db.payments.get id).filter clause = some payment) :
    db.payments.get payment.id = some payment ∧ clause payment = true := by
  obtain ⟨stored, holds⟩ := Option.filter_eq_some_iff.mp chosen
  rw [Table.key_of_get stored]
  exact ⟨stored, holds⟩

theorem expireCheckout_ok {target : Target} {clock : Clock} {db final : Db} {done : Bool}
    (run : expireCheckout target clock db = .ok done final) :
    final = db ∨ ∃ payment changed, db.payments.get payment.id = some payment ∧
      payment.id = target.id ∧ Moves db target.tenantId payment changed final ∧
      changed.providerTransactionId = payment.providerTransactionId ∧
      changed.status ≠ .succeeded := by
  unfold expireCheckout at run
  rw [Tx.bind_run, Tx.get_run] at run
  simp only at run
  cases chosen : (db.payments.get target.id).filter (fun payment => payment.status.isOpen) with
  | none =>
    rw [chosen] at run
    cases run
    exact Or.inl rfl
  | some payment =>
    rw [chosen] at run
    simp only [Tx.bind_run, Tx.attempt_run] at run
    cases attempt : markExpired target.tenantId payment clock db with
    | ok changed moved =>
      rw [attempt] at run
      cases run
      obtain ⟨moves, status, transaction⟩ := moves_of_close attempt
      have found := (Option.filter_eq_some_iff.mp chosen).1
      exact Or.inr ⟨payment, changed, (get_of_filter chosen).1, Table.key_of_get found, moves,
        transaction, status ▸ Closing.status_ne_succeeded _⟩
    | error raised copy =>
      rw [attempt] at run
      cases raised with
      | invariantViolationError detail =>
        cases run
        exact Or.inl (close_invariantViolation attempt rfl).1
      | _ => cases run

theorem cancelPayment_ok {tenantId paymentId : Uuid} {clock : Clock} {db final : Db}
    {result : PaymentDTO} (run : cancelPayment tenantId paymentId clock db = .ok result final) :
    ∃ payment changed, db.payments.get payment.id = some payment ∧
      payment.tenantId = tenantId ∧ Moves db tenantId payment changed final ∧
      changed.providerTransactionId = payment.providerTransactionId ∧
      changed.status ≠ .succeeded := by
  unfold cancelPayment at run
  rw [Tx.bind_run, Tx.get_run] at run
  simp only at run
  cases chosen : (db.payments.get paymentId).filter
      (fun payment => decide (payment.tenantId = tenantId)) with
  | none =>
    rw [chosen] at run
    cases run
  | some payment =>
    rw [chosen] at run
    obtain ⟨found, tenant⟩ := get_of_filter chosen
    obtain ⟨changed, _, closed, done⟩ := (Tx.bind_ok_iff _ _ _ _ _).mp run
    cases done
    obtain ⟨moves, status, transaction⟩ := moves_of_close closed
    exact ⟨payment, changed, found, by simpa using tenant, moves, transaction,
      status ▸ Closing.status_ne_succeeded _⟩

end BackendCore.Billing
