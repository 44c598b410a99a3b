import BackendCore.Billing.System

/-!
# Isolation of the items of a sweep

A sweep handles its items one after the other and stops at the first exception
that leaves a transaction.  The handling of an item is arbitrary here: it may
commit anything and raise anything.  `attempts` is the loop that goes on after a
failed item; the sweep performs what it performs exactly if the failing items
come last.
-/

set_option autoImplicit false

namespace BackendCore.Billing

open BackendCore.Python

/-! ## The loop -/

/-- The items whose transaction a sweep commits. -/
def performed (step : Target → BillingTx Bool) : List Target → Db → List Target
  | [], _ => []
  | target :: rest, db =>
    match Tx.commit (step target) db with
    | (.ok _, committed) => target :: performed step rest committed
    | (.error _, _) => []

/-- Every item handled on what the items before it left, with whether its
transaction raised. -/
def attempts (step : Target → BillingTx Bool) : List Target → Db → List (Target × Bool)
  | [], _ => []
  | target :: rest, db =>
    match Tx.commit (step target) db with
    | (.ok _, committed) => (target, false) :: attempts step rest committed
    | (.error _, committed) => (target, true) :: attempts step rest committed

/-- The items of a sweep whose handling does not raise. -/
def others (step : Target → BillingTx Bool) (targets : List Target) (db : Db) : List Target :=
  ((attempts step targets db).filter fun item => !item.2).map Prod.fst

/-- No item whose handling raises stands before one whose handling does not. -/
def RaisingLast (step : Target → BillingTx Bool) (targets : List Target) (db : Db) : Prop :=
  (attempts step targets db).Pairwise fun earlier later => earlier.2 = true → later.2 = true

theorem sweep_leaves_performed (step : Target → BillingTx Bool) (targets : List Target)
    (acted : Nat) (db : Db) :
    (sweep step targets acted db).2 =
      (performed step targets db).foldl (fun db target => (Tx.commit (step target) db).2) db := by
  induction targets generalizing acted db with
  | nil => rfl
  | cons target rest hypothesis =>
    obtain ⟨done, committed, _, commits⟩ | ⟨raised, rolls⟩ := Tx.commit_cases (step target) db
    · simp only [sweep, performed, commits, List.foldl_cons]
      exact hypothesis _ committed
    · simp only [sweep, performed, rolls, List.foldl_nil]

theorem performed_eq_others_iff (step : Target → BillingTx Bool) (targets : List Target)
    (db : Db) : performed step targets db = others step targets db ↔
      RaisingLast step targets db := by
  induction targets generalizing db with
  | nil => simp [performed, others, RaisingLast, attempts]
  | cons target rest hypothesis =>
    obtain ⟨done, committed, _, commits⟩ | ⟨raised, rolls⟩ := Tx.commit_cases (step target) db
    · have behind := hypothesis committed
      simp only [others, RaisingLast] at behind
      simp [performed, others, RaisingLast, attempts, commits, behind]
    · -- The loop ends here, so nothing may be left to perform.
      simp only [performed, others, RaisingLast, attempts, rolls, Bool.not_true,
        Bool.false_eq_true, not_false_eq_true, List.filter_cons_of_neg, List.pairwise_cons,
        forall_const]
      constructor
      · intro none
        have all : ∀ item ∈ attempts step rest db, item.2 = true := by
          intro item member
          have skipped := List.filter_eq_nil_iff.mp (List.map_eq_nil_iff.mp none.symm) item member
          simpa using skipped
        refine ⟨all, List.pairwise_of_forall_mem_list ?_⟩
        intro earlier _ later member _
        exact all later member
      · rintro ⟨all, _⟩
        symm
        rw [List.map_eq_nil_iff, List.filter_eq_nil_iff]
        intro item member
        simp [all item member]

/-! ## The two jobs -/

/-- One transaction of `expire_stale_checkouts` around an arbitrary handling of
the locked payment; `expireCheckout` is the case of `mark_expired`. -/
def expireCheckoutWith (handle : Payment → BillingTx Payment) (target : Target) :
    BillingTx Bool := do
  let db ← get
  match (db.payments.get target.id).filter fun payment => payment.status.isOpen with
  | none => pure false
  | some payment =>
    match ← Tx.attempt (handle payment) with
    | .ok _ => pure true
    | .error (.invariantViolationError _) => pure false
    | .error raised => throw raised

/-- The items of `expire_stale_checkouts`. -/
def dueCheckouts (settings : Settings) (now : DateTime) (db : Db) : List Target :=
  staleCheckouts db (now.toMicros - settings.paymentCheckoutTtlSeconds * 1000000)

def expireStaleCheckoutsWith (settings : Settings) (now : DateTime)
    (handle : Target → Payment → BillingTx Payment) (db : Db) : Except Exc Nat × Db :=
  sweep (fun target => expireCheckoutWith (handle target) target) (dueCheckouts settings now db) 0
    db

theorem expireStaleCheckouts_eq (settings : Settings) (now : DateTime) (clocks : Target → Clock)
    (db : Db) :
    expireStaleCheckouts settings now clocks db =
      expireStaleCheckoutsWith settings now
        (fun target payment => markExpired target.tenantId payment (clocks target)) db := rfl

/-- `expire_ended_subscriptions` around an arbitrary `close_ended_period`. -/
def expireEndedSubscriptionsWith (now : DateTime) (handle : Target → BillingTx Bool) (db : Db) :
    Except Exc Nat × Db :=
  sweep handle (endedSubscriptions db now) 0 db

theorem expireEndedSubscriptions_eq (settings : Settings) (now : DateTime)
    (newIds : Target → Uuid) (clocks : Target → Clock) (db : Db) :
    expireEndedSubscriptions settings now newIds clocks db =
      expireEndedSubscriptionsWith now
        (fun target => endSubscription settings target (newIds target) (clocks target)) db := rfl

/-- What one sweep over the items owes: its final database is made of the
transactions it performed, and these are the ones that do not raise. -/
structure Spares (step : Target → BillingTx Bool) (targets : List Target) (db final : Db) :
    Prop where
  committed : final =
    (performed step targets db).foldl (fun db target => (Tx.commit (step target) db).2) db
  performs : performed step targets db = others step targets db

theorem spares_iff (step : Target → BillingTx Bool) (targets : List Target) (db : Db) :
    Spares step targets db (sweep step targets 0 db).2 ↔ RaisingLast step targets db := by
  rw [← performed_eq_others_iff]
  constructor
  · intro spares
    exact spares.performs
  · intro performs
    exact ⟨sweep_leaves_performed step targets 0 db, performs⟩

/-- A run of a job performs the step of every item whose handling does not raise
exactly if no item that raises stands before such an item, for the due payments
of `expire_stale_checkouts` and for the due subscriptions of
`expire_ended_subscriptions`. -/
theorem sweeps_perform_the_other_items_iff (settings : Settings) (now : DateTime) (db : Db)
    (expire : Target → Payment → BillingTx Payment) (close : Target → BillingTx Bool) :
    (Spares (fun target => expireCheckoutWith (expire target) target)
        (dueCheckouts settings now db) db (expireStaleCheckoutsWith settings now expire db).2 ↔
      RaisingLast (fun target => expireCheckoutWith (expire target) target)
        (dueCheckouts settings now db) db) ∧
    (Spares close (endedSubscriptions db now) db (expireEndedSubscriptionsWith now close db).2 ↔
      RaisingLast close (endedSubscriptions db now) db) :=
  ⟨spares_iff _ _ db, spares_iff _ _ db⟩

namespace Sample

/-- A payment that names no subscription, older than `orderPayment`. -/
def danglingPayment : Payment :=
  { orderPayment with
    id := 6
    tenantId := 2
    purpose := "subscription"
    idempotencyKey := "dangling"
    createdAt := ⟨2026, 1, 14, 0, by decide⟩ }

def blockedDb : Db := { emptyDb with payments := ⟨[danglingPayment, orderPayment], by decide⟩ }

def later : DateTime := ⟨2026, 1, 16, 0, by decide⟩

def sweepSettings : Settings := ⟨false, "", 3600⟩

def checkoutSweep (db : Db) : Except Exc Nat × Db :=
  expireStaleCheckouts sweepSettings later (fun _ => clock) db

theorem blockedDb_due : dueCheckouts sweepSettings later blockedDb = [⟨6, 2⟩, ⟨7, 1⟩] := by
  have sorted : [danglingPayment, orderPayment].mergeSort
      (fun left right => decide (left.createdAt ≤ right.createdAt)) =
      [danglingPayment, orderPayment] := List.mergeSort_of_pairwise (by decide)
  have selected : blockedDb.payments.select (fun payment => payment.status.isOpen &&
      decide (payment.createdAt.toMicros <
        later.toMicros - sweepSettings.paymentCheckoutTtlSeconds * 1000000)) =
      [danglingPayment, orderPayment] := by decide
  simp only [dueCheckouts, staleCheckouts, selected, sorted]
  rfl

/-- The older payment raises `ValueError`; the other one would have expired, but
is left open however often the sweep runs. -/
theorem dangling_payment_blocks_the_sweep :
    (∀ runs : Nat, (fun db => (checkoutSweep db).2)^[runs] blockedDb = blockedDb) ∧
      (Tx.commit (expireCheckout ⟨7, 1⟩ clock) blockedDb).1 = .ok true ∧
      ¬ Spares (fun target => expireCheckout target clock)
        (dueCheckouts sweepSettings later blockedDb) blockedDb (checkoutSweep blockedDb).2 := by
  have stays : (checkoutSweep blockedDb).2 = blockedDb := by
    unfold checkoutSweep expireStaleCheckouts
    change (sweep _ (dueCheckouts sweepSettings later blockedDb) 0 blockedDb).2 = blockedDb
    rw [blockedDb_due]
    rfl
  refine ⟨fun runs => Function.iterate_fixed stays runs, rfl, ?_⟩
  intro spares
  have performs := spares.performs
  rw [blockedDb_due] at performs
  exact absurd performs (by decide)

end Sample

end BackendCore.Billing
