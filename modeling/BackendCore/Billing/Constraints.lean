import BackendCore.Lib.UniqueIndex
import BackendCore.Billing.System

/-!
# Unique indexes of the billing tables

The four unique indexes that billing relies on hold in every reachable
database.  A flush is refused where it would break one, and a write that is not
checked by an index leaves the indexed columns as they were.
-/

set_option autoImplicit false

namespace BackendCore.Billing

open BackendCore.Python

/-! ## The indexes -/

/-- `uq_subscriptions_one_live_per_tenant`. -/
def liveIndex (subscription : Subscription) : Option Uuid :=
  if subscription.status.isLive then some subscription.tenantId else none

/-- `uq_subscriptions_one_pending_per_tenant`. -/
def pendingIndex (subscription : Subscription) : Option Uuid :=
  if subscription.status = .pending then some subscription.tenantId else none

/-- `uq_payments_provider_provider_transaction_id`. -/
def transactionIndex (payment : Payment) : Option (Provider × String) :=
  payment.providerTransactionId.map fun txnId => (payment.provider, txnId)

/-- `uq_payments_tenant_id_idempotency_key`. -/
def idempotencyIndex (payment : Payment) : Option (Uuid × String) :=
  some (payment.tenantId, payment.idempotencyKey)

structure Constraints (db : Db) : Prop where
  live : db.subscriptions.Unique liveIndex
  pending : db.subscriptions.Unique pendingIndex
  transactions : db.payments.Unique transactionIndex
  idempotency : db.payments.Unique idempotencyIndex

theorem liveIndex_eq_some_iff (subscription : Subscription) (tenantId : Uuid) :
    liveIndex subscription = some tenantId ↔
      subscription.status.isLive = true ∧ subscription.tenantId = tenantId := by
  by_cases live : subscription.status.isLive = true
  · simp [liveIndex, live]
  · simp [liveIndex, live]

theorem pendingIndex_eq_some_iff (subscription : Subscription) (tenantId : Uuid) :
    pendingIndex subscription = some tenantId ↔
      subscription.status = .pending ∧ subscription.tenantId = tenantId := by
  by_cases pending : subscription.status = .pending
  · simp [pendingIndex, pending]
  · simp [pendingIndex, pending]

theorem liveIndex_of_not_live {subscription : Subscription}
    (notLive : subscription.status.isLive = false) : liveIndex subscription = none := by
  simp [liveIndex, notLive]

theorem pendingIndex_of_not_pending {subscription : Subscription}
    (notPending : subscription.status ≠ .pending) : pendingIndex subscription = none := by
  simp [pendingIndex, notPending]

theorem not_pending_of_live {status : SubscriptionStatus} (live : status.isLive = true) :
    status ≠ .pending := by
  intro pending
  rw [pending] at live
  cases live

/-! ## A refused flush is a taken place -/

theorem free_of_liveConflict {db : Db} {subscription : Subscription}
    (passes : liveConflict db subscription = false) :
    db.subscriptions.Free liveIndex subscription := by
  intro other member differs tenantId filed otherFiled
  obtain ⟨live, tenant⟩ := (liveIndex_eq_some_iff _ _).mp filed
  obtain ⟨otherLive, otherTenant⟩ := (liveIndex_eq_some_iff _ _).mp otherFiled
  rw [liveConflict, live, Bool.true_and, List.any_eq_false] at passes
  apply passes other member
  simp [differs, otherLive, otherTenant, tenant]

theorem free_of_pendingConflict {db : Db} {subscription : Subscription}
    (passes : pendingConflict db subscription = false) :
    db.subscriptions.Free pendingIndex subscription := by
  intro other member differs tenantId filed otherFiled
  obtain ⟨pending, tenant⟩ := (pendingIndex_eq_some_iff _ _).mp filed
  obtain ⟨otherPending, otherTenant⟩ := (pendingIndex_eq_some_iff _ _).mp otherFiled
  simp only [pendingConflict, pending, decide_true, Bool.true_and, List.any_eq_false] at passes
  apply passes other member
  simp [differs, otherPending, otherTenant, tenant]

theorem transactionConflict_eq_false_iff (db : Db) (payment : Payment) :
    transactionConflict db payment = false ↔ db.payments.Free transactionIndex payment := by
  cases carried : payment.providerTransactionId with
  | none =>
    simp only [transactionConflict, carried, Option.isSome_none, Bool.false_and, true_iff]
    exact Table.free_of_unindexed _ _ (by simp [transactionIndex, carried])
  | some txnId =>
    simp only [transactionConflict, carried, Option.isSome_some, Bool.true_and,
      List.any_eq_false]
    constructor
    · intro none other member differs value filed otherFiled
      apply none other member
      simp only [transactionIndex, carried, Option.map_some, Option.some.injEq] at filed
      subst filed
      obtain ⟨otherTxn, otherCarried, same⟩ := Option.map_eq_some_iff.mp otherFiled
      obtain ⟨provider, txn⟩ := Prod.mk.inj same
      simp [differs, otherCarried, provider, txn]
    · intro free other member conflict
      simp only [Bool.and_eq_true, decide_eq_true_eq] at conflict
      refine free other member conflict.1.1 (payment.provider, txnId) ?_ ?_
      · simp [transactionIndex, carried]
      · simp [transactionIndex, conflict.1.2, conflict.2]

theorem free_of_idempotencyConflict {db : Db} {payment : Payment}
    (passes : idempotencyConflict db payment = false) :
    db.payments.Free idempotencyIndex payment := by
  intro other member differs value filed otherFiled
  rw [idempotencyConflict, List.any_eq_false] at passes
  apply passes other member
  rw [← otherFiled] at filed
  simp only [idempotencyIndex, Option.some.injEq, Prod.mk.injEq] at filed
  simp [differs, filed.1, filed.2]

/-! ## What a write keeps -/

private theorem put_closed {db : Db} (constraints : Constraints db) {subscription : Subscription}
    (notLive : subscription.status.isLive = false) (notPending : subscription.status ≠ .pending) :
    (db.subscriptions.put subscription).Unique liveIndex ∧
      (db.subscriptions.put subscription).Unique pendingIndex :=
  ⟨constraints.live.put (Table.free_of_unindexed _ _ (liveIndex_of_not_live notLive)),
    constraints.pending.put
      (Table.free_of_unindexed _ _ (pendingIndex_of_not_pending notPending))⟩

private theorem put_live {db : Db} (constraints : Constraints db) {old : Subscription}
    (new : Subscription) (member : old ∈ db.subscriptions.rows) (same : new.id = old.id)
    (tenant : new.tenantId = old.tenantId) (oldLive : old.status.isLive = true)
    (newLive : new.status.isLive = true) :
    (db.subscriptions.put new).Unique liveIndex ∧
      (db.subscriptions.put new).Unique pendingIndex := by
  constructor
  · apply constraints.live.put
    apply constraints.live.free member same.symm
    simp [liveIndex, oldLive, newLive, tenant]
  · apply constraints.pending.put
    exact Table.free_of_unindexed _ _ (pendingIndex_of_not_pending (not_pending_of_live newLive))

private theorem activated_unique {db : Db} (constraints : Constraints db) {payment : Payment}
    {subscription : Subscription} (paid : paidSubscription db payment = some subscription)
    (now finish : DateTime) :
    (activatedSubscriptions db payment subscription now finish).Unique liveIndex ∧
      (activatedSubscriptions db payment subscription now finish).Unique pendingIndex := by
  have canceled : ∀ row : Subscription, liveIndex (replacedRow now row) = none ∧
      pendingIndex (replacedRow now row) = none := fun row => ⟨rfl, rfl⟩
  have rest : (withoutReplaced db payment.tenantId subscription.id now).Unique liveIndex ∧
      (withoutReplaced db payment.tenantId subscription.id now).Unique pendingIndex := by
    constructor
    · apply constraints.live.mapRows
      intro row _ tenantId filed
      split at filed
      · rw [(canceled row).1] at filed
        cases filed
      · exact filed
    · apply constraints.pending.mapRows
      intro row _ tenantId filed
      split at filed
      · rw [(canceled row).2] at filed
        cases filed
      · exact filed
  constructor
  · apply rest.1.put
    have passes := activated_no_conflict db subscription now
      (activationStart db payment subscription now) finish
    rw [paidSubscription_tenant paid] at passes
    exact free_of_liveConflict passes
  · apply rest.2.put
    exact Table.free_of_unindexed _ _ rfl

private theorem dropped_unique {db : Db} (constraints : Constraints db) (payment : Payment)
    (target : Closing) (now : DateTime) :
    (closedSubscriptions db payment target now).Unique liveIndex ∧
      (closedSubscriptions db payment target now).Unique pendingIndex := by
  unfold closedSubscriptions droppedSubscriptions
  split
  · split
    · exact ⟨constraints.live, constraints.pending⟩
    · split
      · have closed := droppedRow_closed
        exact put_closed constraints (closed _ target now).1 (closed _ target now).2
      · exact ⟨constraints.live, constraints.pending⟩
  · exact ⟨constraints.live, constraints.pending⟩

private theorem moved_subscriptions {db final : Db} (constraints : Constraints db)
    {tenantId : Uuid} {payment changed : Payment}
    (moves : Moves db tenantId payment changed final) :
    final.subscriptions.Unique liveIndex ∧ final.subscriptions.Unique pendingIndex := by
  cases moves with
  | pended => exact ⟨constraints.live, constraints.pending⟩
  | succeeded clock legal subscriptions emitted activates =>
    cases activates with
    | other kind => exact ⟨constraints.live, constraints.pending⟩
    | subscription kind subscription finish paid ends =>
      exact activated_unique constraints paid clock.activated finish
  | closed target => exact dropped_unique constraints payment target _

theorem Constraints.moves {db final : Db} (constraints : Constraints db) {tenantId : Uuid}
    {payment changed : Payment} (found : db.payments.get payment.id = some payment)
    (moves : Moves db tenantId payment changed final) : Constraints final := by
  have member := Table.mem_of_get found
  have advances := moves.advances.1
  have subscriptions := moved_subscriptions constraints moves
  refine ⟨subscriptions.1, subscriptions.2, ?_, ?_⟩
  · rw [moves.payments]
    apply constraints.transactions.put
    cases moves with
    | pended txnId now created free => exact (transactionConflict_eq_false_iff _ _).mp free
    | succeeded =>
      exact constraints.transactions.free member rfl rfl
    | closed =>
      exact constraints.transactions.free member rfl rfl
  · rw [moves.payments]
    apply constraints.idempotency.put
    apply constraints.idempotency.free member advances.id.symm
    rw [idempotencyIndex, idempotencyIndex, advances.tenantId, advances.idempotencyKey]

theorem Constraints.opens {db final : Db} (constraints : Constraints db) {tenantId : Uuid}
    {newId : Uuid} {request : PaymentRequest} {payment : Payment}
    (opens : Opens db tenantId newId request payment final) : Constraints final := by
  obtain ⟨provider, createdAt, checkout, shape⟩ := opens.shape
  rw [opens.leaves]
  refine ⟨constraints.live, constraints.pending, ?_, ?_⟩
  · apply constraints.transactions.insert opens.fresh
    apply Table.free_of_unindexed
    rw [shape]
    rfl
  · apply constraints.idempotency.insert opens.fresh
    exact free_of_idempotencyConflict opens.unused

theorem Constraints.checkout {db prepared : Db} (constraints : Constraints db) {tenantId : Uuid}
    {subscription : Subscription} (checkout : PendingCheckout db tenantId subscription prepared) :
    Constraints prepared := by
  cases checkout with
  | existing => exact constraints
  | inserted tenant pending fresh only =>
    refine ⟨?_, ?_, constraints.transactions, constraints.idempotency⟩
    · apply constraints.live.insert fresh
      exact Table.free_of_unindexed _ _ (by simp [liveIndex, pending, SubscriptionStatus.isLive])
    · apply constraints.pending.insert fresh
      exact free_of_pendingConflict only

theorem Constraints.subscribes {db final : Db} (constraints : Constraints db) {tenantId : Uuid}
    {code : String} (subscribes : Subscribes db tenantId code final) : Constraints final := by
  cases subscribes with
  | already => exact constraints
  | inserted plan subscription planned free tenant planId live fresh only =>
    refine ⟨?_, ?_, constraints.transactions, constraints.idempotency⟩
    · apply constraints.live.insert fresh
      intro other member _ value filed otherFiled
      obtain ⟨_, rfl⟩ := (liveIndex_eq_some_iff _ _).mp filed
      obtain ⟨otherLive, otherTenant⟩ := (liveIndex_eq_some_iff _ _).mp otherFiled
      rw [only other member (otherTenant.trans tenant)] at otherLive
      cases otherLive
    · apply constraints.pending.insert fresh
      exact Table.free_of_unindexed _ _
        (pendingIndex_of_not_pending (not_pending_of_live live))

theorem endedRow_closed (subscription : Subscription) (now : DateTime) :
    (endedRow subscription now).status = .canceled ∨
      (endedRow subscription now).status = .expired := by
  cases asked : subscription.cancelAtPeriodEnd with
  | true => simp [endedRow, asked]
  | false => simp [endedRow, asked]

theorem Constraints.ends {db final : Db} (constraints : Constraints db) {tenantId : Uuid}
    {fallback : Option String} {now : DateTime}
    (closes : ClosesPeriod db tenantId fallback now final) : Constraints final := by
  cases closes with
  | nothing => exact constraints
  | rolled subscription plan span due =>
    have unique := put_live constraints (rolledRow subscription span)
      (Table.mem_of_get due.found) rfl rfl due.live rfl
    exact ⟨unique.1, unique.2, constraints.transactions, constraints.idempotency⟩
  | ended subscription code due final falls =>
    have closed := endedRow_closed subscription now
    have unique : (db.subscriptions.put (endedRow subscription now)).Unique liveIndex ∧
        (db.subscriptions.put (endedRow subscription now)).Unique pendingIndex := by
      apply put_closed constraints
      · rcases closed with status | status
        · rw [status]
          rfl
        · rw [status]
          rfl
      · rcases closed with status | status
        · simp [status]
        · simp [status]
    have settled : Constraints (endedDb db subscription code now) :=
      ⟨unique.1, unique.2, constraints.transactions, constraints.idempotency⟩
    cases falls with
    | unset => exact settled
    | refused => exact settled
    | subscribed code set final subscribes => exact settled.subscribes subscribes

/-! ## Every reachable database -/

theorem Constraints.step {app : App} {db final : Db} {op : Op} (constraints : Constraints db)
    (step : Step app db op final) : Constraints final := by
  cases step with
  | unchanged op => exact constraints
  | handled enabled parsed handles =>
    obtain same | ⟨payment, changed, moved, located, moves, same⟩ := handles.business
    · rw [same]
      exact ⟨constraints.live, constraints.pending, constraints.transactions,
        constraints.idempotency⟩
    · have kept := constraints.moves (locate_some located).1 moves
      rw [same]
      exact ⟨kept.live, kept.pending, kept.transactions, kept.idempotency⟩
  | moved hands found moves =>
    exact constraints.moves found moves
  | opened opens => exact constraints.opens opens
  | started checkout leaves =>
      obtain ⟨rfl, _⟩ | ⟨payment, opens⟩ := leaves
      · exact constraints.checkout checkout
      · exact (constraints.checkout checkout).opens opens
  | @cancelRequested tenantId granted clock subscription code member tenant live =>
    have unique := put_live constraints (cancelRequestedRow subscription clock.now) member
      rfl rfl live live
    exact ⟨unique.1, unique.2, constraints.transactions, constraints.idempotency⟩
  | subscribed subscribes => exact constraints.subscribes subscribes
  | ended ends => exact constraints.ends ends

theorem Constraints.initial {db : Db} (empty : Initial db) : Constraints db :=
  ⟨Table.unique_of_rows_nil _ empty.subscriptions, Table.unique_of_rows_nil _ empty.subscriptions,
    Table.unique_of_rows_nil _ empty.payments, Table.unique_of_rows_nil _ empty.payments⟩

theorem Reachable.constraints {app : App} {db : Db} (reached : Reachable app db) :
    Constraints db :=
  reached.invariant (fun _ empty => .initial empty) fun _ _ _ step constraints =>
    constraints.step step

end BackendCore.Billing
