import BackendCore.Billing.Constraints

/-!
# Subscription checkouts

A subscription opened by `start_subscription` and the payment that pays for it
are two rows that change together.  The ids opened so far are kept beside the
database, so that the statement is about these subscriptions and not about the
free ones `auto_subscribe` inserts.
-/

set_option autoImplicit false

namespace BackendCore.Billing

open BackendCore.Python

/-! ## The relation between the two rows -/

/-- The subscription a payment of purpose `subscription` pays for. -/
def checkoutIndex (payment : Payment) : Option Uuid :=
  if payment.purpose = "subscription" then subscriptionIdOf payment else none

structure InLockstep (payment : PaymentStatus) (subscription : SubscriptionStatus) : Prop where
  isOpen : (payment = .created ∨ payment = .pending) ↔ subscription = .pending
  closed : payment = .failed ∨ payment = .canceled → subscription = .canceled
  expired : payment = .expired → subscription = .expired
  succeeded : payment = .succeeded →
    subscription = .active ∨ subscription = .canceled ∨ subscription = .expired

structure Pair (db : Db) (id : Uuid) (subscription : Subscription) (payment : Payment) : Prop where
  subscribed : db.subscriptions.get id = some subscription
  paid : db.payments.get payment.id = some payment
  pays : checkoutIndex payment = some id
  tenant : subscription.tenantId = payment.tenantId
  statuses : InLockstep payment.status subscription.status

structure Lockstep (db : Db) (opened : List Uuid) : Prop where
  pairs : ∀ id ∈ opened, ∃ subscription payment, Pair db id subscription payment
  checkouts : ∀ key payment, db.payments.get key = some payment →
    payment.purpose = "subscription" → ∃ id ∈ opened, checkoutIndex payment = some id ∧
      payment.idempotencyKey = subscriptionKey id
  single : db.payments.Unique checkoutIndex
  pending : ∀ id subscription, db.subscriptions.get id = some subscription →
    subscription.status = .pending → id ∈ opened

theorem checkoutIndex_eq_some_iff (payment : Payment) (id : Uuid) :
    checkoutIndex payment = some id ↔
      payment.purpose = "subscription" ∧ subscriptionIdOf payment = some id := by
  by_cases purpose : payment.purpose = "subscription"
  · simp [checkoutIndex, purpose]
  · simp [checkoutIndex, purpose]

theorem Advances.checkoutIndex {old new : Payment} (advances : Advances old new) :
    checkoutIndex new = checkoutIndex old := by
  rw [Billing.checkoutIndex, Billing.checkoutIndex, subscriptionIdOf, subscriptionIdOf,
    advances.purpose, advances.subscriptionId, advances.reference]

theorem subscriptionKey_injective {left right : Uuid}
    (same : subscriptionKey left = subscriptionKey right) : left = right := by
  apply Uuid.toStr_injective
  have chars := congrArg String.toList same
  rw [subscriptionKey, subscriptionKey, String.toList_append, String.toList_append,
    List.append_cancel_left_eq] at chars
  exact String.ext chars

theorem Pair.paidSubscription {db : Db} {id : Uuid} {subscription : Subscription}
    {payment : Payment} (pair : Pair db id subscription payment) :
    paidSubscription db payment = some subscription := by
  have names := ((checkoutIndex_eq_some_iff _ _).mp pair.pays).2
  simp [Billing.paidSubscription, names, pair.subscribed, pair.tenant]

theorem Lockstep.pair {db : Db} {opened : List Uuid} (lockstep : Lockstep db opened)
    {payment : Payment} (found : db.payments.get payment.id = some payment)
    (purpose : payment.purpose = "subscription") :
    ∃ id ∈ opened, ∃ subscription, Pair db id subscription payment := by
  obtain ⟨id, member, pays, _⟩ := lockstep.checkouts payment.id payment found purpose
  obtain ⟨subscription, other, pair⟩ := lockstep.pairs id member
  have same : other = payment :=
    lockstep.single.eq (Table.mem_of_get pair.paid) (Table.mem_of_get found) pair.pays pays
  rw [same] at pair
  exact ⟨id, member, subscription, pair⟩

/-! ## Rows that age on their own -/

/-- How a subscription changes while its payment stays: only a live one does. -/
inductive Ages (old new : Subscription) : Prop where
  | same (equal : new = old)
  | aged (live : old.status.isLive = true) (tenant : new.tenantId = old.tenantId)
      (status : new.status = old.status ∨ new.status = .active ∨ new.status = .canceled ∨
        new.status = .expired)

theorem InLockstep.succeeded_of_live {payment : PaymentStatus} {subscription : SubscriptionStatus}
    (lockstep : InLockstep payment subscription) (live : subscription.isLive = true) :
    payment = .succeeded := by
  cases payment with
  | created =>
    rw [lockstep.isOpen.mp (Or.inl rfl)] at live
    cases live
  | pending =>
    rw [lockstep.isOpen.mp (Or.inr rfl)] at live
    cases live
  | succeeded => rfl
  | failed =>
    rw [lockstep.closed (Or.inl rfl)] at live
    cases live
  | canceled =>
    rw [lockstep.closed (Or.inr rfl)] at live
    cases live
  | expired =>
    rw [lockstep.expired rfl] at live
    cases live

theorem inLockstep_succeeded {subscription : SubscriptionStatus}
    (reached : subscription = .active ∨ subscription = .canceled ∨ subscription = .expired) :
    InLockstep .succeeded subscription := by
  rcases reached with rfl | rfl | rfl
  · exact ⟨by simp, by simp, by simp, by simp⟩
  · exact ⟨by simp, by simp, by simp, by simp⟩
  · exact ⟨by simp, by simp, by simp, by simp⟩

theorem InLockstep.ages {payment : PaymentStatus} {old new : Subscription}
    (lockstep : InLockstep payment old.status) (ages : Ages old new) :
    InLockstep payment new.status := by
  cases ages with
  | same equal =>
    rw [equal]
    exact lockstep
  | aged live tenant status =>
    rcases status with same | reached
    · rw [same]
      exact lockstep
    · rw [lockstep.succeeded_of_live live]
      exact inLockstep_succeeded reached

theorem Ages.tenant {old new : Subscription} (ages : Ages old new) :
    new.tenantId = old.tenantId := by
  cases ages with
  | same equal => rw [equal]
  | aged live tenant status => exact tenant

theorem Ages.pending {old new : Subscription} (ages : Ages old new)
    (pending : new.status = .pending) : old.status = .pending := by
  cases ages with
  | same equal =>
    rw [← equal]
    exact pending
  | aged live tenant status =>
    rw [pending] at status
    rcases status with same | other | other | other
    · exact same.symm
    · cases other
    · cases other
    · cases other

structure Aging (old new : Table Subscription.id) : Prop where
  rows : ∀ id before, old.get id = some before → ∃ after, new.get id = some after ∧
    Ages before after
  added : ∀ id after, new.get id = some after → old.get id = none → after.status ≠ .pending

theorem Aging.refl (table : Table Subscription.id) : Aging table table where
  rows := fun _ before found => ⟨before, found, .same rfl⟩
  added := by
    intro id after found absent
    rw [found] at absent
    cases absent

theorem aging_put {table : Table Subscription.id} {old new : Subscription}
    (found : table.get old.id = some old) (same : new.id = old.id) (ages : Ages old new) :
    Aging table (table.put new) where
  rows := by
    intro id before stored
    rw [Table.get_put, same]
    by_cases here : id = old.id
    · rw [if_pos here, stored]
      rw [here, found] at stored
      cases stored
      exact ⟨new, rfl, ages⟩
    · rw [if_neg here]
      exact ⟨before, stored, .same rfl⟩
  added := by
    intro id after stored absent
    rw [Table.get_put, absent] at stored
    split at stored
    · cases stored
    · cases stored

theorem Lockstep.aging {db final : Db} {opened : List Uuid} (lockstep : Lockstep db opened)
    (payments : final.payments = db.payments)
    (aging : Aging db.subscriptions final.subscriptions) : Lockstep final opened where
  pairs := by
    intro id member
    obtain ⟨subscription, payment, pair⟩ := lockstep.pairs id member
    obtain ⟨after, found, ages⟩ := aging.rows id subscription pair.subscribed
    refine ⟨after, payment, found, ?_, pair.pays, ages.tenant.trans pair.tenant,
      pair.statuses.ages ages⟩
    rw [payments]
    exact pair.paid
  checkouts := by
    rw [payments]
    exact lockstep.checkouts
  single := by
    rw [payments]
    exact lockstep.single
  pending := by
    intro id after found isPending
    cases before : db.subscriptions.get id with
    | none => exact absurd isPending (aging.added id after found before)
    | some subscription =>
      obtain ⟨other, otherFound, ages⟩ := aging.rows id subscription before
      rw [found] at otherFound
      cases otherFound
      exact lockstep.pending id subscription before (ages.pending isPending)

theorem Lockstep.subscribes {db final : Db} {opened : List Uuid} (lockstep : Lockstep db opened)
    {tenantId : Uuid} {code : String} (subscribes : Subscribes db tenantId code final) :
    Lockstep final opened := by
  cases subscribes with
  | already => exact lockstep
  | inserted plan subscription planned free tenant planId live fresh =>
    refine lockstep.aging rfl ⟨?_, ?_⟩
    · intro id before found
      have differs : id ≠ subscription.id := by
        intro same
        rw [same, fresh] at found
        cases found
      refine ⟨before, ?_, .same rfl⟩
      rw [Table.get_insert, if_neg differs]
      exact found
    · intro id after found absent
      rw [Table.get_insert, absent] at found
      split at found
      · cases found
        exact not_pending_of_live live
      · cases found

theorem Lockstep.ends {db final : Db} {opened : List Uuid} (lockstep : Lockstep db opened)
    {tenantId : Uuid} {fallback : Option String} {now : DateTime}
    (closes : ClosesPeriod db tenantId fallback now final) : Lockstep final opened := by
  cases closes with
  | nothing => exact lockstep
  | rolled subscription plan span due =>
    have ages : Ages subscription (rolledRow subscription span) :=
      .aged due.live rfl (Or.inr (Or.inl rfl))
    exact lockstep.aging rfl (aging_put due.found rfl ages)
  | ended subscription code due final falls =>
    have ages : Ages subscription (endedRow subscription now) :=
      .aged due.live rfl (Or.inr (Or.inr (endedRow_closed subscription now)))
    have settled : Lockstep (endedDb db subscription code now) opened :=
      lockstep.aging rfl (aging_put due.found rfl ages)
    cases falls with
    | unset => exact settled
    | refused => exact settled
    | subscribed code set final subscribes => exact settled.subscribes subscribes

/-! ## Finalizers -/

theorem Lockstep.rewrite {db final : Db} {opened : List Uuid} (lockstep : Lockstep db opened)
    {id : Uuid} {subscription : Subscription} {payment changed : Payment} (new : Subscription)
    (member : id ∈ opened) (pair : Pair db id subscription payment)
    (payments : final.payments = db.payments.put changed) (advances : Advances payment changed)
    (subscriptions : ∀ key, final.subscriptions.get key =
      if key = id then some new else db.subscriptions.get key)
    (tenant : new.tenantId = subscription.tenantId)
    (statuses : InLockstep changed.status new.status) : Lockstep final opened := by
  have got : ∀ key, final.payments.get key =
      if key = payment.id then some changed else db.payments.get key := by
    intro key
    rw [payments, Table.get_put, advances.id]
    by_cases here : key = payment.id
    · simp [here, pair.paid]
    · simp [here]
  refine ⟨?_, ?_, ?_, ?_⟩
  · intro other otherMember
    by_cases here : other = id
    · refine ⟨new, changed, ?_, ?_, ?_, ?_, statuses⟩
      · rw [subscriptions, if_pos here]
      · rw [got, if_pos advances.id]
      · rw [here, advances.checkoutIndex]
        exact pair.pays
      · rw [tenant, advances.tenantId]
        exact pair.tenant
    · obtain ⟨otherSubscription, otherPayment, otherPair⟩ := lockstep.pairs other otherMember
      have differs : otherPayment.id ≠ payment.id := by
        intro same
        have samePayment := otherPair.paid
        rw [same, pair.paid] at samePayment
        cases samePayment
        have pays := otherPair.pays
        rw [pair.pays] at pays
        cases pays
        exact here rfl
      refine ⟨otherSubscription, otherPayment, ?_, ?_, otherPair.pays, otherPair.tenant,
        otherPair.statuses⟩
      · rw [subscriptions, if_neg here]
        exact otherPair.subscribed
      · rw [got, if_neg differs]
        exact otherPair.paid
  · intro key other found purpose
    rw [got] at found
    split at found
    · cases found
      rw [advances.purpose] at purpose
      rw [advances.checkoutIndex, advances.idempotencyKey]
      exact lockstep.checkouts payment.id payment pair.paid purpose
    · exact lockstep.checkouts key other found purpose
  · rw [payments]
    apply lockstep.single.put
    exact lockstep.single.free (Table.mem_of_get pair.paid) advances.id.symm
      advances.checkoutIndex
  · intro key other found pending
    rw [subscriptions] at found
    split at found
    · rename_i here
      rw [here]
      exact member
    · exact lockstep.pending key other found pending

theorem Lockstep.otherPayment {db final : Db} {opened : List Uuid}
    (lockstep : Lockstep db opened) {payment changed : Payment}
    (found : db.payments.get payment.id = some payment)
    (kind : payment.purpose ≠ "subscription")
    (payments : final.payments = db.payments.put changed) (advances : Advances payment changed)
    (subscriptions : final.subscriptions = db.subscriptions) : Lockstep final opened := by
  have unfiled : checkoutIndex changed = none := by
    rw [advances.checkoutIndex, checkoutIndex, if_neg kind]
  have got : ∀ key, final.payments.get key =
      if key = payment.id then some changed else db.payments.get key := by
    intro key
    rw [payments, Table.get_put, advances.id]
    by_cases here : key = payment.id
    · simp [here, found]
    · simp [here]
  refine ⟨?_, ?_, ?_, ?_⟩
  · intro id member
    obtain ⟨subscription, other, pair⟩ := lockstep.pairs id member
    have differs : other.id ≠ payment.id := by
      intro same
      have samePayment := pair.paid
      rw [same, found] at samePayment
      cases samePayment
      exact kind ((checkoutIndex_eq_some_iff _ _).mp pair.pays).1
    refine ⟨subscription, other, ?_, ?_, pair.pays, pair.tenant, pair.statuses⟩
    · rw [subscriptions]
      exact pair.subscribed
    · rw [got, if_neg differs]
      exact pair.paid
  · intro key other stored purpose
    rw [got] at stored
    split at stored
    · cases stored
      rw [advances.purpose] at purpose
      exact absurd purpose kind
    · exact lockstep.checkouts key other stored purpose
  · rw [payments]
    exact lockstep.single.put (Table.free_of_unindexed _ _ unfiled)
  · rw [subscriptions]
    exact lockstep.pending

theorem inLockstep_pending {payment : PaymentStatus}
    (isOpen : payment = .created ∨ payment = .pending) : InLockstep payment .pending := by
  rcases isOpen with rfl | rfl
  · exact ⟨by simp, by simp, by simp, by simp⟩
  · exact ⟨by simp, by simp, by simp, by simp⟩

theorem inLockstep_dropped (subscription : Subscription) (target : Closing) (now : DateTime) :
    InLockstep target.status (droppedRow subscription target now).status := by
  cases target with
  | failed => exact ⟨by simp [droppedRow, Closing.status], by simp [droppedRow],
      by simp [Closing.status], by simp [Closing.status]⟩
  | canceled => exact ⟨by simp [droppedRow, Closing.status], by simp [droppedRow],
      by simp [Closing.status], by simp [Closing.status]⟩
  | expired => exact ⟨by simp [droppedRow, Closing.status], by simp [Closing.status],
      by simp [droppedRow], by simp [Closing.status]⟩

theorem aging_withoutReplaced (db : Db) (tenantId subscriptionId : Uuid) (now : DateTime) :
    Aging db.subscriptions (withoutReplaced db tenantId subscriptionId now) where
  rows := by
    intro id before found
    rw [withoutReplaced, Table.get_mapRows, found, Option.map_some]
    by_cases replaced : isReplaced tenantId subscriptionId before = true
    · rw [if_pos replaced]
      simp only [isReplaced, Bool.and_eq_true] at replaced
      exact ⟨_, rfl, .aged replaced.1.2 rfl (Or.inr (Or.inr (Or.inl rfl)))⟩
    · rw [if_neg replaced]
      exact ⟨before, rfl, .same rfl⟩
  added := by
    intro id after found absent
    rw [withoutReplaced, Table.get_mapRows, absent] at found
    cases found

theorem Lockstep.moves {db final : Db} {opened : List Uuid} (lockstep : Lockstep db opened)
    {tenantId : Uuid} {payment changed : Payment}
    (found : db.payments.get payment.id = some payment)
    (moves : Moves db tenantId payment changed final) : Lockstep final opened := by
  have advances := moves.advances.1
  by_cases kind : payment.purpose = "subscription"
  · obtain ⟨id, member, subscription, pair⟩ := lockstep.pair found kind
    have paid := pair.paidSubscription
    have own : id = subscription.id := (Table.key_of_get pair.subscribed).symm
    cases moves with
    | pended txnId now created =>
      have pending := pair.statuses.isOpen.mp (Or.inl created)
      refine lockstep.rewrite subscription member pair rfl advances ?_ rfl ?_
      · intro key
        by_cases here : key = id
        · rw [if_pos here, here]
          exact pair.subscribed
        · rw [if_neg here]
      · rw [pending]
        exact inLockstep_pending (Or.inr rfl)
    | succeeded clock legal subscriptions emitted activates =>
      cases activates with
      | other differs => exact absurd kind differs
      | subscription _ activated finish activatedPaid ends =>
        rw [paid] at activatedPaid
        cases activatedPaid
        -- First the replaced rows age, then the pair itself is rewritten.
        have rest : Lockstep { db with
            subscriptions := withoutReplaced db payment.tenantId subscription.id
              clock.activated } opened :=
          lockstep.aging rfl (aging_withoutReplaced db _ _ _)
        have stored := pair.subscribed
        rw [own] at stored
        have restPair : Pair { db with
            subscriptions := withoutReplaced db payment.tenantId subscription.id
              clock.activated } id subscription payment :=
          ⟨by rw [own]; exact withoutReplaced_get_self stored _ _, pair.paid, pair.pays,
            pair.tenant, pair.statuses⟩
        refine rest.rewrite (activatedRow subscription
          (activationStart db payment subscription clock.activated) finish) member restPair
          rfl advances ?_ rfl ?_
        · intro key
          rw [own]
          exact activatedSubscriptions_get stored _ finish key
        · exact inLockstep_succeeded (Or.inl rfl)
    | closed target reason clock legal =>
      have pending := pair.statuses.isOpen.mp ((canTransition_closing_iff _ target).mp legal)
      refine lockstep.rewrite (droppedRow subscription target clock.dropped) member pair rfl
        advances ?_ ?_ (inLockstep_dropped subscription target clock.dropped)
      · intro key
        simp only [closedSubscriptions, droppedSubscriptions, kind, if_true, paid, pending]
        rw [Table.get_put]
        have sameId : (droppedRow subscription target clock.dropped).id = id := by
          rw [own, droppedRow]
          split
          · rfl
          · rfl
        rw [sameId]
        by_cases here : key = id
        · rw [if_pos here, if_pos here, here, pair.subscribed]
          rfl
        · rw [if_neg here, if_neg here]
      · rw [droppedRow]
        split
        · rfl
        · rfl
  · refine lockstep.otherPayment found kind moves.payments advances ?_
    cases moves with
    | pended => rfl
    | succeeded clock legal subscriptions emitted activates =>
      cases activates with
      | other differs => rfl
      | subscription same => exact absurd same kind
    | closed => simp [closedSubscriptions, kind]

/-! ## Opening a checkout -/

theorem Opens.row {db final : Db} {tenantId newId : Uuid} {request : PaymentRequest}
    {payment : Payment} (opens : Opens db tenantId newId request payment final) :
    payment.tenantId = tenantId ∧ payment.purpose = request.purpose ∧
      payment.subscriptionId = request.subscriptionId ∧
      payment.idempotencyKey = request.idempotencyKey ∧ payment.status = .created := by
  obtain ⟨provider, createdAt, checkout, shape⟩ := opens.shape
  rw [shape]
  exact ⟨rfl, rfl, rfl, rfl, rfl⟩

theorem Opens.get {db final : Db} {tenantId newId : Uuid} {request : PaymentRequest}
    {payment : Payment} (opens : Opens db tenantId newId request payment final) (key : Uuid) :
    final.payments.get key = if key = payment.id then some payment else db.payments.get key := by
  rw [opens.leaves]
  exact Table.get_insert _ _ opens.fresh key

theorem Lockstep.opensOther {db final : Db} {opened : List Uuid} (lockstep : Lockstep db opened)
    {tenantId newId : Uuid} {request : PaymentRequest} {payment : Payment}
    (opens : Opens db tenantId newId request payment final)
    (kind : request.purpose ≠ "subscription") : Lockstep final opened := by
  have purpose := opens.row.2.1
  have unfiled : checkoutIndex payment = none := by rw [checkoutIndex, purpose, if_neg kind]
  refine ⟨?_, ?_, ?_, ?_⟩
  · intro id member
    obtain ⟨subscription, other, pair⟩ := lockstep.pairs id member
    have differs : other.id ≠ payment.id := by
      intro same
      have fresh := opens.fresh
      rw [← same, pair.paid] at fresh
      cases fresh
    refine ⟨subscription, other, ?_, ?_, pair.pays, pair.tenant, pair.statuses⟩
    · rw [opens.leaves]
      exact pair.subscribed
    · rw [opens.get, if_neg differs]
      exact pair.paid
  · intro key other found isCheckout
    rw [opens.get] at found
    split at found
    · cases found
      rw [purpose] at isCheckout
      exact absurd isCheckout kind
    · exact lockstep.checkouts key other found isCheckout
  · rw [opens.leaves]
    exact lockstep.single.insert opens.fresh (Table.free_of_unindexed _ _ unfiled)
  · rw [opens.leaves]
    exact lockstep.pending

theorem Lockstep.opensPair {db final : Db} {opened : List Uuid} (lockstep : Lockstep db opened)
    {tenantId newId : Uuid} {subscription : Subscription} {provider : String} {payment : Payment}
    (tenant : subscription.tenantId = tenantId) (pending : subscription.status = .pending)
    (fresh : db.subscriptions.get subscription.id = none)
    (opens : Opens { db with subscriptions := db.subscriptions.insert subscription fresh } tenantId
      newId (checkoutRequest subscription provider) payment final) :
    Lockstep final (opened ++ [subscription.id]) := by
  obtain ⟨rowTenant, purpose, names, key, created⟩ := opens.row
  have pays : checkoutIndex payment = some subscription.id := by
    rw [checkoutIndex_eq_some_iff, subscriptionIdOf, names]
    exact ⟨purpose, rfl⟩
  have unopened : subscription.id ∉ opened := by
    intro member
    obtain ⟨other, _, pair⟩ := lockstep.pairs _ member
    have stored := pair.subscribed
    rw [fresh] at stored
    cases stored
  have stored : ∀ id, final.subscriptions.get id =
      if id = subscription.id then some subscription else db.subscriptions.get id := by
    intro id
    rw [opens.leaves]
    exact Table.get_insert _ _ fresh id
  refine ⟨?_, ?_, ?_, ?_⟩
  · intro id member
    rcases List.mem_append.mp member with earlier | new
    · obtain ⟨other, otherPayment, pair⟩ := lockstep.pairs id earlier
      have differs : id ≠ subscription.id := by
        intro same
        rw [same] at earlier
        exact unopened earlier
      have paymentDiffers : otherPayment.id ≠ payment.id := by
        intro same
        have unused := opens.fresh
        rw [← same] at unused
        have taken := pair.paid
        rw [show db.payments.get otherPayment.id = none from unused] at taken
        cases taken
      refine ⟨other, otherPayment, ?_, ?_, pair.pays, pair.tenant, pair.statuses⟩
      · rw [stored, if_neg differs]
        exact pair.subscribed
      · rw [opens.get, if_neg paymentDiffers]
        exact pair.paid
    · rw [List.mem_singleton] at new
      subst new
      refine ⟨subscription, payment, ?_, ?_, pays, tenant.trans rowTenant.symm, ?_⟩
      · rw [stored, if_pos rfl]
      · rw [opens.get, if_pos rfl]
      · rw [created, pending]
        exact inLockstep_pending (Or.inl rfl)
  · intro paymentKey other found isCheckout
    rw [opens.get] at found
    split at found
    · cases found
      exact ⟨subscription.id, by simp, pays, key⟩
    · obtain ⟨id, member, rest⟩ := lockstep.checkouts paymentKey other found isCheckout
      exact ⟨id, List.mem_append_left _ member, rest⟩
  · rw [opens.leaves]
    apply lockstep.single.insert opens.fresh
    intro other member _ value filed otherFiled
    rw [pays] at filed
    cases filed
    obtain ⟨isCheckout, _⟩ := (checkoutIndex_eq_some_iff _ _).mp otherFiled
    obtain ⟨id, idMember, otherPays, _⟩ :=
      lockstep.checkouts other.id other (Table.get_of_mem _ other member) isCheckout
    rw [otherFiled] at otherPays
    cases otherPays
    exact unopened idMember
  · intro id other found isPending
    rw [stored] at found
    split at found
    · rename_i here
      simp [here]
    · exact List.mem_append_left _ (lockstep.pending id other found isPending)

/-! ## Runs -/

structure World where
  db : Db
  opened : List Uuid

/-- Ids of the subscriptions one database has and an earlier one had not. -/
def insertedSubscriptions (db final : Db) : List Uuid :=
  (final.subscriptions.rows.filter fun subscription =>
    (db.subscriptions.get subscription.id).isNone).map Subscription.id

/-- The subscriptions an operation created, if it is `start_subscription`. -/
def Op.startedSubscriptions (app : App) (db : Db) (op : Op) : List Uuid :=
  match op with
  | .startSubscription _ _ _ _ _ _ _ => insertedSubscriptions db (op.run app db)
  | _ => []

def World.next (app : App) (world : World) (op : Op) : World where
  db := op.run app world.db
  opened := world.opened ++ op.startedSubscriptions app world.db

/-- Purpose `subscription` is used by `_checkout_for` only, not by other callers
of `create_payment`. -/
def Op.leavesPurpose : Op → Bool
  | .createPayment _ _ request _ => request.purpose ≠ "subscription"
  | _ => true

inductive World.Reached (app : App) : World → Prop where
  | initial (db : Db) (empty : Initial db) : World.Reached app ⟨db, []⟩
  | step (world : World) (op : Op) (leaves : op.leavesPurpose = true)
      (reached : World.Reached app world) : World.Reached app (world.next app op)

theorem insertedSubscriptions_self {db final : Db}
    (same : final.subscriptions = db.subscriptions) : insertedSubscriptions db final = [] := by
  rw [insertedSubscriptions, same, List.map_eq_nil_iff, List.filter_eq_nil_iff]
  intro subscription member
  rw [Table.get_of_mem db.subscriptions subscription member]
  simp

theorem insertedSubscriptions_insert {db final : Db} {subscription : Subscription}
    (fresh : db.subscriptions.get subscription.id = none)
    (leaves : final.subscriptions = db.subscriptions.insert subscription fresh) :
    insertedSubscriptions db final = [subscription.id] := by
  have old : insertedSubscriptions db db = [] := insertedSubscriptions_self rfl
  rw [insertedSubscriptions, List.map_eq_nil_iff] at old
  rw [insertedSubscriptions, leaves]
  simp only [Table.insert, List.filter_append, old, List.nil_append]
  simp [fresh]

theorem Lockstep.started {db final : Db} {opened : List Uuid} (lockstep : Lockstep db opened)
    {tenantId newId : Uuid} {subscription : Subscription} {provider : String} {prepared : Db}
    (checkout : PendingCheckout db tenantId subscription prepared)
    (leaves : LeavesCheckout prepared tenantId newId (checkoutRequest subscription provider)
      final) :
    Lockstep final (opened ++ insertedSubscriptions db final) := by
  cases checkout with
  | existing member tenant pending =>
    obtain ⟨rfl, _⟩ | ⟨payment, opens⟩ := leaves
    · rw [insertedSubscriptions_self rfl, List.append_nil]
      exact lockstep
    · -- The pending subscription has its payment already, under the same key.
      exfalso
      have found := Table.get_of_mem db.subscriptions subscription member
      obtain ⟨other, existing, pair⟩ :=
        lockstep.pairs _ (lockstep.pending _ subscription found pending)
      have stored := pair.subscribed
      rw [found] at stored
      cases stored
      have purpose := ((checkoutIndex_eq_some_iff _ _).mp pair.pays).1
      obtain ⟨id, _, pays, key⟩ := lockstep.checkouts existing.id existing pair.paid purpose
      rw [pair.pays] at pays
      cases pays
      have free := free_of_idempotencyConflict opens.unused
      obtain ⟨rowTenant, _, _, rowKey, _⟩ := opens.row
      refine free existing (Table.mem_of_get pair.paid) ?_ _ rfl ?_
      · intro same
        have fresh := opens.fresh
        rw [← same, pair.paid] at fresh
        cases fresh
      · rw [idempotencyIndex, rowTenant, rowKey, ← pair.tenant, tenant, key]
        rfl
  | inserted tenant pending fresh =>
    obtain ⟨rfl, payment, replays⟩ | ⟨payment, opens⟩ := leaves
    · -- Another subscription's payment cannot carry the key of a fresh id.
      exfalso
      obtain ⟨id, idMember, _, key⟩ := lockstep.checkouts payment.id payment
        (Table.get_of_mem db.payments payment replays.member) replays.purpose
      have same : id = subscription.id := subscriptionKey_injective (key.symm.trans replays.key)
      obtain ⟨other, _, pair⟩ := lockstep.pairs id idMember
      have stored := pair.subscribed
      rw [same, fresh] at stored
      cases stored
    · rw [insertedSubscriptions_insert fresh (by rw [opens.leaves])]
      exact lockstep.opensPair tenant pending fresh opens

private theorem startedSubscriptions_unchanged {app : App} {db : Db} {op : Op}
    (same : op.run app db = db) : op.startedSubscriptions app db = [] := by
  cases op with
  | startSubscription tenantId granted intake planCode provider newId clock =>
    rw [Op.startedSubscriptions, same]
    exact insertedSubscriptions_self rfl
  | _ => rfl

private theorem startedSubscriptions_finalizer {app : App} {db : Db} {op : Op} {tenantId : Uuid}
    {payment : Payment} (hands : op.Hands tenantId payment) :
    op.startedSubscriptions app db = [] := by
  cases op with
  | startSubscription tenantId granted intake planCode provider newId clock => cases hands
  | _ => rfl

theorem Lockstep.step {app : App} {db final : Db} {opened : List Uuid} {op : Op}
    (lockstep : Lockstep db opened) (leavesPurpose : op.leavesPurpose = true)
    (step : Step app db op final) (ran : op.run app db = final) :
    Lockstep final (opened ++ op.startedSubscriptions app db) := by
  have quiet : ∀ {after : Db} {started : List Uuid}, started = [] → Lockstep after opened →
      Lockstep after (opened ++ started) := by
    intro after started none kept
    rw [none, List.append_nil]
    exact kept
  cases step with
  | unchanged op =>
    apply quiet (startedSubscriptions_unchanged ran)
    exact lockstep
  | handled enabled parsed handles =>
    apply quiet rfl
    obtain same | ⟨payment, changed, moved, located, moves, same⟩ := handles.business
    · rw [same]
      exact lockstep.aging rfl (Aging.refl _)
    · rw [same]
      exact (lockstep.moves (locate_some located).1 moves).aging rfl (Aging.refl _)
  | moved hands found moves =>
    apply quiet (startedSubscriptions_finalizer hands)
    exact lockstep.moves found moves
  | opened opens =>
    apply quiet rfl
    exact lockstep.opensOther opens (by simpa [Op.leavesPurpose] using leavesPurpose)
  | started checkout leaves =>
      rw [Op.startedSubscriptions, ran]
      exact lockstep.started checkout leaves
  | @cancelRequested tenantId granted clock subscription code member tenant live =>
    apply quiet rfl
    have found := Table.get_of_mem db.subscriptions subscription member
    exact lockstep.aging rfl (aging_put found rfl (.aged live rfl (Or.inl rfl)))
  | subscribed subscribes =>
    apply quiet rfl
    exact lockstep.subscribes subscribes
  | ended ends =>
    apply quiet rfl
    exact lockstep.ends ends

theorem World.Reached.lockstep {app : App} {world : World} (reached : World.Reached app world) :
    Lockstep world.db world.opened := by
  induction reached with
  | initial db empty =>
    refine ⟨by simp, ?_, Table.unique_of_rows_nil _ empty.payments, ?_⟩
    · intro key payment found
      have member := Table.mem_of_get found
      rw [empty.payments] at member
      cases member
    · intro id subscription found
      have member := Table.mem_of_get found
      rw [empty.subscriptions] at member
      cases member
  | step world op leaves _ hypothesis =>
    exact hypothesis.step leaves (step_run app world.db op) rfl

theorem World.Reached.constraints {app : App} {world : World}
    (reached : World.Reached app world) : Constraints world.db := by
  induction reached with
  | initial db empty => exact .initial empty
  | step world op leaves _ hypothesis => exact hypothesis.step (step_run app world.db op)

/-! ## What the two rows owe each other -/

theorem Lockstep.activates {app : App} {db final : Db} {opened : List Uuid} {op : Op}
    (lockstep : Lockstep db opened) (step : Step app db op final) {id : Uuid}
    {before after : Payment} (found : db.payments.get before.id = some before)
    (pays : checkoutIndex before = some id)
    (left : final.payments.get before.id = some after) (unpaid : before.status ≠ .succeeded)
    (succeeded : after.status = .succeeded) :
    ∃ subscription, final.subscriptions.get id = some subscription ∧
      subscription.status = .active := by
  have kind := ((checkoutIndex_eq_some_iff _ _).mp pays).1
  obtain ⟨own, _, subscription, pair⟩ := lockstep.pair found kind
  have same := pair.pays
  rw [pays] at same
  cases same
  have differs : after ≠ before := by
    intro equal
    rw [equal] at succeeded
    exact unpaid succeeded
  obtain ⟨tenantId, moved, moves, leaves⟩ := step.moves_of_change found left differs
  rw [leaves]
  cases moves with
  | pended => cases succeeded
  | closed target => cases target <;> cases succeeded
  | succeeded clock legal subscriptions emitted activates =>
    cases activates with
    | other other => exact absurd kind other
    | subscription _ activated finish paid ends =>
      rw [pair.paidSubscription] at paid
      cases paid
      have stored := pair.subscribed
      rw [← Table.key_of_get pair.subscribed] at stored
      refine ⟨activatedRow subscription
        (activationStart db before subscription clock.activated) finish, ?_, rfl⟩
      rw [← Table.key_of_get pair.subscribed]
      exact (activatedSubscriptions_get stored _ finish _).trans (if_pos rfl)

theorem Pair.released {db : Db} {id : Uuid} {subscription : Subscription} {payment : Payment}
    (pair : Pair db id subscription payment) (constraints : Constraints db) (app : App)
    (isOpen : payment.status = .created ∨ payment.status = .pending) (clock : Clock) :
    ((Op.cancelPayment payment.tenantId payment.id clock).run app db).subscriptions.get id =
      some (droppedRow subscription .canceled clock.dropped) := by
  have member := Table.mem_of_get pair.paid
  obtain ⟨kind, names⟩ := (checkoutIndex_eq_some_iff _ _).mp pair.pays
  have closed := (close_ok_iff payment.tenantId payment (closedRow payment .canceled none
    clock.stamp) .canceled none clock db _).mpr
    ⟨(canTransition_closing_iff _ .canceled).mpr isOpen, rfl,
      (transactionConflict_eq_false_iff _ _).mpr
        (constraints.transactions.free member rfl rfl),
      fun _ => by rw [names]; rfl, rfl⟩
  have run : ∃ final, cancelPayment payment.tenantId payment.id clock db =
      .ok (paymentDto (closedRow payment .canceled none clock.stamp)) final ∧
      final.subscriptions = closedSubscriptions db payment .canceled clock.dropped := by
    unfold cancelPayment
    simp only [Tx.bind_run, Tx.get_run, pair.paid, Option.filter_some, decide_true, if_true,
      closed]
    exact ⟨_, rfl, rfl⟩
  obtain ⟨final, ran, leaves⟩ := run
  rw [Op.run, Tx.commit_of_ok ran, leaves]
  have pending := pair.statuses.isOpen.mp isOpen
  have stored : subscription.id = id := Table.key_of_get pair.subscribed
  have own : (droppedRow subscription .canceled clock.dropped).id = id := stored
  simp only [closedSubscriptions, droppedSubscriptions, kind, if_true, pair.paidSubscription,
    pending]
  rw [Table.get_put, if_pos own.symm, pair.subscribed]
  rfl

/-- In every state of every run, each subscription `start_subscription` created has
exactly one payment of purpose `subscription` and the two stay in lockstep; a
success activates the subscription in its own transaction; a paid subscription
is not pending; and a pending one has an open payment that releases it. -/
theorem subscription_and_payment_in_lockstep (app : App) (world : World)
    (reached : World.Reached app world) :
    (∀ id ∈ world.opened, ∃ subscription payment,
      world.db.subscriptions.get id = some subscription ∧
      world.db.payments.select (fun payment => checkoutIndex payment = some id) = [payment] ∧
      InLockstep payment.status subscription.status) ∧
    (∀ (op : Op), ∀ id ∈ world.opened, ∀ before after : Payment,
      world.db.payments.get before.id = some before → checkoutIndex before = some id →
      (world.next app op).db.payments.get before.id = some after →
      before.status ≠ .succeeded → after.status = .succeeded →
      ∃ subscription, (world.next app op).db.subscriptions.get id = some subscription ∧
        subscription.status = .active) ∧
    (∀ payment ∈ world.db.payments.rows, ∀ subscription ∈ world.db.subscriptions.rows,
      checkoutIndex payment = some subscription.id → payment.status = .succeeded →
      subscription.status ≠ .pending) ∧
    (∀ subscription ∈ world.db.subscriptions.rows, subscription.status = .pending →
      ∃ payment ∈ world.db.payments.rows, checkoutIndex payment = some subscription.id ∧
        (payment.status = .created ∨ payment.status = .pending) ∧
        ∀ clock, ∃ released,
          (world.next app (.cancelPayment payment.tenantId payment.id clock)).db.subscriptions.get
              subscription.id = some released ∧ released.status = .canceled) := by
  have lockstep := reached.lockstep
  refine ⟨?_, ?_, ?_, ?_⟩
  · intro id member
    obtain ⟨subscription, payment, pair⟩ := lockstep.pairs id member
    exact ⟨subscription, payment, pair.subscribed,
      lockstep.single.select_eq (Table.mem_of_get pair.paid) pair.pays, pair.statuses⟩
  · intro op id _ before after found pays left unpaid succeeded
    exact lockstep.activates (step_run app world.db op) found pays left unpaid succeeded
  · intro payment paymentMember subscription member pays succeeded
    have found := Table.get_of_mem world.db.payments payment paymentMember
    have kind := ((checkoutIndex_eq_some_iff _ _).mp pays).1
    obtain ⟨id, _, other, pair⟩ := lockstep.pair found kind
    have same := pair.pays
    rw [pays] at same
    cases same
    have stored := pair.subscribed
    rw [Table.get_of_mem world.db.subscriptions subscription member] at stored
    cases stored
    intro pending
    have isOpen := pair.statuses.isOpen.mpr pending
    rw [succeeded] at isOpen
    simp at isOpen
  · intro subscription member pending
    have found := Table.get_of_mem world.db.subscriptions subscription member
    obtain ⟨other, payment, pair⟩ :=
      lockstep.pairs _ (lockstep.pending _ subscription found pending)
    have stored := pair.subscribed
    rw [found] at stored
    cases stored
    have isOpen := pair.statuses.isOpen.mpr pending
    refine ⟨payment, Table.mem_of_get pair.paid, pair.pays, isOpen, ?_⟩
    intro clock
    exact ⟨_, pair.released reached.constraints app isOpen clock, rfl⟩

namespace Sample

def app : App where
  runtime := runtime
  settings := ⟨false, "", 3600⟩
  payme := none
  click := none
  stripe := none

def intake : PaymentIntake where
  runtime := runtime
  providers := [.click]
  newId := 7
  createCheckout := fun payment _ => .ok ⟨payment.id, .click, "url", none⟩

/-- The tenant opens a checkout and lets it run out. -/
def expiredCheckout : World :=
  ((World.mk emptyDb []).next app
    (.startSubscription tenant true intake "pro" "click" 3 clock)).next app
      (.expireCheckout ⟨7, tenant⟩ clock)

theorem expiredCheckout_reached : World.Reached app expiredCheckout :=
  .step _ _ rfl (.step _ _ rfl (.initial emptyDb ⟨rfl, rfl, rfl, rfl⟩))

theorem lockstep_of_expired_checkout :
    World.Reached app expiredCheckout ∧ expiredCheckout.opened = [3] ∧
      ∃ subscription payment, expiredCheckout.db.subscriptions.get 3 = some subscription ∧
        expiredCheckout.db.payments.select (fun payment => checkoutIndex payment = some 3) =
          [payment] ∧ InLockstep payment.status subscription.status :=
  ⟨expiredCheckout_reached, rfl,
    (subscription_and_payment_in_lockstep app expiredCheckout expiredCheckout_reached).1 3
      (by decide)⟩

end Sample

end BackendCore.Billing
