import BackendCore.Billing.Lockstep

/-!
# A tenant is always covered

Once a tenant has been subscribed to the free plan it keeps one live
subscription: the unique index gives at most one, and every path that closes a
live row leaves another one in the same transaction.  A checkout that is not
paid touches its pending row only.
-/

set_option autoImplicit false

namespace BackendCore.Billing

open BackendCore.Python

/-- Some live subscription of the tenant. -/
def Covered (subscriptions : Table Subscription.id) (tenantId : Uuid) : Prop :=
  ∃ id row, subscriptions.get id = some row ∧ row.tenantId = tenantId ∧
    row.status.isLive = true

/-- Auto-subscribe is enabled and names one active plan of price zero. -/
def HasFreePlan (settings : Settings) (plans : Table Plan.id) : Prop :=
  ∃ code plan, settings.fallback.filter (fun code => code ≠ "") = some code ∧
    plans.select (fun plan => plan.code = code && plan.isActive) = [plan] ∧
    plan.price.amount = 0

def liveOf (tenantId : Uuid) (subscription : Subscription) : Bool :=
  subscription.tenantId = tenantId && subscription.status.isLive

def pendingOf (tenantId : Uuid) (subscription : Subscription) : Bool :=
  subscription.tenantId = tenantId && decide (subscription.status = .pending)

/-! ## Writes that keep a tenant covered -/

theorem Covered.put {subscriptions : Table Subscription.id} {tenantId : Uuid}
    (covered : Covered subscriptions tenantId) (new : Subscription)
    (keeps : ∀ old, subscriptions.get new.id = some old → old.tenantId = tenantId →
      old.status.isLive = true → new.tenantId = tenantId ∧ new.status.isLive = true) :
    Covered (subscriptions.put new) tenantId := by
  obtain ⟨id, row, found, tenant, live⟩ := covered
  by_cases here : id = new.id
  · rw [here] at found
    obtain ⟨newTenant, newLive⟩ := keeps row found tenant live
    exact ⟨new.id, new, Table.get_put_self _ _ _ found, newTenant, newLive⟩
  · exact ⟨id, row, by rw [Table.get_put_of_ne _ _ _ here, found], tenant, live⟩

theorem Covered.insert {subscriptions : Table Subscription.id} {tenantId : Uuid}
    (covered : Covered subscriptions tenantId) (new : Subscription)
    (fresh : subscriptions.get new.id = none) :
    Covered (subscriptions.insert new fresh) tenantId := by
  obtain ⟨id, row, found, tenant, live⟩ := covered
  have differs : id ≠ new.id := by
    intro same
    rw [same, fresh] at found
    cases found
  exact ⟨id, row, by rw [Table.get_insert, if_neg differs, found], tenant, live⟩

theorem closedSubscriptions_get_live {db : Db} {payment : Payment} {target : Closing}
    {now : DateTime} {id : Uuid} {row : Subscription}
    (found : db.subscriptions.get id = some row) (live : row.status.isLive = true) :
    (closedSubscriptions db payment target now).get id = some row := by
  unfold closedSubscriptions droppedSubscriptions
  split
  · cases paid : paidSubscription db payment with
    | none => exact found
    | some subscription =>
      by_cases pending : subscription.status = .pending
      · have own : (droppedRow subscription target now).id = subscription.id := by
          unfold droppedRow
          split
          · rfl
          · rfl
        have differs : id ≠ (droppedRow subscription target now).id := by
          intro same
          rw [same, own, (paidSubscription_get paid).2] at found
          cases found
          rw [pending] at live
          cases live
        simp only [pending, if_true]
        rw [Table.get_put_of_ne _ _ _ differs, found]
      · simp only [pending, if_false]
        exact found
  · exact found

theorem Covered.activated {db : Db} {tenantId : Uuid} {payment : Payment}
    {subscription : Subscription} (covered : Covered db.subscriptions tenantId)
    (paid : paidSubscription db payment = some subscription) (now finish : DateTime) :
    Covered (activatedSubscriptions db payment subscription now finish) tenantId := by
  have stored := (paidSubscription_get paid).2
  have owner := paidSubscription_tenant paid
  by_cases own : payment.tenantId = tenantId
  · refine ⟨subscription.id, activatedRow subscription (activationStart db payment subscription now)
      finish, ?_, owner.trans own, rfl⟩
    rw [activatedSubscriptions_get stored, if_pos rfl]
  · -- The activation of another tenant's subscription leaves these rows alone.
    obtain ⟨id, row, found, tenant, live⟩ := covered
    have differs : id ≠ subscription.id := by
      intro same
      rw [same, stored] at found
      cases found
      exact own (owner.symm.trans tenant)
    have foreign : ¬ tenantId = payment.tenantId := fun same => own same.symm
    refine ⟨id, row, ?_, tenant, live⟩
    rw [activatedSubscriptions_get stored, if_neg differs, withoutReplaced, Table.get_mapRows,
      found]
    simp [isReplaced, tenant, foreign]

theorem Covered.moves {db final : Db} {tenantId owner : Uuid} {payment changed : Payment}
    (covered : Covered db.subscriptions tenantId)
    (moves : Moves db owner payment changed final) : Covered final.subscriptions tenantId := by
  cases moves with
  | pended => exact covered
  | succeeded clock legal subscriptions emitted activates =>
    cases activates with
    | other kind => exact covered
    | subscription kind subscription finish paid ends => exact covered.activated paid _ finish
  | closed =>
    obtain ⟨id, row, found, tenant, live⟩ := covered
    exact ⟨id, row, closedSubscriptions_get_live found live, tenant, live⟩

theorem Covered.checkout {db prepared : Db} {tenantId owner : Uuid} {subscription : Subscription}
    (covered : Covered db.subscriptions tenantId)
    (checkout : PendingCheckout db owner subscription prepared) :
    Covered prepared.subscriptions tenantId := by
  cases checkout with
  | existing => exact covered
  | inserted tenant pending fresh => exact covered.insert subscription fresh

theorem Covered.subscribes {db final : Db} {tenantId owner : Uuid} {code : String}
    (covered : Covered db.subscriptions tenantId) (subscribes : Subscribes db owner code final) :
    Covered final.subscriptions tenantId := by
  cases subscribes with
  | already => exact covered
  | inserted plan subscription planned free tenant planId live fresh =>
    exact covered.insert subscription fresh

/-- `auto_subscribe` covers its tenant. -/
theorem Subscribes.covered {db final : Db} {tenantId : Uuid} {code : String}
    (subscribes : Subscribes db tenantId code final) : Covered final.subscriptions tenantId := by
  cases subscribes with
  | already subscription member tenant live =>
    exact ⟨subscription.id, subscription, Table.get_of_mem _ _ member, tenant, live⟩
  | inserted plan subscription planned free tenant planId live =>
    exact ⟨subscription.id, subscription, by rw [Table.get_insert, if_pos rfl], tenant, live⟩

theorem FallsBack.subscribes {settings : Settings} {db final : Db} {tenantId : Uuid}
    (falls : FallsBack db tenantId settings.fallback final)
    (planned : HasFreePlan settings db.plans) :
    ∃ code, Subscribes db tenantId code final := by
  obtain ⟨code, plan, set, rows, free⟩ := planned
  cases falls with
  | unset no =>
    rw [set] at no
    cases no
  | refused other otherSet unfree =>
    rw [set] at otherSet
    cases otherSet
    exact absurd free (unfree plan rows)
  | subscribed other otherSet final subscribes => exact ⟨other, subscribes⟩

theorem Covered.ends {settings : Settings} {db final : Db} {tenantId owner : Uuid}
    {now : DateTime} (planned : HasFreePlan settings db.plans)
    (covered : Covered db.subscriptions tenantId)
    (closes : ClosesPeriod db owner settings.fallback now final) :
    Covered final.subscriptions tenantId := by
  cases closes with
  | nothing => exact covered
  | rolled subscription plan span due =>
    refine covered.put (rolledRow subscription span) ?_
    intro old stored oldTenant _
    have same : old = subscription := Option.some.inj (stored.symm.trans due.found)
    rw [same] at oldTenant
    exact ⟨oldTenant, rfl⟩
  | ended subscription code due final falls =>
    obtain ⟨fallback, subscribes⟩ := falls.subscribes planned
    by_cases own : owner = tenantId
    · rw [← own]
      exact subscribes.covered
    · have others : Covered (db.subscriptions.put (endedRow subscription now)) tenantId := by
        refine covered.put (endedRow subscription now) ?_
        intro old stored oldTenant _
        have same : old = subscription := Option.some.inj (stored.symm.trans due.found)
        rw [same] at oldTenant
        exact absurd (due.tenant.symm.trans oldTenant) own
      exact Covered.subscribes others subscribes

/-! ## Runs -/

theorem Step.plans {app : App} {db final : Db} {op : Op} (step : Step app db op final) :
    final.plans = db.plans := by
  cases step with
  | unchanged op => rfl
  | handled enabled parsed handles =>
    obtain same | ⟨payment, changed, moved, located, moving, same⟩ := handles.business
    · rw [same]
    · rw [same]
      exact moving.plans
  | moved hands found moving => exact moving.plans
  | opened opens => rw [opens.leaves]
  | started checkout leaves =>
      obtain ⟨rfl, _⟩ | ⟨payment, opens⟩ := leaves
      · exact checkout.rest.plans
      · rw [opens.leaves]
        exact checkout.rest.plans
  | cancelRequested => rfl
  | subscribed subscribes => exact subscribes.rest.plans
  | ended ends => exact ends.rest.plans

theorem Covered.step {app : App} {db final : Db} {op : Op} {tenantId : Uuid}
    (planned : HasFreePlan app.settings db.plans) (covered : Covered db.subscriptions tenantId)
    (step : Step app db op final) : Covered final.subscriptions tenantId := by
  cases step with
  | unchanged op => exact covered
  | handled enabled parsed handles =>
    obtain same | ⟨payment, changed, moved, located, moves, same⟩ := handles.business
    · rw [same]
      exact covered
    · have kept := covered.moves moves
      rw [same]
      exact kept
  | moved hands found moves => exact covered.moves moves
  | opened opens =>
    rw [opens.leaves]
    exact covered
  | started checkout leaves =>
      have prepares := covered.checkout checkout
      obtain ⟨rfl, _⟩ | ⟨payment, opens⟩ := leaves
      · exact prepares
      · rw [opens.leaves]
        exact prepares
  | @cancelRequested owner granted clock subscription code member tenant live =>
    refine covered.put (cancelRequestedRow subscription clock.now) ?_
    intro old stored oldTenant _
    have same : old = subscription :=
      Option.some.inj (stored.symm.trans (Table.get_of_mem _ _ member))
    rw [same] at oldTenant
    exact ⟨oldTenant, live⟩
  | subscribed subscribes => exact covered.subscribes subscribes
  | ended ends => exact covered.ends planned ends

theorem Runs.covered {app : App} {start db : Db} {tenantId : Uuid} (run : Runs app start db)
    (planned : HasFreePlan app.settings start.plans)
    (covered : Covered start.subscriptions tenantId) :
    HasFreePlan app.settings db.plans ∧ Covered db.subscriptions tenantId := by
  induction run with
  | refl => exact ⟨planned, covered⟩
  | step db op _ hypothesis =>
    have step := step_run app db op
    refine ⟨?_, hypothesis.2.step hypothesis.1 step⟩
    rw [step.plans]
    exact hypothesis.1

theorem Covered.select_eq {db : Db} {tenantId : Uuid} (constraints : Constraints db)
    (covered : Covered db.subscriptions tenantId) :
    ∃ live, db.subscriptions.select (liveOf tenantId) = [live] := by
  obtain ⟨id, row, found, tenant, live⟩ := covered
  refine ⟨row, Table.select_eq_singleton _ _ (Table.mem_of_get found) ?_ ?_⟩
  · simp [liveOf, tenant, live]
  · intro other member chosen
    simp only [liveOf, Bool.and_eq_true, decide_eq_true_eq] at chosen
    exact constraints.live.eq member (Table.mem_of_get found)
      ((liveIndex_eq_some_iff _ _).mpr ⟨chosen.2, chosen.1⟩)
      ((liveIndex_eq_some_iff _ _).mpr ⟨live, tenant⟩)

theorem Constraints.pending_le_one {db : Db} (constraints : Constraints db) (tenantId : Uuid) :
    (db.subscriptions.select (pendingOf tenantId)).length ≤ 1 := by
  cases rows : db.subscriptions.select (pendingOf tenantId) with
  | nil => simp
  | cons row rest =>
    have first : row ∈ db.subscriptions.select (pendingOf tenantId) := by
      rw [rows]
      exact List.mem_cons_self
    obtain ⟨member, chosen⟩ := (Table.mem_select _ _ _).mp first
    simp only [pendingOf, Bool.and_eq_true, decide_eq_true_eq] at chosen
    have only : db.subscriptions.select (pendingOf tenantId) = [row] := by
      refine Table.select_eq_singleton _ _ member (by simp [pendingOf, chosen]) ?_
      intro other otherMember otherChosen
      simp only [pendingOf, Bool.and_eq_true, decide_eq_true_eq] at otherChosen
      exact constraints.pending.eq otherMember member
        ((pendingIndex_eq_some_iff _ _).mpr ⟨otherChosen.2, otherChosen.1⟩)
        ((pendingIndex_eq_some_iff _ _).mpr ⟨chosen.2, chosen.1⟩)
    rw [rows] at only
    rw [only]
    simp

theorem Step.keepsLive_of_closed {app : App} {db final : Db} {op : Op}
    (step : Step app db op final) {paymentId : Uuid} {payment changed : Payment}
    (found : db.payments.get paymentId = some payment)
    (left : final.payments.get paymentId = some changed) (differs : changed ≠ payment)
    (closed : ∃ target : Closing, changed.status = target.status) {id : Uuid}
    {row : Subscription} (stored : db.subscriptions.get id = some row)
    (live : row.status.isLive = true) : final.subscriptions.get id = some row := by
  obtain ⟨tenantId, moved, moves, same⟩ := step.moves_of_change found left differs
  obtain ⟨target, status⟩ := closed
  rw [same]
  cases moves with
  | pended =>
    cases target with
    | failed => cases status
    | canceled => cases status
    | expired => cases status
  | succeeded =>
    cases target with
    | failed => cases status
    | canceled => cases status
    | expired => cases status
  | closed => exact closedSubscriptions_get_live stored live

/-- From a tenant's first `auto_subscribe` on, through any operations, it has one
live subscription and at most one pending one, and a checkout that an operation
closes without payment leaves every live row as it is. -/
theorem tenant_keeps_one_live_subscription (app : App) (db start final : Db) (tenantId : Uuid)
    (code : String) (newId : Uuid) (clock : Clock) (reached : Reachable app db)
    (planned : HasFreePlan app.settings db.plans)
    (first : Tx.commit (autoSubscribe tenantId code newId clock) db = (.ok (), start))
    (run : Runs app start final) :
    (∃ live, final.subscriptions.select (liveOf tenantId) = [live]) ∧
      (final.subscriptions.select (pendingOf tenantId)).length ≤ 1 ∧
      ∀ (op : Op) (payment changed : Payment),
        final.payments.get payment.id = some payment →
        (op.run app final).payments.get payment.id = some changed → changed ≠ payment →
        (∃ target : Closing, changed.status = target.status) →
        ∀ id row, final.subscriptions.get id = some row → row.status.isLive = true →
          (op.run app final).subscriptions.get id = some row := by
  have isRun : (Op.autoSubscribe tenantId code newId clock).run app db = start := by
    simp [Op.run, first]
  have step := step_run app db (.autoSubscribe tenantId code newId clock)
  rw [isRun] at step
  have covered : Covered start.subscriptions tenantId := by
    obtain ⟨value, after, ran, commits⟩ | ⟨raised, rolls⟩ :=
      Tx.commit_cases (autoSubscribe tenantId code newId clock) db
    · rw [first] at commits
      cases commits
      exact (autoSubscribe_ok ran).covered
    · rw [first] at rolls
      cases rolls
  have startPlanned : HasFreePlan app.settings start.plans := by
    rw [step.plans]
    exact planned
  have startReached : Reachable app start := by
    rw [← isRun]
    exact .step db _ reached
  have constraints := (run.reachable startReached).constraints
  refine ⟨(run.covered startPlanned covered).2.select_eq constraints,
    constraints.pending_le_one tenantId, ?_⟩
  intro op payment changed found left differs closed id row stored live
  exact (step_run app final op).keepsLive_of_closed found left differs closed stored live

namespace Sample

def freeApp : App := { app with settings := ⟨true, "free", 3600⟩ }

def unsubscribedDb : Db := { emptyDb with plans := ⟨[plan, freePlan], by decide⟩ }

def subscribedDb : Db := (Tx.commit (autoSubscribe tenant "free" 5 clock) unsubscribedDb).2

/-- The tenant on the free plan opens a checkout for a paid one. -/
def upgradingDb : Db :=
  (Op.startSubscription tenant true intake "pro" "click" 3 clock).run freeApp subscribedDb

def expiredDb : Db := (Op.expireCheckout ⟨7, tenant⟩ clock).run freeApp upgradingDb

theorem free_subscription_survives_expired_checkout :
    (upgradingDb.subscriptions.get 3).map Subscription.status = some .pending ∧
      (∃ live, upgradingDb.subscriptions.select (liveOf tenant) = [live]) ∧
      expiredDb.subscriptions.get 5 = upgradingDb.subscriptions.get 5 := by
  obtain ⟨one, _, kept⟩ := tenant_keeps_one_live_subscription freeApp unsubscribedDb subscribedDb
    upgradingDb tenant "free" 5 clock (.initial _ ⟨rfl, rfl, rfl, rfl⟩)
    ⟨"free", freePlan, rfl, rfl, rfl⟩ rfl (.step _ _ .refl)
  exact ⟨rfl, one, kept (.expireCheckout ⟨7, tenant⟩ clock) ((upgradingDb.payments.get 7).get rfl)
    ((expiredDb.payments.get 7).get rfl) rfl rfl (by decide) ⟨.expired, rfl⟩ 5 _ rfl rfl⟩

end Sample

end BackendCore.Billing
