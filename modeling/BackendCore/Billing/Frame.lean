import BackendCore.Billing.Redelivery

/-!
# What a callback may touch

A callback that is not applied leaves everything but the ledger alone.  One that
is applied changes the payment it locates; every other row it changes or writes
and every event it emits is of that payment's tenant.
-/

set_option autoImplicit false

namespace BackendCore.Billing

open BackendCore.Python

/-! ## Rows of one tenant -/

/-- The two tables differ in rows of the tenant only, and in none that is missing
on one side. -/
def OnlyTenant (tenantId : Uuid) (before after : Table Subscription.id) : Prop :=
  ∀ id, after.get id ≠ before.get id → ∃ old new, before.get id = some old ∧
    after.get id = some new ∧ old.tenantId = tenantId ∧ new.tenantId = tenantId

theorem OnlyTenant.refl (tenantId : Uuid) (table : Table Subscription.id) :
    OnlyTenant tenantId table table := by
  intro id differs
  exact absurd rfl differs

theorem OnlyTenant.put {tenantId : Uuid} {table : Table Subscription.id} {old : Subscription}
    (stored : table.get old.id = some old) (own : old.tenantId = tenantId) (new : Subscription)
    (same : new.id = old.id) (tenant : new.tenantId = old.tenantId) :
    OnlyTenant tenantId table (table.put new) := by
  intro id differs
  rw [Table.get_put] at differs ⊢
  by_cases here : id = new.id
  · rw [if_pos here, here, same, stored]
    exact ⟨old, new, rfl, rfl, own, tenant.trans own⟩
  · rw [if_neg here] at differs
    exact absurd rfl differs

theorem onlyTenant_dropped (db : Db) (payment : Payment) (target : Closing) (now : DateTime) :
    OnlyTenant payment.tenantId db.subscriptions (closedSubscriptions db payment target now) := by
  unfold closedSubscriptions droppedSubscriptions
  split
  · split
    · exact .refl _ _
    · rename_i subscription paid
      split
      · refine .put (paidSubscription_get paid).2 (paidSubscription_tenant paid) _ ?_ ?_
        · unfold droppedRow
          split <;> rfl
        · unfold droppedRow
          split <;> rfl
      · exact .refl _ _
  · exact .refl _ _

theorem onlyTenant_activated {db : Db} {payment : Payment} {subscription : Subscription}
    (paid : paidSubscription db payment = some subscription) (now finish : DateTime) :
    OnlyTenant payment.tenantId db.subscriptions
      (activatedSubscriptions db payment subscription now finish) := by
  have stored := (paidSubscription_get paid).2
  have own := paidSubscription_tenant paid
  intro id differs
  rw [activatedSubscriptions_get stored] at differs ⊢
  by_cases here : id = subscription.id
  · rw [if_pos here, here, stored]
    exact ⟨subscription, _, rfl, rfl, own, own⟩
  · rw [if_neg here, withoutReplaced, Table.get_mapRows] at differs ⊢
    cases found : db.subscriptions.get id with
    | none =>
      rw [found] at differs
      exact absurd rfl differs
    | some old =>
      rw [found, Option.map_some] at differs
      rw [Option.map_some]
      by_cases replaced : isReplaced payment.tenantId subscription.id old = true
      · rw [if_pos replaced]
        simp only [isReplaced, Bool.and_eq_true, decide_eq_true_eq] at replaced
        exact ⟨old, _, rfl, rfl, replaced.1.1, replaced.1.1⟩
      · rw [if_neg replaced] at differs
        exact absurd rfl differs

/-! ## One payment -/

/-- Nothing but the ledger differs. -/
structure Untouched (before after : Db) : Prop where
  plans : after.plans = before.plans
  payments : after.payments = before.payments
  subscriptions : after.subscriptions = before.subscriptions
  audit : after.audit = before.audit
  events : after.events = before.events

/-- Apart from the ledger, the payment row is the only one that differs and everything
else that differs or was added is of the payment's tenant. -/
structure Touches (before after : Db) (payment changed : Payment) : Prop where
  differs : changed ≠ payment
  plans : after.plans = before.plans
  payments : ∀ id, after.payments.get id =
    if id = payment.id then some changed else before.payments.get id
  subscriptions : OnlyTenant payment.tenantId before.subscriptions after.subscriptions
  audit : ∃ written, after.audit = before.audit ++ written ∧
    ∀ row ∈ written, row.tenantId = payment.tenantId
  events : ∃ emitted, after.events = before.events ++ emitted ∧
    ∀ event ∈ emitted, event.tenantId = payment.tenantId

private theorem Moves.subscriptions_of_tenant {db final : Db} {payment changed : Payment}
    (moves : Moves db payment.tenantId payment changed final) :
    OnlyTenant payment.tenantId db.subscriptions final.subscriptions := by
  cases moves with
  | pended => exact .refl _ _
  | succeeded clock legal subscriptions emitted activates =>
    cases activates with
    | other kind => exact .refl _ _
    | subscription kind subscription finish paid ends => exact onlyTenant_activated paid _ finish
  | closed target => exact onlyTenant_dropped db payment target _

private theorem Activates.events_of_tenant {db : Db} {tenantId : Uuid} {payment : Payment}
    {clock : Clock} {subscriptions : Table Subscription.id} {emitted : List Event}
    (activates : Activates db tenantId payment clock subscriptions emitted) :
    ∀ event ∈ emitted, event.tenantId = tenantId := by
  cases activates with
  | other kind =>
    intro event member
    cases member
  | subscription kind subscription finish paid ends =>
    intro event member
    rcases List.mem_append.mp member with replaced | activated
    · obtain ⟨old, _, rfl⟩ := List.mem_map.mp replaced
      rfl
    · rw [List.mem_singleton] at activated
      rw [activated]

private theorem Moves.events_of_tenant {db final : Db} {tenantId : Uuid}
    {payment changed : Payment} (moves : Moves db tenantId payment changed final) :
    ∃ emitted, final.events = db.events ++ emitted ∧
      ∀ event ∈ emitted, event.tenantId = tenantId := by
  cases moves with
  | pended => exact ⟨[], (List.append_nil _).symm, by simp⟩
  | succeeded clock legal subscriptions emitted activates =>
    refine ⟨emitted ++ [successEvent tenantId payment clock.paid], List.append_assoc _ _ _, ?_⟩
    intro event member
    rcases List.mem_append.mp member with activation | success
    · exact activates.events_of_tenant event activation
    · rw [List.mem_singleton] at success
      rw [success]
      rfl
  | closed =>
    refine ⟨_, rfl, ?_⟩
    intro event member
    rw [List.mem_singleton] at member
    rw [member]

private theorem Moves.audit_of_tenant {db final : Db} {tenantId : Uuid}
    {payment changed : Payment} (moves : Moves db tenantId payment changed final) :
    ∃ written, final.audit = db.audit ++ written ∧ ∀ row ∈ written, row.tenantId = tenantId := by
  cases moves with
  | pended => exact ⟨[], (List.append_nil _).symm, by simp⟩
  | succeeded => exact ⟨_, rfl, by simp⟩
  | closed => exact ⟨_, rfl, by simp⟩

theorem Moves.touches {db final : Db} {payment changed : Payment}
    (moves : Moves db payment.tenantId payment changed final)
    (stored : db.payments.get payment.id = some payment) : Touches db final payment changed where
  differs := by
    intro same
    have legal := moves.advances.2
    rw [same, canTransition_irrefl] at legal
    cases legal
  plans := by cases moves <;> rfl
  payments := moves.get stored
  subscriptions := moves.subscriptions_of_tenant
  audit := moves.audit_of_tenant
  events := moves.events_of_tenant

/-! ## Every callback -/

/-- The outcome of a duplicate is never `ok`. -/
theorem replayOutcome_not_ok (row : PaymentWebhook) (payment : Option Payment)
    (callback : ProviderCallback) : (replayOutcome row payment callback).status ≠ .ok := by
  unfold replayOutcome
  simp only
  split
  · split <;> simp
  · simp
  · simp
  · simp

private theorem Settles.frame {db final : Db} {callback : ProviderCallback}
    {received : PaymentWebhook} {now : DateTime} {outcome : CallbackOutcome}
    (settles : Settles db callback received now outcome final) :
    (outcome.status ≠ .ok ∧ Untouched db final) ∨
      (outcome.status = .ok ∧ ∃ payment changed, locate db callback = .ok (some payment) ∧
        Touches db final payment changed) := by
  cases settles with
  | unknown => exact Or.inl ⟨by simp, rfl, rfl, rfl, rfl, rfl⟩
  | mismatched => exact Or.inl ⟨by simp, rfl, rfl, rfl, rfl, rfl⟩
  | refused =>
    exact Or.inl ⟨by simp, rfl, rfl, rfl, rfl, rfl⟩
  | applied payment located agrees changed moved moves =>
    have touches := moves.touches (locate_some located).1
    exact Or.inr ⟨rfl, payment, changed, located, touches.differs, touches.plans,
      touches.payments, touches.subscriptions, touches.audit, touches.events⟩

theorem Handles.frame {runtime : Runtime} {db final : Db} {provider : Provider}
    {callback : ProviderCallback} {raw : RawWebhook} {now : DateTime} {outcome : CallbackOutcome}
    (handles : Handles runtime db provider callback raw now outcome final) :
    ((outcome.status ≠ .ok ∨ callback.action.isReadOnly = true) ∧ Untouched db final) ∨
      (outcome.status = .ok ∧ callback.action.isReadOnly = false ∧
        ∃ payment changed, locate db callback = .ok (some payment) ∧
          Touches db final payment changed) := by
  cases handles with
  | read readOnly => exact Or.inl ⟨Or.inr readOnly, rfl, rfl, rfl, rfl, rfl⟩
  | forged => exact Or.inl ⟨Or.inl (by simp), rfl, rfl, rfl, rfl, rfl⟩
  | replayed =>
    exact Or.inl ⟨Or.inl (replayOutcome_not_ok _ _ _), rfl, rfl, rfl, rfl, rfl⟩
  | settled changes signed fresh outcome final settles =>
    rcases settles.frame with ⟨notOk, untouched⟩ | ⟨ok, touched⟩
    · exact Or.inl ⟨Or.inl notOk, untouched⟩
    · exact Or.inr ⟨ok, changes, touched⟩

/-- A callback whose outcome is not `ok`, and one that only reads, leaves every payment,
subscription and audit row and the emitted events as they were.  A state-changing
callback with outcome `ok` changes exactly the payment it locates, one of its own
provider, and touches rows and emits events of that payment's tenant only.  When the
call raises, nothing is committed. -/
theorem process_touches_only_the_located_payment (app : App) (db : Db) (providerCode : String)
    (adapter : Adapter) (enabled : app.adapter providerCode = some adapter) (raw : RawWebhook)
    (moment : ℚ) (clock : Clock) (callback : ProviderCallback)
    (parsed : adapter.parseWebhook app.runtime moment raw = .ok callback) :
    match dispatch app.runtime adapter.code callback raw clock db with
    | .error _ _ => (process app providerCode raw moment clock db).2 = db
    | .ok outcome final =>
      (process app providerCode raw moment clock db).2 = final ∧
        (outcome.status ≠ .ok ∨ callback.action.isReadOnly = true → Untouched db final) ∧
        (outcome.status = .ok → callback.action.isReadOnly = false →
          ∃ payment changed, locate db callback = .ok (some payment) ∧
            payment.provider = callback.provider ∧ Touches db final payment changed) := by
  cases run : dispatch app.runtime adapter.code callback raw clock db with
  | error raised copy =>
    unfold process
    simp only [enabled, parsed, Tx.commit_of_error run]
  | ok outcome final =>
    refine ⟨by rw [process_of_dispatch enabled parsed run], ?_⟩
    rcases (dispatch_ok run).frame with ⟨kind, untouched⟩ | ⟨ok, changes, payment, changed, rest⟩
    · refine ⟨fun _ => untouched, ?_⟩
      intro ok changes
      rcases kind with notOk | readOnly
      · exact absurd ok notOk
      · rw [changes] at readOnly
        cases readOnly
    · constructor
      · rintro (notOk | readOnly)
        · exact absurd ok notOk
        · rw [changes] at readOnly
          cases readOnly
      · intro _ _
        exact ⟨payment, changed, rest.1, (locate_some rest.1).2, rest.2⟩

namespace Sample

/-- Complete changes the prepared order and nothing of another tenant. -/
theorem complete_touches_prepared_order :
    ∃ payment changed, locate preparedDb completeCallback = .ok (some payment) ∧
      payment.provider = completeCallback.provider ∧
      Touches preparedDb (process clickApp "click" completeRequest 0 clock preparedDb).2 payment
        changed := by
  obtain ⟨outcome, final, run, status⟩ : ∃ outcome final,
      dispatch clickApp.runtime .click completeCallback completeRequest clock preparedDb =
        .ok outcome final ∧ outcome.status = .ok := ⟨_, _, rfl, rfl⟩
  have frame := process_touches_only_the_located_payment clickApp preparedDb "click"
    (.click clickConfig) rfl completeRequest 0 clock completeCallback complete_parsed
  have code : (Adapter.click clickConfig).code = .click := rfl
  rw [code, run] at frame
  rw [frame.1]
  exact frame.2.2 status rfl

end Sample

end BackendCore.Billing
