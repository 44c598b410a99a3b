import BackendCore.Billing.Frame

/-!
# What operations leave alone

Every committed operation is the business of one tenant: the payments and subscriptions of every
other tenant stay as they were, and what is published or written to the audit log is of that one.
The rows of the webhook ledger stay whatever happens, and stay true.
-/

set_option autoImplicit false

namespace BackendCore.Billing

open BackendCore.Python

/-! ## Other tenants -/

/-- Nothing of another tenant differs. -/
structure Apart (owner : Uuid) (before after : Db) : Prop where
  payments : ∀ row, row.tenantId ≠ owner → (row ∈ after.payments.rows ↔ row ∈ before.payments.rows)
  subscriptions : ∀ row, row.tenantId ≠ owner →
    (row ∈ after.subscriptions.rows ↔ row ∈ before.subscriptions.rows)
  events : ∃ emitted, after.events = before.events ++ emitted ∧
    ∀ event ∈ emitted, event.tenantId = owner
  audit : ∃ written, after.audit = before.audit ++ written ∧ ∀ row ∈ written, row.tenantId = owner

variable {owner : Uuid} {db middle final : Db}

theorem Apart.refl (owner : Uuid) (db : Db) : Apart owner db db :=
  ⟨fun _ _ => .rfl, fun _ _ => .rfl, ⟨[], by simp⟩, ⟨[], by simp⟩⟩

theorem Apart.withWebhooks {webhooks : Table PaymentWebhook.key} (apart : Apart owner db final) :
    Apart owner db { final with webhooks := webhooks } :=
  ⟨apart.payments, apart.subscriptions, apart.events, apart.audit⟩

theorem Apart.trans (first : Apart owner db middle) (second : Apart owner middle final) :
    Apart owner db final := by
  obtain ⟨told, toldEq, toldOwn⟩ := first.events
  obtain ⟨more, moreEq, moreOwn⟩ := second.events
  obtain ⟨written, writtenEq, writtenOwn⟩ := first.audit
  obtain ⟨rest, restEq, restOwn⟩ := second.audit
  refine ⟨?_, ?_, ⟨told ++ more, ?_, ?_⟩, ⟨written ++ rest, ?_, ?_⟩⟩
  · exact fun row foreign => (second.payments row foreign).trans (first.payments row foreign)
  · intro row foreign
    exact (second.subscriptions row foreign).trans (first.subscriptions row foreign)
  · rw [moreEq, toldEq, List.append_assoc]
  · exact List.forall_mem_append.mpr ⟨toldOwn, moreOwn⟩
  · rw [restEq, writtenEq, List.append_assoc]
  · exact List.forall_mem_append.mpr ⟨writtenOwn, restOwn⟩

/-- Subscriptions of the owner, with at most one event. -/
theorem apart_subscriptions (db : Db) {table : Table Subscription.id} (told : Option Payload)
    (rows : ∀ row, row.tenantId ≠ owner → (row ∈ table.rows ↔ row ∈ db.subscriptions.rows)) :
    Apart owner db { db with
      subscriptions := table, events := db.events ++ (told.map (⟨owner, ·⟩)).toList } := by
  refine ⟨fun _ _ => .rfl, rows, ⟨_, rfl, ?_⟩, (Apart.refl owner db).audit⟩
  intro event member
  cases told with
  | none => cases member
  | some payload => rw [List.mem_singleton.mp member]

theorem mem_insert_foreign {table : Table Subscription.id} {new : Subscription}
    (fresh : table.get new.id = none) (mine : new.tenantId = owner) (row : Subscription)
    (foreign : row.tenantId ≠ owner) : row ∈ (table.insert new fresh).rows ↔ row ∈ table.rows := by
  rw [Table.mem_insert, or_iff_left]
  rintro rfl
  exact foreign mine

theorem mem_iff_get {R : Type} {key : R → Uuid} (table : Table key) (row : R) :
    row ∈ table.rows ↔ table.get (key row) = some row :=
  ⟨table.get_of_mem row, Table.mem_of_get⟩

theorem OnlyTenant.mem_foreign {before after : Table Subscription.id}
    (only : OnlyTenant owner before after) (row : Subscription) (foreign : row.tenantId ≠ owner) :
    row ∈ after.rows ↔ row ∈ before.rows := by
  rw [mem_iff_get, mem_iff_get]
  by_cases same : after.get row.id = before.get row.id
  · rw [same]
  · obtain ⟨old, new, was, is, mine, stays⟩ := only row.id same
    rw [was, is]
    constructor
    · rintro ⟨⟩
      exact absurd stays foreign
    · rintro ⟨⟩
      exact absurd mine foreign

theorem Moves.apart {payment changed : Payment}
    (moves : Moves db payment.tenantId payment changed final)
    (stored : db.payments.get payment.id = some payment) : Apart payment.tenantId db final := by
  have touches := moves.touches stored
  refine ⟨?_, touches.subscriptions.mem_foreign, touches.events, touches.audit⟩
  intro row foreign
  rw [mem_iff_get, mem_iff_get, touches.payments]
  by_cases here : row.id = payment.id
  · rw [if_pos here, here, stored]
    constructor
    · rintro ⟨⟩
      exact absurd moves.advances.1.tenantId foreign
    · rintro ⟨⟩
      exact absurd rfl foreign
  · rw [if_neg here]

theorem Opens.apart {newId : Uuid} {request : PaymentRequest} {payment : Payment}
    (opens : Opens db owner newId request payment final) : Apart owner db final := by
  obtain ⟨provider, createdAt, checkout, shape⟩ := opens.shape
  rw [opens.leaves]
  refine ⟨?_, fun _ _ => .rfl, ⟨_, rfl, ?_⟩, (Apart.refl owner db).audit⟩
  · intro row foreign
    rw [Table.mem_insert, or_iff_left]
    rintro rfl
    rw [shape] at foreign
    exact foreign rfl
  · intro event member
    rw [List.mem_singleton.mp member]

theorem Subscribes.apart {code : String} (subscribes : Subscribes db owner code final) :
    Apart owner db final := by
  cases subscribes with
  | already => exact .refl owner db
  | inserted plan subscription planned free tenant planId live fresh =>
    exact apart_subscriptions db (some _) (mem_insert_foreign fresh tenant)

theorem ClosesPeriod.apart {fallback : Option String} {now : DateTime}
    (closes : ClosesPeriod db owner fallback now final) : Apart owner db final := by
  cases closes with
  | nothing => exact .refl owner db
  | rolled subscription plan span due =>
    have only := OnlyTenant.put due.found due.tenant (rolledRow subscription span) rfl rfl
    simpa using apart_subscriptions db none only.mem_foreign
  | ended subscription code due final falls =>
    have only := OnlyTenant.put due.found due.tenant (endedRow subscription now) rfl rfl
    have closed : Apart owner db (endedDb db subscription code now) := by
      rw [endedDb, due.tenant]
      exact apart_subscriptions db (some _) only.mem_foreign
    cases falls with
    | unset => exact closed
    | refused => exact closed
    | subscribed code set final subscribes => exact closed.trans subscribes.apart

/-- The tenant whose business an operation is: of a webhook, that of the payment its callback
locates, if any. -/
def Op.tenant? (app : App) (db : Db) : Op → Option Uuid
  | .createPayment tenantId .. | .startSubscription tenantId .. | .cancelPayment tenantId ..
  | .failPayment tenantId .. | .cancelSubscription tenantId .. | .autoSubscribe tenantId .. =>
    some tenantId
  | .expireCheckout target _ | .endSubscription target .. => some target.tenantId
  | .webhook providerCode raw moment _ => do
    let adapter ← app.adapter providerCode
    let callback ← (adapter.parseWebhook app.runtime moment raw).toOption
    let payment ← locatedPayment db callback
    some payment.tenantId

/-- An operation changes the rows of its own tenant at most, and one without a tenant those of
none.  A checkout the sweep expires is named with the tenant of its payment, as the scan finds
it. -/
theorem operation_touches_one_tenant (app : App) (db : Db) (op : Op)
    (scanned : ∀ target clock payment, op = .expireCheckout target clock →
      db.payments.get target.id = some payment → payment.tenantId = target.tenantId) :
    ∀ owner, op.tenant? app db = none ∨ op.tenant? app db = some owner →
      Apart owner db (op.run app db) := by
  intro owner own
  have step := step_run app db op
  generalize op.run app db = final at step ⊢
  cases step with
  | unchanged op => exact .refl owner db
  | @handled providerCode raw moment clock adapter callback outcome final enabled parsed handles =>
    obtain same | ⟨payment, changed, moved, located, moves, same⟩ := handles.business
    · rw [same]
      exact (Apart.refl owner db).withWebhooks
    · have named : Op.tenant? app db (.webhook providerCode raw moment clock) =
          some payment.tenantId := by
        simp [Op.tenant?, enabled, parsed, locatedPayment_of located, Except.toOption]
      obtain rfl : payment.tenantId = owner := by simpa [named] using own
      rw [same]
      exact (moves.apart (locate_some located).1).withWebhooks
  | @moved op tenantId payment changed final hands found moves =>
    have owned : op.tenant? app db = some tenantId ∧ payment.tenantId = tenantId := by
      cases op with
      | cancelPayment | failPayment => exact ⟨by rw [hands.1]; rfl, hands.2.trans hands.1.symm⟩
      | expireCheckout target clock =>
        obtain ⟨rfl, named⟩ := hands
        exact ⟨rfl, scanned target clock payment rfl (named ▸ found)⟩
      | _ => cases hands
    obtain ⟨named, rfl⟩ := owned
    obtain rfl : payment.tenantId = owner := by simpa [named] using own
    exact moves.apart found
  | @opened tenantId intake request clock payment final opens =>
    obtain rfl : tenantId = owner := by simpa [Op.tenant?] using own
    exact opens.apart
  | @started tenantId granted intake planCode provider newId clock subscription prepared final
      pending leaves =>
    obtain rfl : tenantId = owner := by simpa [Op.tenant?] using own
    have first : Apart tenantId db prepared := by
      cases pending with
      | existing => exact .refl tenantId db
      | inserted tenant pending fresh =>
        simpa using apart_subscriptions db none (mem_insert_foreign fresh tenant)
    obtain ⟨rfl, _⟩ | ⟨payment, opens⟩ := leaves
    · exact first
    · exact first.trans opens.apart
  | @cancelRequested tenantId granted clock subscription code member tenant live =>
    obtain rfl : tenantId = owner := by simpa [Op.tenant?] using own
    have found := db.subscriptions.get_of_mem subscription member
    have only := OnlyTenant.put found tenant (cancelRequestedRow subscription clock.now) rfl rfl
    exact apart_subscriptions db (some _) only.mem_foreign
  | @subscribed tenantId code newId clock final subscribes =>
    obtain rfl : tenantId = owner := by simpa [Op.tenant?] using own
    exact subscribes.apart
  | @ended target newId clock final closes =>
    obtain rfl : target.tenantId = owner := by simpa [Op.tenant?] using own
    exact closes.apart

/-! ## The ledger -/

/-- A row of the ledger is never changed or removed, and what it says of its payment holds ever
after. -/
theorem ledger_rows_are_kept_and_true {app : App} {start db : Db} (reached : Reachable app start)
    (run : Runs app start db) {key : Provider × String} {row : PaymentWebhook}
    (found : start.webhooks.get key = some row) :
    db.webhooks.get key = some row ∧ Records db row := by
  have kept := run.keepsLedger found
  exact ⟨kept, (run.reachable reached).ledger key row kept⟩

namespace Sample

/-- Click's Prepare of the order, and the sweep that expires it. -/
theorem order_operations_touch_one_tenant :
    Apart tenant orderedDb preparedDb ∧
      Apart tenant orderedDb ((Op.expireCheckout ⟨7, tenant⟩ clock).run clickApp orderedDb) := by
  refine ⟨operation_touches_one_tenant clickApp orderedDb (.webhook "click" prepareRequest 0 clock)
    (by intro target clock payment same; cases same) tenant (.inr rfl), ?_⟩
  refine operation_touches_one_tenant clickApp orderedDb (.expireCheckout ⟨7, tenant⟩ clock) ?_
    tenant (.inr rfl)
  intro target clock payment same found
  cases same
  have stored : (orderedDb.payments.get 7).map Payment.tenantId = some tenant := rfl
  rw [found] at stored
  exact Option.some.inj stored

theorem prepared_row_is_kept :
    ∃ key row, preparedDb.webhooks.get key = some row ∧
      ((Op.webhook "click" completeRequest 0 clock).run clickApp preparedDb).webhooks.get key =
        some row := by
  obtain ⟨row, found⟩ : ∃ row,
      preparedDb.webhooks.get (.click, dedupKey prepareCallback) = some row := ⟨_, rfl⟩
  have run : Runs clickApp preparedDb _ :=
    .step preparedDb (.webhook "click" completeRequest 0 clock) .refl
  have kept := ledger_rows_are_kept_and_true (.step _ _ orderedDb_reached) run found
  exact ⟨_, row, found, kept.1⟩

end Sample

end BackendCore.Billing
