import BackendCore.Lib.RowLock
import BackendCore.Billing.System

/-!
# The life of a payment

Webhook callbacks, the expiry sweep, `cancel_payment` and `mark_failed` are the writers
of a payment row.  Each locks the row before it reads the status, so by
`RowLock.Reaches.serial` the committed row goes through a chain of writers; what
else a writer sees of the database (ledger, subscriptions, other payments) is
left open.  One writer moves the status along one edge or not at all, and
publishes the event of the status it reached.
-/

set_option autoImplicit false

namespace BackendCore.Billing

open BackendCore.Python

/-! ## Writers of a payment row -/

inductive Writer where
  | webhook (provider : Provider) (callback : ProviderCallback) (raw : RawWebhook)
      (clock : Clock)
  | expiry (target : Target) (clock : Clock)
  | cancel (tenantId paymentId : Uuid) (clock : Clock)
  | fail (tenantId paymentId : Uuid) (reason : String) (clock : Clock)

def Writer.body (runtime : Runtime) : Writer → BillingTx Unit
  | .webhook provider callback raw clock => do
      let _ ← dispatch runtime provider callback raw clock
      pure ()
  | .expiry target clock => do
      let _ ← expireCheckout target clock
      pure ()
  | .cancel tenantId paymentId clock => do
      let _ ← cancelPayment tenantId paymentId clock
      pure ()
  | .fail tenantId paymentId reason clock => do
      let _ ← failPayment tenantId paymentId reason clock
      pure ()

/-- The sweep took the tenant of its target from the row it is about. -/
def Writer.Targets (payment : Payment) : Writer → Prop
  | .expiry target _ => target.id = payment.id → target.tenantId = payment.tenantId
  | _ => True

def Event.isAbout (id : Uuid) (event : Event) : Bool := event.payload.paymentId = some id

/-- A writer that read the row `before` may leave `after` and publish `out`
about the payment: its body returned on some database with that row. -/
def Writes (runtime : Runtime) (id : Uuid) (writer : Writer) (before after : Payment)
    (out : List Event) : Prop :=
  ∃ db final published, db.payments.get id = some before ∧
    writer.body runtime db = .ok () final ∧ final.payments.get id = some after ∧
    final.events = db.events ++ published ∧ out = published.filter (Event.isAbout id)

/-- The event a payment publishes when it reaches a status. -/
def reachedEvents : PaymentStatus → List String
  | .succeeded => ["billing.payment.succeeded"]
  | .failed => ["billing.payment.failed"]
  | .canceled => ["billing.payment.canceled"]
  | .expired => ["billing.payment.expired"]
  | _ => []

/-! ## One writer -/

private theorem activates_silent {db : Db} {tenantId : Uuid} {payment : Payment} {clock : Clock}
    {subscriptions : Table Subscription.id} {emitted : List Event}
    (activates : Activates db tenantId payment clock subscriptions emitted) (id : Uuid) :
    emitted.filter (Event.isAbout id) = [] := by
  rw [List.filter_eq_nil_iff]
  intro event member
  cases activates with
  | other kind => cases member
  | subscription kind subscription finish paid ends =>
    rcases List.mem_append.mp member with replaced | activated
    · obtain ⟨old, _, rfl⟩ := List.mem_map.mp replaced
      simp [Event.isAbout, Payload.paymentId]
    · rw [List.mem_singleton] at activated
      subst activated
      simp [Event.isAbout, Payload.paymentId]

/-- The edges of the state machine and what each publishes about the payment. -/
inductive Edge (tenantId : Uuid) (before after : Payment) : List Event → Prop where
  | pended (created : before.status = .created) (now : after.status = .pending) :
      Edge tenantId before after []
  | succeeded (paidAt : DateTime) (legal : canTransition before.status .succeeded = true)
      (now : after.status = .succeeded) :
      Edge tenantId before after [successEvent tenantId before paidAt]
  | closed (target : Closing) (reason : Option String)
      (legal : canTransition before.status target.status = true)
      (now : after.status = target.status) :
      Edge tenantId before after [⟨tenantId, target.payload (paymentEventPayload before) reason⟩]

theorem Edge.reached {tenantId : Uuid} {before after : Payment} {out : List Event}
    (edge : Edge tenantId before after out) :
    canTransition before.status after.status = true ∧
      out.map (fun event => event.payload.name) = reachedEvents after.status := by
  cases edge with
  | pended created now =>
    rw [now]
    exact ⟨(canTransition_pending_iff _).mpr created, rfl⟩
  | succeeded paidAt legal now =>
    rw [now]
    exact ⟨legal, rfl⟩
  | closed target reason legal now =>
    rw [now]
    cases target with
    | failed => exact ⟨legal, rfl⟩
    | canceled => exact ⟨legal, rfl⟩
    | expired => exact ⟨legal, rfl⟩

private theorem successEvent_isAbout (tenantId id : Uuid) (payment : Payment)
    (paidAt : DateTime) :
    (successEvent tenantId payment paidAt).isAbout id = decide (payment.id = id) := by
  simp [successEvent, Event.isAbout, Payload.paymentId, paymentEventPayload]

private theorem closing_isAbout (tenantId id : Uuid) (payment : Payment) (target : Closing)
    (reason : Option String) :
    (⟨tenantId, target.payload (paymentEventPayload payment) reason⟩ : Event).isAbout id =
      decide (payment.id = id) := by
  cases target with
  | failed => simp [Event.isAbout, Closing.payload, Payload.paymentId, paymentEventPayload]
  | canceled => simp [Event.isAbout, Closing.payload, Payload.paymentId, paymentEventPayload]
  | expired => simp [Event.isAbout, Closing.payload, Payload.paymentId, paymentEventPayload]

private theorem moves_edge {db final : Db} {tenantId : Uuid} {payment changed : Payment}
    (moves : Moves db tenantId payment changed final) :
    ∃ published, final.events = db.events ++ published ∧
      Edge tenantId payment changed (published.filter (Event.isAbout payment.id)) ∧
      ∀ id, id ≠ payment.id → published.filter (Event.isAbout id) = [] := by
  cases moves with
  | pended txnId now created => exact ⟨[], by simp, .pended created rfl, fun _ _ => rfl⟩
  | succeeded clock legal subscriptions emitted activates =>
    refine ⟨emitted ++ [successEvent tenantId payment clock.paid], by simp, ?_, ?_⟩
    · rw [List.filter_append, activates_silent activates, List.nil_append, List.filter_singleton,
        successEvent_isAbout, decide_eq_true rfl]
      exact .succeeded clock.paid legal rfl
    · intro id differs
      rw [List.filter_append, activates_silent activates, List.nil_append, List.filter_singleton,
        successEvent_isAbout, decide_eq_false differs.symm]
      rfl
  | closed target reason clock legal =>
    refine ⟨[⟨tenantId, target.payload (paymentEventPayload payment) reason⟩], rfl, ?_, ?_⟩
    · rw [List.filter_singleton, closing_isAbout, decide_eq_true rfl]
      exact .closed target reason legal rfl
    · intro id differs
      rw [List.filter_singleton, closing_isAbout, decide_eq_false differs.symm]
      rfl

private theorem writer_body_ok {runtime : Runtime} {writer : Writer} {db final : Db}
    (run : writer.body runtime db = .ok () final) :
    (final.payments = db.payments ∧ final.events = db.events) ∨
      ∃ tenantId payment changed moved, db.payments.get payment.id = some payment ∧
        (writer.Targets payment → tenantId = payment.tenantId) ∧
        Moves db tenantId payment changed moved ∧ final.payments = moved.payments ∧
        final.events = moved.events := by
  cases writer with
  | webhook provider callback raw clock =>
    obtain ⟨outcome, _, dispatched, done⟩ := (Tx.bind_ok_iff _ _ _ _ _).mp run
    cases done
    obtain same | ⟨payment, changed, moved, located, moves, same⟩ :=
      (dispatch_ok dispatched).business
    · left
      rw [same]
      exact ⟨rfl, rfl⟩
    · right
      refine ⟨_, payment, changed, moved, (locate_some located).1, fun _ => rfl, moves, ?_, ?_⟩
      · rw [same]
      · rw [same]
  | expiry target clock =>
    obtain ⟨acted, _, swept, done⟩ := (Tx.bind_ok_iff _ _ _ _ _).mp run
    cases done
    obtain rfl | ⟨payment, changed, found, same, moves, _⟩ := expireCheckout_ok swept
    · exact Or.inl ⟨rfl, rfl⟩
    · exact Or.inr ⟨_, payment, changed, _, found, fun targets => targets same.symm, moves, rfl,
        rfl⟩
  | cancel tenantId paymentId clock =>
    obtain ⟨dto, _, canceled, done⟩ := (Tx.bind_ok_iff _ _ _ _ _).mp run
    cases done
    obtain ⟨payment, changed, found, tenant, moves, _⟩ := cancelPayment_ok canceled
    exact Or.inr ⟨_, payment, changed, _, found, fun _ => tenant.symm, moves, rfl, rfl⟩
  | fail tenantId paymentId reason clock =>
    obtain ⟨changed, _, failed, done⟩ := (Tx.bind_ok_iff _ _ _ _ _).mp run
    cases done
    obtain ⟨payment, found, tenant, closed⟩ := failPayment_ok failed
    exact Or.inr ⟨_, payment, changed, _, found, fun _ => tenant.symm, (moves_of_close closed).1,
      rfl, rfl⟩

theorem writes_edge {runtime : Runtime} {id : Uuid} {writer : Writer} {before after : Payment}
    {out : List Event} (writes : Writes runtime id writer before after out) :
    (after = before ∧ out = []) ∨
      ∃ tenantId, (writer.Targets before → tenantId = before.tenantId) ∧
        Advances before after ∧ Edge tenantId before after out := by
  obtain ⟨db, final, published, found, run, left, events, rfl⟩ := writes
  obtain ⟨samePayments, sameEvents⟩ | ⟨tenantId, payment, changed, moved, stored, targets, moves,
    same, sameEvents⟩ := writer_body_ok run
  · rw [samePayments, found] at left
    cases left
    rw [sameEvents, List.self_eq_append_right] at events
    exact Or.inl ⟨rfl, by rw [events]; rfl⟩
  · obtain ⟨own, ownEvents, edge, others⟩ := moves_edge moves
    rw [sameEvents, ownEvents, List.append_cancel_left_eq] at events
    subst events
    rw [same, moves.get stored] at left
    by_cases here : id = payment.id
    · subst here
      rw [if_pos rfl] at left
      cases left
      rw [stored] at found
      cases found
      exact Or.inr ⟨tenantId, targets, moves.advances.1, edge⟩
    · rw [if_neg here, found] at left
      cases left
      exact Or.inl ⟨rfl, others id here⟩

theorem writes_cases {runtime : Runtime} {id : Uuid} {writer : Writer} {before after : Payment}
    {out : List Event} (writes : Writes runtime id writer before after out) :
    (after = before ∧ out = []) ∨
      (canTransition before.status after.status = true ∧
        out.map (fun event => event.payload.name) = reachedEvents after.status) := by
  obtain same | ⟨_, _, _, edge⟩ := writes_edge writes
  · exact Or.inl same
  · exact Or.inr edge.reached

/-! ## A whole life -/

abbrev Committed := RowLock.Entry Writer Payment (List Event)

/-- The committed statuses of a payment, in order. -/
def history (row : Payment) (log : List Committed) : List PaymentStatus :=
  row.status :: log.map fun entry => entry.row.status

def eventNames (entry : Committed) : List String := entry.out.map fun event => event.payload.name

/-- `billing.payment.failed`, `.canceled` or `.expired`. -/
def isClosingEvent (name : String) : Bool :=
  ["billing.payment.failed", "billing.payment.canceled", "billing.payment.expired"].contains name

/-- What a life so far has published, as a function of the status it is in. -/
structure LifeSoFar (row : Payment) (log : List Committed) (now : Payment) : Prop where
  last : (history row log).getLast? = some now.status
  chain : (history row log).IsChain fun before after =>
    after = before ∨ canTransition before after = true
  final : ∀ status ∈ history row log, status.isFinal = true → now.status = status
  settled : (history row log).Pairwise fun before after => before.isFinal = true → after = before
  successes : (log.flatMap eventNames).count "billing.payment.succeeded" =
    if now.status = .succeeded then 1 else 0
  successTransactions :
    log.countP (fun entry => (eventNames entry).contains "billing.payment.succeeded") =
      if now.status = .succeeded then 1 else 0
  openSilent : now.status = .created ∨ now.status = .pending →
    (log.flatMap eventNames).countP isClosingEvent = 0
  closings : (log.flatMap eventNames).countP isClosingEvent ≤ 1

private theorem history_snoc (row : Payment) (log : List Committed) (entry : Committed) :
    history row (log ++ [entry]) = history row log ++ [entry.row.status] := by
  simp [history]

/-- The counts of one entry that reached `status` by an edge from `before`. -/
private theorem reached_counts (before status : PaymentStatus)
    (edge : canTransition before status = true) :
    (reachedEvents status).count "billing.payment.succeeded" =
        (if status = .succeeded then 1 else 0) ∧
      ((reachedEvents status).contains "billing.payment.succeeded") =
        decide (status = .succeeded) ∧
      before ≠ .succeeded ∧
      ((status = .created ∨ status = .pending) →
        (reachedEvents status).countP isClosingEvent = 0 ∧
          (before = .created ∨ before = .pending)) ∧
      ((reachedEvents status).countP isClosingEvent = 0 ∨
        (reachedEvents status).countP isClosingEvent = 1 ∧
          (before = .created ∨ before = .pending)) := by
  cases before <;> cases status <;> first | decide | exact absurd edge (by decide)

theorem LifeSoFar.snoc {runtime : Runtime} {row now after : Payment} {log : List Committed}
    {writer : Writer} {out : List Event} (life : LifeSoFar row log now)
    (writes : Writes runtime row.id writer now after out) :
    LifeSoFar row (log ++ [⟨writer, after, out⟩]) after := by
  have grown : (log ++ [(⟨writer, after, out⟩ : Committed)]).flatMap eventNames =
      log.flatMap eventNames ++ out.map fun event => event.payload.name := by
    simp [eventNames]
  have chain : (history row (log ++ [⟨writer, after, out⟩])).IsChain fun before after =>
      after = before ∨ canTransition before after = true := by
    rw [history_snoc, List.isChain_append]
    refine ⟨life.chain, List.isChain_singleton _, ?_⟩
    intro before beforeLast next nextHead
    rw [life.last] at beforeLast
    cases beforeLast
    cases nextHead
    obtain ⟨rfl, _⟩ | ⟨edge, _⟩ := writes_cases writes
    · exact Or.inl rfl
    · exact Or.inr edge
  have settledHere : ∀ status ∈ history row log, status.isFinal = true →
      after.status = status := by
    intro status member final
    have current := life.final status member final
    obtain ⟨rfl, _⟩ | ⟨edge, _⟩ := writes_cases writes
    · exact current
    · have stuck := (isFinal_iff_no_transition status).mp final after.status
      rw [current, stuck] at edge
      cases edge
  refine ⟨by rw [history_snoc]; simp, chain, ?_, ?_, ?_, ?_, ?_, ?_⟩
  · intro status member final
    rw [history_snoc, List.mem_append, List.mem_singleton] at member
    rcases member with earlier | rfl
    · exact settledHere status earlier final
    · rfl
  · rw [history_snoc, List.pairwise_append]
    refine ⟨life.settled, List.pairwise_singleton _ _, ?_⟩
    intro before member next nextMember final
    rw [List.mem_singleton] at nextMember
    subst nextMember
    exact settledHere before member final
  all_goals
    obtain ⟨rfl, rfl⟩ | ⟨edge, names⟩ := writes_cases writes
  · rw [grown]
    simpa using life.successes
  · rw [grown, names, List.count_append, life.successes]
    obtain ⟨count, _, notBefore, _⟩ := reached_counts _ _ edge
    rw [count, if_neg notBefore, Nat.zero_add]
  · rw [List.countP_append, life.successTransactions]
    simp [eventNames]
  · rw [List.countP_append, life.successTransactions]
    obtain ⟨_, contains, notBefore, _⟩ := reached_counts _ _ edge
    have entry : (eventNames ⟨writer, after, out⟩).contains "billing.payment.succeeded" =
        decide (after.status = .succeeded) := by
      rw [← contains, ← names]
      rfl
    rw [if_neg notBefore, List.countP_singleton, entry, Nat.zero_add]
    simp
  · intro isOpen
    rw [grown]
    simpa using life.openSilent isOpen
  · intro isOpen
    obtain ⟨_, _, _, silent, _⟩ := reached_counts _ _ edge
    obtain ⟨none, openBefore⟩ := silent isOpen
    rw [grown, names, List.countP_append, none, life.openSilent openBefore]
  · rw [grown]
    simpa using life.closings
  · rw [grown, names, List.countP_append]
    obtain ⟨_, _, _, _, none | ⟨one, openBefore⟩⟩ := reached_counts _ _ edge
    · rw [none]
      exact life.closings
    · rw [one, life.openSilent openBefore]

theorem lifeSoFar_of_serial {runtime : Runtime} {row now : Payment} {log : List Committed}
    (created : row.status = .created)
    (serial : RowLock.Serial (Writes runtime row.id) row log now) : LifeSoFar row log now := by
  induction serial with
  | nil =>
    refine ⟨rfl, List.isChain_singleton _, ?_, List.pairwise_singleton _ _, ?_, ?_, ?_, ?_⟩
    · intro status member _
      rw [history, List.map_nil, List.mem_singleton] at member
      exact member.symm
    · simp [created]
    · simp [created]
    · intro _
      rfl
    · simp
  | snoc log before writer after out _ body hypothesis => exact hypothesis.snoc body

/-- Whatever the interleaving of its writers, a payment that starts as created
moves along the edges of the state machine, stays in a final status, publishes
its success in exactly one transaction iff it ever succeeds, and closes at most
once. -/
theorem payment_life_under_any_interleaving {Tid : Type} [DecidableEq Tid] (runtime : Runtime)
    (row : Payment) (created : row.status = .created)
    (state : RowLock.State Tid Writer Payment (List Event))
    (reached : RowLock.Reaches (Writes runtime row.id) row state) :
    (history row state.log).getLast? = some state.row.status ∧
      ((history row state.log).IsChain fun before after =>
        after = before ∨ canTransition before after = true) ∧
      ((history row state.log).Pairwise fun before after =>
        before = .succeeded ∨ before = .failed ∨ before = .canceled → after = before) ∧
      state.log.countP (fun entry => (eventNames entry).contains "billing.payment.succeeded") =
        (if PaymentStatus.succeeded ∈ history row state.log then 1 else 0) ∧
      (state.log.flatMap eventNames).count "billing.payment.succeeded" =
        (if PaymentStatus.succeeded ∈ history row state.log then 1 else 0) ∧
      (state.log.flatMap eventNames).countP isClosingEvent ≤ 1 := by
  have life := lifeSoFar_of_serial created reached.serial
  have ever : PaymentStatus.succeeded ∈ history row state.log ↔
      state.row.status = .succeeded := by
    constructor
    · intro member
      exact life.final _ member rfl
    · intro now
      have last := List.mem_of_getLast? life.last
      rw [now] at last
      exact last
  refine ⟨life.last, life.chain, ?_, ?_, ?_, life.closings⟩
  · refine life.settled.imp ?_
    intro before after settled kind
    apply settled
    rcases kind with rfl | rfl | rfl
    · rfl
    · rfl
    · rfl
  · rw [life.successTransactions]
    simp only [ever]
  · rw [life.successes]
    simp only [ever]

/-! ## The story of a payment -/

def published (log : List Committed) : List Event := log.flatMap RowLock.Entry.out

def Payment.toldSuccess (payment : Payment) (paidAt : DateTime) (late : Bool) : Event :=
  ⟨payment.tenantId, .paymentSucceeded (paymentEventPayload payment) paidAt late⟩

def Payment.toldClosing (payment : Payment) (target : Closing) (reason : Option String) : Event :=
  ⟨payment.tenantId, target.payload (paymentEventPayload payment) reason⟩

/-- What a payment has published by the time it is in a status. -/
inductive Story (payment : Payment) : PaymentStatus → List Event → Prop where
  | created : Story payment .created []
  | pending : Story payment .pending []
  | succeeded (paidAt : DateTime) :
      Story payment .succeeded [payment.toldSuccess paidAt false]
  | closed (target : Closing) (reason : Option String) :
      Story payment target.status [payment.toldClosing target reason]
  | late (reason : Option String) (paidAt : DateTime) :
      Story payment .succeeded
        [payment.toldClosing .expired reason, payment.toldSuccess paidAt true]

private theorem published_snoc (log : List Committed) (entry : Committed) :
    published (log ++ [entry]) = published log ++ entry.out := by
  simp [published]

theorem Story.step {payment before after : Payment} {events out : List Event}
    (story : Story payment before.status events) (tenant : before.tenantId = payment.tenantId)
    (payload : paymentEventPayload before = paymentEventPayload payment)
    (edge : Edge before.tenantId before after out) :
    Story payment after.status (events ++ out) := by
  generalize status : before.status = current at story
  cases edge with
  | pended created now =>
    rw [status] at created
    rw [now]
    cases story with
    | created => exact .pending
    | pending => cases created
    | succeeded => cases created
    | closed target => exact absurd created (by cases target <;> decide)
    | late reason earlier => cases created
  | succeeded paidAt legal now =>
    rw [successEvent, now, tenant, payload, status]
    rw [status] at legal
    cases story with
    | created => exact .succeeded paidAt
    | pending => exact .succeeded paidAt
    | succeeded => exact absurd legal (by decide)
    | closed target reason =>
      cases target with
      | failed => exact absurd legal (by decide)
      | canceled => exact absurd legal (by decide)
      | expired => exact .late reason paidAt
    | late reason earlier => exact absurd legal (by decide)
  | closed target reason legal now =>
    rw [now, tenant, payload]
    rw [status] at legal
    have unfinished := (canTransition_closing_iff current target).mp legal
    cases story with
    | created => exact .closed target reason
    | pending => exact .closed target reason
    | succeeded => exact absurd unfinished (by decide)
    | closed earlier =>
      cases earlier with
      | failed => exact absurd unfinished (by decide)
      | canceled => exact absurd unfinished (by decide)
      | expired => exact absurd unfinished (by decide)
    | late told earlier => exact absurd unfinished (by decide)

theorem story_of_serial {runtime : Runtime} {row now : Payment} {log : List Committed}
    (created : row.status = .created)
    (serial : RowLock.Serial (Writes runtime row.id) row log now)
    (targets : ∀ entry ∈ log, entry.job.Targets row) :
    Story row now.status (published log) ∧ now.tenantId = row.tenantId ∧
      paymentEventPayload now = paymentEventPayload row := by
  induction serial with
  | nil =>
    rw [created]
    exact ⟨.created, rfl, rfl⟩
  | snoc log before writer after out _ body hypothesis =>
    obtain ⟨story, tenant, payload⟩ := hypothesis fun entry member =>
      targets entry (List.mem_append_left _ member)
    have aimed : writer.Targets row := targets _ (List.mem_append_right _ List.mem_cons_self)
    rw [published_snoc]
    obtain ⟨rfl, rfl⟩ | ⟨tenantId, own, advances, edge⟩ := writes_edge body
    · rw [List.append_nil]
      exact ⟨story, tenant, payload⟩
    · have id : before.id = row.id := congrArg PaymentPayload.paymentId payload
      have here : writer.Targets before := by
        cases writer with
        | expiry target clock =>
          intro same
          rw [tenant]
          exact aimed (same.trans id)
        | webhook provider callback raw clock => trivial
        | cancel tenantId paymentId clock => trivial
        | fail tenantId paymentId reason clock => trivial
      obtain rfl := own here
      refine ⟨story.step tenant payload edge, advances.tenantId.trans tenant, ?_⟩
      rw [← payload, paymentEventPayload, paymentEventPayload, advances.id, advances.amount,
        advances.purpose, advances.reference, advances.provider]

namespace Sample

/-- Prepare and Complete of Click for the sample payment, signature verified. -/
def confirmCallback : ProviderCallback where
  provider := .click
  providerTxnId := some "42"
  action := .confirm
  paymentReference := Uuid.toStr orderPayment.id
  amount := some ⟨500, "UZS"⟩
  raw := []
  signatureValid := true
  reason := none

def emptyRequest : RawWebhook := ⟨[], "", []⟩

def expiredPayment : Payment := closedRow orderPayment .expired none moment

def latePayment : Payment := succeededRow expiredPayment moment

private theorem expiry_writes :
    Writes runtime orderPayment.id (.expiry ⟨orderPayment.id, tenant⟩ clock) orderPayment
      expiredPayment [⟨tenant, .paymentExpired (paymentEventPayload orderPayment)⟩] :=
  ⟨dbWith orderPayment, _, _, rfl, rfl, rfl, rfl, rfl⟩

private theorem confirm_writes :
    Writes runtime orderPayment.id (.webhook .click confirmCallback emptyRequest clock)
      expiredPayment latePayment [successEvent tenant expiredPayment moment] :=
  ⟨dbWith expiredPayment, _, _, rfl, rfl, rfl, rfl, rfl⟩

private theorem late_success_reached :
    ∃ state : RowLock.State Nat Writer Payment (List Event),
      RowLock.Reaches (Writes runtime orderPayment.id) orderPayment state ∧
        history orderPayment state.log = [.created, .expired, .succeeded] := by
  have bothWait : ∀ first second : RowLock.Phase Writer Payment (List Event),
      ¬ first.holds → ¬ second.holds → ∀ other : Nat,
        ¬ (Function.update (Function.update (fun _ => RowLock.Phase.idle) 0 first) 1 second
          other).holds := by
    intro first second firstWaits secondWaits other
    by_cases one : other = 1
    · subst one
      simpa using secondWaits
    by_cases zero : other = 0
    · subst zero
      simpa using firstWaits
    · simp [one, zero, RowLock.Phase.holds]
  refine ⟨_, .step _ _ (.step _ _ (.step _ _ (.step _ _ (.step _ _ (.step _ _ (.step _ _
    (.step _ _ .start
      (.request _ 0 (.expiry ⟨orderPayment.id, tenant⟩ clock) rfl))
      (.request _ 1 (.webhook .click confirmCallback emptyRequest clock) rfl))
      (.grant _ 0 _ rfl (bothWait _ _ id id)))
      (.work _ 0 _ _ _ _ rfl expiry_writes))
      (.commit _ 0 _ _ _ _ rfl))
      (.grant _ 1 _ rfl ?_))
      (.work _ 1 _ _ _ _ rfl confirm_writes))
      (.commit _ 1 _ _ _ _ rfl), rfl⟩
  intro other
  by_cases one : other = 1
  · subst one
    simp [RowLock.start, RowLock.State.enter, RowLock.Phase.holds]
  by_cases zero : other = 0
  · subst zero
    simp [RowLock.Phase.holds]
  · simp [RowLock.start, RowLock.State.enter, RowLock.Phase.holds, one, zero]

theorem payment_life_late_success :
    ∃ state : RowLock.State Nat Writer Payment (List Event),
      RowLock.Reaches (Writes runtime orderPayment.id) orderPayment state ∧
        history orderPayment state.log = [.created, .expired, .succeeded] ∧
        (state.log.flatMap eventNames).count "billing.payment.succeeded" = 1 ∧
        (state.log.flatMap eventNames).countP isClosingEvent ≤ 1 := by
  obtain ⟨state, reached, statuses⟩ := late_success_reached
  obtain ⟨_, _, _, _, successes, closings⟩ :=
    payment_life_under_any_interleaving runtime orderPayment rfl state reached
  rw [statuses, if_pos (by decide)] at successes
  exact ⟨state, reached, statuses, successes, closings⟩

end Sample

end BackendCore.Billing
