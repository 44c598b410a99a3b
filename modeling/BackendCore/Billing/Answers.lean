import BackendCore.Billing.Ledger

/-!
# Dialect answers

What the Payme and Click answers to create, confirm and cancel tell the provider
about the payment, compared with the committed payment the callback locates.  Payme
guards a repeated CreateTransaction; Click renders every processed row as a success
and every refused one as already paid; both answer a duplicate from the payment of
the ledger row, which need not be the one the callback locates.
-/

set_option autoImplicit false

namespace BackendCore.Billing

open BackendCore.Python

/-! ## What an answer says -/

/-- The payment a callback locates in `db`, as the call leaves it in `final`. -/
def answeredPayment (db final : Db) (callback : ProviderCallback) : Option Payment :=
  (locatedPayment db callback).bind fun payment => final.payments.get payment.id

/-- The answer reports the requested transition as done; Click reports a cancel
by the error code -9. -/
def Adapter.saysDone (adapter : Adapter) (action : CallbackAction) (response : WebhookResponse) :
    Prop :=
  match adapter with
  | .payme _ => (Json.lookup response.body "result").isSome = true
  | .click _ => Json.lookup response.body "error" =
      some (.int (if action = .cancel then -9 else 0))
  | .stripe _ => False

/-- Click's error code -4. -/
def Adapter.saysAlreadyPaid (adapter : Adapter) (response : WebhookResponse) : Prop :=
  match adapter with
  | .click _ => Json.lookup response.body "error" = some (.int (-4))
  | _ => False

/-- A create is reported done only while the payment is pending, a confirm only
when it is succeeded, a cancel only when it is canceled (`CallbackAction.target`),
and already paid only when it is succeeded. -/
def Truthful (db : Db) (adapter : Adapter) (callback : ProviderCallback)
    (result : Except Exc WebhookResponse × Db) : Prop :=
  ∀ response, result.1 = .ok response →
    let status := (answeredPayment db result.2 callback).map Payment.status
    (adapter.saysDone callback.action response → status = callback.action.target) ∧
      (adapter.saysAlreadyPaid response → status = some .succeeded)

theorem click_error (outcome : CallbackOutcome) :
    Json.lookup (Click.buildWebhookResponse outcome).body "error" =
      some (.int (Click.verdict outcome).1) := by
  unfold Click.buildWebhookResponse
  cases Click.prepareId outcome with
  | none => rfl
  | some id => rfl

theorem click_saysDone_iff (config : Click.Config) (outcome : CallbackOutcome) :
    (Adapter.click config).saysDone outcome.callback.action
        (Click.buildWebhookResponse outcome) ↔
      outcome.status = .ok ∨ outcome.status = .alreadyProcessed := by
  rw [Adapter.saysDone, click_error, Click.verdict]
  cases outcome.status <;> cases outcome.callback.action <;> simp [Click.errorCode]

theorem click_saysAlreadyPaid_iff (config : Click.Config) (outcome : CallbackOutcome) :
    (Adapter.click config).saysAlreadyPaid (Click.buildWebhookResponse outcome) ↔
      outcome.status = .invalidState := by
  rw [Adapter.saysAlreadyPaid, click_error, Click.verdict]
  cases outcome.status <;> cases outcome.callback.action <;> simp [Click.errorCode]

theorem payme_saysDone_iff {config : Payme.Config} {outcome : CallbackOutcome}
    {response : WebhookResponse} (built : Payme.buildWebhookResponse outcome = .ok response) :
    (Adapter.payme config).saysDone outcome.callback.action response ↔
      Payme.answeredStatus outcome = .ok ∨ Payme.answeredStatus outcome = .alreadyProcessed := by
  unfold Payme.buildWebhookResponse at built
  by_cases succeeded : Payme.answeredStatus outcome = .ok ∨
      Payme.answeredStatus outcome = .alreadyProcessed
  · simp only [succeeded, if_true] at built
    cases rendered : Payme.successResult outcome with
    | error raised =>
      rw [rendered] at built
      cases built
    | ok result =>
      rw [rendered] at built
      cases built
      exact iff_of_true rfl succeeded
  · simp only [succeeded, if_false] at built
    cases built
    exact iff_of_false (by intro done; cases done) succeeded

/-- Only the answer to CheckTransaction can raise. -/
theorem payme_answers {outcome : CallbackOutcome}
    (changes : outcome.callback.action.isReadOnly = false) :
    ∃ response, Payme.buildWebhookResponse outcome = .ok response := by
  have rendered : ∃ result, Payme.successResult outcome = .ok result := by
    unfold Payme.successResult
    cases action : outcome.callback.action with
    | check =>
      rw [action] at changes
      cases changes
    | status =>
      rw [action] at changes
      cases changes
    | create => cases outcome.payment <;> exact ⟨_, rfl⟩
    | confirm => cases outcome.payment <;> exact ⟨_, rfl⟩
    | cancel => cases outcome.payment <;> exact ⟨_, rfl⟩
  obtain ⟨result, rendered⟩ := rendered
  unfold Payme.buildWebhookResponse
  simp only [rendered]
  split
  · exact ⟨_, rfl⟩
  · exact ⟨_, rfl⟩

/-! ## When the answer is true -/

/-- A first delivery to Click: the transition of the located payment is legal, or
refused because it is paid. -/
def firstAnswerHolds (db : Db) (callback : ProviderCallback) : Bool :=
  match locatedPayment db callback, callback.action.target with
  | some payment, some target =>
    !amountOk callback payment || canTransition payment.status target ||
      payment.status = .succeeded
  | _, _ => true

/-- A delivery that finds `row` under its key. -/
def repeatedAnswerHolds (db : Db) (provider : Provider) (callback : ProviderCallback)
    (row : PaymentWebhook) : Bool :=
  let located := locatedPayment db callback
  let status := located.map Payment.status
  match row.status with
  | .failed => provider ≠ .click || status = some .succeeded
  | .processed =>
    if row.paymentId = located.map Payment.id then
      provider ≠ .click || callback.action ≠ .create || status = some .pending
    else
      -- the row is of another payment: the transaction id was used before
      status = callback.action.target || provider = .payme && callback.action = .create &&
        (row.paymentId.bind db.payments.get).map Payment.status ≠ some .pending
  | _ => true

/-- Stripe's answer reports no transition. -/
def answerHolds (db : Db) (provider : Provider) (callback : ProviderCallback) : Bool :=
  provider = .stripe ||
    match db.webhooks.get (provider, dedupKey callback) with
    | some row => repeatedAnswerHolds db provider callback row
    | none => provider ≠ .click || firstAnswerHolds db callback

theorem process_of_dispatch {app : App} {providerCode : String} {adapter : Adapter}
    {raw : RawWebhook} {moment : ℚ} {callback : ProviderCallback} {clock : Clock} {db final : Db}
    {outcome : CallbackOutcome} (enabled : app.adapter providerCode = some adapter)
    (parsed : adapter.parseWebhook app.runtime moment raw = .ok callback)
    (run : dispatch app.runtime adapter.code callback raw clock db = .ok outcome final) :
    process app providerCode raw moment clock db =
      (adapter.buildWebhookResponse outcome, final) := by
  unfold process
  simp only [enabled, parsed, Tx.commit_of_ok run]

/-! ## The three kinds of outcome -/

section Outcomes

variable {db final : Db} {adapter : Adapter} (outcome : CallbackOutcome)

private theorem payme_truthful {config : Payme.Config}
    (notOk : Payme.answeredStatus outcome ≠ .ok)
    (notProcessed : Payme.answeredStatus outcome ≠ .alreadyProcessed) :
    Truthful db (.payme config) outcome.callback
      ((Adapter.payme config).buildWebhookResponse outcome, final) := by
  intro response built
  refine ⟨?_, False.elim⟩
  intro done
  rcases (payme_saysDone_iff built).mp done with said | said
  · exact absurd said notOk
  · exact absurd said notProcessed

private theorem truthful_of_silent (notOk : outcome.status ≠ .ok)
    (notProcessed : outcome.status ≠ .alreadyProcessed)
    (notRefused : outcome.status ≠ .invalidState) :
    Truthful db adapter outcome.callback (adapter.buildWebhookResponse outcome, final) := by
  cases adapter with
  | payme config =>
    have answered : Payme.answeredStatus outcome = outcome.status := by
      simp [Payme.answeredStatus, notOk, notProcessed]
    exact payme_truthful outcome (by rwa [answered]) (by rwa [answered])
  | click config =>
    intro response built
    cases built
    constructor
    · intro done
      rcases (click_saysDone_iff config outcome).mp done with said | said
      · exact absurd said notOk
      · exact absurd said notProcessed
    · intro paid
      exact absurd ((click_saysAlreadyPaid_iff config outcome).mp paid) notRefused
  | stripe config =>
    intro response _
    exact ⟨False.elim, False.elim⟩

private theorem truthful_refused_iff (status : outcome.status = .invalidState) :
    Truthful db adapter outcome.callback (adapter.buildWebhookResponse outcome, final) ↔
      (adapter.code = .click →
        (answeredPayment db final outcome.callback).map Payment.status = some .succeeded) := by
  cases adapter with
  | payme config =>
    refine iff_of_true ?_ (by intro other; cases other)
    have answered : Payme.answeredStatus outcome = .invalidState := by
      simp [Payme.answeredStatus, status]
    exact payme_truthful outcome (by simp [answered]) (by simp [answered])
  | click config =>
    constructor
    · intro truthful _
      exact (truthful _ rfl).2 ((click_saysAlreadyPaid_iff config outcome).mpr status)
    · intro paid response built
      cases built
      constructor
      · intro done
        rcases (click_saysDone_iff config outcome).mp done with said | said
        · rw [status] at said
          cases said
        · rw [status] at said
          cases said
      · intro _
        exact paid rfl
  | stripe config =>
    refine iff_of_true ?_ (by intro other; cases other)
    intro response _
    exact ⟨False.elim, False.elim⟩

/-- Payme reports a create of a payment that is not pending as an error. -/
private theorem truthful_done_iff {payment : Payment}
    (changes : outcome.callback.action.isReadOnly = false)
    (status : outcome.status = .ok ∨ outcome.status = .alreadyProcessed)
    (shown : outcome.payment = some (paymentDto payment)) :
    Truthful db adapter outcome.callback (adapter.buildWebhookResponse outcome, final) ↔
      adapter.code = .stripe ∨
        (adapter.code = .payme ∧ outcome.callback.action = .create ∧
          payment.status ≠ .pending) ∨
        (answeredPayment db final outcome.callback).map Payment.status =
          outcome.callback.action.target := by
  cases adapter with
  | payme config =>
    by_cases guarded : outcome.callback.action = .create ∧ payment.status ≠ .pending
    · refine iff_of_true ?_ (Or.inr (Or.inl ⟨rfl, guarded⟩))
      have answered : Payme.answeredStatus outcome = .invalidState := by
        have moved : ¬ (paymentDto payment).status = .pending := guarded.2
        simp [Payme.answeredStatus, guarded.1, status, shown, moved]
      exact payme_truthful outcome (by simp [answered]) (by simp [answered])
    · obtain ⟨response, built⟩ := payme_answers changes
      have answered : Payme.answeredStatus outcome = outcome.status := by
        unfold Payme.answeredStatus
        rw [if_neg]
        intro repeated
        refine guarded ⟨repeated.1, ?_⟩
        have moved := repeated.2.2
        rw [shown] at moved
        exact of_decide_eq_true moved
      have done : (Adapter.payme config).saysDone outcome.callback.action response :=
        (payme_saysDone_iff built).mpr (by rwa [answered])
      constructor
      · intro truthful
        exact Or.inr (Or.inr ((truthful response built).1 done))
      · rintro (other | ⟨_, repeated⟩ | reached) response built
        · cases other
        · exact absurd repeated guarded
        · exact ⟨fun _ => reached, False.elim⟩
  | click config =>
    constructor
    · intro truthful
      exact Or.inr (Or.inr ((truthful _ rfl).1 ((click_saysDone_iff config outcome).mpr status)))
    · rintro (other | ⟨other, _⟩ | reached) response built
      · cases other
      · cases other
      · cases built
        refine ⟨fun _ => reached, ?_⟩
        intro paid
        have refused := (click_saysAlreadyPaid_iff config outcome).mp paid
        rw [refused] at status
        simp at status
  | stripe config =>
    refine iff_of_true ?_ (Or.inl rfl)
    intro response _
    exact ⟨False.elim, False.elim⟩

end Outcomes

/-! ## Every answer -/

private theorem target_of_lasts {action : CallbackAction} {status : PaymentStatus}
    (lasts : action.lasts status = true) (later : action ≠ .create) :
    action.target = some status := by
  cases action with
  | create => exact absurd rfl later
  | confirm =>
    have succeeded : status = .succeeded := by simpa [CallbackAction.lasts] using lasts
    rw [succeeded]
    rfl
  | cancel =>
    have canceled : status = .canceled := by simpa [CallbackAction.lasts] using lasts
    rw [canceled]
    rfl
  | check => cases lasts
  | status => cases lasts

private theorem answeredPayment_self (db : Db) (callback : ProviderCallback) :
    answeredPayment db db callback = locatedPayment db callback := by
  unfold answeredPayment
  cases located : locatedPayment db callback with
  | none => rfl
  | some payment => exact (locate_some (locate_of_located located)).1

/-- The row of a processed callback is of the located payment, or its key was used
for another one. -/
private theorem done_holds_iff {db : Db} {provider : Provider} {callback : ProviderCallback}
    {row : PaymentWebhook} {payment : Payment} (status : row.status = .processed)
    (bound : row.paymentId = some payment.id)
    (stored : db.payments.get payment.id = some payment)
    (lasts : callback.action.lasts payment.status = true) :
    (provider = .stripe ∨
        (provider = .payme ∧ callback.action = .create ∧ payment.status ≠ .pending) ∨
        (locatedPayment db callback).map Payment.status = callback.action.target) ↔
      provider = .stripe ∨ repeatedAnswerHolds db provider callback row = true := by
  by_cases own : row.paymentId = (locatedPayment db callback).map Payment.id
  · have located : locatedPayment db callback = some payment := by
      rw [bound] at own
      obtain ⟨other, located, same⟩ := Option.map_eq_some_iff.mp own.symm
      have found := (locate_some (locate_of_located located)).1
      rw [same, stored] at found
      rw [located, found]
    simp only [repeatedAnswerHolds, status, own, if_true]
    rw [located, Option.map_some]
    by_cases create : callback.action = .create
    · cases provider <;> simp [create, CallbackAction.target, eq_comm, or_comm, em]
    · simp [create, target_of_lasts lasts create]
  · simp only [repeatedAnswerHolds, status, own, if_false]
    rw [bound, Option.bind_some, stored]
    simp [and_assoc, or_comm]

private theorem truthful_taken_iff {db : Db} (ledger : Ledger db) {adapter : Adapter}
    {callback : ProviderCallback} {row : PaymentWebhook}
    (changes : callback.action.isReadOnly = false)
    (taken : db.webhooks.get (adapter.code, dedupKey callback) = some row) :
    Truthful db adapter callback (adapter.buildWebhookResponse
        (replayOutcome row (row.paymentId.bind db.payments.get) callback), db) ↔
      answerHolds db adapter.code callback = true := by
  simp only [answerHolds, taken, Bool.or_eq_true, decide_eq_true_eq]
  have replies := ledger.replies taken
  generalize replayOutcome row (row.paymentId.bind db.payments.get) callback = outcome at replies ⊢
  cases replies with
  | unknown status =>
    refine iff_of_true (truthful_of_silent _ (by simp) (by simp) (by simp)) (Or.inr ?_)
    rw [repeatedAnswerHolds, status]
  | mismatched status =>
    refine iff_of_true (truthful_of_silent _ (by simp) (by simp) (by simp)) (Or.inr ?_)
    rw [repeatedAnswerHolds, status]
  | refused status payment =>
    rw [truthful_refused_iff ⟨.invalidState, some (paymentDto payment), callback⟩ rfl,
      answeredPayment_self, repeatedAnswerHolds, status]
    cases adapter.code <;> simp
  | applied status payment bound stored lasts =>
    rw [truthful_done_iff ⟨.alreadyProcessed, some (paymentDto payment), callback⟩ changes
      (Or.inr rfl) rfl, answeredPayment_self]
    exact done_holds_iff status bound stored lasts

private theorem truthful_settled_iff {db final : Db} {adapter : Adapter}
    {callback : ProviderCallback} {raw : RawWebhook} {now : DateTime} {outcome : CallbackOutcome}
    (changes : callback.action.isReadOnly = false)
    (fresh : db.webhooks.get (adapter.code, dedupKey callback) = none)
    (settles : Settles db callback (receivedWebhook adapter.code (dedupKey callback) raw) now
      outcome final) :
    Truthful db adapter callback (adapter.buildWebhookResponse outcome, final) ↔
      answerHolds db adapter.code callback = true := by
  obtain ⟨target, drives⟩ := target_of_not_readOnly callback.action changes
  have first : firstAnswerHolds db callback =
      (locatedPayment db callback).elim true fun payment =>
        !amountOk callback payment || canTransition payment.status target ||
          decide (payment.status = .succeeded) := by
    rw [firstAnswerHolds, drives]
    cases locatedPayment db callback <;> rfl
  simp only [answerHolds, fresh, Bool.or_eq_true, decide_eq_true_eq]
  cases settles with
  | unknown missing =>
    refine iff_of_true (truthful_of_silent _ (by simp) (by simp) (by simp)) (Or.inr (Or.inr ?_))
    rw [first, locatedPayment_of missing, Option.elim_none]
  | mismatched payment located differs =>
    refine iff_of_true (truthful_of_silent _ (by simp) (by simp) (by simp)) (Or.inr (Or.inr ?_))
    rw [first, locatedPayment_of located]
    simp [differs]
  | refused payment located agrees aimed aims illegal =>
    cases drives.symm.trans aims
    rw [truthful_refused_iff ⟨.invalidState, some (paymentDto payment), callback⟩ rfl, first,
      answeredPayment, locatedPayment_of located, Option.bind_some, (locate_some located).1]
    cases adapter.code <;> simp [agrees, illegal]
  | applied payment located agrees changed moved moves aims _ =>
    have stored : answeredPayment db moved callback = some changed := by
      rw [answeredPayment, locatedPayment_of located, Option.bind_some,
        moves.get (locate_some located).1, if_pos rfl]
    refine iff_of_true ?_ (Or.inr (Or.inr ?_))
    · rw [truthful_done_iff ⟨.ok, some (paymentDto changed), callback⟩ changes (Or.inl rfl) rfl]
      exact Or.inr (Or.inr ((congrArg _ stored).trans aims.symm))
    · cases drives.symm.trans aims
      rw [first, locatedPayment_of located]
      simp [moves.advances.2]

private theorem firstAnswerHolds_of_raised {db copy : Db} {callback : ProviderCallback}
    {runtime : Runtime} {raw : RawWebhook} {clock : Clock} {raised : Exc}
    (signed : callback.signatureValid = true)
    (fresh : db.webhooks.get (.click, dedupKey callback) = none)
    (run : dispatch runtime .click callback raw clock db = .error raised copy) :
    firstAnswerHolds db callback = true := by
  unfold firstAnswerHolds
  split
  · rename_i payment target located drives
    by_contra refused
    simp only [Bool.or_eq_true, Bool.not_eq_true', decide_eq_true_eq, not_or,
      Bool.not_eq_false, Bool.not_eq_true] at refused
    obtain ⟨final, answered⟩ := dispatch_refused signed fresh (locate_of_located located)
      refused.1.1 drives refused.1.2 runtime raw clock
    rw [run] at answered
    cases answered
  · rfl

/-- For every reachable database and every authenticated create, confirm or cancel
callback, first delivery or duplicate, the answer is truthful about the payment the
callback locates iff the condition on that payment and the ledger row of the
callback's key holds. -/
theorem dialect_answer_truthful_iff (app : App) (db : Db) (reached : Reachable app db)
    (providerCode : String) (adapter : Adapter)
    (enabled : app.adapter providerCode = some adapter) (raw : RawWebhook) (moment : ℚ)
    (clock : Clock) (callback : ProviderCallback)
    (parsed : adapter.parseWebhook app.runtime moment raw = .ok callback)
    (signed : callback.signatureValid = true) (changes : callback.action.isReadOnly = false) :
    Truthful db adapter callback (process app providerCode raw moment clock db) ↔
      answerHolds db adapter.code callback = true := by
  cases entry : db.webhooks.get (adapter.code, dedupKey callback) with
  | some row =>
    rw [process_of_dispatch enabled parsed
      (dispatch_taken changes signed entry app.runtime raw clock)]
    exact truthful_taken_iff reached.ledger changes entry
  | none =>
    cases run : dispatch app.runtime adapter.code callback raw clock db with
    | error raised copy =>
      have silent : (process app providerCode raw moment clock db).1 = .error raised := by
        unfold process
        simp only [enabled, parsed, Tx.commit_of_error run]
      refine iff_of_true ?_ ?_
      · intro response answered
        rw [silent] at answered
        cases answered
      · simp only [answerHolds, entry, Bool.or_eq_true, decide_eq_true_eq]
        by_cases click : adapter.code = .click
        · rw [click] at entry run
          exact Or.inr (Or.inr (firstAnswerHolds_of_raised signed entry run))
        · exact Or.inr (Or.inl click)
    | ok outcome final =>
      rw [process_of_dispatch enabled parsed run]
      cases dispatch_ok run with
      | read readOnly =>
        rw [changes] at readOnly
        cases readOnly
      | forged _ unsigned =>
        rw [signed] at unsigned
        cases unsigned
      | replayed _ _ webhook taken =>
        rw [entry] at taken
        cases taken
      | settled _ _ _ outcome final settles =>
        exact truthful_settled_iff changes entry settles

namespace Sample

/-- `hashlib.md5` of the texts the sample Prepare and Complete are signed over. -/
def clickDigest (text : String) : String :=
  if text = "421secret00000000-0000-0000-0000-00000000000750002026-01-15 00:00:00" then
    "033af7da8740b50c7a723a860debabb5"
  else if text = "421secret00000000-0000-0000-0000-000000000007" ++
      "00000000-0000-0000-0000-00000000000750012026-01-15 00:00:00" then
    "bd405afbe5f9626b87e14a077efec3fa"
  else digest 32

theorem clickDigest_isHexDigest (text : String) : IsHexDigest 32 (clickDigest text) := by
  unfold clickDigest
  split
  · exact isHexDigest_of_check rfl
  · split
    · exact isHexDigest_of_check rfl
    · exact digest_isHexDigest 32

def clickConfig : Click.Config := ⟨"secret"⟩

def clickApp : App where
  runtime := { runtime with
    md5Hex := clickDigest
    md5_digest := clickDigest_isHexDigest }
  settings := ⟨false, "", 3600⟩
  payme := none
  click := some clickConfig
  stripe := none

def orderRequest : PaymentRequest where
  amount := ⟨500, "UZS"⟩
  purpose := "commerce.order"
  reference := "order"
  provider := "click"
  idempotencyKey := "order:1"
  returnUrl := none
  subscriptionId := none

def orderIntake : PaymentIntake where
  runtime := clickApp.runtime
  providers := [.click]
  newId := 7
  createCheckout := fun payment _ => .ok ⟨payment.id, .click, "url", none⟩

/-- Click's Prepare for the order. -/
def prepareRequest : RawWebhook where
  headers := []
  body := ""
  form := [("click_trans_id", "42"), ("service_id", "1"),
    ("merchant_trans_id", "00000000-0000-0000-0000-000000000007"), ("amount", "500"),
    ("action", "0"), ("sign_time", "2026-01-15 00:00:00"),
    ("sign_string", "033af7da8740b50c7a723a860debabb5")]

def prepareCallback : ProviderCallback where
  provider := .click
  providerTxnId := some "42"
  action := .create
  paymentReference := "00000000-0000-0000-0000-000000000007"
  amount := some ⟨500, "UZS"⟩
  raw := prepareRequest.form.map fun entry => (entry.1, .str entry.2)
  signatureValid := true
  reason := none

theorem prepare_parsed :
    (Adapter.click clickConfig).parseWebhook clickApp.runtime 0 prepareRequest =
      .ok prepareCallback := rfl

def orderedDb : Db := (Op.createPayment tenant orderIntake orderRequest clock).run clickApp emptyDb

theorem orderedDb_reached : Reachable clickApp orderedDb :=
  .step _ _ (.initial emptyDb ⟨rfl, rfl, rfl, rfl⟩)

/-- The order is prepared. -/
def preparedDb : Db := (Op.webhook "click" prepareRequest 0 clock).run clickApp orderedDb

theorem preparedDb_reached : Reachable clickApp preparedDb := .step _ _ orderedDb_reached

/-- The order is canceled after Prepare. -/
def canceledDb : Db := (Op.cancelPayment tenant 7 clock).run clickApp preparedDb

theorem canceledDb_reached : Reachable clickApp canceledDb := .step _ _ preparedDb_reached

/-- While the order is pending a repeated Prepare is answered truthfully. -/
theorem repeated_prepare_truthful :
    Truthful preparedDb (.click clickConfig) prepareCallback
      (process clickApp "click" prepareRequest 0 clock preparedDb) :=
  (dialect_answer_truthful_iff clickApp preparedDb preparedDb_reached "click"
    (.click clickConfig) rfl prepareRequest 0 clock prepareCallback prepare_parsed rfl rfl).mpr
    rfl

/-- After `cancel_payment` the same Prepare is still answered with Success. -/
theorem repeated_prepare_of_canceled_not_truthful :
    Reachable clickApp canceledDb ∧ clickApp.adapter "click" = some (.click clickConfig) ∧
      (Adapter.click clickConfig).parseWebhook clickApp.runtime 0 prepareRequest =
        .ok prepareCallback ∧
      prepareCallback.signatureValid = true ∧ prepareCallback.action = .create ∧
      prepareCallback.providerTxnId = some "42" ∧
      ¬ Truthful canceledDb (.click clickConfig) prepareCallback
        (process clickApp "click" prepareRequest 0 clock canceledDb) := by
  refine ⟨canceledDb_reached, rfl, prepare_parsed, rfl, rfl, rfl, ?_⟩
  intro truthful
  have told := (truthful _ rfl).1 rfl
  exact absurd told (by decide)

end Sample

end BackendCore.Billing
