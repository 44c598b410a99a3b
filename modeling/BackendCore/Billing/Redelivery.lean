import BackendCore.Billing.Answers

/-!
# Redelivery

No answer is stored: a duplicate is answered from its ledger row and the payment
as they are.  For a confirm or a cancel this is the first answer again, because
a processed row pins the payment to a final status and the answers of the other
rows show nothing of the payment but its id.
-/

set_option autoImplicit false

namespace BackendCore.Billing

open BackendCore.Python

/-! ## Outcomes with one answer -/

/-- Actions that end the payment. -/
def CallbackAction.isFinalizing : CallbackAction → Bool
  | .confirm => true
  | .cancel => true
  | _ => false

theorem changes_of_finalizing {action : CallbackAction}
    (finalizing : action.isFinalizing = true) : action.isReadOnly = false := by
  cases action with
  | confirm => rfl
  | cancel => rfl
  | create => rfl
  | check => cases finalizing
  | status => cases finalizing

theorem answer_of_repeated_success (adapter : Adapter) (callback : ProviderCallback)
    (payment : PaymentDTO) (finalizing : callback.action.isFinalizing = true) :
    adapter.buildWebhookResponse ⟨.alreadyProcessed, some payment, callback⟩ =
      adapter.buildWebhookResponse ⟨.ok, some payment, callback⟩ := by
  have notCreate : callback.action ≠ .create := by
    intro create
    rw [create] at finalizing
    cases finalizing
  cases adapter with
  | payme config =>
    simp only [Adapter.buildWebhookResponse, Payme.buildWebhookResponse, Payme.answeredStatus,
      notCreate, false_and, if_false, true_or, or_true, if_true, Payme.successResult]
  | click config =>
    simp only [Adapter.buildWebhookResponse, Click.buildWebhookResponse, Click.verdict,
      Click.prepareId, true_or, or_true, if_true]
  | stripe config => rfl

theorem answer_of_refusal (adapter : Adapter) (callback : ProviderCallback)
    (status : OutcomeStatus) (left right : PaymentDTO)
    (refusal : status = .amountMismatch ∨ status = .invalidState) (same : left.id = right.id) :
    adapter.buildWebhookResponse ⟨status, some left, callback⟩ =
      adapter.buildWebhookResponse ⟨status, some right, callback⟩ := by
  have notOk : status ≠ .ok := by
    rcases refusal with rfl | rfl
    · simp
    · simp
  have notProcessed : status ≠ .alreadyProcessed := by
    rcases refusal with rfl | rfl
    · simp
    · simp
  cases adapter with
  | payme config =>
    simp only [Adapter.buildWebhookResponse, Payme.buildWebhookResponse, Payme.answeredStatus,
      notOk, notProcessed, or_self, false_and, and_false, if_false]
  | click config =>
    simp only [Adapter.buildWebhookResponse, Click.buildWebhookResponse, Click.verdict,
      Click.prepareId, notOk, notProcessed, or_self, if_false, Option.map_some, same]
  | stripe config => rfl

theorem final_of_lasts {action : CallbackAction} {status : PaymentStatus}
    (lasts : action.lasts status = true) (finalizing : action.isFinalizing = true) :
    status.isFinal = true := by
  cases action with
  | confirm =>
    have succeeded : status = .succeeded := by simpa [CallbackAction.lasts] using lasts
    rw [succeeded]
    rfl
  | cancel =>
    have canceled : status = .canceled := by simpa [CallbackAction.lasts] using lasts
    rw [canceled]
    rfl
  | create => cases finalizing
  | check => cases finalizing
  | status => cases finalizing

/-! ## The answer of a ledger row -/

/-- The answer a duplicate of the callback gets from a ledger row. -/
def rowAnswer (adapter : Adapter) (db : Db) (row : PaymentWebhook) (callback : ProviderCallback) :
    Except Exc WebhookResponse :=
  adapter.buildWebhookResponse
    (replayOutcome row (row.paymentId.bind db.payments.get) callback)

theorem rowAnswer_stable {app : App} {start db : Db} (reached : Reachable app start)
    (run : Runs app start db) {adapter : Adapter} {callback : ProviderCallback}
    {row : PaymentWebhook} (finalizing : callback.action.isFinalizing = true)
    (taken : start.webhooks.get (adapter.code, dedupKey callback) = some row) :
    rowAnswer adapter db row callback = rowAnswer adapter start row callback := by
  have before := reached.ledger.replies taken
  have after := (run.reachable reached).ledger.replies (run.keepsLedger taken)
  unfold rowAnswer
  generalize replayOutcome row (row.paymentId.bind start.payments.get) callback = first at before ⊢
  generalize replayOutcome row (row.paymentId.bind db.payments.get) callback = second at after ⊢
  cases before with
  | unknown status unbound =>
    cases after with
    | unknown => rfl
    | mismatched _ _ bound => simp [unbound] at bound
    | refused other => simp [status] at other
    | applied other => simp [status] at other
  | mismatched status payment bound =>
    cases after with
    | unknown _ unbound => simp [bound] at unbound
    | mismatched _ later laterBound _ =>
      rw [bound] at laterBound
      exact answer_of_refusal adapter callback .amountMismatch _ _ (Or.inl rfl)
        (Option.some.inj laterBound).symm
    | refused other => simp [status] at other
    | applied other => simp [status] at other
  | refused status payment bound =>
    cases after with
    | unknown other => simp [status] at other
    | mismatched other => simp [status] at other
    | refused _ later laterBound _ =>
      rw [bound] at laterBound
      exact answer_of_refusal adapter callback .invalidState _ _ (Or.inr rfl)
        (Option.some.inj laterBound).symm
    | applied other => simp [status] at other
  | applied status payment bound stored lasts =>
    cases after with
    | unknown other => simp [status] at other
    | mismatched other => simp [status] at other
    | refused other => simp [status] at other
    | applied _ later laterBound laterStored =>
      rw [bound] at laterBound
      have kept := run.keepsFinal stored (final_of_lasts lasts finalizing)
      rw [Option.some.inj laterBound, laterStored] at kept
      rw [Option.some.inj kept]

theorem Settles.replays {db final : Db} {provider : Provider} {callback : ProviderCallback}
    {raw : RawWebhook} {now : DateTime} {outcome : CallbackOutcome}
    (fresh : db.webhooks.get (provider, dedupKey callback) = none)
    (settles : Settles db callback (receivedWebhook provider (dedupKey callback) raw) now
      outcome final) :
    ∃ row, final.webhooks.get (provider, dedupKey callback) = some row ∧
      (replayOutcome row (row.paymentId.bind final.payments.get) callback = outcome ∨
        ∃ payment, outcome = ⟨.ok, some payment, callback⟩ ∧
          replayOutcome row (row.paymentId.bind final.payments.get) callback =
            ⟨.alreadyProcessed, some payment, callback⟩) := by
  cases settles with
  | unknown =>
    exact ⟨_, get_written fresh rfl rfl, Or.inl (replayOutcome_unknown rfl rfl _ _)⟩
  | mismatched payment located =>
    have stored := (locate_some located).1
    refine ⟨_, get_written fresh rfl rfl, Or.inl ?_⟩
    rw [replayOutcome_mismatched rfl rfl]
    simp only [settledWebhook, boundWebhook, Option.bind_some, stored, Option.map_some]
  | refused payment located =>
    have stored := (locate_some located).1
    refine ⟨_, get_written fresh rfl rfl, Or.inl ?_⟩
    rw [replayOutcome_refused rfl]
    simp only [settledWebhook, boundWebhook, Option.bind_some, stored, Option.map_some]
  | applied payment located agrees changed moved moves drives _ =>
    have stored : moved.payments.get payment.id = some changed := by
      rw [moves.get (locate_some located).1, if_pos rfl]
    refine ⟨_, get_written fresh rfl rfl, Or.inr ⟨paymentDto changed, rfl, ?_⟩⟩
    rw [show (settledWebhook (boundWebhook (receivedWebhook provider (dedupKey callback) raw)
      payment) .processed none now).paymentId = some payment.id from rfl, Option.bind_some,
      stored]
    exact replayOutcome_applied rfl changed callback

theorem rowAnswer_of_handles {runtime : Runtime} {db final : Db} {adapter : Adapter}
    {callback : ProviderCallback} {raw : RawWebhook} {now : DateTime} {outcome : CallbackOutcome}
    (signed : callback.signatureValid = true) (finalizing : callback.action.isFinalizing = true)
    (handles : Handles runtime db adapter.code callback raw now outcome final) :
    ∃ row, final.webhooks.get (adapter.code, dedupKey callback) = some row ∧
      rowAnswer adapter final row callback = adapter.buildWebhookResponse outcome := by
  cases handles with
  | read readOnly =>
    rw [changes_of_finalizing finalizing] at readOnly
    cases readOnly
  | forged changes unsigned =>
    rw [signed] at unsigned
    cases unsigned
  | replayed changes _ webhook taken => exact ⟨webhook, taken, rfl⟩
  | settled changes _ fresh outcome final settles =>
    obtain ⟨row, taken, same | ⟨payment, shown, repeated⟩⟩ := settles.replays fresh
    · exact ⟨row, taken, by rw [rowAnswer, same]⟩
    · refine ⟨row, taken, ?_⟩
      rw [rowAnswer, repeated, shown]
      exact answer_of_repeated_success adapter callback payment finalizing

/-! ## Redelivery -/

/-- The callback an adapter makes of a request depends on the clock only in
whether it is authenticated. -/
theorem parseWebhook_same {adapter : Adapter} {runtime : Runtime} {raw : RawWebhook}
    {first second : ℚ} {callback later : ProviderCallback}
    (parsed : adapter.parseWebhook runtime first raw = .ok callback)
    (again : adapter.parseWebhook runtime second raw = .ok later)
    (signed : callback.signatureValid = true) (still : later.signatureValid = true) :
    later = callback := by
  cases adapter with
  | payme config =>
    rw [show (Adapter.payme config).parseWebhook runtime second raw =
      (Adapter.payme config).parseWebhook runtime first raw from rfl, parsed] at again
    cases again
    rfl
  | click config =>
    rw [show (Adapter.click config).parseWebhook runtime second raw =
      (Adapter.click config).parseWebhook runtime first raw from rfl, parsed] at again
    cases again
    rfl
  | stripe config =>
    obtain ⟨event, valid, normalized, decoded, _, read, rfl⟩ := Stripe.parseWebhook_ok parsed
    obtain ⟨other, otherValid, otherNormalized, otherDecoded, _, otherRead, rfl⟩ :=
      Stripe.parseWebhook_ok again
    rw [decoded] at otherDecoded
    cases otherDecoded
    rw [read] at otherRead
    cases otherRead
    have same : otherValid = valid := still.trans signed.symm
    rw [same]

/-- Once a confirm or cancel request was answered by a committed delivery, the
identical request, delivered again after any operations while it still
authenticates, gets the same answer and changes nothing. -/
theorem redelivery_repeats_first_answer (app : App) (db : Db) (reached : Reachable app db)
    (providerCode : String) (adapter : Adapter)
    (enabled : app.adapter providerCode = some adapter) (raw : RawWebhook) (moment : ℚ)
    (clock : Clock) (callback : ProviderCallback)
    (parsed : adapter.parseWebhook app.runtime moment raw = .ok callback)
    (signed : callback.signatureValid = true)
    (finalizing : callback.action = .confirm ∨ callback.action = .cancel)
    (response : WebhookResponse)
    (answered : (process app providerCode raw moment clock db).1 = .ok response) (later : Db)
    (run : Runs app (process app providerCode raw moment clock db).2 later) (laterMoment : ℚ)
    (laterClock : Clock) (repeated : ProviderCallback)
    (parsedAgain : adapter.parseWebhook app.runtime laterMoment raw = .ok repeated)
    (stillSigned : repeated.signatureValid = true) :
    process app providerCode raw laterMoment laterClock later = (.ok response, later) := by
  have ends : callback.action.isFinalizing = true := by
    rcases finalizing with confirm | cancel
    · rw [confirm]
      rfl
    · rw [cancel]
      rfl
  have same := parseWebhook_same parsed parsedAgain signed stillSigned
  subst same
  have afterFirst : Reachable app (process app providerCode raw moment clock db).2 :=
    .step db (.webhook providerCode raw moment clock) reached
  obtain ⟨outcome, final, dispatched, rendered⟩ :
      ∃ outcome final, dispatch app.runtime adapter.code repeated raw clock db =
        .ok outcome final ∧ adapter.buildWebhookResponse outcome = .ok response := by
    cases dispatched : dispatch app.runtime adapter.code repeated raw clock db with
    | ok outcome final =>
      rw [process_of_dispatch enabled parsed dispatched] at answered
      exact ⟨outcome, final, rfl, answered⟩
    | error raised copy =>
      unfold process at answered
      simp only [enabled, parsed, Tx.commit_of_error dispatched] at answered
      cases answered
  rw [process_of_dispatch enabled parsed dispatched] at run afterFirst
  obtain ⟨row, taken, first⟩ := rowAnswer_of_handles signed ends (dispatch_ok dispatched)
  have kept := rowAnswer_stable afterFirst run ends taken
  rw [process_of_dispatch enabled parsedAgain (dispatch_taken (changes_of_finalizing ends) signed
    (run.keepsLedger taken) app.runtime raw laterClock)]
  rw [rowAnswer, first, rendered] at kept
  rw [kept]

namespace Sample

/-- An event that a checkout session ran out. -/
def expiredEventBody : String :=
  "\x7b\"id\":\"evt_1\",\"type\":\"checkout.session.expired\",\"data\":\x7b\x7d\x7d"

def expiredEventSignature : String :=
  "4b726e05e9c7f6a44e7b4ef2eb57f198e2bac8e08bff9026dfef0636069772c3"

/-- `json.loads` of the sample event. -/
def eventLoads (body : String) : Except Exc Json :=
  if body = expiredEventBody then
    .ok (.dict [("id", .str "evt_1"), ("type", .str "checkout.session.expired"),
      ("data", .dict [])])
  else .error .jsonDecodeError

theorem eventLoads_foreign (text : String) (raised : Exc)
    (failed : eventLoads text = .error raised) : raised.isDomainError = false := by
  unfold eventLoads at failed
  split at failed
  · cases failed
  · cases failed
    rfl

/-- HMAC-SHA256 of the text the sample event is signed over. -/
def eventDigest (secret text : String) : String :=
  if secret = "whsec" ∧ text = "1768435200." ++ expiredEventBody then expiredEventSignature
  else digest 64

theorem eventDigest_isHexDigest (secret text : String) :
    IsHexDigest 64 (eventDigest secret text) := by
  unfold eventDigest
  split
  · exact isHexDigest_of_check rfl
  · exact digest_isHexDigest 64

def stripeConfig : Stripe.Config := ⟨"whsec", 300⟩

def stripeApp : App where
  runtime := { runtime with
    loads := eventLoads
    loads_foreign := eventLoads_foreign
    hmacSha256Hex := eventDigest
    hmac_digest := eventDigest_isHexDigest }
  settings := ⟨false, "", 3600⟩
  payme := none
  click := none
  stripe := some stripeConfig

def expiredEventRequest : RawWebhook where
  headers := [("Stripe-Signature", "t=1768435200,v1=" ++ expiredEventSignature)]
  body := expiredEventBody
  form := []

/-- The event authenticates when it is sent and is answered 200; the identical
request 400 seconds later is refused as outside the signature's window. -/
theorem redelivery_outside_window :
    Reachable stripeApp emptyDb ∧
      stripeApp.adapter "stripe" = some (.stripe stripeConfig) ∧
      ((Adapter.stripe stripeConfig).parseWebhook stripeApp.runtime 1768435200
          expiredEventRequest).map
          (fun callback => (callback.action, callback.providerTxnId, callback.signatureValid)) =
        .ok (.cancel, some "evt_1", true) ∧
      (process stripeApp "stripe" expiredEventRequest 1768435200 clock emptyDb).1.map
          WebhookResponse.statusCode = .ok 200 ∧
      (process stripeApp "stripe" expiredEventRequest 1768435600 clock
          (process stripeApp "stripe" expiredEventRequest 1768435200 clock emptyDb).2).1.map
          WebhookResponse.statusCode = .ok 400 :=
  ⟨.initial emptyDb ⟨rfl, rfl, rfl, rfl⟩, rfl, by decide +kernel, by decide +kernel,
    by decide +kernel⟩

/-- Click's Complete for the order. -/
def completeRequest : RawWebhook where
  headers := []
  body := ""
  form := [("click_trans_id", "42"), ("service_id", "1"),
    ("merchant_trans_id", "00000000-0000-0000-0000-000000000007"),
    ("merchant_prepare_id", "00000000-0000-0000-0000-000000000007"), ("amount", "500"),
    ("action", "1"), ("error", "0"), ("sign_time", "2026-01-15 00:00:00"),
    ("sign_string", "bd405afbe5f9626b87e14a077efec3fa")]

def completeCallback : ProviderCallback where
  provider := .click
  providerTxnId := some "42"
  action := .confirm
  paymentReference := "00000000-0000-0000-0000-000000000007"
  amount := some ⟨500, "UZS"⟩
  raw := completeRequest.form.map fun entry => (entry.1, .str entry.2)
  signatureValid := true
  reason := none

def completeAnswer : WebhookResponse where
  statusCode := 200
  body := [("click_trans_id", .str "42"),
    ("merchant_trans_id", .str "00000000-0000-0000-0000-000000000007"),
    ("merchant_prepare_id", .str "00000000-0000-0000-0000-000000000007"), ("error", .int 0),
    ("error_note", .str "Success")]

set_option maxRecDepth 2000 in
theorem complete_parsed :
    (Adapter.click clickConfig).parseWebhook clickApp.runtime 0 completeRequest =
      .ok completeCallback := rfl

/-- Complete, then `cancel_payment`, which is refused, then Complete again. -/
theorem redelivery_of_complete :
    process clickApp "click" completeRequest 0 clock
        ((Op.cancelPayment tenant 7 clock).run clickApp
          (process clickApp "click" completeRequest 0 clock preparedDb).2) =
      (.ok completeAnswer, (Op.cancelPayment tenant 7 clock).run clickApp
        (process clickApp "click" completeRequest 0 clock preparedDb).2) :=
  redelivery_repeats_first_answer clickApp preparedDb preparedDb_reached "click"
    (.click clickConfig) rfl completeRequest 0 clock completeCallback complete_parsed rfl
    (Or.inl rfl) completeAnswer rfl _ (.step _ _ .refl) 0 clock completeCallback complete_parsed
    rfl

end Sample

end BackendCore.Billing
