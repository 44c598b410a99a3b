import BackendCore.Billing.CheckTransaction

/-!
# Answering every callback

The response to a callback is rendered after its transaction has committed.
Click and Stripe render every outcome.  Payme does too, except that
CheckTransaction reads the reason of a closed payment back with `int()`, and the
stored reason is whatever text an earlier CancelTransaction carried.
-/

set_option autoImplicit false

namespace BackendCore.Billing

open BackendCore.Python

/-- A closed payment whose stored reason is one that `int()` does not read. -/
structure Illegible (payment : Payment) : Prop where
  closed : ∃ target : Closing, payment.status = target.status
  stored : ∃ code, payment.failureCode = some code ∧
    isdigit (String.ofList (code.toList.dropWhile (· = '-'))) = true ∧ Unreadable code

/-- An authentic CheckTransaction for such a payment. -/
def AsksIllegible (adapter : Adapter) (db : Db) (callback : ProviderCallback) : Prop :=
  adapter.code = .payme ∧ callback.action = .status ∧ callback.signatureValid = true ∧
    ∃ payment, locate db callback = .ok (some payment) ∧ Illegible payment

theorem Payme.stateOf_eq_minus_one_iff (payment : PaymentDTO) :
    Payme.stateOf payment = -1 ↔ ∃ target : Closing, payment.status = target.status := by
  constructor
  · intro minus
    unfold Payme.stateOf at minus
    cases status : payment.status with
    | failed => exact ⟨.failed, rfl⟩
    | canceled => exact ⟨.canceled, rfl⟩
    | expired => exact ⟨.expired, rfl⟩
    | created | pending | succeeded =>
      rw [status] at minus
      cases minus
  · rintro ⟨target, closed⟩
    exact Payme.stateOf_closing closed

theorem reasonOf_ok_iff (payment : Payment) :
    (∃ reason, Payme.reasonOf (paymentDto payment) = .ok reason) ↔ ¬Illegible payment := by
  by_cases closed : Payme.stateOf (paymentDto payment) = -1
  · unfold Payme.reasonOf
    rw [if_neg (not_not.mpr closed)]
    have target := (Payme.stateOf_eq_minus_one_iff _).mp closed
    cases stored : payment.failureCode with
    | none =>
      simp only [paymentDto, stored, Except.ok.injEq, exists_eq', true_iff]
      rintro ⟨_, code, there, _⟩
      rw [stored] at there
      cases there
    | some code =>
      simp only [paymentDto, stored]
      by_cases digits : isdigit (String.ofList (code.toList.dropWhile (· = '-'))) = true
      · rw [if_pos digits]
        cases number : Python.int code with
        | none =>
          simp only [reduceCtorEq, exists_false, false_iff, not_not]
          exact ⟨target, code, stored, digits, (int_eq_none_iff digits).mp number⟩
        | some value =>
          simp only [Except.ok.injEq, exists_eq', true_iff]
          rintro ⟨_, other, there, _, unreadable⟩
          rw [stored] at there
          cases there
          rw [(int_eq_none_iff digits).mpr unreadable] at number
          cases number
      · rw [if_neg digits]
        simp only [Except.ok.injEq, exists_eq', true_iff]
        rintro ⟨_, other, there, readable, _⟩
        rw [stored] at there
        cases there
        exact digits readable
  · have answered : Payme.reasonOf (paymentDto payment) = .ok .null := by
      rw [Payme.reasonOf, if_pos closed]
    rw [answered]
    simp only [Except.ok.injEq, exists_eq', true_iff]
    rintro ⟨target, _⟩
    exact closed ((Payme.stateOf_eq_minus_one_iff _).mpr target)

theorem payme_answers_of_ne_status {outcome : CallbackOutcome}
    (other : outcome.callback.action ≠ .status) :
    ∃ response, Payme.buildWebhookResponse outcome = .ok response := by
  have result : ∃ fields, Payme.successResult outcome = .ok fields := by
    unfold Payme.successResult
    cases outcome.payment with
    | none => cases outcome.callback.action <;> exact ⟨_, rfl⟩
    | some payment =>
      cases action : outcome.callback.action with
      | status => exact absurd action other
      | check | create | confirm | cancel => exact ⟨_, rfl⟩
  obtain ⟨fields, built⟩ := result
  unfold Payme.buildWebhookResponse
  simp only
  split
  · rw [built]
    exact ⟨_, rfl⟩
  · exact ⟨_, rfl⟩

theorem payme_answers_of_refused {outcome : CallbackOutcome}
    (asks : outcome.callback.action = .status)
    (refused : outcome.status = .invalidSignature ∨ outcome.status = .notFound) :
    ∃ response, Payme.buildWebhookResponse outcome = .ok response := by
  have answered : Payme.answeredStatus outcome = outcome.status := by
    simp [Payme.answeredStatus, asks]
  have unsuccessful : ¬(outcome.status = .ok ∨ outcome.status = .alreadyProcessed) := by
    rcases refused with status | status <;> simp [status]
  unfold Payme.buildWebhookResponse
  simp only [answered, if_neg unsuccessful]
  exact ⟨_, rfl⟩

/-! ## Outcomes -/

theorem Settles.callback {db final : Db} {callback : ProviderCallback}
    {received : PaymentWebhook} {now : DateTime} {outcome : CallbackOutcome}
    (settles : Settles db callback received now outcome final) : outcome.callback = callback := by
  cases settles with
  | unknown => rfl
  | mismatched => rfl
  | refused => rfl
  | applied => rfl

theorem replayOutcome_callback (webhook : PaymentWebhook) (payment : Option Payment)
    (callback : ProviderCallback) :
    (replayOutcome webhook payment callback).callback = callback := by
  unfold replayOutcome
  split <;> first | rfl | (split <;> rfl)

theorem Handles.callback {runtime : Runtime} {db final : Db} {provider : Provider}
    {callback : ProviderCallback} {raw : RawWebhook} {now : DateTime} {outcome : CallbackOutcome}
    (handles : Handles runtime db provider callback raw now outcome final) :
    callback.action.isReadOnly = true ∨ outcome.callback = callback := by
  cases handles with
  | read readOnly => exact Or.inl readOnly
  | forged => exact Or.inr rfl
  | replayed changes signed webhook =>
    exact Or.inr (replayOutcome_callback webhook _ callback)
  | settled changes signed fresh outcome final settles => exact Or.inr settles.callback

theorem handleReadOnly_outcome {callback : ProviderCallback} {db final : Db}
    {outcome : CallbackOutcome} (run : handleReadOnly callback db = .ok outcome final) :
    outcome = ⟨.invalidSignature, none, callback⟩ ∧ callback.signatureValid = false ∨
    outcome = ⟨.notFound, none, callback⟩ ∧ locate db callback = .ok none ∨
    (callback.signatureValid = true ∧ ∃ payment, locate db callback = .ok (some payment) ∧
      outcome.callback = callback) := by
  unfold handleReadOnly at run
  by_cases signed : callback.signatureValid = true
  · simp only [signed, if_true] at run
    obtain ⟨found, _, looked, rest⟩ := (Tx.bind_ok_iff _ _ _ _ _).mp run
    obtain ⟨located, rfl⟩ := (findPayment_ok_iff _ _ _ _).mp looked
    cases found with
    | none =>
      cases rest
      exact Or.inr (Or.inl ⟨rfl, located⟩)
    | some payment =>
      refine Or.inr (Or.inr ⟨signed, payment, located, ?_⟩)
      by_cases agrees : amountOk callback payment = true
      · simp only [agrees, if_true] at rest
        split at rest
        · cases rest
          rfl
        · cases rest
          rfl
      · simp only [agrees] at rest
        cases rest
        rfl
  · simp only [signed] at run
    cases run
    exact Or.inl ⟨rfl, by simpa using signed⟩

theorem payme_answered_iff {runtime : Runtime} {config : Payme.Config} {raw : RawWebhook}
    {callback : ProviderCallback} {clock : Clock} {db final : Db} {outcome : CallbackOutcome}
    (parsed : Payme.parseWebhook runtime config raw = .ok callback)
    (run : dispatch runtime .payme callback raw clock db = .ok outcome final) :
    (∃ response, Payme.buildWebhookResponse outcome = .ok response) ↔
      ¬AsksIllegible (.payme config) db callback := by
  by_cases asks : callback.action = .status
  · have readOnly : callback.action.isReadOnly = true := by rw [asks]; rfl
    have read : handleReadOnly callback db = .ok outcome final := by
      rwa [dispatch, if_pos readOnly] at run
    rcases handleReadOnly_outcome read with ⟨rfl, unsigned⟩ | ⟨rfl, missing⟩ |
      ⟨signed, payment, located, _⟩
    · refine iff_of_true (payme_answers_of_refused asks (Or.inl rfl)) ?_
      rintro ⟨_, _, signed, _⟩
      rw [unsigned] at signed
      cases signed
    · refine iff_of_true (payme_answers_of_refused asks (Or.inr rfl)) ?_
      rintro ⟨_, _, _, payment, located, _⟩
      rw [missing] at located
      cases located
    · have free := Payme.parseWebhook_status parsed asks
      rw [dispatch_status asks signed free located] at run
      cases run
      have asked : AsksIllegible (.payme config) db callback ↔ Illegible payment := by
        constructor
        · rintro ⟨_, _, _, other, there, illegible⟩
          rw [located] at there
          cases there
          exact illegible
        · intro illegible
          exact ⟨rfl, asks, signed, payment, located, illegible⟩
      rw [asked, ← reasonOf_ok_iff]
      cases reason : Payme.reasonOf (paymentDto payment) with
      | ok value =>
        rw [buildWebhookResponse_status asks reason]
        exact iff_of_true ⟨_, rfl⟩ ⟨_, rfl⟩
      | error raised =>
        rw [buildWebhookResponse_status_error asks reason]
        refine iff_of_false ?_ ?_
        · rintro ⟨_, ⟨⟩⟩
        · rintro ⟨_, ⟨⟩⟩
  · refine iff_of_true ?_ (fun asked => asks asked.2.1)
    have same : outcome.callback = callback := by
      rcases (dispatch_ok run).callback with readOnly | same
      · rw [dispatch, if_pos readOnly] at run
        rcases handleReadOnly_outcome run with ⟨rfl, _⟩ | ⟨rfl, _⟩ | ⟨_, _, _, same⟩
        · rfl
        · rfl
        · exact same
      · exact same
    exact payme_answers_of_ne_status (by rwa [same])

/-- Every callback is answered, except a CheckTransaction for a closed payment
whose stored reason has repeated signs, digits that are no decimals or too many
of them. -/
theorem callback_is_answered_iff (runtime : Runtime) (adapter : Adapter) (moment : ℚ)
    (raw : RawWebhook) (callback : ProviderCallback)
    (parsed : adapter.parseWebhook runtime moment raw = .ok callback) (clock : Clock)
    (db final : Db) (outcome : CallbackOutcome)
    (run : dispatch runtime adapter.code callback raw clock db = .ok outcome final) :
    (∃ response, adapter.buildWebhookResponse outcome = .ok response) ↔
      ¬AsksIllegible adapter db callback := by
  cases adapter with
  | payme config => exact payme_answered_iff parsed run
  | click config => exact iff_of_true ⟨_, rfl⟩ (fun asked => nomatch asked.1)
  | stripe config => exact iff_of_true ⟨_, rfl⟩ (fun asked => nomatch asked.1)

namespace Sample

/-- The transaction is canceled by Payme, with the given request. -/
def providerCanceledDb (body : String) : Db :=
  (Op.webhook "payme" (rpcRequest body) 0 clock).run paymeApp transactionDb

def providerCanceled (code : String) : Payment :=
  { canceledTransaction with failureCode := some code }

theorem located_canceled : locate (providerCanceledDb cancelBody) checkCallback =
    .ok (some (providerCanceled "5")) := by
  decide +kernel

theorem located_signed : locate (providerCanceledDb signedBody) checkCallback =
    .ok (some (providerCanceled "--5")) := by
  decide +kernel

/-- A CheckTransaction after a cancel with the reason 5. -/
theorem check_after_cancel_is_answered :
    ∃ response, (Adapter.payme paymeConfig).buildWebhookResponse
      ⟨.ok, some (paymentDto (providerCanceled "5")), checkCallback⟩ = .ok response := by
  refine (callback_is_answered_iff paymeApp.runtime (.payme paymeConfig) 0 (rpcRequest checkBody)
    checkCallback check_parsed clock (providerCanceledDb cancelBody)
    (providerCanceledDb cancelBody) _
    (dispatch_status rfl rfl rfl located_canceled)).mpr ?_
  rintro ⟨_, _, _, payment, located, _, code, stored, _, unreadable⟩
  rw [located_canceled] at located
  cases located
  cases stored
  rcases unreadable with signs | ⟨c, member, unknown⟩ | long
  · revert signs
    decide +kernel
  · have five : c = '5' := by
      simpa using (show c ∈ ['5'] from member)
    rw [five] at unknown
    cases unknown
  · change 4300 < 1 at long
    omega

/-- A CheckTransaction after a cancel with the reason `"--5"` raises. -/
theorem check_after_signed_reason_raises :
    Reachable paymeApp (providerCanceledDb signedBody) ∧
      Payme.parseWebhook paymeApp.runtime paymeConfig (rpcRequest checkBody) = .ok checkCallback ∧
      dispatch paymeApp.runtime .payme checkCallback (rpcRequest checkBody) clock
          (providerCanceledDb signedBody) =
        .ok ⟨.ok, some (paymentDto (providerCanceled "--5")), checkCallback⟩
          (providerCanceledDb signedBody) ∧
      (Adapter.payme paymeConfig).buildWebhookResponse
        ⟨.ok, some (paymentDto (providerCanceled "--5")), checkCallback⟩ = .error .valueError := by
  have start : Reachable paymeApp emptyDb := .initial emptyDb ⟨rfl, rfl, rfl, rfl⟩
  have reason : Payme.reasonOf (paymentDto (providerCanceled "--5")) = .error .valueError := rfl
  have asks : checkCallback.action = .status := rfl
  exact ⟨.step _ _ (.step _ _ (.step _ _ start)), check_parsed,
    dispatch_status rfl rfl rfl located_signed, buildWebhookResponse_status_error asks reason⟩

end Sample

end BackendCore.Billing
