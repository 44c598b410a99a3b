import BackendCore.Billing.Answers

/-!
# CheckTransaction

What Payme is told about a transaction: a state, the times it was created,
performed and canceled at, and a reason.  The state is read off the status of
the payment, the times off stamps that different transitions leave.  They fit
together as long as no expired payment succeeds, because that transition keeps
the stamp of the expiry.
-/

set_option autoImplicit false

namespace BackendCore.Billing

open BackendCore.Python

/-! ## Reports -/

theorem Payme.stateOf_closing {payment : PaymentDTO} {target : Closing}
    (closed : payment.status = target.status) : Payme.stateOf payment = -1 := by
  unfold Payme.stateOf
  rw [closed]
  cases target <;> rfl

theorem Payme.parseWebhook_status {runtime : Runtime} {config : Payme.Config} {raw : RawWebhook}
    {callback : ProviderCallback} (parsed : Payme.parseWebhook runtime config raw = .ok callback)
    (asks : callback.action = .status) : callback.amount = none := by
  unfold Payme.parseWebhook at parsed
  obtain ⟨data, _, afterDecode⟩ := (bind_ok_iff _ _ _).mp parsed
  obtain ⟨action, _, afterAction⟩ := (bind_ok_iff _ _ _).mp afterDecode
  obtain ⟨params, _, afterParams⟩ := (bind_ok_iff _ _ _).mp afterAction
  obtain ⟨normalized, read, afterNormalize⟩ := (bind_ok_iff _ _ _).mp afterParams
  obtain ⟨signatureValid, _, done⟩ := (bind_ok_iff _ _ _).mp afterNormalize
  cases done
  change action = .status at asks
  rw [asks] at read
  cases read
  rfl

theorem dispatch_status {runtime : Runtime} {provider : Provider} {callback : ProviderCallback}
    {raw : RawWebhook} {clock : Clock} {db : Db} {payment : Payment}
    (asks : callback.action = .status) (signed : callback.signatureValid = true)
    (free : callback.amount = none) (located : locate db callback = .ok (some payment)) :
    dispatch runtime provider callback raw clock db =
      .ok ⟨.ok, some (paymentDto payment), callback⟩ db := by
  have found : findPayment callback db = .ok (some payment) db :=
    (findPayment_ok_iff _ _ _ _).mpr ⟨located, rfl⟩
  have readOnly : callback.action.isReadOnly = true := by rw [asks]; rfl
  have agrees : amountOk callback payment = true := by rw [amountOk, free]
  unfold dispatch handleReadOnly
  rw [if_pos readOnly, if_pos signed, Tx.bind_run, found]
  simp only [agrees, if_true, asks]
  rfl

theorem buildWebhookResponse_status {callback : ProviderCallback} {dto : PaymentDTO}
    (asks : callback.action = .status) {reason : Json} (read : Payme.reasonOf dto = .ok reason) :
    Payme.buildWebhookResponse ⟨.ok, some dto, callback⟩ =
      .ok ⟨200, [("result", .dict
        [("create_time", .int (Payme.ms dto.pendingAt)),
          ("perform_time", .int (Payme.ms dto.paidAt)),
          ("cancel_time", .int (Payme.ms dto.closedAt)),
          ("transaction", .str (Uuid.toStr dto.id)), ("state", .int (Payme.stateOf dto)),
          ("reason", reason)]), ("id", Json.getD callback.raw "id")]⟩ := by
  have answered : Payme.answeredStatus ⟨.ok, some dto, callback⟩ = .ok := by
    simp [Payme.answeredStatus, asks]
  unfold Payme.buildWebhookResponse
  simp only [answered, true_or, if_true, Payme.successResult, asks, read]
  rfl

theorem buildWebhookResponse_status_error {callback : ProviderCallback} {dto : PaymentDTO}
    (asks : callback.action = .status) {raised : Exc} (read : Payme.reasonOf dto = .error raised) :
    Payme.buildWebhookResponse ⟨.ok, some dto, callback⟩ = .error raised := by
  have answered : Payme.answeredStatus ⟨.ok, some dto, callback⟩ = .ok := by
    simp [Payme.answeredStatus, asks]
  unfold Payme.buildWebhookResponse
  simp only [answered, true_or, if_true, Payme.successResult, asks, read]
  rfl

/-! ## Runs -/

namespace Sample

def createBody : String :=
  "\x7b\"id\":1,\"method\":\"CreateTransaction\",\"params\":\x7b\"id\":\"tx\",\"amount\":50000," ++
    "\"account\":\x7b\"payment_id\":\"00000000-0000-0000-0000-000000000007\"\x7d\x7d\x7d"

def performBody : String :=
  "\x7b\"id\":2,\"method\":\"PerformTransaction\",\"params\":\x7b\"id\":\"tx\"\x7d\x7d"

def checkBody : String :=
  "\x7b\"id\":3,\"method\":\"CheckTransaction\",\"params\":\x7b\"id\":\"tx\"\x7d\x7d"

def cancelBody : String :=
  "\x7b\"id\":4,\"method\":\"CancelTransaction\",\"params\":\x7b\"id\":\"tx\",\"reason\":5\x7d\x7d"

/-- A reason of two minus signs and a digit. -/
def signedBody : String :=
  "\x7b\"id\":4,\"method\":\"CancelTransaction\",\"params\":\x7b\"id\":\"tx\"," ++
    "\"reason\":\"--5\"\x7d\x7d"

/-- `json.loads` of the sample requests. -/
def rpcLoads (body : String) : Except Exc Json :=
  if body = createBody then
    .ok (.dict [("id", .int 1), ("method", .str "CreateTransaction"),
      ("params", .dict [("id", .str "tx"), ("amount", .int 50000),
        ("account", .dict [("payment_id", .str "00000000-0000-0000-0000-000000000007")])])])
  else if body = performBody then
    .ok (.dict [("id", .int 2), ("method", .str "PerformTransaction"),
      ("params", .dict [("id", .str "tx")])])
  else if body = checkBody then
    .ok (.dict [("id", .int 3), ("method", .str "CheckTransaction"),
      ("params", .dict [("id", .str "tx")])])
  else if body = cancelBody then
    .ok (.dict [("id", .int 4), ("method", .str "CancelTransaction"),
      ("params", .dict [("id", .str "tx"), ("reason", .int 5)])])
  else if body = signedBody then
    .ok (.dict [("id", .int 4), ("method", .str "CancelTransaction"),
      ("params", .dict [("id", .str "tx"), ("reason", .str "--5")])])
  else .error .jsonDecodeError

theorem rpcLoads_foreign (text : String) (raised : Exc) (failed : rpcLoads text = .error raised) :
    raised.isDomainError = false := by
  unfold rpcLoads at failed
  split at failed
  · cases failed
  · split at failed
    · cases failed
    · split at failed
      · cases failed
      · split at failed
        · cases failed
        · split at failed
          · cases failed
          · cases failed
            rfl

def paymeConfig : Payme.Config := ⟨"key"⟩

def paymeApp : App where
  runtime := { runtime with
    loads := rpcLoads
    loads_foreign := rpcLoads_foreign }
  settings := ⟨false, "", 3600⟩
  payme := some paymeConfig
  click := none
  stripe := none

/-- A request with the credentials `Paycom:key`. -/
def rpcRequest (body : String) : RawWebhook where
  headers := [("Authorization", "Basic UGF5Y29tOmtleQ==")]
  body := body
  form := []

def paymeIntake : PaymentIntake where
  runtime := paymeApp.runtime
  providers := [.payme]
  newId := 7
  createCheckout := fun payment _ => .ok ⟨payment.id, .payme, "url", none⟩

def checkCallback : ProviderCallback where
  provider := .payme
  providerTxnId := some "tx"
  action := .status
  paymentReference := ""
  amount := none
  raw := [("id", .int 3), ("method", .str "CheckTransaction"),
    ("params", .dict [("id", .str "tx")])]
  signatureValid := true
  reason := none

def orderOp : Op :=
  .createPayment tenant paymeIntake { orderRequest with provider := "payme" } clock

def createOp : Op := .webhook "payme" (rpcRequest createBody) 0 clock

/-- The order has a transaction. -/
def transactionDb : Db := createOp.run paymeApp (orderOp.run paymeApp emptyDb)

theorem loads_check : rpcLoads checkBody =
    .ok (.dict [("id", .int 3), ("method", .str "CheckTransaction"),
      ("params", .dict [("id", .str "tx")])]) := by
  unfold rpcLoads
  rw [if_neg (by decide +kernel), if_neg (by decide +kernel), if_pos rfl]

theorem rpcRequest_authentic (body : String) :
    Payme.authOk paymeConfig (rpcRequest body) = .ok true := by
  have header : (rpcRequest body).header "authorization" = some "Basic UGF5Y29tOmtleQ==" := by
    have same : lower "Authorization" = lower "authorization" := by decide +kernel
    simp [RawWebhook.header, rpcRequest, same]
  rw [Payme.authOk, header]
  decide +kernel

theorem check_parsed :
    Payme.parseWebhook paymeApp.runtime paymeConfig (rpcRequest checkBody) = .ok checkCallback := by
  unfold Payme.parseWebhook Payme.decodeJsonrpc
  rw [show paymeApp.runtime.loads (rpcRequest checkBody).body = _ from loads_check,
    rpcRequest_authentic]
  rfl

def canceledTransaction : Payment :=
  { orderPayment with
    provider := .payme
    status := .canceled
    providerTransactionId := some "tx"
    metadata := ⟨some "url", none, some moment, some moment⟩ }

end Sample

end BackendCore.Billing
