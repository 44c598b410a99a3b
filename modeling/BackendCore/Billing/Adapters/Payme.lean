import BackendCore.Python.Base64
import BackendCore.Billing.Ports

/-!
# Payme adapter

`core/billing/adapters/payme.py`: JSON-RPC callbacks under HTTP Basic
authentication, amounts in tiyin.
-/

set_option autoImplicit false

namespace BackendCore.Billing.Payme

open BackendCore.Python

structure Config where
  merchantKey : String

def expectedAuth (config : Config) : String := "Paycom:" ++ config.merchantKey

def tiyinPerSum : Nat := 100

def paymeCurrency : String := "UZS"

def accountField : String := "payment_id"

/-- Ledger units, which are sums, to tiyin. -/
def toTiyin (money : Money) : Except Exc Int :=
  if money.currency ≠ paymeCurrency then
    .error (.paymentProviderError ("Payme supports only " ++ paymeCurrency ++ ", got " ++
      money.currency))
  else .ok (money.amount * tiyinPerSum)

/-! ## Parsing -/

/-- `_METHOD_ACTIONS`. -/
def methodAction (method : String) : Option CallbackAction :=
  if method = "CheckPerformTransaction" then some .check
  else if method = "CreateTransaction" then some .create
  else if method = "PerformTransaction" then some .confirm
  else if method = "CancelTransaction" then some .cancel
  else if method = "CheckTransaction" then some .status
  else none

/-- `isinstance(value, int)`: a bool is an int. -/
def asInt : Json → Option Int
  | .int value => some value
  | .bool value => some (if value then 1 else 0)
  | _ => none

def minorUnitsFromTiyin (runtime : Runtime) (tiyin : Json) : Except Exc Int :=
  match asInt tiyin with
  | some value =>
    if value < 0 ∨ value % tiyinPerSum ≠ 0 then
      .error (.paymentProviderError ("invalid Payme amount in tiyin: " ++
        Json.reprValue runtime.unicode.isPrintableChar tiyin))
    else .ok (value / tiyinPerSum)
  | none =>
    .error (.paymentProviderError ("invalid Payme amount in tiyin: " ++
      Json.reprValue runtime.unicode.isPrintableChar tiyin))

/-- The carried amount, with `Money(0)` for one that cannot be parsed. -/
def carriedAmount (runtime : Runtime) (tiyin : Json) : Except Exc Money := do
  match minorUnitsFromTiyin runtime tiyin with
  | .ok value => Money.make runtime.unicode value paymeCurrency
  | .error (.paymentProviderError _) => Money.make runtime.unicode 0 paymeCurrency
  | .error raised => .error raised

def decodeJsonrpc (runtime : Runtime) (body : String) : Except Exc (List (String × Json)) :=
  match runtime.loads body with
  | .error .jsonDecodeError =>
    .error (.webhookVerificationError "payme: body is not valid JSON")
  | .error .typeError => .error (.webhookVerificationError "payme: body is not valid JSON")
  | .error raised => .error raised
  | .ok (.dict fields) =>
    if (Json.lookup fields "method").isSome then .ok fields
    else .error (.webhookVerificationError "payme: not a JSON-RPC request")
  | .ok _ => .error (.webhookVerificationError "payme: not a JSON-RPC request")

/-- `_auth_ok`. -/
def authOk (config : Config) (raw : RawWebhook) : Except Exc Bool :=
  match raw.header "authorization" with
  | none => .ok false
  | some header =>
    if startswith (lower header) "basic " then
      match b64decodeText (strip (String.ofList (header.toList.drop 6))) with
      | .error .notAscii => .error .valueError
      | .error .malformed => .ok false
      | .ok decoded => compareDigest decoded (expectedAuth config)
    else .ok false

structure Normalized where
  providerTxnId : Option String
  reference : String
  amount : Option Money

/-- `_normalize`. -/
def normalize (runtime : Runtime) (action : CallbackAction) (params : List (String × Json)) :
    Except Exc Normalized := do
  let shown := Json.toStr runtime.unicode.isPrintableChar
  let txnId := (Json.lookup params "id").map shown
  if action = .check ∨ action = .create then
    let reference :=
      match Json.getD params "account" with
      | .dict account => ((Json.lookup account accountField).map shown).getD ""
      | _ => ""
    let amount ← carriedAmount runtime ((Json.lookup params "amount").getD (.int 0))
    pure ⟨if action = .create then txnId else none, reference, some amount⟩
  else pure ⟨txnId, "", none⟩

/-- `data.get("params") or {}`. -/
def paramsOf (data : List (String × Json)) : Except Exc (List (String × Json)) :=
  let params := Json.getD data "params"
  if params.truthy then
    match params with
    | .dict fields => .ok fields
    | _ => .error (.webhookVerificationError "payme: params is not an object")
  else .ok []

def actionOf (runtime : Runtime) (method : Json) : Except Exc CallbackAction :=
  let unsupported : Exc := .webhookVerificationError
    ("payme: unsupported method " ++ Json.reprValue runtime.unicode.isPrintableChar method)
  match method with
  | .null => .error unsupported
  | method =>
    match methodAction (Json.toStr runtime.unicode.isPrintableChar method) with
    | some action => .ok action
    | none => .error unsupported

def parseWebhook (runtime : Runtime) (config : Config) (raw : RawWebhook) :
    Except Exc ProviderCallback := do
  let data ← decodeJsonrpc runtime raw.body
  let method := Json.getD data "method"
  let action ← actionOf runtime method
  let params ← paramsOf data
  let normalized ← normalize runtime action params
  let reason :=
    match (if action = .cancel then Json.getD params "reason" else .null) with
    | .null => none
    | reason => some (Json.toStr runtime.unicode.isPrintableChar reason)
  let signatureValid ← authOk config raw
  pure
    { provider := .payme
      providerTxnId := normalized.providerTxnId
      action := action
      paymentReference := normalized.reference
      amount := normalized.amount
      raw := [("id", Json.getD data "id"), ("method", method), ("params", .dict params)]
      signatureValid := signatureValid
      reason := reason }

/-! ## Answering -/

/-- `_ms`. -/
def ms (moment : Option DateTime) : Int :=
  match moment with
  | some moment => truncate (toDouble (moment.timestamp * 1000))
  | none => 0

def stateOf (payment : PaymentDTO) : Int :=
  match payment.status with
  | .succeeded => 2
  | .created => 1
  | .pending => 1
  | _ => -1

/-- `_reason`; `int` raises on digits that are not decimal digits. -/
def reasonOf (payment : PaymentDTO) : Except Exc Json :=
  if stateOf payment ≠ -1 then .ok .null
  else
    let otherwise : Json := if payment.status = .expired then .int 4 else .null
    match payment.failureCode with
    | none => .ok otherwise
    | some code =>
      if isdigit (String.ofList (code.toList.dropWhile (· = '-'))) then
        match Python.int code with
        | some value => .ok (.int value)
        | none => .error .valueError
      else .ok otherwise

/-- `_success_result`. -/
def successResult (outcome : CallbackOutcome) : Except Exc (List (String × Json)) :=
  match outcome.callback.action, outcome.payment with
  | .check, _ => .ok [("allow", .bool true)]
  | _, none => .ok []
  | .create, some payment => .ok
      [("create_time", .int (ms payment.pendingAt)),
        ("transaction", .str (Uuid.toStr payment.id)), ("state", .int (stateOf payment))]
  | .confirm, some payment => .ok
      [("transaction", .str (Uuid.toStr payment.id)),
        ("perform_time", .int (ms payment.paidAt)), ("state", .int (stateOf payment))]
  | .cancel, some payment => .ok
      [("transaction", .str (Uuid.toStr payment.id)),
        ("cancel_time", .int (ms payment.closedAt)), ("state", .int (stateOf payment))]
  | .status, some payment => do
      let reason ← reasonOf payment
      .ok
        [("create_time", .int (ms payment.pendingAt)), ("perform_time", .int (ms payment.paidAt)),
          ("cancel_time", .int (ms payment.closedAt)),
          ("transaction", .str (Uuid.toStr payment.id)), ("state", .int (stateOf payment)),
          ("reason", reason)]

/-- `_ERROR_MESSAGES`. -/
def errorMessage (status : OutcomeStatus) : Int × String :=
  match status with
  | .invalidSignature => (-32504, "Insufficient privilege")
  | .amountMismatch => (-31001, "Invalid amount")
  | .invalidState => (-31008, "Unable to perform operation")
  | .notFound => (-31050, "Order not found")
  | _ => (-31008, "Unable to perform operation")

/-- `_TXN_KEYED_ACTIONS`. -/
def isTxnKeyed : CallbackAction → Bool
  | .confirm => true
  | .cancel => true
  | .status => true
  | _ => false

/-- The status the answer is rendered from: a repeated CreateTransaction is
answered as a success only while the payment is pending. -/
def answeredStatus (outcome : CallbackOutcome) : OutcomeStatus :=
  if outcome.callback.action = .create ∧
      (outcome.status = .ok ∨ outcome.status = .alreadyProcessed) ∧
      (outcome.payment.any fun payment => payment.status ≠ .pending) = true then .invalidState
  else outcome.status

def buildWebhookResponse (outcome : CallbackOutcome) : Except Exc WebhookResponse := do
  let requestId := Json.getD outcome.callback.raw "id"
  let status := answeredStatus outcome
  if status = .ok ∨ status = .alreadyProcessed then
    let result ← successResult outcome
    pure ⟨200, [("result", .dict result), ("id", requestId)]⟩
  else
    let (code, message) :=
      if status = .notFound ∧ isTxnKeyed outcome.callback.action = true then
        (-31003, "Transaction not found")
      else errorMessage status
    pure ⟨200, [("error", .dict [("code", .int code), ("message", .str message)]),
      ("id", requestId)]⟩

end BackendCore.Billing.Payme
