import BackendCore.Python.Decimal
import BackendCore.Billing.Ports

/-!
# Click adapter

`core/billing/adapters/click.py`: form-encoded Prepare and Complete callbacks
under an md5 `sign_string`, amounts in sums.
-/

set_option autoImplicit false

namespace BackendCore.Billing.Click

open BackendCore.Python

structure Config where
  secretKey : String

def clickCurrency : String := "UZS"

def actionPrepare : String := "0"

def actionComplete : String := "1"

/-- `_ACTIONS`. -/
def actionOfCode (code : String) : Option CallbackAction :=
  if code = actionPrepare then some .create
  else if code = actionComplete then some .confirm
  else none

/-- The amount of a checkout. -/
def toSumAmount (money : Money) : Except Exc String :=
  if money.currency ≠ clickCurrency then
    .error (.paymentProviderError ("Click supports only " ++ clickCurrency ++ ", got " ++
      money.currency))
  else .ok (toString money.amount)

/-! ## Parsing -/

/-- A comparison with a NaN raises `InvalidOperation`, the conversion of an
infinity `OverflowError`; a number too large to be written out ends in
`MemoryError`. -/
def minorUnitsFromSum (runtime : Runtime) (value : String) : Except Exc Int :=
  let shown := Json.reprStr runtime.unicode.isPrintableChar value
  let nonIntegral : Exc :=
    .paymentProviderError ("non-integral Click amount for UZS: " ++ shown)
  match Decimal.parse value with
  | none => .error (.paymentProviderError ("invalid Click amount: " ++ shown))
  | some .nan => .error .invalidOperation
  | some (.infinity negative) => .error (if negative then nonIntegral else .overflowError)
  | some (.finite negative coefficient exponent) =>
    if negative = true ∧ coefficient ≠ 0 then .error nonIntegral
    else if coefficient ≠ 0 ∧ (runtime.digitLimit : Int) < exponent then .error .memoryError
    else
      match Decimal.integral? negative coefficient exponent with
      | some amount => .ok amount
      | none => .error nonIntegral

/-- The carried amount, with `Money(0)` for one that cannot be parsed. -/
def carriedAmount (runtime : Runtime) (value : String) : Except Exc Money :=
  match minorUnitsFromSum runtime value with
  | .ok amount => Money.make runtime.unicode amount clickCurrency
  | .error (.paymentProviderError _) => Money.make runtime.unicode 0 clickCurrency
  | .error raised => .error raised

def get (raw : RawWebhook) (name : String) : String := (raw.formGet name).getD ""

/-- The text the signature is over. -/
def signedText (config : Config) (raw : RawWebhook) (actionCode : String) : String :=
  get raw "click_trans_id" ++ get raw "service_id" ++ config.secretKey ++
    get raw "merchant_trans_id" ++
    (if actionCode = actionComplete then get raw "merchant_prepare_id" else "") ++
    get raw "amount" ++ actionCode ++ get raw "sign_time"

/-- `_sign`. -/
def sign (runtime : Runtime) (config : Config) (raw : RawWebhook) (actionCode : String) :
    Except Exc String := do
  let text ← encode runtime (signedText config raw actionCode)
  pure (runtime.md5Hex text)

/-- `_sign_ok`. -/
def signOk (runtime : Runtime) (config : Config) (raw : RawWebhook) (actionCode : String) :
    Except Exc Bool := do
  let expected ← sign runtime config raw actionCode
  compareDigest (get raw "sign_string") expected

/-- The failure code of a Complete that reports a failed payment. -/
def failureOf (raw : RawWebhook) (action : CallbackAction) : Option Int :=
  match Python.int ((raw.formGet "error").getD "None") with
  | some code => if action = .confirm ∧ code < 0 then some code else none
  | none => none

def parseWebhook (runtime : Runtime) (config : Config) (raw : RawWebhook) :
    Except Exc ProviderCallback := do
  match raw.formGet "action", raw.formGet "click_trans_id" with
  | some actionCode, some transId =>
    match actionOfCode actionCode with
    | none => .error (.webhookVerificationError ("click: unsupported action " ++
        Json.reprStr runtime.unicode.isPrintableChar actionCode))
    | some action =>
      let amount ← carriedAmount runtime ((raw.formGet "amount").getD "0")
      let failure := failureOf raw action
      let signatureValid ← signOk runtime config raw actionCode
      pure
        { provider := .click
          providerTxnId := some transId
          action := if failure.isSome then .cancel else action
          paymentReference := get raw "merchant_trans_id"
          amount := if failure.isSome then none else some amount
          raw := raw.form.map fun entry => (entry.1, .str entry.2)
          signatureValid := signatureValid
          reason := failure.map toString }
  | _, _ => .error (.webhookVerificationError "click: not a SHOP-API callback")

/-! ## Answering -/

/-- `_ERROR_CODES`, with the default of the lookup. -/
def errorCode (status : OutcomeStatus) : Int × String :=
  match status with
  | .invalidSignature => (-1, "SIGN CHECK FAILED")
  | .amountMismatch => (-2, "Incorrect parameter amount")
  | .notFound => (-5, "Order not found")
  | .invalidState => (-4, "Already paid")
  | _ => (-6, "Transaction does not exist")

/-- `raw.get("merchant_prepare_id") or str(payment.id)`. -/
def prepareId (outcome : CallbackOutcome) : Option Json :=
  let echoed := Json.getD outcome.callback.raw "merchant_prepare_id"
  if echoed.truthy then some echoed
  else outcome.payment.map fun payment => .str (Uuid.toStr payment.id)

/-- The `error` and `error_note` of the answer. -/
def verdict (outcome : CallbackOutcome) : Int × String :=
  if outcome.status = .ok ∨ outcome.status = .alreadyProcessed then
    if outcome.callback.action = .cancel then (-9, "Transaction cancelled") else (0, "Success")
  else errorCode outcome.status

def buildWebhookResponse (outcome : CallbackOutcome) : WebhookResponse :=
  let raw := outcome.callback.raw
  let prepared :=
    match prepareId outcome with
    | some id => [("merchant_prepare_id", id)]
    | none => []
  ⟨200,
    [("click_trans_id", Json.getD raw "click_trans_id"),
      ("merchant_trans_id", Json.getD raw "merchant_trans_id")] ++ prepared ++
      [("error", .int (verdict outcome).1), ("error_note", .str (verdict outcome).2)]⟩

end BackendCore.Billing.Click
