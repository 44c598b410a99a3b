import BackendCore.Billing.Ports

/-!
# Stripe adapter

`core/billing/adapters/stripe.py`: signed events.  The signature covers a
timestamp that has to lie within `tolerance_seconds` of the clock, a double.
-/

set_option autoImplicit false

namespace BackendCore.Billing.Stripe

open BackendCore.Python

structure Config where
  webhookSecret : String
  toleranceSeconds : Int

def eventCompleted : String := "checkout.session.completed"

def eventExpired : String := "checkout.session.expired"

/-! ## Amounts -/

def toStripeAmount (money : Money) : Int := money.amount

/-- The currency `create_checkout` sends. -/
def checkoutCurrency (letters : LowerCase) (money : Money) : String :=
  letters.lower money.currency

/-- `_normalize_currency`. -/
def normalizeCurrency (runtime : Runtime) (currency : Json) : Except Exc String :=
  let shown := Json.toStr runtime.unicode.isPrintableChar
  let code := runtime.unicode.upper (if currency.truthy then shown currency else "")
  if code.toList.length ≠ 3 ∨ runtime.unicode.isalpha code = false then
    .error (.paymentProviderError ("invalid Stripe currency: " ++
      Json.reprValue runtime.unicode.isPrintableChar currency))
  else .ok code

def minorUnitsFromStripe (runtime : Runtime) (amount currency : Json) : Except Exc Money :=
  let invalid : Exc := .paymentProviderError ("invalid Stripe amount: " ++
    Json.reprValue runtime.unicode.isPrintableChar amount)
  match amount with
  | .int value =>
    if value < 0 then .error invalid
    else
      match normalizeCurrency runtime currency with
      | .ok code => Money.make runtime.unicode value code
      | .error raised => .error raised
  | _ => .error invalid

/-! ## Signature -/

/-- `_parse_signature_header`: the last `t` and all `v1`, in order. -/
def parseSignatureHeader (header : String) : Option String × List String :=
  (split header ',').foldl (fun (found : Option String × List String) part =>
    let entry := partition (strip part) '='
    if entry.1 = "t" then (some entry.2, found.2)
    else if entry.1 = "v1" then (found.1, found.2 ++ [entry.2])
    else found) (none, [])

/-- `abs(clock - timestamp) > tolerance`, in doubles. -/
def outsideWindow (config : Config) (moment : ℚ) (timestamp : Int) : Except Exc Bool :=
  if doubleOverflow ≤ |(timestamp : ℚ)| then .error .overflowError
  else .ok (decide ((config.toleranceSeconds : ℚ) <
    |toDouble (moment - toDouble (timestamp : ℚ))|))

/-- `any(compare_digest(expected, candidate) for candidate in signatures)`. -/
def anyMatch (expected : String) : List String → Except Exc Bool
  | [] => .ok false
  | candidate :: rest =>
    match compareDigest expected candidate with
    | .ok true => .ok true
    | .ok false => anyMatch expected rest
    | .error raised => .error raised

/-- `_signature_ok`; `int` raises on digits that are not decimal digits. -/
def signatureOk (runtime : Runtime) (config : Config) (moment : ℚ) (raw : RawWebhook) :
    Except Exc Bool :=
  match raw.header "stripe-signature" with
  | none => .ok false
  | some header =>
    match parseSignatureHeader header with
    | (some timestamp, first :: rest) =>
      if isdigit timestamp then
        match Python.int timestamp with
        | none => .error .valueError
        | some seconds =>
          match outsideWindow config moment seconds with
          | .error raised => .error raised
          | .ok true => .ok false
          | .ok false => do
            let payload ← encode runtime (timestamp ++ "." ++ raw.body)
            let secret ← encode runtime config.webhookSecret
            anyMatch (runtime.hmacSha256Hex secret payload) (first :: rest)
      else .ok false
    | _ => .ok false

/-! ## Parsing -/

def decodeEvent (runtime : Runtime) (body : String) : Except Exc (List (String × Json)) :=
  match runtime.loads body with
  | .error .jsonDecodeError =>
    .error (.webhookVerificationError "stripe: body is not valid JSON")
  | .error .typeError => .error (.webhookVerificationError "stripe: body is not valid JSON")
  | .error raised => .error raised
  | .ok (.dict fields) =>
    if (Json.lookup fields "type").isSome && (Json.lookup fields "data").isSome then .ok fields
    else .error (.webhookVerificationError "stripe: not an Event object")
  | .ok _ => .error (.webhookVerificationError "stripe: not an Event object")

/-- `_event_object`. -/
def eventObject (event : List (String × Json)) : List (String × Json) :=
  match Json.getD event "data" with
  | .dict data =>
    match Json.getD data "object" with
    | .dict object => object
    | _ => []
  | _ => []

structure Normalized where
  action : CallbackAction
  reference : String
  providerTxnId : Option String
  amount : Option Money

def isPaid (object : List (String × Json)) : Bool :=
  match Json.getD object "payment_status" with
  | .str status => status = "paid"
  | _ => false

/-- `_normalize`. -/
def normalize (runtime : Runtime) (event : List (String × Json)) (eventType : String)
    (object : List (String × Json)) : Except Exc Normalized := do
  let shown := Json.toStr runtime.unicode.isPrintableChar
  let eventId :=
    match Json.getD event "id" with
    | .null => none
    | id => some (shown id)
  let holder := Json.getD object "client_reference_id"
  let reference := if holder.truthy then shown holder else ""
  if eventType = eventCompleted ∧ isPaid object = true then
    let amount ← minorUnitsFromStripe runtime (Json.getD object "amount_total")
      (Json.getD object "currency")
    pure ⟨.confirm, reference, eventId, some amount⟩
  else if eventType = eventExpired then pure ⟨.cancel, reference, eventId, none⟩
  else pure ⟨.status, "", none, none⟩

def parseWebhook (runtime : Runtime) (config : Config) (moment : ℚ) (raw : RawWebhook) :
    Except Exc ProviderCallback := do
  let event ← decodeEvent runtime raw.body
  let eventType := Json.toStr runtime.unicode.isPrintableChar (Json.getD event "type")
  let object := eventObject event
  let signatureValid ← signatureOk runtime config moment raw
  let normalized ← normalize runtime event eventType object
  pure
    { provider := .stripe
      providerTxnId := normalized.providerTxnId
      action := normalized.action
      paymentReference := normalized.reference
      amount := normalized.amount
      raw := [("id", Json.getD event "id"), ("type", .str eventType)]
      signatureValid := signatureValid
      reason := none }

theorem parseWebhook_ok {runtime : Runtime} {config : Config} {moment : ℚ} {raw : RawWebhook}
    {callback : ProviderCallback}
    (parsed : parseWebhook runtime config moment raw = .ok callback) :
    ∃ event signatureValid normalized,
      decodeEvent runtime raw.body = .ok event ∧
      signatureOk runtime config moment raw = .ok signatureValid ∧
      normalize runtime event (Json.toStr runtime.unicode.isPrintableChar (Json.getD event "type"))
        (eventObject event) = .ok normalized ∧
      callback =
        { provider := .stripe
          providerTxnId := normalized.providerTxnId
          action := normalized.action
          paymentReference := normalized.reference
          amount := normalized.amount
          raw := [("id", Json.getD event "id"),
            ("type", .str (Json.toStr runtime.unicode.isPrintableChar (Json.getD event "type")))]
          signatureValid := signatureValid
          reason := none } := by
  unfold parseWebhook at parsed
  obtain ⟨event, decoded, afterDecode⟩ := (bind_ok_iff _ _ _).mp parsed
  obtain ⟨signatureValid, checked, afterCheck⟩ := (bind_ok_iff _ _ _).mp afterDecode
  obtain ⟨normalized, read, done⟩ := (bind_ok_iff _ _ _).mp afterCheck
  cases done
  exact ⟨event, signatureValid, normalized, decoded, checked, read, rfl⟩

/-! ## Answering -/

def buildWebhookResponse (outcome : CallbackOutcome) : WebhookResponse :=
  if outcome.status = .invalidSignature then ⟨400, [("error", .str "invalid signature")]⟩
  else ⟨200, [("received", .bool true)]⟩

end BackendCore.Billing.Stripe
