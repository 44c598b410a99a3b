import BackendCore.Billing.PaymentService

/-!
# PaymentProvider port

The request as the router hands it over, the normalized callback, and the
outcome an adapter renders in the provider's own dialect (`core/billing/ports.py`).
-/

set_option autoImplicit false

namespace BackendCore.Billing

open BackendCore.Python

inductive CallbackAction where
  | check
  | create
  | confirm
  | cancel
  | status
  deriving DecidableEq, Repr

def CallbackAction.code : CallbackAction → String
  | .check => "check"
  | .create => "create"
  | .confirm => "confirm"
  | .cancel => "cancel"
  | .status => "status"

/-- `_READ_ONLY_ACTIONS`. -/
def CallbackAction.isReadOnly : CallbackAction → Bool
  | .check => true
  | .status => true
  | _ => false

inductive OutcomeStatus where
  | ok
  | alreadyProcessed
  | invalidSignature
  | notFound
  | amountMismatch
  | invalidState
  deriving DecidableEq, Repr

structure RawWebhook where
  headers : List (String × String)
  body : String
  form : List (String × String)

/-- `raw.header(name)`: case-insensitive, the first match wins. -/
def RawWebhook.header (raw : RawWebhook) (name : String) : Option String :=
  (raw.headers.find? fun entry => lower entry.1 = lower name).map Prod.snd

def RawWebhook.formGet (raw : RawWebhook) (name : String) : Option String :=
  (raw.form.find? fun entry => entry.1 = name).map Prod.snd

structure ProviderCallback where
  provider : Provider
  providerTxnId : Option String
  action : CallbackAction
  paymentReference : String
  amount : Option Money
  raw : List (String × Json)
  signatureValid : Bool
  reason : Option String

structure CallbackOutcome where
  status : OutcomeStatus
  payment : Option PaymentDTO
  callback : ProviderCallback

structure WebhookResponse where
  statusCode : Nat
  body : List (String × Json)

end BackendCore.Billing
