import BackendCore.Billing.Models

/-!
# Payment state machine

`core/billing/state_machine.py`.  Transitions go forward only; `expired` is our
own abandonment marker, so a late provider success still leaves it.
-/

set_option autoImplicit false

namespace BackendCore.Billing

/-- `_TRANSITIONS`. -/
def transitions : PaymentStatus → List PaymentStatus
  | .created => [.pending, .succeeded, .failed, .canceled, .expired]
  | .pending => [.succeeded, .failed, .canceled, .expired]
  | .succeeded => []
  | .failed => []
  | .canceled => []
  | .expired => [.succeeded]

def canTransition (current target : PaymentStatus) : Bool := (transitions current).contains target

def assertTransition (current target : PaymentStatus) : BillingTx Unit :=
  Tx.require (canTransition current target)
    (.invariantViolationError
      ("invalid payment transition: " ++ current.code ++ " -> " ++ target.code))

theorem assertTransition_ok_iff (current target : PaymentStatus) (db final : Db) (result : Unit) :
    assertTransition current target db = .ok result final ↔
      canTransition current target = true ∧ final = db :=
  Tx.require_ok_iff _ _ _ _ _

/-- The three terminal states a payment closes in without success. -/
inductive Closing where
  | failed
  | canceled
  | expired
  deriving DecidableEq, Repr

def Closing.status : Closing → PaymentStatus
  | .failed => .failed
  | .canceled => .canceled
  | .expired => .expired

/-- Statuses no transition leaves. -/
def PaymentStatus.isFinal : PaymentStatus → Bool
  | .succeeded => true
  | .failed => true
  | .canceled => true
  | _ => false

theorem isFinal_iff_no_transition (status : PaymentStatus) :
    status.isFinal = true ↔ ∀ target, canTransition status target = false := by
  constructor
  · intro final target
    cases status <;> first | rfl | cases final
  · intro stuck
    cases status with
    | created => exact absurd (stuck .pending) (by decide)
    | pending => exact absurd (stuck .succeeded) (by decide)
    | succeeded => rfl
    | failed => rfl
    | canceled => rfl
    | expired => exact absurd (stuck .succeeded) (by decide)

theorem canTransition_irrefl (status : PaymentStatus) : canTransition status status = false := by
  cases status <;> rfl

theorem canTransition_closing_iff (current : PaymentStatus) (target : Closing) :
    canTransition current target.status = true ↔ current = .created ∨ current = .pending := by
  cases current <;> cases target <;> decide

theorem canTransition_pending_iff (current : PaymentStatus) :
    canTransition current .pending = true ↔ current = .created := by
  cases current <;> decide

end BackendCore.Billing
