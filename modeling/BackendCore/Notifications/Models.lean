import BackendCore.Lib.Redis
import BackendCore.Lib.Requests
import BackendCore.Lib.Table
import BackendCore.Python.Text
import BackendCore.Python.Uuid
import BackendCore.Shared.Errors

/-!
# The outbox and what the dispatcher shares

The rows of `notification_outbox`, the counters of the daily cap and the clock,
which all dispatch passes share, and the events the passes leave.  Times are
milliseconds of the Unix epoch.
-/

set_option autoImplicit false

namespace BackendCore.Notifications

open BackendCore.Python

inductive OutboxStatus where
  | pending
  | sending
  | sent
  | failed
  | dead
  deriving DecidableEq

def OutboxStatus.isFinal : OutboxStatus → Bool
  | .sent => true
  | .dead => true
  | _ => false

structure NotificationOutbox where
  id : Uuid
  notificationId : Uuid
  dedupKey : Option String
  tenantId : Option Uuid
  channel : String
  recipient : String
  templateKey : String
  locale : String
  status : OutboxStatus
  attempts : Nat
  nextRetryAt : Int
  lastError : Option String
  providerMessageId : Option String
  sentAt : Option Int
  deriving DecidableEq

abbrev OutboxTable := Table NotificationOutbox.id

/-- `_ClaimedRow`; `attempts` is the value after the claim. -/
structure ClaimedRow where
  id : Uuid
  notificationId : Uuid
  tenantId : Option Uuid
  channel : String
  recipient : String
  templateKey : String
  locale : String
  attempts : Nat
  deriving DecidableEq

/-- The text `sms:cap:<bucket>:<day>`; the bucket of no tenant is the platform's. -/
structure SmsKey where
  bucket : Option Uuid
  day : Int
  deriving DecidableEq

/-- What the dispatch passes share. -/
structure NotifyState where
  outbox : OutboxTable
  counters : Redis SmsKey Nat
  now : Int

/-- What a step of a pass leaves: the rows it has claimed, the row it has loaded for an
update, the status its update has committed, the event it has published, a
reservation with the value of its counter, and a request to the SMS provider with the
status of the answer, if there is one. -/
inductive NotifyEvent where
  | claimed (rows : List ClaimedRow)
  | loaded (row : ClaimedRow) (found : Option NotificationOutbox)
  | wrote (row : ClaimedRow) (status : OutboxStatus)
  | published (row : ClaimedRow) (error : String)
  | reserved (row : ClaimedRow) (key : SmsKey) (count : Nat)
  | submitted (row : ClaimedRow) (key : Option SmsKey) (status : Option Nat)
  deriving DecidableEq

abbrev NotifyProc := Requests.Proc NotifyState NotifyEvent (Except Exc Nat)

/-- A row as `NotificationService.send` stores it. -/
structure NotificationOutbox.Queued (row : NotificationOutbox) : Prop where
  status : row.status = .pending
  attempts : row.attempts = 0

/-- What happens between the steps: time passes and new rows are queued. -/
structure NotifyState.Passes (state later : NotifyState) : Prop where
  now : state.now ≤ later.now
  counters : later.counters = state.counters
  kept : ∀ id row, state.outbox.get id = some row → later.outbox.get id = some row
  queued : ∀ id row, later.outbox.get id = some row → state.outbox.get id = some row ∨ row.Queued

/-- A call to another service: it answers, it is not made, or it is made and its answer
is lost. -/
inductive CallOutcome where
  | ok
  | refused
  | lost
  deriving DecidableEq

end BackendCore.Notifications
