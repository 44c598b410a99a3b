import Mathlib
import BackendCore.Notifications.Eskiz

/-!
# The dispatcher

A dispatch pass claims a batch of due rows in one transaction and then handles
them one after the other, each finalised in a transaction of its own that reads
the row and writes the columns it has changed.  An exception ends the handling of
its row only.  What the other services answer while a row is handled is given
with the pass.
-/

set_option autoImplicit false

namespace BackendCore.Notifications

open BackendCore.Python BackendCore.Requests

structure DispatchSettings where
  maxAttempts : Nat
  leaseSeconds : Nat
  /-- Zero is no limit. -/
  smsDailyCap : Nat

inductive RenderOutcome where
  | rendered
  | notFound (text : String)
  | raised

/-- What `_resolve_channel` comes to: a channel, or an error of the lookup, the decryption or
the construction. -/
inductive ResolveOutcome where
  | channel (configured : Bool)
  | raised

/-- What happens while one row is handled. -/
structure Handling where
  render : RenderOutcome
  resolve : ResolveOutcome
  incr : CallOutcome
  expire : CallOutcome
  eskiz : EskizScript
  other : SendOutcome
  update : CallOutcome
  publish : CallOutcome

/-- A pass: the rows other transactions hold when it claims, the size of its batch, and what
happens to the rows it handles. -/
structure Pass where
  locked : List Uuid
  batch : Nat
  handling : Uuid → Handling

def smsChannel : String := "sms_eskiz"

/-! ## `_claim_batch` -/

def NotificationOutbox.isDue (now : Int) (row : NotificationOutbox) : Bool :=
  (row.status = .pending || row.status = .failed || row.status = .sending) && row.nextRetryAt ≤ now

/-- `ORDER BY next_retry_at LIMIT batch FOR UPDATE SKIP LOCKED`. -/
def dueRows (pass : Pass) (state : NotifyState) : List NotificationOutbox :=
  (((state.outbox.select (NotificationOutbox.isDue state.now)).filter fun row =>
    row.id ∉ pass.locked).insertionSort fun left right => left.nextRetryAt ≤ right.nextRetryAt).take
      pass.batch

def leaseRow (settings : DispatchSettings) (now : Int) (row : NotificationOutbox) :
    NotificationOutbox :=
  { row with
    status := .sending
    attempts := row.attempts + 1
    nextRetryAt := now + 1000 * settings.leaseSeconds }

def toClaimed (row : NotificationOutbox) : ClaimedRow where
  id := row.id
  notificationId := row.notificationId
  tenantId := row.tenantId
  channel := row.channel
  recipient := row.recipient
  templateKey := row.templateKey
  locale := row.locale
  attempts := row.attempts + 1

def claimedRows (pass : Pass) (state : NotifyState) : List ClaimedRow :=
  (dueRows pass state).map toClaimed

/-- The column is a `SMALLINT`. -/
def smallIntMax : Nat := 32767

def claimOverflows (pass : Pass) (state : NotifyState) : Bool :=
  (claimedRows pass state).any fun row => smallIntMax < row.attempts

def claimTable (settings : DispatchSettings) (pass : Pass) (state : NotifyState) : OutboxTable :=
  state.outbox.mapRows
    (fun row => if row.id ∈ (claimedRows pass state).map ClaimedRow.id then
      leaseRow settings state.now row else row)
    (fun row => by
      split
      · rfl
      · rfl)

/-- A claim with a value out of range is rolled back. -/
def claim (settings : DispatchSettings) (pass : Pass) (state : NotifyState) : NotifyState :=
  if claimOverflows pass state then state
  else { state with outbox := claimTable settings pass state }

def claimEvent (pass : Pass) (state : NotifyState) : Option NotifyEvent :=
  if claimOverflows pass state then none else some (.claimed (claimedRows pass state))

/-! ## `_update_row` -/

/-- A column of the `UPDATE`: one that has not changed since it was loaded is not written. -/
def flushed {X : Type} [DecidableEq X] (loaded target current : X) : X :=
  if target = loaded then current else target

/-- The row after the flush of the changed columns. -/
def flushRow (loaded target current : NotificationOutbox) : NotificationOutbox :=
  { current with
    status := flushed loaded.status target.status current.status
    nextRetryAt := flushed loaded.nextRetryAt target.nextRetryAt current.nextRetryAt
    lastError := flushed loaded.lastError target.lastError current.lastError
    providerMessageId := flushed loaded.providerMessageId target.providerMessageId
      current.providerMessageId
    sentAt := flushed loaded.sentAt target.sentAt current.sentAt }

/-- The write of `_update_row` with the row it has loaded. -/
def flushTable (id : Uuid) (loaded target : NotificationOutbox) (table : OutboxTable) :
    OutboxTable :=
  table.mapRows (fun row => if row.id = id then flushRow loaded target row else row)
    (fun row => by
      split
      · rfl
      · rfl)

def wroteEvent (row : ClaimedRow) (loaded target : NotificationOutbox) (state : NotifyState) :
    Option NotifyEvent :=
  (state.outbox.get row.id).map fun current =>
    .wrote row (flushRow loaded target current).status

/-- `_update_row`, which goes on with `next` or raises and goes on with `raised`.  A write
that finds no row raises `StaleDataError`. -/
def updateRow (row : ClaimedRow) (outcome : CallOutcome)
    (apply : Int → NotificationOutbox → NotificationOutbox) (next raised : NotifyProc) :
    NotifyProc :=
  if outcome = .refused then raised
  else
    .act (fun state => some (.loaded row (state.outbox.get row.id))) id fun seen =>
      match seen.outbox.get row.id with
      | none => next
      | some loaded =>
        .act (wroteEvent row loaded (apply seen.now loaded))
          (fun state => { state with
            outbox := flushTable row.id loaded (apply seen.now loaded) state.outbox })
          fun state =>
            if outcome = .ok ∧ (state.outbox.get row.id).isSome then next else raised

/-- `text[:count]`. -/
def cut (count : Nat) (text : String) : String := String.ofList (text.toList.take count)

def sentRow (messageId : Option String) (now : Int) (row : NotificationOutbox) :
    NotificationOutbox :=
  { row with
    status := .sent
    sentAt := some now
    providerMessageId := messageId
    lastError := none }

def failedRow (error : String) (nextRetry : Int) (row : NotificationOutbox) : NotificationOutbox :=
  { row with
    status := .failed
    nextRetryAt := nextRetry
    lastError := some (cut 500 error) }

def deadRow (error : String) (row : NotificationOutbox) : NotificationOutbox :=
  { row with
    status := .dead
    lastError := some (cut 500 error) }

def backoffSeconds (attempts : Nat) : Nat := min (60 * 2 ^ (attempts - 1)) (16 * 60)

/-! ## `_process_row` -/

section Rows

variable (settings : DispatchSettings) (handling : Handling) (row : ClaimedRow) (next : NotifyProc)

def markSent (messageId : Option String) : NotifyProc :=
  updateRow row handling.update (sentRow messageId) next next

def reschedule (error : String) : NotifyProc :=
  .read NotifyState.now fun now =>
    updateRow row handling.update
      (fun _ => failedRow error (now + 1000 * backoffSeconds row.attempts)) next next

/-- The call to the bus; an error of it ends the handling of the row like everything else. -/
def publishFailed (error : String) : NotifyProc :=
  if handling.publish = .refused then next
  else .act (fun _ => some (.published row (cut 200 error))) id fun _ => next

/-- `_dead`, which publishes after its update. -/
def markDead (error : String) : NotifyProc :=
  updateRow row handling.update (fun _ => deadRow error) (publishFailed handling row next error)
    next

/-- What follows the call to the channel. -/
def afterSend : SendOutcome → NotifyProc
  | .sent messageId => markSent handling row next messageId
  | .permanent text => markDead handling row next ("permanent: " ++ text)
  | .failed text =>
    if settings.maxAttempts ≤ row.attempts then
      markDead handling row next ("exhausted: " ++ text)
    else reschedule handling row next text

/-- The call to the channel; `key` is the reservation it is made on. -/
def sendRow (configured : Bool) (key : Option SmsKey) : NotifyProc :=
  if row.channel = smsChannel then
    if configured then
      eskizSend (.submitted row key) handling.eskiz (afterSend settings handling row next)
    else afterSend settings handling row next (.sent none)
  else afterSend settings handling row next handling.other

/-- The end of `try_consume`. -/
def afterReserve (key : SmsKey) (count : Nat) : NotifyProc :=
  if count ≤ settings.smsDailyCap then sendRow settings handling row next true (some key)
  else markDead handling row next "sms_daily_cap_exceeded"

def ttlSeconds : Nat := 25 * 3600

def dayMillis : Int := 86400000

/-- The value a counter has after `INCR`. -/
def countAfter (key : SmsKey) (state : NotifyState) : Nat :=
  (state.counters.get state.now key).getD 0 + 1

/-- `SmsDailyCap.try_consume` with a limit: the day is read, then the counter goes up, and a
new counter gets its time of expiry. -/
def tryConsume : NotifyProc :=
  .read NotifyState.now fun now =>
    let key : SmsKey := ⟨row.tenantId, now / dayMillis⟩
    match handling.incr with
    | .refused => next
    | outcome =>
      .act (fun state => some (.reserved row key (countAfter key state)))
        (fun state => { state with counters := state.counters.incr state.now key })
        fun state =>
          if outcome = .lost then next
          else if countAfter key state = 1 then
            match handling.expire with
            | .refused => next
            | outcome =>
              .silent (fun state => { state with
                  counters := state.counters.expire state.now key ttlSeconds })
                fun _ => if outcome = .lost then next
                  else afterReserve settings handling row next key 1
          else afterReserve settings handling row next key (countAfter key state)

/-- `_process_row`, after which the pass goes on with its next row. -/
def processRow : NotifyProc :=
  match handling.render with
  | .notFound text => markDead handling row next ("unknown template: " ++ text)
  | .raised => next
  | .rendered =>
    match handling.resolve with
    | .raised => next
    | .channel configured =>
      if row.channel = smsChannel ∧ configured = true ∧ settings.smsDailyCap ≠ 0 then
        tryConsume settings handling row next
      else sendRow settings handling row next configured none

end Rows

/-! ## `dispatch_due_notifications` -/

def processRows (settings : DispatchSettings) (pass : Pass) (total : Nat) :
    List ClaimedRow → NotifyProc
  | [] => .done (.ok total)
  | row :: rest =>
    processRow settings (pass.handling row.id) row (processRows settings pass total rest)

def dispatchDueNotifications (settings : DispatchSettings) (pass : Pass) : NotifyProc :=
  .act (claimEvent pass) (claim settings pass) fun state =>
    if claimOverflows pass state then .done (.error (.unexpected "NumericValueOutOfRange"))
    else processRows settings pass (claimedRows pass state).length (claimedRows pass state)

end BackendCore.Notifications
