import BackendCore.Billing.Constraints

/-!
# The webhook ledger

What a committed ledger row says about the payment it names.  A row is written
by the first authenticated callback under its key, or for a forged request under
a key no callback has; it is never rewritten, while the payment may move on.
-/

set_option autoImplicit false

namespace BackendCore.Billing

open BackendCore.Python

/-! ## Keys -/

private theorem append_separator_inj {α : Type} [DecidableEq α] (separator : α)
    {left right leftTail rightTail : List α} (leftFree : separator ∉ leftTail)
    (rightFree : separator ∉ rightTail)
    (same : left ++ separator :: leftTail = right ++ separator :: rightTail) :
    left = right ∧ leftTail = rightTail := by
  have cut : ∀ front tail : List α, separator ∉ tail →
      (front ++ separator :: tail).reverse.takeWhile (fun c => decide (c ≠ separator)) =
        tail.reverse := by
    intro front tail free
    have kept : ∀ c ∈ tail.reverse, decide (c ≠ separator) = true := by
      intro c member
      rw [decide_eq_true_eq]
      intro equal
      rw [equal, List.mem_reverse] at member
      exact free member
    rw [List.reverse_append, List.reverse_cons, List.append_assoc, List.singleton_append,
      List.takeWhile_append_of_pos kept, List.takeWhile_cons_of_neg (by simp), List.append_nil]
  have tails : leftTail = rightTail := by
    rw [← List.reverse_inj, ← cut left leftTail leftFree, same, cut right rightTail rightFree]
  subst tails
  exact ⟨List.append_cancel_right same, rfl⟩

private theorem code_free (action : CallbackAction) : ':' ∉ action.code.toList := by
  cases action <;> decide

private theorem code_length (action : CallbackAction) : action.code.toList.length < 64 := by
  cases action <;> decide

theorem code_injective {left right : CallbackAction} (same : left.code = right.code) :
    left = right := by
  cases left <;> cases right <;> first | rfl | exact absurd same (by decide)

private theorem toList_colon (left right : String) :
    (left ++ ":" ++ right).toList = left.toList ++ ':' :: right.toList := by
  rw [String.toList_append, String.toList_append, List.append_assoc]
  rfl

theorem dedupKey_injective {left right : ProviderCallback}
    (same : dedupKey left = dedupKey right) :
    left.providerTxnId.getD "None" = right.providerTxnId.getD "None" ∧
      left.action = right.action := by
  have chars := congrArg String.toList same
  rw [dedupKey, dedupKey, toList_colon, toList_colon] at chars
  obtain ⟨front, tail⟩ := append_separator_inj ':' (code_free _) (code_free _) chars
  exact ⟨String.ext front, code_injective (String.ext tail)⟩

theorem rejectedKey_ne_dedupKey (runtime : Runtime) (raw : RawWebhook)
    (callback : ProviderCallback) : rejectedKey runtime raw ≠ dedupKey callback := by
  intro same
  have digest := runtime.sha256_digest (rejectedText runtime raw)
  have free : ':' ∉ (runtime.sha256Hex (rejectedText runtime raw)).toList := by
    intro member
    have range := digest.2 ':' member
    have code : ':'.toNat = 58 := rfl
    omega
  have chars := congrArg String.toList same
  have front : "rejected:".toList = "rejected".toList ++ [':'] := rfl
  rw [rejectedKey, dedupKey, toList_colon, String.toList_append, front, List.append_assoc,
    List.singleton_append] at chars
  obtain ⟨_, tail⟩ := append_separator_inj ':' free (code_free _) chars
  have long := digest.1
  have short := code_length callback.action
  rw [tail] at long
  omega

/-! ## What a row says -/

/-- What a processed callback leaves true of its payment for ever. -/
def CallbackAction.lasts : CallbackAction → PaymentStatus → Bool
  | .create, now => now ≠ .created
  | .confirm, now => now = .succeeded
  | .cancel, now => now = .canceled
  | _, _ => false

theorem lasts_of_target {action : CallbackAction} {status : PaymentStatus}
    (drives : action.target = some status) : action.lasts status = true := by
  cases action <;> cases drives <;> rfl

theorem lasts_advances {action : CallbackAction} {old new : Payment}
    (lasts : action.lasts old.status = true) (advances : Advances old new) :
    action.lasts new.status = true := by
  rcases advances.status with equal | edge
  · rw [equal]
    exact lasts
  · generalize old.status = before at lasts edge
    generalize new.status = after at edge
    cases action <;> cases before <;> cases after <;>
      first | rfl | exact absurd lasts (by decide) | exact absurd edge (by decide)

inductive Records (db : Db) (row : PaymentWebhook) : Prop where
  | forged (runtime : Runtime) (raw : RawWebhook) (key : row.dedupKey = rejectedKey runtime raw)
      (status : row.status = .rejected) (unbound : row.paymentId = none)
  | unknown (callback : ProviderCallback) (key : row.dedupKey = dedupKey callback)
      (status : row.status = .rejected)
      (error : row.error = some "payment not found") (unbound : row.paymentId = none)
  | mismatched (callback : ProviderCallback) (key : row.dedupKey = dedupKey callback)
      (status : row.status = .rejected)
      (error : row.error = some "amount mismatch") (payment : Payment)
      (bound : row.paymentId = some payment.id)
      (stored : db.payments.get payment.id = some payment)
  | refused (callback : ProviderCallback) (key : row.dedupKey = dedupKey callback)
      (status : row.status = .failed)
      (payment : Payment) (bound : row.paymentId = some payment.id)
      (stored : db.payments.get payment.id = some payment)
  | applied (callback : ProviderCallback) (key : row.dedupKey = dedupKey callback)
      (status : row.status = .processed)
      (payment : Payment) (bound : row.paymentId = some payment.id)
      (stored : db.payments.get payment.id = some payment)
      (lasts : callback.action.lasts payment.status = true)

def Ledger (db : Db) : Prop :=
  ∀ key row, db.webhooks.get key = some row → Records db row

theorem Records.step {app : App} {db final : Db} {op : Op} {row : PaymentWebhook}
    (records : Records db row) (step : Step app db op final) : Records final row := by
  cases records with
  | forged runtime raw key status unbound => exact .forged runtime raw key status unbound
  | unknown callback key status error unbound =>
    exact .unknown callback key status error unbound
  | mismatched callback key status error payment bound stored =>
    obtain ⟨new, found, advances⟩ := step.payment payment.id payment stored
    rw [← advances.id] at bound found
    exact .mismatched callback key status error new bound found
  | refused callback key status payment bound stored =>
    obtain ⟨new, found, advances⟩ := step.payment payment.id payment stored
    rw [← advances.id] at bound found
    exact .refused callback key status new bound found
  | applied callback key status payment bound stored lasts =>
    obtain ⟨new, found, advances⟩ := step.payment payment.id payment stored
    rw [← advances.id] at bound found
    exact .applied callback key status new bound found
      (lasts_advances lasts advances)

theorem Settles.records {db final : Db} {provider : Provider} {callback : ProviderCallback}
    {raw : RawWebhook} {now : DateTime} {outcome : CallbackOutcome}
    (settles : Settles db callback (receivedWebhook provider (dedupKey callback) raw) now
      outcome final) :
    ∃ written, final.webhooks = db.webhooks.insertNew written ∧
      written.key = (provider, dedupKey callback) ∧ Records final written := by
  cases settles with
  | unknown => exact ⟨_, rfl, rfl, .unknown callback rfl rfl rfl rfl⟩
  | mismatched payment located =>
    exact ⟨_, rfl, rfl, .mismatched callback rfl rfl rfl payment rfl (locate_some located).1⟩
  | refused payment located =>
    exact ⟨_, rfl, rfl, .refused callback rfl rfl payment rfl (locate_some located).1⟩
  | applied payment located agrees changed moved moves drives _ =>
    have found : moved.payments.get changed.id = some changed := by
      rw [moves.get (locate_some located).1, if_pos moves.advances.1.id]
    exact ⟨_, rfl, rfl, .applied callback rfl rfl changed
      (congrArg some moves.advances.1.id.symm) found (lasts_of_target drives)⟩

theorem get_written {db final : Db} {written : PaymentWebhook} {key : Provider × String}
    (fresh : db.webhooks.get key = none) (leaves : final.webhooks = db.webhooks.insertNew written)
    (own : written.key = key) : final.webhooks.get key = some written := by
  rw [← own] at fresh
  rw [leaves, ← own, Table.get_insertNew_of_fresh _ _ fresh, if_pos rfl]

/-- The operation delivers the first callback under a key. -/
structure Delivers (app : App) (db : Db) (op : Op) (final : Db) (key : Provider × String)
    (adapter : Adapter) (callback : ProviderCallback) : Prop where
  webhook : ∃ providerCode raw moment clock outcome,
    op = .webhook providerCode raw moment clock ∧ app.adapter providerCode = some adapter ∧
      adapter.parseWebhook app.runtime moment raw = .ok callback ∧
      Settles db callback (receivedWebhook adapter.code (dedupKey callback) raw) clock.processed
        outcome final
  signed : callback.signatureValid = true
  changes : callback.action.isReadOnly = false
  own : key = (adapter.code, dedupKey callback)
  fresh : db.webhooks.get key = none

theorem Step.ledgerRow {app : App} {db final : Db} {op : Op} (step : Step app db op final)
    {key : Provider × String} {row : PaymentWebhook}
    (found : final.webhooks.get key = some row) :
    db.webhooks.get key = some row ∨
      (∃ raw, row.dedupKey = rejectedKey app.runtime raw ∧ row.status = .rejected ∧
        row.paymentId = none) ∨
      ∃ adapter callback, Delivers app db op final key adapter callback := by
  have kept : final.webhooks = db.webhooks → db.webhooks.get key = some row := by
    intro same
    rw [same] at found
    exact found
  cases step with
  | unchanged op => exact Or.inl found
  | @handled providerCode raw moment clock adapter callback outcome final enabled parsed handles =>
    cases handles with
    | read => exact Or.inl found
    | forged =>
      rcases Table.get_insertNew_cases found with before | ⟨_, _, rfl⟩
      · exact Or.inl before
      · exact Or.inr (Or.inl ⟨raw, rfl, rfl, rfl⟩)
    | replayed => exact Or.inl found
    | settled changes signed fresh outcome final settles =>
      obtain ⟨written, leaves, own, _⟩ := settles.records
      rw [leaves] at found
      rcases Table.get_insertNew_cases found with before | ⟨_, rfl, rfl⟩
      · exact Or.inl before
      · rw [own]
        exact Or.inr (Or.inr ⟨adapter, callback, ⟨providerCode, raw, moment, clock, outcome, rfl,
          enabled, parsed, settles⟩, signed, changes, rfl, fresh⟩)
  | moved hands found moves => exact Or.inl (kept moves.webhooks)
  | opened opens =>
    exact Or.inl (kept (by rw [opens.leaves]))
  | started checkout leaves =>
      obtain ⟨rfl, _⟩ | ⟨payment, opens⟩ := leaves
      · exact Or.inl (kept checkout.rest.webhooks)
      · exact Or.inl (kept (by rw [opens.leaves]; exact checkout.rest.webhooks))
  | cancelRequested =>
    exact Or.inl found
  | subscribed subscribes =>
    exact Or.inl (kept subscribes.rest.webhooks)
  | ended ends => exact Or.inl (kept ends.rest.webhooks)

theorem Ledger.step {app : App} {db final : Db} {op : Op} (ledger : Ledger db)
    (step : Step app db op final) : Ledger final := by
  intro key row found
  rcases step.ledgerRow found with before | ⟨raw, forged, status, unbound⟩ |
    ⟨adapter, callback, delivers⟩
  · exact (ledger key row before).step step
  · exact .forged app.runtime raw forged status unbound
  · obtain ⟨_, raw, _, clock, _, _, _, _, settles⟩ := delivers.webhook
    obtain ⟨written, leaves, own, records⟩ := settles.records
    rw [get_written delivers.fresh leaves (own.trans delivers.own.symm)] at found
    cases found
    exact records

theorem Reachable.ledger {app : App} {db : Db} (reached : Reachable app db) : Ledger db := by
  apply reached.invariant
  · intro start empty key row found
    have member := Table.mem_of_get found
    rw [empty.webhooks] at member
    cases member
  · intro before op final step ledger
    exact ledger.step step

/-! ## Answering from a row -/

/-- The outcome of a duplicate delivery. -/
inductive Replies (db : Db) (callback : ProviderCallback) (row : PaymentWebhook) :
    CallbackOutcome → Prop where
  | unknown (status : row.status = .rejected) (unbound : row.paymentId = none) :
      Replies db callback row ⟨.notFound, none, callback⟩
  | mismatched (status : row.status = .rejected) (payment : Payment)
      (bound : row.paymentId = some payment.id)
      (stored : db.payments.get payment.id = some payment) :
      Replies db callback row ⟨.amountMismatch, some (paymentDto payment), callback⟩
  | refused (status : row.status = .failed) (payment : Payment)
      (bound : row.paymentId = some payment.id)
      (stored : db.payments.get payment.id = some payment) :
      Replies db callback row ⟨.invalidState, some (paymentDto payment), callback⟩
  | applied (status : row.status = .processed) (payment : Payment)
      (bound : row.paymentId = some payment.id)
      (stored : db.payments.get payment.id = some payment)
      (lasts : callback.action.lasts payment.status = true) :
      Replies db callback row ⟨.alreadyProcessed, some (paymentDto payment), callback⟩

theorem replayOutcome_unknown {row : PaymentWebhook} (status : row.status = .rejected)
    (error : row.error = some "payment not found") (payment : Option Payment)
    (callback : ProviderCallback) :
    replayOutcome row payment callback = ⟨.notFound, payment.map paymentDto, callback⟩ := by
  simp only [replayOutcome, status, error]
  rfl

theorem replayOutcome_mismatched {row : PaymentWebhook} (status : row.status = .rejected)
    (error : row.error = some "amount mismatch") (payment : Option Payment)
    (callback : ProviderCallback) :
    replayOutcome row payment callback = ⟨.amountMismatch, payment.map paymentDto, callback⟩ := by
  simp only [replayOutcome, status, error]
  rfl

theorem replayOutcome_refused {row : PaymentWebhook} (status : row.status = .failed)
    (payment : Option Payment) (callback : ProviderCallback) :
    replayOutcome row payment callback = ⟨.invalidState, payment.map paymentDto, callback⟩ := by
  simp only [replayOutcome, status]

theorem replayOutcome_applied {row : PaymentWebhook} (status : row.status = .processed)
    (payment : Payment) (callback : ProviderCallback) :
    replayOutcome row (some payment) callback =
      ⟨.alreadyProcessed, some (paymentDto payment), callback⟩ := by
  simp only [replayOutcome, status, Option.map_some]

theorem Ledger.replies {db : Db} (ledger : Ledger db) {provider : Provider}
    {callback : ProviderCallback} {row : PaymentWebhook}
    (taken : db.webhooks.get (provider, dedupKey callback) = some row) :
    Replies db callback row
      (replayOutcome row (row.paymentId.bind db.payments.get) callback) := by
  have own : row.dedupKey = dedupKey callback := congrArg Prod.snd (Table.key_of_get taken)
  cases ledger _ row taken with
  | forged runtime raw key =>
    rw [key] at own
    exact absurd own (rejectedKey_ne_dedupKey runtime raw callback)
  | unknown first key status error unbound =>
    rw [unbound, Option.bind_none, replayOutcome_unknown status error]
    exact .unknown status unbound
  | mismatched first key status error payment bound stored =>
    rw [bound, Option.bind_some, stored, replayOutcome_mismatched status error]
    exact .mismatched status payment bound stored
  | refused first key status payment bound stored =>
    rw [bound, Option.bind_some, stored, replayOutcome_refused status]
    exact .refused status payment bound stored
  | applied first key status payment bound stored lasts =>
    rw [bound, Option.bind_some, stored, replayOutcome_applied status]
    rw [key] at own
    rw [(dedupKey_injective own).2] at lasts
    exact .applied status payment bound stored lasts

end BackendCore.Billing
