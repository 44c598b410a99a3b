import Mathlib
import BackendCore.Billing.Coverage

/-!
# What a tenant's subscription events say

The events about a tenant's subscriptions that one operation publishes, together
with what it does to the tenant's live subscription.  An activation is announced
with the new live row, a cancellation request and an end are announced, and the
roll-forward at the end of a period is not.
-/

set_option autoImplicit false

namespace BackendCore.Billing

open BackendCore.Python

/-! ## Subscription events of a tenant -/

/-- The events another feature keeps a plan in step by. -/
def Payload.isSubscription : Payload → Bool
  | .subscriptionActivated _ _ _ => true
  | .subscriptionCanceled _ _ => true
  | .subscriptionEnded _ _ _ => true
  | _ => false

def Payload.isCancellation : Payload → Bool
  | .subscriptionCanceled _ _ => true
  | _ => false

def subscriptionEvents (tenantId : Uuid) (events : List Event) : List Payload :=
  (events.filter fun event => event.tenantId = tenantId && event.payload.isSubscription).map
    Event.payload

theorem subscriptionEvents_append (tenantId : Uuid) (left right : List Event) :
    subscriptionEvents tenantId (left ++ right) =
      subscriptionEvents tenantId left ++ subscriptionEvents tenantId right := by
  rw [subscriptionEvents, List.filter_append, List.map_append]
  rfl

theorem subscriptionEvents_own (tenantId : Uuid) {payload : Payload}
    (kind : payload.isSubscription = true) :
    subscriptionEvents tenantId [⟨tenantId, payload⟩] = [payload] := by
  simp [subscriptionEvents, kind]

theorem subscriptionEvents_foreign {tenantId owner : Uuid} (payload : Payload)
    (differs : owner ≠ tenantId) : subscriptionEvents tenantId [⟨owner, payload⟩] = [] := by
  simp [subscriptionEvents, differs]

theorem subscriptionEvents_payment (tenantId owner : Uuid) {payload : Payload}
    (kind : payload.isSubscription = false) :
    subscriptionEvents tenantId [⟨owner, payload⟩] = [] := by
  simp [subscriptionEvents, kind]

/-! ## Operations and the live row -/

def Op.requestsCancellation (tenantId : Uuid) : Op → Bool
  | .cancelSubscription owner _ _ => owner = tenantId
  | _ => false

/-- A live subscription of the tenant, as it is stored. -/
structure LiveRow (subscriptions : Table Subscription.id) (tenantId : Uuid)
    (row : Subscription) : Prop where
  stored : subscriptions.get row.id = some row
  tenant : row.tenantId = tenantId
  live : row.status.isLive = true

theorem LiveRow.eq {db : Db} (constraints : Constraints db) {tenantId : Uuid}
    {left right : Subscription} (leftLive : LiveRow db.subscriptions tenantId left)
    (rightLive : LiveRow db.subscriptions tenantId right) : left = right :=
  constraints.live.eq (Table.mem_of_get leftLive.stored) (Table.mem_of_get rightLive.stored)
    ((liveIndex_eq_some_iff _ _).mpr ⟨leftLive.live, leftLive.tenant⟩)
    ((liveIndex_eq_some_iff _ _).mpr ⟨rightLive.live, rightLive.tenant⟩)

/-- What an operation publishes about a tenant's subscriptions, with what it leaves live. -/
inductive Announces (plans : Table Plan.id) (tenantId : Uuid) (op : Op)
    (old new : Table Subscription.id) : List Payload → Prop where
  | kept (same : ∀ row, LiveRow new tenantId row → ∃ before, LiveRow old tenantId before ∧
      before.planId = row.planId ∧ before.cancelAtPeriodEnd = row.cancelAtPeriodEnd) :
      Announces plans tenantId op old new []
  | requested (id : Uuid) (code : String) (granted : Bool) (clock : Clock)
      (request : op = .cancelSubscription tenantId granted clock)
      (same : ∀ row, LiveRow new tenantId row → row.cancelAtPeriodEnd = true ∧
        ∃ before, LiveRow old tenantId before ∧ before.planId = row.planId) :
      Announces plans tenantId op old new [.subscriptionCanceled id code]
  | activated (subscription : Subscription)
      (uncanceled : subscription.cancelAtPeriodEnd = false)
      (only : ∀ row, LiveRow new tenantId row → row = subscription) :
      Announces plans tenantId op old new [.subscriptionActivated subscription.id
        (planCode (plans.get subscription.planId)) subscription.currentPeriodEnd]
  | ended (id : Uuid) (code : String) (status : SubscriptionStatus)
      (none : ∀ row, ¬LiveRow new tenantId row) :
      Announces plans tenantId op old new [.subscriptionEnded id code status]
  | fellBack (id : Uuid) (code : String) (status : SubscriptionStatus)
      (subscription : Subscription) (uncanceled : subscription.cancelAtPeriodEnd = false)
      (only : ∀ row, LiveRow new tenantId row → row = subscription) :
      Announces plans tenantId op old new [.subscriptionEnded id code status,
        .subscriptionActivated subscription.id (planCode (plans.get subscription.planId))
          subscription.currentPeriodEnd]

/-- The operation appends what it announces. -/
def Tells (db : Db) (tenantId : Uuid) (op : Op) (final : Db) : Prop :=
  ∃ payloads, Announces db.plans tenantId op db.subscriptions final.subscriptions payloads ∧
    subscriptionEvents tenantId final.events =
      subscriptionEvents tenantId db.events ++ payloads

section Tenant

variable {db final : Db} {tenantId : Uuid} {op : Op}

theorem tells_nothing
    (live : ∀ row, LiveRow final.subscriptions tenantId row →
      LiveRow db.subscriptions tenantId row)
    (events : subscriptionEvents tenantId final.events =
      subscriptionEvents tenantId db.events) : Tells db tenantId op final := by
  refine ⟨[], .kept fun row there => ⟨row, live row there, rfl, rfl⟩, ?_⟩
  rw [events, List.append_nil]

theorem tells_unchanged : Tells db tenantId op db := tells_nothing (fun _ live => live) rfl

theorem subscriptionEvents_add (event : Event) (events : List Event) {payloads : List Payload}
    (added : subscriptionEvents tenantId [event] = payloads) :
    subscriptionEvents tenantId (events ++ [event]) =
      subscriptionEvents tenantId events ++ payloads := by
  rw [subscriptionEvents_append, added]

theorem subscriptionEvents_skip {event : Event} {events : List Event}
    (skipped : subscriptionEvents tenantId [event] = []) :
    subscriptionEvents tenantId (events ++ [event]) = subscriptionEvents tenantId events := by
  rw [subscriptionEvents_append, skipped, List.append_nil]

theorem LiveRow.of_put {subscriptions : Table Subscription.id} {new old row : Subscription}
    (found : subscriptions.get new.id = some old)
    (live : LiveRow (subscriptions.put new) tenantId row) :
    row = new ∨ LiveRow subscriptions tenantId row ∧ row.id ≠ new.id := by
  by_cases here : row.id = new.id
  · left
    have stored := live.stored
    rw [here, Table.get_put_self _ _ _ found] at stored
    exact (Option.some.inj stored).symm
  · right
    have stored := live.stored
    rw [Table.get_put_of_ne _ _ _ here] at stored
    exact ⟨⟨stored, live.tenant, live.live⟩, here⟩

theorem LiveRow.of_insert {subscriptions : Table Subscription.id} {new row : Subscription}
    (fresh : subscriptions.get new.id = none)
    (live : LiveRow (subscriptions.insert new fresh) tenantId row) :
    row = new ∨ LiveRow subscriptions tenantId row := by
  by_cases here : row.id = new.id
  · left
    have stored := live.stored
    rw [Table.get_insert, if_pos here] at stored
    exact (Option.some.inj stored).symm
  · right
    have stored := live.stored
    rw [Table.get_insert, if_neg here] at stored
    exact ⟨stored, live.tenant, live.live⟩

/-! ## Payments -/

theorem LiveRow.of_closed {payment : Payment} {target : Closing} {now : DateTime}
    {row : Subscription}
    (live : LiveRow (closedSubscriptions db payment target now) tenantId row) :
    LiveRow db.subscriptions tenantId row := by
  unfold closedSubscriptions droppedSubscriptions at live
  split at live
  · cases paid : paidSubscription db payment with
    | none =>
      rw [paid] at live
      exact live
    | some subscription =>
      rw [paid] at live
      dsimp only at live
      split at live
      · have own : (droppedRow subscription target now).id = subscription.id := by
          unfold droppedRow
          split
          · rfl
          · rfl
        have found : db.subscriptions.get (droppedRow subscription target now).id =
            some subscription := by
          rw [own]
          exact (paidSubscription_get paid).2
        rcases live.of_put found with rfl | ⟨before, _⟩
        · have closed := (droppedRow_closed subscription target now).1
          rw [live.live] at closed
          cases closed
        · exact before
      · exact live
  · exact live

theorem closing_isSubscription (target : Closing) (payment : PaymentPayload)
    (reason : Option String) : (target.payload payment reason).isSubscription = false := by
  cases target with
  | failed => rfl
  | canceled => rfl
  | expired => rfl

theorem LiveRow.of_activated {payment : Payment} {subscription row : Subscription}
    {now finish : DateTime} (paid : paidSubscription db payment = some subscription)
    (live : LiveRow (activatedSubscriptions db payment subscription now finish) tenantId row) :
    if payment.tenantId = tenantId then
      row = activatedRow subscription (activationStart db payment subscription now) finish
    else LiveRow db.subscriptions tenantId row := by
  have owner := paidSubscription_tenant paid
  have stored := live.stored
  rw [activatedSubscriptions_get (paidSubscription_get paid).2] at stored
  by_cases here : row.id = subscription.id
  · rw [if_pos here] at stored
    have same := (Option.some.inj stored).symm
    split
    · exact same
    · rename_i foreign
      exfalso
      have tenant := live.tenant
      rw [same] at tenant
      exact foreign (owner.symm.trans tenant)
  · rw [if_neg here, withoutReplaced, Table.get_mapRows] at stored
    obtain ⟨before, found, rewritten⟩ := Option.map_eq_some_iff.mp stored
    by_cases replaced : isReplaced payment.tenantId subscription.id before = true
    · exfalso
      rw [if_pos replaced] at rewritten
      have alive := live.live
      rw [← rewritten] at alive
      cases alive
    · rw [if_neg replaced] at rewritten
      rw [rewritten] at found replaced
      split
      · rename_i own
        refine absurd ?_ replaced
        simp [isReplaced, live.tenant, own, live.live, here]
      · exact ⟨found, live.tenant, live.live⟩

theorem subscriptionEvents_replaced (owner : Uuid) (olds : List Subscription) (newId : Uuid) :
    subscriptionEvents tenantId
      (olds.map fun old => ⟨owner, .subscriptionReplaced old.id newId⟩) = [] := by
  induction olds with
  | nil => rfl
  | cons old rest hypothesis =>
    have first : subscriptionEvents tenantId
        [⟨owner, .subscriptionReplaced old.id newId⟩] = [] :=
      subscriptionEvents_payment _ _ rfl
    rw [List.map_cons, ← List.singleton_append, subscriptionEvents_append, first, hypothesis]
    rfl

theorem tells_moves {owner : Uuid} {payment changed : Payment}
    (own : owner = payment.tenantId ∨ changed.status ≠ .succeeded)
    (moves : Moves db owner payment changed final) : Tells db tenantId op final := by
  cases moves with
  | pended => exact tells_nothing (fun _ live => live) rfl
  | closed =>
    refine tells_nothing (fun _ live => live.of_closed) ?_
    exact subscriptionEvents_skip (subscriptionEvents_payment _ _ (closing_isSubscription _ _ _))
  | succeeded clock legal subscriptions emitted activates =>
    obtain rfl := own.resolve_right fun unpaid => unpaid rfl
    have success : ∀ events, subscriptionEvents tenantId
        (events ++ [successEvent payment.tenantId payment clock.paid]) =
        subscriptionEvents tenantId events :=
      fun events => subscriptionEvents_skip (subscriptionEvents_payment _ _ rfl)
    cases activates with
    | other kind =>
      refine tells_nothing (fun _ live => live) ((success _).trans ?_)
      rw [List.append_nil]
    | subscription kind subscription finish paid ends =>
      have announced : subscriptionEvents tenantId
          (activationEvents db payment.tenantId payment subscription finish) =
          subscriptionEvents tenantId [⟨payment.tenantId, .subscriptionActivated
            subscription.id (planCode (db.plans.get subscription.planId)) finish⟩] := by
        rw [activationEvents, subscriptionEvents_append, subscriptionEvents_replaced,
          List.nil_append]
      by_cases own : payment.tenantId = tenantId
      · refine ⟨[.subscriptionActivated subscription.id
          (planCode (db.plans.get subscription.planId)) finish], .activated
          (activatedRow subscription
            (activationStart db payment subscription clock.activated) finish) rfl ?_,
          (success _).trans ?_⟩
        · intro row live
          have left := live.of_activated paid
          rw [if_pos own] at left
          exact left
        · rw [subscriptionEvents_append, announced, own, subscriptionEvents_own _ rfl]
      · refine tells_nothing ?_ ((success _).trans ?_)
        · intro row live
          have left := live.of_activated paid
          rw [if_neg own] at left
          exact left
        · rw [subscriptionEvents_append, announced, subscriptionEvents_foreign _ own,
            List.append_nil]

theorem tells_opens {start : Db} {owner newId : Uuid} {request : PaymentRequest}
    {payment : Payment} (opens : Opens start owner newId request payment final)
    (tells : Tells db tenantId op start) : Tells db tenantId op final := by
  obtain ⟨payloads, announces, events⟩ := tells
  rw [opens.leaves]
  refine ⟨payloads, announces, ?_⟩
  rw [← events]
  exact subscriptionEvents_skip (subscriptionEvents_payment _ _ rfl)

theorem tells_checkout {owner : Uuid} {subscription : Subscription} {prepared : Db}
    (checkout : PendingCheckout db owner subscription prepared) :
    Tells db tenantId op prepared := by
  cases checkout with
  | existing => exact tells_unchanged
  | inserted tenant pending fresh =>
    refine tells_nothing ?_ rfl
    intro row live
    rcases live.of_insert fresh with rfl | before
    · have alive := live.live
      rw [pending] at alive
      cases alive
    · exact before

/-! ## Subscriptions -/

/-- What `auto_subscribe` announces for a tenant that had nothing live, if it adds a row. -/
theorem Subscribes.announced {owner : Uuid} {code : String}
    (subscribes : Subscribes db owner code final) :
    final = db ∨ ∃ subscription, subscription.tenantId = owner ∧
      subscription.cancelAtPeriodEnd = false ∧
      (∀ tenantId row, LiveRow final.subscriptions tenantId row →
        row = subscription ∨ LiveRow db.subscriptions tenantId row ∧ tenantId ≠ owner) ∧
      final.events = db.events ++ [⟨owner, .subscriptionActivated subscription.id
        (planCode (db.plans.get subscription.planId)) subscription.currentPeriodEnd⟩] := by
  cases subscribes with
  | already => exact Or.inl rfl
  | inserted plan subscription planned free tenant planId live fresh only uncanceled =>
    right
    refine ⟨subscription, tenant, uncanceled, ?_, ?_⟩
    · intro tenantId row there
      refine (there.of_insert fresh).imp_right fun before => ⟨before, ?_⟩
      rintro rfl
      have closed := only row (Table.mem_of_get before.stored) before.tenant
      rw [before.live] at closed
      cases closed
    · have coded : planCode (db.plans.get subscription.planId) = plan.code := by
        rw [planId, db.plans.get_of_mem plan (mem_plans_of_select planned)]
        rfl
      rw [coded]

theorem tells_subscribes {owner : Uuid} {code : String}
    (subscribes : Subscribes db owner code final) :
    Tells db tenantId op final := by
  obtain rfl | ⟨subscription, tenant, unset, live, events⟩ := subscribes.announced
  · exact tells_unchanged
  by_cases own : owner = tenantId
  · subst own
    refine ⟨_, .activated subscription unset ?_, ?_⟩
    · intro row there
      exact (live owner row there).resolve_right fun before => before.2 rfl
    · rw [events]
      exact subscriptionEvents_add _ _ (subscriptionEvents_own _ rfl)
  · refine tells_nothing ?_ ?_
    · intro row there
      rcases live tenantId row there with rfl | before
      · exact absurd (tenant.symm.trans there.tenant) own
      · exact before.1
    · rw [events]
      exact subscriptionEvents_skip (subscriptionEvents_foreign _ own)

theorem tells_requested (constraints : Constraints db) {owner : Uuid} {granted : Bool}
    {clock : Clock} {subscription : Subscription} {code : String}
    (member : subscription ∈ db.subscriptions.rows) (tenant : subscription.tenantId = owner)
    (live : subscription.status.isLive = true) :
    Tells db tenantId (.cancelSubscription owner granted clock) { db with
      subscriptions := db.subscriptions.put (cancelRequestedRow subscription clock.now)
      events := db.events ++ [⟨owner, .subscriptionCanceled subscription.id code⟩] } := by
  have found : db.subscriptions.get (cancelRequestedRow subscription clock.now).id =
      some subscription := db.subscriptions.get_of_mem subscription member
  have before : LiveRow db.subscriptions owner subscription := ⟨found, tenant, live⟩
  by_cases own : owner = tenantId
  · subst own
    refine ⟨_, .requested subscription.id code granted clock rfl ?_,
      subscriptionEvents_add _ _ (subscriptionEvents_own _ rfl)⟩
    intro row there
    rcases there.of_put found with rfl | ⟨other, differs⟩
    · exact ⟨rfl, subscription, before, rfl⟩
    · exact absurd (congrArg Subscription.id (other.eq constraints before)) differs
  · refine tells_nothing ?_ (subscriptionEvents_skip (subscriptionEvents_foreign _ own))
    intro row there
    rcases there.of_put found with rfl | ⟨other, _⟩
    · exact absurd (tenant.symm.trans there.tenant) own
    · exact other

theorem LiveRow.of_ended (constraints : Constraints db) {subscription row : Subscription}
    {now : DateTime} (found : db.subscriptions.get subscription.id = some subscription)
    (live : subscription.status.isLive = true)
    (there : LiveRow (db.subscriptions.put (endedRow subscription now)) tenantId row) :
    LiveRow db.subscriptions tenantId row ∧ tenantId ≠ subscription.tenantId := by
  have stored : db.subscriptions.get (endedRow subscription now).id = some subscription := found
  rcases there.of_put stored with rfl | ⟨other, differs⟩
  · have alive := there.live
    rcases endedRow_closed subscription now with closed | closed
    · rw [closed] at alive
      cases alive
    · rw [closed] at alive
      cases alive
  · refine ⟨other, ?_⟩
    rintro rfl
    have before : LiveRow db.subscriptions subscription.tenantId subscription := ⟨found, rfl, live⟩
    rw [other.eq constraints before] at differs
    exact differs rfl

/-- Everything the period-end step announces. -/
theorem tells_closes (constraints : Constraints db) {owner : Uuid} {fallback : Option String}
    {now : DateTime} (closes : ClosesPeriod db owner fallback now final) :
    Tells db tenantId op final := by
  cases closes with
  | nothing => exact tells_unchanged
  | rolled subscription plan span due =>
    refine ⟨[], .kept ?_, (List.append_nil _).symm⟩
    intro row there
    have stored : db.subscriptions.get (rolledRow subscription span).id = some subscription :=
      due.found
    rcases there.of_put stored with rfl | ⟨other, _⟩
    · exact ⟨subscription, ⟨due.found, there.tenant, due.live⟩, rfl, rfl⟩
    · exact ⟨row, other, rfl, rfl⟩
  | ended subscription code due final falls =>
    obtain rfl := due.tenant
    have gone : ∀ row, LiveRow (db.subscriptions.put (endedRow subscription now))
        tenantId row → LiveRow db.subscriptions tenantId row ∧
          tenantId ≠ subscription.tenantId :=
      fun row there => there.of_ended constraints due.found due.live
    have ended : Tells db tenantId op (endedDb db subscription code now) := by
      by_cases own : subscription.tenantId = tenantId
      · refine ⟨_, .ended subscription.id code (endedRow subscription now).status ?_, ?_⟩
        · exact fun row there => (gone row there).2 own.symm
        · rw [endedDb, own]
          exact subscriptionEvents_add _ _ (subscriptionEvents_own _ rfl)
      · exact tells_nothing (fun row there => (gone row there).1)
          (subscriptionEvents_skip (subscriptionEvents_foreign _ own))
    cases falls with
    | unset => exact ended
    | refused => exact ended
    | subscribed other set final subscribes =>
      obtain rfl | ⟨new, tenant, unset, left, events⟩ := subscribes.announced
      · exact ended
      by_cases own : subscription.tenantId = tenantId
      · refine ⟨_, .fellBack subscription.id code (endedRow subscription now).status new unset
          ?_, ?_⟩
        · intro row there
          exact (left tenantId row there).resolve_right fun before => before.2 own.symm
        · rw [events, endedDb, own, subscriptionEvents_append, subscriptionEvents_append,
            subscriptionEvents_own _ rfl, subscriptionEvents_own _ rfl, List.append_assoc]
          rfl
      · refine tells_nothing ?_ ?_
        · intro row there
          rcases left tenantId row there with rfl | before
          · exact absurd (tenant.symm.trans there.tenant) own
          · exact (gone row before.1).1
        · rw [events]
          refine (subscriptionEvents_skip (subscriptionEvents_foreign _ own)).trans ?_
          exact subscriptionEvents_skip (subscriptionEvents_foreign _ own)

/-! ## Every operation -/

theorem tells_run (app : App) (constraints : Constraints db) (tenantId : Uuid) (op : Op) :
    Tells db tenantId op (op.run app db) := by
  have step := step_run app db op
  generalize op.run app db = final at step
  cases step with
  | unchanged op => exact tells_unchanged
  | @handled providerCode raw moment clock adapter callback outcome final enabled parsed handles =>
    obtain same | ⟨payment, changed, moved, _, moves, same⟩ := handles.business
    · rw [same]
      exact tells_nothing (fun _ live => live) rfl
    · have told : Tells db tenantId (.webhook providerCode raw moment clock) moved :=
        tells_moves (Or.inl rfl) moves
      rw [same]
      exact told
  | moved hands found moves _ unpaid =>
    exact tells_moves (Or.inr unpaid) moves
  | opened opens =>
    exact tells_opens opens tells_unchanged
  | started checkout leaves =>
    obtain ⟨rfl, _⟩ | ⟨payment, opens⟩ := leaves
    · exact tells_checkout checkout
    · exact tells_opens opens (tells_checkout checkout)
  | cancelRequested member tenant live =>
    exact tells_requested constraints member tenant live
  | subscribed subscribes => exact tells_subscribes subscribes
  | ended closes => exact tells_closes constraints closes

end Tenant

end BackendCore.Billing
