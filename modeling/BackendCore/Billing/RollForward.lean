import Mathlib
import BackendCore.Billing.Coverage

/-!
# Rolling a free plan forward

`close_ended_period` on a zero-price plan: however many periods have been missed,
the loop ends in the period that covers now, and that period is found by counting
whole periods from the old end.  A second run at the same time finds nothing to do.
-/

set_option autoImplicit false

namespace BackendCore.Billing

open BackendCore.Python

theorem rollForward_of_ended {now start finish next : DateTime} {period : Period}
    (ended : finish ≤ now) (ends : periodEnd finish period = some next) :
    rollForward now period start finish = rollForward now period finish next := by
  rw [rollForward, if_pos ended]
  split
  · next missing =>
    rw [ends] at missing
    cases missing
  · next other there =>
    rw [ends] at there
    rw [Option.some.inj there]

/-- The loop ends in the period that covers now, a whole number of periods after the
old end. -/
theorem rollForward_covers {now : DateTime} (period : Period) (start finish : DateTime)
    (early : now.year < 9998) (ended : finish ≤ now) :
    ∃ first last count, rollForward now period start finish = some (first, last) ∧
      periodsLater period count finish = some first ∧
      periodEnd first period = some last ∧ first ≤ now ∧ now < last := by
  induction start, finish using rollForward.induct now period with
  | case1 start finish _ missing =>
    have inYear := DateTime.year_le_of_le ended
    obtain ⟨next, ends, _⟩ := periodEnd_of_year_le finish period (by omega)
    rw [missing] at ends
    nomatch ends
  | case2 start finish _ next ends hypothesis =>
    rw [rollForward_of_ended ended ends]
    by_cases again : next ≤ now
    · obtain ⟨first, last, count, rolled, later, covers⟩ := hypothesis again
      refine ⟨first, last, count + 1, rolled, ?_, covers⟩
      rw [periodsLater, ends, Option.bind_some, later]
    · refine ⟨finish, next, 0, ?_, rfl, ends, ended, Int.not_le.mp again⟩
      rw [rollForward, if_neg again]
  | case3 start finish running => exact absurd ended running

/-- The row of a live subscription that changes neither its tenant nor its id and
stays live meets the partial index as the stored row does. -/
theorem liveConflict_rolledRow {db : Db} {subscription : Subscription}
    (span : DateTime × DateTime) (live : subscription.status.isLive = true)
    (indexed : liveConflict db subscription = false) :
    liveConflict db (rolledRow subscription span) = false := by
  unfold liveConflict at indexed ⊢
  rw [live, Bool.true_and] at indexed
  exact indexed

section Run

variable {db : Db} {tenantId : Uuid} {clock : Clock} {subscription : Subscription}

theorem closeEndedPeriod_rolls {plan : Plan} {span : DateTime × DateTime}
    (due : Due db.subscriptions tenantId clock.now subscription)
    (planned : db.plans.get subscription.planId = some plan)
    (free : plan.price.amount = 0) (kept : subscription.cancelAtPeriodEnd = false)
    (indexed : liveConflict db subscription = false)
    (rolled : rollForward clock.now plan.period subscription.currentPeriodStart
      subscription.currentPeriodEnd = some span) (fallback : Option String) (newId : Uuid) :
    closeEndedPeriod tenantId subscription.id fallback newId clock db =
      .ok true { db with
        subscriptions := db.subscriptions.put (rolledRow subscription span) } := by
  have chosen : (db.subscriptions.get subscription.id).filter (fun subscription =>
      subscription.tenantId = tenantId && subscription.status.isLive &&
        decide (subscription.currentPeriodEnd ≤ clock.now)) = some subscription := by
    rw [due.found]
    simp [due.tenant, due.live, due.ended]
  have rolls : (db.plans.get subscription.planId).filter (fun plan =>
      plan.price.amount = 0 && !subscription.cancelAtPeriodEnd) = some plan := by
    rw [planned]
    simp [free, kept]
  have flushed : putSubscription (rolledRow subscription span) db =
      .ok () { db with subscriptions := db.subscriptions.put (rolledRow subscription span) } :=
    (putSubscription_ok_iff _ _ _ _).mpr
      ⟨liveConflict_rolledRow span due.live indexed, rfl, rfl⟩
  unfold closeEndedPeriod
  rw [Tx.bind_run, Tx.get_run]
  simp only [chosen, rolls, rolled]
  rw [Tx.bind_run, flushed]
  rfl

theorem closeEndedPeriod_of_running (subscription : Subscription)
    (found : db.subscriptions.get subscription.id = some subscription)
    (running : clock.now < subscription.currentPeriodEnd) (fallback : Option String)
    (newId : Uuid) :
    closeEndedPeriod tenantId subscription.id fallback newId clock db = .ok false db := by
  have later : ¬subscription.currentPeriodEnd ≤ clock.now := Int.not_le.mpr running
  have chosen : (db.subscriptions.get subscription.id).filter (fun subscription =>
      subscription.tenantId = tenantId && subscription.status.isLive &&
        decide (subscription.currentPeriodEnd ≤ clock.now)) = none := by
    rw [found]
    simp [later]
  unfold closeEndedPeriod
  rw [Tx.bind_run, Tx.get_run]
  simp only [chosen]
  rfl

end Run

/-- The period-end step on a live free subscription leaves it active in the period
that covers now and changes nothing else; repeated at the same time it does nothing. -/
theorem free_plan_rolls_to_current_period (db : Db) (tenantId : Uuid) (clock : Clock)
    (subscription : Subscription) (plan : Plan) (fallback : Option String) (newId : Uuid)
    (due : Due db.subscriptions tenantId clock.now subscription)
    (indexed : liveConflict db subscription = false)
    (planned : db.plans.get subscription.planId = some plan) (free : plan.price.amount = 0)
    (kept : subscription.cancelAtPeriodEnd = false) (early : clock.now.year < 9998) :
    ∃ rolled final count,
      closeEndedPeriod tenantId subscription.id fallback newId clock db = .ok true final ∧
      final = { db with subscriptions := db.subscriptions.put rolled } ∧
      final.subscriptions.get subscription.id = some rolled ∧
      rolled = { subscription with
        status := .active
        currentPeriodStart := rolled.currentPeriodStart
        currentPeriodEnd := rolled.currentPeriodEnd } ∧
      rolled.currentPeriodStart ≤ clock.now ∧ clock.now < rolled.currentPeriodEnd ∧
      periodEnd rolled.currentPeriodStart plan.period = some rolled.currentPeriodEnd ∧
      periodsLater plan.period count subscription.currentPeriodEnd =
        some rolled.currentPeriodStart ∧
      ∀ (again : Clock) (otherFallback : Option String) (otherId : Uuid),
        again.now = clock.now →
        closeEndedPeriod tenantId subscription.id otherFallback otherId again final =
          .ok false final := by
  obtain ⟨first, last, count, rolls, later, ends, before, after⟩ :=
    rollForward_covers plan.period subscription.currentPeriodStart subscription.currentPeriodEnd
      early due.ended
  have stored : (db.subscriptions.put (rolledRow subscription (first, last))).get
      subscription.id = some (rolledRow subscription (first, last)) :=
    Table.get_put_self _ (rolledRow subscription (first, last)) subscription due.found
  refine ⟨rolledRow subscription (first, last), _, count,
    closeEndedPeriod_rolls due planned free kept indexed rolls fallback newId, rfl, stored, rfl,
    before, after, ends, later, ?_⟩
  intro again otherFallback otherId same
  refine closeEndedPeriod_of_running (rolledRow subscription (first, last)) stored ?_
    otherFallback otherId
  rw [same]
  exact after

namespace Sample

def aprilFirst : DateTime := ⟨2026, 4, 1, 0, by decide⟩

def aprilClock : Clock := { clock with now := aprilFirst }

/-- The free subscription of January 15th. -/
def freeSubscription : Subscription where
  id := 5
  tenantId := tenant
  planId := 4
  status := .active
  price := ⟨0, "UZS"⟩
  currentPeriodStart := moment
  currentPeriodEnd := ⟨2026, 2, 15, 0, by decide⟩
  cancelAtPeriodEnd := false
  canceledAt := none

/-- Two missed periods later it is rolled to the one from March 15th on. -/
theorem free_plan_rolled_in_april :
    ∃ final, closeEndedPeriod tenant 5 none 6 aprilClock subscribedDb = .ok true final ∧
      closeEndedPeriod tenant 5 none 6 aprilClock final = .ok false final := by
  have due : Due subscribedDb.subscriptions tenant aprilClock.now freeSubscription := by
    refine ⟨?_, rfl, rfl, ?_⟩
    · decide +kernel
    · decide +kernel
  obtain ⟨_, final, _, acted, _, _, _, _, _, _, _, rests⟩ :=
    free_plan_rolls_to_current_period subscribedDb tenant aprilClock freeSubscription freePlan
      none 6 due (by decide +kernel) (by decide +kernel) rfl rfl (by decide)
  exact ⟨final, acted, rests aprilClock none 6 rfl⟩

end Sample

end BackendCore.Billing
