import Mathlib
import BackendCore.Billing.Coverage
import BackendCore.Billing.Redelivery
import BackendCore.Saas.Entitlements

/-!
# The entitlement row and the live subscription

Handled in the order of their publication, the subscription events keep the
tenant's row on the plan of its live subscription, with the period end its
activation announced.  Events that carry no order are handled in any order, and a
roll-forward announces nothing: what these two leave of the row is said here.
-/

set_option autoImplicit false

namespace BackendCore.Saas

open BackendCore.Python BackendCore.Billing

/-! ## Events in the order of their publication -/

/-- The period end of the last activation the handlers act on. -/
def announcedEnd (payloads : List Payload) : Option DateTime :=
  payloads.foldl (fun last payload =>
    match payload with
    | .subscriptionActivated _ planCode currentPeriodEnd =>
      if planCode = "" then last else some currentPeriodEnd
    | _ => last) none

theorem announcedEnd_canceled (payloads : List Payload) (id : Uuid) (code : String) :
    announcedEnd (payloads ++ [.subscriptionCanceled id code]) = announcedEnd payloads := by
  rw [announcedEnd, List.foldl_append]
  rfl

theorem announcedEnd_activated (payloads : List Payload) (id : Uuid) {code : String}
    (finish : DateTime) (coded : code ≠ "") :
    announcedEnd (payloads ++ [.subscriptionActivated id code finish]) = some finish := by
  rw [announcedEnd, List.foldl_append]
  exact if_neg coded

/-- The code of a subscription's plan. -/
def codeOf (plans : Table Plan.id) (subscription : Subscription) : String :=
  planCode (plans.get subscription.planId)

/-- The row shows the plan of the live subscription, whether its cancellation is requested,
and the period end of the last activation. -/
def Projected (plans : Table Plan.id) (subscriptions : Table Subscription.id) (tenantId : Uuid)
    (payloads : List Payload) (state : Entitlements) : Prop :=
  ∀ live, LiveRow subscriptions tenantId live → codeOf plans live ≠ "" →
    ∃ finish, announcedEnd payloads = some finish ∧
      state.row = some ⟨codeOf plans live, some finish, live.cancelAtPeriodEnd⟩

theorem handle_activated (state : Entitlements) {event : Envelope} {id : Uuid} {code : String}
    {finish : DateTime} (said : event.payload = .subscriptionActivated id code finish)
    (coded : code ≠ "") : handle state event = setActivePlan code (some finish) state := by
  unfold handle
  rw [said]
  exact if_neg coded

theorem handle_canceled (state : Entitlements) {event : Envelope} {id : Uuid} {code : String}
    (said : event.payload = .subscriptionCanceled id code) :
    handle state event = markCanceled state := by
  unfold handle
  rw [said]

section Step

variable {plans : Table Plan.id} {old new : Table Subscription.id} {tenantId : Uuid} {op : Op}
variable {payloads announced : List Payload} {state : Entitlements} {events : List Envelope}

theorem Projected.step (projected : Projected plans old tenantId payloads state)
    (announces : Announces plans tenantId op old new announced)
    (said : events.map Envelope.payload = announced) :
    Projected plans new tenantId (payloads ++ announced) (events.foldl handle state) := by
  intro live there coded
  cases announces with
  | kept same =>
    cases List.map_eq_nil_iff.mp said
    obtain ⟨before, standing, plan, canceled⟩ := same live there
    have code : codeOf plans before = codeOf plans live := by
      unfold codeOf
      rw [plan]
    rw [← code] at coded ⊢
    rw [List.append_nil, ← canceled]
    exact projected before standing coded
  | requested id code granted clock request same =>
    obtain ⟨event, rfl, named⟩ := List.map_eq_singleton_iff.mp said
    obtain ⟨asked, before, standing, plan⟩ := same live there
    have code : codeOf plans before = codeOf plans live := by
      unfold codeOf
      rw [plan]
    rw [← code] at coded ⊢
    obtain ⟨finish, announcement, row⟩ := projected before standing coded
    refine ⟨finish, (announcedEnd_canceled _ _ _).trans announcement, ?_⟩
    rw [List.foldl_cons, List.foldl_nil, handle_canceled state named, asked]
    simp [markCanceled, row]
  | activated subscription uncanceled only =>
    obtain ⟨event, rfl, named⟩ := List.map_eq_singleton_iff.mp said
    cases only live there
    refine ⟨live.currentPeriodEnd, announcedEnd_activated _ _ _ coded, ?_⟩
    rw [List.foldl_cons, List.foldl_nil, handle_activated state named coded, uncanceled]
    rfl
  | ended id code status none => exact absurd there (none live)
  | fellBack id code status subscription uncanceled only =>
    obtain ⟨first, rest, rfl, _, tail⟩ := List.map_eq_cons_iff.mp said
    obtain ⟨event, rfl, named⟩ := List.map_eq_singleton_iff.mp tail
    cases only live there
    refine ⟨live.currentPeriodEnd, ?_, ?_⟩
    · rw [← List.singleton_append, ← List.append_assoc]
      exact announcedEnd_activated _ _ _ coded
    · rw [List.foldl_cons, List.foldl_cons, List.foldl_nil, handle_activated _ named coded,
        uncanceled]
      rfl

end Step

theorem projected_of_reachable {app : App} {db : Db} (reached : Reachable app db) (tenantId : Uuid)
    {delivered : List Envelope}
    (ordered : delivered.map Envelope.payload = subscriptionEvents tenantId db.events) :
    Projected db.plans db.subscriptions tenantId (subscriptionEvents tenantId db.events)
      (handleAll delivered) := by
  induction reached generalizing delivered with
  | initial db empty =>
    intro live there
    have member := Table.mem_of_get there.stored
    rw [empty.subscriptions] at member
    cases member
  | step db op reached hypothesis =>
    obtain ⟨announced, announces, events⟩ := tells_run app reached.constraints tenantId op
    rw [events] at ordered ⊢
    obtain ⟨before, after, rfl, first, second⟩ := List.map_eq_append_iff.mp ordered
    rw [(step_run app db op).plans, handleAll, List.foldl_append]
    exact (hypothesis first).step announces second

/-! ## A requested cancellation -/

/-- Two moments neither of which is before the other. -/
def SameMoment (left right : DateTime) : Prop := left ≤ right ∧ right ≤ left

instance (left right : DateTime) : Decidable (SameMoment left right) :=
  inferInstanceAs (Decidable (left ≤ right ∧ right ≤ left))

/-- The subscription's current period still ends when its activation announced. -/
def KeepsAnnouncedEnd (events : List Payload) (subscription : Subscription) : Prop :=
  ∀ finish ∈ announcedEnd events, SameMoment finish subscription.currentPeriodEnd

/-- In every reachable database, with all events handled in their order: a live subscription
whose cancellation is requested covers its tenant exactly until its current period end if
and only if its plan has a code and that end is still the one its activation announced, which a
roll-forward moves.  Without a code, some time has to come before that end. -/
theorem canceled_plan_covers_until_announced_end (app : App) (db : Db)
    (reached : Reachable app db) (tenantId : Uuid) (live : Subscription)
    (isLive : LiveRow db.subscriptions tenantId live) (asked : live.cancelAtPeriodEnd = true)
    (begun : codeOf db.plans live = "" → ∃ time, time < live.currentPeriodEnd)
    (delivered : List Envelope)
    (ordered : delivered.map Envelope.payload = subscriptionEvents tenantId db.events) :
    (∀ time, effectivePlanCode time (handleAll delivered) =
        if time < live.currentPeriodEnd then some (codeOf db.plans live) else none) ↔
      codeOf db.plans live ≠ "" ∧
        KeepsAnnouncedEnd (subscriptionEvents tenantId db.events) live := by
  by_cases coded : codeOf db.plans live = ""
  · refine ⟨fun covers => ?_, fun both => absurd coded both.1⟩
    obtain ⟨time, early⟩ := begun coded
    obtain ⟨row, stored, code⟩ := row_of_effective ((covers time).trans (if_pos early))
    exact absurd (code.trans coded) (handleAll_coded delivered row stored)
  rw [and_iff_right coded]
  obtain ⟨finish, announced, row⟩ := projected_of_reachable reached tenantId ordered live isLive
    coded
  rw [asked] at row
  have only : KeepsAnnouncedEnd (subscriptionEvents tenantId db.events) live ↔
      SameMoment finish live.currentPeriodEnd := by
    unfold KeepsAnnouncedEnd
    rw [announced]
    simp
  rw [only]
  constructor
  · intro covers
    constructor
    · refine Int.not_lt.mp ?_
      intro (early : live.currentPeriodEnd < finish)
      have now := covers live.currentPeriodEnd
      rw [effective_of_canceled _ row, if_pos early, if_neg (lt_irrefl _)] at now
      cases now
    · refine Int.not_lt.mp ?_
      intro (early : finish < live.currentPeriodEnd)
      have now := covers finish
      rw [effective_of_canceled _ row, if_neg (lt_irrefl _), if_pos early] at now
      cases now
  · rintro ⟨below, above⟩ time
    rw [effective_of_canceled _ row]
    have same : time < finish ↔ time < live.currentPeriodEnd :=
      ⟨fun before => lt_of_lt_of_le before below, fun before => lt_of_lt_of_le before above⟩
    simp only [same]

namespace Sample

open BackendCore.Billing.Sample

theorem marchFirst_valid : 1 ≤ 2026 ∧ 2026 ≤ 9999 ∧ 1 ≤ 3 ∧ 3 ≤ 12 ∧ 1 ≤ 1 ∧
    1 ≤ daysInMonth 2026 3 ∧ 0 < microsPerDay := by decide

def marchFirst : DateTime := ⟨2026, 3, 1, 0, marchFirst_valid⟩

def marchSecond : DateTime := ⟨2026, 3, 2, 0, by decide⟩

def marchThird : DateTime := ⟨2026, 3, 3, 0, by decide⟩

def marchFifteenth : DateTime := ⟨2026, 3, 15, 0, by decide⟩

def readAt (moment : DateTime) : Clock :=
  ⟨moment, moment, moment, moment, moment, moment, moment, moment⟩

/-- The tenant is on the free plan since January 15th. -/
def freeDb : Db := (Op.autoSubscribe tenant "free" 5 clock).run freeApp unsubscribedDb

/-- On March 1st the sweep rolls the free plan forward, and a day later the tenant cancels. -/
def rolledDb : Db :=
  (Op.endSubscription ⟨5, tenant⟩ 6 (readAt marchFirst)).run freeApp freeDb

def canceledDb : Db :=
  (Op.cancelSubscription tenant true (readAt marchSecond)).run freeApp rolledDb

theorem february_valid : 1 ≤ 2026 ∧ 2026 ≤ 9999 ∧ 1 ≤ 2 ∧ 2 ≤ 12 ∧ 1 ≤ 15 ∧
    15 ≤ daysInMonth 2026 2 ∧ 0 < microsPerDay := by decide

def rolledAndCanceled : Subscription where
  id := 5
  tenantId := tenant
  planId := 4
  status := .active
  price := ⟨0, "UZS"⟩
  currentPeriodStart := ⟨2026, 2, 15, 0, february_valid⟩
  currentPeriodEnd := marchFifteenth
  cancelAtPeriodEnd := true
  canceledAt := some marchSecond

def inOrder (db : Db) : List Envelope :=
  (subscriptionEvents tenant db.events).map fun payload => ⟨payload, moment⟩

theorem inOrder_payloads (db : Db) :
    (inOrder db).map Envelope.payload = subscriptionEvents tenant db.events := by
  rw [inOrder, List.map_map]
  exact List.map_id _

theorem rolled_plan_lapses_before_its_end :
    Reachable freeApp canceledDb ∧
      (∃ live, LiveRow canceledDb.subscriptions tenant live ∧ live.cancelAtPeriodEnd = true ∧
        live.currentPeriodEnd = marchFifteenth ∧ codeOf canceledDb.plans live = "free") ∧
      marchThird < marchFifteenth ∧
      effectivePlanCode marchThird (handleAll (inOrder canceledDb)) = none := by
  have stored : canceledDb.subscriptions.get 5 = some rolledAndCanceled := by decide +kernel
  refine ⟨.step _ _ (.step _ _ (.step _ _ (.initial _ ⟨rfl, rfl, rfl, rfl⟩))),
    ⟨rolledAndCanceled, ⟨stored, rfl, rfl⟩, rfl, rfl, ?_⟩, by decide, ?_⟩
  · decide +kernel
  · decide +kernel

/-- The tenant cancels in its first period. -/
def canceledEarlyDb : Db := (Op.cancelSubscription tenant true clock).run freeApp freeDb

theorem unrolled_plan_covers_until_its_end :
    ∃ live, LiveRow canceledEarlyDb.subscriptions tenant live ∧ live.cancelAtPeriodEnd = true ∧
      codeOf canceledEarlyDb.plans live = "free" ∧
      ∀ time, effectivePlanCode time (handleAll (inOrder canceledEarlyDb)) =
        if time < live.currentPeriodEnd then some (codeOf canceledEarlyDb.plans live)
        else none := by
  have reached : Reachable freeApp canceledEarlyDb :=
    .step _ _ (.step _ _ (.initial _ ⟨rfl, rfl, rfl, rfl⟩))
  have isLive : LiveRow canceledEarlyDb.subscriptions tenant
      ((canceledEarlyDb.subscriptions.get 5).get rfl) := ⟨rfl, rfl, rfl⟩
  have coded : codeOf canceledEarlyDb.plans ((canceledEarlyDb.subscriptions.get 5).get rfl) =
      "free" := by decide +kernel
  refine ⟨_, isLive, rfl, coded, ?_⟩
  refine (canceled_plan_covers_until_announced_end freeApp canceledEarlyDb reached tenant _ isLive
    rfl (fun _ => ⟨moment, by decide +kernel⟩) (inOrder canceledEarlyDb)
    (inOrder_payloads _)).mpr ⟨by rw [coded]; decide, ?_⟩
  unfold KeepsAnnouncedEnd
  decide +kernel

end Sample

/-! ## Events in any order -/

/-- The event moves the row off the plan: another activation, or the end of the plan. -/
def displaces (code : String) : Payload → Bool
  | .subscriptionActivated _ other _ => other ≠ ""
  | .subscriptionEnded _ other _ => other = code
  | _ => false

/-- The last activation the handlers act on is of the plan, and no end of the plan comes
after it. -/
def Settles (code : String) (delivered : List Envelope) : Prop :=
  code ≠ "" ∧ ∃ before event after id finish, delivered = before ++ event :: after ∧
    event.payload = .subscriptionActivated id code finish ∧
    ∀ later ∈ after, displaces code later.payload = false

theorem settles_concat (code : String) (delivered : List Envelope) (event : Envelope) :
    Settles code (delivered ++ [event]) ↔
      (code ≠ "" ∧ ∃ id finish, event.payload = .subscriptionActivated id code finish) ∨
        (displaces code event.payload = false ∧ Settles code delivered) := by
  constructor
  · rintro ⟨coded, before, activation, after, id, finish, same, named, quiet⟩
    induction after using List.reverseRecOn with
    | nil =>
      obtain ⟨_, last⟩ := List.append_inj' same rfl
      cases last
      exact Or.inl ⟨coded, id, finish, named⟩
    | append_singleton rest final _ =>
      rw [← List.cons_append, ← List.append_assoc] at same
      obtain ⟨first, last⟩ := List.append_inj' same rfl
      cases last
      refine Or.inr ⟨quiet event (by simp), coded, before, activation, rest, id, finish, first,
        named, ?_⟩
      intro later member
      exact quiet later (List.mem_append_left _ member)
  · rintro (⟨coded, id, finish, named⟩ | ⟨quiet, coded, before, activation, after, id, finish, rfl,
      named, rest⟩)
    · exact ⟨coded, delivered, event, [], id, finish, rfl, named, fun _ member => nomatch member⟩
    · refine ⟨coded, before, activation, after ++ [event], id, finish, ?_, named, ?_⟩
      · rw [List.append_assoc, List.cons_append]
      · intro later member
        rcases List.mem_append.mp member with old | new
        · exact rest later old
        · rw [List.mem_singleton.mp new]
          exact quiet

theorem not_settles_nil (code : String) : ¬Settles code [] := by
  rintro ⟨_, before, event, after, _, _, same, _⟩
  cases before with
  | nil => cases same
  | cons first rest => cases same

theorem effective_iff_settles {now : DateTime} (code : String) {delivered : List Envelope}
    (past : ∀ event ∈ delivered, event.occurredAt ≤ now)
    (uncanceled : ∀ event ∈ delivered, event.payload.isCancellation = false) :
    effectivePlanCode now (handleAll delivered) = some code ↔ Settles code delivered := by
  induction delivered using List.reverseRecOn with
  | nil =>
    constructor
    · intro inForce
      cases inForce
    · exact fun settled => absurd settled (not_settles_nil code)
  | append_singleton rest event hypothesis =>
    have older := hypothesis (fun event member => past event (List.mem_append_left _ member))
      (fun event member => uncanceled event (List.mem_append_left _ member))
    have mine := uncanceled event (by simp)
    have before := past event (by simp)
    rw [handleAll_concat, settles_concat]
    unfold handle
    generalize event.payload = payload at mine ⊢
    cases payload with
    | subscriptionActivated id other finish =>
      by_cases coded : other = ""
      · simp only [coded, if_true]
        rw [older]
        constructor
        · exact fun settled => Or.inr ⟨by simp [displaces], settled⟩
        · rintro (⟨nonempty, _, _, same⟩ | ⟨_, settled⟩)
          · cases same
            exact absurd rfl nonempty
          · exact settled
      · simp only [coded, if_false]
        rw [effective_of_uncanceled now rfl rfl]
        constructor
        · intro same
          cases same
          exact Or.inl ⟨coded, id, finish, rfl⟩
        · rintro (⟨_, _, _, same⟩ | ⟨displaced, _⟩)
          · cases same
            rfl
          · simp [displaces, coded] at displaced
    | subscriptionEnded id other status =>
      have same : (displaces code (.subscriptionEnded id other status) = false) ↔
          other ≠ code := by
        simp [displaces]
      rw [same]
      have unannounced : ¬(code ≠ "" ∧ ∃ activated finish,
          Payload.subscriptionEnded id other status =
            .subscriptionActivated activated code finish) := by
        rintro ⟨_, _, _, impossible⟩
        cases impossible
      by_cases coded : other = ""
      · subst coded
        rw [or_iff_right unannounced]
        change effectivePlanCode now (handleAll rest) = some code ↔ _
        rw [older]
        constructor
        · exact fun settled => ⟨Ne.symm settled.1, settled⟩
        · exact fun both => both.2
      · simp only [coded, if_false]
        rw [effective_endPlan before, older, or_iff_right unannounced]
        exact and_comm
    | subscriptionCanceled id other => cases mine
    | _ => simp [older, displaces]

/-! ## Histories without cancellation requests -/

/-- Any billing operations, without a cancellation request of the tenant. -/
inductive Uncanceled (app : App) (tenantId : Uuid) : Db → Prop where
  | initial (db : Db) (empty : Initial db) : Uncanceled app tenantId db
  | step (db : Db) (op : Op) (other : op.requestsCancellation tenantId = false)
      (reached : Uncanceled app tenantId db) : Uncanceled app tenantId (op.run app db)

theorem Uncanceled.reachable {app : App} {tenantId : Uuid} {db : Db}
    (history : Uncanceled app tenantId db) : Reachable app db := by
  induction history with
  | initial db empty => exact .initial db empty
  | step db op other _ hypothesis => exact .step db op hypothesis

theorem Uncanceled.quiet {app : App} {tenantId : Uuid} {db : Db}
    (history : Uncanceled app tenantId db) :
    (∀ payload ∈ subscriptionEvents tenantId db.events, payload.isCancellation = false) ∧
      ∀ live, LiveRow db.subscriptions tenantId live → live.cancelAtPeriodEnd = false := by
  induction history with
  | initial db empty =>
    refine ⟨?_, ?_⟩
    · intro payload member
      rw [empty.events] at member
      cases member
    · intro live there
      have member := Table.mem_of_get there.stored
      rw [empty.subscriptions] at member
      cases member
  | step db op other history hypothesis =>
    obtain ⟨announced, announces, events⟩ :=
      tells_run app history.reachable.constraints tenantId op
    obtain ⟨payloads, rows⟩ := hypothesis
    have grown : (∀ payload ∈ announced, payload.isCancellation = false) →
        ∀ payload ∈ subscriptionEvents tenantId (op.run app db).events,
          payload.isCancellation = false := by
      intro quiet payload member
      rw [events] at member
      exact (List.mem_append.mp member).elim (payloads payload) (quiet payload)
    cases announces with
    | kept same =>
      refine ⟨grown (fun _ member => nomatch member), ?_⟩
      intro live there
      obtain ⟨before, standing, _, canceled⟩ := same live there
      rw [← canceled]
      exact rows before standing
    | requested id code granted clock request same =>
      rw [request] at other
      simp [Op.requestsCancellation] at other
    | activated subscription uncanceled only =>
      refine ⟨grown ?_, ?_⟩
      · simp [Payload.isCancellation]
      · intro live there
        rw [only live there]
        exact uncanceled
    | ended id code status none =>
      refine ⟨grown ?_, fun live there => absurd there (none live)⟩
      simp [Payload.isCancellation]
    | fellBack id code status subscription uncanceled only =>
      refine ⟨grown ?_, ?_⟩
      · simp [Payload.isCancellation]
      · intro live there
        rw [only live there]
        exact uncanceled

/-- After any history without cancellation requests, with all events handled once each in any
order: the plan of the live subscription is in force if and only if the last activation
handled is of this plan and no end of this plan is handled after it; which is so when the
events are handled in the order of their publication. -/
theorem plan_in_force_iff_events_settle (app : App) (tenantId : Uuid) (db : Db)
    (history : Uncanceled app tenantId db) (live : Subscription)
    (isLive : LiveRow db.subscriptions tenantId live) (now : DateTime) (delivered : List Envelope)
    (once : (delivered.map Envelope.payload).Perm (subscriptionEvents tenantId db.events))
    (past : ∀ event ∈ delivered, event.occurredAt ≤ now) :
    (effectivePlanCode now (handleAll delivered) = some (codeOf db.plans live) ↔
      Settles (codeOf db.plans live) delivered) ∧
    (codeOf db.plans live ≠ "" →
      delivered.map Envelope.payload = subscriptionEvents tenantId db.events →
      effectivePlanCode now (handleAll delivered) = some (codeOf db.plans live)) := by
  obtain ⟨payloads, rows⟩ := history.quiet
  refine ⟨effective_iff_settles _ past ?_, ?_⟩
  · intro event member
    exact payloads _ (once.subset (List.mem_map_of_mem member))
  · intro coded ordered
    obtain ⟨finish, _, row⟩ := projected_of_reachable history.reachable tenantId ordered live
      isLive coded
    exact effective_of_uncanceled now row (rows live isLive)

namespace Sample

open BackendCore.Billing.Sample

/-- The tenant upgrades from the free plan to a paid one. -/
def upgradedDb : Db :=
  (Op.webhook "click" completeRequest 0 clock).run clickApp
    ((Op.startSubscription tenant true intake "pro" "click" 3 clock).run clickApp
      ((Op.autoSubscribe tenant "free" 5 clock).run clickApp unsubscribedDb))

theorem upgradedDb_history : Uncanceled clickApp tenant upgradedDb :=
  .step _ _ rfl (.step _ _ rfl (.step _ _ rfl (.initial _ ⟨rfl, rfl, rfl, rfl⟩)))

set_option maxRecDepth 2000 in
theorem upgradedDb_live :
    ∃ live, LiveRow upgradedDb.subscriptions tenant live ∧
      codeOf upgradedDb.plans live = "pro" := by
  have isLive : LiveRow upgradedDb.subscriptions tenant
      ((upgradedDb.subscriptions.get 3).get rfl) := ⟨rfl, rfl, rfl⟩
  exact ⟨_, isLive, by decide +kernel⟩

theorem swapped_activations_leave_old_plan :
    Uncanceled clickApp tenant upgradedDb ∧
      (∃ live, LiveRow upgradedDb.subscriptions tenant live ∧
        codeOf upgradedDb.plans live = "pro") ∧
      ((inOrder upgradedDb).reverse.map Envelope.payload).Perm
        (subscriptionEvents tenant upgradedDb.events) ∧
      effectivePlanCode moment (handleAll (inOrder upgradedDb).reverse) = some "free" := by
  refine ⟨upgradedDb_history, upgradedDb_live, ?_, by decide +kernel⟩
  rw [List.map_reverse, inOrder_payloads]
  exact List.reverse_perm _

theorem ordered_activations_give_new_plan :
    ∃ live, LiveRow upgradedDb.subscriptions tenant live ∧
      codeOf upgradedDb.plans live = "pro" ∧
      effectivePlanCode moment (handleAll (inOrder upgradedDb)) =
        some (codeOf upgradedDb.plans live) := by
  obtain ⟨live, isLive, coded⟩ := upgradedDb_live
  refine ⟨live, isLive, coded, ?_⟩
  refine (plan_in_force_iff_events_settle clickApp tenant upgradedDb upgradedDb_history _ isLive
    moment (inOrder upgradedDb) (by rw [inOrder_payloads]) ?_).2 (by rw [coded]; decide)
    (inOrder_payloads _)
  intro event member
  obtain ⟨payload, _, rfl⟩ := List.mem_map.mp member
  exact le_refl moment

end Sample

end BackendCore.Saas
