import Mathlib.Data.List.Nodup
import Mathlib.Logic.Function.Basic
import BackendCore.Shared.Events

/-!
# The unit of work

`shared/service.py`: services share one unit of work, each keeps the events it
has emitted, and the first of them registers the service's `_publish_pending`
as a callback that runs after the commit.
-/

set_option autoImplicit false

namespace BackendCore.Events

variable {S : Type} [DecidableEq S]

/-! ## Inside the block -/

inductive Callback (S : Type) where
  | publishPending (service : S)
  | other (id : Nat)

/-- `_callbacks` of the unit of work and `_pending_events` of the services. -/
structure Pending (S : Type) where
  callbacks : List (Callback S)
  events : S → List EventEnvelope

def Pending.start : Pending S := ⟨[], fun _ => []⟩

/-- What the block does with the unit of work, one call after another. -/
inductive Action (S : Type) where
  | emit (service : S) (event : EventEnvelope)
  | onCommit (id : Nat)

/-- `emit`, for the envelope it builds. -/
def Pending.emit (pending : Pending S) (service : S) (event : EventEnvelope) :
    Except Exc (Pending S) :=
  if isEventName event.name = false then .error .valueError
  else
    .ok ⟨if pending.events service = [] then pending.callbacks ++ [.publishPending service]
        else pending.callbacks,
      Function.update pending.events service (pending.events service ++ [event])⟩

/-- A call that raises leaves everything as it was; the block may go on. -/
def Pending.act (pending : Pending S) : Action S → Pending S
  | .emit service event =>
    match pending.emit service event with
    | .ok next => next
    | .error _ => pending
  | .onCommit id => ⟨pending.callbacks ++ [.other id], pending.events⟩

/-! ## Leaving the block -/

/-- How the session answers. -/
structure Session where
  rollback : Except Exc Unit
  commit : Except Exc Unit
  close : Except Exc Unit

/-- `finally: await self.session.close()`: what is raised in the end. -/
def Session.raising (session : Session) (error : Exc) : Exc :=
  match session.close with
  | .ok _ => error
  | .error last => last

def publishPending (bus : EventBus S) (environment : Environment S) (service : S)
    (events : List EventEnvelope) : Effects S :=
  .all (events.map (publish bus environment service))

/-- The loop over the callbacks; `_publish_pending` takes its service's list. -/
def runCallbacks (bus : S → EventBus S) (environment : Environment S) :
    List (Callback S) → (S → List EventEnvelope) → Effects S
  | [], _ => .done
  | .publishPending service :: rest, events =>
    Effects.andThen
      (.quietly (publishPending (bus service) environment service (events service)))
      (runCallbacks bus environment rest (Function.update events service []))
  | .other id :: rest, events =>
    Effects.andThen (.quietly (.call (.ran id) (environment.callback id)))
      (runCallbacks bus environment rest events)

/-- `__aexit__`; `raised` is what the block raised. -/
def aexit (bus : S → EventBus S) (environment : Environment S) (session : Session)
    (raised : Option Exc) (pending : Pending S) : Effects S :=
  match raised with
  | some error =>
    -- returning from the exit lets the block's exception go on
    .raise (session.raising (match session.rollback with
      | .ok _ => error
      | .error failure => failure))
  | none =>
    match session.commit with
    | .error failure => .raise (session.raising failure)
    | .ok _ =>
      Effects.andThen (.call .committed fun _ => session.close)
        (runCallbacks bus environment pending.callbacks pending.events)

/-- A whole `async with` block. -/
def unitOfWork (bus : S → EventBus S) (environment : Environment S) (session : Session)
    (actions : List (Action S)) (raised : Option Exc) : Except Exc Unit × List (Entry S) :=
  aexit bus environment session raised (actions.foldl Pending.act .start) []

/-! ## What the block leaves to publish -/

/-- The events the service emitted, in order. -/
def emitted (service : S) (actions : List (Action S)) : List EventEnvelope :=
  actions.filterMap fun action =>
    match action with
    | .emit emitter event =>
      if emitter = service ∧ isEventName event.name = true then some event else none
    | .onCommit _ => none

/-- The callbacks registered beside the services' own. -/
def registered (actions : List (Action S)) : List Nat :=
  actions.filterMap fun action =>
    match action with
    | .emit _ _ => none
    | .onCommit id => some id

def Callback.service? : Callback S → Option S
  | .publishPending service => some service
  | .other _ => none

def Callback.other? : Callback S → Option Nat
  | .publishPending _ => none
  | .other id => some id

/-- A service has its callback once, and exactly if it has emitted. -/
structure Pending.Holds (actions : List (Action S)) (pending : Pending S) : Prop where
  events : ∀ service, pending.events service = emitted service actions
  once : (pending.callbacks.filterMap Callback.service?).Nodup
  waiting : ∀ service, service ∈ pending.callbacks.filterMap Callback.service? ↔
    pending.events service ≠ []
  others : pending.callbacks.filterMap Callback.other? = registered actions

theorem emitted_append_emit (service emitter : S) (actions : List (Action S))
    {event : EventEnvelope} (named : isEventName event.name = true) :
    emitted service (actions ++ [.emit emitter event]) =
      emitted service actions ++ if emitter = service then [event] else [] := by
  by_cases own : emitter = service
  · simp [emitted, own, named]
  · simp [emitted, own]

theorem emitted_named {service : S} {actions : List (Action S)} {event : EventEnvelope}
    (member : event ∈ emitted service actions) : isEventName event.name = true := by
  obtain ⟨action, _, chosen⟩ := List.mem_filterMap.mp member
  cases action with
  | emit emitter sent =>
    simp only [Option.ite_none_right_eq_some, Option.some.injEq] at chosen
    obtain ⟨⟨_, named⟩, rfl⟩ := chosen
    exact named
  | onCommit id => cases chosen

theorem Pending.Holds.start : Pending.Holds (S := S) [] .start where
  events := fun _ => rfl
  once := List.nodup_nil
  waiting := by
    intro service
    constructor
    · intro member
      cases member
    · intro emitted
      exact absurd rfl emitted
  others := rfl

theorem Pending.Holds.emit {actions : List (Action S)} {pending : Pending S}
    (holds : pending.Holds actions) (emitter : S) {event : EventEnvelope}
    (named : isEventName event.name = true) :
    (Pending.mk (if pending.events emitter = [] then pending.callbacks ++ [.publishPending emitter]
        else pending.callbacks)
      (Function.update pending.events emitter (pending.events emitter ++ [event]))).Holds
        (actions ++ [.emit emitter event]) := by
  have known := holds.waiting emitter
  have services : (if pending.events emitter = [] then
        pending.callbacks ++ [.publishPending emitter] else pending.callbacks).filterMap
          Callback.service? =
      pending.callbacks.filterMap Callback.service? ++
        if pending.events emitter = [] then [emitter] else [] := by
    by_cases first : pending.events emitter = []
    · simp [first, Callback.service?]
    · simp [first]
  constructor
  · intro service
    rw [emitted_append_emit service emitter actions named, ← holds.events service]
    by_cases own : emitter = service
    · subst own
      simp
    · have other : service ≠ emitter := fun same => own same.symm
      simp [own, other]
  · simp only [services]
    by_cases first : pending.events emitter = []
    · rw [if_pos first]
      refine List.nodup_append.mpr ⟨holds.once, List.nodup_singleton _, ?_⟩
      intro left member right only same
      rw [same, List.mem_singleton.mp only] at member
      exact known.mp member first
    · rw [if_neg first, List.append_nil]
      exact holds.once
  · intro service
    simp only [services, List.mem_append, holds.waiting service]
    by_cases own : service = emitter
    · subst own
      by_cases first : pending.events service = []
      · simp [first]
      · simp [first]
    · by_cases first : pending.events emitter = []
      · simp [first, own]
      · simp [first, own]
  · have others : (if pending.events emitter = [] then
        pending.callbacks ++ [.publishPending emitter] else pending.callbacks).filterMap
          Callback.other? = pending.callbacks.filterMap Callback.other? := by
      by_cases first : pending.events emitter = []
      · simp [first, Callback.other?]
      · simp [first]
    simp only [others, holds.others]
    simp [registered]

theorem Pending.Holds.act {actions : List (Action S)} {pending : Pending S}
    (holds : pending.Holds actions) (action : Action S) :
    (pending.act action).Holds (actions ++ [action]) := by
  cases action with
  | onCommit id =>
    constructor
    · intro service
      simpa [Pending.act, emitted] using holds.events service
    · have services : (pending.act (.onCommit id)).callbacks.filterMap Callback.service? =
          pending.callbacks.filterMap Callback.service? := by
        simp [Pending.act, Callback.service?]
      rw [services]
      exact holds.once
    · intro service
      simpa [Pending.act, Callback.service?] using holds.waiting service
    · simpa [Pending.act, registered, Callback.other?] using holds.others
  | emit emitter event =>
    by_cases named : isEventName event.name = true
    · have acted : pending.act (.emit emitter event) =
          ⟨if pending.events emitter = [] then pending.callbacks ++ [.publishPending emitter]
            else pending.callbacks,
          Function.update pending.events emitter (pending.events emitter ++ [event])⟩ := by
        simp [Pending.act, Pending.emit, named]
      rw [acted]
      exact holds.emit emitter named
    · have acted : pending.act (.emit emitter event) = pending := by
        simp [Pending.act, Pending.emit, named]
      rw [acted]
      constructor
      · intro service
        simpa [emitted, named] using holds.events service
      · exact holds.once
      · exact holds.waiting
      · simpa [registered] using holds.others

theorem Pending.holds (actions : List (Action S)) :
    (actions.foldl Pending.act Pending.start).Holds actions := by
  induction actions using List.reverseRecOn with
  | nil => exact .start
  | append_singleton actions action hypothesis =>
    rw [List.foldl_append]
    exact hypothesis.act action

/-! ## What the callbacks do -/

/-- The entries of one callback, whatever it raises. -/
def Callback.entries (bus : S → EventBus S) (events : S → List EventEnvelope) :
    Callback S → List (Entry S)
  | .publishPending service => (events service).flatMap (publication (bus service) service)
  | .other id => [.ran id]

omit [DecidableEq S] in
theorem publishPending_run {bus : EventBus S} (environment : Environment S)
    (bound : bus.enqueue.isSome = true) (service : S) {events : List EventEnvelope}
    (named : ∀ event ∈ events, isEventName event.name = true) (log : List (Entry S)) :
    Effects.quietly (publishPending bus environment service events) log =
      (.ok (), log ++ events.flatMap (publication bus service)) := by
  have runs := all_run events
    (fun event member => publish_run environment bound service (named event member)) log
  unfold Effects.quietly publishPending
  rw [runs]

theorem entries_update (bus : S → EventBus S) (events : S → List EventEnvelope) (service : S)
    {callbacks : List (Callback S)}
    (later : service ∉ callbacks.filterMap Callback.service?) :
    callbacks.flatMap (Callback.entries bus (Function.update events service [])) =
      callbacks.flatMap (Callback.entries bus events) := by
  refine List.flatMap_congr ?_
  intro callback member
  cases callback with
  | other id => rfl
  | publishPending other =>
    have different : other ≠ service := by
      rintro rfl
      exact later (List.mem_filterMap.mpr ⟨_, member, rfl⟩)
    simp [Callback.entries, different]

theorem runCallbacks_run (bus : S → EventBus S) (environment : Environment S)
    (bound : ∀ service, (bus service).enqueue.isSome = true) (callbacks : List (Callback S))
    (events : S → List EventEnvelope)
    (once : (callbacks.filterMap Callback.service?).Nodup)
    (named : ∀ service, ∀ event ∈ events service, isEventName event.name = true)
    (log : List (Entry S)) :
    runCallbacks bus environment callbacks events log =
      (.ok (), log ++ callbacks.flatMap (Callback.entries bus events)) := by
  induction callbacks generalizing events log with
  | nil => simp [runCallbacks, Effects.done]
  | cons callback rest hypothesis =>
    cases callback with
    | other id =>
      have later := hypothesis events once named (log ++ [.ran id])
      rw [runCallbacks, Effects.andThen, quietly_call]
      simp only
      rw [later, List.flatMap_cons, Callback.entries, List.append_assoc]
    | publishPending service =>
      obtain ⟨away, onceLater⟩ := List.nodup_cons.mp once
      have namedLater : ∀ other,
          ∀ event ∈ Function.update events service [] other,
            isEventName event.name = true := by
        intro other event member
        by_cases own : other = service
        · subst own
          simp at member
        · rw [Function.update_of_ne own] at member
          exact named other event member
      have later := hypothesis (Function.update events service []) onceLater namedLater
        (log ++ (events service).flatMap (publication (bus service) service))
      rw [runCallbacks, Effects.andThen,
        publishPending_run environment (bound service) service (named service)]
      simp only
      rw [later, entries_update bus events service away, List.flatMap_cons, Callback.entries,
        List.append_assoc]

/-! ## What is observed of them -/

/-- The event this entry publishes for the service. -/
def publishedBy (service : S) : Entry S → Option EventEnvelope
  | .published publisher event => if publisher = service then some event else none
  | _ => none

/-- The event of the service this entry hands to the subscriber, in its own way. -/
def servedTo (service : S) (subscription : Subscription) : Entry S → Option EventEnvelope
  | .enqueued publisher handlerId event =>
    if publisher = service ∧ handlerId = subscription.handlerId ∧ subscription.reliable = true
    then some event else none
  | .called publisher handlerId event =>
    if publisher = service ∧ handlerId = subscription.handlerId ∧ subscription.reliable = false
    then some event else none
  | _ => none

def ranOther : Entry S → Option Nat
  | .ran id => some id
  | _ => none

theorem observe_entries {bus : S → EventBus S} (events : S → List EventEnvelope) {service : S}
    {observe : Entry S → Option EventEnvelope}
    {seen : EventEnvelope → List EventEnvelope}
    (own : ∀ event, (publication (bus service) service event).filterMap observe = seen event)
    (foreign : ∀ other, other ≠ service → ∀ event,
      (publication (bus other) other event).filterMap observe = [])
    (ran : ∀ id, observe (.ran id) = none) (callbacks : List (Callback S))
    (once : (callbacks.filterMap Callback.service?).Nodup) :
    (callbacks.flatMap (Callback.entries bus events)).filterMap observe =
      if service ∈ callbacks.filterMap Callback.service? then (events service).flatMap seen
      else [] := by
  induction callbacks with
  | nil => rfl
  | cons callback rest hypothesis =>
    cases callback with
    | other id =>
      rw [List.flatMap_cons, List.filterMap_append, hypothesis once]
      simp [Callback.entries, Callback.service?, ran]
    | publishPending publisher =>
      obtain ⟨away, onceLater⟩ := List.nodup_cons.mp once
      rw [List.flatMap_cons, List.filterMap_append, hypothesis onceLater, Callback.entries,
        List.filterMap_flatMap]
      by_cases self : publisher = service
      · subst self
        have gone : publisher ∉ rest.filterMap Callback.service? := away
        simp [own, gone, Callback.service?]
      · have nothing : (events publisher).flatMap (fun event =>
            (publication (bus publisher) publisher event).filterMap observe) = [] := by
          rw [List.flatMap_eq_nil_iff]
          intro event _
          exact foreign publisher self event
        have other : service ≠ publisher := fun same => self same.symm
        simp [nothing, Callback.service?, other]

theorem published_publication (bus : S → EventBus S) (service other : S) (event : EventEnvelope) :
    (publication (bus other) other event).filterMap (publishedBy service) =
      if other = service then [event] else [] := by
  have served : ((subscriptionsFor (bus other) event.name).map
      (Subscription.entry other event)).filterMap (publishedBy service) = [] := by
    rw [List.filterMap_eq_nil_iff]
    intro entry member
    obtain ⟨subscription, _, rfl⟩ := List.mem_map.mp member
    unfold Subscription.entry
    split <;> rfl
  rw [publication, List.filterMap_cons, served]
  by_cases self : other = service
  · simp [publishedBy, self]
  · simp [publishedBy, self]

theorem servedTo_own (service : S) (subscription : Subscription) (event : EventEnvelope) :
    servedTo service subscription (subscription.entry service event) = some event := by
  cases reliable : subscription.reliable with
  | true => simp [Subscription.entry, servedTo, reliable]
  | false => simp [Subscription.entry, servedTo, reliable]

theorem servedTo_others (service : S) (subscription : Subscription) (event : EventEnvelope)
    (others : List Subscription)
    (different : ∀ other ∈ others, other.handlerId ≠ subscription.handlerId) :
    (others.map (Subscription.entry service event)).filterMap (servedTo service subscription) =
      [] := by
  rw [List.filterMap_eq_nil_iff]
  intro entry member
  obtain ⟨other, there, rfl⟩ := List.mem_map.mp member
  have apart := different other there
  cases reliable : other.reliable with
  | true => simp [Subscription.entry, servedTo, reliable, apart]
  | false => simp [Subscription.entry, servedTo, reliable, apart]

/-- A subscriber is served once if its pattern matches; the other subscribers have
other ids. -/
theorem served_publication {bus : S → EventBus S} {service : S} {subscription : Subscription}
    (member : subscription ∈ (bus service).subscriptions) (event : EventEnvelope) :
    (publication (bus service) service event).filterMap (servedTo service subscription) =
      if patternMatches subscription.pattern event.name then [event] else [] := by
  obtain ⟨before, after, split⟩ := List.append_of_mem member
  have distinct := (bus service).distinct
  rw [split, List.map_append, List.map_cons, List.nodup_middle, List.nodup_cons] at distinct
  have apart : ∀ other ∈ before ++ after, other.handlerId ≠ subscription.handlerId := by
    intro other there same
    rw [← List.map_append, ← same] at distinct
    exact distinct.1 (List.mem_map_of_mem there)
  have quietBefore := servedTo_others service subscription event
    (before.filter fun other => patternMatches other.pattern event.name)
    fun other there => apart other (List.mem_append_left _ (List.mem_of_mem_filter there))
  have quietAfter := servedTo_others service subscription event
    (after.filter fun other => patternMatches other.pattern event.name)
    fun other there => apart other (List.mem_append_right _ (List.mem_of_mem_filter there))
  rw [publication, subscriptionsFor, split, List.filter_append, List.map_append,
    List.filterMap_cons_none rfl, List.filterMap_append, quietBefore, List.nil_append,
    List.filter_cons]
  by_cases fits : patternMatches subscription.pattern event.name = true
  · rw [if_pos fits, if_pos fits, List.map_cons,
      List.filterMap_cons_some (servedTo_own service subscription event), quietAfter]
  · rw [if_neg fits, if_neg fits, quietAfter]

theorem served_foreign {bus : S → EventBus S} {service other : S} (different : other ≠ service)
    (subscription : Subscription) (event : EventEnvelope) :
    (publication (bus other) other event).filterMap (servedTo service subscription) = [] := by
  rw [List.filterMap_eq_nil_iff]
  intro entry member
  rcases List.mem_cons.mp member with rfl | served
  · rfl
  · obtain ⟨server, _, rfl⟩ := List.mem_map.mp served
    unfold Subscription.entry
    cases server.reliable with
    | true => simp [servedTo, different]
    | false => simp [servedTo, different]

omit [DecidableEq S] in
theorem ran_entries (bus : S → EventBus S) (events : S → List EventEnvelope)
    (callbacks : List (Callback S)) :
    (callbacks.flatMap (Callback.entries bus events)).filterMap ranOther =
      callbacks.filterMap Callback.other? := by
  have quiet : ∀ service event, (publication (bus service) service event).filterMap ranOther =
      [] := by
    intro service event
    rw [List.filterMap_eq_nil_iff]
    intro entry member
    rcases List.mem_cons.mp member with rfl | served
    · rfl
    · obtain ⟨server, _, rfl⟩ := List.mem_map.mp served
      unfold Subscription.entry
      cases server.reliable with
      | true => rfl
      | false => rfl
  induction callbacks with
  | nil => rfl
  | cons callback rest hypothesis =>
    rw [List.flatMap_cons, List.filterMap_append, hypothesis]
    cases callback with
    | other id => rfl
    | publishPending service =>
      rw [Callback.entries, List.filterMap_flatMap,
        List.flatMap_eq_nil_iff.mpr (fun event _ => quiet service event)]
      rfl

/-! ## The block as a whole -/

/-- Every event of every service is published in the order of its emission, every
subscriber is handed the events its pattern matches, and every other callback runs. -/
structure Served (bus : S → EventBus S) (actions : List (Action S)) (log : List (Entry S)) :
    Prop where
  published : ∀ service, log.filterMap (publishedBy service) = emitted service actions
  served : ∀ service, ∀ subscription ∈ (bus service).subscriptions,
    log.filterMap (servedTo service subscription) =
      (emitted service actions).filter fun event => patternMatches subscription.pattern event.name
  ran : log.filterMap ranOther = registered actions

theorem Pending.Holds.served {actions : List (Action S)} {pending : Pending S}
    (holds : pending.Holds actions) (bus : S → EventBus S) :
    Served bus actions (pending.callbacks.flatMap (Callback.entries bus pending.events)) := by
  -- a service without a callback has nothing to publish
  have observed : ∀ (service : S) (observe : Entry S → Option EventEnvelope)
      (seen : EventEnvelope → List EventEnvelope),
      (∀ event, (publication (bus service) service event).filterMap observe = seen event) →
      (∀ other, other ≠ service → ∀ event,
        (publication (bus other) other event).filterMap observe = []) →
      (∀ id, observe (.ran id) = none) →
      (pending.callbacks.flatMap (Callback.entries bus pending.events)).filterMap observe =
        (emitted service actions).flatMap seen := by
    intro service observe seen own foreign ran
    rw [observe_entries pending.events own foreign ran pending.callbacks holds.once,
      ← holds.events service]
    by_cases waiting : service ∈ pending.callbacks.filterMap Callback.service?
    · rw [if_pos waiting]
    · have nothing : pending.events service = [] := by
        by_contra some
        exact waiting ((holds.waiting service).mpr some)
      rw [if_neg waiting, nothing, List.flatMap_nil]
  constructor
  · intro service
    have all := observed service (publishedBy service) (fun event => [event])
      (fun event => by rw [published_publication, if_pos rfl])
      (fun other different event => by rw [published_publication, if_neg different])
      (fun id => rfl)
    rw [all, List.flatMap_singleton']
  · intro service subscription member
    have all := observed service (servedTo service subscription)
      (fun event => if patternMatches subscription.pattern event.name then [event] else [])
      (served_publication member)
      (fun other different event => served_foreign different subscription event)
      (fun id => rfl)
    rw [all]
    induction emitted service actions with
    | nil => rfl
    | cons event rest hypothesis =>
      rw [List.flatMap_cons, hypothesis, List.filter_cons]
      split <;> rfl
  · rw [ran_entries, holds.others]

/-- Nothing is published unless the commit succeeds; after it everything is,
whatever the subscribers, the queue and the callbacks raise. -/
theorem events_are_published_on_commit (bus : S → EventBus S) (environment : Environment S)
    (session : Session) (actions : List (Action S)) (raised : Option Exc)
    (bound : ∀ service, (bus service).enqueue.isSome = true) :
    (raised.isSome = true ∨ session.commit ≠ .ok () →
      ∃ error, unitOfWork bus environment session actions raised = (.error error, [])) ∧
    (raised = none → session.commit = .ok () → session.close = .ok () →
      ∃ log, unitOfWork bus environment session actions raised = (.ok (), .committed :: log) ∧
        Served bus actions log) := by
  constructor
  · intro failing
    cases raised with
    | some error => exact ⟨_, rfl⟩
    | none =>
      cases committed : session.commit with
      | error failure =>
        refine ⟨session.raising failure, ?_⟩
        simp [unitOfWork, aexit, committed, Effects.raise]
      | ok done =>
        rcases failing with impossible | refused
        · cases impossible
        · exact absurd committed refused
  · rintro rfl committed closed
    have holds := Pending.holds actions
    have named : ∀ service,
        ∀ event ∈ (actions.foldl Pending.act Pending.start).events service,
          isEventName event.name = true := by
      intro service event member
      rw [holds.events service] at member
      exact emitted_named member
    refine ⟨_, ?_, holds.served bus⟩
    have runs := runCallbacks_run bus environment bound _ _ holds.once named [.committed]
    simp only [unitOfWork, aexit, committed, Effects.andThen, Effects.call, closed,
      List.nil_append]
    rw [runs, List.singleton_append]

namespace Sample

def envelope (eventId : Python.Uuid) (name : String) : EventEnvelope where
  eventId := eventId
  name := name
  version := 1
  occurredAt := ⟨2026, 1, 1, 0, by decide⟩
  tenantId := none
  actor := ⟨.system, none⟩
  payload := []

/-- Every call raises. -/
def hostile : Environment Bool where
  handler := fun _ _ _ => .error .valueError
  callback := fun _ _ => .error .typeError

/-- An in-process subscriber beside a reliable one whose queue is down. -/
def auditedBus : EventBus Bool where
  subscriptions := [⟨"*", "audit", true⟩, ⟨"billing.payment.*", "probe", false⟩]
  enqueue := some fun _ _ _ => .error (.unexpected "ConnectionError")
  distinct := by decide

def calmSession : Session := ⟨.ok (), .ok (), .ok ()⟩

def twoServices : List (Action Bool) :=
  [.emit true (envelope 1 "billing.payment.created"), .onCommit 7,
    .emit false (envelope 2 "commerce.order.created"),
    .emit true (envelope 3 "billing.payment.succeeded")]

/-- Two services emit three events; every call fails and every event is served. -/
theorem hostile_commit_serves_everything :
    (emitted true twoServices).map EventEnvelope.eventId = [1, 3] ∧
      ∃ log, unitOfWork (fun _ => auditedBus) hostile calmSession twoServices none =
        (.ok (), .committed :: log) ∧ Served (fun _ => auditedBus) twoServices log :=
  ⟨by decide +kernel,
    (events_are_published_on_commit (fun _ => auditedBus) hostile calmSession twoServices none
      (fun _ => rfl)).2 rfl rfl rfl⟩

end Sample

end BackendCore.Events
