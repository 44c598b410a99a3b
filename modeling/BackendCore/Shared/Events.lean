import BackendCore.Shared.Errors

/-!
# The event bus

`shared/events.py`: names, patterns and `EventBus.publish`.  A subscriber that is
not reliable is called in process, a reliable one is handed to `enqueue`; what
either of them raises is logged and goes no further.  What the calls do beside
being made, and whether they raise, is left open and may differ from call to
call.
-/

set_option autoImplicit false

namespace BackendCore.Events

open BackendCore.Python

/-! ## Names and patterns -/

/-- `[a-z][a-z0-9_]*`. -/
def isSegment : List Char → Bool
  | [] => false
  | first :: rest =>
    (97 ≤ first.toNat && first.toNat ≤ 122) &&
      rest.all fun c => (97 ≤ c.toNat && c.toNat ≤ 122) || (48 ≤ c.toNat && c.toNat ≤ 57) || c = '_'

/-- `EVENT_NAME_RE`; the dollar sign also matches before a final newline. -/
def isEventName (name : String) : Bool :=
  let chars := name.toList
  let body := if chars.getLast? = some (Char.ofNat 10) then chars.dropLast else chars
  match splitChars '.' body with
  | [module, entity, action] => isSegment module && isSegment entity && isSegment action
  | _ => false

def endsWithWildcard (pattern : String) : Bool := ['*', '.'].isPrefixOf pattern.toList.reverse

def patternMatches (pattern name : String) : Bool :=
  if pattern = "*" then true
  else if endsWithWildcard pattern then pattern.toList.dropLast.isPrefixOf name.toList
  else pattern = name

/-! ## The bus -/

inductive ActorKind where
  | user
  | system
  | integration

structure Actor where
  kind : ActorKind
  id : Option String

structure EventEnvelope where
  eventId : Uuid
  name : String
  version : Int
  occurredAt : DateTime
  tenantId : Option Uuid
  actor : Actor
  payload : List (String × Json)

/-- What happens around a commit, in order; `S` are the services. -/
inductive Entry (S : Type) where
  | committed
  | published (service : S) (event : EventEnvelope)
  | called (service : S) (handlerId : String) (event : EventEnvelope)
  | enqueued (service : S) (handlerId : String) (event : EventEnvelope)
  | ran (callback : Nat)

variable {S : Type}

/-- Code that may raise, with what it has done so far. -/
def Effects (S : Type) : Type := List (Entry S) → Except Exc Unit × List (Entry S)

namespace Effects

def done : Effects S := fun log => (.ok (), log)

def raise (error : Exc) : Effects S := fun log => (.error error, log)

/-- A call whose outcome depends on everything that happened before it. -/
def call (entry : Entry S) (outcome : List (Entry S) → Except Exc Unit) : Effects S :=
  fun log => (outcome log, log ++ [entry])

def andThen (first second : Effects S) : Effects S := fun log =>
  match first log with
  | (.ok _, after) => second after
  | (.error error, after) => (.error error, after)

/-- `try: ... except Exception: logger.exception(...)`. -/
def quietly (body : Effects S) : Effects S := fun log =>
  match body log with
  | (.ok _, after) => (.ok (), after)
  | (.error _, after) => (.ok (), after)

/-- A `for` loop: the first exception ends it. -/
def all : List (Effects S) → Effects S
  | [] => done
  | first :: rest => first.andThen (all rest)

end Effects

structure Subscription where
  pattern : String
  handlerId : String
  reliable : Bool

/-- `subscribe` refuses a second handler under one id. -/
structure EventBus (S : Type) where
  subscriptions : List Subscription
  enqueue : Option (String → EventEnvelope → List (Entry S) → Except Exc Unit)
  distinct : (subscriptions.map Subscription.handlerId).Nodup

/-- How calls of in-process handlers and of other callbacks end. -/
structure Environment (S : Type) where
  handler : String → EventEnvelope → List (Entry S) → Except Exc Unit
  callback : Nat → List (Entry S) → Except Exc Unit

def subscriptionsFor (bus : EventBus S) (name : String) : List Subscription :=
  bus.subscriptions.filter fun subscription => patternMatches subscription.pattern name

def deliver (environment : Environment S)
    (enqueue : String → EventEnvelope → List (Entry S) → Except Exc Unit) (service : S)
    (event : EventEnvelope) (subscription : Subscription) : Effects S :=
  if subscription.reliable then
    .quietly (.call (.enqueued service subscription.handlerId event)
      (enqueue subscription.handlerId event))
  else
    .quietly (.call (.called service subscription.handlerId event)
      (environment.handler subscription.handlerId event))

/-- `publish`, called by `service`. -/
def publish (bus : EventBus S) (environment : Environment S) (service : S)
    (event : EventEnvelope) : Effects S :=
  Effects.andThen (.call (.published service event) fun _ => .ok ())
    (if isEventName event.name = false then .raise .valueError
    else
      let matching := subscriptionsFor bus event.name
      match bus.enqueue with
      | some enqueue => .all (matching.map (deliver environment enqueue service event))
      | none =>
        if matching.any Subscription.reliable then .raise (.unexpected "RuntimeError")
        else .all (matching.map (deliver environment (fun _ _ _ => .ok ()) service event)))

/-! ## What a publication does -/

/-- The entry of serving a subscriber. -/
def Subscription.entry (service : S) (event : EventEnvelope) (subscription : Subscription) :
    Entry S :=
  if subscription.reliable then .enqueued service subscription.handlerId event
  else .called service subscription.handlerId event

/-- The entries of one publication, whatever its calls raise. -/
def publication (bus : EventBus S) (service : S) (event : EventEnvelope) : List (Entry S) :=
  .published service event ::
    (subscriptionsFor bus event.name).map (Subscription.entry service event)

theorem quietly_call (entry : Entry S) (outcome : List (Entry S) → Except Exc Unit)
    (log : List (Entry S)) :
    Effects.quietly (.call entry outcome) log = (.ok (), log ++ [entry]) := by
  unfold Effects.quietly Effects.call
  cases outcome log with
  | ok result => rfl
  | error raised => rfl

theorem deliver_run (environment : Environment S)
    (enqueue : String → EventEnvelope → List (Entry S) → Except Exc Unit) (service : S)
    (event : EventEnvelope) (subscription : Subscription) (log : List (Entry S)) :
    deliver environment enqueue service event subscription log =
      (.ok (), log ++ [subscription.entry service event]) := by
  unfold deliver Subscription.entry
  cases subscription.reliable with
  | true => exact quietly_call _ _ _
  | false => exact quietly_call _ _ _

theorem all_run {I : Type} {step : I → Effects S} {entries : I → List (Entry S)} (items : List I)
    (runs : ∀ item ∈ items, ∀ log, step item log = (.ok (), log ++ entries item))
    (log : List (Entry S)) :
    Effects.all (items.map step) log = (.ok (), log ++ items.flatMap entries) := by
  induction items generalizing log with
  | nil => simp [Effects.all, Effects.done]
  | cons item rest hypothesis =>
    have first := runs item List.mem_cons_self log
    have later := hypothesis (fun other member => runs other (List.mem_cons_of_mem _ member))
      (log ++ entries item)
    rw [List.map_cons, Effects.all, Effects.andThen, first]
    simp only
    rw [later, List.flatMap_cons, List.append_assoc]

theorem publish_run {bus : EventBus S} (environment : Environment S)
    (bound : bus.enqueue.isSome = true) (service : S) {event : EventEnvelope}
    (named : isEventName event.name = true) (log : List (Entry S)) :
    publish bus environment service event log = (.ok (), log ++ publication bus service event) := by
  obtain ⟨enqueue, there⟩ := Option.isSome_iff_exists.mp bound
  have served := all_run (subscriptionsFor bus event.name)
    (fun subscription _ => deliver_run environment enqueue service event subscription)
    (log ++ [.published service event])
  unfold publish Effects.andThen Effects.call
  simp only [named, there]
  rw [if_neg (by decide), served, publication, List.append_assoc, List.singleton_append,
    ← List.map_eq_flatMap]

end BackendCore.Events
