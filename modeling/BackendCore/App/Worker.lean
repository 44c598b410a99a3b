import Mathlib
import BackendCore.Lib.Outline
import BackendCore.Shared.Errors

/-!
# Reliable event delivery

`app/worker.py`: one delivery of an event to a handler is one transaction.  Its
first statement inserts the row of the handler and the event into
`processed_events`; when the row is there already the delivery ends, otherwise
the handler runs in the same transaction.  Deliveries of one event to one
handler may be repeated, run at the same time, fail and crash.  The rows of all
other tables are a parameter, and so is what the handler does with them.
-/

set_option autoImplicit false

namespace BackendCore.Worker

open BackendCore.Python BackendCore.ReadCommitted

variable {K R J Event Tid : Type} {key : R → K}

/-! ## Deliveries -/

inductive Key (K : Type) where
  | processed (handler : String) (eventId : Uuid)
  | other (k : K)
  deriving DecidableEq

/-- `ProcessedEvent`, or a row of another table. -/
inductive Row (R : Type) where
  | processed (handler : String) (eventId : Uuid)
  | other (row : R)

def rowKey (key : R → K) : Row R → Key K
  | .processed handler eventId => .processed handler eventId
  | .other row => .other (key row)

def Key.isOther : Key K → Prop
  | .processed _ _ => False
  | .other _ => True

/-- How a committed delivery ended; a handler's events are published after the
commit. -/
inductive Outcome (Event : Type) where
  | skipped
  | handled (events : List Event)

structure Receipt (Event : Type) where
  handler : String
  eventId : Uuid
  outcome : Outcome Event

/-- An event, a handler and what the handler does, which is not to touch
`processed_events`. -/
structure Delivery (key : R → K) (Event : Type) where
  handler : String
  eventId : Uuid
  body : Prog (rowKey key) Exc (List Event)
  confined : body.Confined Key.isOther fun _ => True

def runHandler (delivery : Delivery key Event) : Prog (rowKey key) Exc (Receipt Event) :=
  delivery.body.bind fun events => .ret ⟨delivery.handler, delivery.eventId, .handled events⟩

def dispatchEvent (delivery : Delivery key Event) : Prog (rowKey key) Exc (Receipt Event) :=
  .insert (.processed delivery.handler delivery.eventId) fun reply =>
    match reply with
    | .done => runHandler delivery
    | _ => .ret ⟨delivery.handler, delivery.eventId, .skipped⟩

/-! ## The log of committed deliveries -/

def Receipt.isHandled (handler : String) (eventId : Uuid) (receipt : Receipt Event) : Bool :=
  match receipt.outcome with
  | .skipped => false
  | .handled _ => receipt.handler = handler && receipt.eventId = eventId

def Handled (log : List (Receipt Event)) (handler : String) (eventId : Uuid) : Prop :=
  ∃ receipt ∈ log, receipt.isHandled handler eventId = true

theorem Handled.mono {log more : List (Receipt Event)} {handler : String} {eventId : Uuid}
    (handled : Handled log handler eventId) (grows : log <+: more) :
    Handled more handler eventId := by
  obtain ⟨receipt, member, same⟩ := handled
  exact ⟨receipt, grows.subset member, same⟩

theorem handled_append (log : List (Receipt Event)) (receipt : Receipt Event) (handler : String)
    (eventId : Uuid) : Handled (log ++ [receipt]) handler eventId ↔
      Handled log handler eventId ∨ receipt.isHandled handler eventId = true := by
  constructor
  · rintro ⟨other, member, same⟩
    rcases List.mem_append.mp member with earlier | last
    · exact Or.inl ⟨other, earlier, same⟩
    · rw [List.mem_singleton.mp last] at same
      exact Or.inr same
  · rintro (⟨other, member, same⟩ | same)
    · exact ⟨other, List.mem_append_left _ member, same⟩
    · exact ⟨receipt, List.mem_append_right _ List.mem_cons_self, same⟩

/-- At most one delivery of an event to a handler has run the handler. -/
def AtMostOnce (log : List (Receipt Event)) : Prop :=
  ∀ handler eventId, (log.filter (Receipt.isHandled handler eventId)).length ≤ 1

/-- A delivery is skipped only after one that ran the handler. -/
def SkipsAfter (log : List (Receipt Event)) : Prop :=
  ∀ before receipt after, log = before ++ receipt :: after → receipt.outcome = .skipped →
    Handled before receipt.handler receipt.eventId

theorem filter_eq_nil_of_not_handled {log : List (Receipt Event)} {handler : String}
    {eventId : Uuid} (fresh : ¬Handled log handler eventId) :
    log.filter (Receipt.isHandled handler eventId) = [] := by
  rw [List.filter_eq_nil_iff]
  intro receipt member same
  exact fresh ⟨receipt, member, same⟩

theorem SkipsAfter.append {log : List (Receipt Event)} (skips : SkipsAfter log)
    {receipt : Receipt Event}
    (last : receipt.outcome = .skipped → Handled log receipt.handler receipt.eventId) :
    SkipsAfter (log ++ [receipt]) := by
  intro before other after split skipped
  rcases List.eq_nil_or_concat after with rfl | ⟨rest, final, rfl⟩
  · obtain ⟨rfl, same⟩ := List.append_inj' split rfl
    cases same
    exact last skipped
  · rw [List.concat_eq_append, ← List.cons_append, ← List.append_assoc] at split
    obtain ⟨earlier, _⟩ := List.append_inj' split rfl
    exact skips before other rest earlier skipped

variable [DecidableEq K]

/-! ## The contract of the deliveries -/

/-- The rows of `processed_events` are those of the handlers that ran. -/
structure Recorded (base : Base (rowKey key) (Receipt Event)) : Prop where
  rows : ∀ handler eventId, (base.table.get (.processed handler eventId)).isSome = true ↔
    Handled base.log handler eventId
  once : AtMostOnce base.log
  skips : SkipsAfter base.log

def contract (key : R → K) (Event : Type) : Contract (rowKey key) Exc (Receipt Event) where
  invariant := Recorded
  effect := fun receipt table after => receipt.outcome = .skipped → after = table

/-- The handler runs: the row is the transaction's own, and no one else has committed it. -/
structure Claimed (handler : String) (eventId : Uuid) (changes : List (Change (Key K) (Row R)))
    (locks : List (Key K)) (base : Base (rowKey key) (Receipt Event)) : Prop where
  changes : ∃ rest, changes = .store (.processed handler eventId) :: rest ∧
    ∀ change ∈ rest, (change.on (rowKey key)).isOther
  held : Key.processed handler eventId ∈ locks
  absent : base.table.get (.processed handler eventId) = none

variable [DecidableEq J] {indexes : List (Row R → Option J)}

omit [DecidableEq J] in
theorem claimed_keeps (handler : String) (eventId : Uuid) :
    Keeps (contract key Event) indexes Key.isOther (Claimed handler eventId) where
  later := by
    intro phase changes locks base later claimed rely
    refine ⟨claimed.changes, claimed.held, ?_⟩
    rw [rely.kept _ claimed.held]
    exact claimed.absent
  locked := by
    intro k changes locks base claimed
    exact ⟨claimed.changes, List.mem_cons_of_mem _ claimed.held, claimed.absent⟩
  changed := by
    intro change changes locks base allowed claimed
    obtain ⟨rest, rfl, others⟩ := claimed.changes
    refine ⟨⟨rest ++ [change], rfl, ?_⟩, List.mem_cons_of_mem _ claimed.held, claimed.absent⟩
    intro other member
    rcases List.mem_append.mp member with earlier | last
    · exact others other earlier
    · rw [List.mem_singleton.mp last]
      exact allowed

/-- What the transaction leaves in `processed_events`. -/
theorem Claimed.get {handler : String} {eventId : Uuid} {changes : List (Change (Key K) (Row R))}
    {locks : List (Key K)} {base : Base (rowKey key) (Receipt Event)}
    (claimed : Claimed handler eventId changes locks base) (other : String) (id : Uuid) :
    (overlay changes base.table).get (.processed other id) =
      if Key.processed other id = (.processed handler eventId : Key K) then
        some (.processed handler eventId)
      else base.table.get (.processed other id) := by
  obtain ⟨rest, rfl, others⟩ := claimed.changes
  have untouched : Key.processed other id ∉ rest.map (Change.on (rowKey key)) := by
    intro touched
    obtain ⟨change, member, same⟩ := List.mem_map.mp touched
    have isOther := others change member
    rw [same] at isOther
    exact isOther
  change (overlay rest ((Change.store (.processed handler eventId)).apply base.table)).get _ = _
  rw [get_overlay_of_untouched _ _ untouched, get_apply]
  rfl

theorem Claimed.commits {handler : String} {eventId : Uuid}
    {changes : List (Change (Key K) (Row R))} {locks : List (Key K)}
    {base : Base (rowKey key) (Receipt Event)} (recorded : Recorded base)
    (claimed : Claimed handler eventId changes locks base) (events : List Event) :
    (contract key Event).Commits ⟨handler, eventId, .handled events⟩ changes locks base := by
  have fresh : ¬Handled base.log handler eventId := by
    intro handled
    have stored := (recorded.rows handler eventId).mpr handled
    rw [claimed.absent] at stored
    cases stored
  have own : ∀ other id, Receipt.isHandled other id
      (⟨handler, eventId, .handled events⟩ : Receipt Event) = true ↔
      Key.processed other id = (.processed handler eventId : Key K) := by
    intro other id
    simp only [Receipt.isHandled, Bool.and_eq_true, decide_eq_true_eq, Key.processed.injEq]
    exact and_congr eq_comm eq_comm
  refine ⟨⟨?_, ?_, ?_⟩, trivial, fun _ _ => trivial, fun skipped => nomatch skipped⟩
  · intro other id
    rw [claimed.get, handled_append, own]
    by_cases same : Key.processed other id = (.processed handler eventId : Key K)
    · rw [if_pos same]
      exact iff_of_true rfl (Or.inr same)
    · rw [if_neg same, recorded.rows]
      simp only [same, or_false]
  · intro other id
    rw [List.filter_append, List.length_append]
    by_cases same : Key.processed other id = (.processed handler eventId : Key K)
    · cases same
      rw [filter_eq_nil_of_not_handled fresh, List.length_nil, Nat.zero_add]
      exact List.length_filter_le _ _
    · have different : ¬Receipt.isHandled other id
          (⟨handler, eventId, .handled events⟩ : Receipt Event) = true :=
        fun handled => same ((own other id).mp handled)
      rw [List.filter_cons_of_neg different]
      exact recorded.once other id
  · exact recorded.skips.append fun skipped => nomatch skipped

theorem dispatchEvent_outline (unindexed : ∀ index ∈ indexes, ∀ handler eventId,
    index (.processed handler eventId) = none) (delivery : Delivery key Event)
    (base : Base (rowKey key) (Receipt Event)) :
    (dispatchEvent delivery).Outline (contract key Event) indexes [] [] base := by
  intro later rely
  have free : fits indexes later.table (.processed delivery.handler delivery.eventId) = true := by
    refine fits_of_free ?_
    intro index indexed
    exact Table.free_of_unindexed _ _ (unindexed index indexed _ _)
  split
  · rename_i fresh
    rw [Bool.and_eq_true, Option.isNone_iff_eq_none] at fresh
    have confined : (runHandler delivery).Confined Key.isOther fun receipt =>
        ∃ events, receipt = ⟨delivery.handler, delivery.eventId, .handled events⟩ :=
      delivery.confined.bind fun events _ => ⟨events, rfl⟩
    refine confined.outline (claimed_keeps delivery.handler delivery.eventId) (fun _ => trivial)
      ?_ _ _ later ⟨⟨[], rfl, ?_⟩, List.mem_cons_self, fresh.1⟩
    · rintro receipt changes locks base ⟨events, rfl⟩ recorded claimed
      exact claimed.commits recorded events
    · intro change member
      cases member
  · rename_i taken
    have stored :
        (later.table.get (.processed delivery.handler delivery.eventId)).isSome = true := by
      by_contra absent
      refine taken ?_
      rw [Bool.and_eq_true]
      exact ⟨Option.isNone_iff_eq_none.mpr (Option.not_isSome_iff_eq_none.mp absent), free⟩
    have handled := (rely.invariant.rows _ _).mp stored
    intro last after
    have earlier := handled.mono after.grows
    have recorded : Recorded last := after.invariant
    refine ⟨⟨?_, ?_, ?_⟩, trivial, fun _ _ => trivial, fun _ => rfl⟩
    · intro other id
      have different : ¬Receipt.isHandled other id
          (⟨delivery.handler, delivery.eventId, .skipped⟩ : Receipt Event) = true := by
        intro same
        cases same
      rw [handled_append, or_iff_left different]
      exact recorded.rows other id
    · intro other id
      have different : ¬Receipt.isHandled other id
          (⟨delivery.handler, delivery.eventId, .skipped⟩ : Receipt Event) = true := by
        intro same
        cases same
      rw [List.filter_append, List.filter_cons_of_neg different, List.filter_nil,
        List.append_nil]
      exact recorded.once other id
    · exact recorded.skips.append fun _ => earlier

/-! ## Exactly once -/

variable [DecidableEq Tid]

/-- What the states of all runs of the deliveries satisfy. -/
structure ExactlyOnce (indexes : List (Row R → Option J)) (deliveries : Tid → Delivery key Event)
    (now : World Tid (rowKey key) Exc (Receipt Event) × List (Receipt Event)) : Prop where
  /-- The handler's effects and events are committed at most once. -/
  once : AtMostOnce now.2
  /-- A delivery ends as a duplicate only after one that ran the handler. -/
  skips : SkipsAfter now.2
  /-- A committed delivery is in the log. -/
  logged : ∀ tid receipt, (now.1.session tid).phase = .committed receipt → receipt ∈ now.2
  /-- The row of an event is there exactly when its handler's transaction has committed. -/
  recorded : ∀ handler eventId,
    (now.1.table.get (.processed handler eventId)).isSome = true ↔ Handled now.2 handler eventId
  /-- Nothing but the commit of a delivery that ran its handler changes the database. -/
  effects : ∀ tid next, World.Step indexes True now.1 tid next → next.table ≠ now.1.table →
    ∃ receipt events, (next.session tid).phase = .committed receipt ∧
      receipt.outcome = .handled events
  /-- As long as no delivery has run the handler, the next one does. -/
  retries : ∀ tid, now.1.session tid = ⟨.running (dispatchEvent (deliveries tid)), [], []⟩ →
    ¬Handled now.2 (deliveries tid).handler (deliveries tid).eventId →
    ((now.1.session tid).advance indexes (now.1.view tid)).phase =
      .running (runHandler (deliveries tid))

theorem deliveries_take_effect_once (indexes : List (Row R → Option J))
    (unindexed : ∀ index ∈ indexes, ∀ handler eventId, index (.processed handler eventId) = none)
    (deliveries : Tid → Delivery key Event) (table : Table (rowKey key))
    (unique : ∀ index ∈ indexes, table.Unique index)
    (unprocessed : ∀ handler eventId, table.get (.processed handler eventId) = none)
    (now : World Tid (rowKey key) Exc (Receipt Event) × List (Receipt Event))
    (run : World.LogRun indexes True (fun _ _ _ => True)
      (World.start table (fun tid => dispatchEvent (deliveries tid)), []) now) :
    ExactlyOnce indexes deliveries now := by
  have start : Upholds (contract key Event) indexes
      (World.start table (fun tid => dispatchEvent (deliveries tid)), []) := by
    refine upholds_start table _ unique ⟨?_, ?_, ?_⟩ fun tid => dispatchEvent_outline unindexed _ _
    · intro handler eventId
      rw [unprocessed]
      refine iff_of_false (fun stored => nomatch stored) ?_
      rintro ⟨receipt, member, _⟩
      cases member
    · intro handler eventId
      exact Nat.zero_le 1
    · intro before receipt after split
      cases before <;> cases split
  obtain ⟨upholds, _⟩ := start.run run fun _ _ _ _ _ _ _ => trivial
  have recorded : Recorded ⟨now.1.table, now.2⟩ := upholds.invariant
  refine ⟨recorded.once, recorded.skips, ?_, recorded.rows, ?_, ?_⟩
  · intro tid receipt committed
    have outline := upholds.outline tid
    rw [Session.Outline, committed] at outline
    exact outline
  · intro tid next step changed
    have logged : World.Step indexes True now.1 tid
        (next, now.2 ++ (next.session tid).phase.answers).1 := step
    obtain ⟨_, _, ⟨_, same⟩ | ⟨receipt, committed, effect⟩⟩ :=
      upholds.step logged rfl fun _ _ => trivial
    · exact absurd same changed
    · cases ended : receipt.outcome with
      | skipped => exact absurd (effect ended) changed
      | handled events => exact ⟨receipt, events, committed, ended⟩
  · intro tid begins fresh
    have absent : now.1.table.get
        (.processed (deliveries tid).handler (deliveries tid).eventId) = none := by
      by_contra present
      exact fresh ((recorded.rows _ _).mp (Option.isSome_iff_ne_none.mpr present))
    have free : fits indexes now.1.table
        (.processed (deliveries tid).handler (deliveries tid).eventId) = true := by
      refine fits_of_free ?_
      intro index indexed
      exact Table.free_of_unindexed _ _ (unindexed index indexed _ _)
    have view : now.1.view tid = now.1.table := by
      rw [World.view, begins]
      rfl
    rw [begins, view]
    simp only [Session.advance, dispatchEvent, rowKey, absent, free, Option.isNone_none,
      Bool.and_true, if_true]
    rfl

namespace Sample

/-- A handler that inserts one row and emits one event. -/
def delivery : Delivery (id : Nat → Nat) String where
  handler := "audit"
  eventId := 1
  body := .insert (.other 7) fun _ => .ret ["audit.entry.written"]
  confined := ⟨trivial, fun _ => trivial⟩

/-- Two deliveries of the same event. -/
def deliveries : Bool → Delivery (id : Nat → Nat) String := fun _ => delivery

/-- The second delivery waits for the first one and is skipped. -/
def finished : World Bool (rowKey (id : Nat → Nat)) Exc (Receipt String) :=
  (World.start Table.empty (fun tid => dispatchEvent (deliveries tid))).follow
    ([] : List (Row Nat → Option Nat)) [true, false, true, true, false, false]

theorem second_delivery_is_skipped :
    (finished.session true).phase = .committed ⟨"audit", 1, .handled ["audit.entry.written"]⟩ ∧
      (finished.session false).phase = .committed ⟨"audit", 1, .skipped⟩ ∧
      ∃ log, ExactlyOnce ([] : List (Row Nat → Option Nat)) deliveries (finished, log) := by
  have reached : World.Reaches ([] : List (Row Nat → Option Nat)) True _ finished :=
    follow_reaches _ _
  obtain ⟨log, run⟩ := reached.logged []
  refine ⟨rfl, rfl, log, ?_⟩
  refine deliveries_take_effect_once ([] : List (Row Nat → Option Nat)) ?_ deliveries Table.empty
    ?_ (fun _ _ => rfl) (finished, log) run
  · intro index member
    cases member
  · intro index member
    cases member

end Sample

end BackendCore.Worker
