import BackendCore.Lib.Outline
import BackendCore.Commerce.Orders

/-!
# The order subscribers at the same time

The statements the subscribers send for the order row: a plain `SELECT`, then an
`UPDATE` of the row by its key that sets the changed columns.  Nothing locks the
row in between.  A cancellation that has read the order as pending overwrites a
payment that was committed meanwhile; as long as none is, a paid order stays
paid.
-/

set_option autoImplicit false

namespace BackendCore.Commerce

open BackendCore.Python BackendCore.ReadCommitted
open BackendCore.Billing (PaymentPayload)

/-! ## Statements -/

/-- A transaction on the orders; it answers with the events it emits. -/
abbrev OrderProg := Prog Order.id Exc (List Event)

def orderClause (tenantId orderId : Uuid) (order : Order) : Bool :=
  order.tenantId = tenantId && order.id = orderId

/-- The flush of a changed row, and the end of the transaction. -/
def written (events : List Event) : Reply → OrderProg
  | .done => .ret events
  | .conflict => .raise .integrityError
  | .missing => .raise (.unexpected "StaleDataError")

/-- `mark_paid` after its read. -/
def markPaidRead (tenantId : Uuid) (paymentId : Option Uuid) (late : Bool) :
    Option Order → OrderProg
  | none => .ret []
  | some order =>
    if order.status = .paid then .ret []
    else if decide (order.status = .canceled) &&
        !(late && paymentId.isSome && order.paymentId = paymentId) then .ret []
    else
      .write order.id (fun row => paidRow row paymentId) (fun _ => rfl)
        (written [⟨tenantId, .orderPaid order.id paymentId (order.status = .canceled)⟩])

def markPaidProg (tenantId orderId : Uuid) (paymentId : Option Uuid) (late : Bool) : OrderProg :=
  .select (orderClause tenantId orderId) fun rows => markPaidRead tenantId paymentId late rows.head?

/-- `cancel` of an order it has read as pending. -/
def cancelWrite (tenantId : Uuid) (reason : String) (order : Order) : OrderProg :=
  .write order.id canceledRow (fun _ => rfl)
    (written [⟨tenantId, .orderCanceled order.id reason⟩])

def cancelRead (tenantId : Uuid) (reason : String) : Option Order → OrderProg
  | none => .ret []
  | some order =>
    if order.status = .paid || order.status = .canceled then .ret []
    else cancelWrite tenantId reason order

def cancelProg (tenantId orderId : Uuid) (reason : String) : OrderProg :=
  .select (orderClause tenantId orderId) fun rows => cancelRead tenantId reason rows.head?

/-- The part the subscribers share: the order id of the event, if it has one. -/
def withOrder (payment : PaymentPayload) (body : Uuid → OrderProg) : OrderProg :=
  match isOrderPayment payment with
  | none => .ret []
  | some reference =>
    match Uuid.ofStr? reference with
    | none => .raise .valueError
    | some orderId => body orderId

def handleProg (event : Billing.Event) : OrderProg :=
  match event.payload with
  | .paymentSucceeded payment _ late =>
    withOrder payment fun orderId =>
      markPaidProg event.tenantId orderId (some payment.paymentId) late
  | .paymentFailed payment _ =>
    withOrder payment fun orderId => cancelProg event.tenantId orderId event.payload.name
  | .paymentCanceled payment =>
    withOrder payment fun orderId => cancelProg event.tenantId orderId event.payload.name
  | .paymentExpired payment =>
    withOrder payment fun orderId => cancelProg event.tenantId orderId event.payload.name
  | _ => .ret []

/-! ## What the subscribers keep -/

/-- The orders have no unique index beside their key. -/
abbrev orderIndexes : List (Order → Option Unit) := []

theorem fits_orders (table : Table Order.id) (order : Order) :
    fits orderIndexes table order = true := by
  refine fits_of_free ?_
  intro index indexed
  cases indexed

def IsPaid (table : Table Order.id) (orderId : Uuid) : Prop :=
  ∃ order, table.get orderId = some order ∧ order.status = .paid

def PaidStays (now later : Table Order.id) : Prop :=
  ∀ orderId, IsPaid now orderId → IsPaid later orderId

/-- The session has read the order as pending and is about to cancel it. -/
def AboutToCancel (phase : Phase Order.id Exc (List Event)) (orderId : Uuid) : Prop :=
  ∃ tenantId reason order, phase = .running (cancelWrite tenantId reason order) ∧
    order.id = orderId

def orderContract : Contract Order.id Exc (List Event) where
  invariant := fun _ => True
  guarantee := PaidStays
  assumes := fun phase now later => ∀ orderId, AboutToCancel phase orderId →
    IsPaid later orderId → IsPaid now orderId
  guarantee_refl := fun _ _ paid => paid
  guarantee_trans := fun _ _ _ first second orderId paid => second orderId (first orderId paid)
  assumes_refl := fun _ _ _ _ paid => paid
  assumes_trans := fun _ _ _ _ first second orderId about paid =>
    first orderId about (second orderId about paid)

theorem quiet_outline (events : List Event) (locks : List Uuid)
    (base : Base Order.id (List Event)) :
    (Prog.ret events : OrderProg).Outline orderContract orderIndexes [] locks base :=
  fun _ _ => ⟨trivial, fun _ paid => paid, fun _ _ => trivial, trivial⟩

theorem isPaid_store (table : Table Order.id) (order : Order) (orderId : Uuid) :
    IsPaid (overlay [.store order] table) orderId ↔
      if orderId = order.id then order.status = .paid else IsPaid table orderId := by
  have stored : (overlay [.store order] table).get orderId =
      if orderId = order.id then some order else table.get orderId := table.get_store order orderId
  unfold IsPaid
  rw [stored]
  by_cases same : orderId = order.id
  · simp [same]
  · simp [same]

theorem markPaidRead_outline (tenantId : Uuid) (paymentId : Option Uuid) (late : Bool)
    (found : Option Order) (base : Base Order.id (List Event)) :
    (markPaidRead tenantId paymentId late found).Outline orderContract orderIndexes [] [] base := by
  cases found with
  | none => exact quiet_outline _ _ _
  | some order =>
    simp only [markPaidRead]
    split
    · exact quiet_outline _ _ _
    split
    · exact quiet_outline _ _ _
    intro later _
    cases stored : (overlay [] later.table).get order.id with
    | none => trivial
    | some row =>
      simp only
      rw [if_pos (fits_orders _ _)]
      intro last _
      refine ⟨trivial, ?_, fun _ _ => trivial, trivial⟩
      intro orderId paid
      rw [List.nil_append, isPaid_store]
      by_cases same : orderId = (paidRow row paymentId).id
      · rw [if_pos same]
        rfl
      · rw [if_neg same]
        exact paid

/-- The cancellation of an order that is not paid, and that no one else makes paid
before the write; from then on the row is locked. -/
theorem cancelWrite_outline (tenantId : Uuid) (reason : String) (order : Order)
    (base : Base Order.id (List Event)) (unpaid : ¬IsPaid base.table order.id) :
    (cancelWrite tenantId reason order).Outline orderContract orderIndexes [] [] base := by
  intro later rely
  have still : ¬IsPaid later.table order.id := fun paid =>
    unpaid (rely.assumes order.id ⟨tenantId, reason, order, rfl, rfl⟩ paid)
  cases stored : (overlay [] later.table).get order.id with
  | none => trivial
  | some row =>
    simp only
    rw [if_pos (fits_orders _ _)]
    have key : row.id = order.id := Table.key_of_get stored
    intro last after
    refine ⟨trivial, ?_, fun _ _ => trivial, trivial⟩
    intro orderId paid
    rw [List.nil_append, isPaid_store]
    by_cases same : orderId = (canceledRow row).id
    · have kept := after.kept (canceledRow row).id List.mem_cons_self
      rw [same, IsPaid, kept] at paid
      change IsPaid later.table row.id at paid
      rw [key] at paid
      exact absurd paid still
    · rw [if_neg same]
      exact paid

theorem cancelRead_outline (tenantId : Uuid) (reason : String) (found : Option Order)
    (base : Base Order.id (List Event))
    (read : ∀ order, found = some order → base.table.get order.id = some order) :
    (cancelRead tenantId reason found).Outline orderContract orderIndexes [] [] base := by
  cases found with
  | none => exact quiet_outline _ _ _
  | some order =>
    simp only [cancelRead]
    split
    · exact quiet_outline _ _ _
    · rename_i unfinished
      refine cancelWrite_outline tenantId reason order base ?_
      rintro ⟨other, stored, paid⟩
      rw [read order rfl] at stored
      cases stored
      simp [paid] at unfinished

theorem cancelProg_outline (tenantId orderId : Uuid) (reason : String)
    (base : Base Order.id (List Event)) :
    (cancelProg tenantId orderId reason).Outline orderContract orderIndexes [] [] base := by
  intro later _
  refine cancelRead_outline tenantId reason _ later ?_
  intro order first
  have member := List.mem_of_mem_head? first
  exact later.table.get_of_mem order ((Table.mem_select _ _ _).mp member).1

theorem withOrder_outline (payment : PaymentPayload) {body : Uuid → OrderProg}
    {base : Base Order.id (List Event)}
    (outline : ∀ orderId, (body orderId).Outline orderContract orderIndexes [] [] base) :
    (withOrder payment body).Outline orderContract orderIndexes [] [] base := by
  unfold withOrder
  split
  · exact quiet_outline _ _ _
  split
  · trivial
  · exact outline _

theorem handleProg_outline (event : Billing.Event) (base : Base Order.id (List Event)) :
    (handleProg event).Outline orderContract orderIndexes [] [] base := by
  unfold handleProg
  split
  · exact withOrder_outline _ fun _ _ _ => markPaidRead_outline _ _ _ _ _
  · exact withOrder_outline _ fun _ => cancelProg_outline _ _ _ _
  · exact withOrder_outline _ fun _ => cancelProg_outline _ _ _ _
  · exact withOrder_outline _ fun _ => cancelProg_outline _ _ _ _
  · exact quiet_outline _ _ _

/-! ## Runs -/

section Runs

variable {Tid : Type} [DecidableEq Tid]

abbrev OrderWorld (Tid : Type) := World Tid Order.id Exc (List Event)

/-- The transaction does not commit an order as paid while another one is about to
cancel it. -/
def Undisturbed (world : OrderWorld Tid) (tid : Tid) (_ : OrderWorld Tid) : Prop :=
  ∀ events other orderId, other ≠ tid → (world.session tid).phase = .running (.ret events) →
    AboutToCancel (world.session other).phase orderId → IsPaid (world.view tid) orderId →
      IsPaid world.table orderId

/-- In every run in which no payment is committed between the read and the write of
a cancellation, a paid order stays paid. -/
theorem paid_order_stays_paid (events : Tid → Billing.Event) (table : Table Order.id)
    (middle last : OrderWorld Tid × List (List Event))
    (before : World.LogRun orderIndexes True Undisturbed
      (World.start table fun tid => handleProg (events tid), []) middle)
    (after : World.LogRun orderIndexes True Undisturbed middle last) :
    PaidStays middle.1.table last.1.table := by
  have assumed : ∀ (world : OrderWorld Tid) tid next,
      World.Step orderIndexes True world tid next → Undisturbed world tid next →
        ∀ other, other ≠ tid →
          orderContract.assumes (world.session other).phase world.table next.table := by
    intro world tid next step undisturbed other different orderId about paid
    cases step with
    | statement statement ready => exact paid
    | fail error raised => exact paid
    | abort allowed working => exact paid
    | commit events done => exact undisturbed events other orderId different done about paid
  have start : Upholds orderContract orderIndexes
      (World.start table fun tid => handleProg (events tid), []) :=
    upholds_start table _ (fun index indexed => nomatch indexed) trivial
      fun tid => handleProg_outline _ _
  obtain ⟨upholds, _⟩ := start.run before assumed
  exact (upholds.run after assumed).2.1

end Runs

namespace Sample

open BackendCore.Billing.Sample (tenant)

/-- The expiry of the tea's checkout against its late success. -/
def teaEvents : Bool → Billing.Event := fun success => if success then teaSucceeded else teaExpired

def teaProgs : Bool → OrderProg := fun success =>
  if success then markPaidProg tenant 11 (some 7) true
  else cancelProg tenant 11 "billing.payment.expired"

theorem handleProg_tea : (fun tid => handleProg (teaEvents tid)) = teaProgs := by
  have pays : Pays (Billing.paymentEventPayload teaPayment) 11 := ⟨rfl, rfl⟩
  funext success
  cases success with
  | true =>
    change handleProg teaSucceeded = markPaidProg tenant 11 (some 7) true
    simp only [handleProg, teaSucceeded, Billing.Payment.toldSuccess, withOrder,
      pays.isOrderPayment, Uuid.ofStr?_toStr]
    rfl
  | false =>
    change handleProg teaExpired = cancelProg tenant 11 "billing.payment.expired"
    simp only [handleProg, teaExpired, Billing.Payment.toldClosing, Billing.Closing.payload,
      withOrder, pays.isOrderPayment, Uuid.ofStr?_toStr]
    rfl

def teaOrder : Order := ⟨11, tenant, buyer, .pending, 500, "UZS", some 7⟩

def teaTable : Table Order.id := Table.empty.insert teaOrder rfl

def teaStart : OrderWorld Bool := World.start teaTable teaProgs

/-- The success reads, writes and commits; then the expiry reads a paid order. -/
theorem success_before_expiry :
    ∃ middle last,
      World.LogRun orderIndexes True Undisturbed
        (World.start teaTable fun tid => handleProg (teaEvents tid), []) middle ∧
      World.LogRun orderIndexes True Undisturbed middle last ∧
      middle.1.table.get 11 = some (paidRow teaOrder (some 7)) ∧
      PaidStays middle.1.table last.1.table := by
  rw [handleProg_tea]
  have pays : World.Along orderIndexes Undisturbed teaStart [true, true, true] := by
    refine ⟨?_, ?_, ?_, trivial⟩
    · intro events other orderId different done
      cases done
    · intro events other orderId different done
      cases done
    · rintro events other orderId different done ⟨_, _, _, about, _⟩
      cases other with
      | true => exact absurd rfl different
      | false => cases about
  have expires : World.Along orderIndexes Undisturbed
      (teaStart.follow orderIndexes [true, true, true]) [false, false] := by
    refine ⟨?_, ?_, trivial⟩
    · intro events other orderId different done
      cases done
    · rintro events other orderId different done ⟨_, _, _, about, _⟩
      cases other with
      | true => cases about
      | false => exact absurd rfl different
  have paid : ∃ log, World.LogRun orderIndexes True Undisturbed (teaStart, [])
      (teaStart.follow orderIndexes [true, true, true], log) := pays.logged []
  obtain ⟨log, before⟩ := paid
  have expired : ∃ more, World.LogRun orderIndexes True Undisturbed
      (teaStart.follow orderIndexes [true, true, true], log)
      ((teaStart.follow orderIndexes [true, true, true]).follow orderIndexes [false, false],
        more) := expires.logged log
  obtain ⟨more, after⟩ := expired
  refine ⟨_, _, before, after, rfl, ?_⟩
  refine paid_order_stays_paid teaEvents teaTable _ _ ?_ after
  rw [handleProg_tea]
  exact before

/-- The expiry reads, the success reads, writes and commits. -/
def teaPaid : OrderWorld Bool := teaStart.follow orderIndexes [false, true, true, true]

/-- Then the expiry writes and commits. -/
def teaLost : OrderWorld Bool := teaPaid.follow orderIndexes [false, false]

theorem expiry_overwrites_payment :
    World.Reaches orderIndexes True (World.start teaTable fun tid => handleProg (teaEvents tid))
        teaPaid ∧
      World.Reaches orderIndexes True teaPaid teaLost ∧
      teaPaid.table.get 11 = some (paidRow teaOrder (some 7)) ∧
      teaLost.table.get 11 = some (canceledRow (paidRow teaOrder (some 7))) := by
  rw [handleProg_tea]
  exact ⟨follow_reaches _ _, follow_reaches _ _, rfl, rfl⟩

end Sample

end BackendCore.Commerce
