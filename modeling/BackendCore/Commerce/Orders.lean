import BackendCore.Billing.Adapters.Checkout
import BackendCore.Billing.PaymentLife
import BackendCore.Commerce.Models

/-!
# Orders

`OrderService` and its subscribers.  `place_order` prices the lines, writes the
order and opens its payment in one transaction; the subscribers follow the
events of that payment, which the worker delivers in any order and more than
once.
-/

set_option autoImplicit false

namespace BackendCore.Commerce

open BackendCore.Python
open BackendCore.Billing (Payment PaymentIntake PaymentPayload PaymentRequest Provider createPayment
  paymentDto paymentEventPayload newPayment openedRow)

/-! ## Placing an order -/

structure OrderLineIn where
  productId : Uuid
  quantity : Nat
  deriving DecidableEq

/-- The field bounds of `OrderLineIn`. -/
def OrderLineIn.make (productId : Uuid) (quantity : Nat) : Except Exc OrderLineIn :=
  if 1 ≤ quantity ∧ quantity ≤ 1000 then .ok ⟨productId, quantity⟩ else .error .valueError

structure PricedLine where
  productId : Uuid
  quantity : Nat
  unitPriceAmount : Nat
  currency : String
  deriving DecidableEq

/-- What one call gets from outside: fresh ids, the payment service's own intake,
the clock, and the flushes the database refuses. -/
structure OrderIntake where
  newOrderId : Uuid
  newItemId : Nat → Uuid
  payments : PaymentIntake
  clock : Billing.Clock
  refusal : FlushPoint → Option Exc

structure OrderCheckoutDTO where
  orderId : Uuid
  paymentId : Uuid
  provider : Provider
  checkoutUrl : String
  deriving DecidableEq

/-- The pricing loop of `place_order`, with its three accumulators. -/
def priceLines (runtime : Runtime) (tenantId : Uuid) :
    List OrderLineIn → String → List PricedLine → Nat → ShopTx (String × List PricedLine × Nat)
  | [], currency, priced, total => pure (currency, priced, total)
  | line :: rest, currency, priced, total => do
      let price ← getSaleInfo runtime tenantId line.productId
      Tx.require (currency = "" || currency = price.currency)
        (.invariantViolationError "order items must share one currency")
      priceLines runtime tenantId rest price.currency
        (priced ++ [⟨line.productId, line.quantity, price.amount, price.currency⟩])
        (total + price.amount * line.quantity)

def orderItem (intake : OrderIntake) (tenantId orderId : Uuid) (index : Nat) (line : PricedLine) :
    OrderItem where
  id := intake.newItemId index
  tenantId := tenantId
  orderId := orderId
  productId := line.productId
  quantity := line.quantity
  unitPriceAmount := line.unitPriceAmount
  currency := line.currency

def insertItems (intake : OrderIntake) (tenantId orderId : Uuid) :
    Nat → List PricedLine → ShopTx Unit
  | _, [] => pure ()
  | index, line :: rest => do
      flush intake.refusal (.item index)
      insertOrderItem (orderItem intake tenantId orderId index line)
      insertItems intake tenantId orderId (index + 1) rest

def orderKey (orderId : Uuid) : String := "order:" ++ Uuid.toStr orderId

/-- The payment `place_order` asks for. -/
def orderRequest (orderId : Uuid) (amount : Money) (provider : String) : PaymentRequest where
  amount := amount
  purpose := "commerce.order"
  reference := Uuid.toStr orderId
  provider := provider
  idempotencyKey := orderKey orderId
  returnUrl := none
  subscriptionId := none

/-- The second half of `place_order`, after the pricing. -/
def writeOrder (context : Context) (intake : OrderIntake) (provider : String) (customer : Uuid)
    (currency : String) (priced : List PricedLine) (total : Nat) : ShopTx OrderCheckoutDTO := do
  let order : Order :=
    ⟨intake.newOrderId, context.tenantId, customer, .pending, total, currency, none⟩
  flush intake.refusal .order
  insertOrder order
  insertItems intake context.tenantId order.id 0 priced
  emit context.tenantId (.orderCreated order.id customer total currency)
  let amount ← Tx.liftExcept (Money.make intake.payments.runtime.unicode total currency)
  flush intake.refusal .payment
  let checkout ← onBilling
    (createPayment context.tenantId intake.payments (orderRequest order.id amount provider)
      intake.clock)
  flush intake.refusal .link
  putOrder { order with paymentId := some checkout.paymentId }
  pure ⟨order.id, checkout.paymentId, checkout.provider, checkout.checkoutUrl⟩

def placeOrder (context : Context) (intake : OrderIntake) (lines : List OrderLineIn)
    (provider : String) : ShopTx OrderCheckoutDTO := do
  let customer ← Tx.liftExcept (customerId context)
  let (currency, priced, total) ←
    priceLines intake.payments.runtime context.tenantId lines "" [] 0
  Tx.require (currency ≠ "") (.invariantViolationError "order must contain at least one item")
  writeOrder context intake provider customer currency priced total

/-! ## What placing an order leaves -/

/-- A line at the current sale price. -/
structure Prices (shop : Shop) (tenantId : Uuid) (currency : String) (line : OrderLineIn)
    (priced : PricedLine) : Prop where
  product : priced.productId = line.productId
  quantity : priced.quantity = line.quantity
  sells : shop.SellsAt tenantId line.productId ⟨priced.unitPriceAmount, priced.currency⟩
  currency : priced.currency = currency

def totalOf (priced : List PricedLine) : Nat :=
  (priced.map fun line => line.unitPriceAmount * line.quantity).sum

theorem priceLines_ok {runtime : Runtime} {tenantId : Uuid} {lines : List OrderLineIn}
    {currency : String} {priced : List PricedLine} {total : Nat} {shop final : Shop}
    {last : String} {all : List PricedLine} {sum : Nat}
    (run : priceLines runtime tenantId lines currency priced total shop =
      .ok (last, all, sum) final) :
    final = shop ∧ (lines = [] ∨ currency ≠ "" → last = currency) ∧
      ∃ more, all = priced ++ more ∧ sum = total + totalOf more ∧
        List.Forall₂ (Prices shop tenantId last) lines more := by
  induction lines generalizing currency priced total with
  | nil =>
    cases run
    exact ⟨rfl, fun _ => rfl, [], (List.append_nil _).symm, rfl, .nil⟩
  | cons line rest hypothesis =>
    obtain ⟨price, _, info, afterPrice⟩ := (Tx.bind_ok_iff _ _ _ _ _).mp run
    obtain ⟨rfl, sells, named⟩ := getSaleInfo_ok info
    obtain ⟨_, _, shared, afterCheck⟩ := (Tx.bind_ok_iff _ _ _ _ _).mp afterPrice
    obtain ⟨same, rfl⟩ := (Tx.require_ok_iff _ _ _ _ _).mp shared
    obtain ⟨rfl, kept, more, rfl, rfl, prices⟩ := hypothesis afterCheck
    obtain rfl : last = price.currency := kept (Or.inr named)
    refine ⟨rfl, ?_, ⟨line.productId, line.quantity, price.amount, price.currency⟩ :: more,
      by simp, ?_, .cons ⟨rfl, rfl, sells, rfl⟩ prices⟩
    · intro first
      rcases first with impossible | settled
      · cases impossible
      · rw [Bool.or_eq_true, decide_eq_true_eq, decide_eq_true_eq] at same
        exact (same.resolve_left settled).symm
    · simp [totalOf, Nat.add_assoc]

def itemsOf (intake : OrderIntake) (tenantId orderId : Uuid) :
    Nat → List PricedLine → List OrderItem
  | _, [] => []
  | index, line :: rest =>
    orderItem intake tenantId orderId index line ::
      itemsOf intake tenantId orderId (index + 1) rest

theorem insertItems_ok {intake : OrderIntake} {tenantId orderId : Uuid} {index : Nat}
    {priced : List PricedLine} {shop final : Shop} {result : Unit}
    (run : insertItems intake tenantId orderId index priced shop = .ok result final) :
    ∃ items : Table OrderItem.id, final = { shop with orderItems := items } ∧
      items.rows = shop.orderItems.rows ++ itemsOf intake tenantId orderId index priced := by
  induction priced generalizing index shop with
  | nil =>
    cases run
    exact ⟨_, rfl, (List.append_nil _).symm⟩
  | cons line rest hypothesis =>
    obtain ⟨_, _, flushed, afterFlush⟩ := (Tx.bind_ok_iff _ _ _ _ _).mp run
    obtain rfl := flush_ok flushed
    obtain ⟨_, _, inserted, afterInsert⟩ := (Tx.bind_ok_iff _ _ _ _ _).mp afterFlush
    obtain ⟨fresh, rfl⟩ := insertOrderItem_ok inserted
    obtain ⟨items, rfl, rows⟩ := hypothesis afterInsert
    refine ⟨items, rfl, ?_⟩
    rw [rows]
    simp [itemsOf, Table.insert]

/-- What a placed order was made of. -/
structure Placement where
  customer : Uuid
  currency : String
  priced : List PricedLine
  provider : Provider
  checkout : Billing.CheckoutDTO

namespace Placement

def order (placement : Placement) (context : Context) (intake : OrderIntake) : Order where
  id := intake.newOrderId
  tenantId := context.tenantId
  customerUserId := placement.customer
  status := .pending
  totalAmount := totalOf placement.priced
  currency := placement.currency
  paymentId := some placement.checkout.paymentId

/-- The payment row before the provider answered. -/
def newRow (placement : Placement) (context : Context) (intake : OrderIntake)
    (provider : String) : Payment :=
  newPayment context.tenantId
    (orderRequest intake.newOrderId ⟨totalOf placement.priced, placement.currency⟩ provider)
    placement.provider intake.payments.newId intake.clock.inserted

def payment (placement : Placement) (context : Context) (intake : OrderIntake)
    (provider : String) : Payment :=
  openedRow (placement.newRow context intake provider) placement.checkout

end Placement

/-- The order, its lines and its payment, written together. -/
structure Writes (context : Context) (intake : OrderIntake) (provider : String) (shop : Shop)
    (placement : Placement) (final : Shop) : Prop where
  positive : 0 < totalOf placement.priced
  answered : intake.payments.createCheckout
    (paymentDto (placement.newRow context intake provider)) none = .ok placement.checkout
  freshOrder : shop.orders.get (placement.order context intake).id = none
  freshPayment :
    shop.billing.payments.get (placement.payment context intake provider).id = none
  items : final.orderItems.rows =
    shop.orderItems.rows ++ itemsOf intake context.tenantId intake.newOrderId 0 placement.priced
  leaves : final =
    { shop with
      orders := shop.orders.insert (placement.order context intake) freshOrder
      orderItems := final.orderItems
      billing := { shop.billing with
        payments := shop.billing.payments.insert (placement.payment context intake provider)
          freshPayment
        events := shop.billing.events ++ [⟨context.tenantId,
          .paymentCreated (paymentEventPayload (placement.payment context intake provider))⟩] }
      events := shop.events ++ [⟨context.tenantId,
        .orderCreated intake.newOrderId placement.customer (totalOf placement.priced)
          placement.currency⟩] }

/-- An order placed for the lines at their current prices. -/
structure Places (context : Context) (intake : OrderIntake) (lines : List OrderLineIn)
    (provider : String) (shop : Shop) (placement : Placement) (final : Shop) : Prop where
  customer : customerId context = .ok placement.customer
  prices : List.Forall₂ (Prices shop context.tenantId placement.currency) lines placement.priced
  writes : Writes context intake provider shop placement final

/-- The id of a new order is not in the key of any payment. -/
def Shop.Unused (shop : Shop) (orderId : Uuid) : Prop :=
  ∀ payment ∈ shop.billing.payments.rows, payment.idempotencyKey ≠ orderKey orderId

theorem writeOrder_ok {context : Context} {intake : OrderIntake} {provider : String}
    {customer : Uuid} {currency : String} {priced : List PricedLine} {shop final : Shop}
    {checkout : OrderCheckoutDTO} (unused : shop.Unused intake.newOrderId)
    (run : writeOrder context intake provider customer currency priced (totalOf priced) shop =
      .ok checkout final) :
    ∃ chosen answer,
      Writes context intake provider shop ⟨customer, currency, priced, chosen, answer⟩ final ∧
        checkout.orderId = intake.newOrderId ∧ checkout.paymentId = answer.paymentId := by
  obtain ⟨_, _, flushed, afterFlush⟩ := (Tx.bind_ok_iff _ _ _ _ _).mp run
  obtain rfl := flush_ok flushed
  obtain ⟨_, _, inserted, afterOrder⟩ := (Tx.bind_ok_iff _ _ _ _ _).mp afterFlush
  obtain ⟨freshOrder, rfl⟩ := insertOrder_ok inserted
  obtain ⟨_, stocked, itemized, afterItems⟩ := (Tx.bind_ok_iff _ _ _ _ _).mp afterOrder
  obtain ⟨items, rfl, rows⟩ := insertItems_ok itemized
  obtain ⟨_, _, emitted, afterEvent⟩ := (Tx.bind_ok_iff _ _ _ _ _).mp afterItems
  cases emitted
  obtain ⟨amount, _, lifted, afterAmount⟩ := (Tx.bind_ok_iff _ _ _ _ _).mp afterEvent
  obtain ⟨made, rfl⟩ := (Tx.liftExcept_ok_iff _ _ _ _).mp lifted
  obtain ⟨rfl, _⟩ := Money.make_ok made
  obtain ⟨_, _, flushedPayment, afterFlush⟩ := (Tx.bind_ok_iff _ _ _ _ _).mp afterAmount
  obtain rfl := flush_ok flushedPayment
  obtain ⟨answer, _, paying, afterPayment⟩ := (Tx.bind_ok_iff _ _ _ _ _).mp afterFlush
  obtain ⟨billing, created, rfl⟩ := (onBilling_ok_iff _ _ _ _).mp paying
  obtain ⟨_, _, flushedLink, afterFlush⟩ := (Tx.bind_ok_iff _ _ _ _ _).mp afterPayment
  obtain rfl := flush_ok flushedLink
  obtain ⟨_, _, linked, done⟩ := (Tx.bind_ok_iff _ _ _ _ _).mp afterFlush
  cases linked
  cases done
  obtain ⟨positive, ⟨_, stored, replays⟩ | ⟨chosen, answered, opens⟩⟩ :=
    Billing.createPayment_cases created
  · exact absurd replays.key (unused stored replays.member)
  refine ⟨chosen, answer, ?_, rfl, rfl⟩
  have put := Table.put_insert _ _
    (Order.mk intake.newOrderId context.tenantId customer .pending (totalOf priced) currency
      (some answer.paymentId)) freshOrder rfl
  refine ⟨positive, answered, freshOrder, opens.fresh, rows, ?_⟩
  simp only [put, opens.leaves]
  rfl

theorem placeOrder_ok {context : Context} {intake : OrderIntake} {lines : List OrderLineIn}
    {provider : String} {shop final : Shop} {checkout : OrderCheckoutDTO}
    (unused : shop.Unused intake.newOrderId)
    (run : placeOrder context intake lines provider shop = .ok checkout final) :
    ∃ placement, Places context intake lines provider shop placement final ∧
      checkout.orderId = intake.newOrderId ∧
      checkout.paymentId = placement.checkout.paymentId := by
  obtain ⟨customer, _, known, afterCustomer⟩ := (Tx.bind_ok_iff _ _ _ _ _).mp run
  obtain ⟨authenticated, rfl⟩ := (Tx.liftExcept_ok_iff _ _ _ _).mp known
  obtain ⟨⟨currency, priced, total⟩, _, pricing, afterPricing⟩ :=
    (Tx.bind_ok_iff _ _ _ _ _).mp afterCustomer
  obtain ⟨rfl, _, more, gathered, sum, prices⟩ := priceLines_ok pricing
  rw [List.nil_append] at gathered
  rw [Nat.zero_add] at sum
  subst gathered sum
  obtain ⟨_, _, filled, afterCheck⟩ := (Tx.bind_ok_iff _ _ _ _ _).mp afterPricing
  obtain ⟨_, rfl⟩ := (Tx.require_ok_iff _ _ _ _ _).mp filled
  obtain ⟨chosen, answer, writes, sameOrder, samePayment⟩ := writeOrder_ok unused afterCheck
  exact ⟨_, ⟨authenticated, prices, writes⟩, sameOrder, samePayment⟩

/-! ## Following the payment -/

/-- `OrderRepository.get`. -/
def Shop.order? (shop : Shop) (tenantId orderId : Uuid) : Option Order :=
  (shop.orders.get orderId).filter fun order => order.tenantId = tenantId

/-- The row `mark_paid` leaves. -/
def paidRow (order : Order) (paymentId : Option Uuid) : Order :=
  { order with status := .paid, paymentId := paymentId.or order.paymentId }

def markPaid (tenantId orderId : Uuid) (paymentId : Option Uuid) (late : Bool) :
    ShopTx (Option Order) := do
  let shop ← get
  match shop.order? tenantId orderId with
  | none => pure none
  | some order =>
    if order.status = .paid then pure (some order)
    else
      let revived : Bool := order.status = .canceled
      if revived && !(late && paymentId.isSome && order.paymentId = paymentId) then pure none
      else do
        putOrder (paidRow order paymentId)
        emit tenantId (.orderPaid order.id paymentId revived)
        pure (some (paidRow order paymentId))

def canceledRow (order : Order) : Order := { order with status := .canceled }

def cancel (tenantId orderId : Uuid) (reason : String) : ShopTx Unit := do
  let shop ← get
  match shop.order? tenantId orderId with
  | none => pure ()
  | some order =>
    if order.status = .paid || order.status = .canceled then pure ()
    else do
      putOrder (canceledRow order)
      emit tenantId (.orderCanceled order.id reason)

/-- `_is_order_payment`. -/
def isOrderPayment (payment : PaymentPayload) : Option String :=
  if payment.purpose ≠ "commerce.order" then none
  else if payment.reference = "" then none
  else some payment.reference

/-- `UUID(order_id)`. -/
def parseId (text : String) : ShopTx Uuid :=
  match Uuid.ofStr? text with
  | some id => pure id
  | none => throw .valueError

/-- `mark_order_paid`; `receipt` is how the notification to the buyer ends. -/
def markOrderPaid (receipt : Order → Except Exc Unit) (tenantId : Uuid) (payment : PaymentPayload)
    (late : Bool) : ShopTx Unit := do
  match isOrderPayment payment with
  | none => pure ()
  | some reference =>
    let orderId ← parseId reference
    match ← markPaid tenantId orderId (some payment.paymentId) late with
    | none => pure ()
    | some order => Tx.liftExcept (receipt order)

/-- `_cancel_order`; the reason is the name of the event. -/
def cancelOrder (tenantId : Uuid) (payment : PaymentPayload) (reason : String) : ShopTx Unit := do
  match isOrderPayment payment with
  | none => pure ()
  | some reference =>
    let orderId ← parseId reference
    cancel tenantId orderId reason

/-- The order subscriber of an event. -/
def handle (receipt : Order → Except Exc Unit) (event : Billing.Event) : ShopTx Unit :=
  match event.payload with
  | .paymentSucceeded payment _ late => markOrderPaid receipt event.tenantId payment late
  | .paymentFailed payment _ => cancelOrder event.tenantId payment event.payload.name
  | .paymentCanceled payment => cancelOrder event.tenantId payment event.payload.name
  | .paymentExpired payment => cancelOrder event.tenantId payment event.payload.name
  | _ => pure ()

/-- The payment of an event the order subscribers listen to. -/
def heard (event : Billing.Event) : Option PaymentPayload :=
  match event.payload with
  | .paymentSucceeded payment _ _ => some payment
  | .paymentFailed payment _ => some payment
  | .paymentCanceled payment => some payment
  | .paymentExpired payment => some payment
  | _ => none

/-- The order an event is about. -/
def orderOf (event : Billing.Event) : Option Uuid :=
  ((heard event).bind isOrderPayment).bind Uuid.ofStr?

/-- One delivery by the worker: how the receipt ends, and whether the transaction
is lost before its commit. -/
structure Delivery where
  event : Billing.Event
  receipt : Order → Except Exc Unit
  crashes : Bool

/-- The shop and the events its subscribers have processed. -/
structure Delivering where
  shop : Shop
  processed : List Billing.Event

/-- `dispatch_event`: the handler and the row that marks the event as processed
are one transaction. -/
def Delivery.run (delivery : Delivery) (state : Delivering) : Delivering :=
  if delivery.event ∈ state.processed then state
  else
    match handle delivery.receipt delivery.event state.shop with
    | .error _ _ => state
    | .ok _ shop =>
      if delivery.crashes then state else ⟨shop, state.processed ++ [delivery.event]⟩

def deliverAll (deliveries : List Delivery) (state : Delivering) : Delivering :=
  deliveries.foldl (fun current delivery => delivery.run current) state

/-! ## One handler on one order -/

def isPaidEvent (orderId : Uuid) (event : Event) : Bool :=
  match event.payload with
  | .orderPaid id _ _ => id = orderId
  | _ => false

/-- What stays of an order and of its `commerce.order.paid` events. -/
structure Untouched (orderId : Uuid) (shop final : Shop) : Prop where
  order : final.orders.get orderId = shop.orders.get orderId
  events : ∃ emitted, final.events = shop.events ++ emitted ∧
    emitted.countP (isPaidEvent orderId) = 0

theorem Untouched.refl (orderId : Uuid) (shop : Shop) : Untouched orderId shop shop :=
  ⟨rfl, [], (List.append_nil _).symm, rfl⟩

theorem order?_key {shop : Shop} {tenantId orderId : Uuid} {order : Order}
    (found : shop.order? tenantId orderId = some order) : order.id = orderId :=
  Table.key_of_get (Option.filter_eq_some_iff.mp found).1

theorem markPaid_foreign {tenantId other orderId : Uuid} {paymentId : Option Uuid} {late : Bool}
    {shop final : Shop} {result : Option Order} (different : other ≠ orderId)
    (run : markPaid tenantId other paymentId late shop = .ok result final) :
    Untouched orderId shop final := by
  unfold markPaid at run
  rw [Tx.bind_run, Tx.get_run] at run
  simp only at run
  cases found : shop.order? tenantId other with
  | none =>
    rw [found] at run
    cases run
    exact .refl _ _
  | some order =>
    rw [found] at run
    simp only at run
    have key := order?_key found
    split at run
    · cases run
      exact .refl _ _
    · split at run
      · cases run
        exact .refl _ _
      · cases run
        refine ⟨Table.get_put_of_ne _ _ _ ?_, _, rfl, ?_⟩
        · intro same
          exact different (key.symm.trans same.symm)
        · simp [isPaidEvent, key, different]

theorem cancel_foreign {tenantId other orderId : Uuid} {reason : String} {shop final : Shop}
    {result : Unit} (different : other ≠ orderId)
    (run : cancel tenantId other reason shop = .ok result final) :
    Untouched orderId shop final := by
  unfold cancel at run
  rw [Tx.bind_run, Tx.get_run] at run
  simp only at run
  cases found : shop.order? tenantId other with
  | none =>
    rw [found] at run
    cases run
    exact .refl _ _
  | some order =>
    rw [found] at run
    simp only at run
    split at run
    · cases run
      exact .refl _ _
    · cases run
      refine ⟨Table.get_put_of_ne _ _ _ ?_, _, rfl, rfl⟩
      intro same
      exact different ((order?_key found).symm.trans same.symm)

theorem parseId_ok {text : String} {shop final : Shop} {id : Uuid}
    (run : parseId text shop = .ok id final) : Uuid.ofStr? text = some id ∧ final = shop := by
  unfold parseId at run
  cases parsed : Uuid.ofStr? text with
  | none =>
    rw [parsed] at run
    cases run
  | some found =>
    rw [parsed] at run
    cases run
    exact ⟨rfl, rfl⟩

theorem markOrderPaid_foreign {receipt : Order → Except Exc Unit} {tenantId orderId : Uuid}
    {payment : PaymentPayload} {late : Bool} {shop final : Shop} {result : Unit}
    (foreign : (isOrderPayment payment).bind Uuid.ofStr? ≠ some orderId)
    (run : markOrderPaid receipt tenantId payment late shop = .ok result final) :
    Untouched orderId shop final := by
  unfold markOrderPaid at run
  cases reference : isOrderPayment payment with
  | none =>
    rw [reference] at run
    cases run
    exact .refl _ _
  | some text =>
    rw [reference] at run foreign
    obtain ⟨other, _, parsing, afterParse⟩ := (Tx.bind_ok_iff _ _ _ _ _).mp run
    obtain ⟨parsed, rfl⟩ := parseId_ok parsing
    have different : other ≠ orderId := by
      rintro rfl
      exact foreign parsed
    obtain ⟨order, _, marked, afterMark⟩ := (Tx.bind_ok_iff _ _ _ _ _).mp afterParse
    have untouched := markPaid_foreign different marked
    cases order with
    | none =>
      cases afterMark
      exact untouched
    | some order =>
      obtain ⟨_, rfl⟩ := (Tx.liftExcept_ok_iff _ _ _ _).mp afterMark
      exact untouched

theorem cancelOrder_foreign {tenantId orderId : Uuid} {payment : PaymentPayload} {reason : String}
    {shop final : Shop} {result : Unit}
    (foreign : (isOrderPayment payment).bind Uuid.ofStr? ≠ some orderId)
    (run : cancelOrder tenantId payment reason shop = .ok result final) :
    Untouched orderId shop final := by
  unfold cancelOrder at run
  cases reference : isOrderPayment payment with
  | none =>
    rw [reference] at run
    cases run
    exact .refl _ _
  | some text =>
    rw [reference] at run foreign
    obtain ⟨other, _, parsing, afterParse⟩ := (Tx.bind_ok_iff _ _ _ _ _).mp run
    obtain ⟨parsed, rfl⟩ := parseId_ok parsing
    have different : other ≠ orderId := by
      rintro rfl
      exact foreign parsed
    exact cancel_foreign different afterParse

theorem handle_foreign {receipt : Order → Except Exc Unit} {event : Billing.Event} {orderId : Uuid}
    {shop final : Shop} {result : Unit} (foreign : orderOf event ≠ some orderId)
    (run : handle receipt event shop = .ok result final) : Untouched orderId shop final := by
  obtain ⟨tenantId, payload⟩ := event
  cases payload with
  | paymentSucceeded payment paidAt late => exact markOrderPaid_foreign foreign run
  | paymentFailed payment reason => exact cancelOrder_foreign foreign run
  | paymentCanceled payment => exact cancelOrder_foreign foreign run
  | paymentExpired payment => exact cancelOrder_foreign foreign run
  | paymentCreated payment =>
    cases run
    exact .refl _ _
  | subscriptionActivated subscriptionId planCode finish =>
    cases run
    exact .refl _ _
  | subscriptionReplaced subscriptionId replacedBy =>
    cases run
    exact .refl _ _
  | subscriptionCanceled subscriptionId planCode =>
    cases run
    exact .refl _ _
  | subscriptionEnded subscriptionId planCode status =>
    cases run
    exact .refl _ _

/-! ## The order of one payment -/

/-- The payload of a payment that `place_order` asked for. -/
structure Pays (payment : PaymentPayload) (orderId : Uuid) : Prop where
  purpose : payment.purpose = "commerce.order"
  reference : payment.reference = Uuid.toStr orderId

theorem toStr_ne_empty (id : Uuid) : Uuid.toStr id ≠ "" := by
  intro empty
  have parsed := Uuid.ofStr?_toStr id
  have nothing : Uuid.ofStr? "" = none := by decide +kernel
  rw [empty, nothing] at parsed
  cases parsed

theorem Pays.isOrderPayment {payment : PaymentPayload} {orderId : Uuid}
    (pays : Pays payment orderId) : isOrderPayment payment = some (Uuid.toStr orderId) := by
  unfold Commerce.isOrderPayment
  rw [pays.purpose, pays.reference, if_neg (fun differs => differs rfl),
    if_neg (toStr_ne_empty orderId)]

theorem parseId_toStr (orderId : Uuid) (shop : Shop) :
    parseId (Uuid.toStr orderId) shop = .ok orderId shop := by
  unfold parseId
  rw [Uuid.ofStr?_toStr]
  rfl

/-- The row and the event of an order that becomes paid. -/
def Shop.withPaid (shop : Shop) (tenantId : Uuid) (order : Order) (paymentId : Uuid) : Shop :=
  { shop with
    orders := shop.orders.put (paidRow order (some paymentId))
    events := shop.events ++
      [⟨tenantId, .orderPaid order.id (some paymentId) (order.status = .canceled)⟩] }

def Shop.withCanceled (shop : Shop) (tenantId : Uuid) (order : Order) (reason : String) : Shop :=
  { shop with
    orders := shop.orders.put (canceledRow order)
    events := shop.events ++ [⟨tenantId, .orderCanceled order.id reason⟩] }

theorem markOrderPaid_unpaid {receipt : Order → Except Exc Unit} {tenantId orderId : Uuid}
    {payment : PaymentPayload} {late : Bool} {shop final : Shop} {order : Order} {result : Unit}
    (pays : Pays payment orderId) (found : shop.order? tenantId orderId = some order)
    (unpaid : order.status ≠ .paid)
    (revives : order.status = .canceled → late = true ∧ order.paymentId = some payment.paymentId)
    (run : markOrderPaid receipt tenantId payment late shop = .ok result final) :
    final = shop.withPaid tenantId order payment.paymentId := by
  unfold markOrderPaid at run
  rw [pays.isOrderPayment] at run
  simp only [Tx.bind_run, parseId_toStr] at run
  have allowed : (decide (order.status = .canceled) &&
      !(late && (some payment.paymentId).isSome &&
        decide (order.paymentId = some payment.paymentId))) = false := by
    by_cases canceled : order.status = .canceled
    · obtain ⟨isLate, own⟩ := revives canceled
      simp [isLate, own]
    · simp [canceled]
  have marked : markPaid tenantId orderId (some payment.paymentId) late shop =
      .ok (some (paidRow order (some payment.paymentId)))
        (shop.withPaid tenantId order payment.paymentId) := by
    unfold markPaid
    rw [Tx.bind_run, Tx.get_run]
    simp only [found, if_neg unpaid, allowed]
    rfl
  rw [marked] at run
  obtain ⟨_, rfl⟩ := (Tx.liftExcept_ok_iff _ _ _ _).mp run
  rfl

theorem cancelOrder_run {tenantId orderId : Uuid} {payment : PaymentPayload} {reason : String}
    {shop : Shop} {order : Order} (pays : Pays payment orderId)
    (found : shop.order? tenantId orderId = some order) :
    cancelOrder tenantId payment reason shop =
      .ok () (if order.status = .pending then shop.withCanceled tenantId order reason
        else shop) := by
  unfold cancelOrder
  rw [pays.isOrderPayment]
  simp only [Tx.bind_run, parseId_toStr]
  unfold cancel
  rw [Tx.bind_run, Tx.get_run]
  simp only [found]
  cases status : order.status with
  | pending => rfl
  | paid => rfl
  | canceled => rfl

/-! ## The events of one payment, delivered -/

def isSuccess (event : Billing.Event) : Bool :=
  match event.payload with
  | .paymentSucceeded _ _ _ => true
  | _ => false

def isClosing (event : Billing.Event) : Bool :=
  match event.payload with
  | .paymentFailed _ _ => true
  | .paymentCanceled _ => true
  | .paymentExpired _ => true
  | _ => false

/-- A success or the closing of the payment. -/
inductive Tells (payment : Payment) : Billing.Event → Prop where
  | success (paidAt : DateTime) (late : Bool) : Tells payment (payment.toldSuccess paidAt late)
  | closing (target : Billing.Closing) (reason : Option String) :
      Tells payment (payment.toldClosing target reason)

/-- What the subscribers rely on: one success at most, and late after a closing. -/
structure Coherent (payment : Payment) (events : List Billing.Event) : Prop where
  tells : ∀ event ∈ events, Tells payment event
  single : ∀ left ∈ events, ∀ right ∈ events, isSuccess left = true → isSuccess right = true →
    left = right
  late : ∀ paidAt late, payment.toldSuccess paidAt late ∈ events →
    ∀ other ∈ events, isClosing other = true → late = true

theorem isSuccess_closing (payment : Payment) (target : Billing.Closing)
    (reason : Option String) : isSuccess (payment.toldClosing target reason) = false := by
  cases target with
  | failed => rfl
  | canceled => rfl
  | expired => rfl

theorem isClosing_closing (payment : Payment) (target : Billing.Closing)
    (reason : Option String) : isClosing (payment.toldClosing target reason) = true := by
  cases target with
  | failed => rfl
  | canceled => rfl
  | expired => rfl

theorem Coherent.nil (payment : Payment) : Coherent payment [] := by
  constructor
  · intro event member
    cases member
  · intro left member
    cases member
  · intro paidAt late member
    cases member

theorem coherent_of_story {payment : Payment} {status : Billing.PaymentStatus}
    {events : List Billing.Event} (story : Billing.Story payment status events) :
    Coherent payment events := by
  cases story with
  | created => exact .nil payment
  | pending => exact .nil payment
  | succeeded paidAt =>
    constructor
    · intro event member
      rw [List.mem_singleton.mp member]
      exact .success paidAt false
    · intro left leftMember right rightMember _ _
      rw [List.mem_singleton.mp leftMember, List.mem_singleton.mp rightMember]
    · intro _ _ _ other otherMember closing
      rw [List.mem_singleton.mp otherMember] at closing
      cases closing
  | closed target reason =>
    constructor
    · intro event member
      rw [List.mem_singleton.mp member]
      exact .closing target reason
    · intro left leftMember right rightMember _ _
      rw [List.mem_singleton.mp leftMember, List.mem_singleton.mp rightMember]
    · intro otherPaidAt late member other otherMember _
      have impossible := isSuccess_closing payment target reason
      rw [← List.mem_singleton.mp member] at impossible
      cases impossible
  | late reason paidAt =>
    constructor
    · intro event member
      rcases List.mem_pair.mp member with rfl | rfl
      · exact .closing .expired reason
      · exact .success paidAt true
    · intro left leftMember right rightMember leftSuccess rightSuccess
      rcases List.mem_pair.mp leftMember with rfl | rfl
      · cases leftSuccess
      · rcases List.mem_pair.mp rightMember with rfl | rfl
        · cases rightSuccess
        · rfl
    · intro otherPaidAt late member _ _ _
      rcases List.mem_pair.mp member with same | same
      · cases same
      · cases same
        rfl

/-- The status of an order whose subscribers have processed these events. -/
def statusAfter (heard : List Billing.Event) : OrderStatus :=
  if heard.any isSuccess then .paid else if heard.any isClosing then .canceled else .pending

/-- The order is where its processed events put it. -/
structure Follows (payment : Payment) (orderId : Uuid) (events : List Billing.Event)
    (placed : Shop) (state : Delivering) : Prop where
  row : ∃ order, state.shop.orders.get orderId = some order ∧
    order.tenantId = payment.tenantId ∧ order.paymentId = some payment.id ∧
    order.status = statusAfter (state.processed.filter (· ∈ events))
  emitted : ∃ emitted, state.shop.events = placed.events ++ emitted ∧
    emitted.countP (isPaidEvent orderId) =
      if (state.processed.filter (· ∈ events)).any isSuccess then 1 else 0

section Deliveries

variable {payment : Payment} {orderId : Uuid} {events : List Billing.Event} {placed : Shop}
  {state : Delivering}

theorem Tells.orderOf {event : Billing.Event} (tells : Tells payment event)
    (pays : Pays (paymentEventPayload payment) orderId) : orderOf event = some orderId := by
  have parsed : ((some (paymentEventPayload payment)).bind isOrderPayment).bind Uuid.ofStr? =
      some orderId := by
    rw [Option.bind_some, pays.isOrderPayment, Option.bind_some, Uuid.ofStr?_toStr]
  cases tells with
  | success paidAt late => exact parsed
  | closing target reason =>
    cases target with
    | failed => exact parsed
    | canceled => exact parsed
    | expired => exact parsed

theorem Follows.untouched (follows : Follows payment orderId events placed state) {shop : Shop}
    (untouched : Untouched orderId state.shop shop) {event : Billing.Event}
    (other : event ∉ events) :
    Follows payment orderId events placed ⟨shop, state.processed ++ [event]⟩ := by
  have same : (state.processed ++ [event]).filter (· ∈ events) =
      state.processed.filter (· ∈ events) := by
    rw [List.filter_append, List.filter_singleton, decide_eq_false other]
    exact List.append_nil _
  obtain ⟨order, stored, tenant, paid, status⟩ := follows.row
  obtain ⟨emitted, earlier, count⟩ := follows.emitted
  obtain ⟨more, later, silent⟩ := untouched.events
  constructor
  · rw [same, untouched.order]
    exact ⟨order, stored, tenant, paid, status⟩
  · refine ⟨emitted ++ more, ?_, ?_⟩
    · rw [later, earlier, List.append_assoc]
    · rw [same, List.countP_append, count, silent, Nat.add_zero]

theorem filter_own {event : Billing.Event} (member : event ∈ events)
    (processed : List Billing.Event) :
    (processed ++ [event]).filter (· ∈ events) = processed.filter (· ∈ events) ++ [event] := by
  rw [List.filter_append, List.filter_singleton, decide_eq_true member]
  rfl

theorem Follows.success (follows : Follows payment orderId events placed state)
    (coherent : Coherent payment events) (pays : Pays (paymentEventPayload payment) orderId)
    {receipt : Order → Except Exc Unit} {paidAt : DateTime} {late : Bool} {shop : Shop}
    {result : Unit} (member : payment.toldSuccess paidAt late ∈ events)
    (fresh : payment.toldSuccess paidAt late ∉ state.processed)
    (run : markOrderPaid receipt payment.tenantId (paymentEventPayload payment) late state.shop =
      .ok result shop) :
    Follows payment orderId events placed
      ⟨shop, state.processed ++ [payment.toldSuccess paidAt late]⟩ := by
  -- the only success of the payment has not been processed before
  have first : (state.processed.filter (· ∈ events)).any isSuccess = false := by
    rw [List.any_eq_false]
    intro other heard success
    obtain ⟨processed, told⟩ := List.mem_filter.mp heard
    have same := coherent.single other (of_decide_eq_true told) _ member success rfl
    rw [same] at processed
    exact fresh processed
  obtain ⟨order, stored, tenant, paid, status⟩ := follows.row
  obtain ⟨emitted, earlier, count⟩ := follows.emitted
  rw [statusAfter, first, if_neg Bool.false_ne_true] at status
  have found : state.shop.order? payment.tenantId orderId = some order :=
    Option.filter_eq_some_iff.mpr ⟨stored, decide_eq_true tenant⟩
  have unpaid : order.status ≠ .paid := by
    rw [status]
    cases (state.processed.filter (· ∈ events)).any isClosing with
    | true => decide
    | false => decide
  have revives : order.status = .canceled →
      late = true ∧ order.paymentId = some (paymentEventPayload payment).paymentId := by
    intro canceled
    rw [canceled] at status
    by_cases closed : (state.processed.filter (· ∈ events)).any isClosing = true
    · obtain ⟨other, heard, closing⟩ := List.any_eq_true.mp closed
      have told := of_decide_eq_true (List.mem_filter.mp heard).2
      exact ⟨coherent.late paidAt late member other told closing, paid⟩
    · rw [if_neg closed] at status
      cases status
  obtain rfl := markOrderPaid_unpaid pays found unpaid revives run
  have key : order.id = orderId := order?_key found
  have now : (state.processed.filter (· ∈ events) ++ [payment.toldSuccess paidAt late]).any
      isSuccess = true := by
    rw [List.any_append, first]
    rfl
  constructor
  · refine ⟨paidRow order (some payment.id), ?_, tenant, rfl, ?_⟩
    · subst key
      exact Table.get_put_self _ (paidRow order (some payment.id)) order stored
    · rw [filter_own member, statusAfter, now]
      rfl
  · refine ⟨emitted ++ [⟨payment.tenantId, .orderPaid order.id
      (some (paymentEventPayload payment).paymentId) (order.status = .canceled)⟩], ?_, ?_⟩
    · rw [Shop.withPaid, earlier, List.append_assoc]
    · rw [filter_own member, now, List.countP_append, count, first]
      simp [isPaidEvent, key]

theorem Follows.closing (follows : Follows payment orderId events placed state)
    (pays : Pays (paymentEventPayload payment) orderId) {target : Billing.Closing}
    {reason : Option String} {name : String} (member : payment.toldClosing target reason ∈ events)
    {shop : Shop} {result : Unit}
    (run : cancelOrder payment.tenantId (paymentEventPayload payment) name state.shop =
      .ok result shop) :
    Follows payment orderId events placed
      ⟨shop, state.processed ++ [payment.toldClosing target reason]⟩ := by
  obtain ⟨order, stored, tenant, paid, status⟩ := follows.row
  obtain ⟨emitted, earlier, count⟩ := follows.emitted
  have found : state.shop.order? payment.tenantId orderId = some order :=
    Option.filter_eq_some_iff.mpr ⟨stored, decide_eq_true tenant⟩
  have key : order.id = orderId := order?_key found
  rw [cancelOrder_run pays found] at run
  cases run
  have successes : (state.processed.filter (· ∈ events) ++ [payment.toldClosing target reason]).any
      isSuccess = (state.processed.filter (· ∈ events)).any isSuccess := by
    rw [List.any_append]
    simp [isSuccess_closing]
  have after : statusAfter (state.processed.filter (· ∈ events) ++
      [payment.toldClosing target reason]) =
      if (state.processed.filter (· ∈ events)).any isSuccess then .paid else .canceled := by
    rw [statusAfter, successes, List.any_append]
    simp [isClosing_closing]
  rw [statusAfter] at status
  constructor
  · rw [filter_own member, after]
    by_cases pending : order.status = .pending
    · rw [if_pos pending]
      have unpaid : (state.processed.filter (· ∈ events)).any isSuccess = false := by
        by_contra paidBefore
        rw [if_pos (Bool.eq_true_of_not_eq_false paidBefore), pending] at status
        cases status
      rw [unpaid]
      refine ⟨canceledRow order, ?_, tenant, paid, rfl⟩
      subst key
      exact Table.get_put_self _ (canceledRow order) order stored
    · rw [if_neg pending]
      refine ⟨order, stored, tenant, paid, ?_⟩
      by_cases success : (state.processed.filter (· ∈ events)).any isSuccess = true
      · rw [if_pos success] at status ⊢
        exact status
      · rw [if_neg success] at status ⊢
        by_cases closed : (state.processed.filter (· ∈ events)).any isClosing = true
        · rw [if_pos closed] at status
          exact status
        · rw [if_neg closed] at status
          exact absurd status pending
  · rw [filter_own member, successes]
    by_cases pending : order.status = .pending
    · rw [if_pos pending]
      refine ⟨emitted ++ [⟨payment.tenantId, .orderCanceled order.id name⟩], ?_, ?_⟩
      · rw [Shop.withCanceled, earlier, List.append_assoc]
      · rw [List.countP_append, count]
        rfl
    · rw [if_neg pending]
      exact ⟨emitted, earlier, count⟩

theorem Follows.step (follows : Follows payment orderId events placed state)
    (coherent : Coherent payment events) (pays : Pays (paymentEventPayload payment) orderId)
    (delivery : Delivery)
    (about : delivery.event ∈ events ∨ orderOf delivery.event ≠ some orderId) :
    Follows payment orderId events placed (delivery.run state) := by
  unfold Delivery.run
  by_cases again : delivery.event ∈ state.processed
  · rw [if_pos again]
    exact follows
  rw [if_neg again]
  cases handled : handle delivery.receipt delivery.event state.shop with
  | error raised copy => exact follows
  | ok result shop =>
    simp only
    cases delivery.crashes with
    | true => exact follows
    | false =>
      rcases about with member | foreign
      · have tells := coherent.tells _ member
        generalize delivery.event = event at member again handled tells
        cases tells with
        | success paidAt late => exact follows.success coherent pays member again handled
        | closing target reason =>
          cases target with
          | failed => exact follows.closing pays member handled
          | canceled => exact follows.closing pays member handled
          | expired => exact follows.closing pays member handled
      · have other : delivery.event ∉ events := fun member =>
          foreign ((coherent.tells _ member).orderOf pays)
        exact follows.untouched (handle_foreign foreign handled) other

theorem Follows.run (coherent : Coherent payment events)
    (pays : Pays (paymentEventPayload payment) orderId) (deliveries : List Delivery)
    (about : ∀ delivery ∈ deliveries,
      delivery.event ∈ events ∨ orderOf delivery.event ≠ some orderId)
    (follows : Follows payment orderId events placed state) :
    Follows payment orderId events placed (deliverAll deliveries state) := by
  induction deliveries generalizing state with
  | nil => exact follows
  | cons delivery rest hypothesis =>
    exact hypothesis (fun other member => about other (List.mem_cons_of_mem _ member))
      (follows.step coherent pays delivery (about delivery List.mem_cons_self))

end Deliveries

/-! ## The outcome -/

theorem any_congr_mem {left right : List Billing.Event}
    (same : ∀ event, event ∈ left ↔ event ∈ right) (clause : Billing.Event → Bool) :
    left.any clause = right.any clause := by
  rw [Bool.eq_iff_iff, List.any_eq_true, List.any_eq_true]
  constructor
  · rintro ⟨event, member, holds⟩
    exact ⟨event, (same event).mp member, holds⟩
  · rintro ⟨event, member, holds⟩
    exact ⟨event, (same event).mpr member, holds⟩

theorem statusAfter_story {payment : Payment} {status : Billing.PaymentStatus}
    {events heard : List Billing.Event} (story : Billing.Story payment status events)
    (same : ∀ event, event ∈ heard ↔ event ∈ events) :
    heard.any isSuccess = decide (status = .succeeded) ∧
      (statusAfter heard = .paid ↔ status = .succeeded) ∧
      (statusAfter heard = .canceled ↔
        status = .failed ∨ status = .canceled ∨ status = .expired) := by
  rw [statusAfter, any_congr_mem same, any_congr_mem same]
  cases story with
  | created => decide
  | pending => decide
  | succeeded paidAt => simp [Payment.toldSuccess, isSuccess]
  | closed target reason =>
    cases target with
    | failed => simp [isSuccess_closing, isClosing_closing, Billing.Closing.status]
    | canceled => simp [isSuccess_closing, isClosing_closing, Billing.Closing.status]
    | expired => simp [isSuccess_closing, isClosing_closing, Billing.Closing.status]
  | late reason paidAt => simp [Payment.toldSuccess, isSuccess]

/-- The provider answers for the payment it was asked about. -/
def AnswersOwn (intake : PaymentIntake) : Prop :=
  ∀ dto returnUrl checkout, intake.createCheckout dto returnUrl = .ok checkout →
    checkout.paymentId = dto.id

theorem answersOwn_payme (runtime : Runtime) (providers : List Provider) (newId : Uuid)
    (merchantId : String) :
    AnswersOwn ⟨runtime, providers, newId, Billing.Payme.createCheckout merchantId⟩ :=
  fun _ _ _ => Billing.Payme.createCheckout_paymentId

theorem Places.linked {context : Context} {intake : OrderIntake} {lines : List OrderLineIn}
    {provider : String} {shop placed : Shop} {placement : Placement}
    (honest : AnswersOwn intake.payments)
    (places : Places context intake lines provider shop placement placed) :
    placement.checkout.paymentId = intake.payments.newId ∧
      placed.orders.get intake.newOrderId = some (placement.order context intake) ∧
      placed.billing.payments.get intake.payments.newId =
        some (placement.payment context intake provider) := by
  refine ⟨honest _ _ _ places.writes.answered, ?_, ?_⟩
  · rw [places.writes.leaves]
    exact (Table.get_insert _ _ places.writes.freshOrder _).trans (if_pos rfl)
  · rw [places.writes.leaves]
    exact (Table.get_insert _ _ places.writes.freshPayment _).trans (if_pos rfl)

/-- Whatever the order of the deliveries, with duplicates, failures and other
orders' events among them: once every event of the payment has been processed, the
order is where the payment is, and it was announced as paid once or never. -/
theorem order_follows_payment (context : Context) (intake : OrderIntake)
    (lines : List OrderLineIn) (provider : String) (shop placed : Shop)
    (checkout : OrderCheckoutDTO) (honest : AnswersOwn intake.payments)
    (unused : shop.Unused intake.newOrderId)
    (placing : placeOrder context intake lines provider shop = .ok checkout placed)
    (payment : Payment) (stored : placed.billing.payments.get checkout.paymentId = some payment)
    (runtime : Runtime) (log : List Billing.Committed) (now : Payment)
    (life : RowLock.Serial (Billing.Writes runtime payment.id) payment log now)
    (targets : ∀ entry ∈ log, entry.job.Targets payment) (deliveries : List Delivery)
    (about : ∀ delivery ∈ deliveries, delivery.event ∈ Billing.published log ∨
      orderOf delivery.event ≠ some checkout.orderId)
    (handled : ∀ event ∈ Billing.published log,
      event ∈ (deliverAll deliveries ⟨placed, []⟩).processed) :
    ∃ order emitted,
      (deliverAll deliveries ⟨placed, []⟩).shop.orders.get checkout.orderId = some order ∧
      (deliverAll deliveries ⟨placed, []⟩).shop.events = placed.events ++ emitted ∧
      (order.status = .paid ↔ now.status = .succeeded) ∧
      (order.status = .canceled ↔
        now.status = .failed ∨ now.status = .canceled ∨ now.status = .expired) ∧
      emitted.countP (isPaidEvent checkout.orderId) =
        if now.status = .succeeded then 1 else 0 := by
  obtain ⟨placement, places, sameOrder, samePayment⟩ := placeOrder_ok unused placing
  obtain ⟨own, orderRow, paymentRow⟩ := places.linked honest
  rw [samePayment, own, paymentRow] at stored
  obtain rfl := Option.some.inj stored
  rw [sameOrder] at about ⊢
  have pays : Pays (paymentEventPayload (placement.payment context intake provider))
      intake.newOrderId := ⟨rfl, rfl⟩
  obtain ⟨story, _, _⟩ := Billing.story_of_serial rfl life targets
  have start : Follows (placement.payment context intake provider) intake.newOrderId
      (Billing.published log) placed ⟨placed, []⟩ :=
    ⟨⟨_, orderRow, rfl, congrArg some own, rfl⟩, [], (List.append_nil _).symm, rfl⟩
  have follows := start.run (coherent_of_story story) pays deliveries about
  obtain ⟨order, found, _, _, status⟩ := follows.row
  obtain ⟨emitted, events, count⟩ := follows.emitted
  have same : ∀ event,
      event ∈ (deliverAll deliveries ⟨placed, []⟩).processed.filter (· ∈ Billing.published log) ↔
        event ∈ Billing.published log := by
    intro event
    rw [List.mem_filter, decide_eq_true_eq]
    exact and_iff_right_of_imp (handled event)
  obtain ⟨success, paid, canceled⟩ := statusAfter_story story same
  refine ⟨order, emitted, found, events, ?_, ?_, ?_⟩
  · rw [status]
    exact paid
  · rw [status]
    exact canceled
  · rw [count, success]
    simp only [decide_eq_true_eq]

namespace Sample

open BackendCore.Billing.Sample (tenant clock moment runtime)

def tea : Product := ⟨20, tenant, 500, "UZS", .active⟩

def buyer : Uuid := 9

def buyerContext : Context := ⟨tenant, .user, some (Uuid.toStr buyer)⟩

def shelf : Shop where
  products := Table.empty.insert tea rfl
  carts := Table.empty
  cartItems := Table.empty
  orders := Table.empty
  orderItems := Table.empty
  billing := ⟨Table.empty, Table.empty, Table.empty, Table.empty, [], []⟩
  events := []

/-- One provider, which opens every checkout under one address. -/
def orderIntake : OrderIntake where
  newOrderId := 11
  newItemId := fun index => 100 + BitVec.ofNat 128 index
  payments := ⟨runtime, [.click], 7, fun payment _ => .ok ⟨payment.id, .click, "url", none⟩⟩
  clock := clock
  refusal := fun _ => none

def oneTea : List OrderLineIn := [⟨20, 1⟩]

/-- The value a body returned on a shop, and the shop it left. -/
def returned {A : Type} (outcome : Tx.Outcome Exc Shop A) : Option A :=
  match outcome with
  | .ok value _ => some value
  | .error _ _ => none

def leftBy {A : Type} (outcome : Tx.Outcome Exc Shop A) : Shop :=
  match outcome with
  | .ok _ shop => shop
  | .error _ shop => shop

theorem ok_of_returned {A : Type} {outcome : Tx.Outcome Exc Shop A} {value : A}
    (done : returned outcome = some value) : outcome = .ok value (leftBy outcome) := by
  cases outcome with
  | ok other shop =>
    cases done
    rfl
  | error raised shop => cases done

def teaCheckout : OrderCheckoutDTO := ⟨11, 7, .click, "url"⟩

def afterTea : Shop := leftBy (placeOrder buyerContext orderIntake oneTea "click" shelf)

theorem tea_placed :
    placeOrder buyerContext orderIntake oneTea "click" shelf = .ok teaCheckout afterTea :=
  ok_of_returned (by decide +kernel)

def teaPayment : Payment where
  id := 7
  tenantId := tenant
  subscriptionId := none
  purpose := "commerce.order"
  reference := Uuid.toStr 11
  amount := ⟨500, "UZS"⟩
  status := .created
  provider := .click
  providerTransactionId := none
  idempotencyKey := orderKey 11
  failureCode := none
  paidAt := none
  metadata := ⟨some "url", none, none, none⟩
  createdAt := moment

theorem tea_payment_stored :
    afterTea.billing.payments.get teaCheckout.paymentId = some teaPayment := by
  decide +kernel

def expiredTea : Payment := Billing.closedRow teaPayment .expired none moment

def lateTea : Payment := Billing.succeededRow expiredTea moment

def teaExpired : Billing.Event := teaPayment.toldClosing .expired none

def teaSucceeded : Billing.Event := teaPayment.toldSuccess moment true

def teaSweep : Billing.Writer := .expiry ⟨teaPayment.id, tenant⟩ clock

def teaConfirmation : Billing.Writer :=
  .webhook .click Billing.Sample.confirmCallback Billing.Sample.emptyRequest clock

/-- The checkout expires, then Click confirms it. -/
def teaLog : List Billing.Committed :=
  [⟨teaSweep, expiredTea, [teaExpired]⟩, ⟨teaConfirmation, lateTea, [teaSucceeded]⟩]

theorem sweep_writes : Billing.Writes runtime 7 teaSweep teaPayment expiredTea [teaExpired] :=
  ⟨Billing.Sample.dbWith teaPayment, _, _, rfl, rfl, rfl, rfl, rfl⟩

theorem confirmation_writes :
    Billing.Writes runtime 7 teaConfirmation expiredTea lateTea [teaSucceeded] :=
  ⟨Billing.Sample.dbWith expiredTea, _, _, rfl, rfl, rfl, rfl, rfl⟩

theorem tea_life : RowLock.Serial (Billing.Writes runtime 7) teaPayment teaLog lateTea :=
  .snoc [⟨teaSweep, expiredTea, [teaExpired]⟩] expiredTea teaConfirmation lateTea [teaSucceeded]
    (.snoc [] teaPayment teaSweep expiredTea [teaExpired] .nil sweep_writes) confirmation_writes

/-- The success first, lost once and repeated; then the expiry that came before it. -/
def teaDeliveries : List Delivery :=
  [⟨teaSucceeded, fun _ => .ok (), true⟩, ⟨teaSucceeded, fun _ => .ok (), false⟩,
    ⟨teaExpired, fun _ => .ok (), false⟩, ⟨teaSucceeded, fun _ => .ok (), false⟩]

theorem late_tea_is_paid :
    ∃ order emitted,
      (deliverAll teaDeliveries ⟨afterTea, []⟩).shop.orders.get 11 = some order ∧
      (deliverAll teaDeliveries ⟨afterTea, []⟩).shop.events = afterTea.events ++ emitted ∧
      (order.status = .paid ↔ lateTea.status = .succeeded) ∧
      (order.status = .canceled ↔
        lateTea.status = .failed ∨ lateTea.status = .canceled ∨ lateTea.status = .expired) ∧
      emitted.countP (isPaidEvent 11) = if lateTea.status = .succeeded then 1 else 0 := by
  refine order_follows_payment buyerContext orderIntake oneTea "click" shelf afterTea teaCheckout
    ?_ ?_ tea_placed teaPayment tea_payment_stored runtime teaLog lateTea tea_life ?_ teaDeliveries
    ?_ ?_
  · intro dto returnUrl checkout answered
    cases answered
    rfl
  · intro payment member
    cases member
  · intro entry member
    rcases List.mem_pair.mp member with rfl | rfl
    · exact fun _ => rfl
    · trivial
  · decide +kernel
  · decide +kernel

end Sample

end BackendCore.Commerce
