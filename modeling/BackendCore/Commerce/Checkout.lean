import BackendCore.Commerce.Cart

/-!
# Checkout

`CartService.checkout` as one unit of work over the shop: the cart's lines become
an order at the current prices, with its payment, and the cart is closed.  An
error at any step leaves the shop as it was.
-/

set_option autoImplicit false

namespace BackendCore.Commerce

open BackendCore.Python
open BackendCore.Billing (Payment)

def isActiveCart (tenantId customer : Uuid) (cart : Cart) : Bool :=
  cart.tenantId = tenantId && cart.customerUserId = customer && cart.status = .active

/-- The lines of a cart as `checkout` reads them. -/
def Shop.cartLines (shop : Shop) (tenantId cartId : Uuid) : List CartItem :=
  byCreation (shop.cartItems.select fun item => item.tenantId = tenantId && item.cartId = cartId)

def putCart (cart : Cart) : ShopTx Unit :=
  modify fun shop => { shop with carts := shop.carts.put cart }

/-- `checkout` with the cart it has locked. -/
def checkoutOf (context : Context) (intake : OrderIntake) (provider : String) (customer : Uuid)
    (cart : Cart) : ShopTx OrderCheckoutDTO := do
  let shop ← get
  let items := shop.cartLines context.tenantId cart.id
  Tx.require (items ≠ []) (.invariantViolationError "cannot checkout an empty cart")
  let lines ← Tx.liftExcept (items.mapM fun item => OrderLineIn.make item.productId item.quantity)
  let checkout ← placeOrder context intake lines provider
  flush intake.refusal .cart
  putCart (closedCart cart)
  emit context.tenantId (.cartCheckedOut cart.id customer checkout.orderId)
  pure checkout

/-- `CartService.checkout`; without `orders` the service was built without its order
service. -/
def checkout (context : Context) (orders : Option OrderIntake) (provider : String) :
    ShopTx OrderCheckoutDTO := do
  let customer ← Tx.liftExcept (customerId context)
  match orders with
  | none => throw (.invariantViolationError "checkout requires the orders service")
  | some intake =>
    let shop ← get
    match (shop.carts.select (isActiveCart context.tenantId customer)).head? with
    | none => throw (.notFoundError "no active cart")
    | some cart => checkoutOf context intake provider customer cart

/-! ## The lines -/

theorem make_ok {productId : Uuid} {quantity : Nat} {line : OrderLineIn}
    (made : OrderLineIn.make productId quantity = .ok line) : line = ⟨productId, quantity⟩ := by
  unfold OrderLineIn.make at made
  split at made
  · cases made
    rfl
  · cases made

theorem mapM_make_ok {items : List CartItem} {lines : List OrderLineIn}
    (made : (items.mapM fun item => OrderLineIn.make item.productId item.quantity) = .ok lines) :
    lines = items.map fun item => ⟨item.productId, item.quantity⟩ := by
  induction items generalizing lines with
  | nil =>
    cases made
    rfl
  | cons item rest hypothesis =>
    rw [List.mapM_cons] at made
    cases first : OrderLineIn.make item.productId item.quantity with
    | error raised =>
      rw [first] at made
      cases made
    | ok line =>
      rw [first] at made
      cases others : rest.mapM fun item => OrderLineIn.make item.productId item.quantity with
      | error raised =>
        simp only [others] at made
        cases made
      | ok more =>
        simp only [others] at made
        cases made
        rw [make_ok first, hypothesis others, List.map_cons]

theorem itemsOf_map {A : Type} (intake : OrderIntake) (tenantId orderId : Uuid) (index : Nat)
    (priced : List PricedLine) (value : OrderItem → A) (same : PricedLine → A)
    (agrees : ∀ index line, value (orderItem intake tenantId orderId index line) = same line) :
    (itemsOf intake tenantId orderId index priced).map value = priced.map same := by
  induction priced generalizing index with
  | nil => rfl
  | cons line rest hypothesis =>
    rw [itemsOf, List.map_cons, List.map_cons, agrees, hypothesis]

theorem mem_itemsOf {intake : OrderIntake} {tenantId orderId : Uuid} {index : Nat}
    {priced : List PricedLine} {item : OrderItem}
    (member : item ∈ itemsOf intake tenantId orderId index priced) :
    ∃ line ∈ priced, ∃ position, item = orderItem intake tenantId orderId position line := by
  induction priced generalizing index with
  | nil => cases member
  | cons line rest hypothesis =>
    rcases List.mem_cons.mp member with here | later
    · exact ⟨line, List.mem_cons_self, index, here⟩
    · obtain ⟨other, there, found⟩ := hypothesis later
      exact ⟨other, List.mem_cons_of_mem _ there, found⟩

theorem priced_map {shop : Shop} {tenantId : Uuid} {currency : String}
    {lines : List OrderLineIn} {priced : List PricedLine}
    (prices : List.Forall₂ (Prices shop tenantId currency) lines priced) :
    (priced.map fun line => (line.productId, line.quantity)) =
      lines.map fun line => (line.productId, line.quantity) := by
  induction prices with
  | nil => rfl
  | cons head _ hypothesis =>
    rw [List.map_cons, List.map_cons, hypothesis, head.product, head.quantity]

theorem priced_sells {shop : Shop} {tenantId : Uuid} {currency : String}
    {lines : List OrderLineIn} {priced : List PricedLine}
    (prices : List.Forall₂ (Prices shop tenantId currency) lines priced) {line : PricedLine}
    (member : line ∈ priced) :
    line.currency = currency ∧
      shop.SellsAt tenantId line.productId ⟨line.unitPriceAmount, line.currency⟩ := by
  induction prices with
  | nil => cases member
  | cons head _ hypothesis =>
    rcases List.mem_cons.mp member with rfl | later
    · refine ⟨head.currency, ?_⟩
      rw [head.product]
      exact head.sells
    · exact hypothesis later

/-! ## All or nothing -/

/-- The order, its lines, its payment and the closing of the cart, committed together. -/
structure ClosesCart (context : Context) (shop : Shop) (cart : Cart) (order : Order)
    (items : List OrderItem) (payment : Payment) (final : Shop) : Prop where
  active : cart ∈ shop.carts.rows ∧ cart.tenantId = context.tenantId ∧
    customerId context = .ok cart.customerUserId ∧ cart.status = .active
  closed : final.carts = shop.carts.put (closedCart cart)
  orderRow : final.orders.rows = shop.orders.rows ++ [order]
  itemRows : final.orderItems.rows = shop.orderItems.rows ++ items
  paymentRow : final.billing.payments.rows = shop.billing.payments.rows ++ [payment]
  rest : final = { shop with
    carts := final.carts
    orders := final.orders
    orderItems := final.orderItems
    billing := { shop.billing with
      payments := final.billing.payments, events := final.billing.events }
    events := final.events }
  lines : (items.map fun item => (item.productId, item.quantity)) =
    (shop.cartLines context.tenantId cart.id).map fun line => (line.productId, line.quantity)
  owned : ∀ item ∈ items, item.orderId = order.id ∧ item.currency = order.currency
  prices : ∀ item ∈ items,
    shop.SellsAt context.tenantId item.productId ⟨item.unitPriceAmount, item.currency⟩
  total : order.totalAmount = (items.map fun item => item.unitPriceAmount * item.quantity).sum
  amount : payment.amount = ⟨order.totalAmount, order.currency⟩ ∧ 0 < payment.amount.amount
  links : payment.reference = Uuid.toStr order.id ∧ order.paymentId = some payment.id

theorem checkoutOf_ok {context : Context} {intake : OrderIntake} {provider : String}
    {customer : Uuid} {cart : Cart} {shop final : Shop} {result : OrderCheckoutDTO}
    (honest : AnswersOwn intake.payments) (unused : shop.Unused intake.newOrderId)
    (known : customerId context = .ok customer) (member : cart ∈ shop.carts.rows)
    (chosen : isActiveCart context.tenantId customer cart = true)
    (run : checkoutOf context intake provider customer cart shop = .ok result final) :
    ∃ order items payment, ClosesCart context shop cart order items payment final ∧
      result.orderId = order.id ∧ result.paymentId = payment.id := by
  unfold checkoutOf at run
  rw [Tx.bind_run, Tx.get_run] at run
  simp only at run
  obtain ⟨_, _, filled, afterCheck⟩ := (Tx.bind_ok_iff _ _ _ _ _).mp run
  obtain ⟨_, rfl⟩ := (Tx.require_ok_iff _ _ _ _ _).mp filled
  obtain ⟨lines, _, lifted, afterLines⟩ := (Tx.bind_ok_iff _ _ _ _ _).mp afterCheck
  obtain ⟨made, rfl⟩ := (Tx.liftExcept_ok_iff _ _ _ _).mp lifted
  obtain rfl := mapM_make_ok made
  obtain ⟨answer, placed, placing, afterOrder⟩ := (Tx.bind_ok_iff _ _ _ _ _).mp afterLines
  obtain ⟨placement, places, sameOrder, samePayment⟩ := placeOrder_ok unused placing
  obtain ⟨linked, _, _⟩ := places.linked honest
  obtain ⟨_, _, flushed, afterFlush⟩ := (Tx.bind_ok_iff _ _ _ _ _).mp afterOrder
  obtain rfl := flush_ok flushed
  obtain ⟨_, _, closing, afterCart⟩ := (Tx.bind_ok_iff _ _ _ _ _).mp afterFlush
  cases closing
  obtain ⟨_, _, emitted, done⟩ := (Tx.bind_ok_iff _ _ _ _ _).mp afterCart
  cases emitted
  cases done
  simp only [isActiveCart, Bool.and_eq_true, decide_eq_true_eq] at chosen
  obtain ⟨⟨owner, buyer⟩, active⟩ := chosen
  have items := places.writes.items
  have leaves := places.writes.leaves
  refine ⟨placement.order context intake, itemsOf intake context.tenantId intake.newOrderId 0
    placement.priced, placement.payment context intake provider,
    ⟨⟨member, owner, by rw [buyer]; exact known, active⟩, ?_, ?_, items, ?_, ?_, ?_, ?_, ?_, ?_,
      ⟨rfl, places.writes.positive⟩, ⟨rfl, ?_⟩⟩, sameOrder, ?_⟩
  · rw [leaves]
  · rw [leaves]
    rfl
  · rw [leaves]
    rfl
  · rw [leaves]
  · rw [itemsOf_map intake context.tenantId intake.newOrderId 0 placement.priced _
      (fun line => (line.productId, line.quantity)) (fun _ _ => rfl), priced_map places.prices,
      List.map_map]
    rfl
  · intro item there
    obtain ⟨line, priced, position, rfl⟩ := mem_itemsOf there
    exact ⟨rfl, (priced_sells places.prices priced).1⟩
  · intro item there
    obtain ⟨line, priced, position, rfl⟩ := mem_itemsOf there
    exact (priced_sells places.prices priced).2
  · rw [itemsOf_map intake context.tenantId intake.newOrderId 0 placement.priced _
      (fun line => line.unitPriceAmount * line.quantity) (fun _ _ => rfl)]
    rfl
  · exact congrArg some linked
  · exact samePayment.trans linked

/-- Every checkout either fails and leaves the shop as it was, or commits one order with
the cart's lines at the current prices, its payment over the total, and the closed cart. -/
theorem checkout_is_all_or_nothing (context : Context) (orders : Option OrderIntake)
    (provider : String) (shop : Shop)
    (honest : ∀ intake, orders = some intake → AnswersOwn intake.payments)
    (unused : ∀ intake, orders = some intake → shop.Unused intake.newOrderId) :
    (∃ error, Tx.commit (checkout context orders provider) shop = (.error error, shop)) ∨
      ∃ result final cart order items payment,
        Tx.commit (checkout context orders provider) shop = (.ok result, final) ∧
          ClosesCart context shop cart order items payment final ∧
          result.orderId = order.id ∧ result.paymentId = payment.id := by
  rcases Tx.commit_cases (checkout context orders provider) shop with
    ⟨result, final, run, committed⟩ | failed
  swap
  · exact Or.inl failed
  right
  obtain ⟨customer, seen, known, afterCustomer⟩ := (Tx.bind_ok_iff _ _ _ _ _).mp run
  obtain ⟨authenticated, same⟩ := (Tx.liftExcept_ok_iff _ _ _ _).mp known
  rw [same] at afterCustomer
  cases orders with
  | none => cases afterCustomer
  | some intake =>
    simp only at afterCustomer
    rw [Tx.bind_run, Tx.get_run] at afterCustomer
    simp only at afterCustomer
    cases found : (shop.carts.select (isActiveCart context.tenantId customer)).head? with
    | none =>
      rw [found] at afterCustomer
      cases afterCustomer
    | some cart =>
      rw [found] at afterCustomer
      obtain ⟨member, chosen⟩ := (Table.mem_select _ _ _).mp (List.mem_of_mem_head? found)
      obtain ⟨order, items, payment, closes, sameOrder, samePayment⟩ :=
        checkoutOf_ok (honest intake rfl) (unused intake rfl) authenticated member chosen
          afterCustomer
      exact ⟨result, final, cart, order, items, payment, committed, closes, sameOrder,
        samePayment⟩

namespace Sample

open BackendCore.Billing.Sample (tenant moment)

/-- A cart with three teas. -/
def filledShelf : Shop :=
  { shelf with
    carts := Table.empty.insert ⟨31, tenant, buyer, .active⟩ rfl
    cartItems := Table.empty.insert ⟨41, tenant, 31, 20, 3, 450, "UZS", moment⟩ rfl }

def paymeIntake : OrderIntake :=
  { orderIntake with
    payments := ⟨Billing.Sample.runtime, [.payme], 7, Billing.Payme.createCheckout "merchant"⟩ }

def soldShelf : Shop := leftBy (checkout buyerContext (some paymeIntake) "payme" filledShelf)

/-- The teas are sold at today's price, not at the one they were put in the cart for. -/
theorem three_teas_checked_out :
    ∃ result final cart order items payment,
      Tx.commit (checkout buyerContext (some paymeIntake) "payme") filledShelf =
          (.ok result, final) ∧
        ClosesCart buyerContext filledShelf cart order items payment final ∧
        order.totalAmount = 1500 := by
  have honest : AnswersOwn paymeIntake.payments := answersOwn_payme _ _ _ "merchant"
  have unused : filledShelf.Unused paymeIntake.newOrderId := by
    intro payment member
    cases member
  have answered : (returned (checkout buyerContext (some paymeIntake) "payme"
      filledShelf)).isSome = true := by decide +kernel
  obtain ⟨answer, isAnswer⟩ := Option.isSome_iff_exists.mp answered
  have done : checkout buyerContext (some paymeIntake) "payme" filledShelf =
      .ok answer soldShelf := ok_of_returned isAnswer
  have total : soldShelf.orders.rows.map Order.totalAmount = [1500] := by decide +kernel
  have outcome := checkout_is_all_or_nothing buyerContext (some paymeIntake) "payme" filledShelf
    (fun _ same => by cases same; exact honest) (fun _ same => by cases same; exact unused)
  rw [Tx.commit_of_ok done] at outcome
  rcases outcome with ⟨error, failed⟩ | ⟨_, final, cart, order, items, payment, same, closes, _⟩
  · cases failed
  · cases same
    refine ⟨answer, _, cart, order, items, payment, Tx.commit_of_ok done, closes, ?_⟩
    have rows := closes.orderRow
    rw [rows] at total
    simpa [filledShelf, shelf, Table.empty] using total

end Sample

end BackendCore.Commerce
