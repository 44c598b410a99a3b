import BackendCore.Billing.PaymentService
import BackendCore.Shared.Events

/-!
# Commerce tables

The rows of the products, cart and orders features with the columns their code
reads, the shop database they live in beside the billing tables, and the public
price lookup of the products feature.
-/

set_option autoImplicit false

namespace BackendCore.Commerce

open BackendCore.Python
open BackendCore.Billing (BillingTx)

/-! ## Rows -/

inductive ProductStatus where
  | active
  | archived
  deriving DecidableEq, Repr

structure Product where
  id : Uuid
  tenantId : Uuid
  priceAmount : Nat
  currency : String
  status : ProductStatus
  deriving DecidableEq

inductive CartStatus where
  | active
  | checkedOut
  | abandoned
  deriving DecidableEq, Repr

structure Cart where
  id : Uuid
  tenantId : Uuid
  customerUserId : Uuid
  status : CartStatus
  deriving DecidableEq

structure CartItem where
  id : Uuid
  tenantId : Uuid
  cartId : Uuid
  productId : Uuid
  quantity : Nat
  unitPriceAmount : Nat
  currency : String
  createdAt : DateTime
  deriving DecidableEq

inductive OrderStatus where
  | pending
  | paid
  | canceled
  deriving DecidableEq, Repr

structure Order where
  id : Uuid
  tenantId : Uuid
  customerUserId : Uuid
  status : OrderStatus
  totalAmount : Nat
  currency : String
  paymentId : Option Uuid
  deriving DecidableEq

structure OrderItem where
  id : Uuid
  tenantId : Uuid
  orderId : Uuid
  productId : Uuid
  quantity : Nat
  unitPriceAmount : Nat
  currency : String
  deriving DecidableEq

inductive Payload where
  | orderCreated (orderId customerUserId : Uuid) (totalAmount : Nat) (currency : String)
  | orderPaid (orderId : Uuid) (paymentId : Option Uuid) (late : Bool)
  | orderCanceled (orderId : Uuid) (reason : String)
  | cartCheckedOut (cartId customerUserId orderId : Uuid)
  deriving DecidableEq

structure Event where
  tenantId : Uuid
  payload : Payload
  deriving DecidableEq

/-! ## The database -/

structure Shop where
  products : Table Product.id
  carts : Table Cart.id
  cartItems : Table CartItem.id
  orders : Table Order.id
  orderItems : Table OrderItem.id
  billing : Billing.Db
  events : List Event

abbrev ShopTx := Tx Exc Shop

/-- A call into billing within the same transaction. -/
def onBilling {α : Type} (body : BillingTx α) : ShopTx α := fun shop =>
  match body shop.billing with
  | .ok value billing => .ok value { shop with billing := billing }
  | .error raised billing => .error raised { shop with billing := billing }

/-- `Service.emit` in a context of the given tenant. -/
def emit (tenantId : Uuid) (payload : Payload) : ShopTx Unit :=
  modify fun shop => { shop with events := shop.events ++ [⟨tenantId, payload⟩] }

/-- The flushes of a checkout, each of which the database may refuse. -/
inductive FlushPoint where
  | order
  | item (index : Nat)
  | payment
  | link
  | cart

def flush (refusal : FlushPoint → Option Exc) (point : FlushPoint) : ShopTx Unit :=
  match refusal point with
  | none => pure ()
  | some raised => throw raised

def insertOrder (order : Order) : ShopTx Unit := do
  let shop ← get
  if fresh : shop.orders.get order.id = none then
    modify fun _ => { shop with orders := shop.orders.insert order fresh }
  else throw .integrityError

def insertOrderItem (item : OrderItem) : ShopTx Unit := do
  let shop ← get
  if fresh : shop.orderItems.get item.id = none then
    modify fun _ => { shop with orderItems := shop.orderItems.insert item fresh }
  else throw .integrityError

def putOrder (order : Order) : ShopTx Unit :=
  modify fun shop => { shop with orders := shop.orders.put order }

theorem onBilling_ok_iff {α : Type} (body : BillingTx α) (shop final : Shop) (result : α) :
    onBilling body shop = .ok result final ↔
      ∃ billing, body shop.billing = .ok result billing ∧
        final = { shop with billing := billing } := by
  unfold onBilling
  cases body shop.billing with
  | ok value billing =>
    constructor
    · intro run
      cases run
      exact ⟨billing, rfl, rfl⟩
    · rintro ⟨_, same, rfl⟩
      cases same
      rfl
  | error raised billing =>
    constructor
    · intro run
      cases run
    · rintro ⟨_, same, _⟩
      cases same

theorem flush_ok {refusal : FlushPoint → Option Exc} {point : FlushPoint} {shop final : Shop}
    {result : Unit} (run : flush refusal point shop = .ok result final) : final = shop := by
  unfold flush at run
  cases refused : refusal point with
  | none =>
    rw [refused] at run
    cases run
    rfl
  | some raised =>
    rw [refused] at run
    cases run

theorem insertOrder_ok {order : Order} {shop final : Shop} {result : Unit}
    (run : insertOrder order shop = .ok result final) :
    ∃ fresh : shop.orders.get order.id = none,
      final = { shop with orders := shop.orders.insert order fresh } := by
  unfold insertOrder at run
  rw [Tx.bind_run, Tx.get_run] at run
  by_cases fresh : shop.orders.get order.id = none
  · simp only [dif_pos fresh] at run
    cases run
    exact ⟨fresh, rfl⟩
  · simp only [dif_neg fresh] at run
    cases run

theorem insertOrderItem_ok {item : OrderItem} {shop final : Shop} {result : Unit}
    (run : insertOrderItem item shop = .ok result final) :
    ∃ fresh : shop.orderItems.get item.id = none,
      final = { shop with orderItems := shop.orderItems.insert item fresh } := by
  unfold insertOrderItem at run
  rw [Tx.bind_run, Tx.get_run] at run
  by_cases fresh : shop.orderItems.get item.id = none
  · simp only [dif_pos fresh] at run
    cases run
    exact ⟨fresh, rfl⟩
  · simp only [dif_neg fresh] at run
    cases run

/-! ## Buyers and prices -/

/-- The context of a buyer's request; repositories refuse one without a tenant. -/
structure Context where
  tenantId : Uuid
  actor : Events.Actor

/-- `_customer_id`. -/
def customerId (context : Context) : Except Exc Uuid :=
  match context.actor.kind, context.actor.id with
  | .user, some id =>
    match Uuid.ofStr? id with
    | some customer => .ok customer
    | none => .error .valueError
  | _, _ => .error (.authenticationError "storefront requires an authenticated buyer")

/-- `ProductService.get_sale_info`. -/
def getSaleInfo (runtime : Runtime) (tenantId productId : Uuid) : ShopTx Money := do
  let shop ← get
  match (shop.products.get productId).filter fun product => product.tenantId = tenantId with
  | none => throw (.notFoundError ("Product " ++ Uuid.toStr productId ++ " not found"))
  | some product =>
    Tx.require (product.status = .active)
      (.invariantViolationError "product is not available for sale")
    Tx.liftExcept (Money.make runtime.unicode product.priceAmount product.currency)

/-- The current sale price of a product, as its row has it. -/
def Shop.SellsAt (shop : Shop) (tenantId productId : Uuid) (price : Money) : Prop :=
  ∃ product, shop.products.get productId = some product ∧ product.tenantId = tenantId ∧
    product.status = .active ∧ price = ⟨product.priceAmount, product.currency⟩

theorem Money.make_ok {data : UnicodeData} {amount : Nat} {currency : String} {money : Money}
    (made : Money.make data amount currency = .ok money) :
    money = ⟨amount, currency⟩ ∧ currency ≠ "" := by
  unfold Money.make at made
  rw [if_neg (by omega)] at made
  split at made
  · cases made
  · rename_i accepted
    push Not at accepted
    cases made
    refine ⟨rfl, ?_⟩
    rintro rfl
    exact absurd accepted.1 (by decide)

theorem getSaleInfo_ok {runtime : Runtime} {tenantId productId : Uuid} {shop final : Shop}
    {price : Money} (run : getSaleInfo runtime tenantId productId shop = .ok price final) :
    final = shop ∧ shop.SellsAt tenantId productId price ∧ price.currency ≠ "" := by
  unfold getSaleInfo at run
  rw [Tx.bind_run, Tx.get_run] at run
  simp only at run
  cases chosen : (shop.products.get productId).filter
      fun product => decide (product.tenantId = tenantId) with
  | none =>
    rw [chosen] at run
    cases run
  | some product =>
    rw [chosen] at run
    obtain ⟨stored, owner⟩ := Option.filter_eq_some_iff.mp chosen
    obtain ⟨_, _, available, priced⟩ := (Tx.bind_ok_iff _ _ _ _ _).mp run
    obtain ⟨active, rfl⟩ := (Tx.require_ok_iff _ _ _ _ _).mp available
    obtain ⟨made, rfl⟩ := (Tx.liftExcept_ok_iff _ _ _ _).mp priced
    obtain ⟨rfl, named⟩ := Money.make_ok made
    exact ⟨rfl, ⟨product, stored, of_decide_eq_true owner, of_decide_eq_true active, rfl⟩, named⟩

end BackendCore.Commerce
