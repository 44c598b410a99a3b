import BackendCore.Lib.FreshKeys
import BackendCore.Commerce.Orders

/-!
# The buyer's cart

The statements of `CartService` on the carts and their lines.  Every change locks
the buyer's active cart first.  The first add opens the cart under a savepoint
and reads it again, because a competitor may have opened one meanwhile.
-/

set_option autoImplicit false

namespace BackendCore.Commerce

open BackendCore.Python BackendCore.ReadCommitted

/-! ## Rows and indexes -/

inductive CartRow where
  | cart (row : Cart)
  | item (row : CartItem)
  deriving DecidableEq

inductive CartKey where
  | cart (id : Uuid)
  | item (id : Uuid)
  deriving DecidableEq

def CartRow.key : CartRow → CartKey
  | .cart row => .cart row.id
  | .item row => .item row.id

def CartRow.cart? : CartRow → Option Cart
  | .cart row => some row
  | .item _ => none

def CartRow.item? : CartRow → Option CartItem
  | .cart _ => none
  | .item row => some row

/-- A change of the columns of a cart. -/
def CartRow.onCart (change : Cart → Cart) : CartRow → CartRow
  | .cart row => .cart (change row)
  | .item row => .item row

/-- A change of the columns of a line. -/
def CartRow.onItem (change : CartItem → CartItem) : CartRow → CartRow
  | .cart row => .cart row
  | .item row => .item (change row)

theorem CartRow.onCart_key {change : Cart → Cart} (keeps : ∀ row, (change row).id = row.id)
    (row : CartRow) : (row.onCart change).key = row.key := by
  cases row with
  | cart row => exact congrArg CartKey.cart (keeps row)
  | item row => rfl

theorem CartRow.onItem_key {change : CartItem → CartItem} (keeps : ∀ row, (change row).id = row.id)
    (row : CartRow) : (row.onItem change).key = row.key := by
  cases row with
  | cart row => rfl
  | item row => exact congrArg CartKey.item (keeps row)

inductive CartIndexValue where
  | active (tenantId customerUserId : Uuid)
  | line (cartId productId : Uuid)
  deriving DecidableEq

/-- `uq_commerce_carts_one_active_per_customer`. -/
def activeIndex : CartRow → Option CartIndexValue
  | .cart row =>
    if row.status = .active then some (.active row.tenantId row.customerUserId) else none
  | .item _ => none

/-- `uq_commerce_cart_items_cart_id_product_id`. -/
def lineIndex : CartRow → Option CartIndexValue
  | .cart _ => none
  | .item row => some (.line row.cartId row.productId)

def cartIndexes : List (CartRow → Option CartIndexValue) := [activeIndex, lineIndex]

/-- The buyer a service was built for: the tenant and the actor of its context. -/
structure Buyer where
  tenantId : Uuid
  customerUserId : Uuid
  deriving DecidableEq

def activeClause (buyer : Buyer) : CartRow → Bool
  | .cart row => row.tenantId = buyer.tenantId && row.customerUserId = buyer.customerUserId &&
      row.status = .active
  | .item _ => false

def linesClause (buyer : Buyer) (cartId : Uuid) : CartRow → Bool
  | .cart _ => false
  | .item row => row.tenantId = buyer.tenantId && row.cartId = cartId

def lineClause (buyer : Buyer) (cartId productId : Uuid) : CartRow → Bool
  | .cart _ => false
  | .item row => row.tenantId = buyer.tenantId && row.cartId = cartId && row.productId = productId

/-! ## Answers -/

structure CartItemDTO where
  productId : Uuid
  quantity : Nat
  unitPriceAmount : Nat
  currency : String
  deriving DecidableEq

structure CartDTO where
  id : Uuid
  status : CartStatus
  currency : String
  totalAmount : Nat
  items : List CartItemDTO
  deriving DecidableEq

/-- `order_by=[CartItem.created_at]`. -/
def byCreation (items : List CartItem) : List CartItem :=
  items.insertionSort fun left right => left.createdAt ≤ right.createdAt

def toDto (cart : Cart) (rows : List CartRow) : CartDTO :=
  let items := byCreation (rows.filterMap CartRow.item?)
  { id := cart.id
    status := cart.status
    currency := (items.head?.map CartItem.currency).getD "UZS"
    totalAmount := (items.map fun item => item.unitPriceAmount * item.quantity).sum
    items := items.map fun item =>
      ⟨item.productId, item.quantity, item.unitPriceAmount, item.currency⟩ }

/-- What a committed request did, and to which cart. -/
inductive CartAnswer where
  | added (cartId productId : Uuid) (quantity : Nat) (cart : CartDTO)
  | removed (cartId productId : Uuid) (cart : CartDTO)
  | checkedOut (cartId : Uuid) (checkout : OrderCheckoutDTO)

def CartAnswer.cartId : CartAnswer → Uuid
  | .added cartId _ _ _ => cartId
  | .removed cartId _ _ => cartId
  | .checkedOut cartId _ => cartId

/-- `notOpened` is the branch of `_open_cart` that raises `InvariantViolationError`
with "could not open a cart"; it is told apart from the errors of the other services. -/
inductive CartFailure where
  | notOpened
  | raised (error : Exc)
  deriving DecidableEq

def CartFailure.exc : CartFailure → Exc
  | .notOpened => .invariantViolationError "could not open a cart"
  | .raised error => error

abbrev CartProg := Prog CartRow.key CartFailure CartAnswer

/-! ## `add_item` -/

def maxLineQuantity : Nat := 1000

/-- `price` is what `get_sale_info` answered; the ids are drawn for new rows. -/
structure AddCall where
  buyer : Buyer
  productId : Uuid
  quantity : Nat
  price : Except Exc Money
  newCartId : Uuid
  newItemId : Uuid
  createdAt : DateTime

def newCart (call : AddCall) : Cart :=
  ⟨call.newCartId, call.buyer.tenantId, call.buyer.customerUserId, .active⟩

def newLine (call : AddCall) (price : Money) (cart : Cart) : CartItem where
  id := call.newItemId
  tenantId := call.buyer.tenantId
  cartId := cart.id
  productId := call.productId
  quantity := call.quantity
  unitPriceAmount := price.amount
  currency := price.currency
  createdAt := call.createdAt

/-- The merged line, at the current price. -/
def mergedLine (total : Nat) (price : Money) (row : CartItem) : CartItem :=
  { row with quantity := total, unitPriceAmount := price.amount, currency := price.currency }

/-- The end of `add_item`, after the flush of the line. -/
def lineWritten (call : AddCall) (cart : Cart) : Reply → CartProg
  | .done =>
    .select (linesClause call.buyer cart.id) fun rows =>
      .ret (.added cart.id call.productId call.quantity (toDto cart rows))
  | .conflict => .raise (.raised .integrityError)
  | .missing => .raise (.raised (.unexpected "StaleDataError"))

def lineTotal (call : AddCall) (existing : Option CartItem) : Nat :=
  call.quantity + (existing.map CartItem.quantity).getD 0

def writeLine (call : AddCall) (price : Money) (cart : Cart) (total : Nat) :
    Option CartItem → CartProg
  | some item =>
    .write (.item item.id) (CartRow.onItem (mergedLine total price))
      (CartRow.onItem_key fun _ => rfl) (lineWritten call cart)
  | none => .insert (.item (newLine call price cart)) (lineWritten call cart)

def putLine (call : AddCall) (price : Money) (cart : Cart) (existing current : Option CartItem) :
    CartProg :=
  if current.any fun first => first.currency ≠ price.currency then
    .raise (.raised (.invariantViolationError "cart items must share one currency"))
  else if maxLineQuantity < lineTotal call existing then
    .raise (.raised (.invariantViolationError
      ("at most " ++ toString maxLineQuantity ++ " of one product per cart")))
  else writeLine call price cart (lineTotal call existing) existing

/-- `add_item` with its locked cart. -/
def fillCart (call : AddCall) (price : Money) (cart : Cart) : CartProg :=
  .select (lineClause call.buyer cart.id call.productId) fun existing =>
    .select (linesClause call.buyer cart.id) fun current =>
      putLine call price cart (existing.filterMap CartRow.item?).head?
        (current.filterMap CartRow.item?).head?

/-- `_open_cart` after its second read. -/
def reopened (call : AddCall) (price : Money) (rows : List CartRow) : CartProg :=
  match (rows.filterMap CartRow.cart?).head? with
  | some cart => fillCart call price cart
  | none => .raise .notOpened

def reopen (call : AddCall) (price : Money) : CartProg :=
  .lock (activeClause call.buyer) (reopened call price)

/-- `_open_cart` after its first read.  The `IntegrityError` of the insert is dropped
with its savepoint. -/
def opened (call : AddCall) (price : Money) (rows : List CartRow) : CartProg :=
  match (rows.filterMap CartRow.cart?).head? with
  | some cart => fillCart call price cart
  | none => .insert (.cart (newCart call)) fun _ => reopen call price

def addItem (call : AddCall) : CartProg :=
  match call.price with
  | .error error => .raise (.raised error)
  | .ok price => .lock (activeClause call.buyer) (opened call price)

/-! ## `remove_item` and `checkout` -/

/-- `_require_active_cart(lock=True)`. -/
def requireActiveCart (buyer : Buyer) (next : Cart → CartProg) : CartProg :=
  .lock (activeClause buyer) fun rows =>
    match (rows.filterMap CartRow.cart?).head? with
    | some cart => next cart
    | none => .raise (.raised (.notFoundError "no active cart"))

def dropLine (buyer : Buyer) (productId : Uuid) (cart : Cart) : Option CartItem → CartProg
  | none => .raise (.raised (.notFoundError "product is not in the cart"))
  | some item =>
    .erase (.item item.id) (.select (linesClause buyer cart.id) fun rows =>
      .ret (.removed cart.id productId (toDto cart rows)))

def removeItem (buyer : Buyer) (productId : Uuid) : CartProg :=
  requireActiveCart buyer fun cart =>
    .select (lineClause buyer cart.id productId) fun rows =>
      dropLine buyer productId cart (rows.filterMap CartRow.item?).head?

/-- The lines `checkout` hands to `place_order`. -/
def orderLines (rows : List CartRow) : Except Exc (List OrderLineIn) :=
  (byCreation (rows.filterMap CartRow.item?)).mapM fun item =>
    OrderLineIn.make item.productId item.quantity

def closedCart (row : Cart) : Cart := { row with status := .checkedOut }

def cartClosed (cart : Cart) (checkout : OrderCheckoutDTO) : Reply → CartProg
  | .done => .ret (.checkedOut cart.id checkout)
  | .conflict => .raise (.raised .integrityError)
  | .missing => .raise (.raised (.unexpected "StaleDataError"))

/-- `checkout`; `place` is `place_order`, which writes other tables. -/
def checkoutCart (buyer : Buyer) (place : List OrderLineIn → Except Exc OrderCheckoutDTO) :
    CartProg :=
  requireActiveCart buyer fun cart =>
    .select (linesClause buyer cart.id) fun rows =>
      if rows.filterMap CartRow.item? = [] then
        .raise (.raised (.invariantViolationError "cannot checkout an empty cart"))
      else
        match (orderLines rows).bind place with
        | .error error => .raise (.raised error)
        | .ok checkout =>
          .write (.cart cart.id) (CartRow.onCart closedCart) (CartRow.onCart_key fun _ => rfl)
            (cartClosed cart checkout)

inductive CartCall where
  | add (call : AddCall)
  | remove (buyer : Buyer) (productId : Uuid)
  | checkout (buyer : Buyer) (place : List OrderLineIn → Except Exc OrderCheckoutDTO)

def CartCall.prog : CartCall → CartProg
  | .add call => addItem call
  | .remove buyer productId => removeItem buyer productId
  | .checkout buyer place => checkoutCart buyer place

/-- `AddItemIn` admits no quantity below one. -/
def CartCall.Valid : CartCall → Prop
  | .add call => 1 ≤ call.quantity
  | _ => True

end BackendCore.Commerce
