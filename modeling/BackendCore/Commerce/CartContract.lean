import BackendCore.Commerce.Cart

/-!
# What the cart requests keep

A cart and its lines are changed only by the holder of the cart's lock, so a line
carries the sum of the committed adds since the last remove.  A cart that is no
longer active stands still.  Each request has one commit: it adds to a line,
removes one or closes the cart.
-/

set_option autoImplicit false

namespace BackendCore.Commerce

open BackendCore.Python BackendCore.ReadCommitted

abbrev CartTable := Table CartRow.key

abbrev CartBase := Base CartRow.key CartAnswer

def HasCart (table : CartTable) (cart : Cart) : Prop :=
  table.get (.cart cart.id) = some (.cart cart)

def HasItem (table : CartTable) (item : CartItem) : Prop :=
  table.get (.item item.id) = some (.item item)

theorem HasCart.eq {table : CartTable} {left right : Cart} (leftHas : HasCart table left)
    (rightHas : HasCart table right) (same : left.id = right.id) : left = right := by
  unfold HasCart at leftHas rightHas
  rw [same, rightHas] at leftHas
  cases leftHas
  rfl

section Changes

variable (table : CartTable) (cart : Cart) (item : CartItem) (id : Uuid)

@[simp] theorem get_apply_cart : ((Change.store (.cart cart)).apply table).get (.cart id) =
    if id = cart.id then some (.cart cart) else table.get (.cart id) := by
  refine (table.get_store (.cart cart) (.cart id)).trans ?_
  simp only [CartRow.key, CartKey.cart.injEq]

@[simp] theorem get_apply_cart_item :
    ((Change.store (.cart cart)).apply table).get (.item id) = table.get (.item id) := by
  refine (table.get_store (.cart cart) (.item id)).trans (if_neg ?_)
  intro same
  cases same

@[simp] theorem get_apply_item : ((Change.store (.item item)).apply table).get (.item id) =
    if id = item.id then some (.item item) else table.get (.item id) := by
  refine (table.get_store (.item item) (.item id)).trans ?_
  simp only [CartRow.key, CartKey.item.injEq]

@[simp] theorem get_apply_item_cart :
    ((Change.store (.item item)).apply table).get (.cart id) = table.get (.cart id) := by
  refine (table.get_store (.item item) (.cart id)).trans (if_neg ?_)
  intro same
  cases same

@[simp] theorem get_apply_erase (j : Uuid) :
    ((Change.erase (.item j) : Change CartKey CartRow).apply table).get (.item id) =
      if id = j then none else table.get (.item id) := by
  refine (table.get_erase (.item j) (.item id)).trans ?_
  simp only [CartKey.item.injEq]

@[simp] theorem get_apply_erase_cart (j : Uuid) :
    ((Change.erase (.item j) : Change CartKey CartRow).apply table).get (.cart id) =
      table.get (.cart id) := by
  refine (table.get_erase (.item j) (.cart id)).trans (if_neg ?_)
  intro same
  cases same

end Changes

/-! ## What the log says about a line -/

/-- The quantity of a line after one more committed request. -/
def quantityAfter (cartId productId : Uuid) (quantity : Nat) : CartAnswer → Nat
  | .added cart product added _ =>
    if cart = cartId ∧ product = productId then quantity + added else quantity
  | .removed cart product _ => if cart = cartId ∧ product = productId then 0 else quantity
  | .checkedOut _ _ => quantity

/-- The sum of the committed adds since the last committed remove. -/
def sumOfAdds (log : List CartAnswer) (cartId productId : Uuid) : Nat :=
  log.foldl (quantityAfter cartId productId) 0

def CartAnswer.checksOut (cartId : Uuid) : CartAnswer → Bool
  | .checkedOut cart _ => cart = cartId
  | _ => false

def checkouts (log : List CartAnswer) (cartId : Uuid) : Nat :=
  log.countP (CartAnswer.checksOut cartId)

theorem sumOfAdds_append (log : List CartAnswer) (answer : CartAnswer) (cartId productId : Uuid) :
    sumOfAdds (log ++ [answer]) cartId productId =
      quantityAfter cartId productId (sumOfAdds log cartId productId) answer := by
  rw [sumOfAdds, List.foldl_append]
  rfl

theorem sumOfAdds_append_of_ne (log : List CartAnswer) {answer : CartAnswer} {cartId : Uuid}
    (productId : Uuid) (differs : answer.cartId ≠ cartId) :
    sumOfAdds (log ++ [answer]) cartId productId = sumOfAdds log cartId productId := by
  rw [sumOfAdds_append]
  cases answer with
  | added cart product quantity dto => exact if_neg fun same => differs same.1
  | removed cart product dto => exact if_neg fun same => differs same.1
  | checkedOut cart checkout => rfl

theorem checkouts_append (log : List CartAnswer) (answer : CartAnswer) (cartId : Uuid) :
    checkouts (log ++ [answer]) cartId =
      checkouts log cartId + if answer.checksOut cartId then 1 else 0 := by
  rw [checkouts, List.countP_append, List.countP_singleton]
  rfl

theorem checkouts_append_of_ne (log : List CartAnswer) {answer : CartAnswer} {cartId : Uuid}
    (differs : answer.cartId ≠ cartId) :
    checkouts (log ++ [answer]) cartId = checkouts log cartId := by
  rw [checkouts_append]
  cases answer with
  | added cart product quantity dto => rfl
  | removed cart product dto => rfl
  | checkedOut cart checkout =>
    have other : CartAnswer.checksOut cartId (.checkedOut cart checkout) = false :=
      decide_eq_false differs
    rw [other]
    rfl

/-! ## The invariant, cart by cart -/

structure CartAt (cartId : Uuid) (base : CartBase) : Prop where
  cartOf : ∀ item, HasItem base.table item → item.cartId = cartId →
    ∃ cart, HasCart base.table cart ∧ cart.id = cartId ∧ cart.tenantId = item.tenantId
  single : ∀ left right, HasItem base.table left → HasItem base.table right →
    left.cartId = cartId → right.cartId = cartId → left.productId = right.productId → left = right
  bounds : ∀ item, HasItem base.table item → item.cartId = cartId →
    1 ≤ item.quantity ∧ item.quantity ≤ maxLineQuantity
  currency : ∀ left right, HasItem base.table left → HasItem base.table right →
    left.cartId = cartId → right.cartId = cartId → left.currency = right.currency
  quantity : ∀ item, HasItem base.table item → item.cartId = cartId →
    item.quantity = sumOfAdds base.log cartId item.productId
  line : ∀ productId, 0 < sumOfAdds base.log cartId productId →
    ∃ item, HasItem base.table item ∧ item.cartId = cartId ∧ item.productId = productId
  once : checkouts base.log cartId ≤ 1
  closed : 0 < checkouts base.log cartId →
    ∃ cart, HasCart base.table cart ∧ cart.id = cartId ∧ cart.status ≠ .active

def Consistent (base : CartBase) : Prop := ∀ cartId, CartAt cartId base

/-- Nothing but one cart and its lines differs. -/
structure Within (cartId : Uuid) (now later : CartTable) : Prop where
  carts : ∀ id, id ≠ cartId → later.get (.cart id) = now.get (.cart id)
  items : ∀ item, item.cartId ≠ cartId → (HasItem now item ↔ HasItem later item)

theorem Within.hasCart {cartId : Uuid} {now later : CartTable} (within : Within cartId now later)
    {cart : Cart} (differs : cart.id ≠ cartId) : HasCart now cart ↔ HasCart later cart := by
  unfold HasCart
  rw [within.carts cart.id differs]

theorem CartAt.within {cartId other : Uuid} {base : CartBase} {table : CartTable}
    {answer : CartAnswer} (at_ : CartAt other base) (within : Within cartId base.table table)
    (concerns : answer.cartId = cartId) (differs : other ≠ cartId) :
    CartAt other ⟨table, base.log ++ [answer]⟩ := by
  have elsewhere : answer.cartId ≠ other := fun same => differs (same.symm.trans concerns)
  have back : ∀ item : CartItem, HasItem table item → item.cartId = other →
      HasItem base.table item := by
    intro item has here
    exact (within.items item (fun same => differs (here.symm.trans same))).mpr has
  have kept : ∀ cart : Cart, HasCart base.table cart → cart.id = other → HasCart table cart := by
    intro cart has here
    exact (within.hasCart (fun same => differs (here.symm.trans same))).mp has
  refine ⟨?_, ?_, ?_, ?_, ?_, ?_, ?_, ?_⟩
  · intro item has here
    obtain ⟨cart, stored, named, owner⟩ := at_.cartOf item (back item has here) here
    exact ⟨cart, kept cart stored named, named, owner⟩
  · intro left right leftHas rightHas leftHere rightHere
    exact at_.single left right (back left leftHas leftHere) (back right rightHas rightHere)
      leftHere rightHere
  · intro item has here
    exact at_.bounds item (back item has here) here
  · intro left right leftHas rightHas leftHere rightHere
    exact at_.currency left right (back left leftHas leftHere) (back right rightHas rightHere)
      leftHere rightHere
  · intro item has here
    rw [sumOfAdds_append_of_ne _ _ elsewhere]
    exact at_.quantity item (back item has here) here
  · intro productId positive
    rw [sumOfAdds_append_of_ne _ _ elsewhere] at positive
    obtain ⟨item, has, here, named⟩ := at_.line productId positive
    refine ⟨item, (within.items item ?_).mp has, here, named⟩
    exact fun same => differs (here.symm.trans same)
  · rw [checkouts_append_of_ne _ elsewhere]
    exact at_.once
  · intro positive
    rw [checkouts_append_of_ne _ elsewhere] at positive
    obtain ⟨cart, stored, named, inactive⟩ := at_.closed positive
    exact ⟨cart, kept cart stored named, named, inactive⟩

/-! ## The contract -/

/-- Carts that are no longer active stay as they are, with their lines. -/
def Frozen (now later : CartTable) : Prop :=
  ∀ cart, HasCart now cart → cart.status ≠ .active →
    HasCart later cart ∧ ∀ item, item.cartId = cart.id → (HasItem now item ↔ HasItem later item)

def SameLines (cartId : Uuid) (now later : CartTable) : Prop :=
  ∀ item, item.cartId = cartId → (HasItem now item ↔ HasItem later item)

def ActiveCart (table : CartTable) (buyer : Buyer) (cart : Cart) : Prop :=
  HasCart table cart ∧ activeClause buyer (.cart cart) = true

/-- The session is in the second locking read of `_open_cart`. -/
def Reopening (phase : Phase CartRow.key CartFailure CartAnswer) (buyer : Buyer) : Prop :=
  ∃ call price, call.buyer = buyer ∧ (phase = .running (reopen call price) ∨
    ∃ todo got, phase = .locking (activeClause call.buyer) todo got (reopened call price))

/-- What the runs have to promise for a cart to be opened: the ids drawn are fresh, and
a cart stays active while another session reads it for the second time. -/
def Calm (phase : Phase CartRow.key CartFailure CartAnswer) (now later : CartTable) : Prop :=
  (∀ id, phase.MayInsert (.cart id) → now.get (.cart id) = none → later.get (.cart id) = none) ∧
    ∀ buyer cart, Reopening phase buyer → ActiveCart now buyer cart → ActiveCart later buyer cart

/-- With `calm`, the runs promise what it takes to open a cart, and no request fails
to open one. -/
def cartContract (calm : Prop) : Contract CartRow.key CartFailure CartAnswer where
  invariant := Consistent
  guarantee := Frozen
  guards := fun k now later =>
    match k with
    | .cart cartId => SameLines cartId now later
    | .item _ => True
  assumes := fun phase now later => calm → Calm phase now later
  raises := fun failure => calm → failure ≠ .notOpened
  guarantee_refl := fun _ _ has _ => ⟨has, fun _ _ => Iff.rfl⟩
  guarantee_trans := by
    intro first second third earlier later cart has inactive
    obtain ⟨middle, same⟩ := earlier cart has inactive
    obtain ⟨last, again⟩ := later cart middle inactive
    exact ⟨last, fun item here => (same item here).trans (again item here)⟩
  guards_refl := by
    intro k table
    cases k with
    | cart cartId => exact fun _ _ => Iff.rfl
    | item id => trivial
  guards_trans := by
    intro k first second third earlier later
    cases k with
    | cart cartId => exact fun item here => (earlier item here).trans (later item here)
    | item id => trivial
  assumes_refl := fun _ _ _ => ⟨fun _ _ absent => absent, fun _ _ _ active => active⟩
  assumes_trans := by
    intro phase first second third earlier later calm
    refine ⟨?_, ?_⟩
    · intro id may absent
      exact (later calm).1 id may ((earlier calm).1 id may absent)
    · intro buyer cart reopening active
      exact (later calm).2 buyer cart reopening ((earlier calm).2 buyer cart reopening active)

theorem commits_within {calm : Prop} {cartId : Uuid} {answer : CartAnswer}
    {changes : List (Change CartKey CartRow)} {locks : List CartKey} {base : CartBase}
    (consistent : Consistent base) (held : CartKey.cart cartId ∈ locks)
    (active : ∀ cart, HasCart base.table cart → cart.id = cartId → cart.status = .active)
    (within : Within cartId base.table (overlay changes base.table))
    (concerns : answer.cartId = cartId)
    (at_ : CartAt cartId ⟨overlay changes base.table, base.log ++ [answer]⟩) :
    (cartContract calm).Commits answer changes locks base := by
  refine ⟨?_, ?_, ?_, trivial⟩
  · intro other
    by_cases here : other = cartId
    · rw [here]
      exact at_
    · exact (consistent other).within within concerns here
  · intro cart has inactive
    have differs : cart.id ≠ cartId := fun same => inactive (active cart has same)
    refine ⟨(within.hasCart differs).mp has, ?_⟩
    intro item here
    exact within.items item (fun same => differs (here.symm.trans same))
  · intro k free
    cases k with
    | cart other =>
      have differs : other ≠ cartId := by
        rintro rfl
        exact free held
      intro item here
      exact within.items item (fun same => differs (here.symm.trans same))
    | item id => trivial

/-! ## A session with its cart -/

/-- The session holds an active cart of its buyer, either a committed one or one it
has just opened. -/
structure Held (buyer : Buyer) (cart : Cart) (changes : List (Change CartKey CartRow))
    (locks : List CartKey) (base : CartBase) : Prop where
  locked : CartKey.cart cart.id ∈ locks
  active : activeClause buyer (.cart cart) = true
  place : changes = [] ∧ HasCart base.table cart ∨
    changes = [.store (.cart cart)] ∧ base.table.get (.cart cart.id) = none

section Holding

variable {calm : Prop} {buyer : Buyer} {cart : Cart} {changes : List (Change CartKey CartRow)}
variable {locks : List CartKey} {base last : CartBase}
variable {phase : Phase CartRow.key CartFailure CartAnswer}

theorem activeClause_status (chosen : activeClause buyer (.cart cart) = true) :
    cart.status = .active := by
  simp only [activeClause, Bool.and_eq_true, decide_eq_true_eq] at chosen
  exact chosen.2

theorem activeClause_tenant (chosen : activeClause buyer (.cart cart) = true) :
    cart.tenantId = buyer.tenantId := by
  simp only [activeClause, Bool.and_eq_true, decide_eq_true_eq] at chosen
  exact chosen.1.1

theorem activeClause_index (chosen : activeClause buyer (.cart cart) = true) :
    activeIndex (.cart cart) = some (.active buyer.tenantId buyer.customerUserId) := by
  simp only [activeClause, Bool.and_eq_true, decide_eq_true_eq] at chosen
  obtain ⟨⟨tenant, customer⟩, active⟩ := chosen
  rw [activeIndex, if_pos active, tenant, customer]

theorem Held.later (held : Held buyer cart changes locks base)
    {others : List (Change CartKey CartRow)}
    (rely : (cartContract calm).Rely cartIndexes phase others locks base last) :
    Held buyer cart changes locks last := by
  have kept := rely.kept _ held.locked
  refine ⟨held.locked, held.active, ?_⟩
  unfold HasCart
  rw [kept]
  exact held.place

theorem Held.lock (held : Held buyer cart changes locks base) (k : CartKey) :
    Held buyer cart changes (k :: locks) base :=
  ⟨List.mem_cons_of_mem _ held.locked, held.active, held.place⟩

theorem Held.sameLines (held : Held buyer cart changes locks base)
    {others : List (Change CartKey CartRow)}
    (rely : (cartContract calm).Rely cartIndexes phase others locks base last) :
    SameLines cart.id base.table last.table :=
  rely.guards _ held.locked

theorem Held.get_item (held : Held buyer cart changes locks base) (table : CartTable) (id : Uuid) :
    (overlay changes table).get (.item id) = table.get (.item id) := by
  rcases held.place with ⟨rfl, _⟩ | ⟨rfl, _⟩
  · rfl
  · exact get_apply_cart_item table cart id

theorem Held.hasItem (held : Held buyer cart changes locks base) (item : CartItem) :
    HasItem (overlay changes base.table) item ↔ HasItem base.table item := by
  unfold HasItem
  rw [held.get_item]

theorem Held.get_cart (held : Held buyer cart changes locks base) (id : Uuid) :
    (overlay changes base.table).get (.cart id) =
      if id = cart.id then some (.cart cart) else base.table.get (.cart id) := by
  rcases held.place with ⟨rfl, has⟩ | ⟨rfl, _⟩
  · change base.table.get (.cart id) = _
    split
    · rename_i same
      rw [same]
      exact has
    · rfl
  · exact get_apply_cart base.table cart id

theorem Held.active_of_hasCart (held : Held buyer cart changes locks base) (other : Cart)
    (has : HasCart base.table other) (same : other.id = cart.id) : other.status = .active := by
  rcases held.place with ⟨_, stored⟩ | ⟨_, absent⟩
  · rw [has.eq stored same]
    exact activeClause_status held.active
  · unfold HasCart at has
    rw [same, absent] at has
    cases has

theorem Held.tenant (held : Held buyer cart changes locks base) (consistent : Consistent base)
    {item : CartItem} (has : HasItem base.table item) (here : item.cartId = cart.id) :
    item.tenantId = buyer.tenantId := by
  obtain ⟨owner, stored, named, same⟩ := (consistent cart.id).cartOf item has here
  rcases held.place with ⟨_, own⟩ | ⟨_, absent⟩
  · rw [stored.eq own named] at same
    exact same.symm.trans (activeClause_tenant held.active)
  · unfold HasCart at stored
    rw [named, absent] at stored
    cases stored

theorem Held.checkouts_eq (held : Held buyer cart changes locks base)
    (consistent : Consistent base) : checkouts base.log cart.id = 0 := by
  refine Nat.eq_zero_of_not_pos ?_
  intro positive
  obtain ⟨other, stored, named, inactive⟩ := (consistent cart.id).closed positive
  exact inactive (held.active_of_hasCart other stored named)

end Holding

/-! ## Reading the lines -/

def OnLine (cartId productId : Uuid) (item : CartItem) : Prop :=
  item.cartId = cartId ∧ item.productId = productId

/-- The first of the lines a read has found, or that there is none. -/
def Shows (table : CartTable) (wanted : CartItem → Prop) : Option CartItem → Prop
  | some item => HasItem table item ∧ wanted item
  | none => ∀ item, HasItem table item → ¬wanted item

theorem Shows.later {now later : CartTable} {wanted : CartItem → Prop} {found : Option CartItem}
    {cartId : Uuid} (seen : Shows now wanted found)
    (here : ∀ item, wanted item → item.cartId = cartId) (same : SameLines cartId now later) :
    Shows later wanted found := by
  cases found with
  | some item => exact ⟨(same item (here item seen.2)).mp seen.1, seen.2⟩
  | none =>
    intro item has chosen
    exact seen item ((same item (here item chosen)).mpr has) chosen

theorem mem_items {rows : List CartRow} {item : CartItem} :
    item ∈ rows.filterMap CartRow.item? ↔ .item item ∈ rows := by
  rw [List.mem_filterMap]
  constructor
  · rintro ⟨row, member, same⟩
    cases row with
    | cart cart => cases same
    | item other =>
      cases same
      exact member
  · intro member
    exact ⟨.item item, member, rfl⟩

theorem mem_carts {rows : List CartRow} {cart : Cart} :
    cart ∈ rows.filterMap CartRow.cart? ↔ .cart cart ∈ rows := by
  rw [List.mem_filterMap]
  constructor
  · rintro ⟨row, member, same⟩
    cases row with
    | cart other =>
      cases same
      exact member
    | item item => cases same
  · intro member
    exact ⟨.cart cart, member, rfl⟩

section Reading

variable {buyer : Buyer} {cart : Cart} {changes : List (Change CartKey CartRow)}
variable {locks : List CartKey} {base : CartBase}

theorem Held.shows (held : Held buyer cart changes locks base) (consistent : Consistent base)
    {clause : CartRow → Bool} {wanted : CartItem → Prop}
    (reads : ∀ item, clause (.item item) = true ↔ item.tenantId = buyer.tenantId ∧ wanted item)
    (here : ∀ item, wanted item → item.cartId = cart.id) :
    Shows base.table wanted
      (((overlay changes base.table).select clause).filterMap CartRow.item?).head? := by
  have selected : ∀ item, item ∈ ((overlay changes base.table).select clause).filterMap
      CartRow.item? ↔ HasItem base.table item ∧ clause (.item item) = true := by
    intro item
    rw [mem_items, Table.mem_select, ← held.hasItem]
    refine and_congr_left fun _ => ?_
    exact ⟨fun member => Table.get_of_mem _ _ member, fun has => Table.mem_of_get has⟩
  cases found : (((overlay changes base.table).select clause).filterMap CartRow.item?).head? with
  | some item =>
    obtain ⟨has, chosen⟩ := (selected item).mp (List.mem_of_mem_head? found)
    exact ⟨has, ((reads item).mp chosen).2⟩
  | none =>
    rw [List.head?_eq_none_iff] at found
    intro item has chosen
    have owner := held.tenant consistent has (here item chosen)
    have member := (selected item).mpr ⟨has, (reads item).mpr ⟨owner, chosen⟩⟩
    rw [found] at member
    cases member

theorem lineClause_iff (productId : Uuid) (item : CartItem) :
    lineClause buyer cart.id productId (.item item) = true ↔
      item.tenantId = buyer.tenantId ∧ OnLine cart.id productId item := by
  simp only [lineClause, Bool.and_eq_true, decide_eq_true_eq, OnLine, and_assoc]

theorem linesClause_iff (item : CartItem) :
    linesClause buyer cart.id (.item item) = true ↔
      item.tenantId = buyer.tenantId ∧ item.cartId = cart.id := by
  simp only [linesClause, Bool.and_eq_true, decide_eq_true_eq]

end Reading

theorem single_of_unique {table : CartTable} (unique : table.Unique lineIndex)
    {left right : CartItem} (leftHas : HasItem table left) (rightHas : HasItem table right)
    (cart : left.cartId = right.cartId) (product : left.productId = right.productId) :
    left = right := by
  have filed : lineIndex (.item left) = some (.line right.cartId right.productId) := by
    rw [lineIndex, cart, product]
  have same := unique.eq (Table.mem_of_get leftHas) (Table.mem_of_get rightHas) filed rfl
  cases same
  rfl

/-! ## Adding to a cart -/

/-- The session has written a line of the cart it holds: the old one grown by the
quantity, or a new one. -/
structure Adds (buyer : Buyer) (cart : Cart) (quantity : Nat) (row : CartItem)
    (changes : List (Change CartKey CartRow)) (locks : List CartKey) (base : CartBase) : Prop where
  held : ∃ first, Held buyer cart first locks base ∧ changes = first ++ [.store (.item row)]
  locked : CartKey.item row.id ∈ locks
  here : row.cartId = cart.id
  tenant : row.tenantId = buyer.tenantId
  bound : row.quantity ≤ maxLineQuantity
  currency : ∀ item, HasItem base.table item → item.cartId = cart.id →
    item.currency = row.currency
  before :
    (∃ old, HasItem base.table old ∧ old.id = row.id ∧ OnLine cart.id row.productId old ∧
      row.quantity = quantity + old.quantity) ∨
    (base.table.get (.item row.id) = none ∧
      (∀ item, HasItem base.table item → ¬OnLine cart.id row.productId item) ∧
      row.quantity = quantity)

section Adding

variable {calm : Prop} {buyer : Buyer} {cart : Cart} {quantity : Nat} {row : CartItem}
variable {changes : List (Change CartKey CartRow)} {locks : List CartKey} {base last : CartBase}
variable {phase : Phase CartRow.key CartFailure CartAnswer}

theorem Adds.later (adds : Adds buyer cart quantity row changes locks base)
    (rely : (cartContract calm).Rely cartIndexes phase changes locks base last) :
    Adds buyer cart quantity row changes locks last := by
  obtain ⟨first, held, split⟩ := adds.held
  have same := held.sameLines rely
  refine ⟨⟨first, held.later rely, split⟩, adds.locked, adds.here, adds.tenant, adds.bound, ?_, ?_⟩
  · intro item has here
    exact adds.currency item ((same item here).mpr has) here
  · rcases adds.before with ⟨old, has, named, line, sum⟩ | ⟨absent, none, sum⟩
    · exact Or.inl ⟨old, (same old line.1).mp has, named, line, sum⟩
    · refine Or.inr ⟨(rely.kept _ adds.locked).trans absent, ?_, sum⟩
      intro item has line
      exact none item ((same item line.1).mpr has) line

theorem Adds.get_cart (adds : Adds buyer cart quantity row changes locks base) (id : Uuid) :
    (overlay changes base.table).get (.cart id) =
      if id = cart.id then some (.cart cart) else base.table.get (.cart id) := by
  obtain ⟨first, held, rfl⟩ := adds.held
  rw [overlay_append, get_apply_item_cart]
  exact held.get_cart id

theorem Adds.onLine_of_key (adds : Adds buyer cart quantity row changes locks base)
    {item : CartItem} (has : HasItem base.table item) (same : item.id = row.id) :
    OnLine cart.id row.productId item := by
  unfold HasItem at has
  rw [same] at has
  rcases adds.before with ⟨old, stored, named, line, _⟩ | ⟨absent, _, _⟩
  · unfold HasItem at stored
    rw [named, has] at stored
    cases stored
    exact line
  · rw [absent] at has
    cases has

theorem Adds.hasItem_iff (adds : Adds buyer cart quantity row changes locks base)
    (item : CartItem) : HasItem (overlay changes base.table) item ↔
      item = row ∨ HasItem base.table item ∧ item.id ≠ row.id := by
  obtain ⟨first, held, rfl⟩ := adds.held
  unfold HasItem
  rw [overlay_append, get_apply_item, held.get_item]
  by_cases same : item.id = row.id
  · rw [if_pos same]
    constructor
    · intro stored
      cases stored
      exact Or.inl rfl
    · rintro (rfl | ⟨_, differs⟩)
      · rfl
      · exact absurd same differs
  · rw [if_neg same]
    constructor
    · intro has
      exact Or.inr ⟨has, same⟩
    · rintro (rfl | ⟨has, _⟩)
      · exact absurd rfl same
      · exact has

theorem Adds.within (adds : Adds buyer cart quantity row changes locks base) :
    Within cart.id base.table (overlay changes base.table) := by
  refine ⟨?_, ?_⟩
  · intro id differs
    rw [adds.get_cart, if_neg differs]
  · intro item elsewhere
    rw [adds.hasItem_iff]
    constructor
    · intro has
      refine Or.inr ⟨has, ?_⟩
      intro same
      exact elsewhere (adds.onLine_of_key has same).1
    · rintro (rfl | ⟨has, _⟩)
      · exact absurd adds.here elsewhere
      · exact has

theorem Adds.quantity_eq (adds : Adds buyer cart quantity row changes locks base)
    (consistent : Consistent base) :
    row.quantity = sumOfAdds base.log cart.id row.productId + quantity := by
  rcases adds.before with ⟨old, has, _, line, sum⟩ | ⟨_, none, sum⟩
  · have said := (consistent cart.id).quantity old has line.1
    rw [line.2] at said
    rw [sum, said, Nat.add_comm]
  · have nothing : sumOfAdds base.log cart.id row.productId = 0 := by
      refine Nat.eq_zero_of_not_pos ?_
      intro positive
      obtain ⟨item, has, here, named⟩ := (consistent cart.id).line _ positive
      exact none item has ⟨here, named⟩
    rw [sum, nothing, Nat.zero_add]

theorem Adds.cartAt (adds : Adds buyer cart quantity row changes locks base)
    (consistent : Consistent base) (positive : 1 ≤ quantity)
    (unique : (overlay changes base.table).Unique lineIndex) (dto : CartDTO) :
    CartAt cart.id ⟨overlay changes base.table,
      base.log ++ [.added cart.id row.productId quantity dto]⟩ := by
  obtain ⟨first, held, _⟩ := adds.held
  have sum := adds.quantity_eq consistent
  have hasRow : HasItem (overlay changes base.table) row := (adds.hasItem_iff row).mpr (Or.inl rfl)
  have logged : ∀ productId, sumOfAdds
      (base.log ++ [.added cart.id row.productId quantity dto]) cart.id productId =
        if row.productId = productId then row.quantity
        else sumOfAdds base.log cart.id productId := by
    intro productId
    rw [sumOfAdds_append, quantityAfter]
    by_cases same : row.productId = productId
    · rw [if_pos ⟨rfl, same⟩, if_pos same, sum, same]
    · rw [if_neg fun both => same both.2, if_neg same]
  have unclosed :
      checkouts (base.log ++ [.added cart.id row.productId quantity dto]) cart.id = 0 := by
    rw [checkouts_append, held.checkouts_eq consistent]
    rfl
  refine ⟨?_, ?_, ?_, ?_, ?_, ?_, ?_, ?_⟩
  · intro item has here
    refine ⟨cart, ?_, rfl, ?_⟩
    · unfold HasCart
      rw [adds.get_cart, if_pos rfl]
    · rw [activeClause_tenant held.active]
      rcases (adds.hasItem_iff item).mp has with rfl | ⟨older, _⟩
      · exact adds.tenant.symm
      · exact (held.tenant consistent older here).symm
  · intro left right leftHas rightHas leftHere rightHere product
    exact single_of_unique unique leftHas rightHas (leftHere.trans rightHere.symm) product
  · intro item has here
    rcases (adds.hasItem_iff item).mp has with rfl | ⟨older, _⟩
    · exact ⟨by omega, adds.bound⟩
    · exact (consistent cart.id).bounds item older here
  · intro left right leftHas rightHas leftHere rightHere
    rcases (adds.hasItem_iff left).mp leftHas with rfl | ⟨leftOld, _⟩
    · rcases (adds.hasItem_iff right).mp rightHas with rfl | ⟨rightOld, _⟩
      · rfl
      · exact (adds.currency right rightOld rightHere).symm
    · rcases (adds.hasItem_iff right).mp rightHas with rfl | ⟨rightOld, _⟩
      · exact adds.currency left leftOld leftHere
      · exact (consistent cart.id).currency left right leftOld rightOld leftHere rightHere
  · intro item has here
    rw [logged]
    by_cases same : row.productId = item.productId
    · rw [if_pos same]
      rw [single_of_unique unique has hasRow (here.trans adds.here.symm) same.symm]
    · rw [if_neg same]
      rcases (adds.hasItem_iff item).mp has with rfl | ⟨older, _⟩
      · exact absurd rfl same
      · exact (consistent cart.id).quantity item older here
  · intro productId some
    rw [logged] at some
    by_cases same : row.productId = productId
    · exact ⟨row, hasRow, adds.here, same⟩
    · rw [if_neg same] at some
      obtain ⟨item, has, here, named⟩ := (consistent cart.id).line productId some
      refine ⟨item, (adds.hasItem_iff item).mpr (Or.inr ⟨has, ?_⟩), here, named⟩
      intro key
      exact same ((adds.onLine_of_key has key).2.symm.trans named)
  · rw [unclosed]
    exact Nat.zero_le 1
  · intro some
    rw [unclosed] at some
    cases some

theorem Adds.commits (adds : Adds buyer cart quantity row changes locks base)
    (consistent : Consistent base) (positive : 1 ≤ quantity)
    (unique : (overlay changes base.table).Unique lineIndex) (dto : CartDTO) :
    (cartContract calm).Commits (.added cart.id row.productId quantity dto) changes locks base := by
  obtain ⟨first, held, _⟩ := adds.held
  exact commits_within consistent held.locked held.active_of_hasCart adds.within rfl
    (adds.cartAt consistent positive unique dto)

end Adding

/-! ## Removing a line, closing the cart -/

/-- The session has erased a line of the committed cart it holds. -/
structure Removes (buyer : Buyer) (cart : Cart) (item : CartItem) (locks : List CartKey)
    (base : CartBase) : Prop where
  held : Held buyer cart [] locks base
  has : HasItem base.table item
  here : item.cartId = cart.id

section Removing

variable {calm : Prop} {buyer : Buyer} {cart : Cart} {item : CartItem}
variable {changes : List (Change CartKey CartRow)} {locks : List CartKey} {base last : CartBase}
variable {phase : Phase CartRow.key CartFailure CartAnswer}

theorem Removes.later (removes : Removes buyer cart item locks base)
    (rely : (cartContract calm).Rely cartIndexes phase changes locks base last) :
    Removes buyer cart item locks last :=
  ⟨removes.held.later rely,
    (removes.held.sameLines rely item removes.here).mp removes.has, removes.here⟩

theorem hasItem_erase (table : CartTable) (item other : CartItem) :
    HasItem (overlay [.erase (.item item.id)] table) other ↔
      HasItem table other ∧ other.id ≠ item.id := by
  have erased := get_apply_erase table other.id item.id
  change ((Change.erase (.item item.id) : Change CartKey CartRow).apply table).get
    (.item other.id) = some (.item other) ↔ _
  rw [erased]
  by_cases same : other.id = item.id
  · rw [if_pos same]
    exact ⟨fun stored => (nomatch stored), fun kept => absurd same kept.2⟩
  · rw [if_neg same]
    exact ⟨fun has => ⟨has, same⟩, fun kept => kept.1⟩

theorem HasItem.eq {table : CartTable} {left right : CartItem} (leftHas : HasItem table left)
    (rightHas : HasItem table right) (same : left.id = right.id) : left = right := by
  unfold HasItem at leftHas rightHas
  rw [same, rightHas] at leftHas
  cases leftHas
  rfl

theorem Removes.within (removes : Removes buyer cart item locks base) :
    Within cart.id base.table (overlay [.erase (.item item.id)] base.table) := by
  refine ⟨fun id _ => get_apply_erase_cart base.table id item.id, ?_⟩
  intro other elsewhere
  rw [hasItem_erase]
  refine ⟨fun has => ⟨has, ?_⟩, fun kept => kept.1⟩
  intro same
  rw [has.eq removes.has same] at elsewhere
  exact elsewhere removes.here

theorem Removes.cartAt (removes : Removes buyer cart item locks base)
    (consistent : Consistent base) (dto : CartDTO) :
    CartAt cart.id ⟨overlay [.erase (.item item.id)] base.table,
      base.log ++ [.removed cart.id item.productId dto]⟩ := by
  have before := consistent cart.id
  have logged : ∀ productId, sumOfAdds
      (base.log ++ [.removed cart.id item.productId dto]) cart.id productId =
        if item.productId = productId then 0 else sumOfAdds base.log cart.id productId := by
    intro productId
    rw [sumOfAdds_append, quantityAfter]
    simp only [true_and]
  have unclosed : checkouts (base.log ++ [.removed cart.id item.productId dto]) cart.id = 0 := by
    rw [checkouts_append, removes.held.checkouts_eq consistent]
    rfl
  refine ⟨?_, ?_, ?_, ?_, ?_, ?_, ?_, ?_⟩
  · intro other has here
    obtain ⟨owner, stored, rest⟩ := before.cartOf other ((hasItem_erase _ _ _).mp has).1 here
    exact ⟨owner, (get_apply_erase_cart _ _ _).trans stored, rest⟩
  · intro left right leftHas rightHas
    exact before.single left right ((hasItem_erase _ _ _).mp leftHas).1
      ((hasItem_erase _ _ _).mp rightHas).1
  · intro other has
    exact before.bounds other ((hasItem_erase _ _ _).mp has).1
  · intro left right leftHas rightHas
    exact before.currency left right ((hasItem_erase _ _ _).mp leftHas).1
      ((hasItem_erase _ _ _).mp rightHas).1
  · intro other has here
    obtain ⟨older, differs⟩ := (hasItem_erase _ _ _).mp has
    rw [logged]
    by_cases same : item.productId = other.productId
    · have equal := before.single other item older removes.has here removes.here same.symm
      exact absurd (congrArg CartItem.id equal) differs
    · rw [if_neg same]
      exact before.quantity other older here
  · intro productId positive
    rw [logged] at positive
    by_cases same : item.productId = productId
    · rw [if_pos same] at positive
      cases positive
    · rw [if_neg same] at positive
      obtain ⟨other, has, here, named⟩ := before.line productId positive
      refine ⟨other, (hasItem_erase _ _ _).mpr ⟨has, ?_⟩, here, named⟩
      intro key
      rw [has.eq removes.has key] at named
      exact same named
  · rw [unclosed]
    exact Nat.zero_le 1
  · intro positive
    rw [unclosed] at positive
    cases positive

theorem hasItem_close (table : CartTable) (item : CartItem) :
    HasItem (overlay [.store (.cart (closedCart cart))] table) item ↔ HasItem table item := by
  unfold HasItem
  exact Eq.congr_left (get_apply_cart_item table (closedCart cart) item.id)

theorem within_close (cart : Cart) (table : CartTable) :
    Within cart.id table (overlay [.store (.cart (closedCart cart))] table) := by
  refine ⟨?_, fun item _ => (hasItem_close table item).symm⟩
  intro id differs
  exact (get_apply_cart table (closedCart cart) id).trans (if_neg differs)

theorem Held.closes_cartAt (held : Held buyer cart [] locks base) (consistent : Consistent base)
    (checkout : OrderCheckoutDTO) :
    CartAt cart.id ⟨overlay [.store (.cart (closedCart cart))] base.table,
      base.log ++ [.checkedOut cart.id checkout]⟩ := by
  have before := consistent cart.id
  have hasClosed : HasCart (overlay [.store (.cart (closedCart cart))] base.table)
      (closedCart cart) :=
    (get_apply_cart base.table (closedCart cart) _).trans (if_pos rfl)
  have logged : ∀ productId, sumOfAdds (base.log ++ [.checkedOut cart.id checkout]) cart.id
      productId = sumOfAdds base.log cart.id productId := fun _ => sumOfAdds_append _ _ _ _
  refine ⟨?_, ?_, ?_, ?_, ?_, ?_, ?_, ?_⟩
  · intro item has here
    have owner := held.tenant consistent ((hasItem_close _ _).mp has) here
    exact ⟨closedCart cart, hasClosed, rfl, (activeClause_tenant held.active).trans owner.symm⟩
  · intro left right leftHas rightHas
    exact before.single left right ((hasItem_close _ _).mp leftHas)
      ((hasItem_close _ _).mp rightHas)
  · intro item has
    exact before.bounds item ((hasItem_close _ _).mp has)
  · intro left right leftHas rightHas
    exact before.currency left right ((hasItem_close _ _).mp leftHas)
      ((hasItem_close _ _).mp rightHas)
  · intro item has here
    rw [logged]
    exact before.quantity item ((hasItem_close _ _).mp has) here
  · intro productId positive
    rw [logged] at positive
    obtain ⟨item, has, rest⟩ := before.line productId positive
    exact ⟨item, (hasItem_close _ _).mpr has, rest⟩
  · rw [checkouts_append, held.checkouts_eq consistent]
    split
    · exact Nat.le_refl 1
    · exact Nat.zero_le 1
  · intro _
    refine ⟨closedCart cart, hasClosed, rfl, ?_⟩
    intro active
    cases active

end Removing

end BackendCore.Commerce
