import Mathlib
import BackendCore.Commerce.CartContract

/-!
# Requests of a buyer at the same time

The requests follow the contract at every statement, so every run keeps it.  A
first add whose insert was refused finds the competitor's cart in its second
read, unless that cart is checked out in between.
-/

set_option autoImplicit false

namespace BackendCore.Commerce

open BackendCore.Python BackendCore.ReadCommitted

/-! ## The outline of `add_item` -/

section AddOutline

variable {calm : Prop} {call : AddCall} {price : Money} {cart : Cart}
variable {changes : List (Change CartKey CartRow)} {locks : List CartKey} {base : CartBase}

theorem raised_outline (error : Exc) : (Prog.raise (.raised error) : CartProg).Outline
    (cartContract calm) cartIndexes changes locks base := by
  intro _ same
  cases same

theorem lineIndex_mem : lineIndex ∈ cartIndexes := List.mem_cons_of_mem _ List.mem_cons_self

theorem activeIndex_mem : activeIndex ∈ cartIndexes := List.mem_cons_self

theorem lineWritten_outline {row : CartItem}
    (adds : Adds call.buyer cart call.quantity row changes locks base)
    (product : row.productId = call.productId) (positive : 1 ≤ call.quantity) :
    (lineWritten call cart .done).Outline (cartContract calm) cartIndexes changes locks base := by
  intro middle rely last after
  have ends := (adds.later rely).later after
  rw [← product]
  exact ends.commits after.invariant positive (after.unique lineIndex lineIndex_mem) _

theorem writeLine_outline {existing : Option CartItem}
    (held : Held call.buyer cart changes locks base)
    (line : Shows base.table (OnLine cart.id call.productId) existing)
    (bounded : lineTotal call existing ≤ maxLineQuantity)
    (priced : ∀ item, HasItem base.table item → item.cartId = cart.id →
      item.currency = price.currency)
    (positive : 1 ≤ call.quantity) :
    (writeLine call price cart (lineTotal call existing) existing).Outline (cartContract calm)
      cartIndexes changes locks base := by
  cases existing with
  | some item =>
    intro later rely
    have holds := held.later rely
    have same := held.sameLines rely
    obtain ⟨stored, onLine⟩ := line.later (fun _ wanted => wanted.1) same
    have found : (overlay changes later.table).get (.item item.id) = some (.item item) :=
      (holds.get_item _ _).trans stored
    simp only [found]
    split
    · have adds : Adds call.buyer cart call.quantity
          (mergedLine (lineTotal call (some item)) price item)
          (changes ++ [.store (.item (mergedLine (lineTotal call (some item)) price item))])
          (.item item.id :: locks) later := by
        have owner : item.tenantId = call.buyer.tenantId :=
          holds.tenant rely.invariant stored onLine.1
        refine ⟨⟨changes, holds.lock _, rfl⟩, List.mem_cons_self, onLine.1, owner, bounded, ?_,
          Or.inl ⟨item, stored, rfl, ⟨onLine.1, rfl⟩, rfl⟩⟩
        intro other has here
        exact priced other ((same other here).mpr has) here
      exact lineWritten_outline adds onLine.2 positive
    · exact raised_outline _
  | none =>
    intro later rely
    have holds := held.later rely
    have same := held.sameLines rely
    have absent := line.later (fun _ wanted => wanted.1) same
    split
    · rename_i passes
      rw [Bool.and_eq_true, Option.isNone_iff_eq_none] at passes
      have adds : Adds call.buyer cart call.quantity (newLine call price cart)
          (changes ++ [.store (.item (newLine call price cart))])
          (.item call.newItemId :: locks) later := by
        refine ⟨⟨changes, holds.lock _, rfl⟩, List.mem_cons_self, rfl, rfl, bounded, ?_,
          Or.inr ⟨(holds.get_item _ _).symm.trans passes.1, absent, rfl⟩⟩
        intro other has here
        exact priced other ((same other here).mpr has) here
      exact lineWritten_outline adds rfl positive
    · exact raised_outline _

theorem putLine_outline {existing current : Option CartItem}
    (held : Held call.buyer cart changes locks base) (consistent : Consistent base)
    (line : Shows base.table (OnLine cart.id call.productId) existing)
    (lines : Shows base.table (fun item => item.cartId = cart.id) current)
    (positive : 1 ≤ call.quantity) :
    (putLine call price cart existing current).Outline (cartContract calm) cartIndexes changes
      locks base := by
  unfold putLine
  split
  · exact raised_outline _
  rename_i agrees
  split
  · exact raised_outline _
  rename_i bounded
  refine writeLine_outline held line (Nat.le_of_not_lt bounded) ?_ positive
  intro item has here
  cases current with
  | none => exact absurd here (lines item has)
  | some first =>
    have same : first.currency = price.currency := by
      simpa using agrees
    exact ((consistent cart.id).currency item first has lines.1 here lines.2).trans same

theorem fillCart_outline (held : Held call.buyer cart changes locks base)
    (positive : 1 ≤ call.quantity) :
    (fillCart call price cart).Outline (cartContract calm) cartIndexes changes locks base := by
  intro first rely second after
  have holds := held.later rely
  have line := holds.shows rely.invariant (lineClause_iff call.productId) fun _ wanted => wanted.1
  have lines := (holds.later after).shows after.invariant linesClause_iff fun _ wanted => wanted
  exact putLine_outline (holds.later after) after.invariant
    (line.later (fun _ wanted => wanted.1) (holds.sameLines after)) lines positive

theorem held_of_rows {got : List CartRow} {buyer : Buyer}
    (rows : HeldRows (activeClause buyer) [] got locks base)
    (first : (got.filterMap CartRow.cart?).head? = some cart) : Held buyer cart [] locks base := by
  have member : .cart cart ∈ got := mem_carts.mp (List.mem_of_mem_head? first)
  obtain ⟨chosen, locked, stands⟩ := rows _ member
  exact ⟨locked, chosen, Or.inl ⟨rfl, stands⟩⟩

theorem held_of_opened {got : List CartRow} {buyer : Buyer} {new : Cart}
    (rows : HeldRows (activeClause buyer) [.store (.cart new)] got locks base)
    (unique : (overlay [.store (.cart new)] base.table).Unique activeIndex)
    (active : activeClause buyer (.cart new) = true) (absent : base.table.get (.cart new.id) = none)
    (first : (got.filterMap CartRow.cart?).head? = some cart) :
    Held buyer cart [.store (.cart new)] locks base := by
  have member : .cart cart ∈ got := mem_carts.mp (List.mem_of_mem_head? first)
  obtain ⟨chosen, locked, stands⟩ := rows _ member
  have own : (overlay [.store (.cart new)] base.table).get (.cart new.id) = some (.cart new) :=
    (get_apply_cart base.table new new.id).trans (if_pos rfl)
  have same := unique.eq (Table.mem_of_get stands) (Table.mem_of_get own)
    (activeClause_index chosen) (activeClause_index active)
  cases same
  exact ⟨locked, chosen, Or.inr ⟨rfl, absent⟩⟩

theorem reopened_outline {got : List CartRow} (positive : 1 ≤ call.quantity)
    (found : calm → (got.filterMap CartRow.cart?).head? ≠ none)
    (holds : ∀ cart, (got.filterMap CartRow.cart?).head? = some cart →
      Held call.buyer cart changes locks base) :
    (reopened call price got).Outline (cartContract calm) cartIndexes changes locks base := by
  unfold reopened
  cases first : (got.filterMap CartRow.cart?).head? with
  | some cart => exact fillCart_outline (holds cart first) positive
  | none => exact fun quiet => absurd first (found quiet)

theorem newCart_active (call : AddCall) :
    activeClause call.buyer (.cart (newCart call)) = true := by
  simp [activeClause, newCart]

theorem reopen_outline_own (positive : 1 ≤ call.quantity)
    (locked : CartKey.cart call.newCartId ∈ locks)
    (absent : base.table.get (.cart call.newCartId) = none) :
    (reopen call price).Outline (cartContract calm) cartIndexes [.store (.cart (newCart call))]
      locks base := by
  refine Prog.outline_lock
    (fun locks base => CartKey.cart call.newCartId ∈ locks ∧
      base.table.get (.cart call.newCartId) = none)
    (fun row => row = .cart (newCart call)) ?_ ?_ ?_ ?_ ?_
  · intro last rely
    exact ⟨locked, (rely.kept _ locked).trans absent⟩
  · rintro todo got locks base last ⟨locked, absent⟩ rely
    exact ⟨locked, (rely.kept _ locked).trans absent⟩
  · rintro k locks base ⟨locked, absent⟩
    exact ⟨List.mem_cons_of_mem _ locked, absent⟩
  · rintro row locks base rfl _
    refine ⟨newCart_active call, ?_⟩
    exact (get_apply_cart base.table (newCart call) _).trans (if_pos rfl)
  · rintro got locks base ⟨_, absent⟩ rows targets unique
    refine reopened_outline positive ?_ ?_
    · intro _ nothing
      rw [List.head?_eq_none_iff] at nothing
      have member := mem_carts.mpr (targets _ rfl)
      rw [nothing] at member
      cases member
    · intro cart first
      exact held_of_opened rows (unique activeIndex activeIndex_mem) (newCart_active call) absent
        first

theorem reopen_outline_other (positive : 1 ≤ call.quantity)
    (active : calm → ∃ cart, ActiveCart base.table call.buyer cart) :
    (reopen call price).Outline (cartContract calm) cartIndexes [] locks base := by
  by_cases quiet : calm
  · obtain ⟨target, standing⟩ := active quiet
    refine Prog.outline_lock (fun _ base => ActiveCart base.table call.buyer target)
      (fun row => row = .cart target) ?_ ?_ ?_ ?_ ?_
    · intro last rely
      exact (rely.assumes quiet).2 _ _ ⟨call, price, rfl, Or.inl rfl⟩ standing
    · intro todo got locks base last standing rely
      exact (rely.assumes quiet).2 _ _ ⟨call, price, rfl, Or.inr ⟨todo, got, rfl⟩⟩ standing
    · exact fun _ _ _ standing => standing
    · rintro row locks base rfl standing
      exact ⟨standing.2, standing.1⟩
    · intro got locks base _ rows targets unique
      refine reopened_outline positive ?_ fun cart first => held_of_rows rows first
      intro _ nothing
      rw [List.head?_eq_none_iff] at nothing
      have member := mem_carts.mpr (targets _ rfl)
      rw [nothing] at member
      cases member
  · refine Prog.outline_lock (fun _ _ => True) (fun _ => False) (fun _ _ => trivial)
      (fun _ _ _ _ _ _ _ => trivial) (fun _ _ _ _ => trivial) (fun _ _ _ none _ => none.elim) ?_
    intro got locks base _ rows _ unique
    exact reopened_outline positive (fun calm => absurd calm quiet)
      fun cart first => held_of_rows rows first

theorem active_of_refused (table : CartTable) (fresh : table.get (.cart call.newCartId) = none)
    (refused : ¬((table.get (CartRow.cart (newCart call)).key).isNone &&
      fits cartIndexes table (.cart (newCart call))) = true) :
    ∃ cart, ActiveCart table call.buyer cart := by
  by_contra nobody
  push Not at nobody
  refine refused ?_
  rw [Bool.and_eq_true, Option.isNone_iff_eq_none]
  refine ⟨fresh, fits_of_free ?_⟩
  intro index indexed
  rcases List.mem_cons.mp indexed with rfl | indexed
  · intro other member _ value filed otherFiled
    cases other with
    | item item => cases otherFiled
    | cart cart =>
      refine nobody cart ⟨table.get_of_mem _ member, ?_⟩
      rw [activeClause_index (newCart_active call)] at filed
      rw [← filed, activeIndex] at otherFiled
      split at otherFiled
      · rename_i active
        rw [Option.some.injEq, CartIndexValue.active.injEq] at otherFiled
        simp [activeClause, active, otherFiled]
      · cases otherFiled
  · rw [List.mem_singleton] at indexed
    rw [indexed]
    exact table.free_of_unindexed _ rfl

theorem opened_outline {got : List CartRow} (positive : 1 ≤ call.quantity)
    (rows : HeldRows (activeClause call.buyer) [] got locks base)
    (fresh : calm → base.table.get (.cart call.newCartId) = none) :
    (opened call price got).Outline (cartContract calm) cartIndexes [] locks base := by
  unfold opened
  cases first : (got.filterMap CartRow.cart?).head? with
  | some cart => exact fillCart_outline (held_of_rows rows first) positive
  | none =>
    intro later rely
    split
    · rename_i passes
      rw [Bool.and_eq_true, Option.isNone_iff_eq_none] at passes
      exact reopen_outline_own positive List.mem_cons_self passes.1
    · rename_i refused
      refine reopen_outline_other positive ?_
      intro quiet
      refine active_of_refused later.table ?_ refused
      exact (rely.assumes quiet).1 _ (Or.inl rfl) (fresh quiet)

theorem addItem_outline (positive : 1 ≤ call.quantity)
    (fresh : calm → base.table.get (.cart call.newCartId) = none) :
    (addItem call).Outline (cartContract calm) cartIndexes [] [] base := by
  unfold addItem
  cases call.price with
  | error error => exact raised_outline error
  | ok price =>
    have may : ∃ rows, (opened call price rows).MayInsert (.cart call.newCartId) :=
      ⟨[], Or.inl rfl⟩
    refine Prog.outline_lock
      (fun _ base => calm → base.table.get (.cart call.newCartId) = none) (fun _ => False)
      ?_ ?_ (fun _ _ _ fresh => fresh) (fun _ _ _ none _ => none.elim) ?_
    · intro last rely quiet
      exact (rely.assumes quiet).1 _ may (fresh quiet)
    · intro todo got locks base last fresh rely quiet
      exact (rely.assumes quiet).1 _ may (fresh quiet)
    · intro got locks base fresh rows _ _
      exact opened_outline positive rows fresh

end AddOutline

/-! ## The outlines of `remove_item` and `checkout` -/

section CloseOutline

variable {calm : Prop} {buyer : Buyer} {cart : Cart} {locks : List CartKey} {base : CartBase}

theorem requireActiveCart_outline {next : Cart → CartProg}
    (outline : ∀ cart locks base, Held buyer cart [] locks base →
      (next cart).Outline (cartContract calm) cartIndexes [] locks base) :
    (requireActiveCart buyer next).Outline (cartContract calm) cartIndexes [] locks base := by
  refine Prog.outline_lock (fun _ _ => True) (fun _ => False) (fun _ _ => trivial)
    (fun _ _ _ _ _ _ _ => trivial) (fun _ _ _ _ => trivial) (fun _ _ _ none _ => none.elim) ?_
  intro got locks base _ rows _ _
  cases first : (got.filterMap CartRow.cart?).head? with
  | some cart =>
    simp only
    exact outline cart locks base (held_of_rows rows first)
  | none =>
    simp only
    exact raised_outline _

theorem dropLine_outline {productId : Uuid} {found : Option CartItem}
    (held : Held buyer cart [] locks base)
    (line : Shows base.table (OnLine cart.id productId) found) :
    (dropLine buyer productId cart found).Outline (cartContract calm) cartIndexes [] locks
      base := by
  cases found with
  | none => exact raised_outline _
  | some item =>
    intro later rely
    have holds := held.later rely
    obtain ⟨stored, onLine⟩ := line.later (fun _ wanted => wanted.1) (held.sameLines rely)
    have removes : Removes buyer cart item (.item item.id :: locks) later :=
      ⟨holds.lock _, stored, onLine.1⟩
    have present : ((overlay [] later.table).get (.item item.id)).isSome = true := by
      change (later.table.get (.item item.id)).isSome = true
      rw [stored]
      rfl
    rw [if_pos present]
    intro middle after last final
    have ends := (removes.later after).later final
    rw [← onLine.2]
    exact commits_within final.invariant ends.held.locked ends.held.active_of_hasCart ends.within
      rfl (ends.cartAt final.invariant _)

theorem removeItem_outline (productId : Uuid) :
    (removeItem buyer productId).Outline (cartContract calm) cartIndexes [] locks base := by
  refine requireActiveCart_outline ?_
  intro cart locks base held later rely
  have holds := held.later rely
  exact dropLine_outline holds
    (holds.shows rely.invariant (lineClause_iff productId) fun _ wanted => wanted.1)

theorem checkoutCart_outline (place : List OrderLineIn → Except Exc OrderCheckoutDTO) :
    (checkoutCart buyer place).Outline (cartContract calm) cartIndexes [] locks base := by
  refine requireActiveCart_outline ?_
  intro cart locks base held later rely
  have holds := held.later rely
  dsimp only
  split
  · exact raised_outline _
  split
  · exact raised_outline _
  rename_i checkout _
  intro middle after
  have stands := holds.later after
  have stored : (overlay [] middle.table).get (.cart cart.id) = some (.cart cart) :=
    (stands.get_cart cart.id).trans (if_pos rfl)
  simp only [stored]
  split
  · intro last final
    have ends := (stands.lock (.cart cart.id)).later final
    exact commits_within final.invariant ends.locked ends.active_of_hasCart
      (within_close cart last.table) rfl (ends.closes_cartAt final.invariant checkout)
  · exact raised_outline _

theorem CartCall.outline (call : CartCall) (valid : call.Valid)
    (fresh : calm → ∀ add, call = .add add → base.table.get (.cart add.newCartId) = none) :
    call.prog.Outline (cartContract calm) cartIndexes [] [] base := by
  cases call with
  | add call => exact addItem_outline valid fun quiet => fresh quiet call rfl
  | remove buyer productId => exact removeItem_outline productId
  | checkout buyer place => exact checkoutCart_outline place

end CloseOutline

/-! ## Runs -/

section Runs

variable {Tid : Type} [DecidableEq Tid]

abbrev CartWorld (Tid : Type) := World Tid CartRow.key CartFailure CartAnswer

def cartStart (table : CartTable) (calls : Tid → CartCall) : CartWorld Tid :=
  World.start table fun tid => (calls tid).prog

omit [DecidableEq Tid] in
theorem upholds_cartStart {calm : Prop} {table : CartTable} {history : List CartAnswer}
    {calls : Tid → CartCall} (valid : ∀ tid, (calls tid).Valid)
    (unique : ∀ index ∈ cartIndexes, table.Unique index)
    (consistent : Consistent ⟨table, history⟩)
    (fresh : calm → ∀ tid add, calls tid = .add add → table.get (.cart add.newCartId) = none) :
    Upholds (cartContract calm) cartIndexes (cartStart table calls, history) :=
  ⟨sound_start table _ unique, consistent, fun tid =>
    (calls tid).outline (valid tid) fun quiet add drawn => fresh quiet tid add drawn⟩

/-- From any consistent state, in every run of requests of any buyers: one active cart a
buyer; one line a product, within its bounds, in the currency of the cart and with the sum
of the committed adds; one checkout a cart; and carts that are no longer active stand
still with their lines. -/
theorem cart_lines_are_the_committed_adds (calls : Tid → CartCall)
    (valid : ∀ tid, (calls tid).Valid) (table : CartTable) (history : List CartAnswer)
    (unique : ∀ index ∈ cartIndexes, table.Unique index)
    (consistent : Consistent ⟨table, history⟩) (middle last : CartWorld Tid × List CartAnswer)
    (before : World.LogRun cartIndexes True (fun _ _ _ => True) (cartStart table calls, history)
      middle)
    (after : World.LogRun cartIndexes True (fun _ _ _ => True) middle last) :
    (∀ buyer left right, ActiveCart last.1.table buyer left → ActiveCart last.1.table buyer right →
      left = right) ∧
    Consistent ⟨last.1.table, last.2⟩ ∧
    Frozen middle.1.table last.1.table ∧
    ∀ tid answer, (last.1.session tid).phase = .committed answer → answer ∈ last.2 := by
  have assumed : ∀ (world : CartWorld Tid) tid next,
      World.Step cartIndexes True world tid next → True → ∀ other, other ≠ tid →
        (cartContract False).assumes (world.session other).phase world.table next.table :=
    fun _ _ _ _ _ _ _ quiet => quiet.elim
  have start : Upholds (cartContract False) cartIndexes (cartStart table calls, history) :=
    upholds_cartStart valid unique consistent fun quiet => quiet.elim
  obtain ⟨upholds, _⟩ := start.run before assumed
  obtain ⟨ends, frozen, _⟩ := upholds.run after assumed
  refine ⟨?_, ends.invariant, frozen, ?_⟩
  · intro buyer left right leftActive rightActive
    have same := (ends.sound.committed activeIndex activeIndex_mem).eq
      (Table.mem_of_get leftActive.1) (Table.mem_of_get rightActive.1)
      (activeClause_index leftActive.2) (activeClause_index rightActive.2)
    cases same
    rfl
  · intro tid answer done
    have outline := ends.outline tid
    rw [Session.Outline, done] at outline
    exact outline

/-! ## Opening a cart -/

/-- The key of a new cart belongs to the add that has drawn its id. -/
def Draws (calls : Tid → CartCall) (tid : Tid) : CartKey → Prop
  | .cart id => ∃ call, calls tid = .add call ∧ call.newCartId = id
  | .item _ => True

theorem lineWritten_mayInsert (call : AddCall) (cart : Cart) (reply : Reply) (k : CartKey) :
    ¬(lineWritten call cart reply).MayInsert k := by
  cases reply with
  | done => exact fun ⟨_, may⟩ => may
  | conflict => exact id
  | missing => exact id

theorem fillCart_mayInsert (call : AddCall) (price : Money) (cart : Cart) (id : Uuid) :
    ¬(fillCart call price cart).MayInsert (.cart id) := by
  rintro ⟨existing, current, may⟩
  dsimp only [putLine] at may
  split at may
  · exact may
  split at may
  · exact may
  cases found : (existing.filterMap CartRow.item?).head? with
  | some item =>
    rw [found] at may
    obtain ⟨reply, may⟩ := may
    exact lineWritten_mayInsert _ _ _ _ may
  | none =>
    rw [found] at may
    rcases may with same | ⟨reply, may⟩
    · cases same
    · exact lineWritten_mayInsert _ _ _ _ may

theorem reopen_mayInsert (call : AddCall) (price : Money) (id : Uuid) :
    ¬(reopen call price).MayInsert (.cart id) := by
  rintro ⟨rows, may⟩
  unfold reopened at may
  split at may
  · exact fillCart_mayInsert _ _ _ _ may
  · exact may

theorem addItem_mayInsert {call : AddCall} {id : Uuid}
    (may : (addItem call).MayInsert (.cart id)) : call.newCartId = id := by
  unfold addItem at may
  split at may
  · exact may.elim
  obtain ⟨rows, may⟩ := may
  unfold opened at may
  split at may
  · exact absurd may (fillCart_mayInsert _ _ _ _)
  rcases may with same | ⟨_, may⟩
  · exact CartKey.cart.inj same
  · exact absurd may (reopen_mayInsert _ _ _)

theorem requireActiveCart_mayInsert {buyer : Buyer} {next : Cart → CartProg} {k : CartKey}
    (never : ∀ cart, ¬(next cart).MayInsert k) : ¬(requireActiveCart buyer next).MayInsert k := by
  rintro ⟨rows, may⟩
  dsimp only at may
  split at may
  · exact never _ may
  · exact may

theorem removeItem_mayInsert (buyer : Buyer) (productId : Uuid) (k : CartKey) :
    ¬(removeItem buyer productId).MayInsert k := by
  refine requireActiveCart_mayInsert ?_
  rintro cart ⟨rows, may⟩
  dsimp only at may
  cases found : (rows.filterMap CartRow.item?).head? with
  | none =>
    rw [found] at may
    exact may
  | some item =>
    rw [found] at may
    obtain ⟨_, may⟩ := may
    exact may

theorem checkoutCart_mayInsert (buyer : Buyer)
    (place : List OrderLineIn → Except Exc OrderCheckoutDTO) (k : CartKey) :
    ¬(checkoutCart buyer place).MayInsert k := by
  refine requireActiveCart_mayInsert ?_
  rintro cart ⟨rows, may⟩
  dsimp only at may
  split at may
  · exact may
  split at may
  · exact may
  obtain ⟨reply, may⟩ := may
  cases reply with
  | done => exact may
  | conflict => exact may
  | missing => exact may

omit [DecidableEq Tid] in
theorem draws_of_mayInsert (calls : Tid → CartCall) (tid : Tid) (k : CartKey)
    (may : (calls tid).prog.MayInsert k) : Draws calls tid k := by
  cases k with
  | item id => trivial
  | cart id =>
    cases made : calls tid with
    | add call =>
      rw [made] at may
      exact ⟨call, made, addItem_mayInsert may⟩
    | remove buyer productId =>
      rw [made] at may
      exact absurd may (removeItem_mayInsert _ _ _)
    | checkout buyer place =>
      rw [made] at may
      exact absurd may (checkoutCart_mayInsert _ _ _)

/-- The transaction does not commit the checkout of a cart while an add of its buyer is
between its insert and the end of its second read. -/
def Undivided (world : CartWorld Tid) (tid : Tid) (_ : CartWorld Tid) : Prop :=
  ∀ answer other buyer cart, other ≠ tid → (world.session tid).phase = .running (.ret answer) →
    Reopening (world.session other).phase buyer → ActiveCart world.table buyer cart →
      ActiveCart (world.view tid) buyer cart

/-- In every run in which no cart is checked out between the refused insert and the second
read of an add of its buyer, every add opens its cart. -/
theorem cart_is_always_opened (calls : Tid → CartCall) (valid : ∀ tid, (calls tid).Valid)
    (table : CartTable) (history : List CartAnswer)
    (unique : ∀ index ∈ cartIndexes, table.Unique index)
    (consistent : Consistent ⟨table, history⟩)
    (drawn : ∀ left right first second, calls left = .add first → calls right = .add second →
      first.newCartId = second.newCartId → left = right)
    (fresh : ∀ tid call, calls tid = .add call → table.get (.cart call.newCartId) = none)
    (last : CartWorld Tid × List CartAnswer)
    (run : World.LogRun cartIndexes True Undivided (cartStart table calls, history) last)
    (tid : Tid) :
    (last.1.session tid).phase ≠ .running (.raise .notOpened) ∧
      (last.1.session tid).phase ≠ .failed .notOpened := by
  have started : Sound cartIndexes (cartStart table calls) ∧
      Owned (Draws calls) table (cartStart table calls) :=
    ⟨sound_start table _ unique, owned_start table (draws_of_mayInsert calls)⟩
  have stronger : World.LogRun cartIndexes True
      (fun world tid next => Undivided world tid next ∧
        (Sound cartIndexes next ∧ Owned (Draws calls) table next))
      (cartStart table calls, history) last := by
    refine (run.strengthen started ?_).1
    intro world tid next step holds
    exact ⟨holds.1.step step, holds.2.step holds.1 step⟩
  have start : Upholds (cartContract True) cartIndexes (cartStart table calls, history) :=
    upholds_cartStart valid unique consistent fun _ => fresh
  obtain ⟨upholds, _⟩ := start.run stronger (by
    rintro world tid next step ⟨undivided, _, owned⟩ other differs -
    refine ⟨?_, ?_⟩
    · intro id may _
      rw [← step.session_of_ne differs] at may
      obtain ⟨call, made, rfl⟩ := owned.pending other (.cart id) may
      refine owned.absent ?_ (fresh other call made) may.isOpen
      rintro third ⟨second, alsoMade, same⟩
      exact drawn third other second call alsoMade made same
    · intro buyer cart reopening active
      cases step with
      | statement statement ready => exact active
      | fail error raised => exact active
      | abort allowed working => exact active
      | commit answer done => exact undivided answer other buyer cart differs done reopening active)
  have outline := upholds.outline tid
  refine ⟨?_, ?_⟩
  · intro raised
    rw [Session.Outline, raised] at outline
    exact outline trivial rfl
  · intro failed
    rw [Session.Outline, failed] at outline
    exact outline trivial rfl

end Runs

namespace Sample

local instance threeCarts : NeZero 3 := ⟨three_ne_zero⟩

local instance fourCarts : NeZero 4 := ⟨four_ne_zero⟩

open BackendCore.Billing.Sample (tenant moment)

def cartBuyer : Buyer := ⟨tenant, buyer⟩

def teaPrice : Money := ⟨500, "UZS"⟩

def addTea (quantity : Nat) (newCartId newItemId : Uuid) : AddCall :=
  ⟨cartBuyer, 20, quantity, .ok teaPrice, newCartId, newItemId, moment⟩

theorem consistent_empty : Consistent ⟨Table.empty, []⟩ := by
  intro cartId
  refine ⟨?_, ?_, ?_, ?_, ?_, ?_, Nat.zero_le 1, ?_⟩
  · intro item has
    cases has
  · intro left right has
    cases has
  · intro item has
    cases has
  · intro left right has
    cases has
  · intro item has
    cases has
  · intro productId positive
    cases positive
  · intro positive
    cases positive

/-- Two first adds, a checkout, and an add after it. -/
def teaCalls : Fin 4 → CartCall :=
  ![.add (addTea 2 31 41), .add (addTea 3 32 42), .checkout cartBuyer fun _ => .ok teaCheckout,
    .add (addTea 1 33 43)]

/-- Both first adds find no cart; the second one waits for the first and merges its
quantity; then the cart is checked out. -/
def teaClosed : CartWorld (Fin 4) :=
  (cartStart Table.empty teaCalls).follow cartIndexes
    ([0, 0, 1, 1] ++ List.replicate 9 0 ++ List.replicate 9 1 ++ List.replicate 6 2)

def teaAgain : CartWorld (Fin 4) := teaClosed.follow cartIndexes (List.replicate 11 3)

def soldLine : CartItem := ⟨41, tenant, 31, 20, 5, 500, "UZS", moment⟩

theorem first_adds_merge :
    ∃ middle last, World.LogRun cartIndexes True (fun _ _ _ => True)
        (cartStart Table.empty teaCalls, []) middle ∧
      World.LogRun cartIndexes True (fun _ _ _ => True) middle last ∧
      HasItem last.1.table soldLine ∧ sumOfAdds last.2 31 20 = 5 ∧
      last.1.table.get (.item 43) = some (.item ⟨43, tenant, 33, 20, 1, 500, "UZS", moment⟩) ∧
      Frozen middle.1.table last.1.table := by
  have first : World.Reaches cartIndexes True (cartStart Table.empty teaCalls) teaClosed :=
    follow_reaches _ _
  have second : World.Reaches cartIndexes True teaClosed teaAgain := follow_reaches _ _
  obtain ⟨log, before⟩ := first.logged []
  obtain ⟨more, after⟩ := second.logged log
  have valid : ∀ tid, (teaCalls tid).Valid := by
    intro tid
    fin_cases tid
    · exact Nat.le_add_left 1 1
    · exact Nat.le_add_left 1 2
    · trivial
    · exact Nat.le_refl 1
  have kept := cart_lines_are_the_committed_adds teaCalls valid Table.empty []
    (fun index _ => Table.unique_of_rows_nil _ rfl) consistent_empty _ _ before after
  have sold : HasItem teaAgain.table soldLine := by
    unfold HasItem
    decide +kernel
  have again : teaAgain.table.get (.item 43) =
      some (.item ⟨43, tenant, 33, 20, 1, 500, "UZS", moment⟩) := by decide +kernel
  refine ⟨_, _, before, after, sold, ?_, again, kept.2.2.1⟩
  exact ((kept.2.1 31).quantity soldLine sold rfl).symm

/-- The session is in a locking read, or about to start one. -/
def locksRows : Phase CartRow.key CartFailure CartAnswer → Bool
  | .running (.lock _ _) => true
  | .locking _ _ _ _ => true
  | _ => false

/-- The step does not commit, or the other session is in no locking read. -/
def unhurried (world : CartWorld Bool) (tid : Bool) : Bool :=
  (world.session tid).phase.isStatement || !locksRows (world.session (!tid)).phase

theorem undivided_of_unhurried (world : CartWorld Bool) (tid : Bool) (next : CartWorld Bool)
    (checked : unhurried world tid = true) : Undivided world tid next := by
  rintro answer other buyer cart differs done ⟨call, price, _, reopening⟩ active
  have opposite : other = !tid := Bool.eq_not.mpr differs
  have idle : locksRows (world.session other).phase = false := by
    rw [unhurried, done, ← opposite] at checked
    simpa [Phase.isStatement] using checked
  rcases reopening with same | ⟨todo, got, same⟩
  · rw [same] at idle
    cases idle
  · rw [same] at idle
    cases idle

/-- The two first adds alone. -/
def twoAdds : Bool → CartCall := fun second =>
  if second then .add (addTea 3 32 42) else .add (addTea 2 31 41)

def twoAddsSchedule : List Bool :=
  [false, false, true, true] ++ List.replicate 9 false ++ List.replicate 9 true

theorem refused_add_finds_cart :
    ∃ last, World.LogRun cartIndexes True Undivided (cartStart Table.empty twoAdds, []) last ∧
      HasItem last.1.table soldLine ∧
      ∀ tid, (last.1.session tid).phase ≠ .running (.raise .notOpened) ∧
        (last.1.session tid).phase ≠ .failed .notOpened := by
  have along : World.Along cartIndexes Undivided (cartStart Table.empty twoAdds)
      twoAddsSchedule := World.along_of_checks undivided_of_unhurried _ _ (by decide +kernel)
  have logged : ∃ log, World.LogRun cartIndexes True Undivided (cartStart Table.empty twoAdds, [])
      ((cartStart Table.empty twoAdds).follow cartIndexes twoAddsSchedule, log) := along.logged []
  obtain ⟨log, run⟩ := logged
  have sold : HasItem ((cartStart Table.empty twoAdds).follow cartIndexes twoAddsSchedule).table
      soldLine := by
    unfold HasItem
    decide +kernel
  refine ⟨_, run, sold, ?_⟩
  refine cart_is_always_opened twoAdds ?_ Table.empty []
    (fun index _ => Table.unique_of_rows_nil _ rfl) consistent_empty ?_ (fun _ _ _ => rfl) _ run
  · intro second
    cases second with
    | false => exact Nat.le_add_left 1 1
    | true => exact Nat.le_add_left 1 2
  · intro left right first second made alsoMade same
    cases left with
    | false =>
      cases made
      cases right with
      | false => rfl
      | true =>
        cases alsoMade
        cases same
    | true =>
      cases made
      cases right with
      | false =>
        cases alsoMade
        cases same
      | true => rfl

/-- An add, a competing add, and the checkout of the competitor's cart. -/
def hurriedCalls : Fin 3 → CartCall :=
  ![.add (addTea 2 31 41), .add (addTea 3 32 42), .checkout cartBuyer fun _ => .ok teaCheckout]

/-- The first add reads no cart; the second opens one and commits; the insert of the first
is refused; the cart is checked out; the second read finds none. -/
def hurried : CartWorld (Fin 3) :=
  (cartStart Table.empty hurriedCalls).follow cartIndexes
    ([0, 0] ++ List.replicate 11 1 ++ [0] ++ List.replicate 6 2 ++ [0, 0, 0])

theorem checkout_leaves_no_cart :
    World.Reaches cartIndexes True (cartStart Table.empty hurriedCalls) hurried ∧
      (hurried.session 0).phase = .failed .notOpened :=
  ⟨follow_reaches _ _, rfl⟩

end Sample

end BackendCore.Commerce
