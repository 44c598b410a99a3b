import Mathlib.Data.Prod.Lex
import Mathlib.Order.WithBot
import BackendCore.Lib.Paging
import BackendCore.Shared.Repository

/-!
# Paged listings

The listings of the features built on `Repository.find_paged`.  Each request is answered from an
order of the matching rows that the database chooses anew among those its `ORDER BY` allows; none
of the listings orders by a unique column, so rows that tie may change places between pages.
-/

set_option autoImplicit false

namespace BackendCore.Repositories

open BackendCore.Python BackendCore.Paging

/-! ## Requests -/

/-- A model, the caller's filter, and the `ORDER BY` keys with their order. -/
structure Listing (Data K : Type) where
  model : String
  clause : Row Data → Bool
  key : Row Data → K

/-- A table content: rows with distinct primary keys. -/
structure Content (Data : Type) where
  rows : List (Row Data)
  distinct : (rows.map Row.id).Nodup

structure PageResult (Data : Type) where
  items : List (Row Data)
  total : Nat
  limit : Nat
  offset : Nat

structure PageSize where
  limit : Nat
  valid : 1 ≤ limit ∧ limit ≤ 200

def PageSize.page (size : PageSize) (number : Nat) : Page :=
  ⟨size.limit, number * size.limit, size.valid⟩

variable {Data K : Type}

def Listing.matching (listing : Listing Data K) (tenantId : Uuid) (content : Content Data) :
    List (Row Data) :=
  select tenantId listing.model listing.clause content.rows

/-- `find_paged`, the database having listed the matching rows in the order `listed`. -/
def findPaged (listing : Listing Data K) (tenantId : Uuid) (content : Content Data)
    (listed : List (Row Data)) (page : Page) : PageResult Data :=
  ⟨paged (some page) listed, (listing.matching tenantId content).length, page.limit, page.offset⟩

/-- Consecutive pages until the total is reached. -/
def requestAll (listing : Listing Data K) (tenantId : Uuid) (content : Content Data)
    (size : PageSize) (listings : Nat → List (Row Data)) : List (Row Data) :=
  let total := (findPaged listing tenantId content (listings 0) (size.page 0)).total
  (List.range (pageCount size.limit total)).flatMap fun number =>
    (findPaged listing tenantId content (listings number) (size.page number)).items

/-- However the database orders ties, the pages are the matching rows, each once. -/
def Listing.Complete [LinearOrder K] (listing : Listing Data K) (tenantId : Uuid)
    (content : Content Data) (size : PageSize) : Prop :=
  ∀ listings : Nat → List (Row Data),
    (∀ number, Listed listing.key (listing.matching tenantId content) (listings number)) →
    (requestAll listing tenantId content size listings).Perm (listing.matching tenantId content)

/-- No page ends between two matching rows that tie. -/
def Listing.CutsNoTie [LinearOrder K] (listing : Listing Data K) (tenantId : Uuid)
    (content : Content Data) (size : PageSize) : Prop :=
  ∀ number, ¬CutsTie listing.key (listing.matching tenantId content) (number * size.limit)

theorem Listing.matching_nodup (listing : Listing Data K) (tenantId : Uuid)
    (content : Content Data) : (listing.matching tenantId content).Nodup :=
  ((List.Nodup.of_map Row.id content.distinct).filter _).filter _

theorem Listing.complete_iff [LinearOrder K] (listing : Listing Data K) (tenantId : Uuid)
    (content : Content Data) (size : PageSize) :
    listing.Complete tenantId content size ↔ listing.CutsNoTie tenantId content size :=
  pages_perm_iff size.valid.1 (listing.matching_nodup tenantId content)

/-! ## The listings of the features -/

/-- `created_at DESC`; timestamps are microseconds. -/
def newestFirst (createdAt : Int) : OrderDual Int := OrderDual.toDual createdAt

/-- A comparison with a nullable column, left out when the value is not given. -/
def matchesIfGiven {A : Type} [DecidableEq A] (value column : Option A) : Bool :=
  match value with
  | none => true
  | some given => column = some given

structure OrderData where
  customerUserId : Uuid
  createdAt : Int

def listOwn (customer : Uuid) : Listing OrderData (OrderDual Int) where
  model := "Order"
  clause := fun row => row.data.customerUserId = customer
  key := fun row => newestFirst row.data.createdAt

def listAll : Listing OrderData (OrderDual Int) where
  model := "Order"
  clause := fun _ => true
  key := fun row => newestFirst row.data.createdAt

structure ProductData where
  createdAt : Int

def listProducts : Listing ProductData (OrderDual Int) where
  model := "Product"
  clause := fun _ => true
  key := fun row => newestFirst row.data.createdAt

structure ContactData where
  companyId : Option Uuid
  createdAt : Int

def listContacts (companyId : Option Uuid) : Listing ContactData (OrderDual Int) where
  model := "Contact"
  clause := fun row => matchesIfGiven companyId row.data.companyId
  key := fun row => newestFirst row.data.createdAt

structure CompanyData where
  name : String

/-- Names in the order of the database's collation. -/
def listCompanies {C : Type} (collate : String → C) : Listing CompanyData C where
  model := "Company"
  clause := fun _ => true
  key := fun row => collate row.data.name

structure DealData where
  stage : String
  contactId : Option Uuid
  companyId : Option Uuid
  createdAt : Int

def listDeals (stage : Option String) (contactId companyId : Option Uuid) :
    Listing DealData (OrderDual Int) where
  model := "Deal"
  clause := fun row =>
    matchesIfGiven stage (some row.data.stage) &&
      matchesIfGiven contactId row.data.contactId && matchesIfGiven companyId row.data.companyId
  key := fun row => newestFirst row.data.createdAt

structure ActivityData where
  type : String
  assigneeUserId : Uuid
  doneAt : Option Int
  dueAt : Option Int
  contactId : Option Uuid
  companyId : Option Uuid
  dealId : Option Uuid
  createdAt : Int

/-- The source's `"open"` and `"done"`. -/
inductive ActivityStatus where
  | notDone
  | done

structure ActivityQuery where
  assigneeUserId : Option Uuid
  mine : Bool
  status : Option ActivityStatus
  overdue : Bool
  dueToday : Bool
  type : Option String
  dealId : Option Uuid
  contactId : Option Uuid
  companyId : Option Uuid

def dayMicros : Int := 86400000000

/-- `_filters` past the choice of the assignee; a comparison with `NULL` is not true. -/
def activityFilters (query : ActivityQuery) (assignee : Option Uuid) (now : Int)
    (row : Row ActivityData) : Bool :=
  let start := now / dayMicros * dayMicros
  matchesIfGiven assignee (some row.data.assigneeUserId) &&
    (match query.status with
      | none => true
      | some .done => row.data.doneAt.isSome
      | some .notDone => row.data.doneAt.isNone) &&
    (!query.overdue || (row.data.doneAt.isNone && row.data.dueAt.any (· < now))) &&
    (!query.dueToday ||
      row.data.dueAt.any fun due => start ≤ due && due < start + dayMicros) &&
    matchesIfGiven query.type (some row.data.type) &&
    matchesIfGiven query.dealId row.data.dealId &&
    matchesIfGiven query.contactId row.data.contactId &&
    matchesIfGiven query.companyId row.data.companyId

/-- `_ORDER`: open ones first, by due date with `NULL` last, then the newest. -/
def activityOrder (row : Row ActivityData) : Bool ×ₗ WithTop Int ×ₗ OrderDual Int :=
  toLex (row.data.doneAt.isSome,
    toLex ((row.data.dueAt : WithTop Int), newestFirst row.data.createdAt))

def activitiesOf (query : ActivityQuery) (assignee : Option Uuid) (now : Int) :
    Listing ActivityData (Bool ×ₗ WithTop Int ×ₗ OrderDual Int) where
  model := "Activity"
  clause := activityFilters query assignee now
  key := activityOrder

def listActivities (actor : Option Uuid) (query : ActivityQuery) (now : Int) :
    Except Exc (Listing ActivityData (Bool ×ₗ WithTop Int ×ₗ OrderDual Int)) :=
  if query.mine then
    match actor with
    | none => .error (.invariantViolationError "'mine' requires a user actor")
    | some user => .ok (activitiesOf query (some user) now)
  else .ok (activitiesOf query query.assigneeUserId now)

/-- For every tenant, table content and page size: complete exactly when no page ends between
rows that tie. -/
def Listing.PagesExactly [LinearOrder K] (listing : Listing Data K) : Prop :=
  ∀ (tenantId : Uuid) (content : Content Data) (size : PageSize),
    listing.Complete tenantId content size ↔ listing.CutsNoTie tenantId content size

theorem listActivities_pages (actor : Option Uuid) (query : ActivityQuery) (now : Int) :
    (listActivities actor query now).toOption.elim True Listing.PagesExactly := by
  unfold listActivities
  split
  · cases actor with
    | none => trivial
    | some user => exact (activitiesOf query (some user) now).complete_iff
  · exact (activitiesOf query query.assigneeUserId now).complete_iff

/-- Requesting the pages of any listing that is not refused yields every matching row exactly
once, whatever order the database gives tied rows, exactly when no page ends between two of
them. -/
theorem paged_listings_complete_iff {C : Type} [LinearOrder C] (collate : String → C) :
    (∀ customer, (listOwn customer).PagesExactly) ∧ listAll.PagesExactly ∧
    listProducts.PagesExactly ∧ (∀ companyId, (listContacts companyId).PagesExactly) ∧
    (listCompanies collate).PagesExactly ∧
    (∀ stage contactId companyId, (listDeals stage contactId companyId).PagesExactly) ∧
    ∀ actor query now, (listActivities actor query now).toOption.elim True Listing.PagesExactly :=
  ⟨fun customer => (listOwn customer).complete_iff, listAll.complete_iff,
    listProducts.complete_iff, fun companyId => (listContacts companyId).complete_iff,
    (listCompanies collate).complete_iff,
    fun stage contactId companyId => (listDeals stage contactId companyId).complete_iff,
    listActivities_pages⟩

namespace Sample

/-- Two orders of one bulk transaction. -/
def firstOrder : Row OrderData := ⟨1, 5, "Order", ⟨7, 1000⟩⟩

def secondOrder : Row OrderData := ⟨2, 5, "Order", ⟨7, 1000⟩⟩

def bulkOrders : Content OrderData := ⟨[firstOrder, secondOrder], by decide⟩

def onePerPage : PageSize := ⟨1, by decide⟩

/-- The second request finds the tied orders the other way round. -/
def exchangedListings (number : Nat) : List (Row OrderData) :=
  if number = 0 then [firstOrder, secondOrder] else [secondOrder, firstOrder]

theorem tied_order_is_skipped :
    (∀ number, Listed listAll.key (listAll.matching 5 bulkOrders) (exchangedListings number)) ∧
    requestAll listAll 5 bulkOrders onePerPage exchangedListings = [firstOrder, firstOrder] ∧
    ¬listAll.Complete 5 bulkOrders onePerPage := by
  have tie : Listed listAll.key [firstOrder, secondOrder] ([] ++ [firstOrder, secondOrder]) :=
    ⟨List.Perm.refl _, List.pairwise_pair.mpr le_rfl⟩
  have listed : ∀ number,
      Listed listAll.key (listAll.matching 5 bulkOrders) (exchangedListings number) := by
    intro number
    cases number with
    | zero => exact tie
    | succ number => exact tie.exchanged rfl
  have shown : requestAll listAll 5 bulkOrders onePerPage exchangedListings =
      [firstOrder, firstOrder] := rfl
  refine ⟨listed, shown, ?_⟩
  intro complete
  have permuted := complete exchangedListings listed
  rw [shown] at permuted
  have once := permuted.nodup_iff.mpr (listAll.matching_nodup 5 bulkOrders)
  exact (List.nodup_cons.mp once).1 (List.mem_singleton_self firstOrder)

end Sample

end BackendCore.Repositories
