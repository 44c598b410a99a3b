import Mathlib
import BackendCore.Shared.Errors

/-!
# Tenant-scoped repositories

`shared/repository.py` over one session: queries see the rows of the tenant only,
`add` stamps the entity and flushes, `delete` marks it and the next statement
flushes.  The rows of all tenant-scoped tables are one list; the unique indexes and
the foreign keys of the schema are data, and a flush they refuse loses the
transaction.  In a flush rows are inserted before others are deleted.
-/

set_option autoImplicit false

namespace BackendCore.Repositories

open BackendCore.Python

/-! ## Rows and constraints -/

/-- A row of a tenant-scoped table; `model` is the class it is mapped to. -/
structure Row (Data : Type) where
  id : Uuid
  tenantId : Uuid
  model : String
  data : Data

/-- An instance a caller has: built by the caller, or loaded by the session. -/
structure Entity (Data : Type) where
  id : Uuid
  tenantId : Option Uuid
  model : String
  data : Data
  persistent : Bool

variable {Data J : Type}

def Entity.stamped (entity : Entity Data) (tenantId : Uuid) : Row Data :=
  ⟨entity.id, tenantId, entity.model, entity.data⟩

inductive OnDelete (Data : Type) where
  | restrict
  | cascade
  | setNull (clear : Data → Data)

structure ForeignKey (Data : Type) where
  column : Row Data → Option Uuid
  onDelete : OnDelete Data

structure Schema (Data J : Type) where
  uniques : List (Row Data → Option J)
  foreignKeys : List (ForeignKey Data)

namespace ForeignKey

def restricts (fk : ForeignKey Data) (id : Uuid) (row : Row Data) : Bool :=
  match fk.onDelete with
  | .restrict => fk.column row = some id
  | _ => false

def cascades (fk : ForeignKey Data) (id : Uuid) (row : Row Data) : Bool :=
  match fk.onDelete with
  | .cascade => fk.column row = some id
  | _ => false

def cleared (fk : ForeignKey Data) (id : Uuid) (row : Row Data) : Row Data :=
  match fk.onDelete with
  | .setNull clear => if fk.column row = some id then { row with data := clear row.data } else row
  | _ => row

end ForeignKey

section Statements

variable [DecidableEq J] (schema : Schema Data J)

/-- Whether an `INSERT` of the row passes the primary key, the unique indexes and the
foreign keys. -/
def accepts (rows : List (Row Data)) (row : Row Data) : Bool :=
  (rows.all fun old => old.id ≠ row.id) &&
    (schema.uniques.all fun index => rows.all fun old =>
      (index row).isNone || decide (index old ≠ index row)) &&
    schema.foreignKeys.all fun fk => (fk.column row).all fun id =>
      decide (id = row.id) || rows.any fun old => old.id = id

/-- `DELETE` by primary key with the `ON DELETE` actions; `none` when it is refused. -/
def deleteRow (id : Uuid) (rows : List (Row Data)) : Option (List (Row Data)) :=
  if rows.any fun row => row.id = id then
    if rows.any fun row => decide (row.id ≠ id) &&
        schema.foreignKeys.any fun fk => fk.restricts id row then none
    else some ((rows.filter fun row => row.id ≠ id &&
        !schema.foreignKeys.any fun fk => fk.cascades id row).map fun row =>
      schema.foreignKeys.foldl (fun row fk => fk.cleared id row) row)
  else some rows

def deleteRows : List Uuid → List (Row Data) → Option (List (Row Data))
  | [], rows => some rows
  | id :: ids, rows => (deleteRow schema id rows).bind (deleteRows ids)

end Statements

/-! ## The session -/

/-- One transaction: the rows it found, the rows it sees, the entities marked for deletion
and those it has deleted. -/
structure Work (Data : Type) where
  first : List (Row Data)
  rows : List (Row Data)
  pending : List Uuid
  deleted : List Uuid
  broken : Bool

def Work.start (rows : List (Row Data)) : Work Data := ⟨rows, rows, [], [], false⟩

/-- The rollback a refused flush ends in; the session refuses every further statement. -/
def Work.abandon (work : Work Data) : Work Data :=
  { work with rows := work.first, pending := [], broken := true }

def pendingRollback : Exc := .unexpected "PendingRollbackError"

def invalidRequest : Exc := .unexpected "InvalidRequestError"

section Flush

variable [DecidableEq J] (schema : Schema Data J) (order : List Uuid → List Uuid)

/-- `order` is the order in which the unit of work deletes. -/
def Work.flush (work : Work Data) : Except Exc Unit × Work Data :=
  match deleteRows schema (order work.pending) work.rows with
  | none => (.error .integrityError, work.abandon)
  | some rows =>
    (.ok (), { work with rows := rows, pending := [], deleted := work.deleted ++ work.pending })

/-- A query, after the flush it begins with. -/
def Work.query {A : Type} (work : Work Data) (read : List (Row Data) → Except Exc A) :
    Except Exc A × Work Data :=
  if work.broken then (.error pendingRollback, work)
  else
    match work.flush schema order with
    | (.error raised, after) => (.error raised, after)
    | (.ok (), after) => (read after.rows, after)

end Flush

/-! ## Calls -/

structure Page where
  limit : Nat
  offset : Nat
  valid : 1 ≤ limit ∧ limit ≤ 200

/-- A query in the context of a tenant: the model, the caller's predicate and ordering. -/
structure Query (Data : Type) where
  model : String
  clause : Row Data → Bool
  orderBy : Option (Row Data → Row Data → Bool)

inductive Call (Data : Type) where
  | get (model : String) (id : Uuid)
  | getOrRaise (model : String) (id : Uuid)
  | find (query : Query Data) (page : Option Page) (forUpdate : Bool)
  | findPaged (query : Query Data) (page : Page)
  | count (model : String) (clause : Row Data → Bool)
  | add (entity : Entity Data)
  | delete (entity : Entity Data)

inductive Answer (Data : Type) where
  | entity (row : Option (Row Data))
  | entities (rows : List (Row Data))
  | page (items : List (Row Data)) (total limit offset : Nat)
  | number (count : Nat)
  | none

/-- `_select()` with further clauses. -/
def select (tenantId : Uuid) (model : String) (clause : Row Data → Bool)
    (rows : List (Row Data)) : List (Row Data) :=
  (rows.filter fun row => row.tenantId = tenantId).filter fun row =>
    row.model = model && clause row

def Query.run (query : Query Data) (tenantId : Uuid) (rows : List (Row Data)) :
    List (Row Data) :=
  let found := select tenantId query.model query.clause rows
  match query.orderBy with
  | Option.none => found
  | some before => found.insertionSort fun left right => before left right = true

def paged (page : Option Page) (rows : List (Row Data)) : List (Row Data) :=
  match page with
  | Option.none => rows
  | some page => (rows.drop page.offset).take page.limit

def getRow (tenantId : Uuid) (model : String) (id : Uuid) (rows : List (Row Data)) :
    Option (Row Data) :=
  (select tenantId model (fun row => row.id = id) rows).head?

section Calls

variable [DecidableEq J] (schema : Schema Data J) (order : List Uuid → List Uuid)
variable (tenantId : Uuid)

/-- `add` past its check: an instance of the session is not inserted again, and is no longer
marked for deletion. -/
def addEntity (entity : Entity Data) (work : Work Data) : Except Exc (Answer Data) × Work Data :=
  if work.broken then (.error pendingRollback, work)
  else if entity.persistent then
    if entity.id ∈ work.deleted then (.error invalidRequest, work)
    else
      { work with pending := work.pending.erase entity.id }.query schema order fun _ =>
        .ok (.entity (some (entity.stamped tenantId)))
  else if accepts schema work.rows (entity.stamped tenantId) then
    { work with rows := work.rows ++ [entity.stamped tenantId] }.query schema order fun _ =>
      .ok (.entity (some (entity.stamped tenantId)))
  else (.error .integrityError, work.abandon)

/-- `delete` past its check; an instance that is deleted already is marked again, and its
`DELETE` matches no row. -/
def deleteEntity (entity : Entity Data) (work : Work Data) :
    Except Exc (Answer Data) × Work Data :=
  if !entity.persistent then (.error invalidRequest, work)
  else if work.broken then (.error pendingRollback, work)
  else if entity.id ∈ work.pending then (.ok .none, work)
  else (.ok .none, { work with pending := work.pending ++ [entity.id] })

def Call.run (call : Call Data) (work : Work Data) : Except Exc (Answer Data) × Work Data :=
  match call with
  | .get model id =>
    work.query schema order fun rows => .ok (.entity (getRow tenantId model id rows))
  | .getOrRaise model id =>
    work.query schema order fun rows =>
      match getRow tenantId model id rows with
      | Option.none => .error (.notFoundError (model ++ " " ++ id.toStr ++ " not found"))
      | some row => .ok (.entity (some row))
  | .find query page _ =>
    work.query schema order fun rows => .ok (.entities (paged page (query.run tenantId rows)))
  | .findPaged query page =>
    work.query schema order fun rows =>
      .ok (.page (paged (some page) (query.run tenantId rows))
        (select tenantId query.model query.clause rows).length page.limit page.offset)
  | .count model clause =>
    work.query schema order fun rows =>
      .ok (.number (select tenantId model clause rows).length)
  | .add entity =>
    match entity.tenantId with
    | some preset =>
      if preset ≠ tenantId then
        (.error (.permissionDeniedError "entity is stamped with another tenant_id"), work)
      else addEntity schema order tenantId entity work
    | Option.none => addEntity schema order tenantId entity work
  | .delete entity =>
    if entity.tenantId ≠ some tenantId then
      (.error (.permissionDeniedError "entity belongs to another tenant"), work)
    else deleteEntity entity work

def runCalls : List (Call Data) → Work Data → List (Except Exc (Answer Data)) × Work Data
  | [], work => ([], work)
  | call :: calls, work =>
    let (answer, after) := call.run schema order tenantId work
    let (answers, final) := runCalls calls after
    (answer :: answers, final)

/-- The commit of the unit of work: the last flush, or the rollback. -/
def Work.commit (work : Work Data) : Except Exc Unit × List (Row Data) :=
  if work.broken then (.error pendingRollback, work.first)
  else ((work.flush schema order).1, (work.flush schema order).2.rows)

end Calls

/-! ## The rows of one tenant -/

def own (tenantId : Uuid) (rows : List (Row Data)) : List (Row Data) :=
  rows.filter fun row => row.tenantId = tenantId

def others (tenantId : Uuid) (rows : List (Row Data)) : List (Row Data) :=
  rows.filter fun row => row.tenantId ≠ tenantId

/-- The same transaction on a database that has the rows of the tenant only. -/
def Work.own (tenantId : Uuid) (work : Work Data) : Work Data :=
  { work with
    first := Repositories.own tenantId work.first
    rows := Repositories.own tenantId work.rows }

/-- No row of the list has this primary key or refers to it. -/
def Apart (schema : Schema Data J) (id : Uuid) (foreign : List (Row Data)) : Prop :=
  ∀ row ∈ foreign, row.id ≠ id ∧ ∀ fk ∈ schema.foreignKeys, fk.column row ≠ some id

/-- The row refers to none of these rows and shares no value of a unique index with one. -/
def Row.Distinct (schema : Schema Data J) (row : Row Data) (foreign : List (Row Data)) : Prop :=
  ∀ old ∈ foreign, (∀ fk ∈ schema.foreignKeys, fk.column row ≠ some old.id) ∧
    ∀ index ∈ schema.uniques, ∀ value, index row = some value → index old ≠ some value

/-- No key joins an entity that the call adds or deletes with these rows. -/
def Call.Apart (schema : Schema Data J) (tenantId : Uuid) (foreign : List (Row Data)) :
    Call Data → Prop
  | .add entity => entity.tenantId.all (· = tenantId) = true →
      Repositories.Apart schema entity.id foreign ∧
        (entity.stamped tenantId).Distinct schema foreign
  | .delete entity => entity.tenantId = some tenantId →
      Repositories.Apart schema entity.id foreign
  | _ => True

variable {schema : Schema Data J} {order : List Uuid → List Uuid} {tenantId : Uuid}
variable {rows foreign : List (Row Data)}

theorem own_own (rows : List (Row Data)) :
    own tenantId (own tenantId rows) = own tenantId rows := by
  rw [own, own, List.filter_filter]
  simp only [Bool.and_self]

theorem mem_foreign {row : Row Data} (same : others tenantId rows = foreign) (mem : row ∈ rows)
    (differs : row.tenantId ≠ tenantId) : row ∈ foreign := by
  rw [← same]
  exact List.mem_filter.mpr ⟨mem, by simpa using differs⟩

theorem any_own {test : Row Data → Bool} (same : others tenantId rows = foreign)
    (fails : ∀ row ∈ foreign, test row = false) :
    (own tenantId rows).any test = rows.any test := by
  rw [Bool.eq_iff_iff, List.any_eq_true, List.any_eq_true]
  constructor
  · rintro ⟨row, mem, passes⟩
    exact ⟨row, List.mem_of_mem_filter mem, passes⟩
  · rintro ⟨row, mem, passes⟩
    refine ⟨row, List.mem_filter.mpr ⟨mem, ?_⟩, passes⟩
    rw [decide_eq_true_eq]
    by_contra differs
    rw [fails row (mem_foreign same mem differs)] at passes
    nomatch passes

theorem all_own {test : Row Data → Bool} (same : others tenantId rows = foreign)
    (passes : ∀ row ∈ foreign, test row = true) :
    (own tenantId rows).all test = rows.all test := by
  rw [List.all_eq_not_any_not, List.all_eq_not_any_not,
    any_own same fun row mem => by rw [passes row mem]; rfl]

/-! ## Statements keep to the tenant -/

section Statements

variable [DecidableEq J]

theorem accepts_own {row : Row Data} (same : others tenantId rows = foreign)
    (apart : Apart schema row.id foreign) (distinct : row.Distinct schema foreign) :
    accepts schema (own tenantId rows) row = accepts schema rows row := by
  have keys : (own tenantId rows).all (fun old => decide (old.id ≠ row.id)) =
      rows.all fun old => decide (old.id ≠ row.id) :=
    all_own same fun old mem => decide_eq_true (apart old mem).1
  have indexes : ∀ index ∈ schema.uniques,
      ((own tenantId rows).all fun old => (index row).isNone || decide (index old ≠ index row)) =
        rows.all fun old => (index row).isNone || decide (index old ≠ index row) := by
    intro index indexed
    apply all_own same
    intro old mem
    cases filed : index row with
    | none => rfl
    | some value =>
      have differs := (distinct old mem).2 index indexed value filed
      simp [differs]
  have targets : ∀ fk ∈ schema.foreignKeys,
      ((fk.column row).all fun id => decide (id = row.id) ||
        (own tenantId rows).any fun old => decide (old.id = id)) =
      (fk.column row).all fun id => decide (id = row.id) ||
        rows.any fun old => decide (old.id = id) := by
    intro fk member
    cases column : fk.column row with
    | none => rfl
    | some id =>
      have found : ((own tenantId rows).any fun old => decide (old.id = id)) =
          rows.any fun old => decide (old.id = id) := by
        apply any_own same
        intro old mem
        rw [decide_eq_false_iff_not]
        rintro rfl
        exact (distinct old mem).1 fk member column
      rw [Option.all_some, Option.all_some, found]
  unfold accepts
  rw [keys]
  congr 1
  · congr 1
    rw [Bool.eq_iff_iff, List.all_eq_true, List.all_eq_true]
    constructor
    · intro passes index indexed
      rw [← indexes index indexed]
      exact passes index indexed
    · intro passes index indexed
      rw [indexes index indexed]
      exact passes index indexed
  · rw [Bool.eq_iff_iff, List.all_eq_true, List.all_eq_true]
    constructor
    · intro passes fk member
      rw [← targets fk member]
      exact passes fk member
    · intro passes fk member
      rw [targets fk member]
      exact passes fk member

end Statements

theorem cleared_tenantId (fk : ForeignKey Data) (id : Uuid) (row : Row Data) :
    (fk.cleared id row).tenantId = row.tenantId := by
  unfold ForeignKey.cleared
  split
  · split <;> rfl
  · rfl

theorem clearAll_tenantId (fks : List (ForeignKey Data)) (id : Uuid) (row : Row Data) :
    (fks.foldl (fun row fk => fk.cleared id row) row).tenantId = row.tenantId := by
  induction fks generalizing row with
  | nil => rfl
  | cons fk fks ih => rw [List.foldl_cons, ih, cleared_tenantId]

theorem clearAll_eq_self {fks : List (ForeignKey Data)} {id : Uuid} {row : Row Data}
    (unrelated : ∀ fk ∈ fks, fk.column row ≠ some id) :
    fks.foldl (fun row fk => fk.cleared id row) row = row := by
  induction fks with
  | nil => rfl
  | cons fk fks ih =>
    have still : fk.cleared id row = row := by
      unfold ForeignKey.cleared
      split
      · rw [if_neg (unrelated fk List.mem_cons_self)]
      · rfl
    rw [List.foldl_cons, still]
    exact ih fun other mem => unrelated other (List.mem_cons_of_mem _ mem)

theorem not_restricts {fk : ForeignKey Data} {id : Uuid} {row : Row Data}
    (unrelated : fk.column row ≠ some id) : fk.restricts id row = false := by
  unfold ForeignKey.restricts
  split
  · exact decide_eq_false unrelated
  · rfl

theorem not_cascades {fk : ForeignKey Data} {id : Uuid} {row : Row Data}
    (unrelated : fk.column row ≠ some id) : fk.cascades id row = false := by
  unfold ForeignKey.cascades
  split
  · exact decide_eq_false unrelated
  · rfl

theorem deleteRow_own {id : Uuid} (same : others tenantId rows = foreign)
    (apart : Apart schema id foreign) :
    deleteRow schema id (own tenantId rows) = (deleteRow schema id rows).map (own tenantId) := by
  have present : ((own tenantId rows).any fun row => decide (row.id = id)) =
      rows.any fun row => decide (row.id = id) :=
    any_own same fun row mem => decide_eq_false (apart row mem).1
  have refused : ((own tenantId rows).any fun row => decide (row.id ≠ id) &&
      schema.foreignKeys.any fun fk => fk.restricts id row) =
      rows.any fun row => decide (row.id ≠ id) &&
        schema.foreignKeys.any fun fk => fk.restricts id row := by
    apply any_own same
    intro row mem
    rw [Bool.and_eq_false_iff]
    right
    rw [List.any_eq_false]
    intro fk member
    rw [not_restricts ((apart row mem).2 fk member)]
    exact Bool.false_ne_true
  unfold deleteRow
  rw [present, refused]
  split
  · split
    · rfl
    · rw [Option.map_some, own, own, List.filter_map, List.filter_comm]
      congr 3
      funext row
      simp [clearAll_tenantId]
  · rfl

theorem deleteRow_others {id : Uuid} {after : List (Row Data)}
    (same : others tenantId rows = foreign) (apart : Apart schema id foreign)
    (deleted : deleteRow schema id rows = some after) : others tenantId after = foreign := by
  unfold deleteRow at deleted
  split at deleted
  · split at deleted
    · nomatch deleted
    · rw [← Option.some.inj deleted, others, List.filter_map]
      have keeps : ∀ row : Row Data, ((fun row : Row Data => decide (row.tenantId ≠ tenantId)) ∘
          fun row => schema.foreignKeys.foldl (fun row fk => fk.cleared id row) row) row =
          decide (row.tenantId ≠ tenantId) := by
        intro row
        rw [Function.comp_apply, clearAll_tenantId]
      rw [funext keeps, List.filter_comm]
      change List.map _ (List.filter _ (others tenantId rows)) = foreign
      rw [same, List.filter_eq_self.mpr ?_]
      · exact (List.map_congr_left fun row mem => clearAll_eq_self (apart row mem).2).trans
          (List.map_id _)
      · intro row mem
        have spared : (schema.foreignKeys.any fun fk => fk.cascades id row) = false := by
          rw [List.any_eq_false]
          intro fk member
          rw [not_cascades ((apart row mem).2 fk member)]
          exact Bool.false_ne_true
        rw [spared]
        simpa using (apart row mem).1
  · rw [← Option.some.inj deleted]
    exact same

theorem deleteRows_own {ids : List Uuid} (same : others tenantId rows = foreign)
    (apart : ∀ id ∈ ids, Apart schema id foreign) :
    deleteRows schema ids (own tenantId rows) =
      (deleteRows schema ids rows).map (own tenantId) := by
  induction ids generalizing rows with
  | nil => rfl
  | cons id ids ih =>
    rw [deleteRows, deleteRows, deleteRow_own same (apart id List.mem_cons_self)]
    cases step : deleteRow schema id rows with
    | none => rfl
    | some after =>
      exact ih (deleteRow_others same (apart id List.mem_cons_self) step)
        fun other mem => apart other (List.mem_cons_of_mem _ mem)

theorem deleteRows_others {ids : List Uuid} {after : List (Row Data)}
    (same : others tenantId rows = foreign) (apart : ∀ id ∈ ids, Apart schema id foreign)
    (deleted : deleteRows schema ids rows = some after) : others tenantId after = foreign := by
  induction ids generalizing rows with
  | nil =>
    rw [← Option.some.inj deleted]
    exact same
  | cons id ids ih =>
    rw [deleteRows] at deleted
    obtain ⟨middle, step, rest⟩ := Option.bind_eq_some_iff.mp deleted
    exact ih (deleteRow_others same (apart id List.mem_cons_self) step)
      (fun other mem => apart other (List.mem_cons_of_mem _ mem)) rest

/-! ## Calls keep to the tenant -/

/-- The rows of other tenants are as the transaction found them, and no deletion that is
to come is about them. -/
structure Spares (schema : Schema Data J) (tenantId : Uuid) (foreign : List (Row Data))
    (work : Work Data) : Prop where
  rows : others tenantId work.rows = foreign
  first : others tenantId work.first = foreign
  pending : ∀ id ∈ work.pending, Apart schema id foreign

variable {work : Work Data}

theorem Spares.start (schema : Schema Data J) (tenantId : Uuid) (rows : List (Row Data)) :
    Spares schema tenantId (others tenantId rows) (Work.start rows) :=
  ⟨rfl, rfl, List.forall_mem_nil _⟩

theorem Spares.abandon (spares : Spares schema tenantId foreign work) :
    Spares schema tenantId foreign work.abandon :=
  ⟨spares.first, spares.first, List.forall_mem_nil _⟩

theorem Spares.deleteEntity_own (spares : Spares schema tenantId foreign work)
    {entity : Entity Data} (apart : Apart schema entity.id foreign) :
    deleteEntity entity (work.own tenantId) =
        ((deleteEntity entity work).1, (deleteEntity entity work).2.own tenantId) ∧
      Spares schema tenantId foreign (deleteEntity entity work).2 := by
  have marked : Spares schema tenantId foreign
      { work with pending := work.pending ++ [entity.id] } := by
    refine ⟨spares.rows, spares.first, ?_⟩
    intro id mem
    rcases List.mem_append.mp mem with old | new
    · exact spares.pending id old
    · rw [List.mem_singleton.mp new]
      exact apart
  unfold deleteEntity
  change (if !entity.persistent then _ else if work.broken then _
    else if entity.id ∈ work.pending then _ else _) = _ ∧ _
  split
  · exact ⟨rfl, spares⟩
  split
  · exact ⟨rfl, spares⟩
  split
  · exact ⟨rfl, spares⟩
  · exact ⟨rfl, marked⟩

theorem select_own (model : String) (clause : Row Data → Bool) (rows : List (Row Data)) :
    select tenantId model clause (own tenantId rows) = select tenantId model clause rows := by
  unfold select
  exact congrArg (List.filter _) (own_own rows)

section Runs

variable (permutes : ∀ ids, (order ids).Perm ids)

include permutes

theorem Spares.ordered (spares : Spares schema tenantId foreign work) :
    ∀ id ∈ order work.pending, Apart schema id foreign :=
  fun id mem => spares.pending id ((permutes work.pending).mem_iff.mp mem)

theorem Spares.flush_own (spares : Spares schema tenantId foreign work) :
    (work.own tenantId).flush schema order =
      ((work.flush schema order).1, (work.flush schema order).2.own tenantId) := by
  have deletes := deleteRows_own spares.rows (spares.ordered permutes)
  change deleteRows schema (order (work.own tenantId).pending) (work.own tenantId).rows = _
    at deletes
  unfold Work.flush
  rw [deletes]
  cases deleteRows schema (order work.pending) work.rows with
  | none => rfl
  | some after => rfl

theorem Spares.flush (spares : Spares schema tenantId foreign work) :
    Spares schema tenantId foreign (work.flush schema order).2 := by
  unfold Work.flush
  cases deleted : deleteRows schema (order work.pending) work.rows with
  | none => exact spares.abandon
  | some after =>
    exact ⟨deleteRows_others spares.rows (spares.ordered permutes) deleted, spares.first,
      List.forall_mem_nil _⟩

theorem Spares.query_own {A : Type} (spares : Spares schema tenantId foreign work)
    {read : List (Row Data) → Except Exc A}
    (reads : ∀ rows, read (Repositories.own tenantId rows) = read rows) :
    (work.own tenantId).query schema order read =
      ((work.query schema order read).1, (work.query schema order read).2.own tenantId) := by
  unfold Work.query
  rw [spares.flush_own permutes]
  change (if work.broken then _ else _) = _
  split
  · rfl
  · rcases work.flush schema order with ⟨_ | _, after⟩
    · rfl
    · exact Prod.ext (reads after.rows) rfl

theorem Spares.query {A : Type} (spares : Spares schema tenantId foreign work)
    (read : List (Row Data) → Except Exc A) :
    Spares schema tenantId foreign (work.query schema order read).2 := by
  have after := spares.flush permutes
  unfold Work.query
  split
  · exact spares
  · revert after
    rcases work.flush schema order with ⟨_ | _, after⟩
    · exact id
    · exact id

theorem Spares.commit_own (spares : Spares schema tenantId foreign work) :
    (work.own tenantId).commit schema order =
        ((work.commit schema order).1, own tenantId (work.commit schema order).2) ∧
      others tenantId (work.commit schema order).2 = foreign := by
  unfold Work.commit
  rw [spares.flush_own permutes]
  change (if work.broken then _ else _) = _ ∧ _
  split
  · exact ⟨rfl, spares.first⟩
  · exact ⟨rfl, (spares.flush permutes).rows⟩

variable [DecidableEq J]

theorem Spares.addEntity_own (spares : Spares schema tenantId foreign work)
    {entity : Entity Data} (apart : Apart schema entity.id foreign)
    (distinct : (entity.stamped tenantId).Distinct schema foreign) :
    addEntity schema order tenantId entity (work.own tenantId) =
        ((addEntity schema order tenantId entity work).1,
          (addEntity schema order tenantId entity work).2.own tenantId) ∧
      Spares schema tenantId foreign (addEntity schema order tenantId entity work).2 := by
  have accepted : accepts schema (work.own tenantId).rows (entity.stamped tenantId) =
      accepts schema work.rows (entity.stamped tenantId) :=
    accepts_own spares.rows apart distinct
  have unmarked : Spares schema tenantId foreign
      { work with pending := work.pending.erase entity.id } :=
    ⟨spares.rows, spares.first, fun id mem => spares.pending id (List.mem_of_mem_erase mem)⟩
  have inserted : Spares schema tenantId foreign
      { work with rows := work.rows ++ [entity.stamped tenantId] } := by
    refine ⟨?_, spares.first, spares.pending⟩
    rw [← spares.rows]
    simp [others, Entity.stamped]
  have mine : { work with rows := work.rows ++ [entity.stamped tenantId] }.own tenantId =
      { work.own tenantId with
        rows := (work.own tenantId).rows ++ [entity.stamped tenantId] } := by
    simp [Work.own, own, Entity.stamped]
  unfold addEntity
  rw [accepted, ← mine]
  change (if work.broken then _ else if entity.persistent then
    if entity.id ∈ work.deleted then _ else _ else _) = _ ∧ _
  split
  · exact ⟨rfl, spares⟩
  split
  · split
    · exact ⟨rfl, spares⟩
    · exact ⟨unmarked.query_own permutes fun _ => rfl, unmarked.query permutes _⟩
  split
  · exact ⟨inserted.query_own permutes fun _ => rfl, inserted.query permutes _⟩
  · exact ⟨rfl, spares.abandon⟩

/-- Every call does on the whole database what it does on the tenant's rows alone, and
leaves the rows of other tenants as they are. -/
theorem Spares.run_own (spares : Spares schema tenantId foreign work)
    {call : Call Data} (apart : call.Apart schema tenantId foreign) :
    call.run schema order tenantId (work.own tenantId) =
        ((call.run schema order tenantId work).1,
          (call.run schema order tenantId work).2.own tenantId) ∧
      Spares schema tenantId foreign (call.run schema order tenantId work).2 := by
  have asks : ∀ read : List (Row Data) → Except Exc (Answer Data),
      (∀ rows, read (Repositories.own tenantId rows) = read rows) →
      (work.own tenantId).query schema order read = ((work.query schema order read).1,
          (work.query schema order read).2.own tenantId) ∧
        Spares schema tenantId foreign (work.query schema order read).2 :=
    fun read reads => ⟨spares.query_own permutes reads, spares.query permutes read⟩
  cases call with
  | get model id =>
    simp only [Call.run]
    apply asks
    intro rows
    rw [getRow, select_own, getRow]
  | getOrRaise model id =>
    simp only [Call.run]
    apply asks
    intro rows
    rw [getRow, select_own, getRow]
  | find query page forUpdate =>
    simp only [Call.run]
    apply asks
    intro rows
    rw [Query.run, select_own, Query.run]
  | findPaged query page =>
    simp only [Call.run]
    apply asks
    intro rows
    rw [Query.run, select_own, Query.run]
  | count model clause =>
    simp only [Call.run]
    apply asks
    intro rows
    rw [select_own]
  | add entity =>
    obtain ⟨id, preset, model, data, persistent⟩ := entity
    cases preset with
    | none =>
      obtain ⟨keys, distinct⟩ := apart rfl
      exact spares.addEntity_own permutes keys distinct
    | some preset =>
      unfold Call.run
      by_cases other : preset ≠ tenantId
      · simp only [if_pos other, true_and]
        exact spares
      · simp only [if_neg other]
        obtain ⟨keys, distinct⟩ := apart (decide_eq_true (not_not.mp other))
        exact spares.addEntity_own permutes keys distinct
  | delete entity =>
    unfold Call.run
    by_cases other : entity.tenantId ≠ some tenantId
    · simp only [if_pos other, true_and]
      exact spares
    · simp only [if_neg other]
      exact spares.deleteEntity_own (apart (not_not.mp other))

theorem Spares.runCalls_own (spares : Spares schema tenantId foreign work)
    {calls : List (Call Data)}
    (apart : ∀ call ∈ calls, call.Apart schema tenantId foreign) :
    runCalls schema order tenantId calls (work.own tenantId) =
        ((runCalls schema order tenantId calls work).1,
          (runCalls schema order tenantId calls work).2.own tenantId) ∧
      Spares schema tenantId foreign (runCalls schema order tenantId calls work).2 := by
  induction calls generalizing work with
  | nil => exact ⟨rfl, spares⟩
  | cons call calls ih =>
    obtain ⟨same, kept⟩ := spares.run_own permutes (apart call List.mem_cons_self)
    obtain ⟨rest, final⟩ := ih kept fun other mem => apart other (List.mem_cons_of_mem _ mem)
    unfold runCalls
    rw [same]
    simp only
    rw [rest]
    exact ⟨rfl, final⟩

end Runs

/-! ## Noninterference -/

section Noninterference

variable [DecidableEq J] (schema : Schema Data J) (order : List Uuid → List Uuid)
variable (tenantId : Uuid)

/-- The answers of a transaction, its commit, and the rows it leaves. -/
def transact (calls : List (Call Data)) (rows : List (Row Data)) :
    List (Except Exc (Answer Data)) × Except Exc Unit × List (Row Data) :=
  let (answers, work) := runCalls schema order tenantId calls (Work.start rows)
  (answers, work.commit schema order)

/-- Where no primary key, foreign key or unique index joins the entities of the calls with
rows of other tenants, a transaction of one tenant answers and writes as on that tenant's
rows alone. -/
theorem repository_noninterference (permutes : ∀ ids, (order ids).Perm ids)
    (calls : List (Call Data)) (left right : List (Row Data))
    (agree : own tenantId left = own tenantId right)
    (leftApart : ∀ call ∈ calls, call.Apart schema tenantId (others tenantId left))
    (rightApart : ∀ call ∈ calls, call.Apart schema tenantId (others tenantId right)) :
    (transact schema order tenantId calls left).1 =
        (transact schema order tenantId calls right).1 ∧
      (transact schema order tenantId calls left).2.1 =
        (transact schema order tenantId calls right).2.1 ∧
      own tenantId (transact schema order tenantId calls left).2.2 =
        own tenantId (transact schema order tenantId calls right).2.2 ∧
      others tenantId (transact schema order tenantId calls left).2.2 = others tenantId left ∧
      others tenantId (transact schema order tenantId calls right).2.2 =
        others tenantId right := by
  have alone : ∀ rows : List (Row Data),
      (∀ call ∈ calls, call.Apart schema tenantId (others tenantId rows)) →
      transact schema order tenantId calls (own tenantId rows) =
          ((transact schema order tenantId calls rows).1,
            (transact schema order tenantId calls rows).2.1,
            own tenantId (transact schema order tenantId calls rows).2.2) ∧
        others tenantId (transact schema order tenantId calls rows).2.2 =
          others tenantId rows := by
    intro rows apart
    obtain ⟨same, kept⟩ := (Spares.start schema tenantId rows).runCalls_own permutes apart
    obtain ⟨commits, final⟩ := kept.commit_own permutes
    change runCalls schema order tenantId calls (Work.start (own tenantId rows)) = _ at same
    unfold transact
    rw [same]
    simp only
    rw [commits]
    exact ⟨rfl, final⟩
  obtain ⟨leftSame, leftKept⟩ := alone left leftApart
  obtain ⟨rightSame, rightKept⟩ := alone right rightApart
  rw [agree, rightSame] at leftSame
  obtain ⟨answers, rest⟩ := Prod.mk.inj leftSame
  obtain ⟨commits, mine⟩ := Prod.mk.inj rest
  exact ⟨answers.symm, commits.symm, mine.symm, leftKept, rightKept⟩

end Noninterference

namespace Sample

/-- Invitations with the digests of their tokens. -/
abbrev InvitationRow := Row String

/-- `uq_invitations_token_hash`, an index over all tenants. -/
def invitations : Schema String String where
  uniques := [fun row => if row.model = "Invitation" then some row.data else none]
  foreignKeys := []

def invitation : Entity String := ⟨7, none, "Invitation", "c0ffee", false⟩

def elsewhere : InvitationRow := ⟨9, 2, "Invitation", "c0ffee"⟩

def succeeded {A : Type} : Except Exc A → Bool
  | .ok _ => true
  | .error _ => false

theorem token_index_crosses_tenants :
    own 1 [elsewhere] = own 1 [] ∧
      (transact invitations id 1 [.add invitation] []).1.map succeeded = [true] ∧
      (transact invitations id 1 [.add invitation] [elsewhere]).1.map succeeded = [false] := by
  refine ⟨rfl, ?_, ?_⟩
  · decide +kernel
  · decide +kernel

/-- An invitation of another tenant under another token. -/
def otherInvitation : InvitationRow := ⟨10, 2, "Invitation", "beef"⟩

def invitationCalls : List (Call String) :=
  [.add invitation, .delete ⟨7, some 1, "Invitation", "c0ffee", true⟩, .count "Invitation" fun _ =>
    true, .delete ⟨7, some 1, "Invitation", "c0ffee", true⟩,
    .delete ⟨10, some 2, "Invitation", "beef", true⟩]

theorem invitation_calls_apart {call : Call String} (mem : call ∈ invitationCalls) :
    call.Apart invitations 1 [otherInvitation] := by
  have keys : Repositories.Apart invitations 7 [otherInvitation] := by
    intro row inside
    rw [List.mem_singleton.mp inside]
    exact ⟨by decide, List.forall_mem_nil _⟩
  simp only [invitationCalls, List.mem_cons, List.not_mem_nil, or_false] at mem
  rcases mem with rfl | rfl | rfl | rfl | rfl
  · refine fun _ => ⟨keys, ?_⟩
    intro row inside
    rw [List.mem_singleton.mp inside]
    refine ⟨List.forall_mem_nil _, List.forall_mem_singleton.mpr ?_⟩
    intro value filed
    cases filed
    decide
  · exact fun _ => keys
  · trivial
  · exact fun _ => keys
  · intro mine
    exact absurd mine (by decide)

theorem invitation_calls_stay_inside :
    (transact invitations id 1 invitationCalls []).1 =
      (transact invitations id 1 invitationCalls [otherInvitation]).1 ∧
    others 1 (transact invitations id 1 invitationCalls [otherInvitation]).2.2 =
      [otherInvitation] := by
  have alone : ∀ call ∈ invitationCalls, call.Apart invitations 1 (others 1 []) := by
    intro call mem
    cases call with
    | add entity => exact fun _ => ⟨List.forall_mem_nil _, List.forall_mem_nil _⟩
    | delete entity => exact fun _ => List.forall_mem_nil _
    | get model id => trivial
    | getOrRaise model id => trivial
    | find query page forUpdate => trivial
    | findPaged query page => trivial
    | count model clause => trivial
  have result := repository_noninterference invitations id 1 (fun _ => .refl _) invitationCalls []
    [otherInvitation] rfl alone fun _ mem => invitation_calls_apart mem
  exact ⟨result.1, result.2.2.2.2⟩

end Sample

end BackendCore.Repositories
