import Mathlib

/-!
# Transaction bodies

A transaction body runs on a private copy of the store.  An exception keeps the
copy as it was when the exception was raised, so a handler that catches it and
goes on sees, and may commit, the writes made before the raise.  `commit` is the
unit of work around a body: a body that returns publishes its copy, a body that
raises is rolled back to the store it started from.
-/

set_option autoImplicit false

namespace BackendCore

variable {Err Store α β : Type}

abbrev Tx (Err Store : Type) := EStateM Err Store

namespace Tx

/-- The value a body returned and the store it left, before commit or rollback. -/
abbrev Outcome (Err Store α : Type) := EStateM.Result Err Store α

def commit (body : Tx Err Store α) (store : Store) : Except Err α × Store :=
  match body store with
  | .ok value copy => (.ok value, copy)
  | .error raised _ => (.error raised, store)

def require (condition : Bool) (raised : Err) : Tx Err Store Unit :=
  if condition then pure () else throw raised

/-- A nested transaction: its exception is handed over as a value and its
writes are undone. -/
def savepoint (body : Tx Err Store α) : Tx Err Store (Except Err α) := fun store =>
  match body store with
  | .ok value copy => .ok (.ok value) copy
  | .error raised _ => .ok (.error raised) store

/-- `try`: the exception is handed over as a value and the writes made before
the raise stay. -/
def attempt (body : Tx Err Store α) : Tx Err Store (Except Err α) := fun store =>
  match body store with
  | .ok value copy => .ok (.ok value) copy
  | .error raised copy => .ok (.error raised) copy

def liftExcept (result : Except Err α) : Tx Err Store α :=
  match result with
  | .ok value => pure value
  | .error raised => throw raised

/-! ## Running a body -/

@[simp] theorem pure_run (value : α) (store : Store) :
    (pure value : Tx Err Store α) store = .ok value store := rfl

@[simp] theorem throw_run (raised : Err) (store : Store) :
    (throw raised : Tx Err Store α) store = .error raised store := rfl

@[simp] theorem get_run (store : Store) :
    (get : Tx Err Store Store) store = .ok store store := rfl

@[simp] theorem modify_run (change : Store → Store) (store : Store) :
    (modify change : Tx Err Store Unit) store = .ok () (change store) := rfl

theorem bind_run (body : Tx Err Store α) (next : α → Tx Err Store β) (store : Store) :
    (body >>= next) store =
      match body store with
      | .ok value copy => next value copy
      | .error raised copy => .error raised copy := rfl

theorem bind_ok_iff (body : Tx Err Store α) (next : α → Tx Err Store β)
    (store final : Store) (result : β) :
    (body >>= next) store = .ok result final ↔
      ∃ value copy, body store = .ok value copy ∧ next value copy = .ok result final := by
  rw [bind_run]
  cases body store with
  | ok value copy => simp
  | error raised copy => simp

theorem bind_error_iff (body : Tx Err Store α) (next : α → Tx Err Store β)
    (store final : Store) (raised : Err) :
    (body >>= next) store = .error raised final ↔
      body store = .error raised final ∨
        ∃ value copy, body store = .ok value copy ∧ next value copy = .error raised final := by
  rw [bind_run]
  cases body store with
  | ok value copy => simp
  | error other copy => simp

@[simp] theorem require_true_run (raised : Err) (store : Store) :
    (require true raised : Tx Err Store Unit) store = .ok () store := rfl

@[simp] theorem require_false_run (raised : Err) (store : Store) :
    (require false raised : Tx Err Store Unit) store = .error raised store := rfl

theorem require_ok_iff (condition : Bool) (raised : Err) (store final : Store) (result : Unit) :
    (require condition raised : Tx Err Store Unit) store = .ok result final ↔
      condition = true ∧ final = store := by
  cases condition with
  | true => simp [eq_comm]
  | false => simp

theorem require_error_iff (condition : Bool) (raised other : Err) (store copy : Store) :
    (require condition raised : Tx Err Store Unit) store = .error other copy ↔
      condition = false ∧ other = raised ∧ copy = store := by
  cases condition with
  | true => simp
  | false => simp [eq_comm]

theorem liftExcept_ok_iff (result : Except Err α) (store final : Store) (value : α) :
    (liftExcept result : Tx Err Store α) store = .ok value final ↔
      result = .ok value ∧ final = store := by
  cases result with
  | ok other => simp [liftExcept, eq_comm]
  | error raised => simp [liftExcept]

theorem savepoint_run (body : Tx Err Store α) (store : Store) :
    savepoint body store =
      match body store with
      | .ok value copy => .ok (.ok value) copy
      | .error raised _ => .ok (.error raised) store := rfl

theorem attempt_run (body : Tx Err Store α) (store : Store) :
    attempt body store =
      match body store with
      | .ok value copy => .ok (.ok value) copy
      | .error raised copy => .ok (.error raised) copy := rfl

theorem forM_run {Item : Type} (items : List Item) (body : Item → Tx Err Store Unit)
    (change : Item → Store → Store)
    (runs : ∀ item store, body item store = .ok () (change item store)) (store : Store) :
    (items.forM body : Tx Err Store Unit) store =
      .ok () (items.foldl (fun current item => change item current) store) := by
  induction items generalizing store with
  | nil => rfl
  | cons item rest hypothesis =>
    change (body item >>= fun _ => rest.forM body : Tx Err Store Unit) store = _
    rw [bind_run, runs, List.foldl_cons]
    exact hypothesis (change item store)

/-! ## Commit and rollback -/

theorem commit_of_ok {body : Tx Err Store α} {store copy : Store} {value : α}
    (run : body store = .ok value copy) : commit body store = (.ok value, copy) := by
  simp [commit, run]

theorem commit_of_error {body : Tx Err Store α} {store copy : Store} {raised : Err}
    (run : body store = .error raised copy) : commit body store = (.error raised, store) := by
  simp [commit, run]

theorem commit_cases (body : Tx Err Store α) (store : Store) :
    (∃ value copy, body store = .ok value copy ∧ commit body store = (.ok value, copy)) ∨
      (∃ raised, commit body store = (.error raised, store)) := by
  cases run : body store with
  | ok value copy => exact Or.inl ⟨value, copy, rfl, commit_of_ok run⟩
  | error raised copy => exact Or.inr ⟨raised, commit_of_error run⟩

end Tx

end BackendCore
